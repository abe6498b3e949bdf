import Mathlib.Tactic

/-!
# A resource that one holder has at a time

A resource is taken by a holder, and given back by it, for some reason. A history of such turns is
exclusive when the resource is only taken while nobody has it, and only given back by the holder
that has it.

In an exclusive history every turn at which the resource is taken is followed at once by the one at
which the same holder gives it back, or is the last one; and every turn at which it is given back
follows the one at which it was taken. So each holder gives it back exactly once for each time it
took it.

## Main definitions

* `Turn` — what happens to the resource
* `Exclusive` — the histories in which one holder has it at a time

## Main results

* `Exclusive.append`, `Exclusive.of_append` — histories of consecutive stretches
* `Exclusive.given_of_taken`, `Exclusive.taken_of_given` — what follows, and what comes before
-/

/-- Something that happens to the resource. -/
inductive Turn (ι ε : Type) where
  | taken (holder : ι)
  | given (holder : ι) (reason : ε)

/-- The histories that lead from one holder to another, with one holder at a time. -/
inductive Exclusive {ι ε : Type} : Option ι → List (Turn ι ε) → Option ι → Prop where
  | nil (a : Option ι) : Exclusive a [] a
  | taken {i l c} (h : Exclusive (some i) l c) : Exclusive none (.taken i :: l) c
  | given {i reason l c} (h : Exclusive none l c) : Exclusive (some i) (.given i reason :: l) c

namespace Exclusive

variable {ι ε : Type} {a b c : Option ι} {l l' : List (Turn ι ε)}

theorem append (h : Exclusive a l b) (h' : Exclusive b l' c) : Exclusive a (l ++ l') c := by
  induction h with
  | nil => exact h'
  | taken _ ih => exact (ih h').taken
  | given _ ih => exact (ih h').given

/-- A history can be cut anywhere. -/
theorem of_append (h : Exclusive a (l ++ l') c) : ∃ b, Exclusive a l b ∧ Exclusive b l' c := by
  induction l generalizing a with
  | nil => exact ⟨a, .nil a, h⟩
  | cons x l ih =>
    rw [List.cons_append] at h
    cases h with
    | taken h =>
      obtain ⟨b, hl, hl'⟩ := ih h
      exact ⟨b, hl.taken, hl'⟩
    | given h =>
      obtain ⟨b, hl, hl'⟩ := ih h
      exact ⟨b, hl.given, hl'⟩

/-- Who takes the resource gives it back next, or has it at the end. -/
theorem given_of_taken {i : ι} (h : Exclusive a (l ++ .taken i :: l') c) :
    (l' = [] ∧ c = some i) ∨ ∃ reason l'', l' = .given i reason :: l'' := by
  obtain ⟨_, -, h⟩ := h.of_append
  obtain @⟨⟩ | ⟨h⟩ := h
  cases h with
  | nil => exact .inl ⟨rfl, rfl⟩
  | given => exact .inr ⟨_, _, rfl⟩

/-- Who gives the resource back has just taken it, or had it at the start. -/
theorem taken_of_given {i : ι} {reason : ε} (h : Exclusive a (l ++ .given i reason :: l') c) :
    (l = [] ∧ a = some i) ∨ ∃ l'', l = l'' ++ [.taken i] := by
  induction l generalizing a with
  | nil => cases h with
    | given => exact .inl ⟨rfl, rfl⟩
  | cons x l ih =>
    rw [List.cons_append] at h
    cases h with
    | taken h =>
      rcases ih h with ⟨rfl, hi⟩ | ⟨l'', rfl⟩
      · obtain rfl := Option.some.inj hi
        exact .inr ⟨[], rfl⟩
      · exact .inr ⟨_ :: l'', rfl⟩
    | given h =>
      rcases ih h with ⟨-, hi⟩ | ⟨l'', rfl⟩
      · simp at hi
      · exact .inr ⟨_ :: l'', rfl⟩

end Exclusive
