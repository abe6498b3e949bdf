import Mathlib.Data.List.Pairwise
import Mathlib.Order.Basic
import Mathlib.Tactic

/-!
# Queues that hand out the most urgent entry, and of these the oldest

A queue of bounded size takes entries of an arbitrary type. At a time, some entries are due; what is
handed out is the one that is due and comes first by its priority and then by the order in which the
entries were added. To say so, every entry is numbered when it is added, and the number stays with
it.

An implementation answers a list of calls. It is one of such a queue when every call from a state
that stands for some numbered entries gives an answer of the queue and a state that stands for the
entries after it; `QueueRun.of_step` carries this from one call to all of them.

## Main definitions

* `QueueCall`, `QueueAnswer` — what is asked of a queue and what it says
* `IsNext` — the entry to hand out
* `QueueStep`, `QueueRun` — one call, and a list of calls, with the entries before and after

## Main results

* `IsNext.of_split` — in a list in order of arrival it is enough to look before and after
* `QueueStep.sorted` — the entries stay in order of arrival
* `QueueRun.of_step`
-/

/-- What a queue is asked, for entries `α` at times `τ`. -/
inductive QueueCall (α τ : Type) where
  | add (a : α)
  | get (now : τ)
  | removeByIdx (i : ℤ)
deriving DecidableEq

/-- What it says: whether it took an entry, or the entry it gave. -/
inductive QueueAnswer (β : Type) where
  | added (ok : Bool)
  | gave (b : Option β)
deriving DecidableEq

namespace QueueAnswer

def map {α β : Type} (f : α → β) : QueueAnswer α → QueueAnswer β
  | added ok => added ok
  | gave a => gave (a.map f)

/-- The call was turned down. -/
def Refuses {β : Type} : QueueAnswer β → Prop
  | added ok => ok = false
  | gave b => b = none

end QueueAnswer

/-- The entries of a queue, with their numbers, and how many entries it was given so far. -/
structure Arrivals (α : Type) where
  count : ℕ
  waiting : List (ℕ × α)

namespace Arrivals

variable {α : Type}

def empty : Arrivals α := ⟨0, []⟩

/-- The entries are in the order in which they were added. -/
structure Sorted (s : Arrivals α) : Prop where
  lt_count : ∀ x ∈ s.waiting, x.1 < s.count
  pairwise : s.waiting.Pairwise fun x y => x.1 < y.1

theorem sorted_empty : (empty : Arrivals α).Sorted := ⟨fun _ h => absurd h List.not_mem_nil, .nil⟩

theorem Sorted.add {s : Arrivals α} (h : s.Sorted) (a : α) :
    (⟨s.count + 1, s.waiting ++ [(s.count, a)]⟩ : Arrivals α).Sorted where
  lt_count := by
    intro x hx
    rcases List.mem_append.mp hx with hold | hnew
    · exact Nat.lt_succ_of_lt (h.lt_count x hold)
    · rw [List.mem_singleton.mp hnew]
      exact Nat.lt_succ_self _
  pairwise := by
    refine List.pairwise_append.mpr ⟨h.pairwise, List.pairwise_singleton _ _, ?_⟩
    intro x hx y hy
    rw [List.mem_singleton.mp hy]
    exact h.lt_count x hx

theorem Sorted.remove {n : ℕ} {l r : List (ℕ × α)} {x : ℕ × α}
    (h : (⟨n, l ++ x :: r⟩ : Arrivals α).Sorted) : (⟨n, l ++ r⟩ : Arrivals α).Sorted := by
  have hsub : (l ++ r).Sublist (l ++ x :: r) := .append_left (List.sublist_cons_self ..) l
  exact ⟨fun y hy => h.lt_count y (hsub.subset hy), h.pairwise.sublist hsub⟩

end Arrivals

section

variable {α β τ ι : Type} [LinearOrder ι] (due : τ → α → Prop) (priority : α → ι) (capacity : ℕ)

/-- Among the entries that are due, `x` is the first by priority, and then by number. -/
structure IsNext (now : τ) (waiting : List (ℕ × α)) (x : ℕ × α) : Prop where
  mem : x ∈ waiting
  isDue : due now x.2
  first : ∀ y ∈ waiting, due now y.2 →
    priority x.2 < priority y.2 ∨ priority x.2 = priority y.2 ∧ x.1 ≤ y.1

/-- One call: the entries before it, what the queue says, and the entries after it. -/
inductive QueueStep : Arrivals α → QueueCall α τ → QueueAnswer α → Arrivals α → Prop
  | added {s : Arrivals α} {a : α} (h : s.waiting.length < capacity) :
    QueueStep s (.add a) (.added true) ⟨s.count + 1, s.waiting ++ [(s.count, a)]⟩
  | full {s : Arrivals α} {a : α} (h : capacity ≤ s.waiting.length) :
    QueueStep s (.add a) (.added false) s
  | got {n : ℕ} {l r : List (ℕ × α)} {x : ℕ × α} {now : τ}
    (h : IsNext due priority now (l ++ x :: r) x) :
    QueueStep ⟨n, l ++ x :: r⟩ (.get now) (.gave (some x.2)) ⟨n, l ++ r⟩
  | nothing {s : Arrivals α} {now : τ} (h : ∀ x ∈ s.waiting, ¬due now x.2) :
    QueueStep s (.get now) (.gave none) s
  | removed {n : ℕ} {l r : List (ℕ × α)} {x : ℕ × α} :
    QueueStep ⟨n, l ++ x :: r⟩ (.removeByIdx l.length) (.gave (some x.2)) ⟨n, l ++ r⟩
  | outOfRange {s : Arrivals α} {i : ℤ} (h : i < 0 ∨ (s.waiting.length : ℤ) ≤ i) :
    QueueStep s (.removeByIdx i) (.gave none) s

/-- A list of calls with what the queue says to each. -/
inductive QueueRun :
    Arrivals α → List (QueueCall α τ × QueueAnswer α) → Arrivals α → Prop
  | nil {s : Arrivals α} : QueueRun s [] s
  | cons {s s' s'' : Arrivals α} {call : QueueCall α τ} {answer : QueueAnswer α}
    {log : List (QueueCall α τ × QueueAnswer α)}
    (h : QueueStep due priority capacity s call answer s') (ht : QueueRun s' log s'') :
    QueueRun s ((call, answer) :: log) s''

variable {due : τ → α → Prop} {priority : α → ι} {capacity : ℕ}

/-- In order of arrival, the entry to hand out comes strictly before those in front of it, and those
behind it do not come strictly before it. -/
theorem IsNext.of_split {n : ℕ} {l r : List (ℕ × α)} {x : ℕ × α} {now : τ}
    (hsorted : (⟨n, l ++ x :: r⟩ : Arrivals α).Sorted) (hdue : due now x.2)
    (hbefore : ∀ y ∈ l, due now y.2 → priority x.2 < priority y.2)
    (hafter : ∀ y ∈ r, due now y.2 → priority x.2 ≤ priority y.2) :
    IsNext due priority now (l ++ x :: r) x where
  mem := List.mem_append_right _ (List.mem_cons_self ..)
  isDue := hdue
  first := by
    intro y hy hydue
    have hlater : ∀ z ∈ r, x.1 < z.1 := fun z hz =>
      List.rel_of_pairwise_cons (List.pairwise_append.mp hsorted.pairwise).2.1 hz
    rcases List.mem_append.mp hy with hl | hr
    · exact .inl (hbefore y hl hydue)
    · rcases List.mem_cons.mp hr with rfl | hr
      · exact .inr ⟨rfl, le_rfl⟩
      · rcases (hafter y hr hydue).lt_or_eq with hlt | heq
        · exact .inl hlt
        · exact .inr ⟨heq, (hlater y hr).le⟩

/-- The entries stay in order of arrival. -/
theorem QueueStep.sorted {s s' : Arrivals α} {call : QueueCall α τ} {answer : QueueAnswer α}
    (h : QueueStep due priority capacity s call answer s') (hs : s.Sorted) : s'.Sorted := by
  cases h with
  | added => exact hs.add _
  | got => exact hs.remove
  | removed => exact hs.remove
  | full | nothing | outOfRange => exact hs

/-- What an implementation says to a list of calls, and the state it ends with. -/
def runCalls {S C A : Type} (step : S → C → A × S) : S → List C → List A × S
  | s, [] => ([], s)
  | s, c :: cs =>
    let here := step s c
    let rest := runCalls step here.2 cs
    (here.1 :: rest.1, rest.2)

/-- An implementation whose every step is one of the queue is a queue over all its runs. -/
theorem QueueRun.of_step {S : Type} {step : S → QueueCall α τ → QueueAnswer β × S} {out : α → β}
    {stands : S → Arrivals α → Prop} {fits : QueueCall α τ → Prop}
    (hstep : ∀ c s call, stands c s → fits call → ∃ answer s',
      QueueStep due priority capacity s call answer s' ∧ (step c call).1 = answer.map out ∧
        stands (step c call).2 s')
    {c : S} {s : Arrivals α} (hstands : stands c s) {calls : List (QueueCall α τ)}
    (hfits : ∀ call ∈ calls, fits call) :
    ∃ log s', QueueRun due priority capacity s log s' ∧ log.map Prod.fst = calls ∧
      log.map (·.2.map out) = (runCalls step c calls).1 ∧ stands (runCalls step c calls).2 s' := by
  induction calls generalizing c s with
  | nil => exact ⟨[], s, .nil, rfl, rfl, hstands⟩
  | cons call calls ih =>
    obtain ⟨hcall, hrest⟩ := List.forall_mem_cons.mp hfits
    obtain ⟨answer, s₁, hone, hanswer, hstands₁⟩ := hstep c s call hstands hcall
    obtain ⟨log, s₂, hrun, hcalls, hanswers, hstands₂⟩ := ih hstands₁ hrest
    refine ⟨(call, answer) :: log, s₂, .cons hone hrun, ?_, ?_, hstands₂⟩
    · rw [List.map_cons, hcalls]
    · rw [List.map_cons, hanswers, runCalls, hanswer]

end
