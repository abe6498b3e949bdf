import Mathlib.Tactic

/-!
# Ledgers of outstanding requests

A party that sends requests remembers each in a slot until it is answered, gives up on it, or needs
the slot for another request. A ledger lists in order what happened to the slots: a request was
opened in a slot, or what was open in a slot ended, for some reason. A ledger is honest when
something ends only in a slot where something is open and for a reason that fits it; opening a
request in a slot that is taken gives up on what was there.

In an honest ledger every ending belongs to one request, the last thing that happened to its slot
before, and no request has two endings. So a system whose slots are described by an honest ledger
answers each request at most once, and only with answers that fit it.

## Main definitions

* `LedgerEntry`, `LedgerEntry.apply` — what happens to a slot, and what is open afterwards
* `Honest` — the ledgers that lead from one table of open requests to another

## Main results

* `Honest.append` — ledgers of consecutive stretches of a run compose
* `Honest.opened_of_ended` — the request an ending belongs to
* `Honest.exists_matching` — the endings are matched with distinct earlier requests
* `Honest.strengthen` — the endings of what was open at the start
* `Honest.exists_of_closes` — slots that have become free, each for a reason, have an honest ledger
-/

/-- Something that happens to a slot. -/
inductive LedgerEntry (σ ρ ε : Type) where
  | opened (slot : σ) (request : ρ)
  | ended (slot : σ) (reason : ε)

namespace LedgerEntry

variable {σ ρ ε : Type}

/-- The slot it happens to. -/
def slot : LedgerEntry σ ρ ε → σ
  | opened s _ => s
  | ended s _ => s

/-- Nothing ends unless something is open for it. -/
def Allowed (Fits : σ → ρ → ε → Prop) (table : σ → Option ρ) : LedgerEntry σ ρ ε → Prop
  | opened _ _ => True
  | ended s reason => ∃ r, table s = some r ∧ Fits s r reason

variable [DecidableEq σ]

/-- The open requests afterwards. -/
def apply (table : σ → Option ρ) : LedgerEntry σ ρ ε → σ → Option ρ
  | opened s r => Function.update table s (some r)
  | ended s _ => Function.update table s none

theorem apply_of_ne {table : σ → Option ρ} {x : LedgerEntry σ ρ ε} {s : σ} (h : x.slot ≠ s) :
    x.apply table s = table s := by
  cases x with
  | opened s' r => exact Function.update_of_ne (Ne.symm h) ..
  | ended s' reason => exact Function.update_of_ne (Ne.symm h) ..

/-- What is open in the entry's slot afterwards was opened by the entry. -/
theorem eq_opened {table : σ → Option ρ} {x : LedgerEntry σ ρ ε} {r : ρ}
    (h : x.apply table x.slot = some r) : x = .opened x.slot r := by
  cases x with
  | opened s r' =>
    rw [apply, slot, Function.update_self] at h
    rw [Option.some.inj h, slot]
  | ended s reason => simp [apply, slot] at h

end LedgerEntry

section

variable {σ ρ ε : Type} [DecidableEq σ] {Fits : σ → ρ → ε → Prop}

/-- The ledgers that lead from the open requests in the first table to those in the second. -/
inductive Honest (Fits : σ → ρ → ε → Prop) (t : σ → Option ρ) :
    List (LedgerEntry σ ρ ε) → (σ → Option ρ) → Prop where
  | nil : Honest Fits t [] t
  | snoc {l t'} (h : Honest Fits t l t') (x : LedgerEntry σ ρ ε) (hx : x.Allowed Fits t') :
      Honest Fits t (l ++ [x]) (x.apply t')

namespace Honest

variable {t t' t'' : σ → Option ρ} {l l' : List (LedgerEntry σ ρ ε)}

/-- One entry. -/
theorem single (x : LedgerEntry σ ρ ε) (hx : x.Allowed Fits t) : Honest Fits t [x] (x.apply t) :=
  Honest.snoc .nil x hx

/-- Ledgers of consecutive stretches of a run compose. -/
theorem append (h : Honest Fits t l t') (h' : Honest Fits t' l' t'') :
    Honest Fits t (l ++ l') t'' := by
  induction h' with
  | nil => simpa using h
  | snoc _ x hx ih => simpa using ih.snoc x hx

/-- The entries say what is open afterwards. -/
theorem eq_foldl (h : Honest Fits t l t') : t' = l.foldl (fun t x => x.apply t) t := by
  induction h with
  | nil => rfl
  | snoc _ x _ ih => rw [List.foldl_append, ← ih, List.foldl_cons, List.foldl_nil]

/-- Other reasons may fit. -/
theorem imp {Fits' : σ → ρ → ε → Prop} (h : Honest Fits t l t')
    (himp : ∀ s reason, .ended s reason ∈ l → ∀ r, Fits s r reason → Fits' s r reason) :
    Honest Fits' t l t' := by
  induction h with
  | nil => exact .nil
  | @snoc l t' h x hx ih =>
    refine (ih fun s reason hmem => himp s reason (List.mem_append_left _ hmem)).snoc x ?_
    cases x with
    | opened => trivial
    | ended s reason =>
      obtain ⟨r, hopen, hfits⟩ := hx
      exact ⟨r, hopen, himp s reason (by simp) r hfits⟩

/-- What is open now was open at the start and nothing happened to its slot, or its opening is the
last thing that happened to its slot. -/
theorem of_table_eq_some (h : Honest Fits t l t') {s : σ} {r : ρ} (hopen : t' s = some r) :
    (t s = some r ∧ ∀ x ∈ l, x.slot ≠ s) ∨
      ∃ a b, l = a ++ .opened s r :: b ∧ ∀ x ∈ b, x.slot ≠ s := by
  induction h with
  | nil => exact .inl ⟨hopen, by simp⟩
  | @snoc l t' h x hx ih =>
    by_cases hs : x.slot = s
    · subst hs
      rw [LedgerEntry.eq_opened hopen]
      exact .inr ⟨l, [], rfl, by simp⟩
    · rw [LedgerEntry.apply_of_ne hs] at hopen
      rcases ih hopen with ⟨h₁, h₂⟩ | ⟨a, b, rfl, hb⟩
      · refine .inl ⟨h₁, List.forall_mem_append.mpr ⟨h₂, by simpa using hs⟩⟩
      · refine .inr ⟨a, b ++ [x], by simp, List.forall_mem_append.mpr ⟨hb, by simpa using hs⟩⟩

/-- What comes before an ending has the request open, and the reason fits it. -/
theorem before_ended {a b : List (LedgerEntry σ ρ ε)} {s : σ} {reason : ε}
    (h : Honest Fits t (a ++ .ended s reason :: b) t') :
    ∃ t₁ r, Honest Fits t a t₁ ∧ t₁ s = some r ∧ Fits s r reason := by
  generalize hl : a ++ .ended s reason :: b = l at h
  induction h generalizing b with
  | nil => simp at hl
  | @snoc l t' h x hx ih =>
    rcases List.eq_nil_or_concat b with rfl | ⟨b, y, rfl⟩
    · obtain ⟨rfl, hx'⟩ := List.append_inj' hl rfl
      obtain rfl := (List.cons.inj hx').1
      obtain ⟨r, hopen, hfits⟩ := hx
      exact ⟨_, r, h, hopen, hfits⟩
    · rw [List.concat_eq_append, ← List.cons_append, ← List.append_assoc] at hl
      exact ih (List.append_inj' hl rfl).1

/-- An ending belongs to the request whose opening is the last thing that happened to its slot
before. -/
theorem opened_of_ended {a b : List (LedgerEntry σ ρ ε)} {s : σ} {reason : ε}
    (h : Honest Fits (fun _ => none) (a ++ .ended s reason :: b) t') :
    ∃ a₁ r a₂, a = a₁ ++ .opened s r :: a₂ ∧ Fits s r reason ∧ ∀ x ∈ a₂, x.slot ≠ s := by
  obtain ⟨t₁, r, h₁, hopen, hfits⟩ := h.before_ended
  rcases h₁.of_table_eq_some hopen with ⟨hnone, -⟩ | ⟨a₁, a₂, rfl, ha₂⟩
  · exact absurd hnone (by simp)
  · exact ⟨a₁, r, a₂, rfl, hfits, ha₂⟩

/-- The endings of a ledger are matched with distinct earlier openings, of requests they fit, and
nothing happens to the slot in between. -/
theorem exists_matching (h : Honest Fits (fun _ => none) l t') :
    ∃ m : ℕ → ℕ,
      (∀ (j : ℕ) (s : σ) (reason : ε), l[j]? = some (.ended s reason) → m j < j ∧
        (∃ r, l[m j]? = some (.opened s r) ∧ Fits s r reason) ∧
        ∀ k x, m j < k → k < j → l[k]? = some x → x.slot ≠ s) ∧
      ∀ (i j : ℕ) (s s' : σ) (reason reason' : ε), l[i]? = some (.ended s reason) →
        l[j]? = some (.ended s' reason') → m i = m j → i = j := by
  classical
  have hmatch : ∀ j : ℕ, ∃ i : ℕ, ∀ (s : σ) (reason : ε), l[j]? = some (.ended s reason) → i < j ∧
      (∃ r, l[i]? = some (.opened s r) ∧ Fits s r reason) ∧
        ∀ k (x : LedgerEntry σ ρ ε), i < k → k < j → l[k]? = some x → x.slot ≠ s := by
    intro j
    by_cases hj : ∃ s reason, l[j]? = some (.ended s reason)
    · obtain ⟨s, reason, hj⟩ := hj
      obtain ⟨hlt, hget⟩ := List.getElem?_eq_some_iff.mp hj
      have hsplit : l = l.take j ++ .ended s reason :: l.drop (j + 1) := by
        rw [← hget, List.getElem_cons_drop hlt, List.take_append_drop]
      rw [hsplit] at h
      obtain ⟨a₁, r, a₂, ha, hfits, hbetween⟩ := h.opened_of_ended
      have hlen : a₁.length + (a₂.length + 1) = j := by
        have := congrArg List.length ha
        rw [List.length_take, Nat.min_eq_left hlt.le] at this
        simpa using this.symm
      have hbefore : ∀ k, k < j → l[k]? = (a₁ ++ .opened s r :: a₂)[k]? := by
        intro k hk
        rw [← ha, List.getElem?_take_of_lt hk]
      refine ⟨a₁.length, fun s' reason' hj' => ?_⟩
      obtain ⟨rfl, rfl⟩ : s = s' ∧ reason = reason' := by
        rw [hj] at hj'
        simpa using hj'
      refine ⟨by omega, ⟨r, by rw [hbefore _ (by omega)]; simp, hfits⟩, fun k x hik hkj hk => ?_⟩
      rw [hbefore k hkj, List.getElem?_append_right hik.le] at hk
      obtain ⟨n, hn⟩ : ∃ n, k - a₁.length = n + 1 := ⟨k - a₁.length - 1, by omega⟩
      rw [hn, List.getElem?_cons_succ] at hk
      exact hbetween x (List.mem_of_getElem? hk)
    · exact ⟨0, fun s reason h => absurd ⟨s, reason, h⟩ hj⟩
  choose m hm using hmatch
  refine ⟨m, fun j s reason hj => hm j s reason hj, ?_⟩
  -- Of two endings of one opening, the earlier would stand between the opening and the later.
  have hle : ∀ (i j : ℕ) (s s' : σ) (reason reason' : ε), l[i]? = some (.ended s reason) →
      l[j]? = some (.ended s' reason') → m i = m j → ¬i < j := by
    intro i j s s' reason reason' hi hj hij hlt
    obtain ⟨hmi, ⟨r, hr, -⟩, -⟩ := hm i s reason hi
    obtain ⟨-, ⟨r', hr', -⟩, hbetween⟩ := hm j s' reason' hj
    have hslot : s = s' := by
      rw [hij, hr'] at hr
      simp only [Option.some.injEq, LedgerEntry.opened.injEq] at hr
      exact hr.1.symm
    exact hbetween i _ (hij ▸ hmi) hlt hi hslot
  intro i j s s' reason reason' hi hj hij
  rcases Nat.lt_trichotomy i j with hlt | heq | hlt
  · exact absurd hlt (hle i j s s' reason reason' hi hj hij)
  · exact heq
  · exact absurd hlt (hle j i s' s reason' reason hj hi hij.symm)

/-- When nothing is opened, what ends was open at the start. -/
theorem open_of_ended {s : σ} {reason : ε} (h : Honest Fits t l t')
    (hends : ∀ x ∈ l, ∃ s reason, x = .ended s reason) (hmem : .ended s reason ∈ l) :
    ∃ r, t s = some r ∧ Fits s r reason := by
  obtain ⟨a, b, rfl⟩ := List.append_of_mem hmem
  obtain ⟨t₁, r, h₁, hopen, hfits⟩ := h.before_ended
  rcases h₁.of_table_eq_some hopen with ⟨hstart, -⟩ | ⟨a₁, a₂, rfl, -⟩
  · exact ⟨r, hstart, hfits⟩
  · obtain ⟨_, _, hx⟩ := hends (.opened s r) (by simp)
    cases hx

/-- When nothing is opened, the endings fit better if they do so for what was open at the start. -/
theorem strengthen {Fits' : σ → ρ → ε → Prop} (h : Honest Fits t l t')
    (hends : ∀ x ∈ l, ∃ s reason, x = .ended s reason ∧
      ∀ r, t s = some r → Fits s r reason → Fits' s r reason) : Honest Fits' t l t' := by
  induction h with
  | nil => exact .nil
  | @snoc l t' h x hx ih =>
    obtain ⟨hl, hlast⟩ := List.forall_mem_append.mp hends
    refine (ih hl).snoc x ?_
    obtain ⟨s, reason, rfl, hstrong⟩ := hlast x (List.mem_singleton_self x)
    obtain ⟨r, hopen, hfits⟩ := hx
    rcases h.of_table_eq_some hopen with ⟨hstart, -⟩ | ⟨a₁, a₂, rfl, -⟩
    · exact ⟨r, hopen, hstrong r hstart hfits⟩
    · obtain ⟨_, _, hx, -⟩ := hl (.opened s r) (by simp)
      cases hx

/-- A table in which some slots of a list have become free, each for some reason. -/
theorem exists_of_closes {P : ε → Prop} (slots : List σ)
    (hcloses : ∀ s, t' s = t s ∨ t' s = none ∧ s ∈ slots ∧
      ∀ r, t s = some r → ∃ reason, P reason ∧ Fits s r reason) :
    ∃ l, Honest Fits t l t' ∧ ∀ x ∈ l, ∃ s reason, x = .ended s reason ∧ P reason := by
  induction slots generalizing t with
  | nil =>
    obtain rfl : t' = t := funext fun s => (hcloses s).resolve_right (by simp)
    exact ⟨[], .nil, by simp⟩
  | cons s slots ih =>
    by_cases hsame : t' s = t s
    · refine ih fun s' => ?_
      by_cases he : s' = s
      · exact .inl (he ▸ hsame)
      · exact (hcloses s').imp_right fun ⟨hnone, hmem, hreason⟩ =>
          ⟨hnone, (List.mem_cons.mp hmem).resolve_left he, hreason⟩
    · obtain ⟨hnone, -, hreason⟩ := (hcloses s).resolve_left hsame
      obtain ⟨r, hr⟩ := Option.ne_none_iff_exists'.mp fun h => hsame (hnone.trans h.symm)
      obtain ⟨reason, hP, hfits⟩ := hreason r hr
      let x : LedgerEntry σ ρ ε := .ended s reason
      have hself : x.apply t s = none := Function.update_self ..
      obtain ⟨l, hl, hall⟩ := @ih (x.apply t) fun s' => by
        by_cases he : s' = s
        · exact .inl (he ▸ hnone.trans hself.symm)
        · rw [LedgerEntry.apply_of_ne (Ne.symm he)]
          exact (hcloses s').imp_right fun ⟨hnone, hmem, hreason⟩ =>
            ⟨hnone, (List.mem_cons.mp hmem).resolve_left he, hreason⟩
      exact ⟨x :: l, (Honest.single x ⟨r, hr, hfits⟩).append hl,
        List.forall_mem_cons.mpr ⟨⟨s, reason, rfl, hP⟩, hall⟩⟩

end Honest

end
