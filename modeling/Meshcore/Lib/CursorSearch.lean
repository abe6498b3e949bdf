import Meshcore.Lib.Prog

/-!
# Searching a table through a cursor

A table is offered entry by entry: `next cursor` answers the next entry from the slot `cursor` on,
with its slot, and the search goes on behind that slot until a test accepts an entry. The answers
may depend on the state, and asking may change it.

`Ends` is the search as a loop without a bound: which entries were refused, what was found, and the
state after. `run` is the same with a bound on the entries, as a program. When every entry that is
offered lies from the cursor on and below a fixed slot, the loop ends, and the bound plays no part.

## Main definitions

* `CursorSearch.Ends` — the loop, with what it went through
* `CursorSearch.run` — the loop with a bound

## Main results

* `CursorSearch.Ends.run_eq` — with a bound that is large enough it is the same
* `CursorSearch.exists_ends` — over a finite table the loop ends, and goes through it upwards
-/

namespace CursorSearch

variable {ρ σ α β : Type} (next : ℕ → Prog ρ σ (Option (ℕ × α)))
  (test : ℕ × α → Prog ρ σ (Option β))

/-- The search among the first `n` entries from the slot `cursor` on. -/
def run : (n cursor : ℕ) → Prog ρ σ (Option ((ℕ × α) × β))
  | 0, _ => pure none
  | n + 1, cursor => do
    let entry ← next cursor
    entry.elim (pure none) fun entry => do
      let accepted ← test entry
      accepted.elim (run n (entry.1 + 1)) fun b => pure (some (entry, b))

/-- From the slot `cursor` on and the state `s`, the search refuses the entries `refused`, in this
order, and ends with what it found. -/
inductive Ends (r : ρ) :
    (cursor : ℕ) → (s : σ) → (refused : List (ℕ × α)) → Option ((ℕ × α) × β) → σ → Prop where
  | exhausted {cursor s s'} (h : next cursor r s = (none, s')) : Ends r cursor s [] none s'
  | found {cursor s s₁ s' entry b} (h : next cursor r s = (some entry, s₁))
      (htest : test entry r s₁ = (some b, s')) : Ends r cursor s [] (some (entry, b)) s'
  | refused {cursor s s₁ s₂ s' entry refused found} (h : next cursor r s = (some entry, s₁))
      (htest : test entry r s₁ = (none, s₂)) (hrest : Ends r (entry.1 + 1) s₂ refused found s') :
      Ends r cursor s (entry :: refused) found s'

variable {next test} {r : ρ} {cursor : ℕ} {s s' : σ} {refused : List (ℕ × α)}
  {found : Option ((ℕ × α) × β)}

/-- A bound above the number of entries that are refused changes nothing. -/
theorem Ends.run_eq (h : Ends next test r cursor s refused found s') {n : ℕ}
    (hn : refused.length < n) : run next test n cursor r s = (found, s') := by
  induction h generalizing n with
  | exhausted h =>
    obtain ⟨m, rfl⟩ : ∃ m, n = m + 1 := ⟨n - 1, by omega⟩
    rw [run, Prog.run_bind_of h]
    rfl
  | found h htest =>
    obtain ⟨m, rfl⟩ : ∃ m, n = m + 1 := ⟨n - 1, by omega⟩
    rw [run, Prog.run_bind_of h, Option.elim_some, Prog.run_bind_of htest]
    rfl
  | @refused cursor s s₁ s₂ s' entry refused found h htest _ ih =>
    rw [List.length_cons] at hn
    obtain ⟨m, rfl⟩ : ∃ m, n = m + 1 := ⟨n - 1, by omega⟩
    rw [run, Prog.run_bind_of h, Option.elim_some, Prog.run_bind_of htest, Option.elim_none]
    exact ih (by omega)

/-- The slots a search went through, the one where it found something last. -/
def slots (refused : List (ℕ × α)) (found : Option ((ℕ × α) × β)) : List ℕ :=
  (refused ++ (found.map Prod.fst).toList).map Prod.fst

/-- In states that satisfy `Inv`, which asking and testing keep, every entry that is offered lies
from the cursor on and below the slot `bound`. -/
structure Bounded (next : ℕ → Prog ρ σ (Option (ℕ × α)))
    (test : ℕ × α → Prog ρ σ (Option β)) (r : ρ) (Inv : σ → Prop) (bound : ℕ) : Prop where
  asked : ∀ cursor s, Inv s → Inv (next cursor r s).2
  tested : ∀ entry s, Inv s → Inv (test entry r s).2
  slot : ∀ cursor s entry, Inv s → (next cursor r s).1 = some entry →
    cursor ≤ entry.1 ∧ entry.1 < bound

/-- The search through a finite table ends: it refuses no more entries than there are slots, and
goes upwards through them. -/
theorem exists_ends {Inv : σ → Prop} {bound : ℕ} (hb : Bounded next test r Inv bound) (cursor : ℕ)
    {s : σ} (hs : Inv s) :
    ∃ refused found s', Ends next test r cursor s refused found s' ∧ Inv s' ∧
      refused.length ≤ bound - cursor ∧ (slots refused found).Pairwise (· < ·) ∧
      ∀ slot ∈ slots refused found, cursor ≤ slot := by
  -- the slots that are left become fewer with every entry
  induction hleft : bound - cursor using Nat.strong_induction_on generalizing cursor s with
  | _ left ih =>
    have hasked := hb.asked cursor s hs
    cases hnext : next cursor r s with
    | mk answer s₁ =>
    rw [hnext] at hasked
    cases answer with
    | none =>
      exact ⟨[], none, s₁, .exhausted hnext, hasked, Nat.zero_le _, .nil, fun _ h => nomatch h⟩
    | some entry =>
      obtain ⟨hge, hlt⟩ := hb.slot cursor s entry hs (congrArg Prod.fst hnext)
      have htested := hb.tested entry s₁ hasked
      cases htest : test entry r s₁ with
      | mk accepted s₂ =>
      rw [htest] at htested
      cases accepted with
      | some b =>
        refine ⟨[], some (entry, b), s₂, .found hnext htest, htested, Nat.zero_le _,
          List.pairwise_singleton .., fun slot hslot => ?_⟩
        rw [slots, Option.map_some, List.nil_append, Option.toList_some, List.map_singleton,
          List.mem_singleton] at hslot
        exact hslot ▸ hge
      | none =>
        obtain ⟨refused, found, s', hends, hs', hlen, hsorted, hfrom⟩ :=
          ih (bound - (entry.1 + 1)) (by omega) (entry.1 + 1) htested rfl
        refine ⟨entry :: refused, found, s', .refused hnext htest hends, hs', ?_, ?_, ?_⟩
        · rw [List.length_cons]
          omega
        · exact .cons (fun slot hslot => hfrom slot hslot) hsorted
        · exact List.forall_mem_cons.mpr ⟨hge, fun slot hslot => by
            have := hfrom slot hslot
            omega⟩

end CursorSearch
