import Mathlib.Data.Finset.Max
import Meshcore.Lib.Circular

/-!
# Deadlines

The deadline of several times is the earliest of them, or now when that is in the past. Programs
find it with a loop that ends at the first time that is not ahead of now, and they run the loop on
the readings of a clock that wraps. The readings are not ordered; the times are, and while all of
them are less than half a turn from now the loop finds the reading of their deadline.

## Main definitions

* `deadline` — the deadline of several times
* `foldUntil` — a loop that may end early
* `clockOf` — what a clock shows at a time

## Main results

* `deadline_eq_none_iff`, `deadline_of_le`, `deadline_of_least`
* `foldUntil_map` — a change of state goes through the loop
* `ahead_clockOf` — how far one time is ahead of another, on the clock
-/

/-! ### The deadline of several times -/

section

variable {α : Type*} [LinearOrder α] {now t : α} {times : Multiset α}

/-- The earliest of the times, but not before now. -/
def deadline (now : α) (times : Multiset α) : Option α :=
  if h : times.toFinset.Nonempty then some (max now (times.toFinset.min' h)) else none

theorem deadline_eq_none_iff : deadline now times = none ↔ times = 0 := by
  rw [deadline]
  split
  · rename_i h
    obtain ⟨t, ht⟩ := h
    refine iff_of_false (Option.some_ne_none _) fun hzero => ?_
    rw [hzero] at ht
    exact Finset.notMem_empty t ht
  · rename_i h
    rw [Finset.not_nonempty_iff_eq_empty, Multiset.toFinset_eq_empty] at h
    exact iff_of_true rfl h

/-- A time that is not ahead of now is due. -/
theorem deadline_of_le (ht : t ∈ times) (hdue : t ≤ now) : deadline now times = some now := by
  have hmem := Multiset.mem_toFinset.mpr ht
  rw [deadline, dif_pos ⟨t, hmem⟩, max_eq_left ((Finset.min'_le _ t hmem).trans hdue)]

theorem deadline_of_least (ht : t ∈ times) (hleast : ∀ t' ∈ times, t ≤ t') (hlater : now ≤ t) :
    deadline now times = some t := by
  have hmem := Multiset.mem_toFinset.mpr ht
  have hmin : times.toFinset.min' ⟨t, hmem⟩ = t :=
    le_antisymm (Finset.min'_le _ t hmem)
      (Finset.le_min' _ _ _ fun t' ht' => hleast t' (Multiset.mem_toFinset.mp ht'))
  rw [deadline, dif_pos ⟨t, hmem⟩, hmin, max_eq_right hlater]

/-- Times that are all ahead of now have the earliest of them for deadline. -/
theorem exists_deadline_eq (hne : times ≠ 0) (hlater : ∀ t ∈ times, now < t) :
    ∃ t ∈ times, deadline now times = some t ∧ ∀ t' ∈ times, t ≤ t' := by
  obtain ⟨s, hs⟩ := Multiset.exists_mem_of_ne_zero hne
  have hnonempty : times.toFinset.Nonempty := ⟨s, Multiset.mem_toFinset.mpr hs⟩
  have hmem := Multiset.mem_toFinset.mp (times.toFinset.min'_mem hnonempty)
  have hleast : ∀ t' ∈ times, times.toFinset.min' hnonempty ≤ t' := fun t' ht' =>
    Finset.min'_le _ t' (Multiset.mem_toFinset.mpr ht')
  exact ⟨_, hmem, deadline_of_least hmem hleast (hlater _ hmem).le, hleast⟩

end

/-! ### Loops that end early -/

section

variable {β σ τ : Type*}

/-- Steps are taken until one of them says that it was the last. -/
def foldUntil (step : β → σ → Bool × σ) : List β → σ → Bool × σ
  | [], s => (false, s)
  | b :: bs, s =>
    let r := step b s
    if r.1 then r else foldUntil step bs r.2

/-- A change of the state that goes through a step goes through the loop. -/
theorem foldUntil_map {step : β → σ → Bool × σ} {step' : β → τ → Bool × τ} {f : σ → τ}
    (hstep : ∀ b s, step' b (f s) = Prod.map id f (step b s)) (bs : List β) (s : σ) :
    foldUntil step' bs (f s) = Prod.map id f (foldUntil step bs s) := by
  induction bs generalizing s with
  | nil => rfl
  | cons b bs ih =>
    rw [foldUntil, foldUntil, hstep]
    dsimp only [Prod.map_fst, Prod.map_snd, id]
    rw [ih]
    split <;> rfl

end

/-! ### Clocks -/

section

variable {w : ℕ} {now t : ℤ}

/-- What a clock of `w` bits shows at a time. -/
def clockOf (w : ℕ) (t : ℤ) : ℕ := (t % 2 ^ w).toNat

theorem dvd_clockOf_sub (w : ℕ) (t : ℤ) : (2 ^ w : ℤ) ∣ clockOf w t - t := by
  have hpos : (0 : ℤ) < 2 ^ w := by positivity
  rw [clockOf, Int.toNat_of_nonneg (Int.emod_nonneg t hpos.ne')]
  exact ⟨-(t / 2 ^ w), by linarith [Int.emod_add_mul_ediv t (2 ^ w)]⟩

/-- Less than half a turn away, the clock shows how far one time is ahead of another. -/
theorem ahead_clockOf (hw : 0 < w) (hlow : now - 2 ^ (w - 1) ≤ t) (hhigh : t < now + 2 ^ (w - 1)) :
    ahead w (clockOf w now) (clockOf w t) = t - now := by
  rw [ahead_eq_iff hw]
  refine ⟨by linarith, by linarith, ?_⟩
  have hsplit : ((clockOf w t : ℤ) - clockOf w now) - (t - now)
      = (clockOf w t - t) - (clockOf w now - now) := by ring
  rw [hsplit]
  exact dvd_sub (dvd_clockOf_sub w t) (dvd_clockOf_sub w now)

end
