import Mathlib.Tactic

/-!
# Circular clocks

A counter of `w` bits that wraps is a circle of `2 ^ w` points. C code compares two such counters
by the sign of their difference taken as a signed `w`-bit number; `ahead w a b` is that difference,
how far `b` lies ahead of `a`, negative when it lies behind.

## Main definitions

* `ahead w a b` — the signed distance from `a` to `b`

## Main results

* `ahead_eq_iff` — a distance is determined by its residue and its range
* `ahead_sub` — distances from one origin subtract, while they stay in range
-/

/-- The signed distance from `a` to `b` on the circle of `2 ^ w` points. -/
def ahead (w a b : ℕ) : ℤ := Int.bmod ((b : ℤ) - a) (2 ^ w)

@[simp] theorem ahead_self (w a : ℕ) : ahead w a a = 0 := by
  rw [ahead, sub_self, Int.zero_bmod]

/-- A distance is the one residue of `b - a` in the signed range. -/
theorem ahead_eq_iff {w a b : ℕ} {d : ℤ} (hw : 0 < w) :
    ahead w a b = d ↔ -2 ^ (w - 1) ≤ d ∧ d < 2 ^ (w - 1) ∧ (2 ^ w : ℤ) ∣ (b - a) - d := by
  obtain ⟨k, rfl⟩ : ∃ k, w = k + 1 := ⟨w - 1, by omega⟩
  have hpow : (2 : ℕ) ^ (k + 1) = 2 * 2 ^ k := by rw [pow_succ]; ring
  have hcast : ((2 ^ (k + 1) : ℕ) : ℤ) = 2 * 2 ^ k := by rw [hpow]; push_cast; ring
  rw [ahead, Int.bmod_eq_iff (by positivity), hcast, Nat.add_sub_cancel]
  have hk : (0 : ℤ) < 2 ^ k := by positivity
  have hdvd : ((2 : ℤ) * 2 ^ k ∣ d - (b - a)) ↔ (2 ^ (k + 1) : ℤ) ∣ (b - a) - d := by
    rw [pow_succ, mul_comm, dvd_sub_comm]
  rw [hdvd]
  constructor
  · rintro ⟨h1, h2, h3⟩
    exact ⟨by omega, by omega, h3⟩
  · rintro ⟨h1, h2, h3⟩
    exact ⟨by omega, by omega, h3⟩

theorem ahead_lt {w a b : ℕ} (hw : 0 < w) : ahead w a b < 2 ^ (w - 1) :=
  ((ahead_eq_iff hw).mp rfl).2.1

theorem dvd_sub_ahead {w a b : ℕ} (hw : 0 < w) : (2 ^ w : ℤ) ∣ (b - a) - ahead w a b :=
  ((ahead_eq_iff hw).mp rfl).2.2

/-- Distances from one origin subtract, while the difference stays in range. -/
theorem ahead_sub {w o a b : ℕ} (hw : 0 < w)
    (hlow : -2 ^ (w - 1) ≤ ahead w o b - ahead w o a)
    (hhigh : ahead w o b - ahead w o a < 2 ^ (w - 1)) :
    ahead w a b = ahead w o b - ahead w o a := by
  rw [ahead_eq_iff hw]
  refine ⟨hlow, hhigh, ?_⟩
  have hb := dvd_sub_ahead (a := o) (b := b) hw
  have ha := dvd_sub_ahead (a := o) (b := a) hw
  have hsplit : ((b : ℤ) - a) - (ahead w o b - ahead w o a)
      = ((b - o) - ahead w o b) - ((a - o) - ahead w o a) := by ring
  rw [hsplit]
  exact dvd_sub hb ha
