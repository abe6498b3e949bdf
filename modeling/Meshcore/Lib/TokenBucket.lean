import Mathlib.Tactic

/-!
# Token buckets

A bucket holds what may be spent. It is refilled with a share of the time that has gone by, up to a
capacity; what is spent is taken out of it, and when more is spent than it holds, it is empty
afterwards. Levels are whole numbers: the share of a short time may be nothing, and the time of the
last refill moves only when something came in. The share is any function that stays below a rate.

What a bucket loses to an overdraft is forgotten, so the sum of all that is spent has no bound in
terms of what came in. But where nothing is spent unless the bucket holds a threshold, a spending
counts at least up to the threshold, and the sum of what counts is bounded.

## Main definitions

* `Bucket`, `Bucket.refill`, `Bucket.spend`
* `Bucket.Run` — refills and spendings, with the times they happen at
* `Bucket.Covers` — what was spent and what is left came in

## Main results

* `Bucket.Run.covers` — so it stays over a run
* `Bucket.Run.sum_le` — what counts of the spendings of a run is bounded by the capacity and what
  came in
-/

/-- How much is left, and when the bucket was last refilled. -/
@[ext]
structure Bucket where
  level : ℕ
  last : ℕ

namespace Bucket

variable {K : Type} [Field K] [LinearOrder K] [IsStrictOrderedRing K]
  {share : ℕ → ℕ} {rate : K} {cap now start spent amount threshold : ℕ} {b b' : Bucket}

/-- The bucket is refilled with the share of the time since the last refill, if that is anything. -/
def refill (share : ℕ → ℕ) (cap now : ℕ) (b : Bucket) : Bucket :=
  if 0 < share (now - b.last) then ⟨min (b.level + share (now - b.last)) cap, now⟩ else b

/-- An amount is spent, or what there is of it. -/
def spend (amount : ℕ) (b : Bucket) : Bucket := ⟨b.level - amount, b.last⟩

/-- What was spent and what is left came in since the start, on top of a full bucket. -/
structure Covers (rate : K) (cap start spent : ℕ) (b : Bucket) : Prop where
  start_le : start ≤ b.last
  covered : (spent + b.level : K) ≤ cap + rate * (b.last - start : ℕ)

/-- A refill leaves no less than there was. -/
theorem level_le_refill (h : b.level ≤ cap) : b.level ≤ (b.refill share cap now).level := by
  rw [refill]
  split
  · exact le_min (Nat.le_add_right _ _) h
  · exact le_rfl

theorem last_refill_le (h : b.last ≤ now) : (b.refill share cap now).last ≤ now := by
  rw [refill]
  split
  · exact le_rfl
  · exact h

namespace Covers

omit [IsStrictOrderedRing K] in
/-- A bucket that is full at the start. -/
theorem full (rate : K) (cap start : ℕ) : Covers rate cap start 0 ⟨cap, start⟩ :=
  ⟨le_rfl, by simp⟩

theorem refill (h : Covers rate cap start spent b) (hshare : ∀ t : ℕ, (share t : K) ≤ rate * t)
    (hnow : b.last ≤ now) : Covers rate cap start spent (b.refill share cap now) := by
  rw [Bucket.refill]
  split
  · refine ⟨h.start_le.trans hnow, ?_⟩
    have hmin : ((min (b.level + share (now - b.last)) cap : ℕ) : K)
        ≤ b.level + share (now - b.last) := by
      exact_mod_cast min_le_left (b.level + share (now - b.last)) cap
    have hinflow := hshare (now - b.last)
    have hsplit : ((now - start : ℕ) : K) = (now - b.last : ℕ) + (b.last - start : ℕ) := by
      have hadd : now - start = (now - b.last) + (b.last - start) := by have := h.start_le; omega
      rw [hadd, Nat.cast_add]
    have hcovered := h.covered
    calc (spent + (min (b.level + share (now - b.last)) cap : ℕ) : K)
        ≤ spent + b.level + share (now - b.last) := by linarith
      _ ≤ cap + rate * (b.last - start : ℕ) + rate * (now - b.last : ℕ) := by linarith
      _ = cap + rate * (now - start : ℕ) := by rw [hsplit]; ring
  · exact h

/-- Where the bucket holds the threshold, a spending counts up to it. -/
theorem spend (h : Covers rate cap start spent b) (hlevel : threshold ≤ b.level) (amount : ℕ) :
    Covers rate cap start (spent + min amount threshold) (b.spend amount) := by
  refine ⟨h.start_le, ?_⟩
  have hle : spent + min amount threshold + (b.level - amount) ≤ spent + b.level := by
    have hmin := min_le_left amount threshold
    have hmin' := min_le_right amount threshold
    omega
  have hcast : ((spent + min amount threshold : ℕ) : K) + (b.level - amount : ℕ)
      ≤ spent + b.level := by
    exact_mod_cast hle
  exact hcast.trans h.covered

/-- What was spent is bounded by the capacity and what came in. -/
theorem le (h : Covers rate cap start spent b) (hrate : 0 ≤ rate) (hnow : b.last ≤ now) :
    (spent : K) ≤ cap + rate * (now - start : ℕ) := by
  have hlast : ((b.last - start : ℕ) : K) ≤ (now - start : ℕ) := by
    exact_mod_cast Nat.sub_le_sub_right hnow start
  have hlevel : (0 : K) ≤ b.level := Nat.cast_nonneg _
  have hmul := mul_le_mul_of_nonneg_left hlast hrate
  have hcovered := h.covered
  linarith

end Covers

/-- Refills and spendings one after another, while time goes on. A spending needs the threshold. The
list is what is spent, and the last index is the time. -/
inductive Run (share : ℕ → ℕ) (cap threshold : ℕ) (b : Bucket) : List ℕ → Bucket → ℕ → Prop where
  | nil : Run share cap threshold b [] b b.last
  | wait {l b' t t'} (h : Run share cap threshold b l b' t) (hlater : t ≤ t') :
      Run share cap threshold b l b' t'
  | refill {l b' t} (h : Run share cap threshold b l b' t) :
      Run share cap threshold b l (b'.refill share cap t) t
  | spend {l b' t} (h : Run share cap threshold b l b' t) (amount : ℕ)
      (hlevel : threshold ≤ b'.level) :
      Run share cap threshold b (l ++ [amount]) (b'.spend amount) t

namespace Run

variable {l : List ℕ} {t : ℕ}

theorem last_le (h : Run share cap threshold b l b' t) : b'.last ≤ t := by
  induction h with
  | nil => exact le_rfl
  | wait _ hlater ih => exact ih.trans hlater
  | refill _ ih => exact last_refill_le ih
  | spend _ _ _ ih => exact ih

theorem level_le (h : Run share cap threshold b l b' t) (hb : b.level ≤ cap) : b'.level ≤ cap := by
  induction h with
  | nil => exact hb
  | wait _ _ ih => exact ih
  | refill _ ih =>
    rw [Bucket.refill]
    split
    · exact min_le_right _ _
    · exact ih
  | spend _ _ _ ih => exact (Nat.sub_le _ _).trans ih

/-- Over a run, what was spent and what is left came in. -/
theorem covers (h : Run share cap threshold b l b' t) (hshare : ∀ t : ℕ, (share t : K) ≤ rate * t)
    (hb : Covers rate cap start spent b) :
    Covers rate cap start (spent + (l.map (min · threshold)).sum) b' := by
  induction h with
  | nil => simpa using hb
  | wait _ _ ih => exact ih
  | refill h ih => exact ih.refill hshare h.last_le
  | spend _ amount hlevel ih => simpa [← add_assoc] using ih.spend hlevel amount

/-- What counts of the spendings of a run from a full bucket is bounded by the capacity and what
came in. -/
theorem sum_le (h : Run share cap threshold ⟨cap, start⟩ l b' t)
    (hshare : ∀ t : ℕ, (share t : K) ≤ rate * t) (hrate : 0 ≤ rate) :
    (((l.map (min · threshold)).sum : ℕ) : K) ≤ cap + rate * (t - start : ℕ) := by
  have hcovers := h.covers hshare (Covers.full rate cap start)
  rw [zero_add] at hcovers
  exact hcovers.le hrate h.last_le

end Run

/-- Where no spending is more than twice the threshold, up to one unit, the spendings are at most
twice what counts of them, and one unit each. -/
theorem sum_le_two_mul {l : List ℕ} (h : ∀ amount ∈ l, amount ≤ 2 * threshold + 1) :
    l.sum ≤ 2 * (l.map (min · threshold)).sum + l.length := by
  induction l with
  | nil => simp
  | cons amount l ih =>
    have hrest := ih fun a ha => h a (List.mem_cons_of_mem _ ha)
    have hfirst := h amount (List.mem_cons_self ..)
    simp only [List.sum_cons, List.map_cons, List.length_cons]
    omega

end Bucket
