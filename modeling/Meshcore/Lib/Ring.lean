import Mathlib.Data.List.Basic
import Mathlib.Tactic

/-!
# Rings

A ring holds the last values put into it: `n` slots and the index of the slot that is written
next, which moves round by one at each insertion. A value therefore stays for as long as fewer than
`n` values follow it.

## Main definitions

* `RecentRing α n` — `n` slots and the next index, which is inside
* `RecentRing.insert`, `RecentRing.insertAll`

## Main results

* `RecentRing.mem_insertAll_insert` — a value survives fewer than `n` later insertions
* `RecentRing.le_length_of_not_mem` — a value that is gone was followed by at least `n` insertions
-/

/-- A ring buffer of `n` slots. -/
@[ext]
structure RecentRing (α : Type) (n : ℕ) where
  slots : List α
  next : ℕ
  length_slots : slots.length = n
  next_lt : next < n

namespace RecentRing

variable {α : Type} {n : ℕ}

attribute [simp] length_slots

/-- A ring whose slots all hold `a`. -/
def fill (a : α) (hn : 0 < n) : RecentRing α n := ⟨List.replicate n a, 0, List.length_replicate, hn⟩

/-- Write the next slot and move on. -/
def insert (r : RecentRing α n) (a : α) : RecentRing α n where
  slots := r.slots.set r.next a
  next := (r.next + 1) % n
  length_slots := by rw [List.length_set, length_slots]
  next_lt := Nat.mod_lt _ (Nat.zero_lt_of_lt r.next_lt)

/-- Insert a list of values, first to last. -/
def insertAll (r : RecentRing α n) (xs : List α) : RecentRing α n := xs.foldl insert r

@[simp] theorem insertAll_nil (r : RecentRing α n) : r.insertAll [] = r := rfl

@[simp] theorem insertAll_cons (r : RecentRing α n) (x : α) (xs : List α) :
    r.insertAll (x :: xs) = (r.insert x).insertAll xs := rfl

theorem insertAll_append (r : RecentRing α n) (xs ys : List α) :
    r.insertAll (xs ++ ys) = (r.insertAll xs).insertAll ys := List.foldl_append

theorem mem_insert_self (r : RecentRing α n) (a : α) : a ∈ (r.insert a).slots := by
  have h := r.next_lt
  exact List.mem_set (by simpa using h) a

/-- The slot `d` places behind the next one outlives fewer than `n - d` insertions. -/
theorem getElem?_insertAll {r : RecentRing α n} {i : ℕ} {a : α} (hi : i < n)
    (hslot : r.slots[i]? = some a) (xs : List α) (hlen : (r.next + n - 1 - i) % n + xs.length < n) :
    (r.insertAll xs).slots[i]? = some a := by
  induction xs generalizing r with
  | nil => exact hslot
  | cons x xs ih =>
    have hnext := r.next_lt
    rw [List.length_cons] at hlen
    have hne : r.next ≠ i := by
      rintro rfl
      have : (r.next + n - 1 - r.next) % n = n - 1 := by
        rw [show r.next + n - 1 - r.next = n - 1 by omega]
        exact Nat.mod_eq_of_lt (by omega)
      omega
    rw [insertAll_cons]
    refine ih ?_ ?_
    · rw [insert, List.getElem?_set_ne hne]
      exact hslot
    · have hstep : ((r.next + 1) % n + n - 1 - i) % n = (r.next + n - 1 - i) % n + 1 := by
        rcases Nat.lt_or_ge (r.next + 1) n with hlt | hge
        · rw [Nat.mod_eq_of_lt hlt]
          rcases Nat.lt_or_ge r.next i with hbelow | habove
          · rw [Nat.mod_eq_of_lt (by omega), Nat.mod_eq_of_lt (by omega)]
            omega
          · have e1 : r.next + 1 + n - 1 - i = (r.next - i) + n := by omega
            have e2 : r.next + n - 1 - i = (r.next - i - 1) + n := by omega
            rw [e1, e2, Nat.add_mod_right, Nat.add_mod_right, Nat.mod_eq_of_lt (by omega),
              Nat.mod_eq_of_lt (by omega)]
            omega
        · have e0 : r.next + 1 = n := by omega
          rw [e0, Nat.mod_self]
          rw [Nat.mod_eq_of_lt (by omega)]
          have e2 : r.next + n - 1 - i = (n - 2 - i) + n := by omega
          rw [e2, Nat.add_mod_right, Nat.mod_eq_of_lt (by omega)]
          omega
      rw [insert]
      simp only
      omega

/-- A value that was just inserted survives fewer than `n` later insertions. -/
theorem mem_insertAll_insert (r : RecentRing α n) (a : α) (xs : List α) (hlen : xs.length < n) :
    a ∈ ((r.insert a).insertAll xs).slots := by
  have hnext := r.next_lt
  refine List.mem_of_getElem? (getElem?_insertAll hnext ?_ xs ?_)
  · rw [insert, List.getElem?_set_self (by simpa using hnext)]
  · have : ((r.insert a).next + n - 1 - r.next) % n = 0 := by
      rw [insert]
      simp only
      rcases Nat.lt_or_ge (r.next + 1) n with hlt | hge
      · rw [Nat.mod_eq_of_lt hlt, show r.next + 1 + n - 1 - r.next = n by omega, Nat.mod_self]
      · rw [show r.next + 1 = n by omega, Nat.mod_self, show 0 + n - 1 - r.next = 0 by omega,
          Nat.zero_mod]
    omega

/-- A value that is gone was followed by at least `n` insertions. -/
theorem le_length_of_not_mem {r : RecentRing α n} {a : α} {xs : List α}
    (h : a ∉ ((r.insert a).insertAll xs).slots) : n ≤ xs.length := by
  by_contra hlt
  exact h (mem_insertAll_insert r a xs (by omega))

end RecentRing
