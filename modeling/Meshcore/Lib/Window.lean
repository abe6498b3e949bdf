import Mathlib.Data.List.Rotate
import Meshcore.Lib.Ring

/-!
# Memories of the last so many values

A set with a bounded memory: a value is recorded when it is not there, a value can be taken back,
and when the memory is full the oldest record goes. The memory is a ring of slots, all filled at the
start with a value that is never recorded; taking a value back puts that value into its slot again,
so that the ring has holes, which still count.

What the ring knows can be told from the log of what was recorded and taken back: a value is there
exactly if it was recorded, was not taken back after that, and fewer values than there are slots
were recorded after it.

## Main definitions

* `WindowMark H` — the entries of a log
* `Retains n log h` — what the log says of a value
* `RecentRing.recent` — the slots, the last one written first
* `RecentRing.blank` — a value taken back
* `Windowed` — a ring with its log

## Main results

* `mem_take_trail` — what is left of a log in a memory of any size
* `Windowed.mem_slots_iff`
* `Windowed.count_le_one` — no value is stored twice
-/

/-- What happens to a memory. -/
inductive WindowMark (H : Type) where
  | recorded (h : H)
  | cleared (h : H)
deriving DecidableEq

namespace WindowMark

variable {H : Type}

def isRecord : WindowMark H → Bool
  | recorded _ => true
  | cleared _ => false

end WindowMark

open WindowMark

/-- The value was recorded, not taken back, and followed by fewer than `n` records. -/
def Retains {H : Type} (n : ℕ) (log : List (WindowMark H)) (h : H) : Prop :=
  ∃ l r, log = l ++ recorded h :: r ∧ cleared h ∉ r ∧ r.countP isRecord < n

section

variable {H : Type} {n : ℕ} {h : H} {log : List (WindowMark H)}

theorem retains_append_recorded (a : H) :
    Retains (n + 1) (log ++ [recorded a]) h ↔ h = a ∨ Retains n log h := by
  constructor
  · rintro ⟨l, r, hlog, hclear, hcount⟩
    rcases List.eq_nil_or_concat' r with rfl | ⟨r, m, rfl⟩
    · obtain ⟨-, hlast⟩ := List.append_inj' hlog rfl
      exact .inl (recorded.inj (List.cons.inj hlast).1).symm
    · rw [← List.cons_append, ← List.append_assoc] at hlog
      obtain ⟨rfl, hlast⟩ := List.append_inj' hlog rfl
      obtain rfl : recorded a = m := (List.cons.inj hlast).1
      refine .inr ⟨l, r, rfl, fun hmem => hclear (List.mem_append_left _ hmem), ?_⟩
      rw [List.countP_append] at hcount
      exact Nat.succ_lt_succ_iff.mp hcount
  · rintro (rfl | ⟨l, r, rfl, hclear, hcount⟩)
    · exact ⟨log, [], rfl, List.not_mem_nil, Nat.succ_pos n⟩
    · refine ⟨l, r ++ [recorded a], by simp, by simpa using hclear, ?_⟩
      rw [List.countP_append]
      exact Nat.succ_lt_succ hcount

theorem retains_append_cleared (a : H) :
    Retains n (log ++ [cleared a]) h ↔ Retains n log h ∧ h ≠ a := by
  constructor
  · rintro ⟨l, r, hlog, hclear, hcount⟩
    rcases List.eq_nil_or_concat' r with rfl | ⟨r, m, rfl⟩
    · obtain ⟨-, hlast⟩ := List.append_inj' hlog rfl
      cases (List.cons.inj hlast).1
    · rw [← List.cons_append, ← List.append_assoc] at hlog
      obtain ⟨rfl, hlast⟩ := List.append_inj' hlog rfl
      obtain rfl : cleared a = m := (List.cons.inj hlast).1
      rw [List.mem_append, List.mem_singleton, not_or] at hclear
      rw [List.countP_append] at hcount
      exact ⟨⟨l, r, rfl, hclear.1, hcount⟩, fun heq => hclear.2 (congrArg cleared heq)⟩
  · rintro ⟨⟨l, r, rfl, hclear, hcount⟩, hne⟩
    refine ⟨l, r ++ [cleared a], by simp, by simp [hclear, hne], ?_⟩
    rw [List.countP_append]
    exact hcount

theorem not_retains_nil : ¬Retains n [] h := by
  rintro ⟨l, r, hlog, -⟩
  exact List.append_ne_nil_of_right_ne_nil l (List.cons_ne_nil _ r) hlog.symm

theorem not_retains_zero : ¬Retains 0 log h := fun ⟨_, _, _, _, hcount⟩ => Nat.not_lt_zero _ hcount

/-! ### What is left of a log -/

variable [DecidableEq H]

/-- A value that is taken back leaves `z`. -/
def blanked (a z x : H) : H := if x = a then z else x

/-- All that was ever recorded, the last one first, with `z` for what was taken back. -/
def trail (z : H) (log : List (WindowMark H)) : List H :=
  log.foldl (fun t m => match m with
    | recorded h => h :: t
    | cleared h => t.map (blanked h z)) []

@[simp] theorem trail_append_recorded (z a : H) (log : List (WindowMark H)) :
    trail z (log ++ [recorded a]) = a :: trail z log := by
  rw [trail, List.foldl_append]
  rfl

@[simp] theorem trail_append_cleared (z a : H) (log : List (WindowMark H)) :
    trail z (log ++ [cleared a]) = (trail z log).map (blanked a z) := by
  rw [trail, List.foldl_append]
  rfl

theorem mem_map_blanked {z a : H} {xs : List H} (hz : h ≠ z) :
    h ∈ xs.map (blanked a z) ↔ h ∈ xs ∧ h ≠ a := by
  rw [List.mem_map]
  constructor
  · rintro ⟨x, hx, hxh⟩
    rw [blanked] at hxh
    split at hxh
    · exact absurd hxh.symm hz
    · rename_i hne
      exact ⟨hxh ▸ hx, hxh ▸ hne⟩
  · rintro ⟨hmem, hne⟩
    exact ⟨h, hmem, if_neg hne⟩

/-- The first `n` entries of the trail are what a memory of `n` values remembers. -/
theorem mem_take_trail {z : H} (hz : h ≠ z) :
    h ∈ (trail z log).take n ↔ Retains n log h := by
  induction log using List.reverseRecOn generalizing n with
  | nil =>
    rw [trail, List.foldl_nil, List.take_nil]
    exact ⟨fun hmem => absurd hmem List.not_mem_nil, fun hrem => absurd hrem not_retains_nil⟩
  | append_singleton log m ih =>
    cases m with
    | recorded a =>
      cases n with
      | zero => exact ⟨fun hmem => absurd hmem (by simp), fun hrem => absurd hrem not_retains_zero⟩
      | succ n =>
        rw [trail_append_recorded, List.take_succ_cons, List.mem_cons, ih, retains_append_recorded]
    | cleared a =>
      rw [trail_append_cleared, ← List.map_take, mem_map_blanked hz, ih, retains_append_cleared]

end

/-! ### The ring -/

namespace RecentRing

variable {α : Type} {n : ℕ}

/-- The slots, the last one written first. -/
def recent (r : RecentRing α n) : List α := (r.slots.rotate r.next).reverse

@[simp] theorem mem_recent {r : RecentRing α n} {a : α} : a ∈ r.recent ↔ a ∈ r.slots := by
  rw [recent, List.mem_reverse, List.mem_rotate]

@[simp] theorem length_recent (r : RecentRing α n) : r.recent.length = n := by
  rw [recent, List.length_reverse, List.length_rotate, length_slots]

/-- A value is written over the oldest one and becomes the latest. -/
theorem recent_insert (r : RecentRing α n) (a : α) :
    (r.insert a).recent = a :: r.recent.dropLast := by
  have hnext : r.next < r.slots.length := r.next_lt.trans_eq r.length_slots.symm
  have hold : r.slots.rotate r.next
      = r.slots[r.next] :: (r.slots.drop (r.next + 1) ++ r.slots.take r.next) := by
    rw [List.rotate_eq_drop_append_take hnext.le, List.drop_eq_getElem_cons hnext, List.cons_append]
  have hset : r.slots.set r.next a = r.slots.take r.next ++ [a] ++ r.slots.drop (r.next + 1) := by
    rw [List.set_eq_take_append_cons_drop, if_pos hnext, List.append_assoc, List.singleton_append]
  have hlen : (r.slots.take r.next ++ [a]).length = r.next + 1 := by
    rw [List.length_append, List.length_take_of_le hnext.le, List.length_singleton]
  have hnew : (r.slots.set r.next a).rotate ((r.next + 1) % n)
      = r.slots.drop (r.next + 1) ++ r.slots.take r.next ++ [a] := by
    calc (r.slots.set r.next a).rotate ((r.next + 1) % n)
        = (r.slots.set r.next a).rotate ((r.next + 1) % (r.slots.set r.next a).length) := by
          rw [List.length_set, length_slots]
      _ = (r.slots.take r.next ++ [a] ++ r.slots.drop (r.next + 1)).rotate
            (r.slots.take r.next ++ [a]).length := by
          rw [List.rotate_mod, hset, hlen]
      _ = r.slots.drop (r.next + 1) ++ r.slots.take r.next ++ [a] := by
          rw [List.rotate_append_length_eq, List.append_assoc]
  have hlast : (r.slots.rotate r.next).reverse.dropLast
      = (r.slots.drop (r.next + 1) ++ r.slots.take r.next).reverse := by
    rw [hold, List.reverse_cons, List.dropLast_concat]
  rw [recent, insert, hnew, recent, hlast, List.reverse_append, List.reverse_singleton,
    List.singleton_append]

theorem recent_fill (z : α) (hn : 0 < n) : (fill z hn).recent = List.replicate n z := by
  rw [recent, fill, List.rotate_zero, List.reverse_replicate]

variable [DecidableEq α]

/-- The first slot that holds `a` gets `z`. -/
def blank (r : RecentRing α n) (a z : α) : RecentRing α n where
  slots := r.slots.replace a z
  next := r.next
  length_slots := by rw [List.length_replace, length_slots]
  next_lt := r.next_lt

/-- A value that is stored once is put back to `z` wherever it is. -/
theorem recent_blank {r : RecentRing α n} {a z : α} (honce : r.slots.count a ≤ 1) :
    (r.blank a z).recent = r.recent.map (blanked a z) := by
  have hreplace : ∀ xs : List α, xs.count a ≤ 1 → xs.replace a z = xs.map (blanked a z) := by
    intro xs hxs
    induction xs with
    | nil => rfl
    | cons x xs ih =>
      rw [List.count_cons] at hxs
      rcases eq_or_ne x a with rfl | hne
      · -- the rest has no more of it
        have hgone : ∀ y ∈ xs, blanked x z y = y := by
          intro y hy
          refine if_neg fun heq => ?_
          have hpos : 0 < xs.count x := List.count_pos_iff.mpr (heq ▸ hy)
          rw [beq_self_eq_true, if_pos rfl] at hxs
          omega
        have hmap : xs.map (blanked x z) = xs := by
          rw [List.map_congr_left hgone, List.map_id']
        rw [List.replace_cons_self, List.map_cons, blanked, if_pos rfl, hmap]
      · have hrest : xs.count a ≤ 1 := le_trans (Nat.le_add_right ..) hxs
        have hbeq : (a == x) = false := beq_eq_false_iff_ne.mpr hne.symm
        rw [List.replace_cons, hbeq, List.map_cons, blanked, if_neg hne, ih hrest]
  calc (r.blank a z).recent
      = ((r.slots.replace a z).rotate r.next).reverse := rfl
    _ = r.recent.map (blanked a z) := by
        rw [hreplace _ honce, recent, List.map_reverse, List.map_rotate]

end RecentRing

/-! ### The log of a ring -/

/-- A ring that was filled with `z`, and the log of what happened to it. -/
inductive Windowed {H : Type} [DecidableEq H] {n : ℕ} (z : H) (hn : 0 < n) :
    List (WindowMark H) → RecentRing H n → Prop
  | start : Windowed z hn [] (.fill z hn)
  | recorded {log : List (WindowMark H)} {ring : RecentRing H n} {h : H}
    (ht : Windowed z hn log ring) (hz : h ≠ z) (hnew : h ∉ ring.slots) :
    Windowed z hn (log ++ [.recorded h]) (ring.insert h)
  | cleared {log : List (WindowMark H)} {ring : RecentRing H n} {h : H}
    (ht : Windowed z hn log ring) (hz : h ≠ z) :
    Windowed z hn (log ++ [.cleared h]) (ring.blank h z)

namespace Windowed

variable {H : Type} [DecidableEq H] {n : ℕ} {z h x : H} {hn : 0 < n} {ring : RecentRing H n}
  {log : List (WindowMark H)}

theorem count_recent (r : RecentRing H n) (x : H) : r.recent.count x = r.slots.count x := by
  rw [RecentRing.recent, List.count_reverse, (List.rotate_perm _ _).count_eq]

theorem count_map_blanked_le (hx : x ≠ z) (xs : List H) :
    (xs.map (blanked h z)).count x ≤ xs.count x := by
  rw [List.count_eq_countP, List.countP_map, List.count_eq_countP]
  refine List.countP_mono_left fun y _ hy => ?_
  have heq : blanked h z y = x := eq_of_beq hy
  rw [blanked] at heq
  split at heq
  · exact absurd heq.symm hx
  · exact beq_iff_eq.mpr heq

/-- No value is stored twice. -/
theorem count_le_one (hw : Windowed z hn log ring) (hx : x ≠ z) : ring.slots.count x ≤ 1 := by
  induction hw generalizing x with
  | start =>
    rw [RecentRing.fill, List.count_replicate, if_neg (by simpa using hx.symm)]
    exact Nat.zero_le 1
  | @recorded log ring h ht hz hnew ih =>
    have hsub := (List.dropLast_sublist ring.recent).count_le x
    rw [← count_recent, RecentRing.recent_insert, List.count_cons]
    rw [count_recent] at hsub
    rcases eq_or_ne h x with rfl | hne
    · rw [List.count_eq_zero.mpr hnew] at hsub
      simp only [beq_self_eq_true, if_true]
      omega
    · simp only [beq_eq_false_iff_ne.mpr hne, Bool.false_eq_true, if_false]
      exact hsub.trans (ih hx)
  | @cleared log ring h ht hz ih =>
    rw [← count_recent, RecentRing.recent_blank (ih hz)]
    exact (count_map_blanked_le hx _).trans ((count_recent ring x).trans_le (ih hx))

/-- The ring has the last `n` entries of the trail, and `z` in what was not written yet. -/
theorem recent_eq (hw : Windowed z hn log ring) :
    ring.recent = (trail z log ++ List.replicate n z).take n := by
  induction hw with
  | start =>
    rw [RecentRing.recent_fill, trail, List.foldl_nil, List.nil_append,
      List.take_replicate, min_self]
  | @recorded log ring h ht hz hnew ih =>
    obtain ⟨m, rfl⟩ : ∃ m, n = m + 1 := ⟨n - 1, by omega⟩
    rw [RecentRing.recent_insert, trail_append_recorded, List.cons_append, List.take_succ_cons,
      List.dropLast_eq_take, RecentRing.length_recent, ih, List.take_take, Nat.add_sub_cancel,
      min_eq_left (Nat.le_succ m)]
  | @cleared log ring h ht hz ih =>
    have hkeep : blanked h z z = z := ite_self z
    rw [RecentRing.recent_blank (ht.count_le_one hz), ih, trail_append_cleared, List.map_take,
      List.map_append, List.map_replicate, hkeep]

/-- What is stored is what the log says. -/
theorem mem_slots_iff (hw : Windowed z hn log ring) (hz : h ≠ z) :
    h ∈ ring.slots ↔ Retains n log h := by
  have hfill : ∀ k, h ∉ List.replicate k z := fun k hmem => hz (List.eq_of_mem_replicate hmem)
  rw [← RecentRing.mem_recent, hw.recent_eq, List.take_append, List.mem_append, List.take_replicate,
    or_iff_left (hfill _), mem_take_trail hz]

end Windowed
