import Meshcore.Lib.Ring

/-!
# Duplicate filters with a bounded memory

A node that relays messages remembers the hashes of the last `n` of them in a ring, and takes a
message up only if its hash is not there. What happens at such a node is written down in a log, and
`Filtered` says when a log is one of a filter: a hash is recorded only when it is new, a message is
handed on only right after its hash was recorded, and retransmitted only right after that or right
after it was handed on.

From this alone a message is handed on at most once and retransmitted at most once, for as long as
fewer than `n` other hashes are recorded. Messages are of an arbitrary type of keys, and nothing is
assumed of the hash function.

## Main definitions

* `FilterMark K H` — the entries of a log
* `Filtered hash start log ring` — a log of a filter that started with an empty `start`
* `FilterMark.others` — how many other hashes are recorded in a part of a log
* `Unforgotten hash n k log` — the hash of `k` has not been forgotten since it was recorded

## Main results

* `Filtered.le_others` — between two records of one hash there are at least `n` others
* `Filtered.count_le_one` — at most one delivery and one retransmission
* `Filtered.not_mem_of_sent` — none of a message the node itself sent
* `Filtered.count_le_one_of_unforgotten`, `Filtered.not_mem_of_unforgotten` — the same of a whole
  log
-/

/-- What happens at a filter, for messages with keys `K` and hashes `H`. -/
inductive FilterMark (K H : Type) where
  /-- A message is taken up. -/
  | received (k : K)
  /-- A hash goes into the memory. -/
  | recorded (h : H)
  /-- A message is handed on. -/
  | handed (k : K)
  /-- A message is retransmitted. -/
  | retransmit (k : K)
  /-- The node sends a message of its own. -/
  | sent (k : K)
  /-- The memory is emptied. -/
  | cleared
deriving DecidableEq

namespace FilterMark

variable {K H : Type}

/-- The hash an entry records. -/
def hash? : FilterMark K H → Option H
  | recorded h => some h
  | _ => none

/-- The hashes recorded in a part of a log. -/
def recordedIn (log : List (FilterMark K H)) : List H := log.filterMap hash?

/-- How many hashes other than `h` are recorded in a part of a log. -/
def others [DecidableEq H] (h : H) (log : List (FilterMark K H)) : ℕ :=
  (recordedIn log).countP (· ≠ h)

@[simp] theorem recordedIn_nil : recordedIn ([] : List (FilterMark K H)) = [] := rfl

theorem recordedIn_append (t u : List (FilterMark K H)) :
    recordedIn (t ++ u) = recordedIn t ++ recordedIn u := List.filterMap_append

theorem mem_recordedIn {h : H} {t : List (FilterMark K H)} :
    h ∈ recordedIn t ↔ recorded h ∈ t := by
  rw [recordedIn, List.mem_filterMap]
  constructor
  · rintro ⟨m, hm, hh⟩
    cases m with
    | recorded h' =>
      obtain rfl := Option.some.inj hh
      exact hm
    | _ => cases hh
  · exact fun hm => ⟨_, hm, rfl⟩

variable [DecidableEq H]

theorem others_append (h : H) (t u : List (FilterMark K H)) :
    others h (t ++ u) = others h t + others h u := by
  rw [others, recordedIn_append, List.countP_append, others, others]

theorem others_le_of_sublist {t u : List (FilterMark K H)} (hsub : t.Sublist u) (h : H) :
    others h t ≤ others h u := (hsub.filterMap _).countP_le

end FilterMark

open FilterMark

variable {K H : Type} {n : ℕ}

/-- The entry `m` may follow the log `t` when the memory is `r`, which it makes `r'`. -/
def Admits (hash : K → H) (start : RecentRing H n) (t : List (FilterMark K H))
    (r : RecentRing H n) : FilterMark K H → RecentRing H n → Prop
  | received _, r' => r' = r
  | recorded h, r' => h ∉ r.slots ∧ r' = r.insert h
  | handed k, r' => t.getLast? = some (recorded (hash k)) ∧ r' = r
  | retransmit k, r' =>
    (t.getLast? = some (recorded (hash k)) ∨ t.getLast? = some (handed k)) ∧ r' = r
  | sent k, r' => hash k ∈ r.slots ∧ r' = r
  | cleared, r' => r' = start

/-- The logs of a filter, with the memory it ends with. -/
inductive Filtered (hash : K → H) (start : RecentRing H n) :
    List (FilterMark K H) → RecentRing H n → Prop where
  | nil : Filtered hash start [] start
  | snoc {t r m r'} (ht : Filtered hash start t r) (hm : Admits hash start t r m r') :
      Filtered hash start (t ++ [m]) r'

/-- Since the hash of `k` was recorded, the memory has not been emptied, and fewer than `n` other
hashes were recorded. -/
def Unforgotten [DecidableEq H] (hash : K → H) (n : ℕ) (k : K) (log : List (FilterMark K H)) :
    Prop :=
  ∀ a part, log = a ++ recorded (hash k) :: part → cleared ∉ part ∧ others (hash k) part < n

namespace Filtered

variable {hash : K → H} {start r : RecentRing H n} {t u : List (FilterMark K H)}
  {m : FilterMark K H}

theorem snoc_inv (h : Filtered hash start (t ++ [m]) r) :
    ∃ r', Filtered hash start t r' ∧ Admits hash start t r' m r := by
  generalize ht : t ++ [m] = t' at h
  cases h with
  | nil => simp at ht
  | @snoc t₁ r₁ m₁ r₂ h₁ hm =>
    obtain ⟨rfl, hm'⟩ := List.append_inj' ht rfl
    obtain rfl : m = m₁ := by simpa using hm'
    exact ⟨r₁, h₁, hm⟩

/-- A log starts with a log, and without a clearing the memory is what was recorded. -/
theorem split (h : Filtered hash start (t ++ u) r) :
    ∃ r', Filtered hash start t r' ∧ (cleared ∉ u → r = r'.insertAll (recordedIn u)) := by
  induction u using List.reverseRecOn generalizing r with
  | nil => exact ⟨r, by simpa using h, fun _ => rfl⟩
  | append_singleton u m ih =>
    rw [← List.append_assoc] at h
    obtain ⟨r₁, h₁, hm⟩ := h.snoc_inv
    obtain ⟨r', h', hr⟩ := ih h₁
    refine ⟨r', h', fun hclear => ?_⟩
    rw [List.mem_append, not_or] at hclear
    rw [recordedIn_append, RecentRing.insertAll_append, ← hr hclear.1]
    cases m with
    | recorded x => exact hm.2
    | received => exact hm
    | handed | retransmit | sent => exact hm.2
    | cleared => simp at hclear

/-- What an entry of a log says about the log before it. -/
theorem admits (h : Filtered hash start (t ++ m :: u) r) :
    ∃ r₁ r₂, Filtered hash start t r₁ ∧ Admits hash start t r₁ m r₂ := by
  rw [List.append_cons] at h
  obtain ⟨r₂, h₂, -⟩ := h.split
  obtain ⟨r₁, h₁, hm⟩ := h₂.snoc_inv
  exact ⟨r₁, r₂, h₁, hm⟩

/-- What was in the memory at the start, or was recorded since the last clearing. -/
theorem mem_slots (h : Filtered hash start t r) {x : H} (hx : x ∈ r.slots)
    (hstart : x ∉ start.slots) : ∃ a b, t = a ++ recorded x :: b ∧ cleared ∉ b := by
  induction h with
  | nil => exact absurd hx hstart
  | @snoc t r₁ m r₂ ht hm ih =>
    have hkeep : r₂ = r₁ → m ≠ cleared →
        ∃ a b, t ++ [m] = a ++ recorded x :: b ∧ cleared ∉ b := by
      rintro rfl hne
      obtain ⟨a, b, rfl, hb⟩ := ih hx
      exact ⟨a, b ++ [m], by simp, by simp [hb, hne.symm]⟩
    cases m with
    | recorded y =>
      obtain ⟨-, rfl⟩ := hm
      rcases List.mem_or_eq_of_mem_set hx with hold | rfl
      · obtain ⟨a, b, rfl, hb⟩ := ih hold
        exact ⟨a, b ++ [recorded y], by simp, by simp [hb]⟩
      · exact ⟨t, [], rfl, by simp⟩
    | received => exact hkeep hm (by simp)
    | handed | retransmit | sent => exact hkeep hm.2 (by simp)
    | cleared =>
      obtain rfl : r₂ = start := hm
      exact absurd hx hstart

/-! ### How far apart two records are -/

section

variable [DecidableEq H]

/-- Between a record of a hash and the next one there are at least `n` others. -/
theorem le_others_of_not_mem {x : H} {a mid b : List (FilterMark K H)}
    (h : Filtered hash start (a ++ recorded x :: (mid ++ recorded x :: b)) r)
    (hclear : cleared ∉ mid) (hnot : recorded x ∉ mid) : n ≤ others x mid := by
  rw [← List.cons_append, ← List.append_assoc] at h
  obtain ⟨r₁, -, h₁, hnew, -⟩ := h.admits
  rw [List.append_cons] at h₁
  obtain ⟨r₀, h₀, hr₁⟩ := h₁.split
  obtain ⟨r', -, -, rfl⟩ := h₀.snoc_inv
  rw [hr₁ hclear] at hnew
  have hall : ∀ y ∈ recordedIn mid, decide (y ≠ x) = true := by
    intro y hy
    refine decide_eq_true ?_
    rintro rfl
    exact hnot (mem_recordedIn.mp hy)
  rw [others, List.countP_eq_length.mpr hall]
  exact RecentRing.le_length_of_not_mem hnew

/-- Between two records of one hash there are at least `n` others. -/
theorem le_others {x : H} {a mid b : List (FilterMark K H)}
    (h : Filtered hash start (a ++ recorded x :: (mid ++ recorded x :: b)) r)
    (hclear : cleared ∉ mid) : n ≤ others x mid := by
  by_cases hmem : recorded x ∈ mid
  · obtain ⟨c, d, rfl, hc⟩ := List.eq_append_cons_of_mem hmem
    have hclear' : cleared ∉ c := fun hx => hclear (List.mem_append_left _ hx)
    rw [List.append_assoc, List.cons_append] at h
    calc n ≤ others x c := h.le_others_of_not_mem hclear' hc
      _ ≤ others x (c ++ recorded x :: d) := by rw [others_append]; omega
  · exact h.le_others_of_not_mem hclear hmem

/-! ### At most once -/

omit [DecidableEq H] in
/-- A list that ends another one also ends what follows any element it does not have. -/
theorem suffix_of_not_mem {α : Type} {s a b : List α} {y : α} (h : s <:+ a ++ y :: b)
    (hy : y ∉ s) : s <:+ b := by
  rcases List.suffix_or_suffix_of_suffix h (List.suffix_append a (y :: b)) with hs | hs
  · rcases List.suffix_cons_iff.mp hs with rfl | hs
    · simp at hy
    · exact hs
  · exact absurd (hs.subset (List.mem_cons_self ..)) hy

/-- What a delivery or a retransmission of `k` comes right after: the record of its hash, or the
record and the delivery. -/
def Base (hash : K → H) (k : K) (m : FilterMark K H) (s : List (FilterMark K H)) : Prop :=
  (m = handed k ∨ m = retransmit k) ∧
    (s = [recorded (hash k)] ∨ s = [recorded (hash k), handed k] ∧ m = retransmit k)

omit [DecidableEq H] in
theorem exists_base {k : K} (hm : m = handed k ∨ m = retransmit k)
    (h : Filtered hash start (t ++ m :: u) r) : ∃ s, Base hash k m s ∧ s <:+ t := by
  have hlast : ∀ {x : FilterMark K H} {t : List (FilterMark K H)}, t.getLast? = some x →
      ∃ t', t = t' ++ [x] := fun hx => List.getLast?_eq_some_iff.mp hx
  obtain ⟨r₁, r₂, h₁, hadmits⟩ := h.admits
  rcases hm with rfl | rfl
  · obtain ⟨t', rfl⟩ := hlast hadmits.1
    exact ⟨_, ⟨.inl rfl, .inl rfl⟩, List.suffix_append ..⟩
  · rcases hadmits.1 with hrec | hhand
    · obtain ⟨t', rfl⟩ := hlast hrec
      exact ⟨_, ⟨.inr rfl, .inl rfl⟩, List.suffix_append ..⟩
    · obtain ⟨t', rfl⟩ := hlast hhand
      obtain ⟨r₀, h₀, hadmits₀⟩ := h₁.snoc_inv
      obtain ⟨t'', rfl⟩ := hlast hadmits₀.1
      exact ⟨_, ⟨.inr rfl, .inr ⟨rfl, rfl⟩⟩, by simp⟩

omit [DecidableEq H] in
/-- The base of a mark starts with the record. -/
theorem Base.eq_cons {k : K} {s : List (FilterMark K H)} (h : Base hash k m s) :
    ∃ s', s = recorded (hash k) :: s' ∧ cleared ∉ s' := by
  rcases h.2 with rfl | ⟨rfl, -⟩
  · exact ⟨[], rfl, by simp⟩
  · exact ⟨[handed k], rfl, by simp⟩

omit [DecidableEq H] in
/-- The base of a mark does not have the mark, nor a reception or a sending. -/
theorem Base.not_mem {k : K} {s : List (FilterMark K H)} (h : Base hash k m s) :
    m ∉ s ∧ received k ∉ s ∧ sent k ∉ s := by
  rcases h with ⟨rfl | rfl, rfl | ⟨rfl, h⟩⟩ <;> simp_all

/-- Two marks `m` in a part of a log have two records before them. -/
theorem le_others_of_two {k : K} {m y : FilterMark K H} {a b c d : List (FilterMark K H)}
    (hm : m = handed k ∨ m = retransmit k) (hy : ∀ s, Base hash k m s → y ∉ s)
    (h : Filtered hash start (a ++ y :: (b ++ m :: (c ++ m :: d))) r)
    (hclear : cleared ∉ b ++ m :: c) : n ≤ others (hash k) (b ++ m :: c) := by
  have h₁ : Filtered hash start ((a ++ y :: b) ++ m :: (c ++ m :: d)) r := by simpa using h
  have h₂ : Filtered hash start ((a ++ y :: b ++ m :: c) ++ m :: d) r := by simpa using h
  obtain ⟨s₁, hs₁, hsuf₁⟩ := exists_base hm h₁
  obtain ⟨s₂, hs₂, hsuf₂⟩ := exists_base hm h₂
  obtain ⟨b', rfl⟩ := suffix_of_not_mem hsuf₁ (hy _ hs₁)
  obtain ⟨c', rfl⟩ := suffix_of_not_mem hsuf₂ hs₂.not_mem.1
  obtain ⟨s₁', rfl, -⟩ := hs₁.eq_cons
  obtain ⟨s₂', rfl, -⟩ := hs₂.eq_cons
  have h' : Filtered hash start ((a ++ y :: b') ++ recorded (hash k) ::
      ((s₁' ++ m :: c') ++ recorded (hash k) :: (s₂' ++ m :: d))) r := by simpa using h
  refine (h'.le_others fun hx => hclear ?_).trans (others_le_of_sublist ?_ _)
  · simp only [List.mem_append, List.mem_cons] at hx ⊢
    tauto
  · refine .append ?_ (.cons_cons _ (List.sublist_append_left c' _))
    exact (List.sublist_cons_self ..).trans (List.sublist_append_right ..)

/-- **At most once.** From the reception of a message on, for as long as fewer than `n` other hashes
are recorded and the memory is not emptied, it is handed on at most once, and retransmitted at most
once. -/
theorem count_le_one [DecidableEq K] {k : K} {m : FilterMark K H}
    {a part b : List (FilterMark K H)} (hm : m = handed k ∨ m = retransmit k)
    (h : Filtered hash start (a ++ received k :: (part ++ b)) r) (hclear : cleared ∉ part)
    (hfew : others (hash k) part < n) : part.count m ≤ 1 := by
  by_contra hcount
  have hsub : [m, m].Sublist part :=
    List.replicate_sublist_iff.mpr (show 2 ≤ part.count m by omega)
  obtain ⟨p, q, rfl, hp, hq⟩ := List.cons_sublist_iff.mp hsub
  obtain ⟨c, d, rfl⟩ := List.append_of_mem hp
  obtain ⟨e, f, rfl⟩ := List.append_of_mem (List.singleton_sublist.mp hq)
  have h' : Filtered hash start (a ++ received k :: (c ++ m :: ((d ++ e) ++ m :: (f ++ b)))) r := by
    simpa using h
  have hle := le_others_of_two hm (fun s hs => hs.not_mem.2.1) h' fun hx => hclear (by
    simp only [List.mem_append, List.mem_cons] at hx ⊢
    tauto)
  have hmono : others (hash k) (c ++ m :: (d ++ e))
      ≤ others (hash k) (c ++ m :: d ++ (e ++ m :: f)) := by
    refine others_le_of_sublist ?_ _
    rw [List.append_assoc, List.cons_append]
    exact .append_left (.cons_cons _ (.append_left (List.sublist_append_left ..) _)) _
  omega

/-- **Not its own.** From the record of a hash on, for as long as fewer than `n` other hashes are
recorded and the memory is not emptied, a message with that hash is not handed on or retransmitted
once the node sent it itself. -/
theorem not_mem_of_sent {k : K} {m : FilterMark K H} {a mid part b : List (FilterMark K H)}
    (hm : m = handed k ∨ m = retransmit k)
    (h : Filtered hash start
      (a ++ recorded (hash k) :: (mid ++ sent k :: (part ++ b))) r)
    (hclear : cleared ∉ mid ++ part) (hfew : others (hash k) (mid ++ part) < n) :
    m ∉ part := by
  intro hmem
  obtain ⟨c, d, rfl⟩ := List.append_of_mem hmem
  have h₁ : Filtered hash start
      ((a ++ recorded (hash k) :: mid ++ sent k :: c) ++ m :: (d ++ b)) r := by simpa using h
  obtain ⟨s, hs, hsuf⟩ := exists_base hm h₁
  obtain ⟨c', rfl⟩ := suffix_of_not_mem hsuf hs.not_mem.2.2
  obtain ⟨s', rfl, -⟩ := hs.eq_cons
  have h₂ : Filtered hash start (a ++ recorded (hash k) ::
      ((mid ++ sent k :: c') ++ recorded (hash k) :: (s' ++ m :: (d ++ b)))) r := by simpa using h
  have hle := h₂.le_others fun hx => hclear (by
    simp only [List.mem_append, List.mem_cons] at hx ⊢
    tauto)
  have hsent : others (hash k) [sent k] = 0 := rfl
  rw [List.append_cons, others_append, others_append, hsent] at hle
  rw [others_append, others_append, others_append] at hfew
  omega

/-! ### What is remembered -/

/-- What was not recorded before the last part of a log is remembered if it is remembered in that
part. -/
theorem unforgotten_append {k : K} {log part : List (FilterMark K H)}
    (hnot : recorded (hash k) ∉ log) (hclear : cleared ∉ part) (hfew : others (hash k) part < n) :
    Unforgotten hash n k (log ++ part) := by
  intro a rest hsplit
  have hsub : rest.Sublist part := by
    rcases List.append_eq_append_iff.mp hsplit with ⟨c, -, hc⟩ | ⟨c, hlog, hc⟩
    · exact hc ▸ (List.sublist_cons_self ..).trans (List.sublist_append_right ..)
    · cases c with
      | nil =>
        rw [List.nil_append] at hc
        exact hc ▸ List.sublist_cons_self ..
      | cons m c =>
        obtain ⟨rfl, -⟩ := List.cons_eq_cons.mp hc
        exact absurd (hlog ▸ List.mem_append_cons_self) hnot
  exact ⟨fun hx => hclear (hsub.subset hx), (others_le_of_sublist hsub _).trans_lt hfew⟩

/-- What a filter remembers it handed on at most once, and retransmitted at most once. -/
theorem count_le_one_of_unforgotten [DecidableEq K] {k : K}
    (hm : m = handed k ∨ m = retransmit k) {log : List (FilterMark K H)}
    (h : Filtered hash start log r) (hkept : Unforgotten hash n k log) : log.count m ≤ 1 := by
  by_contra hcount
  have hsub : [m, m].Sublist log :=
    List.replicate_sublist_iff.mpr (show 2 ≤ log.count m by omega)
  obtain ⟨p, q, rfl, hp, hq⟩ := List.cons_sublist_iff.mp hsub
  obtain ⟨c, d, rfl⟩ := List.append_of_mem hp
  obtain ⟨e, f, rfl⟩ := List.append_of_mem (List.singleton_sublist.mp hq)
  have h₁ : Filtered hash start (c ++ m :: (d ++ e ++ m :: f)) r := by simpa using h
  have h₂ : Filtered hash start ((c ++ m :: (d ++ e)) ++ m :: f) r := by simpa using h
  obtain ⟨s₁, hs₁, hsuf₁⟩ := exists_base hm h₁
  obtain ⟨s₂, hs₂, hsuf₂⟩ := exists_base hm h₂
  obtain ⟨c', rfl⟩ := hsuf₁
  obtain ⟨d', hd'⟩ := suffix_of_not_mem hsuf₂ hs₂.not_mem.1
  obtain ⟨s₁', rfl, -⟩ := hs₁.eq_cons
  obtain ⟨s₂', rfl, -⟩ := hs₂.eq_cons
  have hlog : c' ++ recorded (hash k) :: s₁' ++ m :: d ++ (e ++ m :: f)
      = c' ++ recorded (hash k) :: ((s₁' ++ m :: d') ++ recorded (hash k) :: (s₂' ++ m :: f)) := by
    have hd'' : d ++ (e ++ m :: f) = d' ++ recorded (hash k) :: s₂' ++ m :: f := by
      rw [hd', List.append_assoc]
    simp [hd'']
  obtain ⟨hclear, hfew⟩ := hkept _ _ hlog
  rw [hlog] at h
  have hle := h.le_others fun hx => hclear (List.mem_append_left _ hx)
  rw [others_append] at hfew
  omega

/-- If the node sent a message before, it never hands it on or retransmits it while it remembers
it. -/
theorem not_mem_of_unforgotten {k : K} (hm : m = handed k ∨ m = retransmit k)
    {log : List (FilterMark K H)} (h : Filtered hash start log r) (hstart : hash k ∉ start.slots)
    (hkept : Unforgotten hash n k log) (hown : ∀ a b, log = a ++ m :: b → sent k ∈ a) :
    m ∉ log := by
  intro hmem
  obtain ⟨a, b, rfl⟩ := List.append_of_mem hmem
  obtain ⟨c, d, rfl⟩ := List.append_of_mem (hown a b rfl)
  have h₁ : Filtered hash start (c ++ sent k :: (d ++ m :: b)) r := by simpa using h
  obtain ⟨r₁, r₂, hc, hslot, -⟩ := h₁.admits
  obtain ⟨c', mid, rfl, -⟩ := hc.mem_slots hslot hstart
  have hlog : c' ++ recorded (hash k) :: mid ++ sent k :: d ++ m :: b
      = c' ++ recorded (hash k) :: (mid ++ sent k :: ((d ++ [m]) ++ b)) := by simp
  obtain ⟨hclear, hfew⟩ := hkept _ _ hlog
  rw [hlog] at h
  have hsub : (mid ++ (d ++ [m])).Sublist (mid ++ sent k :: ((d ++ [m]) ++ b)) :=
    .append_left ((List.sublist_append_left ..).trans (List.sublist_cons_self ..)) _
  exact h.not_mem_of_sent hm (fun hx => hclear (hsub.subset hx))
    ((others_le_of_sublist hsub _).trans_lt hfew) (by simp)

end

end Filtered
