import Meshcore.Lib.StableQueue
import Meshcore.PacketManager

/-!
# The three tables of a queue

`support/meshcore_packet_manager.c` keeps a queue in three arrays of one length, and closes the gap
of an entry that leaves by moving what is behind it in all three. `QueueTables` is the struct as it
is; `PacketQueue`, which the rest of the development uses, is what it stands for.

## Main definitions

* `QueueTables` and its operations, under the source's names
* `QueueTables.toQueue` — the entries that the tables hold

## Main results

* `QueueTables.toQueue_get`, `toQueue_add`, `toQueue_removeByIdx` — the tables are the queue
* `queue_serves` — what is handed out over any calls
* `queue_views_agree_iff` — when taking, counting and the next time agree
-/

namespace Meshcore

/-- `struct meshcore_packet_queue`. -/
structure QueueTables where
  table : ℕ → PacketId
  priTable : ℕ → UInt8
  scheduleTable : ℕ → ℕ
  num : ℕ
  size : ℕ

namespace QueueTables

/-- `meshcore_packet_queue_deinit`: every field zero. -/
def deinit : QueueTables where
  table _ := 0
  priTable _ := 0
  scheduleTable _ := 0
  num := 0
  size := 0

/-- `meshcore_packet_queue_init`, for a storage of `maxPoolSize` entries. -/
def init (maxPoolSize maxEntries : ℕ) : Bool × QueueTables :=
  if maxEntries > maxPoolSize then (false, deinit)
  else if maxEntries = 0 then (true, deinit)
  else (true, { deinit with size := maxEntries })

/-- The loop of `meshcore_packet_queue_compact_from`, with so many turns to go. -/
def compactLoop (queue : QueueTables) (idx : ℕ) : ℕ → QueueTables
  | 0 => queue
  | n + 1 =>
    compactLoop { queue with
      table := Function.update queue.table idx (queue.table (idx + 1))
      priTable := Function.update queue.priTable idx (queue.priTable (idx + 1))
      scheduleTable := Function.update queue.scheduleTable idx (queue.scheduleTable (idx + 1)) }
      (idx + 1) n

/-- `meshcore_packet_queue_compact_from`: from `idx` as long as it is below the new `num`. -/
def compactFrom (queue : QueueTables) (idx : ℕ) : QueueTables :=
  compactLoop { queue with num := queue.num - 1 } idx (queue.num - 1 - idx)

/-- `(int32_t)(queue->schedule_table[j] - now) > 0`. -/
def later (queue : QueueTables) (now j : ℕ) : Bool :=
  decide (ahead 32 now (queue.scheduleTable j) > 0)

/-- The loop of `meshcore_packet_queue_get` at `j`, with so many turns to go. -/
def bestIdxLoop (queue : QueueTables) (now : ℕ) : ℕ → ℕ → UInt8 → Option ℕ → Option ℕ
  | _, 0, _, bestIdx => bestIdx
  | j, n + 1, minPri, bestIdx =>
    if queue.later now j then queue.bestIdxLoop now (j + 1) n minPri bestIdx
    else if queue.priTable j < minPri then
      queue.bestIdxLoop now (j + 1) n (queue.priTable j) (some j)
    else queue.bestIdxLoop now (j + 1) n minPri bestIdx

/-- `meshcore_packet_queue_get`. -/
def get (queue : QueueTables) (now : ℕ) : Option PacketId × QueueTables :=
  (queue.bestIdxLoop now 0 queue.num 0xFF none).elim (none, queue) fun bestIdx =>
    (some (queue.table bestIdx), queue.compactFrom bestIdx)

/-- `meshcore_packet_queue_add`. -/
def add (queue : QueueTables) (packet : PacketId) (priority : UInt8) (scheduledFor : ℕ) :
    Bool × QueueTables :=
  if queue.num ≥ queue.size then (false, queue)
  else
    (true, { queue with
      table := Function.update queue.table queue.num packet
      priTable := Function.update queue.priTable queue.num priority
      scheduleTable := Function.update queue.scheduleTable queue.num scheduledFor
      num := queue.num + 1 })

/-- The loop of `meshcore_packet_queue_count_before`. -/
def countBeforeLoop (queue : QueueTables) (now : ℕ) : ℕ → ℕ → ℕ → ℕ
  | _, 0, n => n
  | j, k + 1, n =>
    if queue.later now j then queue.countBeforeLoop now (j + 1) k n
    else queue.countBeforeLoop now (j + 1) k (n + 1)

/-- `meshcore_packet_queue_count_before`. -/
def countBefore (queue : QueueTables) (now : ℕ) : ℕ :=
  if now = 2 ^ 32 - 1 then queue.num else queue.countBeforeLoop now 0 queue.num 0

/-- The loop of `meshcore_packet_queue_next_scheduled_get`, with the best time so far. -/
def nextScheduledLoop (queue : QueueTables) (now : ℕ) : ℕ → ℕ → Option ℕ → Option ℕ
  | _, 0, best => best
  | j, n + 1, best =>
    let candidate := queue.scheduleTable j
    if ahead 32 now candidate ≤ 0 then some now
    else
      let best := best.elim candidate fun best =>
        if ahead 32 best candidate < 0 then candidate else best
      queue.nextScheduledLoop now (j + 1) n (some best)

/-- `meshcore_packet_queue_next_scheduled_get`. -/
def nextScheduledGet (queue : QueueTables) (now : ℕ) : Option ℕ :=
  queue.nextScheduledLoop now 0 queue.num none

/-- `meshcore_packet_queue_remove_by_idx`. -/
def removeByIdx (queue : QueueTables) (i : ℤ) : Option PacketId × QueueTables :=
  if i < 0 ∨ i ≥ queue.num then (none, queue)
  else (some (queue.table i.toNat), queue.compactFrom i.toNat)

/-! ### The entries -/

/-- What the tables hold at an index. -/
def entryAt (queue : QueueTables) (j : ℕ) : QueueEntry :=
  ⟨queue.table j, queue.priTable j, queue.scheduleTable j⟩

/-- What they hold from an index on. -/
def entriesFrom (queue : QueueTables) (j n : ℕ) : List QueueEntry :=
  (List.range' j n).map queue.entryAt

/-- The queue that the tables stand for. -/
def toQueue (queue : QueueTables) : PacketQueue := ⟨queue.entriesFrom 0 queue.num, queue.size⟩

@[simp] theorem length_entriesFrom (queue : QueueTables) (j n : ℕ) :
    (queue.entriesFrom j n).length = n := by
  rw [entriesFrom, List.length_map, List.length_range']

theorem entriesFrom_succ (queue : QueueTables) (j n : ℕ) :
    queue.entriesFrom j (n + 1) = queue.entryAt j :: queue.entriesFrom (j + 1) n := by
  rw [entriesFrom, List.range'_succ, List.map_cons, entriesFrom]

@[simp] theorem getElem_entriesFrom (queue : QueueTables) {j n k : ℕ}
    (hk : k < (queue.entriesFrom j n).length) :
    (queue.entriesFrom j n)[k] = queue.entryAt (j + k) := by
  simp [entriesFrom]

@[simp] theorem later_eq (queue : QueueTables) (now j : ℕ) :
    queue.later now j = !PacketQueue.isDue now (queue.entryAt j) := by
  rw [later, PacketQueue.isDue, ← decide_not]
  exact decide_eq_decide.mpr not_le.symm

/-! ### Closing a gap -/

@[simp] theorem num_compactLoop (queue : QueueTables) (idx n : ℕ) :
    (queue.compactLoop idx n).num = queue.num := by
  induction n generalizing queue idx with
  | zero => rfl
  | succ n ih => rw [compactLoop, ih]

@[simp] theorem size_compactLoop (queue : QueueTables) (idx n : ℕ) :
    (queue.compactLoop idx n).size = queue.size := by
  induction n generalizing queue idx with
  | zero => rfl
  | succ n ih => rw [compactLoop, ih]

/-- The entries from `idx` on that the loop reaches move one place down, all three tables
together. -/
theorem entryAt_compactLoop (queue : QueueTables) (idx n k : ℕ) :
    (queue.compactLoop idx n).entryAt k =
      if idx ≤ k ∧ k < idx + n then queue.entryAt (k + 1) else queue.entryAt k := by
  induction n generalizing queue idx with
  | zero => rw [compactLoop, if_neg (by omega)]
  | succ n ih =>
    rw [compactLoop, ih]
    rcases lt_trichotomy k idx with hlt | rfl | hgt
    · rw [if_neg (by omega), if_neg (by omega)]
      simp [entryAt, hlt.ne]
    · rw [if_neg (by omega), if_pos (by omega)]
      simp [entryAt]
    · have hne : k + 1 ≠ idx := by omega
      have hiff : (idx + 1 ≤ k ∧ k < idx + 1 + n) ↔ (idx ≤ k ∧ k < idx + (n + 1)) := by omega
      simp only [hiff, entryAt, Function.update_of_ne hgt.ne', Function.update_of_ne hne]

theorem toQueue_compactFrom (queue : QueueTables) {idx : ℕ} (hidx : idx < queue.num) :
    (queue.compactFrom idx).toQueue
      = { queue.toQueue with entries := queue.toQueue.entries.eraseIdx idx } := by
  refine PacketQueue.mk.injEq .. ▸ ⟨?_, size_compactLoop ..⟩
  refine List.ext_getElem ?_ fun k hk _ => ?_
  · simp [toQueue, compactFrom, List.length_eraseIdx, hidx]
  · have hlt : k < queue.num - 1 := by simpa [compactFrom] using hk
    rw [getElem_entriesFrom, compactFrom, entryAt_compactLoop, List.getElem_eraseIdx]
    simp only [toQueue, getElem_entriesFrom, Nat.zero_add]
    split
    · rw [dif_neg (by omega)]
      rfl
    · rw [dif_pos (by omega)]
      rfl

/-! ### The operations -/

theorem bestIdxLoop_eq (queue : QueueTables) (now j n : ℕ) (minPri : UInt8) (bestIdx : Option ℕ) :
    queue.bestIdxLoop now j n minPri bestIdx
      = PacketQueue.bestIdx now (queue.entriesFrom j n) j minPri bestIdx := by
  induction n generalizing j minPri bestIdx with
  | zero => rfl
  | succ n ih =>
    rw [entriesFrom_succ, bestIdxLoop, PacketQueue.bestIdx, later_eq, ih, ih]
    rfl

theorem countBeforeLoop_eq (queue : QueueTables) (now j k n : ℕ) :
    queue.countBeforeLoop now j k n
      = n + (queue.entriesFrom j k).countP (PacketQueue.isDue now) := by
  induction k generalizing j n with
  | zero => rfl
  | succ k ih =>
    rw [entriesFrom_succ, countBeforeLoop, later_eq, ih, ih, List.countP_cons]
    cases PacketQueue.isDue now (queue.entryAt j) with
    | true => simp [Nat.add_assoc, Nat.add_comm 1]
    | false => simp

theorem nextScheduledLoop_eq (queue : QueueTables) (now j n : ℕ) (best : Option ℕ) :
    queue.nextScheduledLoop now j n best
      = PacketQueue.nextScheduled now (queue.entriesFrom j n) best := by
  induction n generalizing j best with
  | zero => rfl
  | succ n ih =>
    rw [entriesFrom_succ, nextScheduledLoop, PacketQueue.nextScheduled, ih]
    simp only [PacketQueue.isDue, decide_eq_true_eq]
    rfl

variable (queue : QueueTables)

theorem toQueue_removeByIdx (i : ℤ) :
    (queue.removeByIdx i).1 = (if i < 0 then none else (queue.toQueue.removeByIdx i.toNat).1) ∧
      (queue.removeByIdx i).2.toQueue
        = if i < 0 then queue.toQueue else (queue.toQueue.removeByIdx i.toNat).2 := by
  rw [removeByIdx, PacketQueue.removeByIdx]
  by_cases hneg : i < 0
  · simp [hneg]
  · by_cases hout : i ≥ queue.num
    · have hlen : ¬i.toNat < queue.toQueue.entries.length := by
        simp only [toQueue, length_entriesFrom]
        omega
      simp [hneg, hout, hlen]
    · have hlt : i.toNat < queue.num := by omega
      have hlen : i.toNat < queue.toQueue.entries.length := by simpa [toQueue] using hlt
      rw [if_neg (not_or.mpr ⟨hneg, hout⟩), if_neg hneg, if_neg hneg, dif_pos hlen]
      exact ⟨by simp [toQueue, entryAt], queue.toQueue_compactFrom hlt⟩

theorem toQueue_get (now : ℕ) :
    (queue.get now).1 = (queue.toQueue.get now).1 ∧
      (queue.get now).2.toQueue = (queue.toQueue.get now).2 := by
  have hbest := queue.bestIdxLoop_eq now 0 queue.num 0xFF none
  rw [get, PacketQueue.get, hbest]
  rcases PacketQueue.bestIdx_spec now (queue.entriesFrom 0 queue.num) 0 0xFF none with
    ⟨hnone, -⟩ | ⟨l, e, r, hsplit, hsome, -⟩
  · simp only [toQueue, hnone]
    exact ⟨rfl, rfl⟩
  · have hlt : l.length < queue.num := by
      have hlen := congrArg List.length hsplit
      rw [length_entriesFrom, List.length_append, List.length_cons] at hlen
      omega
    have hindex : l.length < queue.toQueue.entries.length := by simpa [toQueue] using hlt
    have hfound : PacketQueue.bestIdx now queue.toQueue.entries 0 0xFF none = some (0 + l.length) :=
      hsome
    rw [hsome, hfound, Option.elim_some, Option.elim_some, Nat.zero_add, PacketQueue.removeByIdx,
      dif_pos hindex]
    exact ⟨by simp [toQueue, entryAt], queue.toQueue_compactFrom hlt⟩

theorem toQueue_add (packet : PacketId) (priority : UInt8) (scheduledFor : ℕ) :
    (queue.add packet priority scheduledFor).1
        = (queue.toQueue.add packet priority scheduledFor).1 ∧
      (queue.add packet priority scheduledFor).2.toQueue
        = (queue.toQueue.add packet priority scheduledFor).2 := by
  rw [add, PacketQueue.add]
  by_cases hfull : queue.num ≥ queue.size
  · simp [toQueue, hfull]
  · have hroom : ¬queue.toQueue.entries.length ≥ queue.toQueue.size := by
      simpa [toQueue] using hfull
    rw [if_neg hfull, if_neg hroom]
    refine ⟨rfl, PacketQueue.mk.injEq .. ▸ ⟨?_, rfl⟩⟩
    -- the old entries are where they were, and the new one is behind them
    simp only [entriesFrom, toQueue]
    rw [List.range'_concat, List.map_append, List.map_singleton]
    congr 1
    · refine List.map_congr_left fun k hk => ?_
      have hne : k ≠ queue.num := by
        have := List.mem_range'_1.mp hk
        omega
      simp [entryAt, hne]
    · simp [entryAt]

theorem countBefore_eq (now : ℕ) : queue.countBefore now = queue.toQueue.countBefore now := by
  rw [countBefore, PacketQueue.countBefore, countBeforeLoop_eq, Nat.zero_add, toQueue,
    length_entriesFrom]

theorem nextScheduledGet_eq (now : ℕ) :
    queue.nextScheduledGet now = queue.toQueue.nextScheduledGet now :=
  queue.nextScheduledLoop_eq now 0 queue.num none

@[simp] theorem length_toQueue : queue.toQueue.entries.length = queue.num := length_entriesFrom ..

/-! ### Calls -/

/-- A call on the queue and what it returns. -/
def call (queue : QueueTables) : QueueCall QueueEntry ℕ → QueueAnswer PacketId × QueueTables
  | .add e =>
    let added := queue.add e.packet e.priority e.scheduledFor
    (.added added.1, added.2)
  | .get now =>
    let top := queue.get now
    (.gave top.1, top.2)
  | .removeByIdx i =>
    let item := queue.removeByIdx i
    (.gave item.1, item.2)

/-- A call that is turned down touches none of the tables. -/
theorem call_refuses {c : QueueCall QueueEntry ℕ} (h : (queue.call c).1.Refuses) :
    (queue.call c).2 = queue := by
  cases c with
  | add e =>
    simp only [call, add] at h ⊢
    split at h
    · rw [if_pos ‹_›]
    · exact absurd h (by simp [QueueAnswer.Refuses])
  | get now =>
    simp only [call, get] at h ⊢
    rcases hbest : queue.bestIdxLoop now 0 queue.num 0xFF none with _ | bestIdx
    · rfl
    · rw [hbest] at h
      exact absurd h (by simp [QueueAnswer.Refuses])
  | removeByIdx i =>
    simp only [call, removeByIdx] at h ⊢
    split at h
    · rw [if_pos ‹_›]
    · exact absurd h (by simp [QueueAnswer.Refuses])

/-- An entry is due at a time at or after its schedule. -/
def Due (now : ℕ) (e : QueueEntry) : Prop := ahead 32 now e.scheduledFor ≤ 0

/-- The tables hold the entries that wait, in their order. -/
structure Stands (capacity : ℕ) (queue : QueueTables) (s : Arrivals QueueEntry) : Prop where
  entries : queue.toQueue.entries = s.waiting.map Prod.snd
  size : queue.size = capacity
  priority : ∀ x ∈ s.waiting, x.2.priority < 0xFF
  sorted : s.Sorted

/-- What the queue may be asked to take. -/
def Fits : QueueCall QueueEntry ℕ → Prop
  | .add e => e.priority < 0xFF
  | _ => True

section

variable {capacity : ℕ} {queue : QueueTables} {s : Arrivals QueueEntry}

theorem Stands.split {l r : List QueueEntry} {e : QueueEntry} (h : Stands capacity queue s)
    (hsplit : queue.toQueue.entries = l ++ e :: r) :
    ∃ l' n r', s = ⟨s.count, l' ++ (n, e) :: r'⟩ ∧ l'.map Prod.snd = l ∧ r'.map Prod.snd = r := by
  rw [h.entries] at hsplit
  obtain ⟨l', rest, hwaiting, hl, hrest⟩ := List.map_eq_append_iff.mp hsplit
  obtain ⟨⟨n, e'⟩, r', rfl, rfl, hr⟩ := List.map_eq_cons_iff.mp hrest
  exact ⟨l', n, r', by rw [← hwaiting], hl, hr⟩

/-- The tables after an entry has left. -/
theorem Stands.remove {n m : ℕ} {l r : List (ℕ × QueueEntry)} {e : QueueEntry}
    {queue' : QueueTables} (h : Stands capacity queue ⟨n, l ++ (m, e) :: r⟩)
    (hqueue : queue'.toQueue
      = { queue.toQueue with entries := l.map Prod.snd ++ r.map Prod.snd }) :
    Stands capacity queue' ⟨n, l ++ r⟩ where
  entries := by rw [hqueue, List.map_append]
  size := (congrArg PacketQueue.size hqueue).trans h.size
  priority := fun x hx => h.priority x <|
    (List.Sublist.append_left (List.sublist_cons_self ..) l).subset hx
  sorted := h.sorted.remove

theorem Stands.of_toQueue {queue' : QueueTables} (h : Stands capacity queue s)
    (hqueue : queue'.toQueue = queue.toQueue) : Stands capacity queue' s where
  entries := by rw [hqueue, h.entries]
  size := (congrArg PacketQueue.size hqueue).trans h.size
  priority := h.priority
  sorted := h.sorted

/-- Taking from the tables gives the next entry, or nothing when none is due. -/
theorem get_step (h : Stands capacity queue s) (now : ℕ) :
    ∃ answer s', QueueStep Due (fun e => e.priority.toNat) capacity s (.get now) answer s' ∧
      (queue.call (.get now)).1 = answer.map QueueEntry.packet ∧
      Stands capacity (queue.call (.get now)).2 s' := by
  obtain ⟨hgave, hafter⟩ := queue.toQueue_get now
  have hdue : ∀ e, PacketQueue.isDue now e = true ↔ Due now e := fun e => decide_eq_true_iff
  rcases queue.toQueue.get_cases now with ⟨hnone, hall⟩ | ⟨l, e, r, hsplit, hchosen, -, hget⟩
  · refine ⟨.gave none, s, .nothing fun x hx hxdue => ?_, ?_, h.of_toQueue ?_⟩
    · have hmem : x.2 ∈ queue.toQueue.entries := by
        rw [h.entries]
        exact List.mem_map_of_mem hx
      exact UInt8.ne_of_lt (h.priority x hx) (hall x.2 hmem ((hdue _).mpr hxdue))
    · simp only [call, hgave, hnone, QueueAnswer.map, Option.map_none]
    · simp only [call, hafter, hnone]
  · obtain ⟨l', n, r', hs, rfl, rfl⟩ := h.split hsplit
    rw [hs] at h ⊢
    refine ⟨.gave (some e), _, .got (.of_split h.sorted ?_ ?_ ?_), ?_, h.remove ?_⟩
    · exact (hdue e).mp hchosen.due
    · intro y hy hydue
      exact UInt8.lt_iff_toNat_lt.mp
        (hchosen.before y.2 (List.mem_map_of_mem hy) ((hdue _).mpr hydue))
    · intro y hy hydue
      exact UInt8.le_iff_toNat_le.mp
        (hchosen.after y.2 (List.mem_map_of_mem hy) ((hdue _).mpr hydue))
    · simp only [call, hgave, hget, QueueAnswer.map, Option.map_some]
    · simp only [call, hafter, hget]

/-- An entry is put behind the others, when there is room. -/
theorem add_step (h : Stands capacity queue s) {e : QueueEntry} (he : e.priority < 0xFF) :
    ∃ answer s', QueueStep Due (fun e => e.priority.toNat) capacity s (.add e) answer s' ∧
      (queue.call (.add e)).1 = answer.map QueueEntry.packet ∧
      Stands capacity (queue.call (.add e)).2 s' := by
  obtain ⟨hok, hafter⟩ := queue.toQueue_add e.packet e.priority e.scheduledFor
  have hlen : queue.toQueue.entries.length = s.waiting.length := by
    rw [h.entries, List.length_map]
  have hsize : queue.toQueue.size = capacity := h.size
  rw [PacketQueue.add, hlen, hsize] at hok hafter
  rcases Nat.lt_or_ge s.waiting.length capacity with hroom | hfull
  · rw [if_neg (not_le.mpr hroom)] at hok hafter
    refine ⟨.added true, _, .added hroom, ?_, ?_⟩
    · simp only [call, hok, QueueAnswer.map]
    · simp only [call]
      refine ⟨?_, congrArg PacketQueue.size hafter, ?_, h.sorted.add e⟩
      · rw [hafter, List.map_append, ← h.entries]
        rfl
      · intro x hx
        rcases List.mem_append.mp hx with hold | hnew
        · exact h.priority x hold
        · rw [List.mem_singleton.mp hnew]
          exact he
  · rw [if_pos hfull] at hok hafter
    refine ⟨.added false, s, .full hfull, ?_, h.of_toQueue hafter⟩
    simp only [call, hok, QueueAnswer.map]

/-- The entry at an index leaves, when there is one. -/
theorem removeByIdx_step (h : Stands capacity queue s) (i : ℤ) :
    ∃ answer s', QueueStep Due (fun e => e.priority.toNat) capacity s (.removeByIdx i) answer s' ∧
      (queue.call (.removeByIdx i)).1 = answer.map QueueEntry.packet ∧
      Stands capacity (queue.call (.removeByIdx i)).2 s' := by
  obtain ⟨hgave, hafter⟩ := queue.toQueue_removeByIdx i
  have hlen : s.waiting.length = queue.num := by
    rw [← length_toQueue, h.entries, List.length_map]
  by_cases hin : 0 ≤ i ∧ i < queue.num
  · have hneg : ¬i < 0 := not_lt.mpr hin.1
    have hlt : i.toNat < queue.toQueue.entries.length := by
      rw [length_toQueue]
      omega
    obtain ⟨l, e, r, hsplit, hl, hremove⟩ := queue.toQueue.removeByIdx_eq hlt
    obtain ⟨l', n, r', hs, rfl, rfl⟩ := h.split hsplit
    rw [if_neg hneg, hremove] at hgave hafter
    have hi : i = (l'.length : ℤ) := by
      rw [List.length_map] at hl
      omega
    rw [hs] at h ⊢
    rw [hi] at hgave hafter ⊢
    refine ⟨.gave (some e), _, .removed, ?_, h.remove hafter⟩
    simp only [call, hgave, QueueAnswer.map, Option.map_some]
  · have hout : i < 0 ∨ i ≥ queue.num := by omega
    have hcall : queue.removeByIdx i = (none, queue) := if_pos hout
    refine ⟨.gave none, s, .outOfRange (by omega), ?_, h.of_toQueue ?_⟩
    · simp only [call, hcall, QueueAnswer.map, Option.map_none]
    · simp only [call, hcall]

/-- Each call is one of a queue of that size. -/
theorem call_step (h : Stands capacity queue s) (c : QueueCall QueueEntry ℕ) (hc : Fits c) :
    ∃ answer s', QueueStep Due (fun e => e.priority.toNat) capacity s c answer s' ∧
      (queue.call c).1 = answer.map QueueEntry.packet ∧ Stands capacity (queue.call c).2 s' := by
  cases c with
  | add e => exact add_step h hc
  | get now => exact get_step h now
  | removeByIdx i => exact removeByIdx_step h i

end

theorem stands_init {maxPoolSize maxEntries : ℕ} (h : maxEntries ≤ maxPoolSize) :
    Stands maxEntries (init maxPoolSize maxEntries).2 .empty := by
  have hempty : (init maxPoolSize maxEntries).2 = { deinit with size := maxEntries } := by
    rw [init, if_neg (not_lt.mpr h)]
    split
    · rename_i hzero
      rw [hzero]
      rfl
    · rfl
  rw [hempty]
  exact ⟨rfl, rfl, fun _ hx => absurd hx List.not_mem_nil, Arrivals.sorted_empty⟩

end QueueTables

/-- **What a queue hands out.** Asked for anything in any order, a queue answers as one that hands
out, of the entries that are due, the first by priority value and of these the oldest, that gives
the entry at an index, and that takes an entry as long as it is not full; its tables hold the
entries that wait, in the order in which they were added. A call that is turned down leaves it as it
was. -/
theorem queue_serves (maxPoolSize maxEntries : ℕ) (hsize : maxEntries ≤ maxPoolSize)
    (calls : List (QueueCall QueueEntry ℕ))
    (hpriority : ∀ e, .add e ∈ calls → e.priority.toNat < 255) :
    ∃ log s queue, QueueRun QueueTables.Due (fun e => e.priority.toNat) maxEntries .empty log s ∧
      log.map Prod.fst = calls ∧
      runCalls QueueTables.call (QueueTables.init maxPoolSize maxEntries).2 calls
        = (log.map (·.2.map QueueEntry.packet), queue) ∧
      queue.num = s.waiting.length ∧ (∀ j, ∀ h : j < s.waiting.length,
        queue.entryAt j = (s.waiting.get ⟨j, h⟩).2) ∧
      ∀ c, (queue.call c).1.Refuses → (queue.call c).2 = queue := by
  have hfits : ∀ c ∈ calls, QueueTables.Fits c := by
    intro c hc
    cases c with
    | add e => exact UInt8.lt_iff_toNat_lt.mpr (hpriority e hc)
    | get | removeByIdx => trivial
  have hstep : ∀ queue s c, QueueTables.Stands maxEntries queue s → QueueTables.Fits c →
      ∃ answer s', QueueStep QueueTables.Due (fun e => e.priority.toNat) maxEntries s c answer s' ∧
        (queue.call c).1 = answer.map QueueEntry.packet ∧
        QueueTables.Stands maxEntries (queue.call c).2 s' :=
    fun _ _ c h hc => QueueTables.call_step h c hc
  obtain ⟨log, s, hrun, hcalls, hanswers, hstands⟩ :=
    QueueRun.of_step hstep (QueueTables.stands_init hsize) hfits
  refine ⟨log, s, _, hrun, hcalls, Prod.ext hanswers.symm rfl, ?_, ?_, fun c h => ?_⟩
  · rw [← QueueTables.length_toQueue, hstands.entries, List.length_map]
  · intro j hj
    have hlen : j < (s.waiting.map Prod.snd).length := by rwa [List.length_map]
    have hmap : (s.waiting.map Prod.snd)[j] = (s.waiting.get ⟨j, hj⟩).2 := List.getElem_map ..
    rw [← hmap]
    simp only [← hstands.entries, QueueTables.toQueue, QueueTables.getElem_entriesFrom,
      Nat.zero_add]
  · exact QueueTables.call_refuses _ h

theorem queue_serves_two :
    ∃ log s queue, QueueRun QueueTables.Due (fun e => e.priority.toNat) 2 .empty log s ∧
      log.map Prod.fst = [.add ⟨0, 5, 10⟩, .add ⟨1, 1, 10⟩, .get 10] ∧
      runCalls QueueTables.call (QueueTables.init 4 2).2 [.add ⟨0, 5, 10⟩, .add ⟨1, 1, 10⟩, .get 10]
        = (log.map (·.2.map QueueEntry.packet), queue) := by
  have hpriority : ∀ e : QueueEntry,
      QueueCall.add e ∈ [QueueCall.add ⟨0, 5, 10⟩, .add ⟨1, 1, 10⟩, .get 10] →
      e.priority.toNat < 255 := by
    intro e he
    simp only [List.mem_cons, QueueCall.add.injEq, List.not_mem_nil, or_false, reduceCtorEq] at he
    rcases he with rfl | rfl <;> decide
  obtain ⟨log, s, queue, hrun, hcalls, hanswers, -⟩ := queue_serves 4 2 (by decide) _ hpriority
  exact ⟨log, s, queue, hrun, hcalls, hanswers⟩

example : (runCalls QueueTables.call (QueueTables.init 4 2).2
    [.add ⟨0, 5, 10⟩, .add ⟨1, 1, 10⟩, .add ⟨2, 0, 10⟩, .get 10, .get 9, .removeByIdx 0]).1
    = [.added true, .added true, .added false, .gave (some 1), .gave none, .gave (some 0)] := by
  decide

/-! ### The three views of a queue -/

namespace PacketQueue

/-- Something is handed out when something is due that does not have priority `0xFF`. -/
theorem isSome_get_iff (queue : PacketQueue) (now : ℕ) :
    (queue.get now).1.isSome ↔ ∃ e ∈ queue.entries, isDue now e = true ∧ e.priority ≠ 0xFF := by
  rcases queue.get_cases now with ⟨hnone, hall⟩ | ⟨l, e, r, hsplit, hchosen, hpri, hget⟩
  · rw [hnone]
    refine ⟨fun h => absurd h (by simp), ?_⟩
    rintro ⟨e, he, hdue, hpri⟩
    exact absurd (hall e he hdue) hpri
  · rw [hget]
    refine ⟨fun _ => ⟨e, ?_, hchosen.due, hpri⟩, fun _ => rfl⟩
    rw [hsplit]
    exact List.mem_append_right _ (List.mem_cons_self ..)

/-- At the last time of the clock every entry counts, at the others those that are due. -/
theorem countBefore_pos_iff (queue : PacketQueue) (now : ℕ) :
    0 < queue.countBefore now ↔
      if now = 2 ^ 32 - 1 then queue.entries ≠ [] else ∃ e ∈ queue.entries, isDue now e = true := by
  rw [countBefore]
  split
  · exact List.length_pos_iff
  · exact List.countP_pos_iff

/-- The next time is now when something is due. -/
theorem nextScheduled_eq_now_iff {now : ℕ} (es : List QueueEntry) {best : Option ℕ}
    (hbest : best ≠ some now) :
    nextScheduled now es best = some now ↔ ∃ e ∈ es, isDue now e = true := by
  induction es generalizing best with
  | nil =>
    rw [nextScheduled]
    exact ⟨fun h => absurd h hbest, fun ⟨_, he, _⟩ => absurd he List.not_mem_nil⟩
  | cons e es ih =>
    rw [nextScheduled]
    split
    · rename_i hdue
      exact ⟨fun _ => ⟨e, List.mem_cons_self .., hdue⟩, fun _ => rfl⟩
    · rename_i hdue
      -- an entry that is not due is scheduled for another time
      have hother : e.scheduledFor ≠ now := by
        rintro rfl
        exact hdue (by simp [isDue])
      rw [ih ?_]
      · simp [hdue]
      · cases best with
        | none => simpa using hother
        | some b =>
          have hb : b ≠ now := fun h => hbest (congrArg some h)
          rw [Option.elim_some]
          split
          · simpa using hother
          · simpa using hb

end PacketQueue

/-- What the tables hold, entry by entry. -/
theorem QueueTables.exists_mem_iff (queue : QueueTables) (p : QueueEntry → Prop) :
    (∃ e ∈ queue.toQueue.entries, p e) ↔ ∃ j < queue.num, p (queue.entryAt j) := by
  simp [toQueue, entriesFrom]

/-- **The three views of a queue.** A queue hands something out exactly when it counts something,
and exactly when its next time is now, as long as, when an entry is due, one is due whose priority
is not `0xFF`; and, at the last time of the clock, the queue is empty or something is due. -/
theorem queue_views_agree_iff (queue : QueueTables) (now : ℕ) :
    (((queue.get now).1.isSome ↔ 0 < queue.countBefore now) ∧
        (0 < queue.countBefore now ↔ queue.nextScheduledGet now = some now)) ↔
      ((∃ j < queue.num, ahead 32 now (queue.scheduleTable j) ≤ 0) →
        ∃ j < queue.num, ahead 32 now (queue.scheduleTable j) ≤ 0 ∧ queue.priTable j ≠ 0xFF) ∧
      (now = 2 ^ 32 - 1 → queue.num = 0 ∨
        ∃ j < queue.num, ahead 32 now (queue.scheduleTable j) ≤ 0) := by
  have hdue : ∀ e, PacketQueue.isDue now e = true ↔ ahead 32 now e.scheduledFor ≤ 0 := fun e =>
    decide_eq_true_iff
  have hget := queue.toQueue.isSome_get_iff now
  have hcount := queue.toQueue.countBefore_pos_iff now
  have hnext := PacketQueue.nextScheduled_eq_now_iff queue.toQueue.entries
    (Option.some_ne_none now).symm
  have hempty : queue.toQueue.entries ≠ [] ↔ queue.num ≠ 0 := by
    rw [← QueueTables.length_toQueue, ne_eq, ne_eq, List.length_eq_zero_iff]
  simp only [QueueTables.exists_mem_iff, hdue] at hget hcount hnext
  rw [(queue.toQueue_get now).1, hget, queue.countBefore_eq, hcount, queue.nextScheduledGet_eq,
    PacketQueue.nextScheduledGet, hnext, hempty]
  simp only [QueueTables.entryAt]
  have hsome : (∃ j < queue.num, ahead 32 now (queue.scheduleTable j) ≤ 0) → queue.num ≠ 0 := by
    rintro ⟨j, hj, -⟩
    exact (Nat.zero_lt_of_lt hj).ne'
  have htaken : (∃ j < queue.num, ahead 32 now (queue.scheduleTable j) ≤ 0 ∧
      queue.priTable j ≠ 0xFF) → ∃ j < queue.num, ahead 32 now (queue.scheduleTable j) ≤ 0 := by
    rintro ⟨j, hj, h, -⟩
    exact ⟨j, hj, h⟩
  split
  · rename_i hlast
    constructor
    · rintro ⟨hgot, hnow⟩
      exact ⟨fun h => hgot.mpr (hsome h), fun _ => (em (queue.num = 0)).imp_right hnow.mp⟩
    · rintro ⟨hgot, hnow⟩
      have hany := fun hne : queue.num ≠ 0 => (hnow hlast).resolve_left hne
      exact ⟨⟨fun h => hsome (htaken h), fun hne => hgot (hany hne)⟩, ⟨hany, hsome⟩⟩
  · rename_i hlast
    constructor
    · rintro ⟨hgot, -⟩
      exact ⟨hgot.mpr, fun h => absurd h hlast⟩
    · rintro ⟨hgot, -⟩
      exact ⟨⟨htaken, hgot⟩, Iff.rfl⟩

/-- A packet of priority `0xFF` that is due. -/
def QueueTables.stuck : QueueTables := ((QueueTables.init 1 1).2.add 0 0xFF 10).2

/-- It is counted and makes the timer fire at once, but it is never handed out. -/
theorem queue_views_disagree :
    ¬(((QueueTables.stuck.get 10).1.isSome ↔ 0 < QueueTables.stuck.countBefore 10) ∧
      (0 < QueueTables.stuck.countBefore 10 ↔
        QueueTables.stuck.nextScheduledGet 10 = some 10)) := by
  decide

end Meshcore
