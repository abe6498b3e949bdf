import Meshcore.Lib.Circular
import Meshcore.Packet

/-!
# The packet pool and its queues

`support/meshcore_packet_manager.c`. The manager owns a fixed array of packet buffers and three
queues of pointers into it. A pointer is the buffer's index here, and the three parallel tables
of a queue are one list of entries, whose length is the source's `num`.

Times are 32-bit values kept as naturals below `2 ^ 32`; `(int32_t)(a - b)` is `ahead 32 b a`.

## Main definitions

* `PacketQueue`, `PacketQueueManager` and their operations, under the source's names
* `PacketQueueManager.Conserves` — every buffer is in one queue, or with the caller, exactly once

## Main results

* `PacketQueue.get_cases` — taking from a queue removes the chosen entry, which was due
* `Conserves.allocNew`, `Conserves.free`, `Conserves.queueOutbound`, `Conserves.queueInbound`,
  `Conserves.getNextOutbound`, `Conserves.getNextInbound` — each operation moves one buffer
  between a queue and the caller and loses none
-/

namespace Meshcore

/-- A pointer into the pool, as an index. -/
abbrev PacketId : Type := ℕ

/-- One position of the three tables of a queue. -/
structure QueueEntry where
  packet : PacketId
  priority : UInt8
  scheduledFor : ℕ
deriving DecidableEq, Inhabited

/-- `struct meshcore_packet_queue`. -/
structure PacketQueue where
  entries : List QueueEntry
  size : ℕ
deriving DecidableEq

namespace PacketQueue

/-- `meshcore_packet_queue_deinit`: every field zero. -/
def empty : PacketQueue := ⟨[], 0⟩

/-- `meshcore_packet_queue_init`, for a storage of `maxPoolSize` entries. -/
def init (maxPoolSize maxEntries : ℕ) : Bool × PacketQueue :=
  if maxEntries > maxPoolSize then (false, empty)
  else (true, ⟨[], maxEntries⟩)

/-- The buffers in a queue, in order. -/
def ids (queue : PacketQueue) : List PacketId := queue.entries.map QueueEntry.packet

/-- An entry is due when its schedule is not ahead of `now`. -/
def isDue (now : ℕ) (entry : QueueEntry) : Bool := decide (ahead 32 now entry.scheduledFor ≤ 0)

/-- The loop of `meshcore_packet_queue_get`: the first due entry of the least priority value below
`minPri`. An entry of priority `0xFF` is never taken. -/
def bestIdx (now : ℕ) : List QueueEntry → ℕ → UInt8 → Option ℕ → Option ℕ
  | [], _, _, best => best
  | e :: es, j, minPri, best =>
    if !isDue now e then bestIdx now es (j + 1) minPri best
    else if e.priority < minPri then bestIdx now es (j + 1) e.priority (some j)
    else bestIdx now es (j + 1) minPri best

/-- `meshcore_packet_queue_remove_by_idx`. -/
def removeByIdx (queue : PacketQueue) (i : ℕ) : Option PacketId × PacketQueue :=
  if h : i < queue.entries.length then
    (some queue.entries[i].packet, { queue with entries := queue.entries.eraseIdx i })
  else (none, queue)

/-- `meshcore_packet_queue_get`. -/
def get (queue : PacketQueue) (now : ℕ) : Option PacketId × PacketQueue :=
  (bestIdx now queue.entries 0 0xFF none).elim (none, queue) queue.removeByIdx

/-- `meshcore_packet_queue_add`. -/
def add (queue : PacketQueue) (packet : PacketId) (priority : UInt8) (scheduledFor : ℕ) :
    Bool × PacketQueue :=
  if queue.entries.length ≥ queue.size then (false, queue)
  else (true, { queue with entries := queue.entries ++ [⟨packet, priority, scheduledFor⟩] })

/-- `meshcore_packet_queue_count`. -/
def count (queue : PacketQueue) : ℕ := queue.entries.length

/-- `meshcore_packet_queue_count_before`. -/
def countBefore (queue : PacketQueue) (now : ℕ) : ℕ :=
  if now = 2 ^ 32 - 1 then queue.entries.length else queue.entries.countP (isDue now)

/-- The loop of `meshcore_packet_queue_next_scheduled_get`. -/
def nextScheduled (now : ℕ) : List QueueEntry → Option ℕ → Option ℕ
  | [], best => best
  | e :: es, best =>
    if isDue now e then some now
    else nextScheduled now es <| some <|
      best.elim e.scheduledFor fun b => if ahead 32 b e.scheduledFor < 0 then e.scheduledFor else b

/-- `meshcore_packet_queue_next_scheduled_get`: `now` itself as soon as some entry is due. -/
def nextScheduledGet (queue : PacketQueue) (now : ℕ) : Option ℕ :=
  nextScheduled now queue.entries none

/-! ### Taking and adding -/

theorem ids_add {queue : PacketQueue} (hroom : queue.entries.length < queue.size) (id : PacketId)
    (pri : UInt8) (scheduledFor : ℕ) :
    (queue.add id pri scheduledFor).1 = true ∧
      (queue.add id pri scheduledFor).2.ids = queue.ids ++ [id] ∧
      (queue.add id pri scheduledFor).2.size = queue.size := by
  simp [add, ids, Nat.not_le.mpr hroom]

/-- Removing an entry by its index. -/
theorem removeByIdx_eq (queue : PacketQueue) {i : ℕ} (hi : i < queue.entries.length) :
    ∃ l e r, queue.entries = l ++ e :: r ∧ l.length = i ∧
      queue.removeByIdx i = (some e.packet, { queue with entries := l ++ r }) := by
  refine ⟨queue.entries.take i, queue.entries[i], queue.entries.drop (i + 1), ?_, ?_, ?_⟩
  · rw [List.getElem_cons_drop hi, List.take_append_drop]
  · rw [List.length_take]; omega
  · rw [removeByIdx, dif_pos hi, List.eraseIdx_eq_take_drop_succ]

/-- Where the loop ends up in `l ++ e :: r`: `e` is due, no entry that is due has a lesser priority
value, and none before it has the same. -/
structure Chosen (now : ℕ) (l : List QueueEntry) (e : QueueEntry) (r : List QueueEntry) : Prop where
  due : isDue now e = true
  before : ∀ x ∈ l, isDue now x = true → e.priority < x.priority
  after : ∀ x ∈ r, isDue now x = true → e.priority ≤ x.priority

/-- The loop keeps the index it started with when nothing that is due comes below `minPri`, and goes
to the chosen entry otherwise. -/
theorem bestIdx_spec (now : ℕ) (es : List QueueEntry) (j : ℕ) (minPri : UInt8) (best : Option ℕ) :
    (bestIdx now es j minPri best = best ∧ ∀ x ∈ es, isDue now x = true → minPri ≤ x.priority) ∨
      ∃ l e r, es = l ++ e :: r ∧ bestIdx now es j minPri best = some (j + l.length) ∧
        Chosen now l e r ∧ e.priority < minPri := by
  induction es generalizing j minPri best with
  | nil => exact .inl ⟨rfl, fun _ hx => absurd hx List.not_mem_nil⟩
  | cons e es ih =>
    -- an entry that is passed over is no better than what the loop has
    have hskip : (isDue now e = true → minPri ≤ e.priority) →
        (bestIdx now es (j + 1) minPri best = best ∧
          ∀ x ∈ e :: es, isDue now x = true → minPri ≤ x.priority) ∨
        ∃ l x r, e :: es = l ++ x :: r ∧
          bestIdx now es (j + 1) minPri best = some (j + l.length) ∧
          Chosen now l x r ∧ x.priority < minPri := by
      intro hpass
      rcases ih (j + 1) minPri best with ⟨hbest, hall⟩ | ⟨l, x, r, rfl, hbest, hchosen, hlt⟩
      · exact .inl ⟨hbest, List.forall_mem_cons.mpr ⟨hpass, hall⟩⟩
      · refine .inr ⟨e :: l, x, r, rfl, ?_, ⟨hchosen.due, ?_, hchosen.after⟩, hlt⟩
        · rw [hbest, List.length_cons, Nat.add_assoc, Nat.add_comm 1]
        · exact List.forall_mem_cons.mpr
            ⟨fun hdue => UInt8.lt_of_lt_of_le hlt (hpass hdue), hchosen.before⟩
    rw [bestIdx]
    split
    · rename_i hdue
      exact hskip fun h => absurd hdue (by simp [h])
    · rename_i hdue
      have hdue : isDue now e = true := by simpa using hdue
      split
      · rename_i hlt
        rcases ih (j + 1) e.priority (some j)
          with ⟨hbest, hall⟩ | ⟨l, x, r, rfl, hbest, hchosen, hx⟩
        · exact .inr ⟨[], e, es, rfl, hbest, ⟨hdue, fun _ h => absurd h List.not_mem_nil, hall⟩,
            hlt⟩
        · refine .inr ⟨e :: l, x, r, rfl, ?_, ⟨hchosen.due, ?_, hchosen.after⟩,
            UInt8.lt_trans hx hlt⟩
          · rw [hbest, List.length_cons, Nat.add_assoc, Nat.add_comm 1]
          · exact List.forall_mem_cons.mpr ⟨fun _ => hx, hchosen.before⟩
      · rename_i hge
        exact hskip fun _ => UInt8.not_lt.mp hge

/-- Taking from a queue finds nothing, when all that is due has priority `0xFF`, and leaves it
alone, or it removes the chosen entry. -/
theorem get_cases (queue : PacketQueue) (now : ℕ) :
    (queue.get now = (none, queue) ∧
      ∀ x ∈ queue.entries, isDue now x = true → x.priority = 0xFF) ∨
      ∃ l e r, queue.entries = l ++ e :: r ∧ Chosen now l e r ∧ e.priority ≠ 0xFF ∧
        queue.get now = (some e.packet, { queue with entries := l ++ r }) := by
  rw [get]
  rcases bestIdx_spec now queue.entries 0 0xFF none with
    ⟨hbest, hall⟩ | ⟨l, e, r, hsplit, hbest, hchosen, hlt⟩
  · exact .inl ⟨by rw [hbest]; rfl, fun x hx hdue =>
      UInt8.le_antisymm (UInt8.le_iff_toNat_le.mpr (Nat.le_of_lt_succ x.priority.toNat_lt))
        (hall x hx hdue)⟩
  · have hlen : l.length < queue.entries.length := by simp [hsplit]
    obtain ⟨l', e', r', hsplit', hl', hget⟩ := removeByIdx_eq queue hlen
    obtain ⟨rfl, hcons⟩ := List.append_inj (hsplit'.symm.trans hsplit) hl'
    obtain ⟨rfl, rfl⟩ := List.cons.inj hcons
    refine .inr ⟨l', e', r', hsplit, hchosen, UInt8.ne_of_lt hlt, ?_⟩
    rw [hbest, Nat.zero_add]
    exact hget

/-- Taking from a queue finds nothing and leaves it alone, or removes one entry that was due. -/
theorem get_eq (queue : PacketQueue) (now : ℕ) :
    queue.get now = (none, queue) ∨
      ∃ l e r, queue.entries = l ++ e :: r ∧ isDue now e = true ∧
        queue.get now = (some e.packet, { queue with entries := l ++ r }) := by
  rcases queue.get_cases now with ⟨hnone, -⟩ | ⟨l, e, r, hsplit, hchosen, -, hget⟩
  · exact .inl hnone
  · exact .inr ⟨l, e, r, hsplit, hchosen.due, hget⟩

end PacketQueue

/-- `struct meshcore_packet_queue_manager`. -/
structure PacketQueueManager where
  packetBuf : PacketId → Packet
  poolSize : ℕ
  initialized : Bool
  unused : PacketQueue
  sendQueue : PacketQueue
  rxQueue : PacketQueue

namespace PacketQueueManager

/-- `meshcore_packet_queue_manager_deinit`: every field zero. -/
def deinit : PacketQueueManager where
  packetBuf := fun _ => Packet.init
  poolSize := 0
  initialized := false
  unused := .empty
  sendQueue := .empty
  rxQueue := .empty

instance : Inhabited PacketQueueManager := ⟨deinit⟩

/-- The loop of `meshcore_packet_queue_manager_prepare`, over the last `n` of `poolSize` buffers. -/
def prepareFrom (manager : PacketQueueManager) : ℕ → PacketQueueManager
  | 0 => { manager with initialized := true }
  | n + 1 =>
    let i := manager.poolSize - (n + 1)
    let manager := { manager with packetBuf := Function.update manager.packetBuf i Packet.init }
    let added := manager.unused.add i 0 0
    if !added.1 then deinit else prepareFrom { manager with unused := added.2 } n

/-- `meshcore_packet_queue_manager_prepare`, for a storage of `maxPoolSize` buffers. -/
def prepare (maxPoolSize poolSize : ℕ) : PacketQueueManager :=
  if poolSize = 0 then deinit
  else if poolSize > maxPoolSize then deinit
  else
    let unused := PacketQueue.init maxPoolSize poolSize
    let sendQueue := PacketQueue.init maxPoolSize poolSize
    let rxQueue := PacketQueue.init maxPoolSize poolSize
    if !unused.1 || !sendQueue.1 || !rxQueue.1 then deinit
    else
      prepareFrom { deinit with
        poolSize, unused := unused.2, sendQueue := sendQueue.2, rxQueue := rxQueue.2 } poolSize

/-- `meshcore_packet_queue_manager_alloc_new`. -/
def allocNew (manager : PacketQueueManager) : Option PacketId × PacketQueueManager :=
  if !manager.initialized then (none, manager)
  else
    let taken := manager.unused.removeByIdx 0
    (taken.1, { manager with unused := taken.2 })

/-- `meshcore_packet_queue_manager_free`. -/
def free (manager : PacketQueueManager) (packet : PacketId) : PacketQueueManager :=
  if !manager.initialized then manager
  else { manager with unused := (manager.unused.add packet 0 0).2 }

/-- `meshcore_packet_queue_manager_queue_outbound`. -/
def queueOutbound (manager : PacketQueueManager) (packet : PacketId) (priority : UInt8)
    (scheduledFor : ℕ) : PacketQueueManager :=
  if !manager.initialized then manager
  else
    let added := manager.sendQueue.add packet priority scheduledFor
    if !added.1 then manager.free packet else { manager with sendQueue := added.2 }

/-- `meshcore_packet_queue_manager_queue_inbound`. -/
def queueInbound (manager : PacketQueueManager) (packet : PacketId) (scheduledFor : ℕ) :
    PacketQueueManager :=
  if !manager.initialized then manager
  else
    let added := manager.rxQueue.add packet 0 scheduledFor
    if !added.1 then manager.free packet else { manager with rxQueue := added.2 }

/-- `meshcore_packet_queue_manager_get_next_outbound`. -/
def getNextOutbound (manager : PacketQueueManager) (now : ℕ) :
    Option PacketId × PacketQueueManager :=
  if !manager.initialized then (none, manager)
  else
    let taken := manager.sendQueue.get now
    (taken.1, { manager with sendQueue := taken.2 })

/-- `meshcore_packet_queue_manager_get_next_inbound`. -/
def getNextInbound (manager : PacketQueueManager) (now : ℕ) :
    Option PacketId × PacketQueueManager :=
  if !manager.initialized then (none, manager)
  else
    let taken := manager.rxQueue.get now
    (taken.1, { manager with rxQueue := taken.2 })

/-- `meshcore_packet_queue_manager_get_outbound_count`. -/
def getOutboundCount (manager : PacketQueueManager) (now : ℕ) : ℕ :=
  if !manager.initialized then 0 else manager.sendQueue.countBefore now

/-- `meshcore_packet_queue_manager_get_outbound_total`. -/
def getOutboundTotal (manager : PacketQueueManager) : ℕ :=
  if !manager.initialized then 0 else manager.sendQueue.count

/-- `meshcore_packet_queue_manager_get_free_count`. -/
def getFreeCount (manager : PacketQueueManager) : ℕ :=
  if !manager.initialized then manager.poolSize else manager.unused.count

/-- `meshcore_packet_queue_manager_next_outbound_scheduled_get`. -/
def nextOutboundScheduledGet (manager : PacketQueueManager) (now : ℕ) : Option ℕ :=
  if !manager.initialized then none else manager.sendQueue.nextScheduledGet now

/-- `meshcore_packet_queue_manager_next_inbound_scheduled_get`. -/
def nextInboundScheduledGet (manager : PacketQueueManager) (now : ℕ) : Option ℕ :=
  if !manager.initialized then none else manager.rxQueue.nextScheduledGet now

/-- A buffer written through a pointer. -/
def write (manager : PacketQueueManager) (id : PacketId) (packet : Packet) : PacketQueueManager :=
  { manager with packetBuf := Function.update manager.packetBuf id packet }

/-! ### What an operation leaves alone -/

section

variable (manager : PacketQueueManager) (id : PacketId) (pri : UInt8) (scheduledFor now : ℕ)

@[simp] theorem poolSize_allocNew : manager.allocNew.2.poolSize = manager.poolSize := by
  rw [allocNew]; split <;> rfl

@[simp] theorem rxQueue_allocNew : manager.allocNew.2.rxQueue = manager.rxQueue := by
  rw [allocNew]; split <;> rfl

@[simp] theorem packetBuf_allocNew : manager.allocNew.2.packetBuf = manager.packetBuf := by
  rw [allocNew]; split <;> rfl

@[simp] theorem poolSize_free : (manager.free id).poolSize = manager.poolSize := by
  rw [free]; split <;> rfl

@[simp] theorem rxQueue_free : (manager.free id).rxQueue = manager.rxQueue := by
  rw [free]; split <;> rfl

@[simp] theorem packetBuf_free : (manager.free id).packetBuf = manager.packetBuf := by
  rw [free]; split <;> rfl

theorem queueOutbound_cases : manager.queueOutbound id pri scheduledFor = manager ∨
    manager.queueOutbound id pri scheduledFor = manager.free id ∨
    ∃ q, manager.queueOutbound id pri scheduledFor = { manager with sendQueue := q } := by
  rw [queueOutbound]
  split
  · exact .inl rfl
  · dsimp only
    split
    · exact .inr (.inl rfl)
    · exact .inr (.inr ⟨_, rfl⟩)

@[simp] theorem poolSize_queueOutbound :
    (manager.queueOutbound id pri scheduledFor).poolSize = manager.poolSize := by
  rcases manager.queueOutbound_cases id pri scheduledFor with h | h | ⟨q, h⟩ <;> simp [h]

@[simp] theorem rxQueue_queueOutbound :
    (manager.queueOutbound id pri scheduledFor).rxQueue = manager.rxQueue := by
  rcases manager.queueOutbound_cases id pri scheduledFor with h | h | ⟨q, h⟩ <;> simp [h]

@[simp] theorem packetBuf_queueOutbound :
    (manager.queueOutbound id pri scheduledFor).packetBuf = manager.packetBuf := by
  rcases manager.queueOutbound_cases id pri scheduledFor with h | h | ⟨q, h⟩ <;> simp [h]

@[simp] theorem poolSize_queueInbound :
    (manager.queueInbound id scheduledFor).poolSize = manager.poolSize := by
  rw [queueInbound]
  split
  · rfl
  · dsimp only
    split
    · simp
    · rfl

@[simp] theorem poolSize_getNextInbound :
    (manager.getNextInbound now).2.poolSize = manager.poolSize := by
  rw [getNextInbound]; split <;> rfl

@[simp] theorem poolSize_getNextOutbound :
    (manager.getNextOutbound now).2.poolSize = manager.poolSize := by
  rw [getNextOutbound]; split <;> rfl

theorem mem_rxQueue_queueInbound {id' : PacketId}
    (h : id' ∈ (manager.queueInbound id scheduledFor).rxQueue.ids) :
    id' ∈ manager.rxQueue.ids ∨ id' = id := by
  rw [queueInbound] at h
  split at h
  · exact .inl h
  · dsimp only at h
    split at h
    · exact .inl (by simpa using h)
    · rename_i hadd
      rw [PacketQueue.add] at h hadd
      split at h
      · exact .inl h
      · simpa [PacketQueue.ids] using h

@[simp] theorem packetBuf_queueInbound :
    (manager.queueInbound id scheduledFor).packetBuf = manager.packetBuf := by
  rw [queueInbound]
  split
  · rfl
  · dsimp only
    split
    · simp
    · rfl

@[simp] theorem packetBuf_getNextInbound :
    (manager.getNextInbound now).2.packetBuf = manager.packetBuf := by
  rw [getNextInbound]; split <;> rfl

@[simp] theorem packetBuf_getNextOutbound :
    (manager.getNextOutbound now).2.packetBuf = manager.packetBuf := by
  rw [getNextOutbound]; split <;> rfl

@[simp] theorem rxQueue_getNextOutbound :
    (manager.getNextOutbound now).2.rxQueue = manager.rxQueue := by
  rw [getNextOutbound]; split <;> rfl

/-- What is taken from the receive queue was in it, and the rest stays. -/
theorem mem_rxQueue_of_getNextInbound {id' : PacketId}
    (h : (manager.getNextInbound now).1 = some id' ∨
      id' ∈ (manager.getNextInbound now).2.rxQueue.ids) : id' ∈ manager.rxQueue.ids := by
  rw [getNextInbound] at h
  split at h
  · simpa using h
  · rcases manager.rxQueue.get_eq now with hnone | ⟨l, e, r, hsplit, -, hget⟩
    · simpa [hnone] using h
    · simp only [hget, Option.some.injEq, PacketQueue.ids, hsplit, List.map_append, List.map_cons,
        List.mem_append, List.mem_cons] at h ⊢
      tauto

end

/-! ### Conservation -/

/-- Every buffer of the pool is in one of the three queues, or in the list `held` of those that
are nowhere in the manager, exactly once; each queue has room for the whole pool. -/
structure Conserves (manager : PacketQueueManager) (held : List PacketId) : Prop where
  initialized : manager.initialized = true
  size_unused : manager.unused.size = manager.poolSize
  size_sendQueue : manager.sendQueue.size = manager.poolSize
  size_rxQueue : manager.rxQueue.size = manager.poolSize
  perm : (manager.unused.ids ++ manager.sendQueue.ids ++ manager.rxQueue.ids ++ held).Perm
    (List.range manager.poolSize)

namespace Conserves

variable {manager : PacketQueueManager} {held : List PacketId} {id : PacketId}

theorem ready (h : manager.Conserves held) : ¬(!manager.initialized) = true := by
  simp [h.initialized]

/-- The buffers add up to the pool. -/
theorem length_eq (h : manager.Conserves held) :
    manager.unused.entries.length + manager.sendQueue.entries.length +
      manager.rxQueue.entries.length + held.length = manager.poolSize := by
  have := h.perm.length_eq
  simpa [PacketQueue.ids, Nat.add_assoc] using this

/-- No buffer is in two places. -/
theorem nodup (h : manager.Conserves held) :
    (manager.unused.ids ++ manager.sendQueue.ids ++ manager.rxQueue.ids ++ held).Nodup :=
  h.perm.nodup_iff.mpr List.nodup_range

/-- A held buffer is not in the receive queue. -/
theorem not_mem_rxQueue (h : manager.Conserves held) (hid : id ∈ held) :
    id ∉ manager.rxQueue.ids := by
  have hdisjoint := (List.nodup_append.mp h.nodup).2.2
  exact fun hrx => hdisjoint id (List.mem_append_right _ hrx) id hid rfl

/-- Nor is it in the send queue. -/
theorem not_mem_sendQueue (h : manager.Conserves held) (hid : id ∈ held) :
    id ∉ manager.sendQueue.ids := by
  have hdisjoint := (List.nodup_append.mp h.nodup).2.2
  exact fun hsend =>
    hdisjoint id (List.mem_append_left _ (List.mem_append_right _ hsend)) id hid rfl

theorem write (h : manager.Conserves held) (packet : Packet) :
    (manager.write id packet).Conserves held :=
  ⟨h.initialized, h.size_unused, h.size_sendQueue, h.size_rxQueue, h.perm⟩

/-- Allocating fails and changes nothing, or hands over a buffer that was unused. -/
theorem allocNew (h : manager.Conserves held) :
    (manager.allocNew = (none, manager)) ∨
      ∃ id m, manager.allocNew = (some id, m) ∧ m.Conserves (id :: held) ∧
        m.poolSize = manager.poolSize := by
  rw [PacketQueueManager.allocNew, if_neg h.ready]
  rcases hunused : manager.unused.entries with _ | ⟨e, es⟩
  · left
    simp [PacketQueue.removeByIdx, hunused]
  · right
    refine ⟨e.packet, { manager with unused := { manager.unused with entries := es } }, ?_, ?_,
      rfl⟩
    · simp [PacketQueue.removeByIdx, hunused]
    · refine ⟨h.initialized, h.size_unused, h.size_sendQueue, h.size_rxQueue, ?_⟩
      refine (List.perm_iff_count.mpr fun x => ?_).trans h.perm
      simp only [PacketQueue.ids, hunused, List.map_cons, List.count_append, List.count_cons]
      omega

/-- What is handed over was unused. -/
theorem mem_unused_of_allocNew (h : manager.Conserves held) (hid : manager.allocNew.1 = some id) :
    id ∈ manager.unused.ids := by
  rw [PacketQueueManager.allocNew, if_neg h.ready] at hid
  rcases hunused : manager.unused.entries with _ | ⟨e, es⟩
  · simp [PacketQueue.removeByIdx, hunused] at hid
  · simp only [PacketQueue.removeByIdx, hunused, List.length_cons, Nat.zero_lt_succ, dite_true,
      List.getElem_cons_zero, Option.some.injEq] at hid
    simp [PacketQueue.ids, hunused, hid]

/-- A held buffer goes back to the unused queue. -/
theorem free (h : manager.Conserves (id :: held)) : (manager.free id).Conserves held := by
  have hlen := h.length_eq
  have hroom : manager.unused.entries.length < manager.unused.size := by
    rw [h.size_unused]
    simp only [List.length_cons] at hlen
    omega
  obtain ⟨-, hids, hsize⟩ := PacketQueue.ids_add hroom id 0 0
  rw [PacketQueueManager.free, if_neg h.ready]
  refine ⟨h.initialized, hsize.trans h.size_unused, h.size_sendQueue, h.size_rxQueue, ?_⟩
  refine (List.perm_iff_count.mpr fun x => ?_).trans h.perm
  simp only [hids, List.count_append, List.count_cons, List.count_nil]
  omega

/-- A held buffer goes to the send queue, which is never full. -/
theorem queueOutbound (h : manager.Conserves (id :: held)) (pri : UInt8) (scheduledFor : ℕ) :
    (manager.queueOutbound id pri scheduledFor).Conserves held ∧
      (manager.queueOutbound id pri scheduledFor).sendQueue.entries
        = manager.sendQueue.entries ++ [⟨id, pri, scheduledFor⟩] := by
  have hlen := h.length_eq
  have hroom : manager.sendQueue.entries.length < manager.sendQueue.size := by
    rw [h.size_sendQueue]
    simp only [List.length_cons] at hlen
    omega
  obtain ⟨hok, hids, hsize⟩ := PacketQueue.ids_add hroom id pri scheduledFor
  have heq : manager.queueOutbound id pri scheduledFor
      = { manager with sendQueue := (manager.sendQueue.add id pri scheduledFor).2 } := by
    simp [PacketQueueManager.queueOutbound, h.initialized, hok]
  rw [heq]
  refine ⟨⟨h.initialized, h.size_unused, hsize.trans h.size_sendQueue, h.size_rxQueue, ?_⟩, ?_⟩
  · refine (List.perm_iff_count.mpr fun x => ?_).trans h.perm
    simp only [hids, List.count_append, List.count_cons, List.count_nil]
    omega
  · simp [PacketQueue.add, Nat.not_le.mpr hroom]

/-- A held buffer goes to the receive queue, which is never full. -/
theorem queueInbound (h : manager.Conserves (id :: held)) (scheduledFor : ℕ) :
    (manager.queueInbound id scheduledFor).Conserves held := by
  have hlen := h.length_eq
  have hroom : manager.rxQueue.entries.length < manager.rxQueue.size := by
    rw [h.size_rxQueue]
    simp only [List.length_cons] at hlen
    omega
  obtain ⟨hok, hids, hsize⟩ := PacketQueue.ids_add hroom id 0 scheduledFor
  have heq : manager.queueInbound id scheduledFor
      = { manager with rxQueue := (manager.rxQueue.add id 0 scheduledFor).2 } := by
    simp [PacketQueueManager.queueInbound, h.initialized, hok]
  rw [heq]
  refine ⟨h.initialized, h.size_unused, h.size_sendQueue, hsize.trans h.size_rxQueue, ?_⟩
  refine (List.perm_iff_count.mpr fun x => ?_).trans h.perm
  simp only [hids, List.count_append, List.count_cons, List.count_nil]
  omega

/-- The scheduler takes a due packet out of the send queue, or leaves the manager alone. -/
theorem getNextOutbound (h : manager.Conserves held) (now : ℕ) :
    (manager.getNextOutbound now = (none, manager)) ∨
      ∃ id m, manager.getNextOutbound now = (some id, m) ∧ m.Conserves (id :: held) := by
  rw [PacketQueueManager.getNextOutbound, if_neg h.ready]
  rcases manager.sendQueue.get_eq now with hnone | ⟨l, e, r, hsplit, -, hget⟩
  · left
    simp [hnone]
  · refine .inr ⟨e.packet, _, by rw [hget], ?_⟩
    refine ⟨h.initialized, h.size_unused, h.size_sendQueue, h.size_rxQueue, ?_⟩
    refine (List.perm_iff_count.mpr fun x => ?_).trans h.perm
    simp only [PacketQueue.ids, hsplit, List.map_cons, List.map_append, List.count_append,
      List.count_cons]
    omega

/-- The same for the receive queue. -/
theorem getNextInbound (h : manager.Conserves held) (now : ℕ) :
    (manager.getNextInbound now = (none, manager)) ∨
      ∃ id m, manager.getNextInbound now = (some id, m) ∧ m.Conserves (id :: held) := by
  rw [PacketQueueManager.getNextInbound, if_neg h.ready]
  rcases manager.rxQueue.get_eq now with hnone | ⟨l, e, r, hsplit, -, hget⟩
  · left
    simp [hnone]
  · refine .inr ⟨e.packet, _, by rw [hget], ?_⟩
    refine ⟨h.initialized, h.size_unused, h.size_sendQueue, h.size_rxQueue, ?_⟩
    refine (List.perm_iff_count.mpr fun x => ?_).trans h.perm
    simp only [PacketQueue.ids, hsplit, List.map_cons, List.map_append, List.count_append,
      List.count_cons]
    omega

end Conserves

/-- One turn of the loop of `prepare` keeps the unused queue the initial segment of the pool. -/
theorem prepareFrom_conserves {manager : PacketQueueManager} {n : ℕ}
    (hunused : manager.unused.size = manager.poolSize)
    (hids : manager.unused.ids = List.range (manager.poolSize - n))
    (hsend : manager.sendQueue = ⟨[], manager.poolSize⟩)
    (hrx : manager.rxQueue = ⟨[], manager.poolSize⟩) (hn : n ≤ manager.poolSize) :
    (manager.prepareFrom n).Conserves [] := by
  induction n generalizing manager with
  | zero =>
    refine ⟨rfl, hunused, by simp [prepareFrom, hsend], by simp [prepareFrom, hrx], ?_⟩
    simp only [prepareFrom, hids, hsend, hrx, List.append_nil, Nat.sub_zero,
      show PacketQueue.ids ⟨[], manager.poolSize⟩ = [] from rfl]
    exact List.Perm.refl _
  | succ n ih =>
    have hlen : manager.unused.entries.length = manager.poolSize - (n + 1) := by
      have := congrArg List.length hids
      simpa [PacketQueue.ids] using this
    have hroom : manager.unused.entries.length < manager.unused.size := by omega
    obtain ⟨hok, hadd, hsize⟩ := PacketQueue.ids_add hroom (manager.poolSize - (n + 1)) 0 0
    rw [prepareFrom]
    simp only [hok, Bool.not_true, Bool.false_eq_true, if_false]
    refine ih (hsize.trans hunused) ?_ hsend hrx (Nat.le_of_succ_le hn)
    have hrange : manager.poolSize - n = manager.poolSize - (n + 1) + 1 := by omega
    rw [hadd, hids, ← List.range_succ]
    exact congrArg List.range hrange.symm

/-- A pool that was prepared has every buffer in the unused queue. -/
theorem prepare_conserves {maxPoolSize poolSize : ℕ}
    (h : (prepare maxPoolSize poolSize).initialized = true) :
    (prepare maxPoolSize poolSize).Conserves [] := by
  rw [prepare] at h ⊢
  split at h
  · simp [deinit] at h
  · split at h
    · simp [deinit] at h
    · rename_i hle
      simp only [PacketQueue.init, hle, if_false, Bool.not_true, Bool.or_self, Bool.false_eq_true]
      simp only [*, if_false]
      exact prepareFrom_conserves rfl (by simp [PacketQueue.ids]) rfl rfl (Nat.le_refl _)

theorem poolSize_prepareFrom {manager : PacketQueueManager} {n : ℕ}
    (h : (manager.prepareFrom n).initialized = true) :
    (manager.prepareFrom n).poolSize = manager.poolSize := by
  induction n generalizing manager with
  | zero => rfl
  | succ n ih =>
    rw [prepareFrom] at h ⊢
    dsimp only at h ⊢
    split at h
    · simp [deinit] at h
    · rw [if_neg ‹_›]
      exact ih h

theorem poolSize_prepare {maxPoolSize poolSize : ℕ}
    (h : (prepare maxPoolSize poolSize).initialized = true) :
    (prepare maxPoolSize poolSize).poolSize = poolSize := by
  rw [prepare] at h ⊢
  split at h
  · simp [deinit] at h
  · split at h
    · simp [deinit] at h
    · rename_i hle
      simp only [PacketQueue.init, hle, if_false, Bool.not_true, Bool.or_self,
        Bool.false_eq_true] at h ⊢
      rw [if_neg ‹_›]
      exact poolSize_prepareFrom h

theorem ids_rxQueue_prepareFrom {manager : PacketQueueManager} (hrx : manager.rxQueue.ids = [])
    (n : ℕ) : (manager.prepareFrom n).rxQueue.ids = [] := by
  induction n generalizing manager with
  | zero => exact hrx
  | succ n ih =>
    rw [prepareFrom]
    dsimp only
    split
    · rfl
    · exact ih hrx

theorem ids_rxQueue_prepare (maxPoolSize poolSize : ℕ) :
    (prepare maxPoolSize poolSize).rxQueue.ids = [] := by
  rw [prepare]
  split
  · rfl
  · split
    · rfl
    · dsimp only
      split
      · rfl
      · refine ids_rxQueue_prepareFrom ?_ _
        rw [PacketQueue.init]
        split <;> rfl

end PacketQueueManager

end Meshcore
