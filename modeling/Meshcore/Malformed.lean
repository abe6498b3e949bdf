import Meshcore.Codec
import Meshcore.LifeCycle

/-!
# Malformed frames

`meshcore_radio_rx_inject` of a frame that the parser rejects. The parser writes into a buffer from
the pool until it finds the fault, and the buffer goes back. The host is told of the raw bytes, and
its timer is armed anew; everything else is as before.

## Main definitions

* `Malformed` — the frames that the parser rejects
* `LeavesAlone` — what they do not change

## Main results

* `malformed_iff` — the parser rejects what is no frame of version 0
* `dispatcherReceiveRaw_malformed`
* `malformed_frame_changes_nothing`
-/

namespace Meshcore

/-- The frame parser rejects these bytes. -/
def Malformed (data : List UInt8) : Prop :=
  ∃ packet', tryParsePacket Packet.init data = some (false, packet')

instance (data : List UInt8) : Decidable (Malformed data) :=
  decidable_of_iff ((tryParsePacket Packet.init data).map Prod.fst = some false) <| by
    rw [Option.map_eq_some_iff]
    exact ⟨fun ⟨r, hr, hfst⟩ => ⟨r.2, by rw [hr, ← hfst]⟩, fun ⟨packet', h⟩ => ⟨_, h, rfl⟩⟩

section

variable {data : List UInt8} {packet : Packet}

/-- The parser rejects what is no frame of version 0, whatever packet it fills. -/
theorem tryParsePacket_eq_false :
    (∃ packet', tryParsePacket packet data = some (false, packet')) ↔
      ¬∃ f : Frame, f.bytes = data ∧ verOf f.header = 0 := by
  obtain ⟨⟨accepted, got⟩, hparse⟩ :=
    Option.isSome_iff_exists.mp (tryParsePacket_answers packet data).isSome
  cases accepted with
  | false =>
    refine iff_of_true ⟨got, hparse⟩ fun ⟨f, hf, hver⟩ => ?_
    have htrue : tryParsePacket packet data = some (true, f.onto packet) :=
      tryParsePacket_eq_true.mpr ⟨f, hf, hver, rfl⟩
    rw [hparse] at htrue
    simp at htrue
  | true =>
    obtain ⟨f, hf, hver, -⟩ := tryParsePacket_eq_true.mp hparse
    refine iff_of_false (fun ⟨packet', hfalse⟩ => ?_) fun hno => hno ⟨f, hf, hver⟩
    rw [hparse] at hfalse
    simp at hfalse

theorem malformed_iff : Malformed data ↔ ¬∃ f : Frame, f.bytes = data ∧ verOf f.header = 0 :=
  tryParsePacket_eq_false

theorem Malformed.rejected (h : Malformed data) (packet : Packet) :
    ∃ packet', tryParsePacket packet data = some (false, packet') :=
  tryParsePacket_eq_false.mpr (malformed_iff.mp h)

end

/-! ### The buffer -/

namespace PacketQueueManager

variable {manager : PacketQueueManager} {held : List PacketId}

/-- The same buffers are free, the queues are as before, and so is every packet in use. -/
structure SameFree (manager manager' : PacketQueueManager) : Prop where
  free : manager'.unused.ids.Perm manager.unused.ids
  sendQueue : manager'.sendQueue = manager.sendQueue
  rxQueue : manager'.rxQueue = manager.rxQueue
  packets : ∀ id, id ∉ manager.unused.ids → manager'.packetBuf id = manager.packetBuf id

theorem SameFree.refl : SameFree manager manager := ⟨.refl _, rfl, rfl, fun _ _ => rfl⟩

/-- A buffer is taken from the pool when one is free, and may be filled and given back. -/
theorem Conserves.borrow (h : manager.Conserves held) :
    (manager.getFreeCount = 0 ∧ manager.allocNew = (none, manager)) ∨
      ∃ id m, manager.getFreeCount ≠ 0 ∧ manager.allocNew = (some id, m) ∧
        ∀ packet, manager.SameFree ((m.write id packet).free id) := by
  have hcount : manager.getFreeCount = manager.unused.entries.length := by
    rw [getFreeCount, if_neg h.ready]
    rfl
  have hroom := h.length_eq
  rcases hunused : manager.unused.entries with _ | ⟨e, es⟩
  · refine .inl ⟨by rw [hcount, hunused]; rfl, ?_⟩
    rw [PacketQueueManager.allocNew, if_neg h.ready]
    simp [PacketQueue.removeByIdx, hunused]
  · let m : PacketQueueManager :=
      { manager with unused := { manager.unused with entries := es } }
    have hids : manager.unused.ids = e.packet :: es.map QueueEntry.packet := by
      rw [PacketQueue.ids, hunused, List.map_cons]
    have halloc : manager.allocNew = (some e.packet, m) := by
      rw [PacketQueueManager.allocNew, if_neg h.ready]
      simp [PacketQueue.removeByIdx, hunused, m]
    refine .inr ⟨e.packet, m, by rw [hcount, hunused]; simp, halloc, fun packet => ?_⟩
    have hfits : m.unused.entries.length < m.unused.size := by
      show es.length < manager.unused.size
      rw [h.size_unused]
      rw [hunused, List.length_cons] at hroom
      omega
    obtain ⟨-, hback, -⟩ := PacketQueue.ids_add hfits e.packet 0 0
    have hfree : (m.write e.packet packet).free e.packet = { m.write e.packet packet with
        unused := (m.unused.add e.packet 0 0).2 } := if_neg h.ready
    rw [hfree]
    refine ⟨?_, rfl, rfl, fun id hid => ?_⟩
    · show (m.unused.add e.packet 0 0).2.ids.Perm _
      rw [hback, hids]
      exact List.perm_append_singleton ..
    · rw [hids] at hid
      exact Function.update_of_ne (fun heq => hid (by rw [heq]; exact List.mem_cons_self ..)) ..

end PacketQueueManager

/-! ### The frame -/

/-- What a malformed frame does not change: the pool, the queues and the packets in them, the
duplicate table, the correlation of requests, and of the dispatcher all but its error flags. -/
structure LeavesAlone (w w' : World) : Prop where
  pool : w.packetManager.SameFree w'.packetManager
  tables : w'.tables = w.tables
  correlation : w'.correlation = w.correlation
  dispatcher : w'.dispatcher = { w.dispatcher with errFlags := w'.dispatcher.errFlags }
  initialized : w'.initialized = w.initialized

section

variable {data : List UInt8} {ctx : Ctx} {w : World} {held : List PacketId}

/-- A malformed frame is refused, or finds no buffer. The host is told of its bytes. -/
theorem dispatcherReceiveRaw_malformed (hpool : w.packetManager.Conserves held)
    (h0 : data.length ≠ 0) (hlen : data.length ≤ maxTransUnitLen) (hbad : Malformed data)
    (rssiDbm : Int16) (snrQ4 : Int8) :
    let r := dispatcherReceiveRaw data rssiDbm snrQ4 ctx w
    r.1 = (if w.packetManager.getFreeCount = 0 then eNOBUFS else eINVAL) ∧ LeavesAlone w r.2 ∧
      r.2.events = w.events ++ [.logRxRaw (snrQ4.toInt / 4) rssiDbm data] := by
  have hsize : ¬(data.length = 0 ∨ data.length > maxTransUnitLen) :=
    not_or.mpr ⟨h0, not_lt.mpr hlen⟩
  let told : World :=
    { w with events := w.events ++ [.logRxRaw (snrQ4.toInt / 4) rssiDbm data] }
  have hemit : emit (.logRxRaw (snrQ4.toInt / 4) rssiDbm data) ctx w = ((), told) := rfl
  have htake : allocPacket ctx told = (w.packetManager.allocNew.1, { told with
      packetManager := w.packetManager.allocNew.2
      reissued := w.reissued || w.packetManager.allocNew.1.any
        (World.inUse { told with packetManager := w.packetManager.allocNew.2 }) }) := rfl
  rw [dispatcherReceiveRaw, if_neg hsize]
  dsimp only
  rw [Prog.run_bind_of hemit, Prog.run_bind_of htake]
  rcases hpool.borrow with ⟨hnone, halloc⟩ | ⟨id, m, hsome, halloc, hsame⟩
  · rw [halloc, if_pos hnone]
    exact ⟨rfl, ⟨.refl, rfl, rfl, rfl, rfl⟩, rfl⟩
  · obtain ⟨packet', hparse⟩ := hbad.rejected (m.packetBuf id)
    rw [halloc, if_neg hsome, Option.elim_some]
    simp only [readPacket, Prog.run_bind, Prog.run_gets, hparse, Option.getD_some, Bool.not_false,
      if_true]
    exact ⟨rfl, ⟨hsame packet', rfl, rfl, rfl, rfl⟩, rfl⟩

/-! ### The timer -/

/-- The host's timer is armed or cancelled, and nothing else happens. -/
def Synced (w w' : World) : Prop :=
  w' = { w with timer := w'.timer, tick := w'.tick, events := w'.events } ∧
    ∃ deadline : Option ℕ, w'.events = w.events ++ [deadline.elim .timerCancel .timerArm]

theorem timerSync_run (hw : w.initialized = true) (nowMs : ℕ) :
    Synced w (timerSync nowMs ctx w).2 := by
  have hasks : Asks ctx w (runtimeNextDeadlineGet nowMs ctx w).2 := by
    have h : Moves Asks (runtimeNextDeadlineGet nowMs) := by
      unfold runtimeNextDeadlineGet; infer_instance
    exact h.moves ctx w
  rw [timerSync, Prog.run_bind, Prog.run_gets, hw]
  simp only [Bool.not_true, Bool.false_eq_true, if_false, Prog.run_bind]
  generalize runtimeNextDeadlineGet nowMs ctx w = r at hasks
  obtain ⟨deadline, v⟩ := r
  have hv : v = { w with tick := v.tick } := hasks.1
  refine ⟨?_, deadline, ?_⟩
  · rw [hv]
    rfl
  · show v.events ++ _ = _
    rw [hv]

/-- An entry point ends with the synchronisation of the timer. -/
theorem atTime_run {α : Type} {body : M α} {nowMs : UInt32} {a : α} {w' : World}
    (hrun : body ctx { w with millisOverride := some nowMs.toNat } = (a, w'))
    (hw : w'.initialized = true) :
    (atTime nowMs body ctx w).1 = a ∧
      Synced { w' with millisOverride := none, lastNowMs := nowMs.toNat }
        (atTime nowMs body ctx w).2 := by
  have hset : clockMillisOverrideSet nowMs.toNat ctx w
      = ((), { w with millisOverride := some nowMs.toNat }) := rfl
  rw [atTime, Prog.run_bind_of hset, Prog.run_bind_of hrun]
  exact ⟨rfl, timerSync_run (w := { w' with millisOverride := none, lastNowMs := nowMs.toNat })
    hw _⟩

/-- The events that a malformed frame is answered with. -/
def MalformedEvents (snrQ4 : Int8) (rssiDbm : Int16) (data : List UInt8) (deadline : Option ℕ) :
    List Event :=
  [.logRxRaw (snrQ4.toInt / 4) rssiDbm data, deadline.elim .timerCancel .timerArm]

end

/-- **A malformed frame changes nothing.** In every state, a frame that the parser rejects leaves
the pool, the queues, the tables, the counters and the correlation of requests as they are. The host
is told of the bytes and its timer is armed anew: nothing is decoded, and nothing is transmitted.
While the library runs, the call succeeds as long as a buffer is free. -/
theorem malformed_frame_changes_nothing {ctx : Ctx} {w : World} (h : Reachable ctx w)
    {data : List UInt8} (h0 : 1 ≤ data.length) (hlen : data.length ≤ 255) (hbad : Malformed data)
    (rssiDbm : Int16) (snrQ4 : Int8) (nowMs : UInt32) :
    let r := meshcoreRadioRxInject (some data) rssiDbm snrQ4 nowMs ctx w
    (0 < w.packetManager.getFreeCount → r.1 = 0) ∧ LeavesAlone w r.2 ∧
      (r.2.events = w.events ∨ ∃ deadline,
        r.2.events = w.events ++ MalformedEvents snrQ4 rssiDbm data deadline) := by
  cases hw : w.initialized with
  | false =>
    have hrun : meshcoreRadioRxInject (some data) rssiDbm snrQ4 nowMs ctx w = (eNODEV, w) := by
      rw [meshcoreRadioRxInject, whenReady, Prog.run_bind, Prog.run_gets, hw]
      rfl
    rw [hrun]
    refine ⟨fun hfree => ?_, ⟨.refl, rfl, rfl, rfl, rfl⟩, .inl rfl⟩
    rw [h.deinit hw] at hfree
    exact absurd hfree (by decide)
  | true =>
    have hpool := (h.poolIntact hw).conserves
    let w₁ : World := { w with millisOverride := some nowMs.toNat }
    have hsize : ¬(data.length = 0 ∨ data.length > maxTransUnitLen) := by
      show ¬(data.length = 0 ∨ data.length > 255)
      omega
    obtain ⟨hrc, halone, hevents⟩ := @dispatcherReceiveRaw_malformed data ctx w₁ _ hpool (by omega)
      hlen hbad rssiDbm snrQ4
    generalize hr : dispatcherReceiveRaw data rssiDbm snrQ4 ctx w₁ = r₁ at hrc halone hevents
    -- the loop does not run, since the call did not succeed
    have hbody : (do
        let rc ← dispatcherReceiveRaw data rssiDbm snrQ4
        (if rc = 0 then dispatcherLoop else pure ())
        pure (if rc = eINVAL then 0 else rc) : M ℤ) ctx w₁
          = (if w.packetManager.getFreeCount = 0 then eNOBUFS else 0, r₁.2) := by
      have hne : r₁.1 ≠ 0 := by
        rw [hrc]
        split <;> decide
      rw [Prog.run_bind, hr, Prog.run_bind, if_neg hne, hrc]
      show ((if (if w.packetManager.getFreeCount = 0 then eNOBUFS else eINVAL) = eINVAL then 0
        else if w.packetManager.getFreeCount = 0 then eNOBUFS else eINVAL : ℤ), r₁.2) = _
      split <;> rfl
    have hrun : meshcoreRadioRxInject (some data) rssiDbm snrQ4 nowMs ctx w = atTime nowMs (do
        let rc ← dispatcherReceiveRaw data rssiDbm snrQ4
        (if rc = 0 then dispatcherLoop else pure ())
        pure (if rc = eINVAL then 0 else rc)) ctx w := by
      rw [meshcoreRadioRxInject, whenReady, Prog.run_bind, Prog.run_gets, hw]
      exact congrFun (congrFun (if_neg hsize) ctx) w
    obtain ⟨hresult, hsynced, deadline, htimer⟩ := atTime_run hbody (halone.initialized.trans hw)
    rw [hrun]
    refine ⟨fun hfree => ?_, ?_, .inr ⟨deadline, ?_⟩⟩
    · rw [hresult, if_neg hfree.ne']
    · rw [hsynced]
      exact ⟨halone.pool, halone.tables, halone.correlation, halone.dispatcher, halone.initialized⟩
    · rw [htimer, hevents, List.append_assoc]
      rfl

/-- A frame that ends within its path. -/
theorem malformed_frame_changes_nothing_truncated :
    Malformed [0x11, 3, 1, 2] ∧
      (meshcoreRadioRxInject (some [0x11, 3, 1, 2]) 0 0 5 .silent
        (runOps .silent .boot [.init])).1 = 0 ∧
      LeavesAlone (runOps .silent .boot [.init])
        (meshcoreRadioRxInject (some [0x11, 3, 1, 2]) 0 0 5 .silent
          (runOps .silent .boot [.init])).2 := by
  have hbad : Malformed [0x11, 3, 1, 2] := by decide +kernel
  have hall := @malformed_frame_changes_nothing .silent (runOps .silent .boot [.init])
    ⟨[.init], rfl⟩ [0x11, 3, 1, 2] (by decide) (by decide) hbad 0 0 5
  exact ⟨hbad, hall.1 (by decide +kernel), hall.2.1⟩

end Meshcore
