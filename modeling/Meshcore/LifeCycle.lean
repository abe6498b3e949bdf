import Meshcore.PoolConservation

/-!
# Life cycle

The library runs from `meshcore_init` to `meshcore_deinit`. No other call starts or ends it, and
while it does not run its pool is empty.

## Main definitions

* `Up` — the library runs when it did before

## Main results

* `Reachable.deinit` — a library that does not run has no packets
-/

namespace Meshcore

/-- The library runs when it did before. -/
def Up (_ : Ctx) (w w' : World) : Prop := w'.initialized = w.initialized

instance : Composes Up where
  refl _ _ := rfl
  trans _ _ _ _ h h' := Eq.trans h' h

section

variable {α : Type}

instance (priority := low) Moves.upOfSteps (m : M α)
    [hm : Uses (Steps fun _ => True) [] m fun _ => []] : Moves Up m where
  moves ctx w := by
    have hs := (hm.uses ctx w []).framed
    rw [Up, hs.1]

instance (priority := low) Moves.upOfTiming (m : M α) [hm : Moves Timing m] : Moves Up m where
  moves ctx w := by
    rw [Up, hm.moves ctx w]

instance (f : PacketQueueManager → PacketQueueManager) : Moves Up (modifyManager f) :=
  ⟨fun _ _ => rfl⟩

instance (f : Dispatcher → Dispatcher) : Moves Up (modifyDispatcher f) := ⟨fun _ _ => rfl⟩

instance (f : PacketQueueManager → Option PacketId × PacketQueueManager) :
    Moves Up (takePacket f) := ⟨fun _ _ => rfl⟩

instance (id : PacketId) (packet : Packet) : Moves Up (writePacket id packet) := ⟨fun _ _ => rfl⟩

instance : Moves Up allocPacket := ⟨fun _ _ => rfl⟩

instance (m : Mark) : Moves Up (mark m) := ⟨fun _ _ => rfl⟩

instance (f : Correlation → Correlation) : Moves Up (modifyCorrelation f) := ⟨fun _ _ => rfl⟩

/-! ### Receiving and sending -/

instance (id : PacketId) (action : Action) : Moves Up (dispatcherSettle id action) := by
  unfold dispatcherSettle; infer_instance

instance (id : PacketId) : Moves Up (dispatcherProcessRecvPacket id) := by
  unfold dispatcherProcessRecvPacket; infer_instance

instance (id : PacketId) (packet : Packet) (score : ℚ) (airTime : UInt32) :
    Moves Up (dispatcherReceivePacket id packet score airTime) := by
  unfold dispatcherReceivePacket; infer_instance

instance (id : PacketId) (packet : Packet) (rawLength : ℕ) (snr : ℚ) :
    Moves Up (dispatcherReceiveParsed id packet rawLength snr) := by
  unfold dispatcherReceiveParsed radioPacketScore; infer_instance

set_option synthInstance.maxSize 10000 in
instance (raw : List UInt8) (rssiDbm : Int16) (snrQ4 : Int8) :
    Moves Up (dispatcherReceiveRaw raw rssiDbm snrQ4) := by
  unfold dispatcherReceiveRaw; infer_instance

instance (id : PacketId) : Moves Up (dispatcherReleasePacket id) := by
  unfold dispatcherReleasePacket; infer_instance

instance (id : PacketId) : Moves Up (releaseOutbound id) := by
  unfold releaseOutbound; infer_instance

set_option synthInstance.maxSize 10000 in
instance (success : Bool) : Moves Up (dispatcherTxDone success) := by
  unfold dispatcherTxDone; infer_instance

set_option synthInstance.maxSize 10000 in
instance (id : PacketId) (now : ℕ) : Moves Up (startSend id now) := by
  unfold startSend; infer_instance

instance (now : ℕ) : Moves Up (sendNext now) := by unfold sendNext; infer_instance

set_option synthInstance.maxSize 10000 in
instance : Moves Up dispatcherCheckSend := by unfold dispatcherCheckSend; infer_instance

instance : Moves Up expireOutbound := by unfold expireOutbound; infer_instance

instance : Moves Up takeInbound := by unfold takeInbound; infer_instance

set_option synthInstance.maxSize 10000 in
instance : Moves Up dispatcherLoop := by unfold dispatcherLoop; infer_instance

/-! ### The entry points -/

instance (nowMs : ℕ) (deadline : Option ℕ) : Moves Up (setTimer nowMs deadline) := ⟨fun _ _ => rfl⟩

instance (nowMs : ℕ) : Moves Up (timerSync nowMs) := by
  unfold timerSync runtimeNextDeadlineGet; infer_instance

instance : Moves Up timerSyncNow := by unfold timerSyncNow; infer_instance

instance (nowMs : UInt32) (body : M α) [hb : Moves Up body] : Moves Up (atTime nowMs body) where
  moves ctx w :=
    ((inferInstance : Moves Up (timerSync nowMs.toNat)).moves ctx _).trans
      (hb.moves ctx { w with millisOverride := some nowMs.toNat })

instance (body : M ℤ) [Moves Up body] : Moves Up (whenReady body) := by
  unfold whenReady; infer_instance

instance (nowMs : UInt32) : Moves Up (meshcoreTimerFired nowMs) := by
  unfold meshcoreTimerFired; infer_instance

instance (data : Option (List UInt8)) (rssiDbm : Int16) (snrQ4 : Int8) (nowMs : UInt32) :
    Moves Up (meshcoreRadioRxInject data rssiDbm snrQ4 nowMs) := by
  unfold meshcoreRadioRxInject; infer_instance

instance (nowMs : UInt32) (success : Bool) : Moves Up (meshcoreRadioTxDone nowMs success) := by
  unfold meshcoreRadioTxDone; infer_instance

theorem Requests.up {m : M α} [hm : Requests m] (ctx : Ctx) (w : World) : Up ctx w (m ctx w).2 := by
  obtain ⟨w', hs, hend | hend⟩ := hm.requests ctx w
  · rw [hend, Up, hs.framed.1]
  · rw [hend, Up]
    refine ((inferInstance : Moves Up timerSyncNow).moves ctx w').trans ?_
    rw [hs.framed.1]

end

/-- While the library runs, only `meshcore_deinit` ends it. -/
theorem Op.initialized_next {ctx : Ctx} {w : World} (op : Op) (hw : w.initialized = true)
    (hop : op ≠ .deinit) : (op.next ctx w).initialized = true := by
  have hup : Up ctx w (op.next ctx w) → (op.next ctx w).initialized = true := fun h => h.trans hw
  rcases op.cases_request with rfl | rfl | ⟨now, rfl⟩ | ⟨data, rssi, snr, now, rfl⟩ |
    ⟨now, success, rfl⟩ | hreq
  · rw [Op.next_init hw, hw]
  · exact absurd rfl hop
  · exact hup (Moves.moves (m := meshcoreTimerFired now) ctx w)
  · exact hup (Moves.moves (m := meshcoreRadioRxInject data rssi snr now) ctx w)
  · exact hup (Moves.moves (m := meshcoreRadioTxDone now success) ctx w)
  · exact hup (hreq.up ctx w)

/-- A start that succeeds leaves the library running. -/
theorem initialized_runtimeStart {ctx : Ctx} {w : World} (h : (runtimeStart ctx w).1 = 0) :
    (runtimeStart ctx w).2.initialized = true := by
  simp only [runtimeStart, Prog.run_bind, Prog.run_ite] at h ⊢
  generalize syncLocalIdentity ctx _ = r at h ⊢
  by_cases hrc : r.1 = 0
  · rw [if_neg (not_not.mpr hrc)]
    exact (inferInstance : Moves Up timerSyncNow).moves ctx { r.2 with initialized := true }
  · rw [if_pos hrc] at h
    exact absurd h hrc

theorem initialized_runtimeBegin {ctx : Ctx} {w : World} (h : (runtimeBegin ctx w).1 = 0) :
    (runtimeBegin ctx w).2.initialized = true := by
  simp only [runtimeBegin, Prog.run_bind, Prog.run_ite, Prog.run_pure] at h ⊢
  split at h
  · exact absurd h (show eNOMEM ≠ 0 by decide)
  · rename_i hready
    rw [if_neg hready]
    exact initialized_runtimeStart h

/-- The library runs after `meshcore_init`, or has no packets. -/
theorem meshcoreInit_cases {ctx : Ctx} {w : World} (hw : w.initialized = false) :
    (meshcoreInit ctx w).2.initialized = true ∨
      (meshcoreInit ctx w).2.packetManager = .deinit := by
  simp only [meshcoreInit, Prog.run_bind, Prog.run_gets, hw, Bool.false_eq_true, if_false,
    Prog.run_ite, Prog.run_pure]
  by_cases hrc : (runtimeBegin ctx (runtimeEnd ctx w).2).1 = 0
  · rw [if_neg (not_not.mpr hrc)]
    exact .inl (initialized_runtimeBegin hrc)
  · rw [if_pos hrc]
    exact .inr rfl

/-- A library that does not run has no packets. -/
theorem Reachable.deinit {ctx : Ctx} {w : World} (h : Reachable ctx w)
    (hw : w.initialized = false) : w.packetManager = .deinit := by
  refine h.induct (P := fun w => w.initialized = false → w.packetManager = .deinit) (fun _ => rfl)
    ?_ hw
  intro w op _ ih hnext
  cases hinit : w.initialized with
  | true =>
    by_cases hop : op = .deinit
    · subst hop
      rw [Op.next_deinit hinit]
      rfl
    · rw [op.initialized_next hinit hop] at hnext
      cases hnext
  | false =>
    by_cases hop : op = .init
    · subst hop
      rcases @meshcoreInit_cases ctx w hinit with hup | hempty
      · have hnext' : (meshcoreInit ctx w).2.initialized = false := hnext
        rw [hup] at hnext'
        cases hnext'
      · exact hempty
    · rw [op.next_of_not_initialized hinit hop]
      exact ih hinit

end Meshcore
