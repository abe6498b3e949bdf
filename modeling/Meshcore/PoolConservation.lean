import Meshcore.Runtime

/-!
# The packet pool over whole runs

Every buffer of the pool is unused, in the send queue, in the receive queue or in flight, and in one
of these places only, after every entry point of every run.

Code that has buffers in hand and leaves the one in flight alone is `Carries`; the effects of the
mesh and the requests are, and so is what only keeps time. What starts or ends a transmission is
`Yields`: it is correct for one state of the field `outbound`.

## Main definitions

* `World.PoolIntact` — where the buffers are
* `Carries`, `Yields` — programs that keep it

## Main results

* `Reachable.poolIntact` — the pool is intact in every reachable state
* `pool_conserved` — the same, place by place
-/

namespace Meshcore

/-- Every buffer of the pool is in a queue, in flight, or in the list `held`, exactly once, and none
was ever given out twice. -/
structure World.PoolIntact (ctx : Ctx) (held : List PacketId) (w : World) : Prop where
  conserves : w.packetManager.Conserves (held ++ w.dispatcher.outbound.toList)
  poolSize : w.packetManager.poolSize = ctx.poolSize
  reissued : w.reissued = false

/-- The pool stays intact, and the same buffer is in flight. -/
def Carries (ctx : Ctx) (a b : List PacketId × World) : Prop :=
  b.2.dispatcher.outbound = a.2.dispatcher.outbound ∧
    (a.2.PoolIntact ctx a.1 → b.2.PoolIntact ctx b.1)

instance : Composes Carries where
  refl _ _ := ⟨rfl, id⟩
  trans _ _ _ _ h h' := ⟨h'.1.trans h.1, h'.2 ∘ h.2⟩

/-- A program that keeps the pool intact when `outbound` is in flight, and leaves whatever it
wants in flight. -/
class Yields {α : Type} (outbound : Option PacketId) (m : M α) : Prop where
  yields : ∀ ctx w, w.dispatcher.outbound = outbound → w.PoolIntact ctx [] →
    (m ctx w).2.PoolIntact ctx []

namespace Yields

variable {α β : Type} {outbound : Option PacketId}

instance (priority := low) ofCarries (m : M α) [hm : Uses Carries [] m fun _ => []] :
    Yields outbound m where
  yields ctx w _ hp := by simpa using (hm.uses ctx w []).2 (by simpa using hp)

instance bind (m : M α) (f : α → M β) [hm : Uses Carries [] m fun _ => []]
    [hf : ∀ a, Yields outbound (f a)] : Yields outbound (m >>= f) where
  yields ctx w ho hp := by
    have h := hm.uses ctx w []
    exact (hf _).yields ctx _ (h.1.trans ho) (by simpa using h.2 (by simpa using hp))

/-- What follows the change of what is in flight leaves it alone. -/
instance (priority := low) bindCarries (m : M α) (f : α → M β) [hm : Yields outbound m]
    [hf : ∀ a, Uses Carries [] (f a) fun _ => []] : Yields outbound (m >>= f) where
  yields ctx w ho hp := by
    have h := hm.yields ctx w ho hp
    simpa using ((hf (m ctx w).1).uses ctx _ []).2 (by simpa using h)

/-- What is done may depend on what is in flight. -/
theorem ofOutbound {f : Dispatcher → M α}
    (hf : ∀ d, d.outbound = outbound → Yields outbound (f d)) :
    Yields outbound (Prog.gets World.dispatcher >>= f) where
  yields ctx w ho hp := (hf w.dispatcher ho).yields ctx w ho hp

instance ite (c : Prop) [Decidable c] (m n : M α) [hm : Yields outbound m]
    [hn : Yields outbound n] : Yields outbound (if c then m else n) := by
  split
  · exact hm
  · exact hn

end Yields

/-! ### What carries buffers -/

/-- The effects of the mesh and of the requests. -/
instance (priority := low) Uses.carriesOfSteps {α : Type} {h : List PacketId}
    {h' : α → List PacketId} (m : M α) [hm : Uses (Steps fun _ => True) h m h'] :
    Uses Carries h m h' where
  uses ctx w extra := by
    have hs := hm.uses ctx w extra
    have hframed := hs.framed
    refine ⟨hframed.outbound, fun hp => ⟨?_, hframed.2.1.trans hp.poolSize,
      (hs.reissued hp.conserves).trans hp.reissued⟩⟩
    show (m ctx w).2.packetManager.Conserves (_ ++ (m ctx w).2.dispatcher.outbound.toList)
    rw [hframed.outbound]
    exact hs.conserves hp.conserves

instance (priority := low) Uses.carriesOfTiming {α : Type} (m : M α) [hm : Moves Timing m] :
    Uses Carries [] m fun _ => [] where
  uses ctx w extra := by
    have ht := hm.moves ctx w
    rw [Timing] at ht
    refine ⟨by rw [ht], fun hp => ?_⟩
    show (m ctx w).2.PoolIntact ctx extra
    rw [ht]
    exact ⟨hp.conserves, hp.poolSize, hp.reissued⟩

instance (packet : Packet) : HandsOver (fun _ => True) packet := ⟨fun _ => trivial⟩

instance (m : Mark) : Uses Carries [] (mark m) fun _ => [] :=
  ⟨fun _ _ _ => ⟨rfl, fun hp => ⟨hp.conserves, hp.poolSize, hp.reissued⟩⟩⟩

instance (id : PacketId) (scheduledFor : ℕ) :
    Uses Carries [id] (modifyManager (·.queueInbound id scheduledFor)) fun _ => [] where
  uses _ w extra := by
    refine ⟨rfl, fun hp => ⟨hp.conserves.queueInbound scheduledFor, ?_, hp.reissued⟩⟩
    exact (PacketQueueManager.poolSize_queueInbound ..).trans hp.poolSize

instance (now : ℕ) : Uses Carries [] (takePacket (·.getNextInbound now)) Option.toList where
  uses _ w extra := by
    refine ⟨rfl, fun hp => ⟨?_, (PacketQueueManager.poolSize_getNextInbound ..).trans hp.poolSize,
      hp.reissued⟩⟩
    rcases hp.conserves.getNextInbound now with hget | ⟨id, m, hget, hc⟩
    · simpa [takePacket, hget] using hp.conserves
    · simpa [takePacket, hget] using hc

/-! ### Receiving -/

/-- A packet that the mesh does not keep leaves the dispatcher's hand. -/
theorem dispatcherSettle_carries (id : PacketId) {action : Action}
    (hne : action ≠ actionManualHold) :
    Uses Carries [id] (dispatcherSettle id action) fun _ => [] := by
  unfold dispatcherSettle
  rw [if_neg hne]
  infer_instance

instance (id : PacketId) : Uses Carries [id] (dispatcherProcessRecvPacket id) fun _ => [] := by
  unfold dispatcherProcessRecvPacket
  refine @Uses.bind _ _ _ _ _ _ _ _ _ _ _ inferInstance fun packet => ?_
  refine @Uses.bind _ _ _ _ _ _ _ _ _ _ _ inferInstance fun _ => ?_
  refine Uses.bind_of_returns (P := Verdict) fun r hr => ?_
  have := dispatcherSettle_carries id hr.ne_hold
  infer_instance

instance (id : PacketId) (packet : Packet) (score : ℚ) (airTime : UInt32) :
    Uses Carries [id] (dispatcherReceivePacket id packet score airTime) fun _ => [] := by
  unfold dispatcherReceivePacket; infer_instance

instance (id : PacketId) (packet : Packet) (rawLength : ℕ) (snr : ℚ) :
    Uses Carries [id] (dispatcherReceiveParsed id packet rawLength snr) fun _ => [] := by
  unfold dispatcherReceiveParsed radioPacketScore; infer_instance

set_option synthInstance.maxSize 10000 in
instance (raw : List UInt8) (rssiDbm : Int16) (snrQ4 : Int8) :
    Uses Carries [] (dispatcherReceiveRaw raw rssiDbm snrQ4) fun _ => [] := by
  unfold dispatcherReceiveRaw; infer_instance

instance : Uses Carries [] takeInbound fun _ => [] := by unfold takeInbound; infer_instance

/-! ### Transmitting -/

/-- The buffer in flight goes back. -/
instance (id : PacketId) : Yields (some id) (releaseOutbound id) where
  yields _ w ho hp := by
    have hc : w.packetManager.Conserves [id] := by simpa [ho] using hp.conserves
    exact ⟨hc.free, (PacketQueueManager.poolSize_free ..).trans hp.poolSize, hp.reissued⟩

set_option synthInstance.maxSize 10000 in
instance dispatcherTxDone_yields (outbound : Option PacketId) (success : Bool) :
    Yields outbound (dispatcherTxDone success) := by
  unfold dispatcherTxDone
  refine .ofOutbound fun d ho => ?_
  rw [ho]
  cases outbound with
  | none => exact inferInstanceAs (Yields none (pure false))
  | some id =>
    dsimp only [Option.elim_some]
    infer_instance

set_option synthInstance.maxSize 10000 in
instance (id : PacketId) (now : ℕ) : Yields (some id) (startSend id now) := by
  unfold startSend; infer_instance

instance (now : ℕ) : Yields none (sendNext now) where
  yields ctx w ho hp := by
    have hc : w.packetManager.Conserves [] := by simpa [ho] using hp.conserves
    rcases hc.getNextOutbound (now % 2 ^ 32) with hget | ⟨id, m, hget, hm⟩
    · simp only [sendNext, takePacket, modifyDispatcher, Prog.run_bind, Prog.run_modify, hget,
        Option.elim_none, Prog.run_pure]
      exact ⟨hc, hp.poolSize, hp.reissued⟩
    · have hsize : m.poolSize = ctx.poolSize := by
        have := w.packetManager.poolSize_getNextOutbound (now % 2 ^ 32)
        rw [hget] at this
        exact this.trans hp.poolSize
      simp only [sendNext, takePacket, modifyDispatcher, Prog.run_bind, Prog.run_modify, hget,
        Option.elim_some]
      exact Yields.yields ctx _ rfl ⟨hm, hsize, hp.reissued⟩

set_option synthInstance.maxSize 10000 in
instance : Yields none dispatcherCheckSend := by unfold dispatcherCheckSend; infer_instance

/-! ### The loop -/

instance expireOutbound_yields (outbound : Option PacketId) : Yields outbound expireOutbound := by
  unfold expireOutbound
  refine .ofOutbound fun d ho => ?_
  cases d.outbound with
  | none => exact inferInstanceAs (Yields outbound (pure true))
  | some id =>
    dsimp only [Option.elim_some]
    infer_instance

/-- When a transmission ends nothing is in flight. -/
theorem outbound_dispatcherTxDone (success : Bool) (ctx : Ctx) (w : World) :
    (dispatcherTxDone success ctx w).2.dispatcher.outbound = none := by
  have htiming : ∀ (interval : ℤ) (w : World),
      ((if interval > 0 then armAgcReset interval else pure ()) ctx w).2.dispatcher.outbound
        = w.dispatcher.outbound := by
    intro interval w
    have h := (inferInstance :
      Moves Timing (if interval > 0 then armAgcReset interval else pure ())).moves ctx w
    rw [h]
  rw [dispatcherTxDone, Prog.run_bind]
  cases ho : w.dispatcher.outbound with
  | none => simp [ho]
  | some id =>
    simp only [Prog.run_gets, ho, Option.elim_some]
    rw [Prog.run_bind, Prog.run_bind, Prog.run_bind, Prog.run_bind, Prog.run_bind, Prog.run_pure,
      htiming]
    rfl

/-- The loop goes on only when nothing is in flight. -/
theorem outbound_of_expireOutbound {ctx : Ctx} {w : World}
    (hidle : (expireOutbound ctx w).1 = true) :
    (expireOutbound ctx w).2.dispatcher.outbound = none := by
  rw [expireOutbound, Prog.run_bind] at hidle ⊢
  cases ho : w.dispatcher.outbound with
  | none => simp [ho]
  | some id =>
    simp only [Prog.run_gets, ho, Option.elim_some, Prog.run_bind, Prog.run_ite] at hidle ⊢
    split at hidle
    · rename_i hpassed
      rw [if_pos hpassed]
      exact outbound_dispatcherTxDone false ctx _
    · simp at hidle

instance dispatcherLoop_yields (outbound : Option PacketId) : Yields outbound dispatcherLoop := by
  have hexpire : ∀ interval, Yields outbound (do
      let idle ← expireOutbound
      if !idle then pure ()
      else do
        agcReset interval
        takeInbound
        dispatcherCheckSend) := by
    refine fun interval => ⟨fun ctx w ho hp => ?_⟩
    have h := (expireOutbound_yields outbound).yields ctx w ho hp
    rw [Prog.run_bind]
    cases hidle : (expireOutbound ctx w).1 with
    | false => exact h
    | true =>
      have hrest : Yields none (do
        agcReset interval
        takeInbound
        dispatcherCheckSend) := inferInstance
      exact hrest.yields ctx _ (outbound_of_expireOutbound hidle) h
  unfold dispatcherLoop
  infer_instance

/-! ### Entry points -/

/-- The pool stays intact. -/
def KeepsPool (ctx : Ctx) (w w' : World) : Prop := w.PoolIntact ctx [] → w'.PoolIntact ctx []

instance : Composes KeepsPool where
  refl _ _ := id
  trans _ _ _ _ h h' := h' ∘ h

instance (priority := low) Moves.keepsPoolOfYields {α : Type} (m : M α)
    [hm : ∀ outbound, Yields outbound m] : Moves KeepsPool m :=
  ⟨fun ctx w hp => (hm w.dispatcher.outbound).yields ctx w rfl hp⟩

instance (a : World → Bool) (b : World → ℕ) (c : World → Tables) (d : World → LocalIdentity)
    (e : World → UInt32) (f : World → Correlation) (g : World → Option ℕ)
    (h : World → Option (ℕ × Option ℕ)) (i : World → ℕ) (j : World → List Event)
    (k : World → List Mark) :
    Moves KeepsPool (Prog.modify fun w =>
      ⟨a w, b w, w.packetManager, c w, w.dispatcher, d w, e w, f w, g w, h w, i w, j w, k w,
        w.reissued, w.outside⟩) :=
  ⟨fun _ _ hp => ⟨hp.conserves, hp.poolSize, hp.reissued⟩⟩

instance (now : ℕ) : Moves KeepsPool (timerSync now) := by
  unfold timerSync runtimeNextDeadlineGet setTimer; infer_instance

instance : Moves KeepsPool timerSyncNow := by unfold timerSyncNow; infer_instance

instance {α : Type} (now : UInt32) (body : M α) [Moves KeepsPool body] :
    Moves KeepsPool (atTime now body) := by
  unfold atTime clockMillisOverrideSet clockMillisOverrideClear; infer_instance

instance (body : M ℤ) [Moves KeepsPool body] : Moves KeepsPool (whenReady body) := by
  unfold whenReady; infer_instance

instance (now : UInt32) : Moves KeepsPool (meshcoreTimerFired now) := by
  unfold meshcoreTimerFired; infer_instance

instance (data : Option (List UInt8)) (rssiDbm : Int16) (snrQ4 : Int8) (now : UInt32) :
    Moves KeepsPool (meshcoreRadioRxInject data rssiDbm snrQ4 now) := by
  unfold meshcoreRadioRxInject; infer_instance

instance (now : UInt32) (success : Bool) : Moves KeepsPool (meshcoreRadioTxDone now success) := by
  unfold meshcoreRadioTxDone; infer_instance

theorem Requests.keepsPool {m : M ℤ} [hm : Requests m] (ctx : Ctx) (w : World) :
    KeepsPool ctx w (m ctx w).2 := by
  obtain ⟨w', hs, h⟩ := hm.requests ctx w
  intro hp
  have hp' : w'.PoolIntact ctx [] :=
    ⟨hs.framed.outbound ▸ hs.conserves hp.conserves, hs.framed.2.1.trans hp.poolSize,
      (hs.reissued hp.conserves).trans hp.reissued⟩
  rcases h with h | h <;> rw [h]
  · exact hp'
  · exact Moves.moves (R := KeepsPool) (m := timerSyncNow) ctx w' hp'

/-- A pool that was just prepared is intact. -/
theorem poolIntact_meshInit (ctx : Ctx) {w : World}
    (hw : w.packetManager = .prepare ctx.maxPoolSize ctx.poolSize)
    (hready : w.packetManager.initialized = true) (hghost : w.reissued = false) :
    (meshInit ctx w).2.PoolIntact ctx [] := by
  rw [hw] at hready
  have hc := PacketQueueManager.prepare_conserves hready
  have hsize := PacketQueueManager.poolSize_prepare hready
  rw [← hw] at hc hsize
  have hkeep : (meshInit ctx w).2.packetManager = w.packetManager ∧
      (meshInit ctx w).2.reissued = w.reissued := by
    simp only [meshInit, dispatcherInit, mark, modifyDispatcher, Prog.run_bind, Prog.run_modify]
    rw [(inferInstance : Moves Quiet clockMillisGet).moves ctx _]
    exact ⟨rfl, rfl⟩
  exact ⟨hkeep.1 ▸ hc, hkeep.1 ▸ hsize, hkeep.2.trans hghost⟩

set_option synthInstance.maxSize 10000 in
instance : Moves KeepsPool runtimeStart := by
  unfold runtimeStart runtimeStateReset; infer_instance

/-- What the calls keep: nothing was given out twice, and while the library is initialised the pool
is intact. -/
def World.Pooled (ctx : Ctx) (w : World) : Prop :=
  w.reissued = false ∧ (w.initialized = true → w.PoolIntact ctx [])

theorem pooled_runtimeEnd (ctx : Ctx) {w : World} (hghost : w.reissued = false) :
    (runtimeEnd ctx w).2.Pooled ctx :=
  ⟨hghost, by simp [runtimeEnd, mark, World.boot]⟩

/-- The library starts with an intact pool, or does not start. -/
theorem pooled_runtimeBegin (ctx : Ctx) {w : World} (hw : w.Pooled ctx)
    (hinit : w.initialized = false) : (runtimeBegin ctx w).2.Pooled ctx := by
  simp only [runtimeBegin, modifyManager, Prog.run_bind, Prog.run_env, Prog.run_modify,
    Prog.run_gets, Prog.run_ite, Prog.run_pure]
  split
  · exact ⟨hw.1, by simp [hinit]⟩
  · rename_i hready
    have hstart := poolIntact_meshInit ctx
      (w := { w with packetManager := .prepare ctx.maxPoolSize ctx.poolSize }) rfl
      (by simpa using hready) hw.1
    have hp := Moves.moves (R := KeepsPool) (m := runtimeStart) ctx _ hstart
    exact ⟨hp.reissued, fun _ => hp⟩

theorem pooled_meshcoreInit (ctx : Ctx) {w : World} (hw : w.Pooled ctx)
    (hinit : w.initialized = false) : (meshcoreInit ctx w).2.Pooled ctx := by
  have hbegin := pooled_runtimeBegin ctx (pooled_runtimeEnd ctx hw.1)
    (by simp [runtimeEnd, mark, World.boot])
  simp only [meshcoreInit, Prog.run_bind, Prog.run_gets, hinit, Bool.false_eq_true, if_false,
    Prog.run_ite, Prog.run_pure]
  split
  · exact pooled_runtimeEnd ctx hbegin.1
  · exact hbegin

/-- A call keeps the pool. -/
theorem Op.pooled {ctx : Ctx} {w : World} (op : Op) (hw : w.Pooled ctx) :
    (op.next ctx w).Pooled ctx := by
  cases hinit : w.initialized with
  | false =>
    by_cases hne : op = .init
    · subst hne
      exact pooled_meshcoreInit ctx hw hinit
    · rw [op.next_of_not_initialized hinit hne]
      exact hw
  | true =>
    have hkeep : KeepsPool ctx w (op.next ctx w) → (op.next ctx w).Pooled ctx :=
      fun h => ⟨(h (hw.2 hinit)).reissued, fun _ => h (hw.2 hinit)⟩
    rcases op.cases_request with rfl | rfl | ⟨now, rfl⟩ | ⟨data, rssi, snr, now, rfl⟩ |
      ⟨now, success, rfl⟩ | hreq
    · rw [Op.next_init hinit]
      exact hw
    · rw [Op.next_deinit hinit]
      exact pooled_runtimeEnd ctx hw.1
    · exact hkeep (Moves.moves (m := meshcoreTimerFired now) ctx w)
    · exact hkeep (Moves.moves (m := meshcoreRadioRxInject data rssi snr now) ctx w)
    · exact hkeep (Moves.moves (m := meshcoreRadioTxDone now success) ctx w)
    · exact hkeep (hreq.keepsPool ctx w)

/-- The pool is intact in every state the library is initialised in. -/
theorem Reachable.poolIntact {ctx : Ctx} {w : World} (h : Reachable ctx w)
    (hw : w.initialized = true) : w.PoolIntact ctx [] :=
  (h.induct (P := World.Pooled ctx) ⟨rfl, by simp [World.boot]⟩ fun _ op _ hp => op.pooled hp).2 hw

/-- **Conservation.** In every state in which the library is initialised, each buffer of the pool is
in exactly one of the places unused queue, send queue, receive queue and transmission, nothing else
is in them, no queue holds more than it has room for, and no allocation of the run gave out a buffer
that was queued or in flight, nor would the next one. -/
theorem pool_conserved {ctx : Ctx} {w : World} (h : Reachable ctx w) (hw : w.initialized = true) :
    let m := w.packetManager
    let places := m.unused.ids ++ m.sendQueue.ids ++ m.rxQueue.ids ++ w.dispatcher.outbound.toList
    (∀ id, places.count id = if id < ctx.poolSize then 1 else 0) ∧
      (∀ q ∈ [m.unused, m.sendQueue, m.rxQueue],
        q.size = ctx.poolSize ∧ q.entries.length ≤ q.size) ∧
      w.reissued = false ∧
      ∀ id, m.allocNew.1 = some id → id ∈ m.unused.ids ∧ w.inUse id = false := by
  have hp := h.poolIntact hw
  have hc : w.packetManager.Conserves w.dispatcher.outbound.toList := hp.conserves
  have hlen := hc.length_eq
  refine ⟨fun id => ?_, ?_, hp.reissued, fun id hid => ?_⟩
  · rw [hc.perm.count_eq, hp.poolSize]
    split
    · exact List.count_eq_one_of_mem List.nodup_range (List.mem_range.mpr ‹_›)
    · exact List.count_eq_zero_of_not_mem fun hmem => absurd (List.mem_range.mp hmem) ‹_›
  · intro q hq
    simp only [List.mem_cons, List.not_mem_nil, or_false] at hq
    rcases hq with rfl | rfl | rfl
    · exact ⟨hc.size_unused.trans hp.poolSize, by rw [hc.size_unused]; omega⟩
    · exact ⟨hc.size_sendQueue.trans hp.poolSize, by rw [hc.size_sendQueue]; omega⟩
    · exact ⟨hc.size_rxQueue.trans hp.poolSize, by rw [hc.size_rxQueue]; omega⟩
  · have hmem : id ∈ w.packetManager.unused.ids := hc.mem_unused_of_allocNew hid
    refine ⟨hmem, ?_⟩
    have hnodup := hc.nodup
    simp only [List.nodup_append, List.mem_append, World.inUse] at hnodup ⊢
    grind

/-- A host with four buffers that holds back the floods it hears. Its radio takes 50 ms for a
packet. -/
def Ctx.holdingBack : Ctx :=
  { Ctx.silent with
    maxPoolSize := 4
    poolSize := 4
    hooks := fun _ =>
      { Hooks.silent with
        rxDelayCalc := fun _ _ => 100
        radioAirtime := fun _ => 50
        dutyCycleWindowMs := 3600000 } }

/-- A packet is in flight, one is queued, one is heard and held back, and one buffer is unused. The
report of the radio frees the first. -/
theorem pool_conserved_control :
    let sending := runOps .holdingBack .boot
      [.init, .controlDataSend (some [0x81]), .timerFired 1, .controlDataSend (some [0x82]),
        .radioRxInject (some [0x15, 0, 1, 2, 3, 4, 5, 6]) 0 0 2]
    let sent := Op.next .holdingBack sending (.radioTxDone 40 true)
    let places := fun w : World => w.packetManager.unused.ids ++ w.packetManager.sendQueue.ids ++
      w.packetManager.rxQueue.ids ++ w.dispatcher.outbound.toList
    places sending = [3] ++ [1] ++ [2] ++ [0] ∧ places sent = [3, 0] ++ [1] ++ [2] ++ [] ∧
      (∀ id, (places sending).count id = if id < 4 then 1 else 0) ∧
      ∀ id, (places sent).count id = if id < 4 then 1 else 0 := by
  intro sending sent places
  have hsending := @pool_conserved .holdingBack sending ⟨_, rfl⟩ (by decide +kernel)
  have hreachable : Reachable .holdingBack sent :=
    ⟨[.init, .controlDataSend (some [0x81]), .timerFired 1, .controlDataSend (some [0x82]),
      .radioRxInject (some [0x15, 0, 1, 2, 3, 4, 5, 6]) 0 0 2, .radioTxDone 40 true], rfl⟩
  have hsent := pool_conserved hreachable (by decide +kernel)
  exact ⟨by decide +kernel, by decide +kernel, hsending.1, hsent.1⟩

end Meshcore
