import Meshcore.Lib.Exclusive
import Meshcore.OffAir
import Meshcore.PoolConservation

/-!
# One transmission at a time

The buffer that is in flight is the field `outbound` of the dispatcher. A transmission starts in one
place, and only when nothing is in flight; it ends when the host reports what became of it or when
it takes too long, and both go through `dispatcherTxDone`. Everything else keeps the air: it leaves
what is in flight and the counters of sent packets alone, and neither starts the radio nor logs a
transmission.

So a run is a sequence of flights with stretches between them that keep the air. What holds of every
history of flights is general: the air is a resource that one buffer has at a time.

## Main definitions

* `Flight` — what happens on air, with the events the host sees of it
* `KeepsAir` — what leaves the air alone
* `TxRun` — the runs made of flights and such stretches, with the pool intact in between
* `Starts` — the runs in which nothing ends
* `TxConcluded` — what the end of a transmission leaves
* `Launches` — what only starts when nothing is in flight

## Main results

* `TxRun.exclusive`, `TxRun.sent`, `TxRun.air` — who has the air, the counters and what the host saw
* `dispatcherTxDone_concludes` — what is in flight is concluded as it is reported
* `startSend_starts` — a buffer is dropped, refused by the radio, or taken by it
-/

namespace Meshcore

/-! ### Flights -/

/-- What happens on air. -/
inductive Flight where
  /-- The radio takes the frame of a buffer. -/
  | started (id : PacketId) (raw : List UInt8)
  /-- The radio refuses the frame of a buffer. -/
  | refused (id : PacketId) (raw : List UInt8) (packet : Packet)
  /-- The transmission of a buffer has succeeded, or failed. -/
  | ended (id : PacketId) (success : Bool) (packet : Packet)

/-- What the host sees of it. The first event of a start is the call that starts the radio. -/
def Flight.events : Flight → List Event
  | .started _ raw => [.radioPacketSend raw]
  | .refused _ raw packet => [.radioPacketSend raw, .logTxFail packet packet.getRawLength]
  | .ended _ true packet => [.logTx packet packet.getRawLength]
  | .ended _ false packet => [.logTxFail packet packet.getRawLength]

/-- Who has the air: it is taken with the call that starts the radio, and given back with a log. -/
def Flight.turns : Flight → List (Turn PacketId Bool)
  | .started id _ => [.taken id]
  | .refused id .. => [.taken id, .given id false]
  | .ended id success _ => [.given id success]

/-- The counters of sent packets. -/
def Dispatcher.sent (d : Dispatcher) : UInt32 × UInt32 := (d.nSentFlood, d.nSentDirect)

/-- The counters after one more packet. -/
def countPacket (packet : Packet) (sent : UInt32 × UInt32) : UInt32 × UInt32 :=
  if packet.isRouteFlood then (sent.1 + 1, sent.2) else (sent.1, sent.2 + 1)

/-- The counters after a flight: a transmission counts when it is reported as a success. -/
def Flight.count (sent : UInt32 × UInt32) : Flight → UInt32 × UInt32
  | .ended _ true packet => countPacket packet sent
  | _ => sent

/-- What a flight does. The buffer of a transmission that ends goes back to the pool. -/
def Flight.Takes (w w' : World) : Flight → Prop
  | .started id _ => w.dispatcher.outbound = none ∧ w'.dispatcher.outbound = some id
  | .refused .. => w.dispatcher.outbound = none ∧ w'.dispatcher.outbound = none
  | .ended id _ packet =>
    w.dispatcher.outbound = some id ∧ w'.dispatcher.outbound = none ∧
      packet = w.packetManager.packetBuf id ∧ w'.packetManager = w.packetManager.free id

/-- What the host saw of the air. -/
def World.air (w : World) : List Event := w.events.filter Event.isAir

/-- Nothing happens on air. -/
structure KeepsAir (ctx : Ctx) (w w' : World) : Prop where
  outbound : w'.dispatcher.outbound = w.dispatcher.outbound
  outboundExpiry : w'.dispatcher.outboundExpiry = w.dispatcher.outboundExpiry
  sent : w'.dispatcher.sent = w.dispatcher.sent
  air : w'.air = w.air

/-- The runs made of flights and of stretches that keep the air. Between them the pool is intact. -/
inductive TxRun (ctx : Ctx) (w : World) : List Flight → World → Prop where
  | nil (hp : w.PoolIntact ctx []) : TxRun ctx w [] w
  | kept {l w₁ w₂} (h : TxRun ctx w l w₁) (hc : KeepsAir ctx w₁ w₂) (hp : w₂.PoolIntact ctx []) :
      TxRun ctx w l w₂
  | flight {l w₁ w₂} (h : TxRun ctx w l w₁) (f : Flight) (hf : f.Takes w₁ w₂)
      (hsent : w₂.dispatcher.sent = f.count w₁.dispatcher.sent) (hair : w₂.air = w₁.air ++ f.events)
      (hp : w₂.PoolIntact ctx []) : TxRun ctx w (l ++ [f]) w₂

section

variable {ctx : Ctx} {w w₁ w₂ : World} {l l' : List Flight}

namespace TxRun

theorem poolIntact (h : TxRun ctx w l w₁) : w₁.PoolIntact ctx [] := by
  cases h with
  | nil hp => exact hp
  | kept _ _ hp => exact hp
  | flight _ _ _ _ _ hp => exact hp

theorem trans (h : TxRun ctx w l w₁) (h' : TxRun ctx w₁ l' w₂) : TxRun ctx w (l ++ l') w₂ := by
  induction h' with
  | nil => simpa using h
  | kept _ hc hp ih => exact ih.kept hc hp
  | flight _ f hf hsent hair hp ih =>
    rw [← List.append_assoc]
    exact ih.flight f hf hsent hair hp

/-- The events of the air are those of the flights. -/
theorem air (h : TxRun ctx w l w₁) : w₁.air = w.air ++ l.flatMap Flight.events := by
  induction h with
  | nil => simp
  | kept _ hc _ ih => rw [hc.air, ih]
  | flight _ f _ _ hair _ ih => rw [hair, ih]; simp

/-- The counters are those of the flights. -/
theorem sent (h : TxRun ctx w l w₁) :
    w₁.dispatcher.sent = l.foldl Flight.count w.dispatcher.sent := by
  induction h with
  | nil => rfl
  | kept _ hc _ ih => rw [hc.sent, ih]
  | flight _ f _ hsent _ _ ih => rw [hsent, ih, List.foldl_append]; rfl

/-- One buffer has the air at a time. -/
theorem exclusive (h : TxRun ctx w l w₁) :
    Exclusive w.dispatcher.outbound (l.flatMap Flight.turns) w₁.dispatcher.outbound := by
  induction h with
  | nil => exact .nil _
  | kept _ hc _ ih => rwa [hc.outbound]
  | flight _ f hf _ _ _ ih =>
    rw [List.flatMap_append]
    refine ih.append ?_
    cases f with
    | started id raw =>
      rw [hf.1, hf.2]
      exact .taken (.nil _)
    | refused id raw packet =>
      rw [hf.1, hf.2]
      exact .taken (.given (.nil _))
    | ended id success packet =>
      rw [hf.1, hf.2.1]
      exact .given (.nil _)

end TxRun

end

/-! ### What keeps the air -/

instance : Composes KeepsAir where
  refl _ _ := ⟨rfl, rfl, rfl, rfl⟩
  trans _ _ _ _ h h' := ⟨h'.outbound.trans h.outbound, h'.outboundExpiry.trans h.outboundExpiry,
    h'.sent.trans h.sent, h'.air.trans h.air⟩

theorem air_of_adds {ctx : Ctx} {w w' : World} (h : Chatter ctx w w') : w'.air = w.air := by
  obtain ⟨new, hevents, hnew⟩ := h.events
  have hnone : new.filter Event.isAir = [] :=
    List.filter_eq_nil_iff.mpr fun e he => by simp [hnew e he]
  rw [World.air, hevents, List.filter_append, hnone, List.append_nil, World.air]

/-- The effects of the mesh, when the host sees nothing of the air. -/
theorem KeepsAir.of_framed {ctx : Ctx} {w w' : World} (h : Framed w w') (hc : Chatter ctx w w') :
    KeepsAir ctx w w' where
  outbound := h.outbound
  outboundExpiry := by rw [h.1]
  sent := by rw [h.1]; rfl
  air := air_of_adds hc

instance (priority := low) Moves.keepsAirOfAsks {α : Type} (m : M α) [hm : Moves Asks m] :
    Moves KeepsAir m where
  moves ctx w := by
    rw [(hm.moves ctx w).1]
    exact ⟨rfl, rfl, rfl, rfl⟩

instance (e : Event) [he : OffAir e] : Moves KeepsAir (emit e) where
  moves _ w := ⟨rfl, rfl, rfl, by
    show (w.events ++ [e]).filter Event.isAir = w.events.filter Event.isAir
    simp [he.offAir]⟩

instance (m : Mark) : Moves KeepsAir (mark m) := ⟨fun _ _ => ⟨rfl, rfl, rfl, rfl⟩⟩

instance (id : PacketId) (packet : Packet) : Moves KeepsAir (writePacket id packet) :=
  ⟨fun _ _ => ⟨rfl, rfl, rfl, rfl⟩⟩

instance (f : PacketQueueManager → PacketQueueManager) : Moves KeepsAir (modifyManager f) :=
  ⟨fun _ _ => ⟨rfl, rfl, rfl, rfl⟩⟩

instance (f : PacketQueueManager → Option PacketId × PacketQueueManager) :
    Moves KeepsAir (takePacket f) := ⟨fun _ _ => ⟨rfl, rfl, rfl, rfl⟩⟩

instance : Moves KeepsAir allocPacket := ⟨fun _ _ => ⟨rfl, rfl, rfl, rfl⟩⟩

instance (f : Correlation → Correlation) : Moves KeepsAir (modifyCorrelation f) :=
  ⟨fun _ _ => ⟨rfl, rfl, rfl, rfl⟩⟩

instance (b c d e f g h i : Dispatcher → ℕ) (j : Dispatcher → Bool)
    (k l : Dispatcher → UInt32) (o p q : Dispatcher → ℕ) (r : Dispatcher → UInt16) :
    Moves KeepsAir (modifyDispatcher fun x =>
      ⟨x.outbound, x.outboundExpiry, b x, c x, d x, e x, f x, g x, h x, i x, j x, x.nSentFlood,
        x.nSentDirect, k x, l x, o x, p x, q x, r x⟩) :=
  ⟨fun _ _ => ⟨rfl, rfl, rfl, rfl⟩⟩

instance (flag : UInt16) : Moves KeepsAir (setErrFlag flag) := by unfold setErrFlag; infer_instance

instance : Moves KeepsAir dispatcherUpdateTxBudget := by
  unfold dispatcherUpdateTxBudget; infer_instance

instance (needed : ℕ) : Moves KeepsAir (waitForBudget needed) := by
  unfold waitForBudget; infer_instance

instance (agcResetInterval : ℤ) : Moves KeepsAir (armAgcReset agcResetInterval) := by
  unfold armAgcReset; infer_instance

instance : Moves KeepsAir chargeAirTime := by unfold chargeAirTime; infer_instance

instance : Moves KeepsAir scheduleNextTx := by unfold scheduleNextTx; infer_instance

set_option synthInstance.maxSize 10000 in
instance (now : ℕ) : Moves KeepsAir (channelBusy now) := by unfold channelBusy; infer_instance

instance : Moves KeepsAir floorCalibrate := by unfold floorCalibrate; infer_instance

instance : Moves KeepsAir trackRecvMode := by unfold trackRecvMode; infer_instance

instance (agcResetInterval : ℤ) : Moves KeepsAir (agcReset agcResetInterval) := by
  unfold agcReset; infer_instance

/-- The mesh does not touch the air. -/
instance (packet : Packet) : Moves KeepsAir (meshOnRecvPacket packet) where
  moves ctx w := by
    have hs := (inferInstance :
      Uses (Steps fun _ => True) [] (meshOnRecvPacket packet) fun _ => []).uses ctx w []
    exact .of_framed hs.framed (Moves.moves (R := Chatter) (m := meshOnRecvPacket packet) ctx w)

instance (id : PacketId) (action : Action) : Moves KeepsAir (dispatcherSettle id action) := by
  unfold dispatcherSettle; infer_instance

instance (id : PacketId) : Moves KeepsAir (dispatcherProcessRecvPacket id) := by
  unfold dispatcherProcessRecvPacket; infer_instance

instance (id : PacketId) (packet : Packet) (score : ℚ) (airTime : UInt32) :
    Moves KeepsAir (dispatcherReceivePacket id packet score airTime) := by
  unfold dispatcherReceivePacket; infer_instance

instance (id : PacketId) (packet : Packet) (rawLength : ℕ) (snr : ℚ) :
    Moves KeepsAir (dispatcherReceiveParsed id packet rawLength snr) := by
  unfold dispatcherReceiveParsed radioPacketScore; infer_instance

set_option synthInstance.maxSize 10000 in
instance (raw : List UInt8) (rssiDbm : Int16) (snrQ4 : Int8) :
    Moves KeepsAir (dispatcherReceiveRaw raw rssiDbm snrQ4) := by
  unfold dispatcherReceiveRaw; infer_instance

instance : Moves KeepsAir takeInbound := by unfold takeInbound; infer_instance

instance (value : ℕ) : Moves KeepsAir (clockMillisOverrideSet value) :=
  ⟨fun _ _ => ⟨rfl, rfl, rfl, rfl⟩⟩

instance : Moves KeepsAir clockMillisOverrideClear := ⟨fun _ _ => ⟨rfl, rfl, rfl, rfl⟩⟩

instance (nowMs : ℕ) (deadline : Option ℕ) : Moves KeepsAir (setTimer nowMs deadline) where
  moves ctx w := by
    have h := (inferInstance : Moves Chatter (setTimer nowMs deadline)).moves ctx w
    exact ⟨rfl, rfl, rfl, air_of_adds h⟩

instance (nowMs : ℕ) : Moves KeepsAir (timerSync nowMs) := by
  unfold timerSync runtimeNextDeadlineGet; infer_instance

instance : Moves KeepsAir timerSyncNow := by unfold timerSyncNow; infer_instance

instance (a : World → Bool) (b : World → ℕ) (c : World → PacketQueueManager)
    (d : World → Tables) (e : World → LocalIdentity) (f : World → UInt32)
    (g : World → Correlation) (h : World → Option ℕ) (i : World → Option (ℕ × Option ℕ))
    (j : World → ℕ) (k : World → List Mark) (l m : World → Bool) :
    Moves KeepsAir (Prog.modify fun w =>
      ⟨a w, b w, c w, d w, w.dispatcher, e w, f w, g w, h w, i w, j w, w.events, k w, l w, m w⟩) :=
  ⟨fun _ _ => ⟨rfl, rfl, rfl, rfl⟩⟩

/-! ### What flies -/

/-- A transmission begins, or the radio refuses it. -/
def Flight.isStart : Flight → Bool
  | .ended .. => false
  | _ => true

/-- What is done is a run of starts, and keeps the air between them. -/
def Starts (ctx : Ctx) (w w' : World) : Prop :=
  w.PoolIntact ctx [] → ∃ l, TxRun ctx w l w' ∧ ∀ f ∈ l, f.isStart = true

instance : Composes Starts where
  refl _ _ hp := ⟨[], .nil hp, List.forall_mem_nil _⟩
  trans _ _ _ _ h h' hp := by
    obtain ⟨l, hl, hstart⟩ := h hp
    obtain ⟨l', hl', hstart'⟩ := h' hl.poolIntact
    exact ⟨l ++ l', hl.trans hl', List.forall_mem_append.mpr ⟨hstart, hstart'⟩⟩

instance (priority := low) Moves.startsOfKeepsAir {α : Type} (m : M α) [hm : Moves KeepsAir m]
    [hk : Moves KeepsPool m] : Moves Starts m where
  moves ctx w hp :=
    ⟨[], (TxRun.nil hp).kept (hm.moves ctx w) (hk.moves ctx w hp), List.forall_mem_nil _⟩

section

variable {ctx : Ctx} {w : World}

/-- One flight. -/
theorem TxRun.single {w' : World} (hp : w.PoolIntact ctx []) (f : Flight) (hf : f.Takes w w')
    (hsent : w'.dispatcher.sent = f.count w.dispatcher.sent) (hair : w'.air = w.air ++ f.events)
    (hp' : w'.PoolIntact ctx []) : TxRun ctx w [f] w' :=
  (TxRun.nil hp).flight f hf hsent hair hp'

/-- The log of a transmission, and its count when it has succeeded. -/
theorem logged_of_ended (success : Bool) (packet : Packet) (ctx : Ctx) (w : World) (id : PacketId) :
    let w' := ((if success then do
        chargeAirTime
        scheduleNextTx
        emit (.logTx packet packet.getRawLength)
        countSent packet
      else emit (.logTxFail packet packet.getRawLength) : M Unit) ctx w).2
    w'.packetManager = w.packetManager ∧
      w'.dispatcher.sent = (Flight.ended id success packet).count w.dispatcher.sent ∧
      w'.air = w.air ++ (Flight.ended id success packet).events := by
  intro w'
  cases success with
  | false =>
    refine ⟨rfl, rfl, ?_⟩
    simp [w', emit, World.air, Event.isAir, Flight.events]
  | true =>
    obtain ⟨w₁, hw₁⟩ : ∃ w₁, ((do chargeAirTime; scheduleNextTx) ctx w).2 = w₁ := ⟨_, rfl⟩
    have ht : Timing ctx w w₁ :=
      hw₁ ▸ (inferInstance : Moves Timing (do chargeAirTime; scheduleNextTx)).moves ctx w
    have hc : KeepsAir ctx w w₁ :=
      hw₁ ▸ (inferInstance : Moves KeepsAir (do chargeAirTime; scheduleNextTx)).moves ctx w
    have hw' : w' = (countSent packet ctx
        { w₁ with events := w₁.events ++ [.logTx packet packet.getRawLength] }).2 := by
      rw [← hw₁]
      rfl
    have hair : (w₁.events ++ [Event.logTx packet packet.getRawLength]).filter Event.isAir
        = w.air ++ [.logTx packet packet.getRawLength] := by
      rw [List.filter_append, ← hc.air]
      rfl
    rw [hw', ← hc.sent]
    by_cases hflood : packet.isRouteFlood <;>
      simp only [countSent, hflood, if_true, if_false, Bool.false_eq_true, modifyDispatcher,
        Prog.run_modify, Flight.count, countPacket, Flight.events] <;>
      exact ⟨by rw [ht], rfl, hair⟩

/-- With nothing in flight, nothing ends. -/
theorem dispatcherTxDone_eq (success : Bool) (ctx : Ctx) {w : World}
    (ho : w.dispatcher.outbound = none) : dispatcherTxDone success ctx w = (false, w) := by
  simp [dispatcherTxDone, ho]

end

/-- What the end of a transmission leaves: nothing is in flight, the buffer is back in the pool, a
success is counted, and the host has the log. -/
structure TxConcluded (id : PacketId) (success : Bool) (w w' : World) : Prop where
  outbound : w'.dispatcher.outbound = none
  packetManager : w'.packetManager = w.packetManager.free id
  sent : w'.dispatcher.sent =
    if success then countPacket (w.packetManager.packetBuf id) w.dispatcher.sent
    else w.dispatcher.sent
  air : w'.air = w.air ++ (Flight.ended id success (w.packetManager.packetBuf id)).events

/-- The end of a transmission is a flight. -/
theorem TxConcluded.txRun {ctx : Ctx} {w w' : World} {id : PacketId} {success : Bool}
    (h : TxConcluded id success w w') (ho : w.dispatcher.outbound = some id)
    (hp : w.PoolIntact ctx []) (hp' : w'.PoolIntact ctx []) :
    TxRun ctx w [.ended id success (w.packetManager.packetBuf id)] w' := by
  refine .single hp _ ⟨ho, h.outbound, rfl, h.packetManager⟩ ?_ h.air hp'
  rw [h.sent]
  cases success <;> rfl

/-- A transmission that is in flight is concluded. -/
theorem dispatcherTxDone_concludes (success : Bool) (ctx : Ctx) {w : World} {id : PacketId}
    (ho : w.dispatcher.outbound = some id) :
    (dispatcherTxDone success ctx w).1 = true ∧
      TxConcluded id success w (dispatcherTxDone success ctx w).2 := by
  have hnone := outbound_dispatcherTxDone success ctx w
  let interval := (ctx.hooks w.tick).agcResetInterval
  let packet := w.packetManager.packetBuf id
  obtain ⟨w₁, hw₁⟩ : ∃ w₁, ((if success then do
      chargeAirTime
      scheduleNextTx
      emit (.logTx packet packet.getRawLength)
      countSent packet
    else emit (.logTxFail packet packet.getRawLength) : M Unit) ctx
      { w with tick := w.tick + 1 }).2 = w₁ := ⟨_, rfl⟩
  have hrun : dispatcherTxDone success ctx w =
      (true, ((if interval > 0 then armAgcReset interval else pure ()) ctx
        (releaseOutbound id ctx w₁).2).2) := by
    rw [← hw₁, dispatcherTxDone, Prog.run_bind]
    simp only [Prog.run_gets, ho, Option.elim_some]
    rfl
  obtain ⟨hmanager, hsent, hair⟩ :=
    logged_of_ended success packet ctx { w with tick := w.tick + 1 } id
  rw [hw₁] at hmanager hsent hair
  have ht := (inferInstance :
    Moves Timing (if interval > 0 then armAgcReset interval else pure ())).moves ctx
      (releaseOutbound id ctx w₁).2
  have hc := (inferInstance :
    Moves KeepsAir (if interval > 0 then armAgcReset interval else pure ())).moves ctx
      (releaseOutbound id ctx w₁).2
  rw [hrun] at hnone ⊢
  refine ⟨rfl, hnone, ?_, hc.sent.trans (hsent.trans ?_), hc.air.trans hair⟩
  · rw [ht]
    exact congrArg (·.free id) hmanager
  · cases success <;> rfl

/-- What only starts when nothing is in flight. -/
class Launches {α : Type} (m : M α) : Prop where
  launches : ∀ ctx w, w.dispatcher.outbound = none → Starts ctx w (m ctx w).2

namespace Launches

variable {α β : Type}

instance (priority := low) ofStarts (m : M α) [hm : Moves Starts m] : Launches m where
  launches ctx w _ := hm.moves ctx w

instance bind (m : M α) (f : α → M β) [hm : Moves KeepsAir m] [hk : Moves KeepsPool m]
    [hf : ∀ a, Launches (f a)] : Launches (m >>= f) where
  launches ctx w ho :=
    Composes.trans ctx w _ _ (Moves.moves (R := Starts) (m := m) ctx w)
      ((hf _).launches ctx _ ((hm.moves ctx w).outbound.trans ho))

instance ite (c : Prop) [Decidable c] (m n : M α) [hm : Launches m] [hn : Launches n] :
    Launches (if c then m else n) := by
  split
  · exact hm
  · exact hn

end Launches

/-- A buffer that is released is in flight no more. The count and the log stay. -/
theorem releaseOutbound_leaves (id : PacketId) (ctx : Ctx) (w : World) :
    (releaseOutbound id ctx w).2.dispatcher.outbound = none ∧
      (releaseOutbound id ctx w).2.dispatcher.sent = w.dispatcher.sent ∧
      (releaseOutbound id ctx w).2.events = w.events := ⟨rfl, rfl, rfl⟩

/-- The time that a transmission may take is set, and nothing else. -/
theorem setExpiry_leaves (millis : ℤ) (ctx : Ctx) (w : World) :
    let w' := ((do
      let outboundExpiry ← dispatcherFutureMillis millis
      modifyDispatcher fun d => { d with outboundExpiry } : M Unit) ctx w).2
    w'.dispatcher.outbound = w.dispatcher.outbound ∧ w'.dispatcher.sent = w.dispatcher.sent ∧
      w'.air = w.air := by
  have hc : KeepsAir ctx w (dispatcherFutureMillis millis ctx w).2 := Moves.moves ctx w
  exact ⟨hc.outbound, hc.sent, hc.air⟩

/-- A buffer that is put in flight is dropped, refused by the radio, or taken by it. -/
theorem startSend_starts {ctx : Ctx} {w w₁ : World} {id : PacketId} {now : ℕ}
    (hp : w.PoolIntact ctx []) (ho : w.dispatcher.outbound = none)
    (ho₁ : w₁.dispatcher.outbound = some id)
    (hexpiry : w₁.dispatcher.outboundExpiry = w.dispatcher.outboundExpiry)
    (hsent : w₁.dispatcher.sent = w.dispatcher.sent)
    (hair : w₁.air = w.air) (hp' : (startSend id now ctx w₁).2.PoolIntact ctx []) :
    ∃ l, TxRun ctx w l (startSend id now ctx w₁).2 ∧ ∀ f ∈ l, f.isStart = true := by
  let packet := w₁.packetManager.packetBuf id
  let raw := packet.writeTo (Buf.zero maxTransUnitLen)
  let bytes := raw.2.slice 0 raw.1
  have hbytes : (w₁.events ++ [Event.radioPacketSend bytes]).filter Event.isAir
      = w.air ++ [.radioPacketSend bytes] := by
    rw [List.filter_append, ← hair]
    rfl
  simp only [startSend, readPacket, Prog.run_bind, Prog.run_gets, Prog.run_ite] at hp' ⊢
  split at hp'
  · rename_i hraw
    rw [if_pos hraw]
    exact ⟨[], (TxRun.nil hp).kept ⟨ho.symm, hexpiry, hsent, hair⟩ hp', List.forall_mem_nil _⟩
  · rename_i hraw
    rw [if_neg hraw]
    split at hp'
    · rename_i hok
      rw [if_pos hok]
      obtain ⟨hnone, hcount, hevents⟩ := releaseOutbound_leaves id ctx (emit
        (.logTxFail packet packet.getRawLength) ctx
          { w₁ with
            tick := w₁.tick + 1 + 1
            dispatcher := { w₁.dispatcher with outboundStart := now }
            events := w₁.events ++ [.radioPacketSend bytes] }).2
      have hlog : (w₁.events ++ [Event.radioPacketSend bytes] ++
          [Event.logTxFail packet packet.getRawLength]).filter Event.isAir
          = w.air ++ [.radioPacketSend bytes, .logTxFail packet packet.getRawLength] := by
        rw [List.filter_append, hbytes, List.append_assoc]
        rfl
      exact ⟨[.refused id bytes packet], .single hp _ ⟨ho, hnone⟩ (hcount.trans hsent)
        ((congrArg (List.filter Event.isAir) hevents).trans hlog) hp', by simp [Flight.isStart]⟩
    · rename_i hok
      rw [if_neg hok]
      obtain ⟨hflight, hcount, hevents⟩ := setExpiry_leaves
        (toCInt ((ctx.hooks w₁.tick).radioAirtime raw.1 * 3 / 2)) ctx
          { w₁ with
            tick := w₁.tick + 1 + 1
            dispatcher := { w₁.dispatcher with outboundStart := now }
            events := w₁.events ++ [.radioPacketSend bytes] }
      exact ⟨[.started id bytes], .single hp _ ⟨ho, hflight.trans ho₁⟩ (hcount.trans hsent)
        (hevents.trans hbytes) hp', by simp [Flight.isStart]⟩

/-- The next packet of the send queue flies, if there is one. -/
instance (now : ℕ) : Launches (sendNext now) where
  launches ctx w ho hp := by
    have hp' : (sendNext now ctx w).2.PoolIntact ctx [] :=
      (inferInstance : Yields none (sendNext now)).yields ctx w ho hp
    simp only [sendNext, takePacket, modifyDispatcher, Prog.run_bind, Prog.run_modify] at hp' ⊢
    cases hget : (w.packetManager.getNextOutbound (now % 2 ^ 32)).1 with
    | none =>
      rw [hget] at hp'
      exact ⟨[], (TxRun.nil hp).kept ⟨ho.symm, rfl, rfl, rfl⟩ hp', List.forall_mem_nil _⟩
    | some id =>
      rw [hget] at hp'
      exact startSend_starts hp ho rfl rfl rfl rfl hp'

set_option synthInstance.maxSize 10000 in
instance : Launches dispatcherCheckSend := by unfold dispatcherCheckSend; infer_instance

end Meshcore
