import Meshcore.Transmission
import Meshcore.Wakeups

/-!
# A turn of the loop

The dispatcher's loop looks after the noise floor and the radio, and when nothing is in flight it
takes a turn: the AGC, a delayed packet, a packet to be sent. What each of these steps leaves alone
is a relation that composes; what each does is an equation, given that the clock stands while an
event is handled.

## Main definitions

* `KeepsTimers`, `Stands`, `Tracks`, `Watches`, `Refills` — what the steps leave alone
* `idleTurn`, `afterTracking`, `sendUnlessBusy` — parts of the loop

## Main results

* `dispatcherLoop_run`, `dispatcherLoop_idle`, `dispatcherCheckSend_run`
-/

namespace Meshcore

/-- How long a transmission waits for this much budget, when the host answers so. -/
def budgetWait (ctx : Ctx) (h : Hooks) (needed : ℕ) : ℤ :=
  floatToCInt (ctx.roundFloat (ctx.roundFloat needed
    / ctx.roundFloat (1 / ctx.roundFloat (1 + h.airtimeBudgetFactor))))

/-- The budget that a transmission starts with, when the host answers so. -/
def reserve (h : Hooks) : ℕ := (h.radioAirtime maxTransUnitLen).toNat / minTxBudgetAirtimeDiv

/-! ### What the steps leave alone -/

/-- The times of the periodic timers and of the radio stay, and nothing is added to the receive
queue. -/
structure KeepsTimers (_ : Ctx) (w w' : World) : Prop where
  floorCalib : w'.dispatcher.nextFloorCalibTime = w.dispatcher.nextFloorCalibTime
  nonrxStart : w'.dispatcher.radioNonrxStart = w.dispatcher.radioNonrxStart
  agcReset : w'.dispatcher.nextAgcResetTime = w.dispatcher.nextAgcResetTime
  rxQueue : w'.packetManager.rxQueue.entries.length ≤ w.packetManager.rxQueue.entries.length

instance : Composes KeepsTimers where
  refl _ _ := ⟨rfl, rfl, rfl, le_rfl⟩
  trans _ _ _ _ h h' := ⟨h'.floorCalib.trans h.floorCalib, h'.nonrxStart.trans h.nonrxStart,
    h'.agcReset.trans h.agcReset, h'.rxQueue.trans h.rxQueue⟩

instance (priority := low) Moves.keepsTimersOfAsks {α : Type} (m : M α) [hm : Moves Asks m] :
    Moves KeepsTimers m where
  moves ctx w := by
    rw [(hm.moves ctx w).1]
    exact ⟨rfl, rfl, rfl, le_rfl⟩

instance (e : Event) : Moves KeepsTimers (emit e) := ⟨fun _ _ => ⟨rfl, rfl, rfl, le_rfl⟩⟩

instance (m : Mark) : Moves KeepsTimers (mark m) := ⟨fun _ _ => ⟨rfl, rfl, rfl, le_rfl⟩⟩

instance (id : PacketId) (packet : Packet) : Moves KeepsTimers (writePacket id packet) :=
  ⟨fun _ _ => ⟨rfl, rfl, rfl, le_rfl⟩⟩

instance (o : Dispatcher → Option PacketId) (a b c d e f : Dispatcher → ℕ) (h : Dispatcher → Bool)
    (i j k l : Dispatcher → UInt32) (m n p : Dispatcher → ℕ) (q : Dispatcher → UInt16) :
    Moves KeepsTimers (modifyDispatcher fun x =>
      ⟨o x, a x, b x, c x, d x, e x, f x, x.radioNonrxStart, x.nextFloorCalibTime,
        x.nextAgcResetTime, h x, i x, j x, k x, l x, m x, n x, p x, q x⟩) :=
  ⟨fun _ _ => ⟨rfl, rfl, rfl, le_rfl⟩⟩

instance (flag : UInt16) : Moves KeepsTimers (setErrFlag flag) := by
  unfold setErrFlag; infer_instance

instance (id : PacketId) : Moves KeepsTimers (modifyManager (·.free id)) :=
  ⟨fun _ w => ⟨rfl, rfl, rfl, by
    show (w.packetManager.free id).rxQueue.entries.length ≤ _
    rw [PacketQueueManager.rxQueue_free]⟩⟩

instance (id : PacketId) (priority : UInt8) (scheduledFor : ℕ) :
    Moves KeepsTimers (modifyManager (·.queueOutbound id priority scheduledFor)) :=
  ⟨fun _ w => ⟨rfl, rfl, rfl, by
    show (w.packetManager.queueOutbound id priority scheduledFor).rxQueue.entries.length ≤ _
    rw [PacketQueueManager.rxQueue_queueOutbound]⟩⟩

instance (now : ℕ) : Moves KeepsTimers (takePacket (·.getNextOutbound now)) :=
  ⟨fun _ w => ⟨rfl, rfl, rfl, by
    show (w.packetManager.getNextOutbound now).2.rxQueue.entries.length ≤ _
    rw [PacketQueueManager.rxQueue_getNextOutbound]⟩⟩

/-- The mesh adds nothing to the receive queue. -/
instance (packet : Packet) : Moves KeepsTimers (meshOnRecvPacket packet) where
  moves ctx w := by
    have hs := (inferInstance :
      Uses (Steps fun _ => True) [] (meshOnRecvPacket packet) fun _ => []).uses ctx w []
    obtain ⟨hsame, -, hrx⟩ := hs.framed
    exact ⟨by rw [hsame], by rw [hsame], by rw [hsame], by rw [hrx]⟩

instance (id : PacketId) (action : Action) : Moves KeepsTimers (dispatcherSettle id action) := by
  unfold dispatcherSettle; infer_instance

instance (id : PacketId) : Moves KeepsTimers (dispatcherProcessRecvPacket id) := by
  unfold dispatcherProcessRecvPacket; infer_instance

instance (id : PacketId) : Moves KeepsTimers (releaseOutbound id) := by
  unfold releaseOutbound dispatcherReleasePacket; infer_instance

instance : Moves KeepsTimers dispatcherUpdateTxBudget := by
  unfold dispatcherUpdateTxBudget; infer_instance

instance (needed : ℕ) : Moves KeepsTimers (waitForBudget needed) := by
  unfold waitForBudget; infer_instance

set_option synthInstance.maxSize 10000 in
instance (now : ℕ) : Moves KeepsTimers (channelBusy now) := by unfold channelBusy; infer_instance

instance (id : PacketId) (now : ℕ) : Moves KeepsTimers (startSend id now) := by
  unfold startSend; infer_instance

instance (now : ℕ) : Moves KeepsTimers (sendNext now) := by unfold sendNext; infer_instance

set_option synthInstance.maxSize 10000 in
instance : Moves KeepsTimers dispatcherCheckSend := by unfold dispatcherCheckSend; infer_instance

instance : Moves KeepsTimers chargeAirTime := by unfold chargeAirTime; infer_instance

instance : Moves KeepsTimers scheduleNextTx := by unfold scheduleNextTx; infer_instance

instance (packet : Packet) : Moves KeepsTimers (countSent packet) := by
  unfold countSent; infer_instance

/-- Taking from a queue adds nothing to it. -/
theorem PacketQueue.length_get_le (queue : PacketQueue) (now : ℕ) :
    (queue.get now).2.entries.length ≤ queue.entries.length := by
  rcases queue.get_eq now with hnone | ⟨l, e, r, hsplit, -, hget⟩
  · rw [hnone]
  · rw [hget, hsplit]
    simp

instance (now : ℕ) : Moves KeepsTimers (takePacket (·.getNextInbound now)) where
  moves _ w := by
    refine ⟨rfl, rfl, rfl, ?_⟩
    show (w.packetManager.getNextInbound now).2.rxQueue.entries.length ≤ _
    rw [PacketQueueManager.getNextInbound]
    split
    · exact le_rfl
    · exact w.packetManager.rxQueue.length_get_le now

instance : Moves KeepsTimers takeInbound := by unfold takeInbound; infer_instance

/-- The time of the noise floor and what is known of the radio stay, and nothing is added to the
receive queue. -/
structure Stands (_ : Ctx) (w w' : World) : Prop where
  floorCalib : w'.dispatcher.nextFloorCalibTime = w.dispatcher.nextFloorCalibTime
  nonrxStart : w'.dispatcher.radioNonrxStart = w.dispatcher.radioNonrxStart
  rxQueue : w'.packetManager.rxQueue.entries.length ≤ w.packetManager.rxQueue.entries.length

instance : Composes Stands where
  refl _ _ := ⟨rfl, rfl, le_rfl⟩
  trans _ _ _ _ h h' :=
    ⟨h'.floorCalib.trans h.floorCalib, h'.nonrxStart.trans h.nonrxStart, h'.rxQueue.trans h.rxQueue⟩

instance (priority := low) Moves.standsOfKeepsTimers {α : Type} (m : M α)
    [hm : Moves KeepsTimers m] :
    Moves Stands m where
  moves ctx w :=
    have h := hm.moves ctx w
    ⟨h.floorCalib, h.nonrxStart, h.rxQueue⟩

instance (agcResetInterval : ℤ) : Moves Stands (armAgcReset agcResetInterval) := by
  have hset : ∀ nextAgcResetTime : ℕ, Moves Stands (modifyDispatcher fun d =>
      { d with nextAgcResetTime }) := fun _ => ⟨fun _ _ => ⟨rfl, rfl, le_rfl⟩⟩
  unfold armAgcReset
  infer_instance

instance (agcResetInterval : ℤ) : Moves Stands (agcReset agcResetInterval) := by
  unfold agcReset; infer_instance

set_option synthInstance.maxSize 10000 in
instance (success : Bool) : Moves Stands (dispatcherTxDone success) := by
  unfold dispatcherTxDone; infer_instance

instance : Moves Stands expireOutbound := by unfold expireOutbound; infer_instance

/-- Only the radio is looked after. -/
def Tracks (_ : Ctx) (w w' : World) : Prop :=
  w' = { w with
    dispatcher := { w.dispatcher with
      prevIsrecvMode := w'.dispatcher.prevIsrecvMode
      radioNonrxStart := w'.dispatcher.radioNonrxStart
      errFlags := w'.dispatcher.errFlags }
    tick := w'.tick, events := w'.events } ∧ w.tick ≤ w'.tick

instance : Composes Tracks where
  refl _ _ := ⟨rfl, le_rfl⟩
  trans _ _ _ _ h h' := by
    refine ⟨?_, h.2.trans h'.2⟩
    rw [h'.1, h.1]

instance (priority := low) Moves.tracksOfAsks {α : Type} (m : M α) [hm : Moves Asks m] :
    Moves Tracks m where
  moves ctx w := by
    obtain ⟨hsame, hlater⟩ := hm.moves ctx w
    exact ⟨by rw [hsame], hlater⟩

instance (e : Event) : Moves Tracks (emit e) := ⟨fun _ _ => ⟨rfl, le_rfl⟩⟩

instance (flag : UInt16) : Moves Tracks (setErrFlag flag) := ⟨fun _ _ => ⟨rfl, le_rfl⟩⟩

instance (a : ℕ) : Moves Tracks (modifyDispatcher fun x => { x with radioNonrxStart := a }) :=
  ⟨fun _ _ => ⟨rfl, le_rfl⟩⟩

instance (a : Bool) : Moves Tracks (modifyDispatcher fun x => { x with prevIsrecvMode := a }) :=
  ⟨fun _ _ => ⟨rfl, le_rfl⟩⟩

instance : Moves Tracks trackRecvMode := by unfold trackRecvMode; infer_instance

/-- Only the periodic timers and the radio are looked after. -/
def Watches (_ : Ctx) (w w' : World) : Prop :=
  w' = { w with
    dispatcher := { w.dispatcher with
      nextFloorCalibTime := w'.dispatcher.nextFloorCalibTime
      nextAgcResetTime := w'.dispatcher.nextAgcResetTime
      prevIsrecvMode := w'.dispatcher.prevIsrecvMode
      radioNonrxStart := w'.dispatcher.radioNonrxStart
      errFlags := w'.dispatcher.errFlags }
    tick := w'.tick, events := w'.events } ∧ w.tick ≤ w'.tick

instance : Composes Watches where
  refl _ _ := ⟨rfl, le_rfl⟩
  trans _ _ _ _ h h' := by
    refine ⟨?_, h.2.trans h'.2⟩
    rw [h'.1, h.1]

theorem Tracks.watches {ctx : Ctx} {w w' : World} (h : Tracks ctx w w') : Watches ctx w w' :=
  ⟨by rw [h.1], h.2⟩

instance (priority := low) Moves.watchesOfTracks {α : Type} (m : M α) [hm : Moves Tracks m] :
    Moves Watches m := ⟨fun ctx w => (hm.moves ctx w).watches⟩

instance (a : ℕ) : Moves Watches (modifyDispatcher fun x => { x with nextFloorCalibTime := a }) :=
  ⟨fun _ _ => ⟨rfl, le_rfl⟩⟩

instance (a : ℕ) : Moves Watches (modifyDispatcher fun x => { x with nextAgcResetTime := a }) :=
  ⟨fun _ _ => ⟨rfl, le_rfl⟩⟩

instance : Moves Watches floorCalibrate := by unfold floorCalibrate; infer_instance

instance (agcResetInterval : ℤ) : Moves Watches (agcReset agcResetInterval) := by
  unfold agcReset armAgcReset; infer_instance

/-- Only the budget is refilled. -/
def Refills (_ : Ctx) (w w' : World) : Prop :=
  w' = { w with
    dispatcher := { w.dispatcher with
      txBudgetMs := w'.dispatcher.txBudgetMs
      lastBudgetUpdate := w'.dispatcher.lastBudgetUpdate }
    tick := w'.tick } ∧ w.tick ≤ w'.tick

instance : Composes Refills where
  refl _ _ := ⟨rfl, le_rfl⟩
  trans _ _ _ _ h h' := by
    refine ⟨?_, h.2.trans h'.2⟩
    rw [h'.1, h.1]

instance (priority := low) Moves.refillsOfAsks {α : Type} (m : M α) [hm : Moves Asks m] :
    Moves Refills m where
  moves ctx w := by
    obtain ⟨hsame, hlater⟩ := hm.moves ctx w
    exact ⟨by rw [hsame], hlater⟩

instance (a b : Dispatcher → ℕ) :
    Moves Refills
      (modifyDispatcher fun x => { x with txBudgetMs := a x, lastBudgetUpdate := b x }) :=
  ⟨fun _ _ => ⟨rfl, le_rfl⟩⟩

instance : Moves Refills dispatcherUpdateTxBudget := by
  unfold dispatcherUpdateTxBudget; infer_instance

section

variable {ctx : Ctx} {w w' v : World} {now : ℕ}

/-! ### While the clock stands -/

/-- What has passed is not some time from now. -/
theorem ne_of_hasPassed {timestamp : ℕ} {millisFromNow : ℤ}
    (hpassed : hasPassed ctx.ulongBits now timestamp = true)
    (hfuture : 0 ≤ millisFromNow ∧ millisFromNow < 2 ^ 31) :
    ((now + millisFromNow) % 2 ^ ctx.ulongBits).toNat ≠ timestamp := by
  rintro rfl
  have hbits : 0 < ctx.ulongBits := by rcases ctx.ulongBits_eq with h | h <;> omega
  have hpow : (2 : ℤ) ^ 31 ≤ 2 ^ (ctx.ulongBits - 1) := by
    have hle : 31 ≤ ctx.ulongBits - 1 := by rcases ctx.ulongBits_eq with h | h <;> omega
    exact pow_le_pow_right₀ (by decide) hle
  have hahead : ahead ctx.ulongBits ((now + millisFromNow) % 2 ^ ctx.ulongBits).toNat now
      = -millisFromNow := by
    have hpos : (0 : ℤ) < 2 ^ ctx.ulongBits := by positivity
    rw [ahead_eq_iff hbits, Int.toNat_of_nonneg (Int.emod_nonneg _ hpos.ne')]
    refine ⟨by omega, by omega, (now + millisFromNow) / 2 ^ ctx.ulongBits, ?_⟩
    have hdiv := Int.emod_add_mul_ediv (now + millisFromNow) (2 ^ ctx.ulongBits)
    omega
  have hpos := of_decide_eq_true hpassed
  rw [hahead] at hpos
  omega

theorem floorCalibrate_early (h : w.millisOverride = some now)
    (hearly : hasPassed ctx.ulongBits now w.dispatcher.nextFloorCalibTime = false) :
    floorCalibrate ctx w = ((), w) := by
  have hdispatcher : Prog.gets World.dispatcher ctx w = (w.dispatcher, w) := rfl
  rw [floorCalibrate, Prog.run_bind_of hdispatcher,
    Prog.run_bind_of (dispatcherMillisHasNowPassed_at h _), hearly, if_neg Bool.false_ne_true]
  rfl

/-- The noise floor waits again after it was calibrated. -/
theorem floorCalibrate_passed (h : w.millisOverride = some now)
    (hpassed : hasPassed ctx.ulongBits now w.dispatcher.nextFloorCalibTime = true) :
    (floorCalibrate ctx w).2.dispatcher.nextFloorCalibTime
      = ((now + (noiseFloorCalibInterval : ℤ)) % 2 ^ ctx.ulongBits).toNat := by
  have hdispatcher : Prog.gets World.dispatcher ctx w = (w.dispatcher, w) := rfl
  let threshold := (ctx.hooks w.tick).interferenceThreshold
  let w₁ : World :=
    { w with tick := w.tick + 1, events := w.events ++ [.radioNoiseFloorCalibrate threshold] }
  have hasked : hook Hooks.interferenceThreshold ctx w
      = (threshold, { w with tick := w.tick + 1 }) := rfl
  have hemit : emit (.radioNoiseFloorCalibrate threshold) ctx { w with tick := w.tick + 1 }
      = ((), w₁) :=
    rfl
  rw [floorCalibrate, Prog.run_bind_of hdispatcher,
    Prog.run_bind_of (dispatcherMillisHasNowPassed_at h _), hpassed, if_pos rfl,
    Prog.run_bind_of hasked, Prog.run_bind_of hemit,
    Prog.run_bind_of (dispatcherFutureMillis_at (w := w₁) h _)]
  rfl

/-- What the loop does when nothing is in flight. -/
def idleTurn (agcResetInterval : ℤ) : M Unit := do
  agcReset agcResetInterval
  takeInbound
  dispatcherCheckSend

/-- What the loop does after it looked after the radio. -/
def afterTracking (agcResetInterval : ℤ) : M Unit := do
  let idle ← expireOutbound
  if !idle then pure () else idleTurn agcResetInterval

instance (agcResetInterval : ℤ) : Moves Stands (afterTracking agcResetInterval) := by
  unfold afterTracking idleTurn; infer_instance

/-- The loop looks after the noise floor and the radio, and then goes on. -/
theorem dispatcherLoop_run (ctx : Ctx) (w : World) :
    let v := (floorCalibrate ctx w).2
    (dispatcherLoop ctx w).2 = (afterTracking (ctx.hooks v.tick).agcResetInterval ctx
      (trackRecvMode ctx { v with tick := v.tick + 1 }).2).2 := rfl

/-- With nothing in flight and the noise floor not due the loop takes its turn. -/
theorem dispatcherLoop_idle (h : w.millisOverride = some now) (hidle : w.dispatcher.outbound = none)
    (hearly : hasPassed ctx.ulongBits now w.dispatcher.nextFloorCalibTime = false) :
    ∃ v, Tracks ctx w v ∧
      (dispatcherLoop ctx w).2 = (idleTurn (ctx.hooks w.tick).agcResetInterval ctx v).2 := by
  let asked : World := { w with tick := w.tick + 1 }
  have htracks : Tracks ctx asked (trackRecvMode ctx asked).2 := Moves.moves ctx asked
  have hexpire : expireOutbound ctx (trackRecvMode ctx asked).2
      = (true, (trackRecvMode ctx asked).2) := by
    have hnone : (trackRecvMode ctx asked).2.dispatcher.outbound = none := by
      rw [htracks.1]
      exact hidle
    rw [expireOutbound, Prog.run_bind, Prog.run_gets, hnone]
    rfl
  refine ⟨(trackRecvMode ctx asked).2, Composes.trans ctx _ _ _ ⟨rfl, Nat.le_succ _⟩ htracks, ?_⟩
  rw [dispatcherLoop_run, floorCalibrate_early h hearly, afterTracking, Prog.run_bind_of hexpire]
  rfl

/-- What is left to do when the budget suffices. -/
def sendUnlessBusy (nextTxTime now : ℕ) : M Unit := do
  let passed ← dispatcherMillisHasNowPassed nextTxTime
  if !passed then pure ()
  else do
    let busy ← channelBusy now
    if busy then pure ()
    else do
      modifyDispatcher fun d => { d with cadBusyStart := 0 }
      sendNext now

/-- With a due packet the budget is refilled, and then it suffices or is waited for. -/
theorem dispatcherCheckSend_run (h : v.millisOverride = some now)
    (hcount : v.packetManager.getOutboundCount (now % 2 ^ 32) ≠ 0) :
    let v₁ := (dispatcherUpdateTxBudget ctx v).2
    let r := reserve (ctx.hooks v₁.tick)
    dispatcherCheckSend ctx v
      = (if v₁.dispatcher.txBudgetMs < r then waitForBudget (r - v₁.dispatcher.txBudgetMs)
        else sendUnlessBusy v₁.dispatcher.nextTxTime now) ctx { v₁ with tick := v₁.tick + 1 } := by
  have hmanager : Prog.gets World.packetManager ctx v = (v.packetManager, v) := rfl
  rw [dispatcherCheckSend, Prog.run_bind_of (clockMillisGet_at h), Prog.run_bind_of hmanager,
    if_neg hcount]
  rfl

/-- The next transmission waits for as much budget as it needs. -/
theorem nextTxTime_waitForBudget (h : v.millisOverride = some now) (needed : ℕ) :
    (waitForBudget needed ctx v).2.dispatcher.nextTxTime
      = ((now + budgetWait ctx (ctx.hooks v.tick) needed) % 2 ^ ctx.ulongBits).toNat := by
  let v₁ : World := { v with tick := v.tick + 1 }
  let duty := ctx.roundFloat (1 / ctx.roundFloat (1 + (ctx.hooks v.tick).airtimeBudgetFactor))
  have hduty : dutyCycle ctx v = (duty, v₁) := rfl
  have henv : (Prog.env : M Ctx) ctx v₁ = (ctx, v₁) := rfl
  rw [waitForBudget, Prog.run_bind_of hduty, Prog.run_bind_of henv,
    Prog.run_bind_of (dispatcherFutureMillis_at (w := v₁) h _)]
  rfl

/-- Either the channel is not waited for, or the next transmission waits. -/
theorem channelBusy_cases (h : v.millisOverride = some now) :
    let v' := (channelBusy now ctx v).2
    (channelBusy now ctx v).1 = false ∧ v'.packetManager = v.packetManager ∨
      (channelBusy now ctx v).1 = true ∧ ∃ n, v.tick ≤ n ∧ v'.dispatcher.nextTxTime
        = ((now + toCInt (ctx.hooks n).cadFailRetryDelay) % 2 ^ ctx.ulongBits).toNat := by
  cases hreceiving : (ctx.hooks v.tick).radioReceiving with
  | false =>
    have hrun : channelBusy now ctx v = (false, { v with tick := v.tick + 1 }) := by
      simp only [channelBusy, Prog.run_bind, hook, Prog.run_ite, hreceiving]
      rfl
    rw [hrun]
    exact .inl ⟨rfl, rfl⟩
  | true =>
    let cadBusyStart := if v.dispatcher.cadBusyStart = 0 then now else v.dispatcher.cadBusyStart
    let v₁ : World :=
      { v with tick := v.tick + 1, dispatcher := { v.dispatcher with cadBusyStart } }
    let v₂ : World := { v₁ with tick := v₁.tick + 1 }
    let v₃ : World := { v₁ with tick := v₁.tick + 1 + 1 }
    have hrun : channelBusy now ctx v
        = (if ulongSub ctx.ulongBits now cadBusyStart
          > (ctx.hooks v₁.tick).cadFailMaxDuration.toNat then do
            setErrFlag errEventCadTimeout
            pure false
          else do
            let retryDelay ← hook Hooks.cadFailRetryDelay
            let nextTxTime ← dispatcherFutureMillis (toCInt retryDelay)
            modifyDispatcher fun d => { d with nextTxTime }
            pure true : M Bool) ctx v₂ := by
      have hasked : hook Hooks.radioReceiving ctx v = (true, { v with tick := v.tick + 1 }) :=
        Prod.ext hreceiving rfl
      rw [channelBusy, Prog.run_bind_of hasked, if_neg (by decide)]
      rfl
    rw [hrun]
    split
    · exact .inl ⟨rfl, rfl⟩
    · right
      have hasked : hook Hooks.cadFailRetryDelay ctx v₂
          = ((ctx.hooks v₂.tick).cadFailRetryDelay, v₃) := rfl
      rw [Prog.run_bind_of hasked, Prog.run_bind_of (dispatcherFutureMillis_at (w := v₃) h _)]
      exact ⟨rfl, v₂.tick, (Nat.le_succ _).trans (Nat.le_succ _), rfl⟩

end

end Meshcore
