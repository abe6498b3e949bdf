import Meshcore.Conclusions
import Meshcore.LoopTurns

/-!
# The timer of an idle library

When the host's timer fires the library does what there is to do, and arms the timer again. The
search for the deadline and the loop that acts on it are separate code. They agree on a time that
has passed; but the search takes a time that is reached for one that is due, and it looks at times
that the loop leaves alone while a packet is in flight, while the budget is short or while nothing
may be sent yet. In such a state the timer is armed for now, though the call did nothing.

## Main definitions

* `NoProgress` — a call did nothing
* `ActsOn` — a time that the loop acts on
* `NothingDue` — no time that the search looks at is reached

## Main results

* `ActsOn.not_noProgress` — what is acted on comes on
* `no_idle_rearm`
-/

namespace Meshcore

/-- The times of the dispatcher. -/
def Dispatcher.times (d : Dispatcher) : List ℕ :=
  [d.outboundExpiry, d.nextTxTime, d.nextFloorCalibTime, d.nextAgcResetTime, d.radioNonrxStart]

/-- No packet has moved, nothing was transmitted or concluded, no registration has ended and no time
of the dispatcher has advanced. -/
structure NoProgress (w w' : World) : Prop where
  sendQueue : w'.packetManager.sendQueue = w.packetManager.sendQueue
  rxQueue : w'.packetManager.rxQueue = w.packetManager.rxQueue
  outbound : w'.dispatcher.outbound = w.dispatcher.outbound
  air : w'.air = w.air
  correlation : w'.correlation = w.correlation
  times : w'.dispatcher.times = w.dispatcher.times

/-- The refilled budget, when the host answers from this tick on. -/
def World.budgetAt (ctx : Ctx) (w : World) (now n : ℕ) : ℕ :=
  (dispatcherUpdateTxBudget ctx
    { w with millisOverride := some now, tick := n }).2.dispatcher.txBudgetMs

/-- Waiting for the budget or for the channel is not waiting backwards, whatever the host answers
from now on. -/
structure World.WaitsFit (ctx : Ctx) (w : World) : Prop where
  budget : ∀ m n needed, w.tick ≤ m → w.tick ≤ n → needed ≤ reserve (ctx.hooks m) →
    0 ≤ budgetWait ctx (ctx.hooks n) needed ∧ budgetWait ctx (ctx.hooks n) needed < 2 ^ 31
  channel : FromNow ctx w fun h => 0 ≤ toCInt h.cadFailRetryDelay

/-- The budget is short, and waiting for it ends at another time than was set, whatever the host
answers from now on. -/
def World.FallsShort (ctx : Ctx) (w : World) (now : ℕ) : Prop :=
  ∀ k m n, w.tick ≤ k → w.tick ≤ m → w.tick ≤ n →
    w.budgetAt ctx now k < reserve (ctx.hooks m) ∧
      ((now + budgetWait ctx (ctx.hooks n) (reserve (ctx.hooks m) - w.budgetAt ctx now k))
        % 2 ^ ctx.ulongBits).toNat ≠ w.dispatcher.nextTxTime

/-- When the timer fires now, this is acted on: a registration that has expired, a periodic timer
that has run out, a transmission that takes too long, a delayed packet that is due, a packet to be
sent that may be sent or has to wait longer, or a radio that no longer receives. -/
inductive ActsOn (ctx : Ctx) (w : World) (now : ℕ) : Prop where
  | expired {s : Slot} {r : Registration} (hopen : w.correlation.slot s = some r)
      (hreached : timeReached ctx.ulongBits now r.expiresAtMs = true) : ActsOn ctx w now
  | floorCalib (hpassed : hasPassed ctx.ulongBits now w.dispatcher.nextFloorCalibTime = true) :
      ActsOn ctx w now
  | expiry {id : PacketId} (hflight : w.dispatcher.outbound = some id)
      (hpassed : hasPassed ctx.ulongBits now w.dispatcher.outboundExpiry = true) : ActsOn ctx w now
  | agcReset (hidle : w.dispatcher.outbound = none)
      (hinterval : 0 < (ctx.hooks w.tick).agcResetInterval ∧
        (ctx.hooks w.tick).agcResetInterval < 2 ^ 31)
      (hpassed : hasPassed ctx.ulongBits now w.dispatcher.nextAgcResetTime = true) :
      ActsOn ctx w now
  | inbound {e : QueueEntry} (hidle : w.dispatcher.outbound = none)
      (he : e ∈ w.packetManager.rxQueue.entries) (hdue : PacketQueue.isDue now e = true)
      (hpriority : e.priority ≠ 0xFF) : ActsOn ctx w now
  | send {e : QueueEntry} (hidle : w.dispatcher.outbound = none)
      (he : e ∈ w.packetManager.sendQueue.entries) (hdue : PacketQueue.isDue now e = true)
      (hpriority : e.priority ≠ 0xFF)
      (hpassed : hasPassed ctx.ulongBits now w.dispatcher.nextTxTime = true)
      (hfit : w.WaitsFit ctx) :
      ActsOn ctx w now
  | short {e : QueueEntry} (hidle : w.dispatcher.outbound = none)
      (he : e ∈ w.packetManager.sendQueue.entries) (hdue : PacketQueue.isDue now e = true)
      (hshort : w.FallsShort ctx now) : ActsOn ctx w now
  | deaf (hstopped : w.dispatcher.prevIsrecvMode = true)
      (hmode : FromNow ctx w fun h => h.radioInRxMode = false)
      (hstart : w.dispatcher.radioNonrxStart ≠ now) : ActsOn ctx w now

/-- Nothing that the search for the deadline looks at is due now. -/
structure NothingDue (ctx : Ctx) (w : World) (now : ℕ) : Prop where
  expiries : ∀ c ∈ w.correlation.times, 0 < ahead 32 now c
  candidates : ∀ c ∈ deadlineCandidates w.packetManager w.dispatcher now, 0 < ahead 32 now c
  receiving : (FromNow ctx w fun h => h.radioInRxMode = true) ∨
    0 < ahead 32 now ((w.dispatcher.radioNonrxStart + radioNonrxTimeoutMs) % 2 ^ 32)

section

variable {ctx : Ctx} {w w' v : World} {now : ℕ}

/-! ### What comes on -/

theorem floorCalib_comes (h : w.millisOverride = some now)
    (hpassed : hasPassed ctx.ulongBits now w.dispatcher.nextFloorCalibTime = true) :
    (dispatcherLoop ctx w).2.dispatcher.nextFloorCalibTime ≠ w.dispatcher.nextFloorCalibTime := by
  have hset := floorCalibrate_passed h hpassed
  rw [dispatcherLoop_run]
  generalize (floorCalibrate ctx w).2 = v at hset
  have htracks : Tracks ctx { v with tick := v.tick + 1 }
      (trackRecvMode ctx { v with tick := v.tick + 1 }).2 := Moves.moves ctx _
  have hstands : Stands ctx _ (afterTracking (ctx.hooks v.tick).agcResetInterval ctx
      (trackRecvMode ctx { v with tick := v.tick + 1 }).2).2 := Moves.moves ctx _
  rw [hstands.floorCalib, htracks.1]
  exact hset ▸ ne_of_hasPassed hpassed ⟨by decide, by decide⟩

/-- A radio that no longer receives is noted. -/
theorem deaf_comes (h : w.millisOverride = some now)
    (hearly : hasPassed ctx.ulongBits now w.dispatcher.nextFloorCalibTime = false)
    (hstopped : w.dispatcher.prevIsrecvMode = true)
    (hmode : FromNow ctx w fun h => h.radioInRxMode = false) :
    (dispatcherLoop ctx w).2.dispatcher.radioNonrxStart = now := by
  have hstands : Stands ctx (trackRecvMode ctx { w with tick := w.tick + 1 }).2
      (dispatcherLoop ctx w).2 := by
    rw [dispatcherLoop_run, floorCalibrate_early h hearly]
    exact Moves.moves ctx _
  let w₁ : World := { w with tick := w.tick + 1 + 1 }
  let w₂ : World :=
    { w₁ with dispatcher := { w.dispatcher with prevIsrecvMode := false, radioNonrxStart := now } }
  have hasked : hook Hooks.radioInRxMode ctx { w with tick := w.tick + 1 } = (false, w₁) :=
    Prod.ext (hmode _ (Nat.le_succ _)) rfl
  have hdispatcher : Prog.gets World.dispatcher ctx w₁ = (w.dispatcher, w₁) := rfl
  have hnoted : (if false ≠ w.dispatcher.prevIsrecvMode then do
      modifyDispatcher fun d => { d with prevIsrecvMode := false }
      if !false then do
        let radioNonrxStart ← clockMillisGet
        modifyDispatcher fun d => { d with radioNonrxStart }
      else pure ()
    else pure () : M Unit) ctx w₁ = ((), w₂) := by
    let unnoted : World :=
      { w₁ with dispatcher := { w.dispatcher with prevIsrecvMode := false } }
    have hclock : clockMillisGet ctx unnoted = (now, unnoted) := clockMillisGet_at h
    have hset : modifyDispatcher (fun d => { d with prevIsrecvMode := false }) ctx w₁
        = ((), unnoted) :=
      rfl
    rw [hstopped, if_pos Bool.false_ne_true, Prog.run_bind_of hset, if_pos (by decide),
      Prog.run_bind_of hclock]
    rfl
  have hrest : ∀ v : World, ((do
      let now ← clockMillisGet
      let ctx ← Prog.env
      let d ← Prog.gets World.dispatcher
      if !false ∧ ulongSub ctx.ulongBits now d.radioNonrxStart > radioNonrxTimeoutMs then
        setErrFlag errEventStartrxTimeout
      else pure () : M Unit) ctx v).2.dispatcher.radioNonrxStart = v.dispatcher.radioNonrxStart :=
    fun v => (inferInstance : Moves KeepsTimers _).moves ctx v |>.nonrxStart
  rw [hstands.nonrxStart, trackRecvMode, Prog.run_bind_of hasked, Prog.run_bind_of hdispatcher,
    Prog.run_bind_of hnoted, hrest]

/-- A transmission that takes too long is logged. -/
theorem expiry_comes {id : PacketId} (h : w.millisOverride = some now) (hpool : w.PoolIntact ctx [])
    (hflight : w.dispatcher.outbound = some id)
    (hpassed : hasPassed ctx.ulongBits now w.dispatcher.outboundExpiry = true) :
    (dispatcherLoop ctx w).2.air ≠ w.air := by
  have hover : w.overdue ctx now = [(id, false)] := by
    rw [World.overdue, hflight, Option.elim_some, if_pos hpassed]
  obtain ⟨l, hl, hends⟩ := dispatcherLoop_concludes h hpool
  rw [hover] at hends
  -- The flight that ends is logged, and nothing takes a log back.
  obtain ⟨f, hf, hending⟩ := List.mem_filterMap.mp (hends ▸ List.mem_singleton_self (id, false))
  intro hair
  have hsilent := List.append_right_eq_self.mp (hl.air.symm.trans hair)
  have hnone := List.flatMap_eq_nil_iff.mp hsilent f hf
  cases f with
  | started | refused => cases hending
  | ended id success packet => cases success <;> cases hnone

/-- The AGC waits again after it was reset. -/
theorem agcReset_comes (h : w.millisOverride = some now) (hidle : w.dispatcher.outbound = none)
    (hinterval : 0 < (ctx.hooks w.tick).agcResetInterval ∧
      (ctx.hooks w.tick).agcResetInterval < 2 ^ 31)
    (hearly : hasPassed ctx.ulongBits now w.dispatcher.nextFloorCalibTime = false)
    (hpassed : hasPassed ctx.ulongBits now w.dispatcher.nextAgcResetTime = true) :
    (dispatcherLoop ctx w).2.dispatcher.nextAgcResetTime ≠ w.dispatcher.nextAgcResetTime := by
  obtain ⟨v, htracks, hrun⟩ := @dispatcherLoop_idle ctx w now h hidle hearly
  have hclock : v.millisOverride = some now := by rw [htracks.1]; exact h
  let interval := (ctx.hooks w.tick).agcResetInterval
  have hset : (agcReset interval ctx v).2.dispatcher.nextAgcResetTime
      = ((now + interval) % 2 ^ ctx.ulongBits).toNat := by
    have hdispatcher : Prog.gets World.dispatcher ctx v = (v.dispatcher, v) := rfl
    let v₁ : World := { v with events := v.events ++ [.radioAgcReset] }
    have hemit : emit .radioAgcReset ctx v = ((), v₁) := rfl
    have hsame : v.dispatcher.nextAgcResetTime = w.dispatcher.nextAgcResetTime := by rw [htracks.1]
    have hdue : (if interval > 0 then dispatcherMillisHasNowPassed v.dispatcher.nextAgcResetTime
        else pure false : M Bool) ctx v = (true, v) := by
      rw [if_pos hinterval.1, dispatcherMillisHasNowPassed_at hclock, hsame, hpassed]
    rw [agcReset, Prog.run_bind_of hdispatcher, Prog.run_bind_of hdue, if_pos rfl,
      Prog.run_bind_of hemit, armAgcReset,
      Prog.run_bind_of (dispatcherFutureMillis_at (w := v₁) hclock interval)]
    rfl
  have hrest : KeepsTimers ctx (agcReset interval ctx v).2 (idleTurn interval ctx v).2 := by
    have hmoves : Moves KeepsTimers (do takeInbound; dispatcherCheckSend) := inferInstance
    exact hmoves.moves ctx _
  rw [hrun, hrest.agcReset, hset]
  exact ne_of_hasPassed hpassed ⟨hinterval.1.le, hinterval.2⟩

/-- Taking a delayed packet that is due takes it out of its queue; otherwise nothing happens. -/
theorem takeInbound_cases (h : v.millisOverride = some now) (hnow : now < 2 ^ 32) :
    (takeInbound ctx v).2.packetManager.rxQueue.entries.length
      < v.packetManager.rxQueue.entries.length ∨ (takeInbound ctx v).2 = v ∧
      (v.packetManager.initialized = true →
        ∀ e ∈ v.packetManager.rxQueue.entries, PacketQueue.isDue now e = true →
          e.priority = 0xFF) := by
  have hmod : now % 2 ^ 32 = now := Nat.mod_eq_of_lt hnow
  cases hinit : v.packetManager.initialized with
  | false =>
    have htake : takePacket (·.getNextInbound now) ctx v = (none, v) := by
      rw [takePacket, PacketQueueManager.getNextInbound, if_pos (by simp [hinit])]
    rw [takeInbound, Prog.run_bind_of (clockMillisGet_at h), hmod, Prog.run_bind_of htake]
    exact .inr ⟨rfl, fun h => absurd h Bool.false_ne_true⟩
  | true =>
  have htake : takePacket (·.getNextInbound now) ctx v = ((v.packetManager.rxQueue.get now).1,
      { v with
        packetManager :=
          { v.packetManager with rxQueue := (v.packetManager.rxQueue.get now).2 } }) := by
    rw [takePacket, PacketQueueManager.getNextInbound, if_neg (by simp [hinit])]
  rw [takeInbound, Prog.run_bind_of (clockMillisGet_at h), hmod, Prog.run_bind_of htake]
  rcases v.packetManager.rxQueue.get_cases now with ⟨hnone, hall⟩ | ⟨l, e, r, hsplit, -, -, hget⟩
  · refine .inr ⟨?_, fun _ => hall⟩
    rw [hnone]
    rfl
  · left
    rw [hget]
    have hrest := (inferInstance : Moves KeepsTimers (dispatcherProcessRecvPacket e.packet)).moves
      ctx { v with
        packetManager := { v.packetManager with
          rxQueue := { v.packetManager.rxQueue with entries := l ++ r } } }
    refine lt_of_le_of_lt hrest.rxQueue ?_
    show (l ++ r).length < _
    rw [hsplit]
    simp

/-- A delayed packet that is due is taken. -/
theorem inbound_comes {e : QueueEntry} (h : w.millisOverride = some now) (hnow : now < 2 ^ 32)
    (hidle : w.dispatcher.outbound = none)
    (hearly : hasPassed ctx.ulongBits now w.dispatcher.nextFloorCalibTime = false)
    (hinit : w.packetManager.initialized = true) (he : e ∈ w.packetManager.rxQueue.entries)
    (hdue : PacketQueue.isDue now e = true) (hpriority : e.priority ≠ 0xFF) :
    (dispatcherLoop ctx w).2.packetManager.rxQueue ≠ w.packetManager.rxQueue := by
  obtain ⟨v, htracks, hrun⟩ := @dispatcherLoop_idle ctx w now h hidle hearly
  let interval := (ctx.hooks w.tick).agcResetInterval
  have hwatch' : Watches ctx w (agcReset interval ctx v).2 :=
    Composes.trans ctx _ _ _ htracks.watches (Moves.moves ctx v)
  have heq : (idleTurn interval ctx v).2
      = (dispatcherCheckSend ctx (takeInbound ctx (agcReset interval ctx v).2).2).2 := rfl
  rw [hrun, heq]
  generalize (agcReset interval ctx v).2 = v₁ at hwatch'
  have hmanager : v₁.packetManager = w.packetManager := by rw [hwatch'.1]
  have hclock : v₁.millisOverride = some now := by rw [hwatch'.1]; exact h
  have hrest : KeepsTimers ctx (takeInbound ctx v₁).2
      (dispatcherCheckSend ctx (takeInbound ctx v₁).2).2 :=
    Moves.moves ctx _
  rcases @takeInbound_cases ctx v₁ now hclock hnow with htaken | ⟨-, hall⟩
  · intro hsame
    have hlt := lt_of_le_of_lt hrest.rxQueue htaken
    rw [hsame, hmanager] at hlt
    exact lt_irrefl _ hlt
  · exact absurd (hall (hmanager ▸ hinit) e (hmanager ▸ he) hdue) hpriority

/-- What is left of the budget, how long it was not refilled and what the host answers make the
budget. -/
theorem txBudgetMs_dispatcherUpdateTxBudget (hv : v.millisOverride = some now)
    (hw : w.millisOverride = some now) (htick : v.tick = w.tick)
    (hbudget : v.dispatcher.txBudgetMs = w.dispatcher.txBudgetMs)
    (hlast : v.dispatcher.lastBudgetUpdate = w.dispatcher.lastBudgetUpdate) :
    (dispatcherUpdateTxBudget ctx v).2.dispatcher.txBudgetMs
      = (dispatcherUpdateTxBudget ctx w).2.dispatcher.txBudgetMs := by
  let dutyCycle := ctx.roundFloat (1 / ctx.roundFloat (1 + (ctx.hooks w.tick).airtimeBudgetFactor))
  let share (t : ℕ) : ℕ := floatToULong ctx.ulongBits
    (ctx.roundFloat (ctx.roundFloat t * dutyCycle))
  let refill := share (ulongSub ctx.ulongBits now w.dispatcher.lastBudgetUpdate)
  let window := (ctx.hooks (w.tick + 1)).dutyCycleWindowMs
  have hrun : ∀ u : World, u.millisOverride = some now → u.tick = w.tick →
      u.dispatcher.txBudgetMs = w.dispatcher.txBudgetMs →
      u.dispatcher.lastBudgetUpdate = w.dispatcher.lastBudgetUpdate →
      (dispatcherUpdateTxBudget ctx u).2.dispatcher.txBudgetMs
        = if refill > 0 then
            min ((w.dispatcher.txBudgetMs + refill) % 2 ^ ctx.ulongBits)
              (share (window % 2 ^ ctx.ulongBits))
          else w.dispatcher.txBudgetMs := by
    intro u hu htick hbudget hlast
    rw [dispatcherUpdateTxBudget, Prog.run_bind_of (clockMillisGet_at hu)]
    simp only [refill, share, dutyCycle, window, ← htick, ← hbudget, ← hlast]
    simp only [Meshcore.dutyCycle, Prog.run_bind, Prog.run_env, Prog.run_gets, Prog.run_pure,
      Prog.run_ite]
    split
    · rw [if_pos ‹_›]
      rfl
    · rw [if_neg ‹_›]
      rfl
  rw [hrun v hv htick hbudget hlast, hrun w hw rfl rfl rfl]

/-- A packet that is due is counted. -/
theorem PacketQueue.countBefore_ne_zero {queue : PacketQueue} {e : QueueEntry}
    (he : e ∈ queue.entries) (hdue : PacketQueue.isDue now e = true) :
    queue.countBefore now ≠ 0 := by
  rw [PacketQueue.countBefore]
  split
  · exact (List.length_pos_of_mem he).ne'
  · exact (List.countP_pos_iff.mpr ⟨e, he, hdue⟩).ne'

theorem getOutboundCount_ne_zero {e : QueueEntry} (hnow : now < 2 ^ 32)
    (hinit : v.packetManager.initialized = true) (he : e ∈ v.packetManager.sendQueue.entries)
    (hdue : PacketQueue.isDue now e = true) :
    v.packetManager.getOutboundCount (now % 2 ^ 32) ≠ 0 := by
  rw [Nat.mod_eq_of_lt hnow, PacketQueueManager.getOutboundCount, if_neg (by simp [hinit])]
  exact PacketQueue.countBefore_ne_zero he hdue

/-- The next packet is taken out of its queue. -/
theorem sendQueue_sendNext {e : QueueEntry} (hnow : now < 2 ^ 32)
    (hinit : v.packetManager.initialized = true) (he : e ∈ v.packetManager.sendQueue.entries)
    (hdue : PacketQueue.isDue now e = true) (hpriority : e.priority ≠ 0xFF) :
    (sendNext now ctx v).2.packetManager.sendQueue.entries.length
      < v.packetManager.sendQueue.entries.length := by
  have hmod : now % 2 ^ 32 = now := Nat.mod_eq_of_lt hnow
  have htake : takePacket (·.getNextOutbound now) ctx v = ((v.packetManager.sendQueue.get now).1,
      { v with
        packetManager :=
          { v.packetManager with sendQueue := (v.packetManager.sendQueue.get now).2 } }) := by
    rw [takePacket, PacketQueueManager.getNextOutbound, if_neg (by simp [hinit])]
  rw [sendNext, hmod, Prog.run_bind_of htake]
  rcases v.packetManager.sendQueue.get_cases now with ⟨-, hall⟩ | ⟨l, e', r, hsplit, -, -, hget⟩
  · exact absurd (hall e he hdue) hpriority
  · rw [hget]
    have hrest := (inferInstance : Moves Unsent (do
        modifyDispatcher fun d => { d with outbound := some e'.packet }
        startSend e'.packet now)).moves ctx
      { v with
        packetManager := { v.packetManager with
          sendQueue := { v.packetManager.sendQueue with entries := l ++ r } } }
    refine lt_of_eq_of_lt (congrArg (·.entries.length) hrest) ?_
    show (l ++ r).length < _
    rw [hsplit]
    simp

/-- A packet to be sent is taken out of its queue, or the next transmission waits. -/
theorem dispatcherCheckSend_comes {e : QueueEntry} (h : v.millisOverride = some now)
    (hnow : now < 2 ^ 32) (hinit : v.packetManager.initialized = true)
    (he : e ∈ v.packetManager.sendQueue.entries) (hdue : PacketQueue.isDue now e = true)
    (hpriority : e.priority ≠ 0xFF)
    (hpassed : hasPassed ctx.ulongBits now v.dispatcher.nextTxTime = true) (hfit : v.WaitsFit ctx) :
    let v' := (dispatcherCheckSend ctx v).2
    v'.packetManager.sendQueue.entries.length < v.packetManager.sendQueue.entries.length ∨
      v'.dispatcher.nextTxTime ≠ v.dispatcher.nextTxTime := by
  have hrun := @dispatcherCheckSend_run ctx v now h (getOutboundCount_ne_zero hnow hinit he hdue)
  have hrefills : Refills ctx v (dispatcherUpdateTxBudget ctx v).2 := Moves.moves ctx v
  simp only [hrun]
  generalize (dispatcherUpdateTxBudget ctx v).2 = v₁ at hrefills
  have hclock : v₁.millisOverride = some now := by rw [hrefills.1]; exact h
  have hnext : v₁.dispatcher.nextTxTime = v.dispatcher.nextTxTime := by rw [hrefills.1]
  have hqueue : v₁.packetManager = v.packetManager := by rw [hrefills.1]
  let v₂ : World := { v₁ with tick := v₁.tick + 1 }
  have hlater : v.tick ≤ v₂.tick := hrefills.2.trans (Nat.le_succ _)
  split
  · right
    rw [nextTxTime_waitForBudget (v := v₂) hclock]
    exact ne_of_hasPassed hpassed (hfit.budget _ _ _ hrefills.2 hlater (Nat.sub_le ..))
  · rw [sendUnlessBusy, Prog.run_bind_of (dispatcherMillisHasNowPassed_at (w := v₂) hclock _),
      hnext, hpassed, if_neg (by decide)]
    rcases @channelBusy_cases ctx v₂ now hclock with ⟨hfree, hmanager⟩ | ⟨hbusy, n, hn, hwait⟩
    · left
      have hsame := hmanager.trans hqueue
      rw [Prog.run_bind, hfree, if_neg Bool.false_ne_true]
      generalize (channelBusy now ctx v₂).2 = v₃ at hsame
      rw [← hsame] at hinit he ⊢
      exact sendQueue_sendNext
        (v := { v₃ with dispatcher := { v₃.dispatcher with cadBusyStart := 0 } })
        hnow hinit he hdue hpriority
    · right
      rw [Prog.run_bind, hbusy, if_pos rfl]
      refine hwait ▸ ne_of_hasPassed hpassed ⟨hfit.channel n (hlater.trans hn), ?_⟩
      exact Int32.toInt_lt _

/-- When the budget falls short, the next transmission waits longer. -/
theorem dispatcherCheckSend_short {e : QueueEntry} (h : v.millisOverride = some now)
    (hnow : now < 2 ^ 32) (hinit : v.packetManager.initialized = true)
    (he : e ∈ v.packetManager.sendQueue.entries) (hdue : PacketQueue.isDue now e = true)
    (hshort : v.FallsShort ctx now) :
    (dispatcherCheckSend ctx v).2.dispatcher.nextTxTime ≠ v.dispatcher.nextTxTime := by
  have hrun := @dispatcherCheckSend_run ctx v now h (getOutboundCount_ne_zero hnow hinit he hdue)
  have hrefills : Refills ctx v (dispatcherUpdateTxBudget ctx v).2 := Moves.moves ctx v
  have hbudget : v.budgetAt ctx now v.tick
      = (dispatcherUpdateTxBudget ctx v).2.dispatcher.txBudgetMs := by
    rw [World.budgetAt, ← h]
  simp only [hrun]
  generalize (dispatcherUpdateTxBudget ctx v).2 = v₁ at hrefills hbudget
  have hclock : v₁.millisOverride = some now := by rw [hrefills.1]; exact h
  let v₂ : World := { v₁ with tick := v₁.tick + 1 }
  obtain ⟨hless, hmoved⟩ := hshort v.tick v₁.tick v₂.tick le_rfl hrefills.2
    (hrefills.2.trans (Nat.le_succ _))
  rw [hbudget] at hless hmoved
  rw [if_pos hless, nextTxTime_waitForBudget (v := v₂) hclock]
  exact hmoved

/-- What becomes of the packets to be sent, unless a delayed packet was taken before. -/
theorem checkSend_comes {e : QueueEntry} (h : w.millisOverride = some now) (hnow : now < 2 ^ 32)
    (hidle : w.dispatcher.outbound = none)
    (hearly : hasPassed ctx.ulongBits now w.dispatcher.nextFloorCalibTime = false)
    (hinit : w.packetManager.initialized = true) (he : e ∈ w.packetManager.sendQueue.entries)
    (hdue : PacketQueue.isDue now e = true)
    (hacts : (e.priority ≠ 0xFF ∧ hasPassed ctx.ulongBits now w.dispatcher.nextTxTime = true ∧
      w.WaitsFit ctx) ∨ w.FallsShort ctx now) :
    let w' := (dispatcherLoop ctx w).2
    w'.packetManager.rxQueue ≠ w.packetManager.rxQueue ∨
      w'.packetManager.sendQueue ≠ w.packetManager.sendQueue ∨
      w'.dispatcher.nextTxTime ≠ w.dispatcher.nextTxTime := by
  intro w'
  have hw' : w' = (dispatcherLoop ctx w).2 := rfl
  obtain ⟨v, htracks, hrun⟩ := @dispatcherLoop_idle ctx w now h hidle hearly
  let interval := (ctx.hooks w.tick).agcResetInterval
  have hwatch' : Watches ctx w (agcReset interval ctx v).2 :=
    Composes.trans ctx _ _ _ htracks.watches (Moves.moves ctx v)
  have heq : (idleTurn interval ctx v).2
      = (dispatcherCheckSend ctx (takeInbound ctx (agcReset interval ctx v).2).2).2 := rfl
  rw [hrun, heq] at hw'
  rw [hw']
  generalize (agcReset interval ctx v).2 = v₁ at hwatch'
  have hmanager : v₁.packetManager = w.packetManager := by rw [hwatch'.1]
  have hclock : v₁.millisOverride = some now := by rw [hwatch'.1]; exact h
  have hnext : v₁.dispatcher.nextTxTime = w.dispatcher.nextTxTime := by rw [hwatch'.1]
  have hrest : KeepsTimers ctx (takeInbound ctx v₁).2
      (dispatcherCheckSend ctx (takeInbound ctx v₁).2).2 :=
    Moves.moves ctx _
  rcases @takeInbound_cases ctx v₁ now hclock hnow with htaken | ⟨hnothing, -⟩
  · left
    intro hsame
    have hlt := lt_of_le_of_lt hrest.rxQueue htaken
    rw [hsame, hmanager] at hlt
    exact lt_irrefl _ hlt
  · rw [hnothing, ← hmanager, ← hnext]
    rw [← hmanager] at hinit he
    rcases hacts with ⟨hpriority, hpassed, hfit⟩ | hshort
    · have hfit' : v₁.WaitsFit ctx :=
        ⟨fun m n needed hm hn => hfit.budget m n needed (hwatch'.2.trans hm) (hwatch'.2.trans hn),
          hfit.channel.later hwatch'.2⟩
      rcases dispatcherCheckSend_comes hclock hnow hinit he hdue hpriority (hnext ▸ hpassed) hfit'
        with hlt | hmoved
      · exact .inr (.inl fun hsame => lt_irrefl _ (hsame ▸ hlt))
      · exact .inr (.inr hmoved)
    · refine .inr
        (.inr (dispatcherCheckSend_short hclock hnow hinit he hdue fun k m n hk hm hn => ?_))
      have hbudget : v₁.budgetAt ctx now k = w.budgetAt ctx now k :=
        txBudgetMs_dispatcherUpdateTxBudget rfl rfl rfl (by rw [hwatch'.1]) (by rw [hwatch'.1])
      rw [hbudget, hnext]
      exact hshort k m n (hwatch'.2.trans hk) (hwatch'.2.trans hm) (hwatch'.2.trans hn)

/-- If no packet was taken, the host was asked for more and not for less. -/
theorem tick_le_dispatcherLoop (h : w.millisOverride = some now) (hnow : now < 2 ^ 32)
    (hsame : (dispatcherLoop ctx w).2.packetManager.rxQueue = w.packetManager.rxQueue) :
    w.tick ≤ (dispatcherLoop ctx w).2.tick := by
  have hfloor : Watches ctx w (floorCalibrate ctx w).2 := Moves.moves ctx w
  rw [dispatcherLoop_run] at hsame ⊢
  generalize (floorCalibrate ctx w).2 = v at hfloor hsame ⊢
  have htracks : Tracks ctx { v with tick := v.tick + 1 }
      (trackRecvMode ctx { v with tick := v.tick + 1 }).2 := Moves.moves ctx _
  have hwatch : Watches ctx w (trackRecvMode ctx { v with tick := v.tick + 1 }).2 :=
    Composes.trans ctx _ _ _ ⟨by rw [hfloor.1], hfloor.2.trans (Nat.le_succ _)⟩ htracks.watches
  generalize (trackRecvMode ctx { v with tick := v.tick + 1 }).2 = v₁ at hwatch hsame ⊢
  have helse : KeepsCorrelation ctx v₁ (expireOutbound ctx v₁).2 := Moves.moves ctx v₁
  have hstands : Stands ctx v₁ (expireOutbound ctx v₁).2 := Moves.moves ctx v₁
  obtain ⟨-, -, hclock, -, -, hlater⟩ := helse
  rw [afterTracking, Prog.run_bind] at hsame ⊢
  generalize (ctx.hooks v.tick).agcResetInterval = interval at hsame ⊢
  generalize (expireOutbound ctx v₁).1 = idle at hsame ⊢
  generalize (expireOutbound ctx v₁).2 = v₂ at hclock hlater hstands hsame ⊢
  cases idle with
  | false => exact hwatch.2.trans hlater
  | true =>
    have hreset : Watches ctx v₂ (agcReset interval ctx v₂).2 := Moves.moves ctx v₂
    have heq : ((if !true then pure () else idleTurn interval : M Unit) ctx v₂).2
        = (dispatcherCheckSend ctx (takeInbound ctx (agcReset interval ctx v₂).2).2).2 := rfl
    rw [heq] at hsame ⊢
    generalize (agcReset interval ctx v₂).2 = v₃ at hreset hsame ⊢
    have hclock₃ : v₃.millisOverride = some now := by
      rw [hreset.1]
      exact hclock.trans ((by rw [hwatch.1] : v₁.millisOverride = w.millisOverride).trans h)
    have hsend : KeepsCorrelation ctx (takeInbound ctx v₃).2
        (dispatcherCheckSend ctx (takeInbound ctx v₃).2).2 :=
      Moves.moves ctx _
    have hrest : KeepsTimers ctx (takeInbound ctx v₃).2
        (dispatcherCheckSend ctx (takeInbound ctx v₃).2).2 :=
      Moves.moves ctx _
    rcases @takeInbound_cases ctx v₃ now hclock₃ hnow with htaken | ⟨hnothing, -⟩
    · have hmanager : v₁.packetManager = w.packetManager := by rw [hwatch.1]
      have hmanager₃ : v₃.packetManager = v₂.packetManager := by rw [hreset.1]
      have hlt := (lt_of_le_of_lt hrest.rxQueue htaken).trans_le (hmanager₃ ▸ hstands.rxQueue)
      rw [hsame, hmanager] at hlt
      exact absurd hlt (lt_irrefl _)
    · rw [hnothing] at hsend ⊢
      exact hwatch.2.trans (hlater.trans (hreset.2.trans hsend.2.2.2.2.2))

/-- While packets are processed no registration is made. -/
theorem slot_of_settling {t t' : Slot → Option Registration} {l : CorrelationLedger}
    {clock : Option ℕ} (h : Honest (Ends ctx.ulongBits) t l t')
    (hall : ∀ x ∈ l, Settling clock x) {s : Slot} (hs : t s = none) : t' s = none := by
  induction h with
  | nil => exact hs
  | snoc h x hx ih =>
    have hbefore := ih fun y hy => hall y (List.mem_append_left _ hy)
    obtain ⟨s', reason, rfl⟩ :=
      (hall x (List.mem_append_right _ (List.mem_singleton_self x))).exists_eq
    rw [LedgerEntry.apply]
    by_cases hsame : s = s'
    · rw [hsame, Function.update_self]
    · rw [Function.update_of_ne hsame]
      exact hbefore

theorem slot_dispatcherLoop {s : Slot} (hs : w.correlation.slot s = none) :
    (dispatcherLoop ctx w).2.correlation.slot s = none := by
  obtain ⟨-, -, l, hl, hall, -⟩ :=
    (inferInstance : Moves (Books Settling) dispatcherLoop).moves ctx w
  exact slot_of_settling hl hall hs

/-! ### When the timer fires -/

/-- The state in which the loop runs when the timer fires. -/
def World.fired (ctx : Ctx) (w : World) (now : ℕ) : World :=
  { w with millisOverride := some now, correlation := w.correlation.cleanup ctx.ulongBits now }

/-- The timer is synchronised after the loop. -/
theorem timerFired_next (hw : w.initialized = true) (nowMs : UInt32) :
    let looped := (dispatcherLoop ctx (w.fired ctx nowMs.toNat)).2
    Op.next ctx w (.timerFired nowMs) = (timerSync nowMs.toNat ctx
      { looped with millisOverride := none, lastNowMs := nowMs.toNat }).2 := by
  have hready : ∀ body : M ℤ, whenReady body ctx w = body ctx w := by
    intro body
    simp [whenReady, hw]
  change (meshcoreTimerFired nowMs ctx w).2 = _
  rw [meshcoreTimerFired, hready]
  rfl

/-- What is acted on comes on. -/
theorem ActsOn.not_noProgress (h : ActsOn ctx w now) (hnow : now < 2 ^ 32)
    (hpool : w.PoolIntact ctx []) (hsame : NoProgress w (dispatcherLoop ctx (w.fired ctx now)).2) :
    False := by
  have htimes := hsame.times
  simp only [Dispatcher.times, List.cons.injEq, and_true] at htimes
  obtain ⟨-, hnext, hfloor, hagc, hnonrx⟩ := htimes
  have hinit : (w.fired ctx now).packetManager.initialized = true := hpool.conserves.initialized
  have hpool' : (w.fired ctx now).PoolIntact ctx [] :=
    ⟨hpool.conserves, hpool.poolSize, hpool.reissued⟩
  cases hpassed : hasPassed ctx.ulongBits now w.dispatcher.nextFloorCalibTime with
  | true => exact floorCalib_comes (w := w.fired ctx now) rfl hpassed hfloor
  | false =>
    cases h with
    | @expired s r hopen hreached =>
      have hgone : (w.fired ctx now).correlation.slot s = none := by
        rw [World.fired, Correlation.slot_cleanup, hopen, Option.filter_some, hreached]
        rfl
      have hnone := @slot_dispatcherLoop ctx _ _ hgone
      rw [hsame.correlation, hopen] at hnone
      cases hnone
    | floorCalib hcome =>
      rw [hpassed] at hcome
      cases hcome
    | expiry hflight hcome =>
      exact expiry_comes (w := w.fired ctx now) rfl hpool' hflight hcome hsame.air
    | agcReset hidle hinterval hcome =>
      exact agcReset_comes (w := w.fired ctx now) rfl hidle hinterval hpassed hcome hagc
    | inbound hidle he hdue hpriority =>
      exact inbound_comes (w := w.fired ctx now) rfl hnow hidle hpassed hinit he hdue hpriority
        hsame.rxQueue
    | send hidle he hdue hpriority hcome hfit =>
      rcases checkSend_comes (w := w.fired ctx now) rfl hnow hidle hpassed hinit he hdue
        (.inl ⟨hpriority, hcome, hfit.budget, hfit.channel⟩) with
        hmoved | hmoved | hmoved
      · exact hmoved hsame.rxQueue
      · exact hmoved hsame.sendQueue
      · exact hmoved hnext
    | short hidle he hdue hshort =>
      have hshort' : (w.fired ctx now).FallsShort ctx now := by
        intro k m n hk hm hn
        have hbudget : (w.fired ctx now).budgetAt ctx now k = w.budgetAt ctx now k :=
          txBudgetMs_dispatcherUpdateTxBudget rfl rfl rfl rfl rfl
        rw [hbudget]
        exact hshort k m n hk hm hn
      rcases checkSend_comes (w := w.fired ctx now) rfl hnow hidle hpassed hinit he hdue
        (.inr hshort') with
        hmoved | hmoved | hmoved
      · exact hmoved hsame.rxQueue
      · exact hmoved hsame.sendQueue
      · exact hmoved hnext
    | deaf hstopped hmode hstart =>
      exact hstart
        (hnonrx.symm.trans (deaf_comes (w := w.fired ctx now) rfl hpassed hstopped hmode))

/-- If nothing was due and nothing has come on, nothing is due. -/
theorem NothingDue.after (h : NothingDue ctx w now) (hsame : NoProgress w v)
    (hlater : w.tick ≤ v.tick) (hinit : v.packetManager.initialized = w.packetManager.initialized) :
    ∀ c ∈ runtimeTimes ctx v now, 0 < ahead 32 now c := by
  have htimes := hsame.times
  simp only [Dispatcher.times, List.cons.injEq, and_true] at htimes
  obtain ⟨hexpiry, hnext, hfloor, hagc, hnonrx⟩ := htimes
  intro c hc
  rw [runtimeTimes, dispatcherTimes, List.mem_append, List.mem_append, hsame.correlation] at hc
  rcases hc with hc | hc | hc
  · exact h.expiries c hc
  · have hcandidates : deadlineCandidates v.packetManager v.dispatcher now
        = deadlineCandidates w.packetManager w.dispatcher now := by
      simp only [deadlineCandidates, PacketQueueManager.nextOutboundScheduledGet,
        PacketQueueManager.nextInboundScheduledGet, PacketQueueManager.getOutboundTotal, hinit,
        hsame.sendQueue, hsame.rxQueue, hsame.outbound, hexpiry, hnext, hfloor, hagc]
      congr!
    exact h.candidates c (hcandidates ▸ hc)
  · split at hc
    · exact absurd hc List.not_mem_nil
    · rename_i hdeaf
      rw [List.mem_singleton.mp hc, hnonrx]
      exact h.receiving.resolve_left fun hmode => hdeaf (hmode _ hlater)

end

/-! ### The result -/

/-- **No idle re-arm.** Take any state of a run in which the library runs, and any time at which the
host's timer fires. If something is due that is acted on then, the call brings something on. If
nothing is due, and nothing comes on in the call, then the timer is armed for a later time. -/
theorem no_idle_rearm {ctx : Ctx} {w : World} (h : Reachable ctx w) (hw : w.initialized = true)
    (nowMs : UInt32) :
    let w' := Op.next ctx w (.timerFired nowMs)
    (ActsOn ctx w nowMs.toNat → ¬NoProgress w w') ∧
      (NothingDue ctx w nowMs.toNat → NoProgress w w' →
        ∃ deadline, w'.timer = some (nowMs.toNat, some deadline) ∧
          0 < ahead 32 nowMs.toNat deadline) := by
  intro w'
  have hnow : nowMs.toNat < 2 ^ 32 := UInt32.toNat_lt nowMs
  obtain ⟨looped, hlooped⟩ : ∃ looped, looped = (dispatcherLoop ctx (w.fired ctx nowMs.toNat)).2 :=
    ⟨_, rfl⟩
  let v : World := { looped with millisOverride := none, lastNowMs := nowMs.toNat }
  have hnext : w' = (timerSync nowMs.toNat ctx v).2 := by
    rw [show w' = _ from timerFired_next hw nowMs, ← hlooped]
  have hup : Up ctx (w.fired ctx nowMs.toNat) looped := hlooped ▸ Moves.moves ctx _
  obtain ⟨htimer, hdispatcher, hcorrelation, hmanager, -⟩ :=
    @timerSync_timer ctx v (hup.trans hw) nowMs.toNat
  have hkeepsAir : KeepsAir ctx v (timerSync nowMs.toNat ctx v).2 := Moves.moves ctx v
  rw [← hnext] at htimer hdispatcher hcorrelation hmanager hkeepsAir
  have hlooped' : NoProgress w w' → NoProgress w looped := fun hsame =>
    ⟨(congrArg _ hmanager).symm.trans hsame.sendQueue,
      (congrArg _ hmanager).symm.trans hsame.rxQueue,
      (congrArg _ hdispatcher).symm.trans hsame.outbound,
      hkeepsAir.air.symm.trans hsame.air, hcorrelation.symm.trans hsame.correlation,
      (congrArg _ hdispatcher).symm.trans hsame.times⟩
  refine ⟨fun hacts hsame => ?_, fun hnothing hsame => ?_⟩
  · exact hacts.not_noProgress hnow (h.poolIntact hw) (hlooped ▸ hlooped' hsame)
  · have hsame' := hlooped' hsame
    have hlater : w.tick ≤ looped.tick := by
      have hle := @tick_le_dispatcherLoop ctx (w.fired ctx nowMs.toNat) _ rfl hnow
      rw [← hlooped] at hle
      exact hle hsame'.rxQueue
    have hinit' : v.packetManager.initialized = true := by
      have hready : w'.initialized = true := by
        have hup' : Up ctx v (timerSync nowMs.toNat ctx v).2 := Moves.moves ctx v
        rw [hnext]
        exact hup'.trans (hup.trans hw)
      exact hmanager ▸ ((h.next (.timerFired nowMs)).poolIntact hready).conserves.initialized
    have hahead := hnothing.after (v := v)
      ⟨hsame'.sendQueue, hsame'.rxQueue, hsame'.outbound, hsame'.air, hsame'.correlation,
        hsame'.times⟩
      hlater (hinit'.trans (h.poolIntact hw).conserves.initialized.symm)
    rcases runtimeNextDeadlineGet_spec ctx v nowMs.toNat with
      ⟨⟨c, hc, hdue⟩, -⟩ | ⟨-, deadline, hfound, hmem, -⟩
    · exact absurd (hahead c hc) (not_lt.mpr hdue)
    · exact ⟨deadline, hfound ▸ htimer, hahead deadline hmem⟩

/-- A request for a trace is in flight, a flood is held back, and an answer is waited for. At 3
nothing is due, nothing comes on, and the timer is armed for later. At 77 the transmission has taken
too long. -/
theorem no_idle_rearm_waiting :
    let w := runOps .holdingBack .boot
      [.init, .nodeTraceRequest (some [7]) 1 1 (some 5), .timerFired 1,
        .radioRxInject (some [0x15, 0, 1, 2, 3, 4, 5, 6]) 0 0 2]
    let w' := Op.next .holdingBack w (.timerFired 3)
    NoProgress w w' ∧
      (∃ deadline, w'.timer = some (3, some deadline) ∧ 0 < ahead 32 3 deadline) ∧
      ¬NoProgress w (Op.next .holdingBack w (.timerFired 77)) := by
  intro w w'
  have hcandidates : deadlineCandidates w.packetManager w.dispatcher 3 = [76, 102, 2001] := by
    decide +kernel
  have hnothing : NothingDue .holdingBack w (3 : UInt32).toNat := by
    refine ⟨by decide +kernel, ?_, .inl fun _ _ => rfl⟩
    rw [show deadlineCandidates w.packetManager w.dispatcher (3 : UInt32).toNat
      = _ from hcandidates]
    decide
  have hsame : NoProgress w w' :=
    ⟨by decide +kernel, by decide +kernel, by decide +kernel, by decide +kernel, by decide +kernel,
      by decide +kernel⟩
  have hflight : w.dispatcher.outbound = some 0 := by decide +kernel
  exact ⟨hsame, (@no_idle_rearm .holdingBack w ⟨_, rfl⟩ (by decide +kernel) 3).2 hnothing hsame,
    (@no_idle_rearm .holdingBack w ⟨_, rfl⟩ (by decide +kernel) 77).1
      (.expiry hflight (by decide +kernel))⟩

/-- A time that is reached but has not passed is left alone, and the timer is armed for now. -/
example :
    let w := runOps .silent .boot [.init, .timerFired 1]
    let w' := Op.next .silent w (.timerFired 2001)
    w'.dispatcher.times = w.dispatcher.times ∧ w'.timer = some (2001, some 2001) := by
  decide +kernel

end Meshcore
