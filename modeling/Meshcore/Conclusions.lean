import Meshcore.LifeCycle
import Meshcore.Transmission

/-!
# What concludes a transmission

A transmission that has started ends when the host reports what became of it, or when a call finds
that it has taken too long. The two race: the loop runs again behind a report, and a report may come
late, twice or for nothing. Which end a call brings can be read off the call and what is in flight
before it: a report ends what is in flight with the outcome that is reported, a call with a time
past the expiry ends it as a failure, and no other call ends anything.

So the flights of a run are known call by call, and with them the pool, the counters and the logs.

## Main definitions

* `Op.Ends` — the transmissions that end with a call
* `Op.counts` — the counters of sent packets after a call
* `FlightLog` — the flights of a run, call by call

## Main results

* `dispatcherLoop_concludes` — the loop ends what has taken too long, and then may start
* `meshcoreRadioTxDone_of_outstanding`, `meshcoreRadioTxDone_of_idle` — what a report does
* `one_transmission_at_a_time` — what follows for the radio, the pool, the counters and the host
-/

namespace Meshcore

/-- The transmission that ends with a flight, and whether it has succeeded. -/
def Flight.ending : Flight → Option (PacketId × Bool)
  | .ended id success _ => some (id, success)
  | _ => none

/-- What is in flight and has taken too long at this time. It has failed. -/
def World.overdue (ctx : Ctx) (w : World) (now : ℕ) : List (PacketId × Bool) :=
  w.dispatcher.outbound.elim [] fun id =>
    if hasPassed ctx.ulongBits now w.dispatcher.outboundExpiry then [(id, false)] else []

/-- The transmissions that end with a call. The loop does not run when the frame of
`meshcore_radio_rx_inject` is refused. -/
def Op.Ends (ctx : Ctx) (w : World) (ends : List (PacketId × Bool)) : Op → Prop
  | .radioTxDone _ success => ends = w.dispatcher.outbound.toList.map (·, success)
  | .timerFired now => ends = w.overdue ctx now.toNat
  | .radioRxInject _ _ _ now => ends = [] ∨ ends = w.overdue ctx now.toNat
  | _ => ends = []

/-- The counters of sent packets after a call: the report of a success counts what is in flight. -/
def Op.counts (w : World) : Op → UInt32 × UInt32
  | .radioTxDone _ true => w.dispatcher.outbound.elim w.dispatcher.sent fun id =>
      countPacket (w.packetManager.packetBuf id) w.dispatcher.sent
  | _ => w.dispatcher.sent

/-- The flights of a run, call by call. -/
inductive FlightLog (ctx : Ctx) : World → List Op → List Flight → Prop where
  | nil (w : World) : FlightLog ctx w [] []
  | cons {w op ops l l'} (hrun : TxRun ctx w l (op.next ctx w))
      (hends : op.Ends ctx w (l.filterMap Flight.ending))
      (hsent : (op.next ctx w).dispatcher.sent = op.counts w)
      (h : FlightLog ctx (op.next ctx w) ops l') : FlightLog ctx w (op :: ops) (l ++ l')

/-- A log of the calls is a run of flights. -/
theorem FlightLog.txRun {ctx : Ctx} {w : World} {ops : List Op} {l : List Flight}
    (h : FlightLog ctx w ops l) (hp : w.PoolIntact ctx []) : TxRun ctx w l (runOps ctx w ops) := by
  induction h with
  | nil w => exact .nil hp
  | cons hrun _ _ _ ih => exact hrun.trans (ih hrun.poolIntact)

/-! ### Runs with these ends -/

/-- What is done is a run of flights with these ends. -/
def EndsOnly (ctx : Ctx) (ends : List (PacketId × Bool)) (w w' : World) : Prop :=
  ∃ l, TxRun ctx w l w' ∧ l.filterMap Flight.ending = ends

section

variable {ctx : Ctx} {w w' w'' : World} {ends ends' : List (PacketId × Bool)} {now : ℕ}

theorem EndsOnly.trans (h : EndsOnly ctx ends w w') (h' : EndsOnly ctx ends' w' w'') :
    EndsOnly ctx (ends ++ ends') w w'' := by
  obtain ⟨l, hl, rfl⟩ := h
  obtain ⟨l', hl', rfl⟩ := h'
  exact ⟨l ++ l', hl.trans hl', List.filterMap_append⟩

theorem EndsOnly.poolIntact (h : EndsOnly ctx ends w w') : w'.PoolIntact ctx [] := by
  obtain ⟨l, hl, -⟩ := h
  exact hl.poolIntact

/-- Nothing ends while transmissions only start. -/
theorem Starts.endsOnly (h : Starts ctx w w') (hp : w.PoolIntact ctx []) :
    EndsOnly ctx [] w w' := by
  obtain ⟨l, hl, hstart⟩ := h hp
  refine ⟨l, hl, List.filterMap_eq_nil_iff.mpr fun f hf => ?_⟩
  have hf' := hstart f hf
  cases f with
  | started | refused => rfl
  | ended => cases hf'

theorem TxConcluded.endsOnly {id : PacketId} {success : Bool} (h : TxConcluded id success w w')
    (ho : w.dispatcher.outbound = some id) (hp : w.PoolIntact ctx []) (hp' : w'.PoolIntact ctx []) :
    EndsOnly ctx [(id, success)] w w' :=
  ⟨_, h.txRun ho hp hp', rfl⟩

theorem foldl_count_of_failed {l : List Flight} (sent : UInt32 × UInt32)
    (h : ∀ e ∈ l.filterMap Flight.ending, e.2 = false) : l.foldl Flight.count sent = sent := by
  induction l with
  | nil => rfl
  | cons f l ih =>
    cases f with
    | started | refused => exact ih h
    | ended id success packet =>
      obtain ⟨hfailed, hrest⟩ := List.forall_mem_cons.mp h
      obtain rfl : success = false := hfailed
      exact ih hrest

/-- Only a success is counted. -/
theorem EndsOnly.sent (h : EndsOnly ctx ends w w') (hfailed : ∀ e ∈ ends, e.2 = false) :
    w'.dispatcher.sent = w.dispatcher.sent := by
  obtain ⟨l, hl, rfl⟩ := h
  rw [hl.sent, foldl_count_of_failed _ hfailed]

theorem failed_of_mem_overdue {e : PacketId × Bool} (he : e ∈ w.overdue ctx now) : e.2 = false := by
  unfold World.overdue at he
  cases ho : w.dispatcher.outbound with
  | none =>
    rw [ho] at he
    cases he
  | some id =>
    rw [ho, Option.elim_some] at he
    split at he
    · rw [List.mem_singleton.mp he]
    · cases he

theorem overdue_of_idle (ho : w.dispatcher.outbound = none) : w.overdue ctx now = [] := by
  rw [World.overdue, ho]
  rfl

theorem KeepsAir.overdue (h : KeepsAir ctx w w') : w'.overdue ctx now = w.overdue ctx now := by
  rw [World.overdue, World.overdue, h.outbound, h.outboundExpiry]

/-! ### The loop -/

/-- What is in flight ends when it has taken too long. -/
theorem expireOutbound_concludes (hclock : w.millisOverride = some now) (hp : w.PoolIntact ctx []) :
    EndsOnly ctx (w.overdue ctx now) w (expireOutbound ctx w).2 := by
  have hdispatcher : Prog.gets World.dispatcher ctx w = (w.dispatcher, w) := rfl
  rw [expireOutbound, Prog.run_bind_of hdispatcher]
  cases ho : w.dispatcher.outbound with
  | none =>
    rw [overdue_of_idle ho]
    exact ⟨[], .nil hp, rfl⟩
  | some id =>
    rw [World.overdue, ho, Option.elim_some, Option.elim_some,
      Prog.run_bind_of (dispatcherMillisHasNowPassed_at hclock _)]
    split
    · have hkeeps : KeepsPool ctx w (dispatcherTxDone false ctx w).2 := Moves.moves ctx w
      exact (dispatcherTxDone_concludes false ctx ho).2.endsOnly ho hp (hkeeps hp)
    · exact ⟨[], .nil hp, rfl⟩

/-- The loop ends what has taken too long. It starts a transmission only when nothing is in flight,
or no longer. -/
theorem dispatcherLoop_concludes (hclock : w.millisOverride = some now) (hp : w.PoolIntact ctx []) :
    EndsOnly ctx (w.overdue ctx now) w (dispatcherLoop ctx w).2 := by
  let looksAfter : M ℤ := do
    floorCalibrate
    let agcResetInterval ← hook Hooks.agcResetInterval
    trackRecvMode
    pure agcResetInterval
  let turn (agcResetInterval : ℤ) : M Unit := do
    let idle ← expireOutbound
    if !idle then pure ()
    else do
      agcReset agcResetInterval
      takeInbound
      dispatcherCheckSend
  have heq : dispatcherLoop = looksAfter >>= turn := rfl
  have hair : KeepsAir ctx w (looksAfter ctx w).2 := Moves.moves ctx w
  have hkeeps : KeepsCorrelation ctx w (looksAfter ctx w).2 := Moves.moves ctx w
  have hstarts : Starts ctx w (looksAfter ctx w).2 := Moves.moves ctx w
  rw [heq, Prog.run_bind, ← hair.overdue]
  generalize (looksAfter ctx w).1 = agcResetInterval
  generalize (looksAfter ctx w).2 = v at hair hkeeps hstarts ⊢
  have hquiet := hstarts.endsOnly hp
  have hexpire := expireOutbound_concludes (hkeeps.2.2.1.trans hclock) hquiet.poolIntact
  have hended := hquiet.trans hexpire
  rw [List.nil_append] at hended
  simp only [turn, Prog.run_bind]
  cases hidle : (expireOutbound ctx v).1 with
  | false => exact hended
  | true =>
    have hsend : Launches (do
        agcReset agcResetInterval
        takeInbound
        dispatcherCheckSend) := inferInstance
    have hstarts' := hsend.launches ctx _ (outbound_of_expireOutbound hidle)
    have hall := hended.trans (hstarts'.endsOnly hended.poolIntact)
    rw [List.append_nil] at hall
    exact hall

/-! ### Entry points -/

/-- The clock is set for a call, and the timer synchronised behind it. -/
theorem atTime_endsOnly {α : Type} {nowMs : UInt32} {body : M α} (hp : w.PoolIntact ctx [])
    (hbody : let v := { w with millisOverride := some nowMs.toNat }
      v.PoolIntact ctx [] → EndsOnly ctx ends v (body ctx v).2) :
    EndsOnly ctx ends w (atTime nowMs body ctx w).2 := by
  let v : World := { w with millisOverride := some nowMs.toNat }
  have hset : EndsOnly ctx [] w v :=
    ⟨[], (TxRun.nil hp).kept ⟨rfl, rfl, rfl, rfl⟩ ⟨hp.conserves, hp.poolSize, hp.reissued⟩, rfl⟩
  have hended := hset.trans (hbody hset.poolIntact)
  have hrest : Moves Starts (do
      clockMillisOverrideClear
      Prog.modify fun w => { w with lastNowMs := nowMs.toNat }
      timerSync nowMs.toNat : M Unit) := by
    unfold clockMillisOverrideClear
    infer_instance
  have hall := hended.trans ((hrest.moves ctx (body ctx v).2).endsOnly hended.poolIntact)
  rw [List.append_nil, List.nil_append] at hall
  exact hall

theorem atTime_dispatcherLoop_endsOnly (hp : w.PoolIntact ctx []) (now : UInt32) :
    EndsOnly ctx (w.overdue ctx now.toNat) w (atTime now dispatcherLoop ctx w).2 :=
  atTime_endsOnly hp fun hp' => dispatcherLoop_concludes rfl hp'

theorem whenReady_eq (hw : w.initialized = true) (body : M ℤ) :
    whenReady body ctx w = body ctx w := by
  simp [whenReady, hw]

theorem meshcoreTimerFired_endsOnly (hw : w.initialized = true) (hp : w.PoolIntact ctx [])
    (now : UInt32) :
    EndsOnly ctx (w.overdue ctx now.toNat) w (meshcoreTimerFired now ctx w).2 := by
  rw [meshcoreTimerFired, whenReady_eq hw]
  refine atTime_endsOnly hp fun hp' => ?_
  let cleans := modifyCorrelation (·.cleanup ctx.ulongBits now.toNat)
  let v : World := { w with millisOverride := some now.toNat }
  have hstarts : Starts ctx v (cleans ctx v).2 := Moves.moves ctx v
  have hcleaned := hstarts.endsOnly hp'
  have hclock : (cleans ctx v).2.millisOverride = some now.toNat := rfl
  exact hcleaned.trans (dispatcherLoop_concludes hclock hcleaned.poolIntact)

/-- A frame that is refused ends nothing. Behind any other the loop runs. -/
theorem meshcoreRadioRxInject_endsOnly (hw : w.initialized = true) (hp : w.PoolIntact ctx [])
    (data : Option (List UInt8)) (rssiDbm : Int16) (snrQ4 : Int8) (now : UInt32) :
    EndsOnly ctx [] w (meshcoreRadioRxInject data rssiDbm snrQ4 now ctx w).2 ∨
      EndsOnly ctx (w.overdue ctx now.toNat) w
        (meshcoreRadioRxInject data rssiDbm snrQ4 now ctx w).2 := by
  have hnothing : EndsOnly ctx [] w w := ⟨[], .nil hp, rfl⟩
  rw [meshcoreRadioRxInject, whenReady_eq hw]
  cases data with
  | none => exact .inl hnothing
  | some data =>
    rw [Option.elim_some, Prog.run_ite]
    split
    · exact .inl hnothing
    let receives := dispatcherReceiveRaw data rssiDbm snrQ4
    let v : World := { w with millisOverride := some now.toNat }
    have hkeepsAir : KeepsAir ctx v (receives ctx v).2 := Moves.moves ctx v
    have hclock : (receives ctx v).2.millisOverride = some now.toNat :=
      (Moves.moves (R := Books Settling) (m := receives) ctx v).1
    have hstarts : Starts ctx v (receives ctx v).2 := Moves.moves ctx v
    by_cases hrc : (receives ctx v).1 = 0
    · refine .inr (atTime_endsOnly hp fun hp' => ?_)
      have hreceived := hstarts.endsOnly hp'
      have hloop := dispatcherLoop_concludes hclock hreceived.poolIntact
      rw [hkeepsAir.overdue] at hloop
      have hall := hreceived.trans hloop
      simp only [Prog.run_bind]
      rw [if_pos hrc]
      exact hall
    · refine .inl (atTime_endsOnly hp fun hp' => ?_)
      simp only [Prog.run_bind]
      rw [if_neg hrc]
      exact hstarts.endsOnly hp'

/-- A report with nothing in flight is an error, and does nothing but run the loop. -/
theorem meshcoreRadioTxDone_of_idle (hw : w.initialized = true)
    (ho : w.dispatcher.outbound = none) (now : UInt32) (success : Bool) :
    meshcoreRadioTxDone now success ctx w = (eALREADY, (atTime now dispatcherLoop ctx w).2) := by
  have hidle := dispatcherTxDone_eq success ctx
    (w := (clockMillisOverrideSet now.toNat ctx w).2) ho
  simp only [meshcoreRadioTxDone, whenReady, atTime, Prog.run_bind, Prog.run_gets, hw, hidle,
    Bool.not_true, Bool.false_eq_true, if_false, Prog.run_pure]

/-- A report of what is in flight concludes it with the outcome that is reported, and then runs the
loop. -/
theorem meshcoreRadioTxDone_of_outstanding {id : PacketId} (hw : w.initialized = true)
    (hp : w.PoolIntact ctx []) (ho : w.dispatcher.outbound = some id) (now : UInt32)
    (success : Bool) :
    ∃ w₁, TxConcluded id success w w₁ ∧
      TxRun ctx w [.ended id success (w.packetManager.packetBuf id)] w₁ ∧
      meshcoreRadioTxDone now success ctx w = (0, (atTime now dispatcherLoop ctx w₁).2) := by
  let v : World := { w with millisOverride := some now.toNat }
  have hp' : v.PoolIntact ctx [] := ⟨hp.conserves, hp.poolSize, hp.reissued⟩
  obtain ⟨hhandled, hconcluded⟩ := dispatcherTxDone_concludes success ctx (w := v) ho
  have hkeeps : KeepsPool ctx v (dispatcherTxDone success ctx v).2 := Moves.moves ctx v
  have hclock : KeepsCorrelation ctx v (dispatcherTxDone success ctx v).2 := Moves.moves ctx v
  obtain ⟨w₁, hw₁⟩ : ∃ w₁, (dispatcherTxDone success ctx v).2 = w₁ := ⟨_, rfl⟩
  rw [hw₁] at hconcluded hkeeps hclock
  have hended : dispatcherTxDone success ctx (clockMillisOverrideSet now.toNat ctx w).2
      = (true, w₁) :=
    Prod.ext hhandled hw₁
  -- The loop finds the clock at the time of the report, as it does when it is called with that
  -- time.
  have hset : (clockMillisOverrideSet now.toNat ctx w₁).2 = w₁ := by
    show { w₁ with millisOverride := some now.toNat } = w₁
    rw [show some now.toNat = w₁.millisOverride from hclock.2.2.1.symm]
  have hset' : TxRun ctx w [] v := (TxRun.nil hp).kept ⟨rfl, rfl, rfl, rfl⟩ hp'
  refine ⟨w₁, ⟨hconcluded.outbound, hconcluded.packetManager, hconcluded.sent, hconcluded.air⟩,
    hset'.trans (hconcluded.txRun ho hp' (hkeeps hp')), ?_⟩
  simp only [meshcoreRadioTxDone, whenReady, atTime, Prog.run_bind, Prog.run_gets, hw, hended, hset,
    Bool.not_true, Bool.false_eq_true, if_false, if_true, Prog.run_pure]

/-- A report with nothing in flight ends nothing; any other ends what is in flight, as it says. -/
theorem meshcoreRadioTxDone_endsOnly (hw : w.initialized = true) (hp : w.PoolIntact ctx [])
    (now : UInt32) (success : Bool) :
    EndsOnly ctx (w.dispatcher.outbound.toList.map (·, success)) w
      (meshcoreRadioTxDone now success ctx w).2 := by
  cases ho : w.dispatcher.outbound with
  | none =>
    have hloop := atTime_dispatcherLoop_endsOnly hp now
    rw [overdue_of_idle ho] at hloop
    rw [meshcoreRadioTxDone_of_idle hw ho]
    exact hloop
  | some id =>
    obtain ⟨w₁, hconcluded, hrun, heq⟩ := meshcoreRadioTxDone_of_outstanding hw hp ho now success
    rw [heq]
    have hended : EndsOnly ctx [(id, success)] w w₁ := ⟨_, hrun, rfl⟩
    have hloop := atTime_dispatcherLoop_endsOnly hended.poolIntact now
    rw [overdue_of_idle hconcluded.outbound] at hloop
    exact hended.trans hloop

/-- A request only queues packets. -/
theorem Requests.endsOnly {m : M ℤ} [hm : Requests m] [hc : Moves Chatter m]
    (hp : w.PoolIntact ctx []) : EndsOnly ctx [] w (m ctx w).2 := by
  refine ⟨[], (TxRun.nil hp).kept ?_ (Requests.keepsPool ctx w hp), rfl⟩
  obtain ⟨w', hs, h⟩ := hm.requests ctx w
  have hair := air_of_adds (hc.moves ctx w)
  have hframed := hs.framed
  have hexpiry : w'.dispatcher.outboundExpiry = w.dispatcher.outboundExpiry := by rw [hframed.1]
  have hsent : w'.dispatcher.sent = w.dispatcher.sent := by rw [hframed.1]; rfl
  rcases h with h | h
  · rw [h] at hair ⊢
    exact ⟨hframed.outbound, hexpiry, hsent, hair⟩
  · have ht := Moves.moves (R := KeepsAir) (m := timerSyncNow) ctx w'
    rw [← h] at ht
    exact ⟨ht.outbound.trans hframed.outbound, ht.outboundExpiry.trans hexpiry,
      ht.sent.trans hsent, hair⟩

/-- What a report leaves of the counters. -/
theorem sent_meshcoreRadioTxDone (hw : w.initialized = true) (hp : w.PoolIntact ctx [])
    (now : UInt32) (success : Bool) :
    (meshcoreRadioTxDone now success ctx w).2.dispatcher.sent =
      (Op.radioTxDone now success).counts w := by
  have hends := meshcoreRadioTxDone_endsOnly hw hp now success
  cases success with
  | false =>
    refine hends.sent fun e he => ?_
    obtain ⟨id, -, rfl⟩ := List.mem_map.mp he
    rfl
  | true =>
    cases ho : w.dispatcher.outbound with
    | none =>
      rw [ho] at hends
      rw [hends.sent (List.forall_mem_nil _), Op.counts, ho]
      rfl
    | some id =>
      obtain ⟨w₁, hconcluded, hrun, heq⟩ := meshcoreRadioTxDone_of_outstanding hw hp ho now true
      have hloop := atTime_dispatcherLoop_endsOnly hrun.poolIntact now
      rw [overdue_of_idle hconcluded.outbound] at hloop
      rw [heq, hloop.sent (List.forall_mem_nil _), hconcluded.sent, Op.counts, ho]
      rfl

/-- A call ends what it says, and counts what it says. -/
def Op.EndsAndCounts (ctx : Ctx) (w : World) (op : Op) : Prop :=
  (∃ ends, op.Ends ctx w ends ∧ EndsOnly ctx ends w (op.next ctx w)) ∧
    (op.next ctx w).dispatcher.sent = op.counts w

theorem Op.EndsAndCounts.of_nothing {op : Op} (hends : op.Ends ctx w [])
    (hcounts : op.counts w = w.dispatcher.sent) (h : EndsOnly ctx [] w (op.next ctx w)) :
    op.EndsAndCounts ctx w :=
  ⟨⟨[], hends, h⟩, (h.sent (List.forall_mem_nil _)).trans hcounts.symm⟩

/-- Every call but the first and the last. -/
theorem Op.endsAndCounts {op : Op} (hinit : op ≠ .init) (hdeinit : op ≠ .deinit)
    (hw : w.initialized = true) (hp : w.PoolIntact ctx []) : op.EndsAndCounts ctx w := by
  cases op with
  | init => exact absurd rfl hinit
  | deinit => exact absurd rfl hdeinit
  | timerFired now =>
    have h := meshcoreTimerFired_endsOnly hw hp now
    exact ⟨⟨_, rfl, h⟩, h.sent fun _ => failed_of_mem_overdue⟩
  | radioRxInject data rssi snr now =>
    rcases meshcoreRadioRxInject_endsOnly hw hp data rssi snr now with h | h
    · exact .of_nothing (.inl rfl) rfl h
    · exact ⟨⟨_, .inr rfl, h⟩, h.sent fun _ => failed_of_mem_overdue⟩
  | radioTxDone now success =>
    exact ⟨⟨_, rfl, meshcoreRadioTxDone_endsOnly hw hp now success⟩,
      sent_meshcoreRadioTxDone hw hp now success⟩
  | _ =>
    refine .of_nothing rfl rfl (@Requests.endsOnly ctx w _ ?_ ?_ hp)
    all_goals
      unfold Op.run Op.call
      infer_instance

end

/-- Every run of calls has a log of its flights. -/
theorem exists_flightLog {ctx : Ctx} {w : World} (hw : w.initialized = true)
    (hp : w.PoolIntact ctx []) {ops : List Op} (hops : ∀ op ∈ ops, op ≠ .init ∧ op ≠ .deinit) :
    ∃ l, FlightLog ctx w ops l := by
  induction ops generalizing w with
  | nil => exact ⟨[], .nil w⟩
  | cons op ops ih =>
    obtain ⟨hop, hops⟩ := List.forall_mem_cons.mp hops
    obtain ⟨⟨ends, hends, l, hl, rfl⟩, hsent⟩ := Op.endsAndCounts hop.1 hop.2 hw hp
    obtain ⟨l', hlog⟩ := ih (op.initialized_next hw hop.2) hl.poolIntact hops
    exact ⟨l ++ l', .cons hl hends hsent hlog⟩

/-- **One transmission at a time.** In every run of events and requests the calls that start the
radio and the logs of its transmissions take turns, for one buffer each, whose conclusion comes next
after its start; the counters of sent packets count the successes; every stretch of the run is as
`TxRun` says, so a buffer goes back to the pool when its transmission ends. Call by call, what ends
is what the call reports, or what has taken too long at its time, and what is counted is a success
that it reports. A report of what is in flight frees its buffer, counts it if it has succeeded,
returns 0 and runs the loop; a report with nothing in flight is an error, and does nothing but run
the loop. -/
theorem one_transmission_at_a_time {ctx : Ctx} {w : World} (h : Reachable ctx w)
    (hw : w.initialized = true) {ops : List Op} (hops : ∀ op ∈ ops, op ≠ .init ∧ op ≠ .deinit) :
    (∃ l, TxRun ctx w l (runOps ctx w ops) ∧ FlightLog ctx w ops l ∧
      (runOps ctx w ops).air = w.air ++ l.flatMap Flight.events ∧
      (runOps ctx w ops).dispatcher.sent = l.foldl Flight.count w.dispatcher.sent ∧
      Exclusive w.dispatcher.outbound (l.flatMap Flight.turns)
        (runOps ctx w ops).dispatcher.outbound ∧
      (∀ a id b, l.flatMap Flight.turns = a ++ .taken id :: b →
        (b = [] ∧ (runOps ctx w ops).dispatcher.outbound = some id) ∨
          ∃ success b', b = .given id success :: b') ∧
      ∀ a id success b, l.flatMap Flight.turns = a ++ .given id success :: b →
        (a = [] ∧ w.dispatcher.outbound = some id) ∨ ∃ a', a = a' ++ [.taken id]) ∧
    (∀ id, w.dispatcher.outbound = some id → ∀ now success,
      ∃ w₁, TxConcluded id success w w₁ ∧
        TxRun ctx w [.ended id success (w.packetManager.packetBuf id)] w₁ ∧
        meshcoreRadioTxDone now success ctx w = (0, (atTime now dispatcherLoop ctx w₁).2)) ∧
    (w.dispatcher.outbound = none → ∀ now success,
      meshcoreRadioTxDone now success ctx w = (eALREADY, (atTime now dispatcherLoop ctx w).2)) := by
  have hp := h.poolIntact hw
  refine ⟨?_, fun id ho => meshcoreRadioTxDone_of_outstanding hw hp ho,
    meshcoreRadioTxDone_of_idle hw⟩
  obtain ⟨l, hlog⟩ := exists_flightLog hw hp hops
  have hl := hlog.txRun hp
  have hturns := hl.exclusive
  refine ⟨l, hl, hlog, hl.air, hl.sent, hturns, fun a id b hb => ?_,
    fun a id success b hb => ?_⟩
  · rw [hb] at hturns
    exact hturns.given_of_taken
  · rw [hb] at hturns
    exact hturns.taken_of_given

/-- A control packet that is sent, reported, and reported again. -/
theorem one_transmission_reported_twice :
    let sending := runOps .silent .boot [.init, .controlDataSend (some [0x81]), .timerFired 1]
    let reported := Op.next .silent sending (.radioTxDone 2 true)
    sending.dispatcher.outbound = some 0 ∧
    (∃ l, FlightLog .silent sending [.radioTxDone 2 true, .radioTxDone 3 true] l ∧
      l.foldl Flight.count sending.dispatcher.sent = (0, 1)) ∧
    (∃ w₁, TxConcluded 0 true sending w₁ ∧ meshcoreRadioTxDone 2 true .silent sending =
      (0, (atTime 2 dispatcherLoop .silent w₁).2)) ∧
    meshcoreRadioTxDone 3 true .silent reported =
      (eALREADY, (atTime 3 dispatcherLoop .silent reported).2) := by
  intro sending reported
  have hsending : sending.initialized = true ∧ sending.dispatcher.outbound = some 0 := by
    decide +kernel
  have hreported : reported.initialized = true ∧ reported.dispatcher.outbound = none ∧
      (runOps .silent sending [.radioTxDone 2 true, .radioTxDone 3 true]).dispatcher.sent
        = (0, 1) := by
    decide +kernel
  obtain ⟨⟨l, -, hlog, -, hsent, -⟩, hfirst, -⟩ := @one_transmission_at_a_time .silent sending
    ⟨_, rfl⟩ hsending.1 [.radioTxDone 2 true, .radioTxDone 3 true] (by simp)
  obtain ⟨w₁, hconcluded, -, heq⟩ := hfirst 0 hsending.2 2 true
  have hreachable : Reachable .silent reported :=
    ⟨[.init, .controlDataSend (some [0x81]), .timerFired 1, .radioTxDone 2 true], rfl⟩
  have hsecond := (@one_transmission_at_a_time .silent reported hreachable hreported.1
    [] (by simp)).2.2 hreported.2.1 3 true
  exact ⟨hsending.2, ⟨l, hlog, hsent.symm.trans hreported.2.2⟩, ⟨w₁, hconcluded, heq⟩, hsecond⟩

end Meshcore
