import Meshcore.Lib.TokenBucket
import Meshcore.LoopTurns

/-!
# The duty cycle

The budget of the dispatcher is a token bucket. It is refilled by the share of the time in which
this node may transmit, whenever a packet is to be sent and whenever a transmission is reported as a
success; what such a transmission took is spent. A transmission starts only when the budget holds a
reserve, which is half the air time of the longest frame, and while it is in flight the budget only
grows.

So over a run of calls, whatever they are and in whatever order they come, the air time that counts
is bounded by the share of the window and of the time that has gone by. A transmission counts up to
the reserve: what it takes beyond that may exceed the budget, and such an overdraft is forgotten.

The host is steady: it always gives the same airtime factor, window and estimate. The clock does not
run backwards. What `float` arithmetic adds to the share is a relative error, once for the time and
once for the product.

## Main definitions

* `Duty`, `SteadyHost` — what the host says about the duty cycle
* `World.bucket` — the budget of the dispatcher
* `World.Metered` — how far a run of the bucket has come
* `airTimes` — what the transmissions of a run took that were reported as successes

## Main results

* `Op.metered` — what a call does to the bucket
* `duty_cycle_kept`
-/

namespace Meshcore

/-- The budget of the dispatcher. -/
def World.bucket (w : World) : Bucket := ⟨w.dispatcher.txBudgetMs, w.dispatcher.lastBudgetUpdate⟩

/-- What the host says about the duty cycle: the airtime factor, the window, and what the longest
frame takes. -/
structure Duty where
  factor : ℚ
  window : ℕ
  estimate : ℕ

namespace Duty

/-- The part of the time in which a node may transmit. -/
def part (duty : Duty) (ctx : Ctx) : ℚ := ctx.roundFloat (1 / ctx.roundFloat (1 + duty.factor))

/-- The share of some time, as the code computes it. -/
def share (duty : Duty) (ctx : Ctx) (t : ℕ) : ℕ :=
  floatToULong ctx.ulongBits (ctx.roundFloat (ctx.roundFloat t * duty.part ctx))

/-- No share is more than this times the time. -/
def rate (duty : Duty) (ctx : Ctx) (error : ℚ) : ℚ := (1 + error) ^ 2 * duty.part ctx

/-- What the budget holds when it is full. -/
def full (duty : Duty) (ctx : Ctx) : ℕ := duty.share ctx duty.window

/-- What the budget holds when a transmission starts. -/
def reserve (duty : Duty) : ℕ := duty.estimate / minTxBudgetAirtimeDiv

end Duty

/-- The relative error of a rounding, from one half on. What is less rounds to less than one. -/
structure RoundsWithin (round : ℚ → ℚ) (error : ℚ) : Prop where
  zero : round 0 = 0
  nonneg : ∀ q, 0 ≤ q → 0 ≤ round q
  small : ∀ q, 0 ≤ q → q < 1 / 2 → round q < 1
  le : ∀ q, 1 / 2 ≤ q → round q ≤ (1 + error) * q

/-- The host always says the same, and `float` arithmetic has a small error. -/
structure SteadyHost (ctx : Ctx) (error : ℚ) (duty : Duty) : Prop where
  rounds : RoundsWithin ctx.roundFloat error
  error_nonneg : 0 ≤ error
  rate_le : duty.rate ctx error ≤ 2
  factor_nonneg : 0 ≤ duty.factor
  factor_eq : ∀ n, (ctx.hooks n).airtimeBudgetFactor = duty.factor
  window_eq : ∀ n, (ctx.hooks n).dutyCycleWindowMs = duty.window
  estimate_eq : ∀ n, ((ctx.hooks n).radioAirtime maxTransUnitLen).toNat = duty.estimate

/-- The bucket has come through a run from the full one at the start, in which `l` was spent, to
this time. What is in flight found the reserve, and what was spent is counted. -/
structure World.Metered (ctx : Ctx) (duty : Duty) (start : ℕ) (l : List ℕ) (now : ℕ) (w : World) :
    Prop where
  run : Bucket.Run (duty.share ctx) (duty.full ctx) duty.reserve ⟨duty.full ctx, start⟩ l
    w.bucket now
  reserve : ∀ id, w.dispatcher.outbound = some id → duty.reserve ≤ w.bucket.level
  total : w.dispatcher.totalAirTime = l.sum % 2 ^ ctx.ulongBits

/-- The clock does not run backwards. -/
def ClockRuns : ℕ → List Op → Prop
  | _, [] => True
  | t, op :: ops => t ≤ op.time.getD t ∧ ClockRuns (op.time.getD t) ops

/-- The time after some calls. -/
def clockAfter (t : ℕ) (ops : List Op) : ℕ := ops.foldl (fun t op => op.time.getD t) t

/-- What a transmission took that this call reports as a success. -/
def Op.airTime (ctx : Ctx) (w : World) : Op → Option ℕ
  | .radioTxDone now true =>
    if w.initialized then
      w.dispatcher.outbound.map fun _ => ulongSub ctx.ulongBits now.toNat w.dispatcher.outboundStart
    else none
  | _ => none

/-- What the transmissions of a run took that were reported as successes. -/
def airTimes (ctx : Ctx) : World → List Op → List ℕ
  | _, [] => []
  | w, op :: ops => (op.airTime ctx w).toList ++ airTimes ctx (op.next ctx w) ops

/-! ### What saves the budget -/

/-- The budget, the air time that was counted and the clock stay. -/
structure KeepsBudget (_ : Ctx) (w w' : World) : Prop where
  bucket : w'.bucket = w.bucket
  total : w'.dispatcher.totalAirTime = w.dispatcher.totalAirTime
  millisOverride : w'.millisOverride = w.millisOverride

instance : Composes KeepsBudget where
  refl _ _ := ⟨rfl, rfl, rfl⟩
  trans _ _ _ _ h h' := ⟨h'.bucket.trans h.bucket, h'.total.trans h.total,
    h'.millisOverride.trans h.millisOverride⟩

instance (priority := low) Moves.keepsBudgetOfAsks {α : Type} (m : M α) [hm : Moves Asks m] :
    Moves KeepsBudget m where
  moves ctx w := by
    rw [(hm.moves ctx w).1]
    exact ⟨rfl, rfl, rfl⟩

instance (e : Event) : Moves KeepsBudget (emit e) := ⟨fun _ _ => ⟨rfl, rfl, rfl⟩⟩

instance (m : Mark) : Moves KeepsBudget (mark m) := ⟨fun _ _ => ⟨rfl, rfl, rfl⟩⟩

instance (id : PacketId) (packet : Packet) : Moves KeepsBudget (writePacket id packet) :=
  ⟨fun _ _ => ⟨rfl, rfl, rfl⟩⟩

instance (f : PacketQueueManager → PacketQueueManager) : Moves KeepsBudget (modifyManager f) :=
  ⟨fun _ _ => ⟨rfl, rfl, rfl⟩⟩

instance (f : PacketQueueManager → Option PacketId × PacketQueueManager) :
    Moves KeepsBudget (takePacket f) := ⟨fun _ _ => ⟨rfl, rfl, rfl⟩⟩

instance : Moves KeepsBudget allocPacket := ⟨fun _ _ => ⟨rfl, rfl, rfl⟩⟩

instance (f : Correlation → Correlation) : Moves KeepsBudget (modifyCorrelation f) :=
  ⟨fun _ _ => ⟨rfl, rfl, rfl⟩⟩

instance (o : Dispatcher → Option PacketId) (a b c d e f g h : Dispatcher → ℕ)
    (i : Dispatcher → Bool) (j k l m : Dispatcher → UInt32) (n : Dispatcher → ℕ)
    (p : Dispatcher → UInt16) :
    Moves KeepsBudget (modifyDispatcher fun x =>
      ⟨o x, a x, b x, x.totalAirTime, c x, d x, e x, f x, g x, h x, i x, j x, k x, l x, m x,
        x.txBudgetMs, x.lastBudgetUpdate, n x, p x⟩) :=
  ⟨fun _ _ => ⟨rfl, rfl, rfl⟩⟩

instance (flag : UInt16) : Moves KeepsBudget (setErrFlag flag) := by
  unfold setErrFlag; infer_instance

instance (needed : ℕ) : Moves KeepsBudget (waitForBudget needed) := by
  unfold waitForBudget; infer_instance

instance (agcResetInterval : ℤ) : Moves KeepsBudget (armAgcReset agcResetInterval) := by
  unfold armAgcReset; infer_instance

instance : Moves KeepsBudget scheduleNextTx := by unfold scheduleNextTx; infer_instance

instance (packet : Packet) : Moves KeepsBudget (countSent packet) := by
  unfold countSent; infer_instance

instance (id : PacketId) : Moves KeepsBudget (releaseOutbound id) := by
  unfold releaseOutbound dispatcherReleasePacket; infer_instance

set_option synthInstance.maxSize 10000 in
instance (now : ℕ) : Moves KeepsBudget (channelBusy now) := by unfold channelBusy; infer_instance

instance (id : PacketId) (now : ℕ) : Moves KeepsBudget (startSend id now) := by
  unfold startSend; infer_instance

instance (now : ℕ) : Moves KeepsBudget (sendNext now) := by unfold sendNext; infer_instance

instance : Moves KeepsBudget floorCalibrate := by unfold floorCalibrate; infer_instance

instance : Moves KeepsBudget trackRecvMode := by unfold trackRecvMode; infer_instance

instance (agcResetInterval : ℤ) : Moves KeepsBudget (agcReset agcResetInterval) := by
  unfold agcReset; infer_instance

theorem Framed.keepsBudget {ctx : Ctx} {w w' : World} (h : Framed w w') : KeepsBudget ctx w w' := by
  rw [h.1]
  exact ⟨rfl, rfl, rfl⟩

/-- The mesh spends nothing. -/
instance (packet : Packet) : Moves KeepsBudget (meshOnRecvPacket packet) where
  moves ctx w := by
    have hs := (inferInstance :
      Uses (Steps fun _ => True) [] (meshOnRecvPacket packet) fun _ => []).uses ctx w []
    exact hs.framed.keepsBudget

instance (id : PacketId) (action : Action) : Moves KeepsBudget (dispatcherSettle id action) := by
  unfold dispatcherSettle; infer_instance

instance (id : PacketId) : Moves KeepsBudget (dispatcherProcessRecvPacket id) := by
  unfold dispatcherProcessRecvPacket; infer_instance

instance (id : PacketId) (packet : Packet) (score : ℚ) (airTime : UInt32) :
    Moves KeepsBudget (dispatcherReceivePacket id packet score airTime) := by
  unfold dispatcherReceivePacket; infer_instance

instance (id : PacketId) (packet : Packet) (rawLength : ℕ) (snr : ℚ) :
    Moves KeepsBudget (dispatcherReceiveParsed id packet rawLength snr) := by
  unfold dispatcherReceiveParsed radioPacketScore; infer_instance

set_option synthInstance.maxSize 10000 in
instance (raw : List UInt8) (rssiDbm : Int16) (snrQ4 : Int8) :
    Moves KeepsBudget (dispatcherReceiveRaw raw rssiDbm snrQ4) := by
  unfold dispatcherReceiveRaw; infer_instance

instance : Moves KeepsBudget takeInbound := by unfold takeInbound; infer_instance

instance (nowMs : ℕ) (deadline : Option ℕ) : Moves KeepsBudget (setTimer nowMs deadline) :=
  ⟨fun _ _ => ⟨rfl, rfl, rfl⟩⟩

instance (nowMs : ℕ) : Moves KeepsBudget (timerSync nowMs) := by
  unfold timerSync runtimeNextDeadlineGet; infer_instance

instance : Moves KeepsBudget timerSyncNow := by unfold timerSyncNow; infer_instance

instance (nextTxTime now : ℕ) : Moves KeepsBudget (sendUnlessBusy nextTxTime now) := by
  unfold sendUnlessBusy; infer_instance

set_option synthInstance.maxSize 10000 in
/-- A transmission that has failed is not charged. -/
instance : Moves KeepsBudget (dispatcherTxDone false) := by
  unfold dispatcherTxDone
  simp only [Bool.false_eq_true, if_false]
  infer_instance

instance : Moves KeepsBudget expireOutbound := by unfold expireOutbound; infer_instance

section

variable {ctx : Ctx} {w w' v : World} {error : ℚ} {duty : Duty} {start now : ℕ} {l : List ℕ}

/-! ### Refills -/

namespace RoundsWithin

variable {round : ℚ → ℚ} {q : ℚ}

theorem natCast_le (h : RoundsWithin round error) (n : ℕ) : round n ≤ (1 + error) * n := by
  cases n with
  | zero => simp [h.zero]
  | succ n =>
    refine h.le _ ?_
    have hone : (1 : ℚ) ≤ (n + 1 : ℕ) := by exact_mod_cast Nat.succ_pos n
    linarith

/-- The whole part of what is rounded is below its error, too. -/
theorem floor_le (h : RoundsWithin round error) (herror : 0 ≤ error) (hq : 0 ≤ q) :
    ((round q).floor.toNat : ℚ) ≤ (1 + error) * q := by
  by_cases hsmall : q < 1 / 2
  · have hzero : (round q).floor.toNat = 0 := by
      have hlt : (round q).floor < 1 := Rat.floor_lt_iff.mpr (by simpa using h.small q hq hsmall)
      omega
    rw [hzero, Nat.cast_zero]
    positivity
  · have hnonneg : 0 ≤ (round q).floor := Rat.le_floor_iff.mpr (by simpa using h.nonneg q hq)
    have hcast : (((round q).floor.toNat : ℤ) : ℚ) = ((round q).floor : ℚ) := by
      rw [Int.toNat_of_nonneg hnonneg]
    calc ((round q).floor.toNat : ℚ) = ((round q).floor : ℚ) := by exact_mod_cast hcast
      _ ≤ round q := Rat.floor_le _
      _ ≤ (1 + error) * q := h.le q (not_lt.mp hsmall)

end RoundsWithin

namespace SteadyHost

theorem part_nonneg (h : SteadyHost ctx error duty) : 0 ≤ duty.part ctx := by
  have hfactor := h.factor_nonneg
  exact h.rounds.nonneg _ (one_div_nonneg.mpr (h.rounds.nonneg _ (by linarith)))

theorem rate_nonneg (h : SteadyHost ctx error duty) : 0 ≤ duty.rate ctx error :=
  mul_nonneg (sq_nonneg _) h.part_nonneg

/-- The share of some time is below the rate. -/
theorem share_le (h : SteadyHost ctx error duty) (t : ℕ) :
    (duty.share ctx t : ℚ) ≤ duty.rate ctx error * t := by
  have herror := h.error_nonneg
  have hpart := h.part_nonneg
  have hround : 0 ≤ ctx.roundFloat t := h.rounds.nonneg _ (Nat.cast_nonneg t)
  have hmod : duty.share ctx t
      ≤ (ctx.roundFloat (ctx.roundFloat t * duty.part ctx)).floor.toNat := Nat.mod_le _ _
  calc (duty.share ctx t : ℚ)
      ≤ ((ctx.roundFloat (ctx.roundFloat t * duty.part ctx)).floor.toNat : ℚ) := by
        exact_mod_cast hmod
    _ ≤ (1 + error) * (ctx.roundFloat t * duty.part ctx) :=
      h.rounds.floor_le herror (mul_nonneg hround hpart)
    _ ≤ (1 + error) * ((1 + error) * t * duty.part ctx) := by
      gcongr
      exact h.rounds.natCast_le t
    _ = duty.rate ctx error * t := by rw [Duty.rate]; ring

/-- So shares of two times fit a word, where twice the times do. -/
theorem share_add_share_lt (h : SteadyHost ctx error duty) {s t : ℕ}
    (hwide : s + t < 2 ^ (ctx.ulongBits - 1)) :
    duty.share ctx s + duty.share ctx t < 2 ^ ctx.ulongBits := by
  have hsum : ((s + t : ℕ) : ℚ) < 2 ^ (ctx.ulongBits - 1) := by exact_mod_cast hwide
  have hbits : (2 : ℚ) ^ ctx.ulongBits = 2 * 2 ^ (ctx.ulongBits - 1) := by
    rcases ctx.ulongBits_eq with hbits | hbits <;> rw [hbits] <;> norm_num
  have hrate : duty.rate ctx error * (s + t : ℕ) ≤ 2 * (s + t : ℕ) :=
    mul_le_mul_of_nonneg_right h.rate_le (Nat.cast_nonneg _)
  have hs := h.share_le s
  have ht := h.share_le t
  have hlt : (duty.share ctx s + duty.share ctx t : ℚ) < 2 ^ ctx.ulongBits := by
    rw [Nat.cast_add] at hsum hrate
    linarith
  exact_mod_cast hlt

end SteadyHost

/-- The code refills the bucket. -/
theorem bucket_dispatcherUpdateTxBudget (h : SteadyHost ctx error duty)
    (hclock : w.millisOverride = some now) (hlast : w.bucket.last ≤ now)
    (hlevel : w.bucket.level ≤ duty.full ctx)
    (hwide : now + duty.window < 2 ^ (ctx.ulongBits - 1)) :
    (dispatcherUpdateTxBudget ctx w).2.bucket
      = w.bucket.refill (duty.share ctx) (duty.full ctx) now := by
  have hwide' : now + duty.window < 2 ^ ctx.ulongBits :=
    hwide.trans_le (Nat.pow_le_pow_right (by decide) (Nat.sub_le _ _))
  have hpart : ctx.roundFloat (1 / ctx.roundFloat (1 + (ctx.hooks w.tick).airtimeBudgetFactor))
      = duty.part ctx := by
    rw [h.factor_eq, Duty.part]
  have helapsed : ulongSub ctx.ulongBits now w.dispatcher.lastBudgetUpdate
      = now - w.bucket.last := by
    have hlast' : w.dispatcher.lastBudgetUpdate ≤ now := hlast
    have hmod := Int.emod_eq_of_lt (a := (now : ℤ) - w.dispatcher.lastBudgetUpdate)
      (b := 2 ^ ctx.ulongBits) (by omega) (by zify at hwide'; omega)
    rw [ulongSub, hmod]
    show ((now : ℤ) - w.dispatcher.lastBudgetUpdate).toNat = now - w.dispatcher.lastBudgetUpdate
    omega
  have hrefill : floatToULong ctx.ulongBits
      (ctx.roundFloat (ctx.roundFloat (now - w.bucket.last : ℕ) * duty.part ctx))
      = duty.share ctx (now - w.bucket.last) := rfl
  have hmax : floatToULong ctx.ulongBits
      (ctx.roundFloat (ctx.roundFloat (duty.window % 2 ^ ctx.ulongBits : ℕ) * duty.part ctx))
      = duty.full ctx := by
    rw [Nat.mod_eq_of_lt (by omega)]
    rfl
  have hsum : (w.dispatcher.txBudgetMs + duty.share ctx (now - w.bucket.last)) % 2 ^ ctx.ulongBits
      = w.bucket.level + duty.share ctx (now - w.bucket.last) := by
    have hfit := h.share_add_share_lt (s := duty.window) (t := now - w.bucket.last) (by omega)
    refine Nat.mod_eq_of_lt (lt_of_le_of_lt ?_ hfit)
    exact Nat.add_le_add_right hlevel _
  rw [dispatcherUpdateTxBudget, Prog.run_bind_of (clockMillisGet_at hclock), Bucket.refill]
  simp only [Meshcore.dutyCycle, Prog.run_bind, Prog.run_env, Prog.run_gets, Prog.run_pure,
    Prog.run_ite, hook, hpart, helapsed, hrefill, h.window_eq, hmax]
  split
  · exact congrArg (fun level => (⟨min level (duty.full ctx), now⟩ : Bucket)) hsum
  · rfl

/-! ### The dispatcher -/

namespace World.Metered

/-- A metered bucket is no more than full, and was not refilled in the future. -/
theorem bounds (h : w.Metered ctx duty start l now) :
    w.bucket.last ≤ now ∧ w.bucket.level ≤ duty.full ctx :=
  ⟨h.run.last_le, h.run.level_le le_rfl⟩

theorem wait (h : w.Metered ctx duty start l now) {later : ℕ} (hlater : now ≤ later) :
    w.Metered ctx duty start l later :=
  ⟨h.run.wait hlater, h.reserve, h.total⟩

/-- Where the bucket stays, and what is in flight was there before or finds the reserve. -/
theorem saves (h : w.Metered ctx duty start l now) (hs : KeepsBudget ctx w w')
    (hair : ∀ id, w'.dispatcher.outbound = some id →
      w.dispatcher.outbound = some id ∨ duty.reserve ≤ w.bucket.level) :
    w'.Metered ctx duty start l now := by
  refine ⟨hs.bucket ▸ h.run, fun id hid => ?_, hs.total.trans h.total⟩
  rw [hs.bucket]
  rcases hair id hid with hflight | hlevel
  · exact h.reserve id hflight
  · exact hlevel

/-- A refill takes nothing from what is in flight. -/
theorem refill (h : w.Metered ctx duty start l now)
    (hsteady : SteadyHost ctx error duty) (hclock : w.millisOverride = some now)
    (hwide : now + duty.window < 2 ^ (ctx.ulongBits - 1)) :
    (dispatcherUpdateTxBudget ctx w).2.Metered ctx duty start l now := by
  obtain ⟨hlast, hlevel⟩ := h.bounds
  have hbucket := bucket_dispatcherUpdateTxBudget hsteady hclock hlast hlevel hwide
  have hrefills : Refills ctx w (dispatcherUpdateTxBudget ctx w).2 := Moves.moves ctx w
  refine ⟨hbucket ▸ h.run.refill, fun id hid => ?_, ?_⟩
  · rw [hrefills.1] at hid
    rw [hbucket]
    exact (h.reserve id hid).trans (Bucket.level_le_refill hlevel)
  · rw [hrefills.1]
    exact h.total

end World.Metered

/-- What is metered stays so, while the clock stands at a time that leaves room for the window. -/
def Meters (error : ℚ) (duty : Duty) (start : ℕ) (ctx : Ctx) (w w' : World) : Prop :=
  SteadyHost ctx error duty → w'.millisOverride = w.millisOverride ∧
    ∀ l now, w.millisOverride = some now → now + duty.window < 2 ^ (ctx.ulongBits - 1) →
      w.Metered ctx duty start l now →
        w'.Metered ctx duty start l now

instance : Composes (Meters error duty start) where
  refl _ _ _ := ⟨rfl, fun _ _ _ _ hm => hm⟩
  trans _ _ _ _ h h' hsteady := by
    obtain ⟨hclock, hkeeps⟩ := h hsteady
    obtain ⟨hclock', hkeeps'⟩ := h' hsteady
    exact ⟨hclock'.trans hclock, fun l now hnow hwide hm =>
      hkeeps' l now (hclock.trans hnow) hwide (hkeeps l now hnow hwide hm)⟩

instance (priority := low) Moves.metersOfKeepsBudget {α : Type} (m : M α) [hs : Moves KeepsBudget m]
    [hc : Moves KeepsAir m] : Moves (Meters error duty start) m where
  moves ctx w _ :=
    ⟨(hs.moves ctx w).millisOverride, fun _ _ _ _ hm => hm.saves (hs.moves ctx w) fun _ hid =>
      .inl ((hc.moves ctx w).outbound ▸ hid)⟩

/-- A transmission starts only with the reserve in the bucket. -/
instance : Moves (Meters error duty start) dispatcherCheckSend where
  moves ctx w hsteady := by
    have hkeepsCorrelation : KeepsCorrelation ctx w (dispatcherCheckSend ctx w).2 :=
      Moves.moves ctx w
    refine ⟨hkeepsCorrelation.2.2.1, fun l now hclock hwide hm => ?_⟩
    by_cases hcount : w.packetManager.getOutboundCount (now % 2 ^ 32) = 0
    · have hmanager : Prog.gets World.packetManager ctx w = (w.packetManager, w) := rfl
      rw [dispatcherCheckSend, Prog.run_bind_of (clockMillisGet_at hclock),
        Prog.run_bind_of hmanager, if_pos hcount]
      exact hm
    · have hrefilled := hm.refill hsteady hclock hwide
      rw [dispatcherCheckSend_run hclock hcount]
      generalize (dispatcherUpdateTxBudget ctx w).2 = v at hrefilled
      have hasked : World.Metered ctx duty start l now { v with tick := v.tick + 1 } :=
        ⟨hrefilled.run, hrefilled.reserve, hrefilled.total⟩
      rw [reserve, hsteady.estimate_eq]
      split
      · have hs : KeepsBudget ctx { v with tick := v.tick + 1 } (waitForBudget
            (duty.reserve - v.dispatcher.txBudgetMs) ctx
              { v with tick := v.tick + 1 }).2 := Moves.moves ctx _
        have hc : KeepsAir ctx { v with tick := v.tick + 1 } (waitForBudget
            (duty.reserve - v.dispatcher.txBudgetMs) ctx
              { v with tick := v.tick + 1 }).2 := Moves.moves ctx _
        exact hasked.saves hs fun id hid => .inl (hc.outbound ▸ hid)
      · rename_i hshort
        have hs : KeepsBudget ctx { v with tick := v.tick + 1 }
            (sendUnlessBusy v.dispatcher.nextTxTime now ctx
            { v with tick := v.tick + 1 }).2 := Moves.moves ctx _
        exact hasked.saves hs fun id _ => .inr (not_lt.mp hshort)

/-- What takes too long is no longer in flight. -/
theorem outbound_expireOutbound {id : PacketId}
    (hid : (expireOutbound ctx w).2.dispatcher.outbound = some id) :
    w.dispatcher.outbound = some id := by
  cases hidle : (expireOutbound ctx w).1 with
  | true => exact absurd (hid.symm.trans (outbound_of_expireOutbound hidle)) (by simp)
  | false =>
    have hd : Prog.gets World.dispatcher ctx w = (w.dispatcher, w) := rfl
    rw [expireOutbound, Prog.run_bind_of hd] at hid hidle
    cases hflight : w.dispatcher.outbound with
    | none =>
      rw [hflight] at hidle
      cases hidle
    | some id' =>
      have hasks : Asks ctx w (dispatcherMillisHasNowPassed w.dispatcher.outboundExpiry ctx w).2 :=
        Moves.moves ctx w
      rw [hflight, Option.elim_some, Prog.run_bind, Prog.run_ite] at hid hidle
      split at hidle
      · cases hidle
      · rename_i hpassed
        rw [if_neg hpassed, Prog.run_pure, hasks.1] at hid
        exact hflight.symm.trans hid

instance : Moves (Meters error duty start) expireOutbound where
  moves ctx w _ := by
    have hs : KeepsBudget ctx w (expireOutbound ctx w).2 := Moves.moves ctx w
    exact ⟨hs.millisOverride, fun l now _ _ hm => hm.saves hs fun id hid =>
      .inl (outbound_expireOutbound hid)⟩

set_option synthInstance.maxSize 10000 in
instance : Moves (Meters error duty start) dispatcherLoop := by
  unfold dispatcherLoop; infer_instance

/-! ### Transmissions that are done -/

/-- The air time is taken from what the refill left. -/
theorem bucket_chargeAirTime (h : w.Metered ctx duty start l now)
    (hsteady : SteadyHost ctx error duty) (hclock : w.millisOverride = some now)
    (hwide : now + duty.window < 2 ^ (ctx.ulongBits - 1)) :
    let airTime := ulongSub ctx.ulongBits now w.dispatcher.outboundStart
    (chargeAirTime ctx w).2.bucket
        = (w.bucket.refill (duty.share ctx) (duty.full ctx) now).spend airTime ∧
      (chargeAirTime ctx w).2.dispatcher.totalAirTime
        = (w.dispatcher.totalAirTime + airTime) % 2 ^ ctx.ulongBits := by
  intro airTime
  let counted : World :=
    { w with dispatcher :=
      { w.dispatcher with
        totalAirTime := (w.dispatcher.totalAirTime + airTime) % 2 ^ ctx.ulongBits } }
  have henv : (Prog.env : M Ctx) ctx w = (ctx, w) := rfl
  have hdispatcher : Prog.gets World.dispatcher ctx w = (w.dispatcher, w) := rfl
  have hcounted : modifyDispatcher (fun d =>
      { d with totalAirTime := (d.totalAirTime + airTime) % 2 ^ ctx.ulongBits }) ctx w
        = ((), counted) :=
    rfl
  obtain ⟨hlast, hlevel⟩ := h.bounds
  have hbucket := bucket_dispatcherUpdateTxBudget (w := counted) hsteady hclock hlast hlevel hwide
  have hrefills : Refills ctx counted (dispatcherUpdateTxBudget ctx counted).2 :=
    Moves.moves ctx counted
  rw [chargeAirTime, Prog.run_bind_of (clockMillisGet_at hclock), Prog.run_bind_of henv,
    Prog.run_bind_of hdispatcher, Prog.run_bind_of hcounted, Prog.run_bind]
  refine ⟨congrArg (Bucket.spend airTime) hbucket, ?_⟩
  show (dispatcherUpdateTxBudget ctx counted).2.dispatcher.totalAirTime = _
  rw [hrefills.1]

set_option synthInstance.maxSize 10000 in
/-- After a success the budget is charged, and nothing else happens to it. -/
theorem keepsBudget_dispatcherTxDone {id : PacketId} (hflight : w.dispatcher.outbound = some id) :
    KeepsBudget ctx (chargeAirTime ctx { w with tick := w.tick + 1 }).2
      (dispatcherTxDone true ctx w).2 := by
  let asked : World := { w with tick := w.tick + 1 }
  let interval := (ctx.hooks w.tick).agcResetInterval
  let packet := w.packetManager.packetBuf id
  have hrest : Moves KeepsBudget (do
      scheduleNextTx
      emit (.logTx packet packet.getRawLength)
      countSent packet
      releaseOutbound id
      (if interval > 0 then armAgcReset interval else pure ())
      pure true) := inferInstance
  have hdispatcher : Prog.gets World.dispatcher ctx w = (w.dispatcher, w) := rfl
  have hasked : hook Hooks.agcResetInterval ctx w = (interval, asked) := rfl
  rw [dispatcherTxDone, Prog.run_bind_of hdispatcher, hflight, Option.elim_some,
    Prog.run_bind_of hasked]
  exact hrest.moves ctx (chargeAirTime ctx asked).2

namespace World.Metered

/-- What a transmission took that is reported as a success is spent. -/
theorem dispatcherTxDone (h : w.Metered ctx duty start l now)
    (hsteady : SteadyHost ctx error duty) (hclock : w.millisOverride = some now)
    (hwide : now + duty.window < 2 ^ (ctx.ulongBits - 1)) (success : Bool) :
    (Meshcore.dispatcherTxDone success ctx w).2.Metered ctx duty start
      (l ++ if success then (w.dispatcher.outbound.map fun _ =>
        ulongSub ctx.ulongBits now w.dispatcher.outboundStart).toList else []) now := by
  have hdone : ∀ id, (Meshcore.dispatcherTxDone success ctx w).2.dispatcher.outbound ≠ some id := by
    intro id hid
    rw [outbound_dispatcherTxDone] at hid
    cases hid
  cases success with
  | false =>
    rw [if_neg Bool.false_ne_true, List.append_nil]
    exact h.saves (Moves.moves ctx w) fun id hid => absurd hid (hdone id)
  | true =>
    rw [if_pos rfl]
    cases hflight : w.dispatcher.outbound with
    | none =>
      have hdispatcher : Prog.gets World.dispatcher ctx w = (w.dispatcher, w) := rfl
      rw [Meshcore.dispatcherTxDone, Prog.run_bind_of hdispatcher, hflight]
      simpa using h
    | some id =>
      obtain ⟨-, hlevel⟩ := h.bounds
      have hrefill : w.bucket.level
          ≤ (w.bucket.refill (duty.share ctx) (duty.full ctx) now).level :=
        Bucket.level_le_refill hlevel
      have hasked : World.Metered ctx duty start l now { w with tick := w.tick + 1 } :=
        ⟨h.run, h.reserve, h.total⟩
      obtain ⟨hbucket, htotal⟩ := bucket_chargeAirTime hasked hsteady hclock hwide
      have hs := @keepsBudget_dispatcherTxDone ctx w id hflight
      rw [Option.map_some, Option.toList_some]
      refine ⟨?_, fun id hid => absurd hid (hdone id), ?_⟩
      · rw [hs.bucket, hbucket]
        exact h.run.refill.spend _ ((h.reserve id hflight).trans hrefill)
      · rw [hs.total, htotal]
        show (w.dispatcher.totalAirTime + _) % _ = _
        rw [h.total, List.sum_append, List.sum_singleton, Nat.mod_add_mod]

end World.Metered

/-! ### Calls -/

/-- At the end of a call the timer is synchronised, and the budget stays. -/
theorem metered_atTime {α : Type} {body : M α} {nowMs : UInt32}
    (h : (body ctx { w with millisOverride := some nowMs.toNat }).2.Metered ctx duty start l
      now) :
    (atTime nowMs body ctx w).2.Metered ctx duty start l now := by
  let v : World :=
    { (body ctx { w with millisOverride := some nowMs.toNat }).2 with
      millisOverride := none, lastNowMs := nowMs.toNat }
  have hv : v.Metered ctx duty start l now := ⟨h.run, h.reserve, h.total⟩
  have hs : KeepsBudget ctx v (timerSync nowMs.toNat ctx v).2 := Moves.moves ctx v
  have hc : KeepsAir ctx v (timerSync nowMs.toNat ctx v).2 := Moves.moves ctx v
  exact hv.saves hs fun id hid => .inl (hc.outbound ▸ hid)

/-- So it does when the body meters. -/
theorem metered_atTime_of_meters {α : Type} {body : M α} {nowMs : UInt32}
    [hbody : Moves (Meters error duty start) body]
    (h : w.Metered ctx duty start l now)
    (hsteady : SteadyHost ctx error duty) (hlater : now ≤ nowMs.toNat)
    (hwide : nowMs.toNat + duty.window < 2 ^ (ctx.ulongBits - 1)) :
    (atTime nowMs body ctx w).2.Metered ctx duty start l nowMs.toNat := by
  have hset : World.Metered ctx duty start l nowMs.toNat
      { w with millisOverride := some nowMs.toNat } :=
    ⟨h.run.wait hlater, h.reserve, h.total⟩
  exact metered_atTime (((hbody.moves ctx _) hsteady).2 l nowMs.toNat rfl hwide hset)

/-- A request spends nothing. -/
theorem Requests.metered {m : M ℤ} [hm : Requests m] (h : w.Metered ctx duty start l now) :
    (m ctx w).2.Metered ctx duty start l now := by
  obtain ⟨w', hs, hend⟩ := hm.requests ctx w
  have hkept : w'.Metered ctx duty start l now :=
    h.saves hs.framed.keepsBudget fun id hid => .inl (hs.framed.outbound ▸ hid)
  rcases hend with hend | hend <;> rw [hend]
  · exact hkept
  · have hsync : KeepsBudget ctx w' (timerSyncNow ctx w').2 := Moves.moves ctx w'
    have hc : KeepsAir ctx w' (timerSyncNow ctx w').2 := Moves.moves ctx w'
    exact hkept.saves hsync fun id hid => .inl (hc.outbound ▸ hid)

/-- What a call spends is what a transmission took that it reports as a success. -/
theorem Op.metered (op : Op) (h : w.Metered ctx duty start l now)
    (hsteady : SteadyHost ctx error duty) (hw : w.initialized = true) (hop : op ≠ .deinit)
    (hlater : now ≤ op.time.getD now)
    (hwide : op.time.getD now + duty.window < 2 ^ (ctx.ulongBits - 1)) :
    (op.next ctx w).Metered ctx duty start (l ++ (op.airTime ctx w).toList)
      (op.time.getD now) := by
  have hready : ∀ body : M ℤ, (whenReady body ctx w).2 = (body ctx w).2 := by
    intro body
    rw [whenReady, Prog.run_bind, Prog.run_gets, hw]
    rfl
  by_cases hdone : ∃ nowMs success, op = .radioTxDone nowMs success
  · obtain ⟨nowMs, success, rfl⟩ := hdone
    have hset : World.Metered ctx duty start l nowMs.toNat
        { w with millisOverride := some nowMs.toNat } :=
      ⟨h.run.wait hlater, h.reserve, h.total⟩
    have hspent := hset.dispatcherTxDone hsteady rfl hwide success
    have hair : ((Op.radioTxDone nowMs success).airTime ctx w).toList
        = if success then (w.dispatcher.outbound.map fun _ =>
          ulongSub ctx.ulongBits nowMs.toNat w.dispatcher.outboundStart).toList else [] := by
      cases success with
      | false => rfl
      | true => rw [Op.airTime, if_pos hw, if_pos rfl]
    have hloop : Moves (Meters error duty start) dispatcherLoop := inferInstance
    have hclock : KeepsCorrelation ctx { w with millisOverride := some nowMs.toNat }
        (dispatcherTxDone success ctx { w with millisOverride := some nowMs.toNat }).2 :=
      Moves.moves ctx _
    rw [hair]
    show (meshcoreRadioTxDone nowMs success ctx w).2.Metered ctx duty start _
      nowMs.toNat
    rw [meshcoreRadioTxDone, hready]
    exact metered_atTime (((hloop.moves ctx _) hsteady).2 _ nowMs.toNat hclock.2.2.1 hwide hspent)
  have hquiet : op.airTime ctx w = none := by
    cases op with
    | radioTxDone now success => exact absurd ⟨now, success, rfl⟩ hdone
    | _ => rfl
  rw [hquiet, Option.toList_none, List.append_nil]
  rcases op.cases_request with rfl | rfl | ⟨nowMs, rfl⟩ | ⟨data, rssi, snr, nowMs, rfl⟩ |
    ⟨nowMs, success, rfl⟩ | hreq
  · rw [Op.next_init hw]
    exact h
  · exact absurd rfl hop
  · show (meshcoreTimerFired nowMs ctx w).2.Metered ctx duty start l nowMs.toNat
    rw [meshcoreTimerFired, hready]
    exact metered_atTime_of_meters h hsteady hlater hwide
  · show (meshcoreRadioRxInject data rssi snr nowMs ctx w).2.Metered ctx duty start l
      nowMs.toNat
    rw [meshcoreRadioRxInject, hready]
    cases data with
    | none => exact h.wait hlater
    | some data =>
      rw [Option.elim_some, Prog.run_ite]
      split
      · exact h.wait hlater
      · exact metered_atTime_of_meters h hsteady hlater hwide
  · exact absurd ⟨nowMs, success, rfl⟩ hdone
  · exact (Requests.metered h).wait hlater

/-! ### Runs -/

theorem le_clockAfter {ops : List Op} (h : ClockRuns now ops) : now ≤ clockAfter now ops := by
  induction ops generalizing now with
  | nil => exact le_rfl
  | cons op ops ih => exact h.1.trans (ih h.2)

/-- Over a run of calls. -/
theorem metered_runOps (hsteady : SteadyHost ctx error duty) (ops : List Op)
    (hops : .deinit ∉ ops) (hw : w.initialized = true)
    (h : w.Metered ctx duty start l now) (hruns : ClockRuns now ops)
    (hwide : clockAfter now ops + duty.window < 2 ^ (ctx.ulongBits - 1)) :
    (runOps ctx w ops).Metered ctx duty start (l ++ airTimes ctx w ops)
      (clockAfter now ops) := by
  induction ops generalizing w l now with
  | nil =>
    rw [airTimes, List.append_nil]
    exact h
  | cons op ops ih =>
    obtain ⟨hlater, hrest⟩ := hruns
    rw [List.mem_cons, not_or] at hops
    have hnow := lt_of_le_of_lt (Nat.add_le_add_right (le_clockAfter hrest) duty.window) hwide
    have hnext := op.metered h hsteady hw (Ne.symm hops.1) hlater hnow
    rw [airTimes, ← List.append_assoc]
    exact ih hops.2 (op.initialized_next hw (Ne.symm hops.1)) hnext hrest hwide

/-- The dispatcher begins with a full bucket. -/
theorem bucket_dispatcherBegin (hsteady : SteadyHost ctx error duty)
    (hwide : duty.window < 2 ^ ctx.ulongBits) :
    (dispatcherBegin ctx w).2.bucket.level = duty.full ctx ∧
      (dispatcherBegin ctx w).2.dispatcher.totalAirTime = w.dispatcher.totalAirTime := by
  have hasks : Asks ctx w (clockMillisGet ctx w).2 := Moves.moves ctx w
  have hpart : ∀ n, ctx.roundFloat (1 / ctx.roundFloat (1 + (ctx.hooks n).airtimeBudgetFactor))
      = duty.part ctx := fun n => by
    rw [hsteady.factor_eq, Duty.part]
  constructor
  · show (dispatcherBegin ctx w).2.dispatcher.txBudgetMs = _
    simp only [dispatcherBegin, Meshcore.dutyCycle, Prog.run_bind, Prog.run_env,
      Prog.run_pure, hook, modifyDispatcher, emit, Prog.run_modify, hpart, hsteady.window_eq]
    rw [Nat.mod_eq_of_lt hwide]
    rfl
  · simp only [dispatcherBegin, Meshcore.dutyCycle, Prog.run_bind, Prog.run_env,
      Prog.run_pure, hook, modifyDispatcher, emit, Prog.run_modify]
    rw [hasks.1]

/-- What `meshcore_init` does after the dispatcher has begun. -/
def afterBegin : M ℤ := do
  runtimeStateReset
  let rc ← syncLocalIdentity
  if rc ≠ 0 then pure rc
  else do
    Prog.modify fun w => { w with initialized := true }
    timerSyncNow
    pure 0

instance : Moves KeepsBudget afterBegin := by
  have hquiet : Moves KeepsBudget syncLocalIdentity := ⟨fun ctx w => by
    have hsame : Quiet ctx w (syncLocalIdentity ctx w).2 := Moves.moves ctx w
    rw [hsame]
    exact ⟨rfl, rfl, rfl⟩⟩
  have hreset : Moves KeepsBudget runtimeStateReset := ⟨fun _ _ => ⟨rfl, rfl, rfl⟩⟩
  have hup :
      Moves KeepsBudget (Prog.modify fun w : World => { w with initialized := true } : M Unit) :=
    ⟨fun _ _ => ⟨rfl, rfl, rfl⟩⟩
  unfold afterBegin
  infer_instance

instance : Moves KeepsAir afterBegin := by
  have hquiet : Moves KeepsAir syncLocalIdentity := ⟨fun ctx w => by
    have hsame : Quiet ctx w (syncLocalIdentity ctx w).2 := Moves.moves ctx w
    have hchatter : Chatter ctx w (syncLocalIdentity ctx w).2 := Moves.moves ctx w
    refine ⟨?_, ?_, ?_, air_of_adds hchatter⟩ <;> rw [hsame]⟩
  unfold afterBegin runtimeStateReset
  infer_instance

/-- A dispatcher that starts with nothing in flight and no air time counted has a full bucket. -/
theorem metered_runtimeStart (hsteady : SteadyHost ctx error duty)
    (hwide : duty.window < 2 ^ ctx.ulongBits) (hidle : w.dispatcher.outbound = none)
    (hzero : w.dispatcher.totalAirTime = 0) :
    let w' := (runtimeStart ctx w).2
    w'.Metered ctx duty w'.dispatcher.lastBudgetUpdate []
      w'.dispatcher.lastBudgetUpdate := by
  intro w'
  have hw' : w' = (afterBegin ctx (dispatcherBegin ctx w).2).2 := rfl
  clear_value w'
  have htiming : Timing ctx w (dispatcherBegin ctx w).2 := Moves.moves ctx w
  obtain ⟨hlevel, htotal⟩ := bucket_dispatcherBegin (w := w) hsteady hwide
  generalize (dispatcherBegin ctx w).2 = b at htiming hlevel htotal hw'
  have hs : KeepsBudget ctx b w' := hw' ▸ Moves.moves ctx b
  have hc : KeepsAir ctx b w' := hw' ▸ Moves.moves ctx b
  have hbucket : w'.bucket = ⟨duty.full ctx, w'.dispatcher.lastBudgetUpdate⟩ :=
    Bucket.ext ((congrArg Bucket.level hs.bucket).trans hlevel) rfl
  have hnone : w'.dispatcher.outbound = none := by
    rw [hc.outbound, htiming]
    exact hidle
  refine ⟨?_, fun id hid => ?_, ?_⟩
  · rw [hbucket]
    exact .nil
  · rw [hnone] at hid
    cases hid
  · rw [hs.total, htotal, hzero]
    rfl

/-- A library that was just started has a full bucket. -/
theorem metered_init (hsteady : SteadyHost ctx error duty) (hwide : duty.window < 2 ^ ctx.ulongBits)
    (hv : v.initialized = false) (hw : (Op.next ctx v .init).initialized = true) :
    let w := Op.next ctx v .init
    w.Metered ctx duty w.dispatcher.lastBudgetUpdate [] w.dispatcher.lastBudgetUpdate := by
  intro w
  have hinit : w = (meshcoreInit ctx v).2 := rfl
  change w.initialized = true at hw
  clear_value w
  simp only [meshcoreInit, Prog.run_bind, Prog.run_gets, hv, Bool.false_eq_true, if_false,
    Prog.run_ite, Prog.run_pure] at hinit
  by_cases hrc : (runtimeBegin ctx (runtimeEnd ctx v).2).1 = 0
  · rw [if_neg (not_not.mpr hrc)] at hinit
    simp only [runtimeBegin, Prog.run_bind, Prog.run_ite, Prog.run_pure] at hrc hinit
    split at hrc
    · exact absurd hrc (show eNOMEM ≠ 0 by decide)
    · rename_i hready
      rw [if_neg hready] at hinit
      rw [hinit]
      exact metered_runtimeStart hsteady hwide rfl rfl
  · rw [if_pos hrc] at hinit
    rw [hinit] at hw
    cases hw

/-- **Duty cycle.** From a start on, over any run of calls, what the transmissions took that were
reported as successes is counted, and what counts of them is bounded by the share of the window and
of the time since the start. If none of them took longer than the longest frame is expected to, they
took at most twice that, and one each. -/
theorem duty_cycle_kept (hsteady : SteadyHost ctx error duty) (hv : v.initialized = false)
    (hw : (Op.next ctx v .init).initialized = true) (ops : List Op) (hops : .deinit ∉ ops)
    (hruns : ClockRuns (Op.next ctx v .init).dispatcher.lastBudgetUpdate ops)
    (hwide : clockAfter (Op.next ctx v .init).dispatcher.lastBudgetUpdate ops + duty.window
      < 2 ^ (ctx.ulongBits - 1)) :
    let w := Op.next ctx v .init
    let start := w.dispatcher.lastBudgetUpdate
    let spent := airTimes ctx w ops
    let allowed := duty.rate ctx error * (duty.window + (clockAfter start ops - start : ℕ))
    (runOps ctx w ops).dispatcher.totalAirTime = spent.sum % 2 ^ ctx.ulongBits ∧
      ((spent.map (min · duty.reserve)).sum : ℚ) ≤ allowed ∧
      ((∀ t ∈ spent, t ≤ duty.estimate) → (spent.sum : ℚ) ≤ 2 * allowed + spent.length) := by
  intro w start spent allowed
  have hwindow : duty.window < 2 ^ ctx.ulongBits :=
    (lt_of_le_of_lt (Nat.le_add_left ..) hwide).trans_le
      (Nat.pow_le_pow_right (by decide) (Nat.sub_le _ _))
  have hm := metered_runOps hsteady ops hops hw (metered_init hsteady hwindow hv hw) hruns hwide
  rw [List.nil_append] at hm
  have hbound : (((spent.map (min · duty.reserve)).sum : ℕ) : ℚ) ≤ allowed := by
    have hfull : (duty.full ctx : ℚ) ≤ duty.rate ctx error * duty.window :=
      hsteady.share_le duty.window
    calc (((spent.map (min · duty.reserve)).sum : ℕ) : ℚ)
        ≤ duty.full ctx + duty.rate ctx error * (clockAfter start ops - start : ℕ) :=
          hm.run.sum_le hsteady.share_le hsteady.rate_nonneg
      _ ≤ duty.rate ctx error * duty.window
          + duty.rate ctx error * (clockAfter start ops - start : ℕ) := by linarith
      _ = allowed := (mul_add ..).symm
  refine ⟨hm.total, hbound, fun hshort => ?_⟩
  have htwice : spent.sum ≤ 2 * (spent.map (min · duty.reserve)).sum + spent.length :=
    Bucket.sum_le_two_mul fun t ht => (hshort t ht).trans (by
      show duty.estimate ≤ 2 * (duty.estimate / 2) + 1
      omega)
  have hcast : (spent.sum : ℚ)
      ≤ 2 * ((spent.map (min · duty.reserve)).sum : ℕ) + spent.length := by
    exact_mod_cast htwice
  linarith

/-- A window of one second, and 10 ms for every frame. -/
def Ctx.timed : Ctx :=
  { Ctx.silent with
    hooks := fun _ => { Hooks.silent with dutyCycleWindowMs := 1000, radioAirtime := fun _ => 10 } }

theorem steadyHost_timed : SteadyHost .timed 0 ⟨1, 1000, 10⟩ where
  rounds := ⟨rfl, fun _ hq => hq, fun q _ hq => hq.trans (by norm_num),
    fun q _ => by rw [add_zero, one_mul]; exact le_rfl⟩
  error_nonneg := le_rfl
  rate_le := by
    show ((1 + 0 : ℚ) ^ 2 * (1 / (1 + 1))) ≤ 2
    norm_num
  factor_nonneg := zero_le_one
  factor_eq _ := rfl
  window_eq _ := rfl
  estimate_eq _ := rfl

theorem duty_cycle_kept_timed :
    let w := Op.next .timed .boot .init
    let ops := [.controlDataSend (some [0x81]), .timerFired 5, .radioTxDone 16 true]
    let spent := airTimes .timed w ops
    (runOps .timed w ops).dispatcher.totalAirTime = spent.sum % 2 ^ 32 ∧
      ((spent.map (min · 5)).sum : ℚ) ≤ (1 + 0) ^ 2 * (1 / (1 + 1)) * (1000 + (16 - 0 : ℕ)) := by
  intro w ops spent
  have hstart : w.dispatcher.lastBudgetUpdate = 0 := by decide +kernel
  have hlong : clockAfter w.dispatcher.lastBudgetUpdate ops - w.dispatcher.lastBudgetUpdate
      = 16 - 0 := by
    rw [hstart]
    rfl
  obtain ⟨htotal, hspent, -⟩ := duty_cycle_kept steadyHost_timed
    (rfl : World.boot.initialized = false) (by decide +kernel) ops (by simp [ops])
    (by rw [hstart]; exact ⟨le_rfl, by decide, by decide, trivial⟩) (by rw [hstart]; decide)
  exact ⟨htotal, by rw [← hlong]; exact hspent⟩

end

end Meshcore
