import Meshcore.Deadlines
import Meshcore.Hearing
import Meshcore.LifeCycle
import Meshcore.LostRequests

/-!
# No missed wake-up

A call that may have changed what the library waits for ends with the synchronisation of the host's
timer. So in every state of a run the timer stands at the deadline of the times that are waited for
in that state, and until then there is nothing to do: no queued packet is due, nothing takes too
long, no registration expires and no periodic timer has run out.

An AGC time of 0 stands for no AGC time in the search for the deadline, but not in the loop. A clock
of 32 bits passes 0, and a re-arm may land on it.

## Main definitions

* `Actionable` — at this time there is something to do
* `World.Armed` — the timer stands at the deadline of what is waited for

## Main results

* `Reachable.armed` — so it does in every state of a run
* `no_missed_wakeup`
-/

namespace Meshcore

/-- At this time a call finds something to do: a queued packet whose time has come, a transmission
that takes too long, a periodic timer that has run out, or a registration that has expired. -/
inductive Actionable (ctx : Ctx) (w : World) (t : ℕ) : Prop where
  | outbound {e : QueueEntry} (he : e ∈ w.packetManager.sendQueue.entries)
      (hdue : PacketQueue.isDue t e = true) : Actionable ctx w t
  | inbound {e : QueueEntry} (he : e ∈ w.packetManager.rxQueue.entries)
      (hdue : PacketQueue.isDue t e = true) : Actionable ctx w t
  | expiry {id : PacketId} (hflight : w.dispatcher.outbound = some id)
      (hpassed : hasPassed ctx.ulongBits t w.dispatcher.outboundExpiry = true) : Actionable ctx w t
  | floorCalib (hpassed : hasPassed ctx.ulongBits t w.dispatcher.nextFloorCalibTime = true) :
      Actionable ctx w t
  | agcReset {n : ℕ} (hn : w.tick ≤ n) (hinterval : 0 < (ctx.hooks n).agcResetInterval)
      (hpassed : hasPassed ctx.ulongBits t w.dispatcher.nextAgcResetTime = true) :
      Actionable ctx w t
  | expired {s : Slot} {r : Registration} (hopen : w.correlation.slot s = some r)
      (hreached : timeReached ctx.ulongBits t r.expiresAtMs = true) : Actionable ctx w t

/-- The times of `unsigned long` that are waited for. An AGC time of 0 is none. -/
def World.waits (w : World) : List ℕ :=
  (w.dispatcher.outbound.elim [] fun _ => [w.dispatcher.outboundExpiry]) ++
    [w.dispatcher.nextFloorCalibTime] ++
    (if w.dispatcher.nextAgcResetTime ≠ 0 then [w.dispatcher.nextAgcResetTime] else []) ++
    w.correlation.deadlines

/-- All of them lie within half a turn of the 32-bit clock from now. -/
def World.WaitsNear (ctx : Ctx) (w : World) (now : ℕ) : Prop :=
  ∀ x ∈ w.waits, -2 ^ 31 ≤ ahead ctx.ulongBits now x ∧ ahead ctx.ulongBits now x < 2 ^ 31

/-- The timer stands at what the search for the deadline finds in this state, given what the host
answered when it was armed. -/
def World.Armed (ctx : Ctx) (w : World) : Prop :=
  ∃ now n, now < 2 ^ 32 ∧ n ≤ w.tick ∧
    w.timer = some (now, (runtimeNextDeadlineGet now ctx { w with tick := n }).1)

/-- The timer is left as it is, and so is what it waits for. -/
structure KeepsTimer (_ : Ctx) (w w' : World) : Prop where
  timer : w'.timer = w.timer
  dispatcher : w'.dispatcher = w.dispatcher
  correlation : w'.correlation = w.correlation
  packetManager : w'.packetManager = w.packetManager
  tick_le : w.tick ≤ w'.tick

section

variable {ctx : Ctx} {w w' v : World} {now t x : ℕ} {α : Type} {record : Option α}

/-! ### The deadline -/

/-- What the runtime waits for. -/
def runtimeTimes (ctx : Ctx) (w : World) (now : ℕ) : List ℕ :=
  w.correlation.times ++ dispatcherTimes ctx w now

theorem floorCalib_mem (ctx : Ctx) (w : World) (now : ℕ) :
    w.dispatcher.nextFloorCalibTime % 2 ^ 32 ∈ dispatcherTimes ctx w now := by
  simp [dispatcherTimes, deadlineCandidates]

/-- The candidates that are accumulated after others, none of which is due. -/
theorem deadlineAccumulate_snd {best : Option ℕ} {d : ℕ} (hd : 0 < ahead 32 now d)
    (hbest : ∀ b ∈ best, 0 < ahead 32 now b) :
    ∃ d' ∈ best.toList ++ [d], (deadlineAccumulate now d best).2 = some d' ∧
      ∀ c ∈ best.toList ++ [d], ahead 32 now d' ≤ ahead 32 now c := by
  rw [deadlineAccumulate, if_neg (not_le.mpr hd)]
  cases best with
  | none => exact ⟨d, List.mem_singleton_self d, rfl, fun c hc => by rw [List.mem_singleton.mp hc]⟩
  | some b =>
    have hb := hbest b rfl
    have hbetween := ahead_between hb hd
    by_cases hless : ahead 32 b d < 0
    · refine ⟨d, by simp, by simp [hless], ?_⟩
      simp only [Option.toList_some, List.singleton_append, List.mem_cons,
        List.not_mem_nil, or_false]
      rintro c (rfl | rfl) <;> omega
    · refine ⟨b, by simp, by simp [hless], ?_⟩
      simp only [Option.toList_some, List.singleton_append, List.mem_cons,
        List.not_mem_nil, or_false]
      rintro c (rfl | rfl) <;> omega

/-- The runtime finds now if one of the times is not ahead of it, and otherwise the earliest. -/
theorem runtimeNextDeadlineGet_spec (ctx : Ctx) (w : World) (now : ℕ) :
    let found := (runtimeNextDeadlineGet now ctx w).1
    ((∃ c ∈ runtimeTimes ctx w now, ahead 32 now c ≤ 0) ∧ found = some now) ∨
      ((∀ c ∈ runtimeTimes ctx w now, 0 < ahead 32 now c) ∧
        ∃ d, found = some d ∧ d ∈ runtimeTimes ctx w now ∧
          ∀ c ∈ runtimeTimes ctx w now, ahead 32 now d ≤ ahead 32 now c) := by
  intro found
  have hnow : ∀ best : Option ℕ, deadlineAccumulate now now best = (true, some now) := by
    intro best
    rw [deadlineAccumulate, ahead_self, if_pos le_rfl]
  have hnone : ∀ d ∈ (none : Option ℕ), 0 < ahead 32 now d :=
    fun d h => absurd h (Option.not_mem_none d)
  have hcorrelation : Prog.gets World.correlation ctx w = (w.correlation, w) := rfl
  have hfirst : w.correlation.nextDeadlineGet now
      = (accumulateAll now w.correlation.times none).2 := rfl
  have hfound : found = (runtimeNextDeadlineGet now ctx w).1 := rfl
  rw [runtimeNextDeadlineGet, Prog.run_bind_of hcorrelation, hfirst] at hfound
  rcases @accumulateAll_spec now w.correlation.times none hnone with
    ⟨hall, c, hc, hdue⟩ | ⟨-, hlater, hleast, hempty⟩
  · rw [hall, Option.elim_some, hnow, if_pos rfl] at hfound
    exact .inl ⟨⟨c, List.mem_append_left _ hc, hdue⟩, hfound⟩
  -- What the request correlation waits for is the best candidate so far.
  obtain ⟨best, hbest⟩ : ∃ best, (accumulateAll now w.correlation.times none).2 = best := ⟨_, rfl⟩
  rw [hbest] at hfound hleast hempty
  have hahead : ∀ b ∈ best, 0 < ahead 32 now b := fun b hb => hlater b (hleast b hb).1
  have hsofar : (best.elim (false, none) fun candidate => deadlineAccumulate now candidate none)
      = (false, best) := by
    cases best with
    | none => rfl
    | some b => rw [Option.elim_some, deadlineAccumulate, if_neg (not_le.mpr (hahead b rfl))]; rfl
  rw [hsofar, if_neg Bool.false_ne_true, Prog.run_bind] at hfound
  change found = ((dispatcherNextDeadlineGet now ctx w).1.elim best fun candidate =>
    (deadlineAccumulate now candidate best).2) at hfound
  rw [dispatcherNextDeadlineGet_times] at hfound
  rcases @accumulateAll_spec now (dispatcherTimes ctx w now) none hnone with
    ⟨hall, c, hc, hdue⟩ | ⟨-, hlater', hleast', hempty'⟩
  · rw [hall, Option.elim_some, hnow] at hfound
    exact .inl ⟨⟨c, List.mem_append_right _ hc, hdue⟩, hfound⟩
  · right
    cases hd : (accumulateAll now (dispatcherTimes ctx w now) none).2 with
    | none =>
      have hmem := floorCalib_mem ctx w now
      rw [(hempty' hd).2] at hmem
      exact absurd hmem List.not_mem_nil
    | some d =>
      rw [hd, Option.elim_some] at hfound
      obtain ⟨hmem, hle⟩ := hleast' d hd
      obtain ⟨d', hmem', hd', hmin⟩ := deadlineAccumulate_snd (hlater' d hmem) hahead
      refine ⟨fun c hc => ?_, d', hfound.trans hd', ?_, fun c hc => ?_⟩
      · rcases List.mem_append.mp hc with hc | hc
        · exact hlater c hc
        · exact hlater' c hc
      · rcases List.mem_append.mp hmem' with hmem' | hmem'
        · exact List.mem_append_left _ (hleast d' (Option.mem_toList.mp hmem')).1
        · exact List.mem_append_right _ (List.mem_singleton.mp hmem' ▸ hmem)
      · rcases List.mem_append.mp hc with hc | hc
        · cases best with
          | none =>
            rw [(hempty rfl).2] at hc
            exact absurd hc List.not_mem_nil
          | some b => exact (hmin b (by simp)).trans ((hleast b rfl).2 c hc)
        · exact (hmin d (by simp)).trans (hle c hc)

/-- What is found depends on what is waited for, and on what the host answers then. -/
theorem runtimeNextDeadlineGet_congr (hdispatcher : w.dispatcher = v.dispatcher)
    (hcorrelation : w.correlation = v.correlation) (hmanager : w.packetManager = v.packetManager)
    (htick : w.tick = v.tick) :
    (runtimeNextDeadlineGet now ctx w).1 = (runtimeNextDeadlineGet now ctx v).1 := by
  have htimes : dispatcherTimes ctx w now = dispatcherTimes ctx v now := by
    rw [dispatcherTimes, dispatcherTimes, hdispatcher, hmanager, htick]
  have hsearch : (dispatcherNextDeadlineGet now ctx w).1
      = (dispatcherNextDeadlineGet now ctx v).1 := by
    rw [dispatcherNextDeadlineGet_times, dispatcherNextDeadlineGet_times, htimes]
  simp only [runtimeNextDeadlineGet, Prog.run_bind, Prog.run_gets, Prog.run_ite, Prog.run_pure,
    hcorrelation]
  split
  · rfl
  · rw [hsearch]

/-- The earliest time of a queue is not after any of them. -/
theorem PacketQueue.exists_nextScheduledGet {queue : PacketQueue} {e : QueueEntry}
    (he : e ∈ queue.entries) : ∃ c, queue.nextScheduledGet now = some c ∧
      (ahead 32 now c ≤ 0 ∨ ahead 32 now c ≤ ahead 32 now e.scheduledFor) := by
  have hmem : e.scheduledFor ∈ queue.entries.map (·.scheduledFor) := List.mem_map_of_mem he
  rw [PacketQueue.nextScheduledGet, nextScheduled_eq]
  rcases @accumulateAll_spec now (queue.entries.map (·.scheduledFor)) none
    (fun d h => absurd h (Option.not_mem_none d)) with ⟨hall, -⟩ | ⟨-, -, hleast, hempty⟩
  · exact ⟨now, by rw [hall], .inl (ahead_self 32 now).le⟩
  · cases hd : (accumulateAll now (queue.entries.map (·.scheduledFor)) none).2 with
    | none =>
      rw [(hempty hd).2] at hmem
      exact absurd hmem List.not_mem_nil
    | some d => exact ⟨d, rfl, .inr ((hleast d hd).2 _ hmem)⟩

/-! ### Times -/

/-- A time near now is read in 32 bits as far ahead as it is. -/
theorem ahead_mod (hwidth : 32 ≤ ctx.ulongBits) (hnear : -2 ^ 31 ≤ ahead ctx.ulongBits now x ∧
    ahead ctx.ulongBits now x < 2 ^ 31) :
    ahead 32 now (x % 2 ^ 32) = ahead ctx.ulongBits now x := by
  have hdvd := dvd_sub_ahead (a := now) (b := x) (show 0 < ctx.ulongBits by omega)
  have hmod : ((2 : ℤ) ^ 32) ∣ ((x % 2 ^ 32 : ℕ) : ℤ) - x := ⟨-(x / 2 ^ 32 : ℕ), by omega⟩
  rw [ahead_eq_iff (by decide)]
  refine ⟨hnear.1, hnear.2, ?_⟩
  have hsum := hmod.add ((pow_dvd_pow 2 hwidth).trans hdvd)
  have heq : ((x % 2 ^ 32 : ℕ) : ℤ) - x + (x - now - ahead ctx.ulongBits now x)
      = ((x % 2 ^ 32 : ℕ) : ℤ) - now - ahead ctx.ulongBits now x := by ring
  rwa [heq] at hsum

/-- How far ahead one reading of the 32-bit clock is of another. -/
theorem sub_eq_ahead (hnow : now < 2 ^ 32) (ht : t < 2 ^ 32) (hlater : 0 < ahead 32 now t) :
    (t : ℤ) - now = ahead 32 now t ∨ (t : ℤ) - now = ahead 32 now t - 2 ^ 32 := by
  obtain ⟨k, hk⟩ := dvd_sub_ahead (w := 32) (a := now) (b := t) (by decide)
  have hlt := ahead_lt (w := 32) (a := now) (b := t) (by decide)
  omega

/-- Until its reading the time has not come in the width in which it is kept. -/
theorem le_of_ahead_nonneg (hnow : now < 2 ^ 32) (ht : t < 2 ^ 32) (hlater : 0 < ahead 32 now t)
    (hnear : -2 ^ 31 ≤ ahead ctx.ulongBits now x ∧ ahead ctx.ulongBits now x < 2 ^ 31)
    (hcome : 0 ≤ ahead ctx.ulongBits x t) : ahead 32 now (x % 2 ^ 32) ≤ ahead 32 now t := by
  have hlt := ahead_lt (w := 32) (a := now) (b := t) (by decide)
  by_contra hearly
  have hwidth : 32 ≤ ctx.ulongBits := by rcases ctx.ulongBits_eq with h | h <;> omega
  rw [ahead_mod hwidth hnear] at hearly
  rcases ctx.ulongBits_eq with hbits | hbits
  · rw [hbits] at hnear hearly hcome
    rw [ahead_sub (o := now) (by decide) (by omega) (by omega)] at hcome
    omega
  · rw [hbits] at hnear hearly hcome
    have hwide : ahead 64 now t = t - now := by
      rw [ahead_eq_iff (by decide)]
      exact ⟨by omega, by omega, by simp⟩
    have hsub := sub_eq_ahead hnow ht hlater
    rw [ahead_sub (o := now) (by decide) (by omega) (by omega), hwide] at hcome
    omega

/-! ### The timer -/

/-- The synchronisation sets the timer to what it finds, and changes nothing that is waited for. -/
theorem timerSync_timer (hv : v.initialized = true) (now : ℕ) :
    let w' := (timerSync now ctx v).2
    w'.timer = some (now, (runtimeNextDeadlineGet now ctx v).1) ∧ w'.dispatcher = v.dispatcher ∧
      w'.correlation = v.correlation ∧ w'.packetManager = v.packetManager ∧ v.tick ≤ w'.tick := by
  have hasks : Asks ctx v (runtimeNextDeadlineGet now ctx v).2 := by
    have h : Moves Asks (runtimeNextDeadlineGet now) := by
      unfold runtimeNextDeadlineGet; infer_instance
    exact h.moves ctx v
  have hgets : Prog.gets World.initialized ctx v = (true, v) := by rw [← hv]; rfl
  have hsame := hasks.1
  rw [timerSync, Prog.run_bind_of hgets, Bool.not_true, if_neg Bool.false_ne_true, Prog.run_bind]
  have htick := hasks.2
  generalize (runtimeNextDeadlineGet now ctx v).2 = v' at hsame htick
  rw [hsame]
  exact ⟨rfl, rfl, rfl, rfl, htick⟩

theorem armed_of_sync (hnow : now < 2 ^ 32) (h : w' = (timerSync now ctx v).2)
    (hinit : w'.initialized = true) : w'.Armed ctx := by
  have hup : Up ctx v (timerSync now ctx v).2 := Moves.moves ctx v
  obtain ⟨htimer, hdispatcher, hcorrelation, hmanager, htick⟩ :=
    @timerSync_timer ctx v (hup.symm.trans (h ▸ hinit)) now
  rw [← h] at htimer hdispatcher hcorrelation hmanager htick
  refine ⟨now, v.tick, hnow, htick, htimer.trans ?_⟩
  rw [runtimeNextDeadlineGet_congr (w := { w' with tick := v.tick }) hdispatcher hcorrelation
    hmanager rfl]

theorem armed_of_syncNow (h : w' = (timerSyncNow ctx v).2) (hinit : w'.initialized = true) :
    w'.Armed ctx :=
  armed_of_sync (Nat.mod_lt _ (by decide)) h hinit

theorem World.Armed.keepsTimer (h : w.Armed ctx) (hkeeps : KeepsTimer ctx w w') : w'.Armed ctx := by
  obtain ⟨now, n, hnow, hn, htimer⟩ := h
  refine ⟨now, n, hnow, hn.trans hkeeps.tick_le, hkeeps.timer.trans (htimer.trans ?_)⟩
  rw [runtimeNextDeadlineGet_congr (w := { w' with tick := n }) (v := { w with tick := n })
    hkeeps.dispatcher hkeeps.correlation hkeeps.packetManager rfl]

theorem KeepsTimer.refl (ctx : Ctx) (w : World) : KeepsTimer ctx w w := ⟨rfl, rfl, rfl, rfl, le_rfl⟩

theorem requestTagOf_keepsTimer (tag : UInt32) (ctx : Ctx) (w : World) :
    KeepsTimer ctx w (requestTagOf tag ctx w).2 := by
  have hdraws : OnlyTimestamp ctx w (requestTagOf tag ctx w).2 := Moves.moves ctx w
  have hmute : Mute ctx w (requestTagOf tag ctx w).2 := Moves.moves ctx w
  refine ⟨?_, ?_, ?_, ?_, hmute.2.2.2.2.2⟩ <;> rw [hdraws]

/-- An event ends with the synchronisation. -/
theorem armed_atTime {nowMs : UInt32} {body : M α}
    (hinit : (atTime nowMs body ctx w).2.initialized = true) :
    (atTime nowMs body ctx w).2.Armed ctx :=
  armed_of_sync (UInt32.toNat_lt nowMs) rfl hinit

/-- A request is refused, or ends with the synchronisation. -/
theorem request_syncs (execute : α → M Unit) :
    let w' := (request record (fun r => requestExecuteNow (execute r)) ctx w).2
    KeepsTimer ctx w w' ∨ ∃ v, w' = (timerSyncNow ctx v).2 := by
  simp only [request, whenReady, requestExecuteNow, Prog.run_bind, Prog.run_gets, Prog.run_ite,
    Prog.run_pure]
  split
  · exact .inl (.refl ctx w)
  · cases record with
    | none => exact .inl (.refl ctx w)
    | some r =>
      simp only [Option.elim_some, Prog.run_bind, Prog.run_gets, Prog.run_ite, Prog.run_pure]
      split
      · exact .inl (.refl ctx w)
      · split
        · exact .inl (.refl ctx w)
        · exact .inr ⟨_, rfl⟩

theorem requestWithTag_syncs (requestTag : Option UInt32) (execute : α → UInt32 → M Unit) :
    let w' := (requestWithTag record requestTag execute ctx w).2
    KeepsTimer ctx w w' ∨ ∃ v, w' = (timerSyncNow ctx v).2 := by
  simp only [requestWithTag, whenReady, requestExecuteNow, Prog.run_bind, Prog.run_gets,
    Prog.run_ite, Prog.run_pure]
  split
  · exact .inl (.refl ctx w)
  · cases record with
    | none => exact .inl (.refl ctx w)
    | some r =>
      simp only [Option.elim_some, Prog.run_bind, Prog.run_gets, Prog.run_ite, Prog.run_pure]
      have hdraws := requestTagOf_keepsTimer (requestTag.getD 0) ctx w
      split
      · exact .inl hdraws
      · split
        · exact .inl hdraws
        · exact .inr ⟨_, rfl⟩

/-- So does every request. -/
theorem Op.syncs {op : Op} (hop : op.isRequest = true) (ctx : Ctx) (w : World) :
    KeepsTimer ctx w (op.next ctx w) ∨ ∃ v, op.next ctx w = (timerSyncNow ctx v).2 := by
  cases op with
  | init | deinit | timerFired | radioRxInject | radioTxDone => cases hop
  | nodeTracePathRequest => exact .inl (.refl ctx w)
  | nodeDiscoverPathRequest => exact requestWithTag_syncs _ _
  | nodeTraceRequest => exact requestWithTag_syncs _ _
  | nodeTelemetryRequest => exact requestWithTag_syncs _ _
  | nodeDiscoverRequest => exact requestWithTag_syncs _ _
  | _ => exact request_syncs _

/-- So does a start that succeeds. -/
theorem runtimeBegin_syncs (h : (runtimeBegin ctx w).1 = 0) :
    ∃ v, (runtimeBegin ctx w).2 = (timerSyncNow ctx v).2 := by
  simp only [runtimeBegin, Prog.run_bind, Prog.run_ite, Prog.run_pure] at h ⊢
  split at h
  · exact absurd h (show eNOMEM ≠ 0 by decide)
  rename_i hready
  rw [if_neg hready]
  simp only [runtimeStart, Prog.run_bind, Prog.run_ite] at h ⊢
  generalize syncLocalIdentity ctx _ = r at h ⊢
  by_cases hrc : r.1 = 0
  · rw [if_neg (not_not.mpr hrc)]
    exact ⟨_, rfl⟩
  · rw [if_pos hrc] at h
    exact absurd h hrc

/-- `meshcore_init` arms the timer, if the library runs after it. -/
theorem armed_meshcoreInit (hw : w.initialized = false)
    (hinit : (meshcoreInit ctx w).2.initialized = true) : (meshcoreInit ctx w).2.Armed ctx := by
  simp only [meshcoreInit, Prog.run_bind, Prog.run_gets, hw, Bool.false_eq_true, if_false,
    Prog.run_ite, Prog.run_pure] at hinit ⊢
  by_cases hrc : (runtimeBegin ctx (runtimeEnd ctx w).2).1 = 0
  · rw [if_neg (not_not.mpr hrc)] at hinit ⊢
    obtain ⟨v, hv⟩ := runtimeBegin_syncs hrc
    exact armed_of_syncNow hv hinit
  · rw [if_pos hrc] at hinit
    cases hinit

/-- An event leaves the timer armed while the library runs. -/
theorem Op.armed_event {op : Op} (hop : op.isRequest = false) (hw : w.initialized = true)
    (harmed : w.Armed ctx) (hinit : (op.next ctx w).initialized = true) :
    (op.next ctx w).Armed ctx := by
  have hready : ∀ body : M ℤ, whenReady body ctx w = body ctx w := by
    intro body
    simp [whenReady, hw]
  cases op with
  | init =>
    rw [Op.next_init hw]
    exact harmed
  | deinit =>
    rw [Op.next_deinit hw] at hinit
    cases hinit
  | timerFired now =>
    change (meshcoreTimerFired now ctx w).2.initialized = true at hinit
    change (meshcoreTimerFired now ctx w).2.Armed ctx
    rw [meshcoreTimerFired, hready] at hinit ⊢
    exact armed_atTime hinit
  | radioTxDone now success =>
    change (meshcoreRadioTxDone now success ctx w).2.initialized = true at hinit
    change (meshcoreRadioTxDone now success ctx w).2.Armed ctx
    rw [meshcoreRadioTxDone, hready] at hinit ⊢
    exact armed_atTime hinit
  | radioRxInject data rssi snr now =>
    change (meshcoreRadioRxInject data rssi snr now ctx w).2.initialized = true at hinit
    change (meshcoreRadioRxInject data rssi snr now ctx w).2.Armed ctx
    rw [meshcoreRadioRxInject, hready] at hinit ⊢
    cases data with
    | none => exact harmed
    | some data =>
      rw [Option.elim_some, Prog.run_ite] at hinit ⊢
      split at hinit
      · rename_i hlen
        rw [if_pos hlen]
        exact harmed
      · rename_i hlen
        rw [if_neg hlen]
        exact armed_atTime hinit
  | _ => cases hop

/-- A call leaves the timer armed while the library runs. -/
theorem Op.armed (op : Op) (h : w.initialized = true → w.Armed ctx)
    (hinit : (op.next ctx w).initialized = true) : (op.next ctx w).Armed ctx := by
  cases hw : w.initialized with
  | false =>
    by_cases hop : op = .init
    · subst hop
      exact armed_meshcoreInit hw hinit
    · rw [op.next_of_not_initialized hw hop, hw] at hinit
      cases hinit
  | true =>
    cases hop : op.isRequest with
    | false => exact Op.armed_event hop hw (h hw) hinit
    | true =>
      rcases Op.syncs hop ctx w with hkeeps | ⟨v, hv⟩
      · exact (h hw).keepsTimer hkeeps
      · exact armed_of_syncNow hv hinit

/-- In every state of a run the timer is armed while the library runs. -/
theorem Reachable.armed (h : Reachable ctx w) (hw : w.initialized = true) : w.Armed ctx :=
  h.induct (P := fun w => w.initialized = true → w.Armed ctx) (fun hboot => by cases hboot)
    (fun _ op _ ih hinit => op.armed ih hinit) hw

/-! ### Until the deadline -/

/-- A queued packet is not due before the deadline. -/
theorem not_isDue_of_lt {queue : PacketQueue} {e : QueueEntry} (he : e ∈ queue.entries)
    (hlater : 0 < ahead 32 now t)
    (hfirst : ∀ c ∈ queue.nextScheduledGet now, ahead 32 now t < ahead 32 now c) :
    PacketQueue.isDue t e = false := by
  obtain ⟨c, hc, hle⟩ := @PacketQueue.exists_nextScheduledGet now _ _ he
  have hbefore := hfirst c hc
  rw [PacketQueue.isDue, ahead_between hlater (by omega : 0 < ahead 32 now e.scheduledFor)]
  exact decide_eq_false (by omega)

/-- A time that is waited for does not come before the deadline. -/
theorem hasPassed_eq_false (hnow : now < 2 ^ 32) (ht : t < 2 ^ 32) (hlater : 0 < ahead 32 now t)
    (hnear : -2 ^ 31 ≤ ahead ctx.ulongBits now x ∧ ahead ctx.ulongBits now x < 2 ^ 31)
    (hbefore : ahead 32 now t < ahead 32 now (x % 2 ^ 32)) :
    ahead ctx.ulongBits x t < 0 := by
  by_contra hcome
  have hle := le_of_ahead_nonneg hnow ht hlater hnear (not_lt.mp hcome)
  omega

theorem mem_deadlineCandidates_outbound {c : ℕ} (hinit : w.packetManager.initialized = true)
    (hc : c ∈ w.packetManager.sendQueue.nextScheduledGet now) :
    c ∈ deadlineCandidates w.packetManager w.dispatcher now := by
  have hget : w.packetManager.nextOutboundScheduledGet now = some c := by
    rw [PacketQueueManager.nextOutboundScheduledGet, hinit]
    exact hc
  simp [deadlineCandidates, hget]

theorem mem_deadlineCandidates_inbound {c : ℕ} (hinit : w.packetManager.initialized = true)
    (hc : c ∈ w.packetManager.rxQueue.nextScheduledGet now) :
    c ∈ deadlineCandidates w.packetManager w.dispatcher now := by
  have hget : w.packetManager.nextInboundScheduledGet now = some c := by
    rw [PacketQueueManager.nextInboundScheduledGet, hinit]
    exact hc
  simp [deadlineCandidates, hget]

/-- Before a deadline that is ahead of now there is nothing to do. -/
theorem not_actionable_of_lt (hnow : now < 2 ^ 32) (ht : t < 2 ^ 32) (hlater : 0 < ahead 32 now t)
    (hinit : w.packetManager.initialized = true) (hnear : w.WaitsNear ctx now)
    (hexpiries : ∀ c ∈ w.correlation.times, ahead 32 now t < ahead 32 now c)
    (hcandidate : ∀ c ∈ deadlineCandidates w.packetManager w.dispatcher now,
      ahead 32 now t < ahead 32 now c)
    (hagc : w.dispatcher.nextAgcResetTime ≠ 0 ∨ FromNow ctx w fun h => h.agcResetInterval ≤ 0) :
    ¬Actionable ctx w t := by
  have hpassed : ∀ x ∈ w.waits, ahead 32 now t < ahead 32 now (x % 2 ^ 32) →
      ahead ctx.ulongBits x t < 0 := fun x hx => hasPassed_eq_false hnow ht hlater (hnear x hx)
  rintro (⟨he, hdue⟩ | ⟨he, hdue⟩ | ⟨hflight, hcome⟩ | ⟨hcome⟩ | ⟨hn, hinterval, hcome⟩ |
    ⟨hopen, hcome⟩)
  · rw [not_isDue_of_lt he hlater fun c hc =>
      hcandidate c (mem_deadlineCandidates_outbound hinit hc)] at hdue
    cases hdue
  · rw [not_isDue_of_lt he hlater fun c hc =>
      hcandidate c (mem_deadlineCandidates_inbound hinit hc)] at hdue
    cases hdue
  · have hbefore := hpassed w.dispatcher.outboundExpiry (by simp [World.waits, hflight])
      (hcandidate _ (by simp [deadlineCandidates, hflight]))
    exact absurd (of_decide_eq_true hcome) (by omega)
  · have hbefore := hpassed w.dispatcher.nextFloorCalibTime (by simp [World.waits])
      (hcandidate _ (by simp [deadlineCandidates]))
    exact absurd (of_decide_eq_true hcome) (by omega)
  · rcases hagc with hset | hnever
    · have hbefore := hpassed w.dispatcher.nextAgcResetTime (by simp [World.waits, hset])
        (hcandidate _ (by simp [deadlineCandidates, hset]))
      exact absurd (of_decide_eq_true hcome) (by omega)
    · exact absurd hinterval (not_lt.mpr (hnever _ hn))
  · have hmem := Correlation.mem_deadlines.mpr ⟨_, _, hopen, rfl⟩
    have hbefore := hpassed _ (List.mem_append_right _ hmem)
      (hexpiries _ (List.mem_map_of_mem hmem))
    exact absurd (of_decide_eq_true hcome) (by omega)

end

/-! ### The result -/

/-- A host that has its AGC reset every second. -/
def Ctx.resettingAgc : Ctx :=
  { Ctx.silent with hooks := fun _ => { Hooks.silent with agcResetInterval := 1000 } }

/-- One second before the clock wraps the AGC is reset, and the next time is 0. The timer is armed
for the noise floor, one second too late. -/
example :
    let w := runOps .resettingAgc .boot
      [.init, .timerFired 1, .timerFired 2147483648, .timerFired 4294966296]
    w.initialized = true ∧ w.timer = some (4294966296, some 1000) ∧
      w.WaitsNear .resettingAgc 4294966296 ∧
      hasPassed 32 4294966296 w.dispatcher.nextAgcResetTime = false ∧
      Actionable .resettingAgc w 1 ∧ 0 < ahead 32 4294966296 1 ∧
      ahead 32 4294966296 1 < ahead 32 4294966296 1000 ∧
      .radioAgcReset ∈ (Op.next .resettingAgc w (.timerFired 1)).events.drop w.events.length := by
  intro w
  have hwaits : w.waits = [1000] := by decide +kernel
  have hnear : w.WaitsNear .resettingAgc 4294966296 := by
    rw [World.WaitsNear, hwaits]
    decide
  exact ⟨by decide +kernel, by decide +kernel, hnear, by decide +kernel,
    .agcReset le_rfl (by decide) (by decide +kernel), by decide, by decide, by decide +kernel⟩

end Meshcore
