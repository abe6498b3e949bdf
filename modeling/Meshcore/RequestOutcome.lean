import Meshcore.Runtime

/-!
# What becomes of a request

A request that the library refuses, with a negative result, has changed nothing.

## Main definitions

* `Op.isRequest`, `Op.requestTag` — the requests, and the caller's variable for a tag
* `OnlyTimestamp` — a unique timestamp is drawn, for the tag

## Main results

* `refused_request_changes_nothing`
-/

namespace Meshcore

/-- The call is a request of the host. -/
def Op.isRequest : Op → Bool
  | .init | .deinit | .timerFired .. | .radioRxInject .. | .radioTxDone .. => false
  | _ => true

/-- What the caller's variable for a tag holds before the call, if there is one. -/
def Op.requestTag : Op → Option UInt32
  | .nodeDiscoverPathRequest _ requestTag | .nodeTraceRequest _ _ _ requestTag
  | .nodeTracePathRequest requestTag | .nodeTelemetryRequest _ _ requestTag
  | .nodeDiscoverRequest _ _ _ requestTag => requestTag
  | _ => none

/-! ### Refusals -/

/-- Only the unique timestamp and the position in the host's answers change. -/
def OnlyTimestamp (_ : Ctx) (w w' : World) : Prop :=
  w' = { w with rtcLastUnique := w'.rtcLastUnique, tick := w'.tick }

instance : Composes OnlyTimestamp where
  refl _ _ := rfl
  trans _ w w' w'' h h' := by
    rw [OnlyTimestamp] at *
    rw [h', h]

instance (priority := low) Moves.onlyTimestampOfAsks {α : Type} (m : M α) [hm : Moves Asks m] :
    Moves OnlyTimestamp m where
  moves ctx w := by
    rw [(hm.moves ctx w).1]
    rfl

instance (v : UInt32) : Moves OnlyTimestamp (setRtcLastUnique v) := ⟨fun _ _ => rfl⟩

instance (tag : UInt32) : Moves OnlyTimestamp (requestTagOf tag) := by
  unfold requestTagOf clockRtcGetCurrentTimeUnique; infer_instance

section

variable {ctx : Ctx} {w : World} {α : Type} {record : Option α}

/-- A request is executed when there is a free packet, and then it is accepted. -/
theorem requestExecuteNow_of_neg {execute : M Unit} (h : (requestExecuteNow execute ctx w).1 < 0) :
    (requestExecuteNow execute ctx w).2 = w := by
  revert h
  simp only [requestExecuteNow, whenReady, Prog.run_bind, Prog.run_gets, Prog.run_ite,
    Prog.run_pure]
  split
  · exact fun _ => rfl
  · split
    · exact fun _ => rfl
    · exact fun h => absurd h (lt_irrefl 0)

theorem request_of_neg {execute : α → M Unit}
    (h : (request record (fun r => requestExecuteNow (execute r)) ctx w).1 < 0) :
    (request record (fun r => requestExecuteNow (execute r)) ctx w).2 = w := by
  revert h
  simp only [request, whenReady, Prog.run_bind, Prog.run_gets, Prog.run_ite, Prog.run_pure]
  split
  · exact fun _ => rfl
  · cases record with
    | none => exact fun _ => rfl
    | some r => exact requestExecuteNow_of_neg

/-- The tag is drawn before the packets are counted, but the caller gets it only on success. -/
theorem requestWithTag_of_neg {requestTag : Option UInt32} {execute : α → UInt32 → M Unit}
    (h : (requestWithTag record requestTag execute ctx w).1.1 < 0) :
    (requestWithTag record requestTag execute ctx w).1.2 = requestTag ∧
      OnlyTimestamp ctx w (requestWithTag record requestTag execute ctx w).2 := by
  revert h
  simp only [requestWithTag, Prog.run_bind, Prog.run_gets, Prog.run_ite, Prog.run_pure]
  split
  · exact fun _ => ⟨rfl, rfl⟩
  · cases record with
    | none => exact fun _ => ⟨rfl, rfl⟩
    | some r =>
      simp only [Option.elim_some, Prog.run_bind, Prog.run_pure]
      intro h
      refine ⟨if_neg h.ne, ?_⟩
      rw [requestExecuteNow_of_neg h]
      exact Moves.moves ctx w

/-- **A refused request changes nothing.** When a request returns a negative code, the caller's
variable for the tag holds what it held before, and only the counter of unique timestamps may have
moved on: no buffer, no queue, no packet hash, no slot of the request correlation, no timer and no
event. -/
theorem refused_request_changes_nothing {op : Op} (hop : op.isRequest = true)
    (h : (op.run ctx w).1 < 0) :
    (op.call ctx w).1.2 = op.requestTag ∧ OnlyTimestamp ctx w (op.next ctx w) := by
  have hplain : ∀ {β : Type} {record : Option β} {execute : β → M Unit},
      (request record (fun r => requestExecuteNow (execute r)) ctx w).1 < 0 →
        OnlyTimestamp ctx w (request record (fun r => requestExecuteNow (execute r)) ctx w).2 := by
    intro β record execute h
    rw [request_of_neg h]
    rfl
  cases op with
  | init | deinit | timerFired | radioRxInject | radioTxDone => cases hop
  | nodeTracePathRequest => exact ⟨rfl, rfl⟩
  | nodeDiscoverPathRequest => exact requestWithTag_of_neg h
  | nodeTraceRequest => exact requestWithTag_of_neg h
  | nodeTelemetryRequest => exact requestWithTag_of_neg h
  | nodeDiscoverRequest => exact requestWithTag_of_neg h
  | _ => exact ⟨rfl, hplain h⟩

end

/-- Both buffers are queued: a third request is refused, and its tag variable stays 0. -/
theorem refused_request_changes_nothing_full :
    let control := Op.controlDataSend (some [0x80])
    let w := runOps .silent .boot [.init, control, control]
    let op := Op.nodeDiscoverRequest 1 false 0 (some 0)
    (op.run .silent w).1 = eNOBUFS ∧ (op.call .silent w).1.2 = some 0 ∧
      (op.next .silent w).packetManager.sendQueue.ids = w.packetManager.sendQueue.ids := by
  intro control w op
  have hrc : (op.run .silent w).1 = eNOBUFS := by decide +kernel
  obtain ⟨htag, hdraws⟩ := @refused_request_changes_nothing .silent w op rfl (by rw [hrc]; decide)
  exact ⟨hrc, htag, by rw [hdraws]⟩

end Meshcore
