import Meshcore.Dispatcher
import Meshcore.Request

/-!
# The runtime

`runtime/meshcore.c`: the entry points of the library. A radio or timer event sets the clock to the
time it was reported with, is processed, and leaves the host's timer armed for the next deadline; a
request does the same at the clock's time. The library is single-threaded and its callbacks do not
call back, so a run is a sequence of entry points, each run to its end.

## Main definitions

* `timerSync`
* `meshcoreInit`, `meshcoreTimerFired`, `meshcoreRadioRxInject`, `meshcoreRadioTxDone`, the requests
* `Op`, `Reachable` — runs of the library
-/

namespace Meshcore

/-! ### The timer -/

/-- `meshcore_runtime_next_deadline_get`. -/
def runtimeNextDeadlineGet (nowMs : ℕ) : M (Option ℕ) := do
  let c ← Prog.gets World.correlation
  let r := (c.nextDeadlineGet nowMs).elim (false, none) fun candidate =>
    deadlineAccumulate nowMs candidate none
  if r.1 then pure r.2
  else do
    let candidate ← dispatcherNextDeadlineGet nowMs
    pure (candidate.elim r.2 fun candidate => (deadlineAccumulate nowMs candidate r.2).2)

/-- The host's timer is armed or cancelled. -/
def setTimer (nowMs : ℕ) (deadline : Option ℕ) : M Unit := do
  emit (deadline.elim .timerCancel .timerArm)
  Prog.modify fun w => { w with timer := some (nowMs, deadline) }

/-- `meshcore_runtime_timer_sync`. -/
def timerSync (nowMs : ℕ) : M Unit := do
  let initialized ← Prog.gets World.initialized
  if !initialized then pure ()
  else do
    let deadline ← runtimeNextDeadlineGet nowMs
    setTimer nowMs deadline

/-- The synchronisation at the clock's time, in 32 bits. -/
def timerSyncNow : M Unit := do
  let now ← clockMillisGet
  timerSync (now % 2 ^ 32)

/-! ### Life cycle -/

/-- `meshcore_runtime_state_reset`. -/
def runtimeStateReset : M Unit :=
  Prog.modify fun w => { w with lastNowMs := 0, correlation := .zero, rtcLastUnique := 0 }

/-- `meshcore_mesh_init` and `meshcore_tables_init`: the mesh has no identity yet. -/
def meshInit : M Unit := do
  Prog.modify fun w => { w with tables := .init, selfId := ⟨Buf.zero _, Buf.zero _⟩ }
  mark .cleared
  dispatcherInit

/-- The second half of `meshcore_runtime_begin`. -/
def runtimeStart : M ℤ := do
  dispatcherBegin
  runtimeStateReset
  let rc ← syncLocalIdentity
  if rc ≠ 0 then pure rc
  else do
    Prog.modify fun w => { w with initialized := true }
    timerSyncNow
    pure 0

/-- `meshcore_runtime_begin`. -/
def runtimeBegin : M ℤ := do
  let ctx ← Prog.env
  modifyManager fun _ => PacketQueueManager.prepare ctx.maxPoolSize ctx.poolSize
  let manager ← Prog.gets World.packetManager
  if !manager.initialized then pure eNOMEM
  else do
    meshInit
    runtimeStart

/-- `meshcore_runtime_end`: every field zero. The host's timer is left as it is. -/
def runtimeEnd : M Unit := do
  Prog.modify fun w =>
    { World.boot with
      timer := w.timer, tick := w.tick, events := w.events, trace := w.trace,
      reissued := w.reissued, outside := w.outside }
  mark .cleared

/-- `meshcore_init`. -/
def meshcoreInit : M ℤ := do
  let initialized ← Prog.gets World.initialized
  if initialized then pure eALREADY
  else do
    runtimeEnd
    let rc ← runtimeBegin
    (if rc ≠ 0 then runtimeEnd else pure ())
    pure rc

/-- `meshcore_deinit`. -/
def meshcoreDeinit : M Unit := do
  let initialized ← Prog.gets World.initialized
  if !initialized then pure () else runtimeEnd

/-! ### Events from the host -/

/-- An entry point that is called with a time: the clock stands at that time while it runs, and at
its end the timer is synchronised. -/
def atTime {α : Type} (nowMs : UInt32) (body : M α) : M α := do
  clockMillisOverrideSet nowMs.toNat
  let a ← body
  clockMillisOverrideClear
  Prog.modify fun w => { w with lastNowMs := nowMs.toNat }
  timerSync nowMs.toNat
  pure a

/-- An entry point refuses to run before `meshcore_init`. -/
def whenReady (body : M ℤ) : M ℤ := do
  let initialized ← Prog.gets World.initialized
  if !initialized then pure eNODEV else body

/-- `meshcore_timer_fired`. -/
def meshcoreTimerFired (nowMs : UInt32) : M ℤ :=
  whenReady <| atTime nowMs do
    let ctx ← Prog.env
    modifyCorrelation (·.cleanup ctx.ulongBits nowMs.toNat)
    dispatcherLoop
    pure 0

/-- `meshcore_radio_rx_inject`. A frame that does not parse is no error of the host. -/
def meshcoreRadioRxInject (data : Option (List UInt8)) (rssiDbm : Int16) (snrQ4 : Int8)
    (nowMs : UInt32) : M ℤ :=
  whenReady <| data.elim (pure eINVAL) fun data =>
    if data.length = 0 ∨ data.length > maxTransUnitLen then pure eINVAL
    else atTime nowMs do
      let rc ← dispatcherReceiveRaw data rssiDbm snrQ4
      (if rc = 0 then dispatcherLoop else pure ())
      pure (if rc = eINVAL then 0 else rc)

/-- `meshcore_radio_tx_done`. -/
def meshcoreRadioTxDone (nowMs : UInt32) (success : Bool) : M ℤ :=
  whenReady <| atTime nowMs do
    let handled ← dispatcherTxDone success
    dispatcherLoop
    pure (if handled then 0 else eALREADY)

/-! ### Requests -/

/-- `meshcore_runtime_request_execute_now`: every request needs a free packet. -/
def requestExecuteNow (execute : M Unit) : M ℤ :=
  whenReady do
    let manager ← Prog.gets World.packetManager
    if manager.getFreeCount ≤ 0 then pure eNOBUFS
    else do
      execute
      timerSyncNow
      pure 0

/-- A public request: rejected arguments, or the execution of the record they make. -/
def request {α : Type} (record : Option α) (execute : α → M ℤ) : M ℤ :=
  whenReady (record.elim (pure eINVAL) execute)

/-- A request with a tag: the caller's, or a fresh one when the caller has none or it is 0. The
caller's variable for it is `none` for a null pointer; it is written when the request is
accepted. -/
def requestWithTag {α : Type} (record : Option α) (requestTag : Option UInt32)
    (execute : α → UInt32 → M Unit) : M (ℤ × Option UInt32) := do
  let initialized ← Prog.gets World.initialized
  if !initialized then pure (eNODEV, requestTag)
  else
    record.elim (pure (eINVAL, requestTag)) fun r => do
      let tag ← requestTagOf (requestTag.getD 0)
      let rc ← requestExecuteNow (execute r tag)
      pure (rc, if rc = 0 then requestTag.map fun _ => tag else requestTag)

/-- `meshcore_node_advert_request`. -/
def meshcoreNodeAdvertRequest (flood : Bool) : M ℤ :=
  request (some flood) fun flood => requestExecuteNow (executeNodeAdvert flood)

/-- `meshcore_node_peer_advert_request`. -/
def meshcoreNodePeerAdvertRequest (rawAdvert : Option (List UInt8)) : M ℤ :=
  request (validateNodePeerAdvert rawAdvert) fun raw =>
    requestExecuteNow (executeNodePeerAdvert raw)

/-- `meshcore_message_send_to_node`. -/
def meshcoreMessageSendToNode (publicKey : Option (Buf publicKeySize)) (flood : Bool)
    (attempt : UInt8) (payload : Option (List UInt8)) : M ℤ :=
  request (validateMessageSendToNode publicKey flood attempt payload) fun r =>
    requestExecuteNow (executeMessageSendToNode r)

/-- `meshcore_message_send_to_channel`. -/
def meshcoreMessageSendToChannel (secret payload : Option (List UInt8)) : M ℤ :=
  request (validateMessageSendToChannel secret payload) fun r =>
    requestExecuteNow (executeMessageSendToChannel r)

/-- `meshcore_channel_data_send`. -/
def meshcoreChannelDataSend (secret path : Option (List UInt8)) (pathLen : UInt8)
    (dataType : UInt16) (payload : Option (List UInt8)) : M ℤ :=
  request (validateChannelData secret path pathLen dataType payload) fun r =>
    requestExecuteNow (executeChannelData r)

/-- `meshcore_node_discover_path_request`. -/
def meshcoreNodeDiscoverPathRequest (publicKey : Option (Buf publicKeySize))
    (requestTag : Option UInt32) : M (ℤ × Option UInt32) :=
  requestWithTag publicKey requestTag executeNodeDiscoverPath

/-- `meshcore_node_trace_request`. -/
def meshcoreNodeTraceRequest (path : Option (List UInt8)) (pathLen pathHashSize : UInt8)
    (requestTag : Option UInt32) : M (ℤ × Option UInt32) :=
  requestWithTag (validateNodeTrace path pathLen pathHashSize) requestTag executeNodeTracePath

/-- `meshcore_node_trace_path_request`. -/
def meshcoreNodeTracePathRequest (requestTag : Option UInt32) : M (ℤ × Option UInt32) :=
  pure (eNOTSUP, requestTag)

/-- `meshcore_node_telemetry_request`. -/
def meshcoreNodeTelemetryRequest (publicKey : Option (Buf publicKeySize))
    (permissionMask : UInt8) (requestTag : Option UInt32) : M (ℤ × Option UInt32) :=
  requestWithTag (validateNodeTelemetry publicKey permissionMask) requestTag executeNodeTelemetry

/-- `meshcore_node_binary_request_with_tag`; `meshcore_node_binary_request` is the tag 0. -/
def meshcoreNodeBinaryRequestWithTag (publicKey : Option (Buf publicKeySize))
    (payload : Option (List UInt8)) (tag : UInt32) : M ℤ :=
  request (validateNodeBinary publicKey payload) fun r =>
    requestExecuteNow (executeNodeBinary r tag)

/-- `meshcore_node_anon_data_send`. -/
def meshcoreNodeAnonDataSend (publicKey : Option (Buf publicKeySize))
    (payload : Option (List UInt8)) : M ℤ :=
  request (validateNodeAnonData publicKey payload) fun r =>
    requestExecuteNow (executeNodeAnonData r)

/-- `meshcore_node_binary_response`. -/
def meshcoreNodeBinaryResponse (event : Option BinaryRequestEvent)
    (payload : Option (List UInt8)) : M ℤ :=
  request (validateNodeBinaryResponse event payload) fun r =>
    requestExecuteNow (executeNodeBinaryResponse r)

/-- `meshcore_node_discover_request`. -/
def meshcoreNodeDiscoverRequest (filter : UInt8) (prefixOnly : Bool) (since : UInt32)
    (requestTag : Option UInt32) : M (ℤ × Option UInt32) :=
  requestWithTag (if filter = 0 then none else some filter) requestTag fun filter tag =>
    executeNodeDiscover filter prefixOnly since tag

/-- `meshcore_raw_data_send`. -/
def meshcoreRawDataSend (path : Option (List UInt8)) (pathLen : UInt8)
    (payload : Option (List UInt8)) : M ℤ :=
  request (validateRawData path pathLen payload) fun r => requestExecuteNow (executeRawData r)

/-- `meshcore_control_data_send`. -/
def meshcoreControlDataSend (payload : Option (List UInt8)) : M ℤ :=
  request (validateControlData payload) fun payload =>
    requestExecuteNow (executeControlData payload)

/-! ### Runs -/

/-- The calls of the library. -/
inductive Op where
  | init
  | deinit
  | timerFired (nowMs : UInt32)
  | radioRxInject (data : Option (List UInt8)) (rssiDbm : Int16) (snrQ4 : Int8) (nowMs : UInt32)
  | radioTxDone (nowMs : UInt32) (success : Bool)
  | nodeAdvertRequest (flood : Bool)
  | nodePeerAdvertRequest (rawAdvert : Option (List UInt8))
  | messageSendToNode (publicKey : Option (Buf publicKeySize)) (flood : Bool) (attempt : UInt8)
      (payload : Option (List UInt8))
  | messageSendToChannel (secret payload : Option (List UInt8))
  | channelDataSend (secret path : Option (List UInt8)) (pathLen : UInt8) (dataType : UInt16)
      (payload : Option (List UInt8))
  | nodeDiscoverPathRequest (publicKey : Option (Buf publicKeySize)) (requestTag : Option UInt32)
  | nodeTraceRequest (path : Option (List UInt8)) (pathLen pathHashSize : UInt8)
      (requestTag : Option UInt32)
  | nodeTracePathRequest (requestTag : Option UInt32)
  | nodeTelemetryRequest (publicKey : Option (Buf publicKeySize)) (permissionMask : UInt8)
      (requestTag : Option UInt32)
  | nodeBinaryRequestWithTag (publicKey : Option (Buf publicKeySize))
      (payload : Option (List UInt8)) (tag : UInt32)
  | nodeAnonDataSend (publicKey : Option (Buf publicKeySize)) (payload : Option (List UInt8))
  | nodeBinaryResponse (event : Option BinaryRequestEvent) (payload : Option (List UInt8))
  | nodeDiscoverRequest (filter : UInt8) (prefixOnly : Bool) (since : UInt32)
      (requestTag : Option UInt32)
  | rawDataSend (path : Option (List UInt8)) (pathLen : UInt8) (payload : Option (List UInt8))
  | controlDataSend (payload : Option (List UInt8))

/-- What a call does: its result, and what the caller's variable for a tag holds afterwards, if
there is one. -/
def Op.call : Op → M (ℤ × Option UInt32)
  | .init => (·, none) <$> meshcoreInit
  | .deinit => (fun _ => (0, none)) <$> meshcoreDeinit
  | .timerFired nowMs => (·, none) <$> meshcoreTimerFired nowMs
  | .radioRxInject data rssiDbm snrQ4 nowMs =>
    (·, none) <$> meshcoreRadioRxInject data rssiDbm snrQ4 nowMs
  | .radioTxDone nowMs success => (·, none) <$> meshcoreRadioTxDone nowMs success
  | .nodeAdvertRequest flood => (·, none) <$> meshcoreNodeAdvertRequest flood
  | .nodePeerAdvertRequest rawAdvert => (·, none) <$> meshcoreNodePeerAdvertRequest rawAdvert
  | .messageSendToNode publicKey flood attempt payload =>
    (·, none) <$> meshcoreMessageSendToNode publicKey flood attempt payload
  | .messageSendToChannel secret payload =>
    (·, none) <$> meshcoreMessageSendToChannel secret payload
  | .channelDataSend secret path pathLen dataType payload =>
    (·, none) <$> meshcoreChannelDataSend secret path pathLen dataType payload
  | .nodeDiscoverPathRequest publicKey requestTag =>
    meshcoreNodeDiscoverPathRequest publicKey requestTag
  | .nodeTraceRequest path pathLen pathHashSize requestTag =>
    meshcoreNodeTraceRequest path pathLen pathHashSize requestTag
  | .nodeTracePathRequest requestTag => meshcoreNodeTracePathRequest requestTag
  | .nodeTelemetryRequest publicKey permissionMask requestTag =>
    meshcoreNodeTelemetryRequest publicKey permissionMask requestTag
  | .nodeBinaryRequestWithTag publicKey payload tag =>
    (·, none) <$> meshcoreNodeBinaryRequestWithTag publicKey payload tag
  | .nodeAnonDataSend publicKey payload => (·, none) <$> meshcoreNodeAnonDataSend publicKey payload
  | .nodeBinaryResponse event payload => (·, none) <$> meshcoreNodeBinaryResponse event payload
  | .nodeDiscoverRequest filter prefixOnly since requestTag =>
    meshcoreNodeDiscoverRequest filter prefixOnly since requestTag
  | .rawDataSend path pathLen payload => (·, none) <$> meshcoreRawDataSend path pathLen payload
  | .controlDataSend payload => (·, none) <$> meshcoreControlDataSend payload

/-- The time that a call is made with. -/
def Op.time : Op → Option ℕ
  | .timerFired now | .radioRxInject _ _ _ now | .radioTxDone now _ => some now.toNat
  | _ => none

/-- The result of a call. -/
def Op.run (op : Op) : M ℤ := Prod.fst <$> op.call

/-- The state after a call. -/
def Op.next (ctx : Ctx) (w : World) (op : Op) : World := (op.run ctx w).2

/-- The state after a sequence of calls. -/
def runOps (ctx : Ctx) (w : World) (ops : List Op) : World := ops.foldl (Op.next ctx) w

/-- The states of the runs from program start. -/
def Reachable (ctx : Ctx) (w : World) : Prop := ∃ ops, runOps ctx .boot ops = w

/-- A call leads from a state of a run to another. -/
theorem Reachable.next {ctx : Ctx} {w : World} (h : Reachable ctx w) (op : Op) :
    Reachable ctx (op.next ctx w) := by
  obtain ⟨ops, rfl⟩ := h
  exact ⟨ops ++ [op], by rw [runOps, List.foldl_append]; rfl⟩

/-- What holds at program start and is kept by every call holds in every reachable state. -/
theorem Reachable.induct {ctx : Ctx} {P : World → Prop} (hboot : P .boot)
    (hnext : ∀ w (op : Op), Reachable ctx w → P w → P (op.next ctx w)) {w : World}
    (h : Reachable ctx w) : P w := by
  obtain ⟨ops, rfl⟩ := h
  induction ops using List.reverseRecOn with
  | nil => exact hboot
  | append_singleton ops op ih =>
    rw [runOps, List.foldl_append]
    exact hnext _ op ⟨ops, rfl⟩ ih

/-! ### The shape of a request -/

/-- A request stops after some effects, or ends with the synchronisation of the timer. It hands
over no payload. -/
class Requests {α : Type} (m : M α) : Prop where
  requests : ∀ ctx w, ∃ w', Steps (fun _ => False) ctx ([], w) ([], w') ∧
    ((m ctx w).2 = w' ∨ (m ctx w).2 = (timerSyncNow ctx w').2)

namespace Requests

variable {α β : Type}

instance ofPure (b : β) : Requests (pure b : M β) := ⟨fun _ w => ⟨w, .refl, .inl rfl⟩⟩

instance bind (m : M α) (f : α → M β) [hm : Moves Quiet m] [hf : ∀ a, Requests (f a)] :
    Requests (m >>= f) where
  requests ctx w := by
    obtain ⟨w', hs, h⟩ := (hf (m ctx w).1).requests ctx (m ctx w).2
    exact ⟨w', .head (.quiet (hm.moves ctx w)) hs, h⟩

/-- What is made of the result changes nothing. -/
instance (priority := low) map (m : M α) (f : α → β) [hm : Requests m] : Requests (f <$> m) where
  requests := hm.requests

instance (priority := low) bindPure (m : M α) (f : α → β) [hm : Requests m] :
    Requests (m >>= fun a => pure (f a)) where
  requests := hm.requests

instance elim (o : Option α) (n : M β) (f : α → M β) [hn : Requests n]
    [hf : ∀ a, Requests (f a)] : Requests (o.elim n f) := by
  cases o with
  | none => exact hn
  | some a => exact hf a

instance ite (c : Prop) [Decidable c] (m n : M β) [hm : Requests m] [hn : Requests n] :
    Requests (if c then m else n) := by
  split
  · exact hm
  · exact hn

instance execute (m : M Unit) [hm : Uses (Steps fun _ => False) [] m fun _ => []] :
    Requests (do
      m
      timerSyncNow
      pure 0 : M ℤ) where
  requests ctx w := ⟨(m ctx w).2, by simpa using hm.uses ctx w [], .inr rfl⟩

end Requests

instance (body : M ℤ) [Requests body] : Requests (whenReady body) := by
  unfold whenReady; infer_instance

instance (m : M Unit) [Uses (Steps fun _ => False) [] m fun _ => []] :
    Requests (requestExecuteNow m) := by
  unfold requestExecuteNow; infer_instance

instance {α : Type} (record : Option α) (execute : α → M ℤ) [∀ a, Requests (execute a)] :
    Requests (request record execute) := by
  unfold request; infer_instance

instance {α : Type} (record : Option α) (requestTag : Option UInt32)
    (execute : α → UInt32 → M Unit)
    [∀ a tag, Uses (Steps fun _ => False) [] (execute a tag) fun _ => []] :
    Requests (requestWithTag record requestTag execute) := by
  unfold requestWithTag; infer_instance

instance (flood : Bool) : Requests (meshcoreNodeAdvertRequest flood) := by
  unfold meshcoreNodeAdvertRequest; infer_instance

instance (raw : Option (List UInt8)) : Requests (meshcoreNodePeerAdvertRequest raw) := by
  unfold meshcoreNodePeerAdvertRequest; infer_instance

instance (key : Option (Buf publicKeySize)) (flood : Bool) (attempt : UInt8)
    (payload : Option (List UInt8)) :
    Requests (meshcoreMessageSendToNode key flood attempt payload) := by
  unfold meshcoreMessageSendToNode; infer_instance

instance (secret payload : Option (List UInt8)) :
    Requests (meshcoreMessageSendToChannel secret payload) := by
  unfold meshcoreMessageSendToChannel; infer_instance

instance (secret path : Option (List UInt8)) (pathLen : UInt8) (dataType : UInt16)
    (payload : Option (List UInt8)) :
    Requests (meshcoreChannelDataSend secret path pathLen dataType payload) := by
  unfold meshcoreChannelDataSend; infer_instance

instance (key : Option (Buf publicKeySize)) (tag : Option UInt32) :
    Requests (meshcoreNodeDiscoverPathRequest key tag) := by
  unfold meshcoreNodeDiscoverPathRequest; infer_instance

instance (path : Option (List UInt8)) (pathLen hashSize : UInt8) (tag : Option UInt32) :
    Requests (meshcoreNodeTraceRequest path pathLen hashSize tag) := by
  unfold meshcoreNodeTraceRequest; infer_instance

instance (tag : Option UInt32) : Requests (meshcoreNodeTracePathRequest tag) := by
  unfold meshcoreNodeTracePathRequest; infer_instance

instance (key : Option (Buf publicKeySize)) (mask : UInt8) (tag : Option UInt32) :
    Requests (meshcoreNodeTelemetryRequest key mask tag) := by
  unfold meshcoreNodeTelemetryRequest; infer_instance

instance (key : Option (Buf publicKeySize)) (payload : Option (List UInt8)) (tag : UInt32) :
    Requests (meshcoreNodeBinaryRequestWithTag key payload tag) := by
  unfold meshcoreNodeBinaryRequestWithTag; infer_instance

instance (key : Option (Buf publicKeySize)) (payload : Option (List UInt8)) :
    Requests (meshcoreNodeAnonDataSend key payload) := by
  unfold meshcoreNodeAnonDataSend; infer_instance

instance (event : Option BinaryRequestEvent) (payload : Option (List UInt8)) :
    Requests (meshcoreNodeBinaryResponse event payload) := by
  unfold meshcoreNodeBinaryResponse; infer_instance

instance (filter : UInt8) (prefixOnly : Bool) (since : UInt32) (tag : Option UInt32) :
    Requests (meshcoreNodeDiscoverRequest filter prefixOnly since tag) := by
  unfold meshcoreNodeDiscoverRequest; infer_instance

instance (path : Option (List UInt8)) (pathLen : UInt8) (payload : Option (List UInt8)) :
    Requests (meshcoreRawDataSend path pathLen payload) := by
  unfold meshcoreRawDataSend; infer_instance

instance (payload : Option (List UInt8)) : Requests (meshcoreControlDataSend payload) := by
  unfold meshcoreControlDataSend; infer_instance

/-- A call begins or ends a life of the library, is an event, or is a request. -/
theorem Op.cases_request (op : Op) :
    op = .init ∨ op = .deinit ∨ (∃ now, op = .timerFired now) ∨
      (∃ data rssi snr now, op = .radioRxInject data rssi snr now) ∨
      (∃ now success, op = .radioTxDone now success) ∨ Requests op.run := by
  cases op with
  | init => exact .inl rfl
  | deinit => exact .inr (.inl rfl)
  | timerFired now => exact .inr (.inr (.inl ⟨now, rfl⟩))
  | radioRxInject data rssi snr now => exact .inr (.inr (.inr (.inl ⟨_, _, _, _, rfl⟩)))
  | radioTxDone now success => exact .inr (.inr (.inr (.inr (.inl ⟨_, _, rfl⟩))))
  | _ => exact .inr (.inr (.inr (.inr (.inr (by unfold Op.run Op.call; infer_instance)))))

/-- `meshcore_init` does nothing when the library is initialised. -/
theorem Op.next_init {ctx : Ctx} {w : World} (hw : w.initialized = true) :
    Op.next ctx w .init = w := by
  simp [Op.next, Op.run, Op.call, meshcoreInit, hw]

theorem Op.next_deinit {ctx : Ctx} {w : World} (hw : w.initialized = true) :
    Op.next ctx w .deinit = (runtimeEnd ctx w).2 := by
  simp [Op.next, Op.run, Op.call, meshcoreDeinit, hw]

/-- Before `meshcore_init` the other calls do nothing. -/
theorem Op.next_of_not_initialized {ctx : Ctx} {w : World} (hw : w.initialized = false) (op : Op)
    (hinit : op ≠ .init) : op.next ctx w = w := by
  have hready : ∀ body : M ℤ, (whenReady body ctx w).2 = w := by
    intro body
    simp [whenReady, hw]
  have htag : ∀ {α : Type} (record : Option α) (requestTag : Option UInt32)
      (execute : α → UInt32 → M Unit), (requestWithTag record requestTag execute ctx w).2 = w := by
    intro α record requestTag execute
    simp [requestWithTag, hw]
  cases op with
  | init => exact absurd rfl hinit
  | deinit => simp [Op.next, Op.run, Op.call, meshcoreDeinit, hw]
  | nodeTracePathRequest => rfl
  | nodeDiscoverPathRequest => exact htag ..
  | nodeTraceRequest => exact htag ..
  | nodeTelemetryRequest => exact htag ..
  | nodeDiscoverRequest => exact htag ..
  | _ => exact hready _

end Meshcore
