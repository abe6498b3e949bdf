import Meshcore.Policy

/-!
# Request correlation

`runtime/meshcore_runtime_pending.c`: what the runtime waits for. A ring of eight expected
acknowledgements and four single slots, each with the time it expires at, and the search for the
earliest of these times.

The source walks the candidates of a deadline one by one and stops at the first that is due; the
two copies of the step, the runtime's and the dispatcher's, are `deadlineAccumulate`.

## Main definitions

* `timeReached`, `deadlineAccumulate`, `accumulateAll`
* `Correlation.cleanup`, `Correlation.nextDeadlineGet`
* `expectedAckRegister`, `expectedAckHandle`
* `pendingDiscoveryHandle`, `pendingTraceHandle`, `pendingTelemetryHandle`, `pendingBinaryHandle`
-/

namespace Meshcore

/-! ### Deadlines -/

/-- `meshcore_runtime_time_reached`, for an `unsigned long` of `w` bits. -/
def timeReached (w nowMs expiresAtMs : ℕ) : Bool := decide (0 ≤ ahead w expiresAtMs nowMs)

/-- `meshcore_runtime_deadline_accumulate` and `meshcore_dispatcher_deadline_accumulate`: whether
the candidate is due, and the earliest deadline so far, if there is one. -/
def deadlineAccumulate (now candidate : ℕ) (deadline : Option ℕ) : Bool × Option ℕ :=
  if ahead 32 now candidate ≤ 0 then (true, some now)
  else
    (false, some (deadline.elim candidate fun d =>
      if ahead 32 d candidate < 0 then candidate else d))

/-- Accumulate candidates until one is due. -/
def accumulateAll (now : ℕ) : List ℕ → Option ℕ → Bool × Option ℕ
  | [], deadline => (false, deadline)
  | c :: cs, deadline =>
    let r := deadlineAccumulate now c deadline
    if r.1 then r else accumulateAll now cs r.2

abbrev runtimeRequestTimeoutMs : ℕ := 10000

namespace ExpectedAck

/-- One turn of `meshcore_runtime_expected_ack_cleanup`. -/
def cleanup (w nowMs : ℕ) (entry : ExpectedAck) : ExpectedAck :=
  if entry.valid ∧ timeReached w nowMs entry.expiresAtMs then .zero else entry

/-- The loop of `meshcore_runtime_expected_ack_handle`: expired entries are cleared on the way, and
the first entry with the code is cleared and reported. -/
def handle (w nowMs : ℕ) (ackCrc : UInt32) :
    List ExpectedAck → List ExpectedAck × Option (List UInt8 × UInt8)
  | [] => ([], none)
  | entry :: entries =>
    if !entry.valid then
      let r := handle w nowMs ackCrc entries
      (entry :: r.1, r.2)
    else if timeReached w nowMs entry.expiresAtMs then
      let r := handle w nowMs ackCrc entries
      (.zero :: r.1, r.2)
    else if entry.ackCrc ≠ ackCrc then
      let r := handle w nowMs ackCrc entries
      (entry :: r.1, r.2)
    else (.zero :: entries, some (entry.target, entry.attempt))

theorem length_handle (w nowMs : ℕ) (ackCrc : UInt32) (entries : List ExpectedAck) :
    (handle w nowMs ackCrc entries).1.length = entries.length := by
  induction entries with
  | nil => rfl
  | cons entry entries ih =>
    rw [handle]
    split
    · simpa using ih
    · split
      · simpa using ih
      · split
        · simpa using ih
        · rfl

end ExpectedAck

/-- One of the four single-slot clean-ups of `meshcore_runtime_correlation_cleanup`. -/
def Pending.cleanup (w nowMs : ℕ) (pending : Pending) : Pending :=
  if pending.valid ∧ timeReached w nowMs pending.expiresAtMs then .zero else pending

namespace Correlation

/-- `meshcore_runtime_correlation_cleanup`. -/
def cleanup (w nowMs : ℕ) (c : Correlation) : Correlation where
  expectedAcks := c.expectedAcks.map (ExpectedAck.cleanup w nowMs)
  expectedAckNext := c.expectedAckNext
  pendingDiscovery := c.pendingDiscovery.cleanup w nowMs
  pendingTrace := c.pendingTrace.cleanup w nowMs
  pendingTelemetry := c.pendingTelemetry.cleanup w nowMs
  pendingBinary := c.pendingBinary.cleanup w nowMs
  length_expectedAcks := by rw [List.length_map, c.length_expectedAcks]
  expectedAckNext_lt := c.expectedAckNext_lt

/-- The expiry times of the valid entries, in the order of
`meshcore_runtime_correlation_next_deadline_get`. -/
def deadlines (c : Correlation) : List ℕ :=
  (c.expectedAcks.filter (·.valid)).map (·.expiresAtMs) ++
    ([c.pendingDiscovery, c.pendingTrace, c.pendingTelemetry, c.pendingBinary].filter (·.valid)).map
      (·.expiresAtMs)

/-- `meshcore_runtime_correlation_next_deadline_get`. -/
def nextDeadlineGet (c : Correlation) (nowMs : ℕ) : Option ℕ :=
  (accumulateAll nowMs (c.deadlines.map (· % 2 ^ 32)) none).2

/-- The slot that `meshcore_runtime_expected_ack_register` takes: from the next one on, the first
that is free or expired, or else the next one. -/
def registerSlot (c : Correlation) (w nowMs : ℕ) : ℕ :=
  let idx i := (c.expectedAckNext + i) % expectedAckTableSize
  let isFree i :=
    let entry := c.expectedAcks.getD (idx i) .zero
    !entry.valid || timeReached w nowMs entry.expiresAtMs
  ((List.range expectedAckTableSize).find? isFree).elim c.expectedAckNext idx

/-- `meshcore_runtime_expected_ack_register`, after its clock reading. -/
def expectedAckRegister (c : Correlation) (w nowMs : ℕ) (ackCrc : UInt32) (target : List UInt8)
    (attempt : UInt8) : Correlation :=
  let slotIdx := c.registerSlot w nowMs
  { c with
    expectedAcks := c.expectedAcks.set slotIdx
      { valid := true, msgSentMs := nowMs, ackCrc, target, attempt
        expiresAtMs := (nowMs + runtimeRequestTimeoutMs) % 2 ^ w }
    expectedAckNext := (slotIdx + 1) % expectedAckTableSize
    length_expectedAcks := by rw [List.length_set, c.length_expectedAcks]
    expectedAckNext_lt := Nat.mod_lt _ (by decide) }

/-- `meshcore_runtime_expected_ack_handle`, without its clock reading and its event. -/
def expectedAckHandle (c : Correlation) (w nowMs : ℕ) (ackCrc : UInt32) : Correlation :=
  { c with
    expectedAcks := (ExpectedAck.handle w nowMs ackCrc c.expectedAcks).1
    length_expectedAcks := by rw [ExpectedAck.length_handle, c.length_expectedAcks] }

end Correlation

/-- The first bytes of a public key, by which the host knows a peer. -/
def keyPrefixOf (publicKey : Buf publicKeySize) : List UInt8 := publicKey.slice 0 nodeKeyPrefixBytes

/-! ### Expected acknowledgements -/

/-- `meshcore_runtime_expected_ack_register`. -/
def expectedAckRegister (ackCrc : UInt32) (target : List UInt8) (attempt : UInt8) : M Unit := do
  let nowMs ← clockMillisGet
  let ctx ← Prog.env
  if ackCrc = 0 then pure ()
  else
    modifyCorrelation (·.expectedAckRegister ctx.ulongBits nowMs ackCrc target attempt)

/-- `meshcore_runtime_expected_ack_handle`. -/
def expectedAckHandle (ackCrc : UInt32) : M Bool := do
  let nowMs ← clockMillisGet
  let ctx ← Prog.env
  let c ← Prog.gets World.correlation
  modifyCorrelation (·.expectedAckHandle ctx.ulongBits nowMs ackCrc)
  (ExpectedAck.handle ctx.ulongBits nowMs ackCrc c.expectedAcks).2.elim (pure false) fun found => do
    emit (.messageAck found.1 found.2)
    pure true

/-! ### The single slots -/

/-- A slot that was just registered. -/
def pendingRegister (tag : UInt32) (keyPrefix : List UInt8) (permissionMask : UInt8) :
    M Pending := do
  let nowMs ← clockMillisGet
  let ctx ← Prog.env
  pure
    { valid := true, tag, keyPrefix, permissionMask
      expiresAtMs := (nowMs + runtimeRequestTimeoutMs) % 2 ^ ctx.ulongBits }

/-- `meshcore_runtime_pending_discovery_register`. -/
def pendingDiscoveryRegister (tag : UInt32) (publicKey : Buf publicKeySize) : M Unit := do
  let pending ← pendingRegister tag (keyPrefixOf publicKey) 0
  modifyCorrelation fun c => { c with pendingDiscovery := pending }

/-- `meshcore_runtime_pending_trace_register`. -/
def pendingTraceRegister (tag : UInt32) : M Unit := do
  let pending ← pendingRegister tag [] 0
  modifyCorrelation fun c => { c with pendingTrace := pending }

/-- `meshcore_runtime_pending_telemetry_register`. -/
def pendingTelemetryRegister (tag : UInt32) (publicKey : Buf publicKeySize)
    (permissionMask : UInt8) : M Unit := do
  let pending ← pendingRegister tag (keyPrefixOf publicKey) permissionMask
  modifyCorrelation fun c => { c with pendingTelemetry := pending }

/-- `meshcore_runtime_pending_binary_register`. -/
def pendingBinaryRegister (tag : UInt32) (publicKey : Buf publicKeySize) : M Unit := do
  let pending ← pendingRegister tag (keyPrefixOf publicKey) 0
  modifyCorrelation fun c => { c with pendingBinary := pending }

/-- The 32-bit word at the start of `bytes`. -/
def wordAt (bytes : List UInt8) : UInt32 := UInt32.ofNat (leNat (bytes.take 4))

/-- `meshcore_runtime_pending_discovery_handle`. -/
def pendingDiscoveryHandle (publicKey : Buf publicKeySize) (packet : Packet) (path : List UInt8)
    (pathLenField extraType : UInt8) (extra : List UInt8) : M Bool := do
  let c ← Prog.gets World.correlation
  let pending := c.pendingDiscovery
  if !pending.valid ∨ extraType ≠ payloadTypeResponse ∨
    pending.keyPrefix ≠ keyPrefixOf publicKey then
    pure false
  else
    (pathLenDecode pathLenField).elim (pure false) fun decoded =>
      if extra.length < 4 then pure false
      else if pending.tag ≠ wordAt extra then pure false
      else do
        let timestamp ← timestampNowSeconds
        emit <| .peerPathPublish
          { tag := pending.tag
            keyPrefix := keyPrefixOf publicKey
            timestamp
            lastSeenSnr := packet.snrQ4
            pathHashSize := decoded.2
            outPath := path.take decoded.1
            outPathSnr := []
            returnPathSnr := [] } true
        modifyCorrelation fun c => { c with pendingDiscovery := .zero }
        pure true

/-- `meshcore_runtime_pending_trace_handle`. A reply with the right tag and the wrong shape ends
the wait too. -/
def pendingTraceHandle (tag : UInt32) (flags : UInt8) (pathSnrs : Buf maxPathLen)
    (pathSnrCount pathHashBytes : UInt8) (responseSnr : Int8) : M Bool := do
  let c ← Prog.gets World.correlation
  let hashSize : UInt8 := 1 <<< (flags &&& 3)
  let hashCount := pathHashBytes / hashSize
  if !c.pendingTrace.valid ∨ c.pendingTrace.tag ≠ tag then pure false
  else if hashSize = 0 ∨ hashSize = 4 ∨ pathHashBytes = 0 ∨ pathHashBytes % hashSize ≠ 0 then do
    modifyCorrelation fun c => { c with pendingTrace := .zero }
    pure false
  else if pathSnrCount ≠ hashCount ∨ hashCount % 2 = 0 then do
    modifyCorrelation fun c => { c with pendingTrace := .zero }
    pure false
  else do
    let forwardHops := ((hashCount - 1) / 2).toNat
    let outPathSnr :=
      appendSnrWithTrunc (pathSnrs.slice 0 forwardHops) (pathSnrs.get forwardHops).toInt8
    let returnPathSnr :=
      appendSnrWithTrunc (pathSnrs.slice (forwardHops + 1) forwardHops) responseSnr
    let timestamp ← timestampNowSeconds
    emit (.tracePath 1 tag outPathSnr returnPathSnr responseSnr timestamp)
    modifyCorrelation fun c => { c with pendingTrace := .zero }
    pure true

/-- Whether a response with `payload` answers the request a slot remembers. -/
def Pending.isAnswered (pending : Pending) (publicKey : Buf publicKeySize)
    (payload : List UInt8) : Bool :=
  pending.valid && decide (4 ≤ payload.length) && pending.tag == wordAt payload &&
    pending.keyPrefix == keyPrefixOf publicKey

/-- `meshcore_runtime_pending_telemetry_handle`. -/
def pendingTelemetryHandle (publicKey : Buf publicKeySize) (timestamp : UInt32)
    (payload : List UInt8) : M Bool := do
  let c ← Prog.gets World.correlation
  if !c.pendingTelemetry.isAnswered publicKey payload then pure false
  else do
    emit (.telemetry (keyPrefixOf publicKey) timestamp (wordAt payload) (payload.drop 4))
    modifyCorrelation fun c => { c with pendingTelemetry := .zero }
    pure true

/-- `meshcore_runtime_pending_binary_handle`. -/
def pendingBinaryHandle (publicKey : Buf publicKeySize) (timestamp : UInt32)
    (payload : List UInt8) : M Bool := do
  let c ← Prog.gets World.correlation
  if !c.pendingBinary.isAnswered publicKey payload then pure false
  else do
    emit (.binaryResponse (keyPrefixOf publicKey) timestamp (wordAt payload) (payload.drop 4))
    modifyCorrelation fun c => { c with pendingBinary := .zero }
    pure true

instance (ackCrc : UInt32) (target : List UInt8) (attempt : UInt8) :
    Moves Quiet (expectedAckRegister ackCrc target attempt) := by
  unfold expectedAckRegister; infer_instance

instance (ackCrc : UInt32) : Moves Quiet (expectedAckHandle ackCrc) := by
  unfold expectedAckHandle; infer_instance

instance (tag : UInt32) (p : List UInt8) (mask : UInt8) :
    Moves Asks (pendingRegister tag p mask) := by
  unfold pendingRegister; infer_instance

instance (tag : UInt32) (key : Buf publicKeySize) :
    Moves Quiet (pendingDiscoveryRegister tag key) := by
  unfold pendingDiscoveryRegister; infer_instance

instance (tag : UInt32) : Moves Quiet (pendingTraceRegister tag) := by
  unfold pendingTraceRegister; infer_instance

instance (tag : UInt32) (key : Buf publicKeySize) (mask : UInt8) :
    Moves Quiet (pendingTelemetryRegister tag key mask) := by
  unfold pendingTelemetryRegister; infer_instance

instance (tag : UInt32) (key : Buf publicKeySize) :
    Moves Quiet (pendingBinaryRegister tag key) := by
  unfold pendingBinaryRegister; infer_instance

instance (key : Buf publicKeySize) (packet : Packet) (path : List UInt8) (pl et : UInt8)
    (extra : List UInt8) : Moves Quiet (pendingDiscoveryHandle key packet path pl et extra) := by
  unfold pendingDiscoveryHandle; infer_instance

instance (tag : UInt32) (flags : UInt8) (snrs : Buf maxPathLen) (n bytes : UInt8) (snr : Int8) :
    Moves Quiet (pendingTraceHandle tag flags snrs n bytes snr) := by
  unfold pendingTraceHandle; infer_instance

instance (key : Buf publicKeySize) (timestamp : UInt32) (payload : List UInt8) :
    Moves Quiet (pendingTelemetryHandle key timestamp payload) := by
  unfold pendingTelemetryHandle; infer_instance

instance (key : Buf publicKeySize) (timestamp : UInt32) (payload : List UInt8) :
    Moves Quiet (pendingBinaryHandle key timestamp payload) := by
  unfold pendingBinaryHandle; infer_instance

end Meshcore
