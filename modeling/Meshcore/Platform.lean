import Meshcore.Lib.DuplicateFilter
import Meshcore.Lib.Prog
import Meshcore.PacketManager
import Meshcore.Types

/-!
# The runtime's world

What a function of the runtime can see and change. `Ctx` is fixed for a run: the width of
`unsigned long`, the size of the pool, the rounding of `float`, the vendored cryptography and the
host. `World` is everything the source keeps in static storage, `struct meshcore_runtime` with what
it contains and the clock override, with the host's timer and a record of what went out to the host.

The host answers through `Hooks`. Each call into it reads the answers of one instant, and the next
call those of the next, so a stream of hooks is a host that may answer anything at any time; that a
hook keeps its answer, or is a fixed function, is a hypothesis about the stream.

`trace`, `reissued` and `outside` are ghosts: no function reads them. The trace is the log of the
duplicate filter: when a flood packet is taken up, when its payload is handed to the role logic,
when its retransmission is queued, when a flood is sent, when a packet hash is recorded and when the
table is emptied.

## Main definitions

* `Hooks`, `Ctx`, `World`, `M` — the host, the fixed part, the state, and programs over them
* `Dispatcher`, `Tables`, `Correlation` — the components of the state
* `Mark` — what the ghost trace records
-/

namespace Meshcore

/-! ### The host -/

/-- The answers of the host at one instant. `none` is a failing call. -/
structure Hooks where
  millis : ℕ
  rtc : UInt32
  rngRandom : (size : ℕ) → Buf size
  sha256 : (hashLen : ℕ) → List UInt8 → Option (Buf hashLen)
  sha256TwoFragments : (hashLen : ℕ) → List UInt8 → List UInt8 → Option (Buf hashLen)
  aes128EncryptBlock : Buf publicKeySize → Buf 16 → Option (Buf 16)
  aes128DecryptBlock : Buf publicKeySize → Buf 16 → Option (Buf 16)
  hmacSha256 : (macLen : ℕ) → Buf publicKeySize → List UInt8 → Option (Buf macLen)
  /-- The return code and what it wrote. -/
  nodeIdentity : ℤ × NodeIdentity
  nodeConfigLastModify : Option UInt32
  nodeRuntimePolicy : Option RuntimePolicy
  nodeAdvertProfile : Option AdvertProfile
  peerPathByKey : Buf publicKeySize → Option PeerPath
  /-- The next slot from `start` on whose peer has this hash, its shared secret and identity. -/
  peerNextSharedSecretByHash : UInt8 → (start : ℕ) →
    Option (ℕ × Buf publicKeySize × PeerIdentity)
  channelSecretHash : List UInt8 → Option UInt8
  channelSecretMatchExists : UInt8 → List UInt8 → ℤ
  channelSearchByHash : UInt8 → List GroupChannel
  telemetryNode : List UInt8 → UInt8 → Option (ℕ × Buf maxTelemetryPayloadLen)
  radioPacketSend : List UInt8 → Bool
  radioAirtime : ℕ → UInt32
  radioPacketScore : Int8 → ℕ → ℚ
  radioInRxMode : Bool
  radioReceiving : Bool
  airtimeBudgetFactor : ℚ
  rxDelayCalc : ℚ → UInt32 → ℤ
  cadFailMaxDuration : UInt32
  interferenceThreshold : ℤ
  agcResetInterval : ℤ
  dutyCycleWindowMs : ℕ
  cadFailRetryDelay : UInt32
  filterRecvFloodPacket : Packet → Bool
  extraAckTransmitCount : UInt8
  meshOnPeerPathRecv : Bool

/-- What is fixed for a run. -/
structure Ctx where
  /-- The bits of `unsigned long`. -/
  ulongBits : ℕ
  ulongBits_eq : ulongBits = 32 ∨ ulongBits = 64
  maxPoolSize : ℕ
  poolSize : ℕ
  /-- Rounding to `float`. -/
  roundFloat : ℚ → ℚ
  /-- `crypto_ed25519_check` answering 0. -/
  ed25519Check : List UInt8 → Identity → List UInt8 → Bool
  /-- `meshcore_identity_sign_expanded_private_key`. -/
  ed25519Sign : LocalIdentity → List UInt8 → Buf 64
  /-- `meshcore_identity_calculate_shared_secret`. -/
  calculateSharedSecret : Buf privateKeySize → Identity → Buf publicKeySize
  /-- How many candidates the host enumerates for one hash. -/
  peerLimit : ℕ
  hooks : ℕ → Hooks

/-- A host that knows nobody and whose clock stands still. -/
def Hooks.silent : Hooks where
  millis := 0
  rtc := 0
  rngRandom size := Buf.zero size
  sha256 _ _ := none
  sha256TwoFragments _ _ _ := none
  aes128EncryptBlock _ _ := none
  aes128DecryptBlock _ _ := none
  hmacSha256 _ _ _ := none
  nodeIdentity := (0, ⟨Buf.zero _, .chat, Buf.zero _, Buf.zero _⟩)
  nodeConfigLastModify := none
  nodeRuntimePolicy := none
  nodeAdvertProfile := none
  peerPathByKey _ := none
  peerNextSharedSecretByHash _ _ := none
  channelSecretHash _ := none
  channelSecretMatchExists _ _ := 0
  channelSearchByHash _ := []
  telemetryNode _ _ := none
  radioPacketSend _ := true
  radioAirtime _ := 0
  radioPacketScore _ _ := 0
  radioInRxMode := true
  radioReceiving := false
  airtimeBudgetFactor := 1
  rxDelayCalc _ _ := 0
  cadFailMaxDuration := 0
  interferenceThreshold := 0
  agcResetInterval := 0
  dutyCycleWindowMs := 0
  cadFailRetryDelay := 0
  filterRecvFloodPacket _ := false
  extraAckTransmitCount := 0
  meshOnPeerPathRecv := false

/-- A pool of two buffers, and that host at any time. -/
def Ctx.silent : Ctx where
  ulongBits := 32
  ulongBits_eq := .inl rfl
  maxPoolSize := 2
  poolSize := 2
  roundFloat q := q
  ed25519Check _ _ _ := false
  ed25519Sign _ _ := Buf.zero _
  calculateSharedSecret _ _ := Buf.zero _
  peerLimit := 0
  hooks _ := .silent

/-! ### The state -/

/-- `struct meshcore_dispatcher`. The fields of type `unsigned long` are below
`2 ^ ulongBits`. -/
structure Dispatcher where
  outbound : Option PacketId
  outboundExpiry : ℕ
  outboundStart : ℕ
  totalAirTime : ℕ
  rxAirTime : ℕ
  nextTxTime : ℕ
  cadBusyStart : ℕ
  radioNonrxStart : ℕ
  nextFloorCalibTime : ℕ
  nextAgcResetTime : ℕ
  prevIsrecvMode : Bool
  nSentFlood : UInt32
  nSentDirect : UInt32
  nRecvFlood : UInt32
  nRecvDirect : UInt32
  txBudgetMs : ℕ
  lastBudgetUpdate : ℕ
  dutyCycleWindowMs : ℕ
  errFlags : UInt16
deriving DecidableEq

/-- `memset` to zero. -/
def Dispatcher.zero : Dispatcher where
  outbound := none
  outboundExpiry := 0
  outboundStart := 0
  totalAirTime := 0
  rxAirTime := 0
  nextTxTime := 0
  cadBusyStart := 0
  radioNonrxStart := 0
  nextFloorCalibTime := 0
  nextAgcResetTime := 0
  prevIsrecvMode := false
  nSentFlood := 0
  nSentDirect := 0
  nRecvFlood := 0
  nRecvDirect := 0
  txBudgetMs := 0
  lastBudgetUpdate := 0
  dutyCycleWindowMs := 0
  errFlags := 0

abbrev tablesMaxPacketHashes : ℕ := 160

abbrev PacketHash : Type := Buf packetHashSize

/-- `struct meshcore_tables`. -/
structure Tables where
  hashes : RecentRing PacketHash tablesMaxPacketHashes
  directDups : UInt32
  floodDups : UInt32

/-- `meshcore_tables_init`. -/
def Tables.init : Tables where
  hashes := .fill (Buf.zero _) (by decide)
  directDups := 0
  floodDups := 0

/-- The table with one more hash. -/
def Tables.record (tables : Tables) (hash : PacketHash) : Tables :=
  { tables with hashes := tables.hashes.insert hash }

/-- `struct meshcore_runtime_expected_ack`. -/
structure ExpectedAck where
  valid : Bool
  msgSentMs : ℕ
  expiresAtMs : ℕ
  ackCrc : UInt32
  target : List UInt8
  attempt : UInt8
deriving DecidableEq, Inhabited

def ExpectedAck.zero : ExpectedAck := ⟨false, 0, 0, 0, [], 0⟩

/-- The four `struct meshcore_runtime_pending_*`, which differ in what they remember of the
request: nothing, a key prefix, or a key prefix and a permission mask. -/
structure Pending where
  valid : Bool
  tag : UInt32
  expiresAtMs : ℕ
  keyPrefix : List UInt8
  permissionMask : UInt8
deriving DecidableEq, Inhabited

def Pending.zero : Pending := ⟨false, 0, 0, [], 0⟩

abbrev expectedAckTableSize : ℕ := 8

/-- The request correlation state of `struct meshcore_runtime`. -/
structure Correlation where
  expectedAcks : List ExpectedAck
  expectedAckNext : ℕ
  pendingDiscovery : Pending
  pendingTrace : Pending
  pendingTelemetry : Pending
  pendingBinary : Pending
  length_expectedAcks : expectedAcks.length = expectedAckTableSize
  expectedAckNext_lt : expectedAckNext < expectedAckTableSize
deriving DecidableEq

def Correlation.zero : Correlation where
  expectedAcks := List.replicate expectedAckTableSize .zero
  expectedAckNext := 0
  pendingDiscovery := .zero
  pendingTrace := .zero
  pendingTelemetry := .zero
  pendingBinary := .zero
  length_expectedAcks := rfl
  expectedAckNext_lt := by decide

/-- What identifies the copies of a flood: the payload type and the payload. -/
abbrev FloodKey : Type := UInt8 × List UInt8

def Packet.floodKey (packet : Packet) : FloodKey := (packet.getPayloadType, packet.payloadBytes)

/-- An entry of the ghost trace: floods, and the packet hashes that go into the table. -/
abbrev Mark : Type := FilterMark FloodKey PacketHash

/-- The static state of the runtime, and what has gone out of it. -/
structure World where
  initialized : Bool
  lastNowMs : ℕ
  packetManager : PacketQueueManager
  tables : Tables
  dispatcher : Dispatcher
  selfId : LocalIdentity
  rtcLastUnique : UInt32
  correlation : Correlation
  millisOverride : Option ℕ
  /-- What the host's timer was last told: when, and the deadline, or `none` to cancel it. -/
  timer : Option (ℕ × Option ℕ)
  /-- How many calls into the host were made. -/
  tick : ℕ
  events : List Event
  trace : List Mark
  /-- Whether an allocation ever gave out a buffer that was still queued or in flight. -/
  reissued : Bool
  /-- Whether the mesh ever touched a received packet outside what it carries. -/
  outside : Bool

/-- The state at program start. -/
def World.boot : World where
  initialized := false
  lastNowMs := 0
  packetManager := .deinit
  tables := .init
  dispatcher := .zero
  selfId := ⟨Buf.zero _, Buf.zero _⟩
  rtcLastUnique := 0
  correlation := .zero
  millisOverride := none
  timer := none
  tick := 0
  events := []
  trace := []
  reissued := false
  outside := false

/-- Programs of the runtime. -/
abbrev M (α : Type) : Type := Prog Ctx World α

/-! ### Primitive programs -/

/-- Call into the host. -/
def hook {α : Type} (f : Hooks → α) : M α :=
  fun ctx w => (f (ctx.hooks w.tick), { w with tick := w.tick + 1 })

/-- Tell the host. -/
def emit (e : Event) : M Unit := Prog.modify fun w => { w with events := w.events ++ [e] }

/-- Record on the ghost trace. -/
def mark (m : Mark) : M Unit := Prog.modify fun w => { w with trace := w.trace ++ [m] }

/-- Record an access to a received packet. -/
def access (inside : Prop) [Decidable inside] : M Unit :=
  Prog.modify fun w => { w with outside := w.outside || !decide inside }

theorem access_of {inside : Prop} [Decidable inside] (h : inside) (ctx : Ctx) (w : World) :
    access inside ctx w = ((), w) := by
  simp [access, h]

def setSelfId (id : LocalIdentity) : M Unit := Prog.modify fun w => { w with selfId := id }

def setRtcLastUnique (v : UInt32) : M Unit :=
  Prog.modify fun w => { w with rtcLastUnique := v }

def modifyCorrelation (f : Correlation → Correlation) : M Unit :=
  Prog.modify fun w => { w with correlation := f w.correlation }

def modifyDispatcher (f : Dispatcher → Dispatcher) : M Unit :=
  Prog.modify fun w => { w with dispatcher := f w.dispatcher }

/-- The `MESHCORE_ERR_EVENT_*` flags. -/
abbrev errEventFull : UInt16 := 1
abbrev errEventCadTimeout : UInt16 := 2
abbrev errEventStartrxTimeout : UInt16 := 4

def setErrFlag (flag : UInt16) : M Unit :=
  modifyDispatcher fun d => { d with errFlags := d.errFlags ||| flag }

/-- The packet a pointer points to. -/
def readPacket (id : PacketId) : M Packet := Prog.gets fun w => w.packetManager.packetBuf id

def writePacket (id : PacketId) (packet : Packet) : M Unit :=
  Prog.modify fun w => { w with packetManager := w.packetManager.write id packet }

@[simp] theorem packetBuf_writePacket (id : PacketId) (packet : Packet) (ctx : Ctx) (w : World) :
    (writePacket id packet ctx w).2.packetManager.packetBuf id = packet := Function.update_self ..

/-- Change a packet in place. -/
def updatePacket (id : PacketId) (f : Packet → Packet) : M Unit := do
  let packet ← readPacket id
  writePacket id (f packet)

def modifyManager (f : PacketQueueManager → PacketQueueManager) : M Unit :=
  Prog.modify fun w => { w with packetManager := f w.packetManager }

/-- An operation of the packet manager that may hand over a buffer. -/
def takePacket (f : PacketQueueManager → Option PacketId × PacketQueueManager) :
    M (Option PacketId) :=
  fun _ w => ((f w.packetManager).1, { w with packetManager := (f w.packetManager).2 })

/-- A buffer is queued or in flight. -/
def World.inUse (w : World) (id : PacketId) : Bool :=
  decide (id ∈ w.packetManager.sendQueue.ids ++ w.packetManager.rxQueue.ids ++
    w.dispatcher.outbound.toList)

/-- A buffer is allocated. -/
def allocPacket : M (Option PacketId) := do
  let id ← takePacket PacketQueueManager.allocNew
  Prog.modify fun w => { w with reissued := w.reissued || id.any w.inUse }
  pure id

/-! ### The clock -/

/-- `meshcore_clock_millis_get`. -/
def clockMillisGet : M ℕ := do
  let override ← Prog.gets World.millisOverride
  let ctx ← Prog.env
  override.elim ((· % 2 ^ ctx.ulongBits) <$> hook Hooks.millis) pure

/-- `meshcore_clock_millis_override_set`, with the 32-bit time of an entry point. -/
def clockMillisOverrideSet (value : ℕ) : M Unit :=
  Prog.modify fun w => { w with millisOverride := some value }

def clockMillisOverrideClear : M Unit := Prog.modify fun w => { w with millisOverride := none }

/-- `meshcore_clock_rtc_get_current_time`. -/
def clockRtcGetCurrentTime : M UInt32 := hook Hooks.rtc

/-- `meshcore_clock_rtc_get_current_time_unique`. -/
def clockRtcGetCurrentTimeUnique : M UInt32 := do
  let now ← clockRtcGetCurrentTime
  let last ← Prog.gets World.rtcLastUnique
  if now ≤ last then do
    setRtcLastUnique (last + 1)
    pure (last + 1)
  else do
    setRtcLastUnique now
    pure now

/-- `meshcore_runtime_timestamp_now_seconds`. -/
def timestampNowSeconds : M UInt32 := do
  let timestamp ← clockRtcGetCurrentTime
  let millis ← (if timestamp = 0 then clockMillisGet else pure 0)
  let timestamp := if timestamp = 0 then UInt32.ofNat (millis / 1000) else timestamp
  pure (if timestamp = 0 then 1 else timestamp)

/-- `meshcore_rng_next_int`. -/
def rngNextInt (min max : UInt32) : M UInt32 :=
  if max ≤ min then pure min
  else do
    let bytes ← hook fun h => h.rngRandom 4
    pure (UInt32.ofNat (leNat bytes.bytes) % (max - min) + min)

end Meshcore
