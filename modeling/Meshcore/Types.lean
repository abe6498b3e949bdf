import Mathlib.Data.List.TakeWhile
import Meshcore.Packet

/-!
# Records shared with the host

The enumerations and records of `include/meshcore/types.h` that the runtime reads from the host or
publishes to it, and the two identities of `core/meshcore_identity.h`. Text fields are byte arrays
that hold a C string: `cString` is what a reader of the string sees.

Fields that nothing in the runtime reads (the advert intervals, a peer's role and flags, the
`multi_acks` policy) are left out.

## Main definitions

* `Role`, `LoopDetect`, `Route` — the enumerations
* `NodeIdentity`, `RuntimePolicy`, `AdvertProfile`, `PeerIdentity`, `PeerPath`, `GroupChannel` —
  what the host answers
* `Event` — what the runtime tells the host
-/

namespace Meshcore

abbrev publicKeySize : ℕ := 32
abbrev privateKeySize : ℕ := 64
abbrev nodeNameMaxLen : ℕ := 32
abbrev nodeKeyPrefixBytes : ℕ := 4
abbrev maxMessageTxLen : ℕ := 160
abbrev maxServiceRequestPayloadLen : ℕ := 163
abbrev maxServiceResponsePayloadLen : ℕ := 163
abbrev maxAnonDataPayloadLen : ℕ := 136
abbrev maxChannelDataPayloadLen : ℕ := 165
abbrev maxRawDataPayloadLen : ℕ := 184
abbrev maxControlDataPayloadLen : ℕ := 184
abbrev maxTelemetryPayloadLen : ℕ := 163
abbrev channelSearchMaxMatches : ℕ := 4
abbrev nodeDiscoverPublicKeyPrefixBytes : ℕ := 8
abbrev outPathUnknown : UInt8 := 0xFF

/-! ### Error codes -/

abbrev eINVAL : ℤ := -22
abbrev eNODEV : ℤ := -19
abbrev eNOMEM : ℤ := -12
abbrev eAGAIN : ℤ := -11
abbrev eBUSY : ℤ := -16
abbrev eNOBUFS : ℤ := -105
abbrev eALREADY : ℤ := -114
abbrev eNOTSUP : ℤ := -95

/-! ### Host records -/

/-- `meshcore_common_node_role_t`. -/
inductive Role where
  | none | chat | repeater | room | sensor
deriving DecidableEq, Inhabited

/-- `meshcore_common_loop_detect_mode_t`. -/
inductive LoopDetect where
  | off | minimal | moderate | strict
deriving DecidableEq, Inhabited

/-- `meshcore_common_message_route_t`. -/
inductive Route where
  | unspecified | flood | direct
deriving DecidableEq, Inhabited

structure NodeIdentity where
  name : Buf nodeNameMaxLen
  role : Role
  publicKey : Buf publicKeySize
  privateKey : Buf privateKeySize
deriving DecidableEq, Inhabited

structure RuntimePolicy where
  pathHashSize : UInt8
  loopDetect : LoopDetect
  clientRepeat : Bool
  disableFwd : Bool
  floodMax : UInt8
  txDelayFactor : ℚ
  directTxDelayFactor : ℚ
deriving DecidableEq, Inhabited

structure AdvertProfile where
  hasPosition : Bool
  latitude : Int32
  longitude : Int32
deriving DecidableEq, Inhabited

structure PeerIdentity where
  name : Buf nodeNameMaxLen
  publicKey : Buf publicKeySize
deriving DecidableEq, Inhabited

structure PeerPath where
  outPathLen : UInt8
  isNeighbor : Bool
  outPath : Buf maxPathLen
  pathHashSize : UInt8
deriving DecidableEq, Inhabited

/-- `struct meshcore_group_channel`, and the view of it that the host answers. -/
structure GroupChannel where
  hash : UInt8
  secret : Buf publicKeySize
deriving DecidableEq, Inhabited

/-- `struct meshcore_identity`: a public key. -/
abbrev Identity : Type := Buf publicKeySize

/-- `struct meshcore_local_identity`. -/
structure LocalIdentity where
  identity : Identity
  prvKey : Buf privateKeySize
deriving DecidableEq, Inhabited

/-- The bytes before the first zero: what `%s` prints. -/
def cString (bytes : List UInt8) : List UInt8 := bytes.takeWhile (· != 0)

section

variable {bytes : List UInt8}

/-- A string ends where the zeros begin. -/
theorem cString_append_zeros (h : 0 ∉ bytes) (n : ℕ) :
    cString (bytes ++ List.replicate n 0) = bytes := by
  have hall : ∀ b ∈ bytes, (b != 0) = true := fun b hb => by
    rw [bne_iff_ne]
    rintro rfl
    exact h hb
  have hzeros : (List.replicate n (0 : UInt8)).takeWhile (· != 0) = [] := by
    cases n with
    | zero => rfl
    | succ n => rfl
  rw [cString, List.takeWhile_append_of_pos hall, hzeros, List.append_nil]

theorem cString_eq_self (h : 0 ∉ bytes) : cString bytes = bytes := by
  have hnone := cString_append_zeros h 0
  rwa [List.replicate_zero, List.append_nil] at hnone

theorem zero_not_mem_cString (bytes : List UInt8) : 0 ∉ cString bytes := fun h => by
  have hne := List.mem_takeWhile_imp h
  exact absurd hne (by decide)

/-- The name of a node. -/
def NodeIdentity.cName (identity : NodeIdentity) : List UInt8 := cString identity.name.bytes

theorem NodeIdentity.length_cName_le (identity : NodeIdentity) :
    identity.cName.length ≤ nodeNameMaxLen := by
  have hle := (List.takeWhile_sublist (· != 0) (l := identity.name.bytes)).length_le
  rwa [Buf.length_bytes] at hle

end

/-! ### Events -/

inductive MessageType where
  | receiveNode | receiveChannel
deriving DecidableEq

structure Message where
  type : MessageType
  route : Route
  target : List UInt8
  senderName : List UInt8
  payload : List UInt8
  senderTimestamp : UInt32
  rxSnr : ℚ
deriving DecidableEq

structure ChannelDataEvent where
  channelHash : UInt8
  path : List UInt8
  dataType : UInt16
  payload : List UInt8
  rxSnrQ4 : Int8
deriving DecidableEq

/-- The raw-custom and the control data event, which have the same fields. -/
structure DataEvent where
  path : List UInt8
  payload : List UInt8
  rxSnrQ4 : Int8
deriving DecidableEq

structure BinaryRequestEvent where
  route : Route
  keyPrefix : List UInt8
  tag : UInt32
  publicKey : Buf publicKeySize
  pathLen : UInt8
  path : Buf maxPathLen
  payload : List UInt8
  rxSnrQ4 : Int8
deriving DecidableEq

structure NodeDiscoverEvent where
  role : Role
  tag : UInt32
  publicKey : List UInt8
  path : List UInt8
  uplinkSnr : Int8
  downlinkSnr : Int8
deriving DecidableEq

structure AdvertEvent where
  name : List UInt8
  role : Role
  publicKey : Buf publicKeySize
  isNew : Bool
  advertTimestamp : UInt32
  position : Option (Int32 × Int32)
  /-- The path hash size and the path bytes. -/
  outPath : Option (UInt8 × List UInt8)
  rawAdvert : List UInt8
deriving DecidableEq

structure PeerPathEvent where
  tag : UInt32
  keyPrefix : List UInt8
  timestamp : UInt32
  lastSeenSnr : Int8
  pathHashSize : UInt8
  outPath : List UInt8
  outPathSnr : List UInt8
  returnPathSnr : List UInt8
deriving DecidableEq

/-- `enum meshcore_runtime_request_type`. -/
inductive RequestType where
  | nodeAdvert | nodePeerAdvert | messageSendToNode | messageSendToChannel | nodeDiscoverPath
  | nodeTracePath | nodeTelemetry | nodeBinary | nodeDiscover | channelData | rawData
  | controlData | nodeBinaryResponse | nodeAnonData
deriving DecidableEq

/-- The calls into the host that carry information out. Where the host gets a view of a packet, the
event holds the packet. The `mesh` events replace the runtime's own handling of a packet while it
is not initialised; anonymous data goes to the host always. -/
inductive Event where
  | timerArm (deadline : ℕ)
  | timerCancel
  | radioBegin
  | radioPacketSend (raw : List UInt8)
  | radioNoiseFloorCalibrate (threshold : ℤ)
  | radioAgcReset
  | logRxRaw (snr : ℚ) (rssi : Int16) (raw : List UInt8)
  | logRx (packet : Packet) (len : ℕ) (score : ℚ)
  | logTx (packet : Packet) (len : ℕ)
  | logTxFail (packet : Packet) (len : ℕ)
  | requestError (type : RequestType) (errCode : ℤ)
  | peerSeenUpdate (publicKey : Buf publicKeySize) (snrQ4 : Int8)
  | message (m : Message)
  | messageAck (target : List UInt8) (attempt : UInt8)
  | advert (e : AdvertEvent)
  | peerPathPublish (e : PeerPathEvent) (isDiscover : Bool)
  | peerPath (e : PeerPathEvent)
  | tracePath (state : UInt8) (tag : UInt32) (outPathSnr returnPathSnr : List UInt8)
      (responseSnr : Int8) (timestamp : UInt32)
  | telemetry (keyPrefix : List UInt8) (timestamp tag : UInt32) (payload : List UInt8)
  | binaryRequest (e : BinaryRequestEvent)
  | binaryResponse (keyPrefix : List UInt8) (timestamp tag : UInt32) (payload : List UInt8)
  | nodeDiscover (e : NodeDiscoverEvent)
  | channelData (e : ChannelDataEvent)
  | rawData (e : DataEvent)
  | controlData (e : DataEvent)
  | meshOnAnonDataRecv (packet : Packet) (secret : Buf publicKeySize) (sender : Identity)
      (data : List UInt8)
  | meshOnPeerDataRecv (packet : Packet) (type : UInt8) (sender : PeerIdentity)
      (secret : Buf publicKeySize) (data : List UInt8)
  | meshOnPeerPathRecv (packet : Packet) (sender : PeerIdentity) (secret : Buf publicKeySize)
      (path : List UInt8) (pathLen extraType : UInt8) (extra : List UInt8)
  | meshOnTraceRecv (packet : Packet) (tag authCode : UInt32) (flags : UInt8)
      (pathSnrs : Buf maxPathLen) (pathHashes : List UInt8)
  | meshOnAdvertRecv (packet : Packet) (identity : Identity) (timestamp : UInt32)
      (appData : List UInt8)
  | meshOnGroupDataRecv (packet : Packet) (type : UInt8) (channel : GroupChannel)
      (data : List UInt8)
  | meshOnControlDataRecv (packet : Packet)
  | meshOnRawDataRecv (packet : Packet)
  | meshOnAckRecv (packet : Packet) (ackCrc : UInt32)
deriving DecidableEq

end Meshcore
