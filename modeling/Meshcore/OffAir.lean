import Meshcore.Correlated
import Meshcore.SignedAdverts

/-!
# What is not on air

The radio is started in one place, and three events of the host say what becomes of a transmission:
the start, the log of a success, and the log of a failure. Everything that processes a packet or
executes a request has the host learn of other things only.

## Main definitions

* `Event.isAir` — the events of a transmission
* `Chatter` — a program with none of them

## Main results

* the instances of `Moves Chatter`, up to `meshOnRecvPacket` and the requests
-/

set_option synthInstance.maxSize 10000

namespace Meshcore

/-- The events of a transmission. -/
def Event.isAir : Event → Bool
  | .radioPacketSend _ | .logTx .. | .logTxFail .. => true
  | _ => false

/-- An event that is not of a transmission. -/
class OffAir (e : Event) : Prop where
  offAir : e.isAir = false

instance (t : ℤ) : OffAir (.radioNoiseFloorCalibrate t) := ⟨rfl⟩
instance : OffAir .radioAgcReset := ⟨rfl⟩
instance (snr : ℚ) (rssi : Int16) (raw : List UInt8) : OffAir (.logRxRaw snr rssi raw) := ⟨rfl⟩
instance (p : Packet) (n : ℕ) (score : ℚ) : OffAir (.logRx p n score) := ⟨rfl⟩
instance (type : RequestType) (code : ℤ) : OffAir (.requestError type code) := ⟨rfl⟩
instance (key : Buf publicKeySize) (snr : Int8) : OffAir (.peerSeenUpdate key snr) := ⟨rfl⟩
instance (m : Message) : OffAir (.message m) := ⟨rfl⟩
instance (e : AdvertEvent) : OffAir (.advert e) := ⟨rfl⟩
instance (e : PeerPathEvent) : OffAir (.peerPath e) := ⟨rfl⟩
instance (e : BinaryRequestEvent) : OffAir (.binaryRequest e) := ⟨rfl⟩
instance (e : NodeDiscoverEvent) : OffAir (.nodeDiscover e) := ⟨rfl⟩
instance (e : ChannelDataEvent) : OffAir (.channelData e) := ⟨rfl⟩
instance (e : DataEvent) : OffAir (.rawData e) := ⟨rfl⟩
instance (e : DataEvent) : OffAir (.controlData e) := ⟨rfl⟩
instance (p : Packet) (secret : Buf publicKeySize) (sender : Identity) (data : List UInt8) :
    OffAir (.meshOnAnonDataRecv p secret sender data) := ⟨rfl⟩
instance (p : Packet) (type : UInt8) (sender : PeerIdentity) (secret : Buf publicKeySize)
    (data : List UInt8) : OffAir (.meshOnPeerDataRecv p type sender secret data) := ⟨rfl⟩
instance (p : Packet) (sender : PeerIdentity) (secret : Buf publicKeySize) (path : List UInt8)
    (n type : UInt8) (extra : List UInt8) :
    OffAir (.meshOnPeerPathRecv p sender secret path n type extra) := ⟨rfl⟩
instance (p : Packet) (tag code : UInt32) (flags : UInt8) (snrs : Buf maxPathLen)
    (hashes : List UInt8) : OffAir (.meshOnTraceRecv p tag code flags snrs hashes) := ⟨rfl⟩
instance (p : Packet) (identity : Identity) (timestamp : UInt32) (data : List UInt8) :
    OffAir (.meshOnAdvertRecv p identity timestamp data) := ⟨rfl⟩
instance (p : Packet) (type : UInt8) (channel : GroupChannel) (data : List UInt8) :
    OffAir (.meshOnGroupDataRecv p type channel data) := ⟨rfl⟩
instance (p : Packet) : OffAir (.meshOnControlDataRecv p) := ⟨rfl⟩
instance (p : Packet) : OffAir (.meshOnRawDataRecv p) := ⟨rfl⟩
instance (p : Packet) (crc : UInt32) : OffAir (.meshOnAckRecv p crc) := ⟨rfl⟩
instance (target : List UInt8) (attempt : UInt8) : OffAir (.messageAck target attempt) := ⟨rfl⟩
instance (e : PeerPathEvent) (isDiscover : Bool) : OffAir (.peerPathPublish e isDiscover) := ⟨rfl⟩
instance (state : UInt8) (tag : UInt32) (out back : List UInt8) (snr : Int8) (timestamp : UInt32) :
    OffAir (.tracePath state tag out back snr timestamp) := ⟨rfl⟩
instance (key : List UInt8) (timestamp tag : UInt32) (payload : List UInt8) :
    OffAir (.telemetry key timestamp tag payload) := ⟨rfl⟩
instance (key : List UInt8) (timestamp tag : UInt32) (payload : List UInt8) :
    OffAir (.binaryResponse key timestamp tag payload) := ⟨rfl⟩
instance (deadline : ℕ) : OffAir (.timerArm deadline) := ⟨rfl⟩
instance : OffAir .timerCancel := ⟨rfl⟩

/-- The new events are none of a transmission. -/
abbrev Chatter : Ctx → World → World → Prop := Adds fun e => e.isAir = false

instance (e : Event) [he : OffAir e] : Moves Chatter (emit e) := Moves.addsEmit he.offAir

/-! ### Publishing and answering -/

instance (peer : PeerIdentity) (packet : Packet) (timestamp : UInt32) (text : List UInt8) :
    Moves Chatter (textMessagePublish peer packet timestamp text) := by
  unfold textMessagePublish; infer_instance

instance (channel : GroupChannel) (packet : Packet) (timestamp : UInt32) (text : List UInt8) :
    Moves Chatter (channelTextPublish channel packet timestamp text) := by
  unfold channelTextPublish; infer_instance

instance (channel : GroupChannel) (packet : Packet) (data : List UInt8) :
    Moves Chatter (channelDataPublish channel packet data) := by
  unfold channelDataPublish; infer_instance

instance (packet : Packet) : Moves Chatter (controlDataPublish packet) := by
  unfold controlDataPublish; infer_instance

instance (packet : Packet) : Moves Chatter (rawDataPublish packet) := by
  unfold rawDataPublish; infer_instance

instance (packet : Packet) : Moves Chatter (nodeDiscoverPublish packet) := by
  unfold nodeDiscoverPublish; infer_instance

instance (peer : PeerIdentity) (packet : Packet) (tag : UInt32) (payload : List UInt8) :
    Moves Chatter (binaryRequestPublish peer packet tag payload) := by
  unfold binaryRequestPublish; infer_instance

instance (packet : Packet) (peer : PeerIdentity) (path : List UInt8) (pathLen extraType : UInt8)
    (extra : List UInt8) :
    Moves Chatter (peerPathPublish packet peer path pathLen extraType extra) := by
  unfold peerPathPublish; infer_instance

instance (packet : Packet) (identity : Identity) (timestamp : UInt32) (parser : AdvertDataParser) :
    Moves Chatter (advertPublish packet identity timestamp parser) := by
  unfold advertPublish; infer_instance

instance (key : Buf publicKeySize) (snr : Int8) : Moves Chatter (peerSeenUpdate key snr) := by
  unfold peerSeenUpdate; infer_instance

instance (sender : PeerIdentity) (secret : Buf publicKeySize) (packet : Packet)
    (timestamp : UInt32) (flags : UInt8) (data : List UInt8) (textOff : ℕ) :
    Moves Chatter (publishText sender secret packet timestamp flags data textOff) := by
  unfold publishText; infer_instance

instance (sender : PeerIdentity) (secret : Buf publicKeySize) (packet : Packet)
    (timestamp : UInt32) (data : List UInt8) :
    Moves Chatter (onPeerText sender secret packet timestamp data) := by
  unfold onPeerText; infer_instance

instance (sender : PeerIdentity) (secret : Buf publicKeySize) (packet : Packet)
    (timestamp : UInt32) (data : List UInt8) :
    Moves Chatter (onPeerReq sender secret packet timestamp data) := by
  unfold onPeerReq; infer_instance

instance (fallback : Event) (handler : M Unit) [OffAir fallback] [Moves Chatter handler] :
    Moves Chatter (whenInitialized fallback handler) := by
  unfold whenInitialized; infer_instance

instance (packet : Packet) (identity : Identity) (timestamp : UInt32) (appData : List UInt8) :
    Moves Chatter (onAdvertRecv packet identity timestamp appData) := by
  unfold onAdvertRecv; infer_instance

instance (packet : Packet) : Moves Chatter (handleControlDiscoverRequest packet) := by
  unfold handleControlDiscoverRequest; infer_instance

instance (packet : Packet) : Moves Chatter (onControlDataRecv packet) := by
  unfold onControlDataRecv; infer_instance

instance (packet : Packet) : Moves Chatter (onRawDataRecv packet) := by
  unfold onRawDataRecv; infer_instance

instance (packet : Packet) (type : UInt8) (channel : GroupChannel) (data : List UInt8) :
    Moves Chatter (onGroupDataRecv packet type channel data) := by
  unfold onGroupDataRecv; infer_instance

/-! ### Answers -/

instance (f : Correlation → Correlation) : Moves Silent (modifyCorrelation f) :=
  ⟨fun _ _ => ⟨rfl, rfl, le_rfl⟩⟩

instance (ackCrc : UInt32) : Moves Chatter (expectedAckHandle ackCrc) := by
  unfold expectedAckHandle; infer_instance

instance (key : Buf publicKeySize) (packet : Packet) (path : List UInt8)
    (pathLenField extraType : UInt8) (extra : List UInt8) :
    Moves Chatter (pendingDiscoveryHandle key packet path pathLenField extraType extra) := by
  unfold pendingDiscoveryHandle; infer_instance

instance (tag : UInt32) (flags : UInt8) (snrs : Buf maxPathLen) (snrCount hashBytes : UInt8)
    (snr : Int8) : Moves Chatter (pendingTraceHandle tag flags snrs snrCount hashBytes snr) := by
  unfold pendingTraceHandle; infer_instance

instance (key : Buf publicKeySize) (timestamp : UInt32) (payload : List UInt8) :
    Moves Chatter (pendingTelemetryHandle key timestamp payload) := by
  unfold pendingTelemetryHandle; infer_instance

instance (key : Buf publicKeySize) (timestamp : UInt32) (payload : List UInt8) :
    Moves Chatter (pendingBinaryHandle key timestamp payload) := by
  unfold pendingBinaryHandle; infer_instance

/-! ### Receiving -/

instance (sender : PeerIdentity) (payload : List UInt8) :
    Moves Chatter (onPeerResponse sender payload) := by
  unfold onPeerResponse; infer_instance

instance (packet : Packet) (type : UInt8) (sender : PeerIdentity) (secret : Buf publicKeySize)
    (data : List UInt8) :
    Moves Chatter (onPeerDataRecvInternal packet type sender secret data) := by
  unfold onPeerDataRecvInternal; infer_instance

instance (packet : Packet) (type : UInt8) (sender : PeerIdentity) (secret : Buf publicKeySize)
    (data : List UInt8) :
    Moves Chatter (onPeerDataRecv packet type sender secret data) := by
  unfold onPeerDataRecv; infer_instance

instance (packet : Packet) (ackCrc : UInt32) :
    Moves Chatter (onAckRecv packet ackCrc) := by
  unfold onAckRecv; infer_instance

instance (packet : Packet) (sender : PeerIdentity) (secret : Buf publicKeySize)
    (path : List UInt8) (pathLen extraType : UInt8) (extra : List UInt8) :
    Moves Chatter (onPeerPathRecv packet sender secret path pathLen extraType extra) := by
  unfold onPeerPathRecv; infer_instance

instance (packet : Packet) (tag authCode : UInt32) (flags : UInt8) (snrs : Buf maxPathLen)
    (hashes : List UInt8) :
    Moves Chatter (onTraceRecv packet tag authCode flags snrs hashes) := by
  unfold onTraceRecv; infer_instance

instance (packet : Packet) (i n : ℕ) : Moves Chatter (payloadRead packet i n) := by
  unfold payloadRead; infer_instance

instance (packet : Packet) (i : ℕ) : Moves Chatter (payloadByte packet i) := by
  unfold payloadByte; infer_instance

instance (packet : Packet) : Moves Chatter (accessInner packet) := by
  unfold accessInner; infer_instance

instance (packet : Packet) (id : PacketId) (delayMillis : UInt32) :
    Moves Chatter (sendAckAlong packet id delayMillis) := by
  unfold sendAckAlong; infer_instance

instance (packet : Packet) (n : ℕ) (delayMillis : UInt32) :
    Moves Chatter (routeExtraAcks packet n delayMillis) := by
  induction n generalizing delayMillis with
  | zero => unfold routeExtraAcks; infer_instance
  | succ n ih => unfold routeExtraAcks; infer_instance

instance (packet : Packet) (delayMillis : UInt32) :
    Moves Chatter (meshRouteDirectRecvAcks packet delayMillis) := by
  unfold meshRouteDirectRecvAcks; infer_instance

instance (packet : Packet) : Moves Chatter (meshForwardMultipartDirect packet) := by
  unfold meshForwardMultipartDirect; infer_instance

instance (packet : Packet) (hash : List UInt8) (hashSize : ℕ) :
    Moves Chatter (forwardTrace packet hash hashSize) := by
  unfold forwardTrace; infer_instance

instance (packet : Packet) : Moves Chatter (onRecvTrace packet) := by
  unfold onRecvTrace; infer_instance

instance (packet : Packet) : Moves Chatter (onRecvDirectHop packet) := by
  unfold onRecvDirectHop; infer_instance

instance (packet : Packet) : Moves Chatter (onRecvAck packet) := by
  unfold onRecvAck; infer_instance

instance (packet : Packet) (srcHash : UInt8) (sender : PeerIdentity) (secret : Buf publicKeySize)
    (r : PathReturn) : Moves Chatter (onRecvPath packet srcHash sender secret r) := by
  unfold onRecvPath; infer_instance

instance (packet : Packet) (srcHash : UInt8) (macAndData : List UInt8) (n cursor : ℕ) :
    Moves Chatter (tryPeers packet srcHash macAndData n cursor) := by
  induction n generalizing cursor with
  | zero => unfold tryPeers; infer_instance
  | succ n ih => unfold tryPeers; infer_instance

instance (packet : Packet) : Moves Chatter (onRecvPeer packet) := by
  unfold onRecvPeer; infer_instance

instance (packet : Packet) : Moves Chatter (onRecvAnon packet) := by
  unfold onRecvAnon; infer_instance

instance (packet : Packet) (macAndData : List UInt8) (channels : List GroupChannel) :
    Moves Chatter (tryChannels packet macAndData channels) := by
  induction channels with
  | nil => unfold tryChannels; infer_instance
  | cons channel channels ih => unfold tryChannels; infer_instance

instance (packet : Packet) : Moves Chatter (onRecvGroup packet) := by
  unfold onRecvGroup; infer_instance

instance (packet : Packet) : Moves Chatter (onRecvAdvert packet) := by
  unfold onRecvAdvert; infer_instance

instance (packet : Packet) : Moves Chatter (onRecvRawCustom packet) := by
  unfold onRecvRawCustom; infer_instance

instance (packet : Packet) : Moves Chatter (onRecvMultipart packet) := by
  unfold onRecvMultipart; infer_instance

instance (packet : Packet) : Moves Chatter (onRecvPayload packet) := by
  unfold onRecvPayload; infer_instance

instance (packet : Packet) : Moves Chatter (onRecvRouted packet) := by
  unfold onRecvRouted; infer_instance

instance (packet : Packet) : Moves Chatter (meshOnRecvPacket packet) := by
  unfold meshOnRecvPacket; infer_instance

/-! ### Requests -/

instance (type : RequestType) (errCode : ℤ) :
    Moves Chatter (requestLogTransientFailure type errCode) := by
  unfold requestLogTransientFailure; infer_instance

instance (type : RequestType) (packet : M (Option PacketId)) (send : PacketId → M Unit)
    [Moves Chatter packet] [∀ id, Moves Chatter (send id)] :
    Moves Chatter (withRequestPacket type packet send) := by
  unfold withRequestPacket; infer_instance

instance (type : RequestType) (execute : M Unit) [Moves Chatter execute] :
    Moves Chatter (withLocalIdentity type execute) := by
  unfold withLocalIdentity; infer_instance

instance (flood : Bool) : Moves Chatter (executeNodeAdvert flood) := by
  unfold executeNodeAdvert; infer_instance

instance (raw : List UInt8) : Moves Chatter (executeNodePeerAdvert raw) := by
  unfold executeNodePeerAdvert; infer_instance

instance (request : MessageSendToChannel) :
    Moves Chatter (executeMessageSendToChannel request) := by
  unfold executeMessageSendToChannel; infer_instance

instance (request : NodePayload) : Moves Chatter (executeNodeAnonData request) := by
  unfold executeNodeAnonData; infer_instance

instance (r : NodeBinaryResponse) : Moves Chatter (executeNodeBinaryResponse r) := by
  unfold executeNodeBinaryResponse; infer_instance

instance (filter : UInt8) (prefixOnly : Bool) (since tag : UInt32) :
    Moves Chatter (executeNodeDiscover filter prefixOnly since tag) := by
  unfold executeNodeDiscover; infer_instance

instance (request : ChannelData) : Moves Chatter (executeChannelData request) := by
  unfold executeChannelData; infer_instance

instance (request : RawData) : Moves Chatter (executeRawData request) := by
  unfold executeRawData; infer_instance

instance (payload : List UInt8) : Moves Chatter (executeControlData payload) := by
  unfold executeControlData; infer_instance

instance (ackCrc : UInt32) (target : List UInt8) (attempt : UInt8) :
    Moves Silent (expectedAckRegister ackCrc target attempt) := by
  unfold expectedAckRegister; infer_instance

instance (tag : UInt32) (key : Buf publicKeySize) :
    Moves Silent (pendingDiscoveryRegister tag key) := by
  unfold pendingDiscoveryRegister; infer_instance

instance (tag : UInt32) : Moves Silent (pendingTraceRegister tag) := by
  unfold pendingTraceRegister; infer_instance

instance (tag : UInt32) (key : Buf publicKeySize) (mask : UInt8) :
    Moves Silent (pendingTelemetryRegister tag key mask) := by
  unfold pendingTelemetryRegister; infer_instance

instance (tag : UInt32) (key : Buf publicKeySize) :
    Moves Silent (pendingBinaryRegister tag key) := by
  unfold pendingBinaryRegister; infer_instance

instance (request : MessageSendToNode) : Moves Chatter (executeMessageSendToNode request) := by
  unfold executeMessageSendToNode; infer_instance

instance (publicKey : Buf publicKeySize) (tag : UInt32) :
    Moves Chatter (executeNodeDiscoverPath publicKey tag) := by
  unfold executeNodeDiscoverPath; infer_instance

instance (request : NodeTracePath) (tag : UInt32) :
    Moves Chatter (executeNodeTracePath request tag) := by
  unfold executeNodeTracePath; infer_instance

instance (request : NodeTelemetry) (tag : UInt32) :
    Moves Chatter (executeNodeTelemetry request tag) := by
  unfold executeNodeTelemetry; infer_instance

instance (request : NodePayload) (tag : UInt32) :
    Moves Chatter (executeNodeBinary request tag) := by
  unfold executeNodeBinary; infer_instance

instance (nowMs : ℕ) (deadline : Option ℕ) : Moves Chatter (setTimer nowMs deadline) where
  moves _ _ :=
    ⟨⟨[deadline.elim .timerCancel .timerArm], rfl, by cases deadline <;> simp [Event.isAir]⟩,
      rfl, le_rfl⟩

instance (nowMs : ℕ) : Moves Chatter (timerSync nowMs) := by
  unfold timerSync runtimeNextDeadlineGet; infer_instance

instance : Moves Chatter timerSyncNow := by unfold timerSyncNow; infer_instance

instance (body : M ℤ) [Moves Chatter body] : Moves Chatter (whenReady body) := by
  unfold whenReady; infer_instance

instance (execute : M Unit) [Moves Chatter execute] :
    Moves Chatter (requestExecuteNow execute) := by
  unfold requestExecuteNow; infer_instance

instance {α : Type} (record : Option α) (execute : α → M ℤ) [∀ a, Moves Chatter (execute a)] :
    Moves Chatter (request record execute) := by
  unfold request; infer_instance

instance {α : Type} (record : Option α) (requestTag : Option UInt32)
    (execute : α → UInt32 → M Unit) [∀ a tag, Moves Chatter (execute a tag)] :
    Moves Chatter (requestWithTag record requestTag execute) := by
  unfold requestWithTag; infer_instance

instance (flood : Bool) : Moves Chatter (meshcoreNodeAdvertRequest flood) := by
  unfold meshcoreNodeAdvertRequest; infer_instance

instance (raw : Option (List UInt8)) : Moves Chatter (meshcoreNodePeerAdvertRequest raw) := by
  unfold meshcoreNodePeerAdvertRequest; infer_instance

instance (key : Option (Buf publicKeySize)) (flood : Bool) (attempt : UInt8)
    (payload : Option (List UInt8)) :
    Moves Chatter (meshcoreMessageSendToNode key flood attempt payload) := by
  unfold meshcoreMessageSendToNode; infer_instance

instance (secret payload : Option (List UInt8)) :
    Moves Chatter (meshcoreMessageSendToChannel secret payload) := by
  unfold meshcoreMessageSendToChannel; infer_instance

instance (secret path : Option (List UInt8)) (pathLen : UInt8) (dataType : UInt16)
    (payload : Option (List UInt8)) :
    Moves Chatter (meshcoreChannelDataSend secret path pathLen dataType payload) := by
  unfold meshcoreChannelDataSend; infer_instance

instance (key : Option (Buf publicKeySize)) (tag : Option UInt32) :
    Moves Chatter (meshcoreNodeDiscoverPathRequest key tag) := by
  unfold meshcoreNodeDiscoverPathRequest; infer_instance

instance (path : Option (List UInt8)) (pathLen hashSize : UInt8) (tag : Option UInt32) :
    Moves Chatter (meshcoreNodeTraceRequest path pathLen hashSize tag) := by
  unfold meshcoreNodeTraceRequest; infer_instance

instance (tag : Option UInt32) : Moves Chatter (meshcoreNodeTracePathRequest tag) := by
  unfold meshcoreNodeTracePathRequest; infer_instance

instance (key : Option (Buf publicKeySize)) (mask : UInt8) (tag : Option UInt32) :
    Moves Chatter (meshcoreNodeTelemetryRequest key mask tag) := by
  unfold meshcoreNodeTelemetryRequest; infer_instance

instance (key : Option (Buf publicKeySize)) (payload : Option (List UInt8)) (tag : UInt32) :
    Moves Chatter (meshcoreNodeBinaryRequestWithTag key payload tag) := by
  unfold meshcoreNodeBinaryRequestWithTag; infer_instance

instance (key : Option (Buf publicKeySize)) (payload : Option (List UInt8)) :
    Moves Chatter (meshcoreNodeAnonDataSend key payload) := by
  unfold meshcoreNodeAnonDataSend; infer_instance

instance (event : Option BinaryRequestEvent) (payload : Option (List UInt8)) :
    Moves Chatter (meshcoreNodeBinaryResponse event payload) := by
  unfold meshcoreNodeBinaryResponse; infer_instance

instance (filter : UInt8) (prefixOnly : Bool) (since : UInt32) (tag : Option UInt32) :
    Moves Chatter (meshcoreNodeDiscoverRequest filter prefixOnly since tag) := by
  unfold meshcoreNodeDiscoverRequest; infer_instance

instance (path : Option (List UInt8)) (pathLen : UInt8) (payload : Option (List UInt8)) :
    Moves Chatter (meshcoreRawDataSend path pathLen payload) := by
  unfold meshcoreRawDataSend; infer_instance

instance (payload : Option (List UInt8)) : Moves Chatter (meshcoreControlDataSend payload) := by
  unfold meshcoreControlDataSend; infer_instance

end Meshcore
