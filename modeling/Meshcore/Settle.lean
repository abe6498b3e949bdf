import Meshcore.Dispatcher
import Meshcore.Request
import Meshcore.Slots

/-!
# What settles a request

The host learns of the answer to a request by one of five events. Most of the runtime publishes none
of them and leaves the request correlation alone: it is `KeepsCorrelation`. The rest either
processes a received packet, and then open requests end, or executes a request of the host, and then
one is opened; both keep an honest ledger, which is what `Books` says.

## Main definitions

* `Ending`, `AnsweredBy`, `Ends` — how an open request ends, and the event that answers it
* `Mute`, `KeepsCorrelation` — no event, and no event that answers a request
* `Books` — an honest ledger is kept, of entries that are allowed
* `Settling` — the entries that are allowed while packets are processed

## Main results

* the instances of `Moves KeepsCorrelation` and `Moves (Books _)`, up to `dispatcherLoop`
-/

set_option synthInstance.maxSize 10000

namespace Meshcore

/-! ### Endings -/

/-- Why an open request ends. -/
inductive Ending where
  /-- It was answered by an event, while a packet was processed at this time. -/
  | answered (nowMs : ℕ) (e : Event)
  /-- Its time had been reached. -/
  | expired (nowMs : ℕ)
  /-- A trace came back in the wrong shape. -/
  | malformed
  /-- The library was started or stopped. -/
  | reset

/-- The registration in a slot is answered by the event. -/
def AnsweredBy : Slot → Registration → Event → Prop
  | .ack _, r, e => e = .messageAck r.keyPrefix r.attempt
  | .discovery, r, e =>
    ∃ path, e = .peerPathPublish path true ∧ path.tag = r.tag ∧ path.keyPrefix = r.keyPrefix
  | .trace, r, e => ∃ out back snr timestamp, e = .tracePath 1 r.tag out back snr timestamp
  | .telemetry, r, e => ∃ timestamp payload, e = .telemetry r.keyPrefix timestamp r.tag payload
  | .binary, r, e => ∃ timestamp payload, e = .binaryResponse r.keyPrefix timestamp r.tag payload

/-- The registration in a slot can end so. Only an acknowledgement looks at the time. -/
def Ends (w : ℕ) : Slot → Registration → Ending → Prop
  | s, r, .answered nowMs e =>
    AnsweredBy s r e ∧ ∀ i, s = .ack i → timeReached w nowMs r.expiresAtMs = false
  | _, r, .expired nowMs => timeReached w nowMs r.expiresAtMs = true
  | s, _, .malformed => s = .trace
  | _, _, .reset => True

/-- What happens to the slots in a run. -/
abbrev CorrelationLedger : Type := List (LedgerEntry Slot Registration Ending)

/-- The event of an entry that is an answer. -/
def answerOf : LedgerEntry Slot Registration Ending → Option Event
  | .ended _ (.answered _ e) => some e
  | _ => none

/-- The events that tell the host of the answer to a request. -/
def Event.isCorrelated : Event → Bool
  | .messageAck .. | .peerPathPublish .. | .tracePath .. | .telemetry .. | .binaryResponse .. =>
    true
  | _ => false

/-! ### Relations -/

/-- No event goes out, and the request correlation, the clock and the record of accesses stay. -/
def Mute (_ : Ctx) (w w' : World) : Prop :=
  w'.events = w.events ∧ w'.correlation = w.correlation ∧ w'.millisOverride = w.millisOverride ∧
    w'.initialized = w.initialized ∧ w'.outside = w.outside ∧ w.tick ≤ w'.tick

instance : Composes Mute where
  refl _ _ := ⟨rfl, rfl, rfl, rfl, rfl, le_rfl⟩
  trans _ _ _ _ h h' := by
    obtain ⟨he, hc, hm, hi, ho, ht⟩ := h
    obtain ⟨he', hc', hm', hi', ho', ht'⟩ := h'
    exact ⟨he'.trans he, hc'.trans hc, hm'.trans hm, hi'.trans hi, ho'.trans ho, ht.trans ht'⟩

/-- No event goes out that answers a request, and the request correlation, the clock and the record
of accesses stay. -/
def KeepsCorrelation (_ : Ctx) (w w' : World) : Prop :=
  (∃ es, w'.events = w.events ++ es ∧ ∀ e ∈ es, e.isCorrelated = false) ∧
    w'.correlation = w.correlation ∧ w'.millisOverride = w.millisOverride ∧
    w'.initialized = w.initialized ∧ w'.outside = w.outside ∧ w.tick ≤ w'.tick

instance : Composes KeepsCorrelation where
  refl _ w := ⟨⟨[], by simp, by simp⟩, rfl, rfl, rfl, rfl, le_rfl⟩
  trans _ _ _ _ h h' := by
    obtain ⟨⟨es, hes, hall⟩, hc, hm, hi, ho, ht⟩ := h
    obtain ⟨⟨es', hes', hall'⟩, hc', hm', hi', ho', ht'⟩ := h'
    exact ⟨⟨es ++ es', by rw [hes', hes, List.append_assoc],
      List.forall_mem_append.mpr ⟨hall, hall'⟩⟩, hc'.trans hc, hm'.trans hm, hi'.trans hi,
      ho'.trans ho, ht.trans ht'⟩

theorem Asks.mute {ctx : Ctx} {w w' : World} (h : Asks ctx w w') : Mute ctx w w' := by
  obtain ⟨h, ht⟩ := h
  refine ⟨?_, ?_, ?_, ?_, ?_, ht⟩ <;> rw [h]

instance (priority := low) Moves.muteOfAsks {α : Type} (m : M α) [hm : Moves Asks m] :
    Moves Mute m := ⟨fun ctx w => (hm.moves ctx w).mute⟩

instance (priority := low) Moves.keepsCorrelationOfMute {α : Type} (m : M α) [hm : Moves Mute m] :
    Moves KeepsCorrelation m where
  moves ctx w := by
    obtain ⟨he, hrest⟩ := hm.moves ctx w
    exact ⟨⟨[], by simp [he], by simp⟩, hrest⟩

/-- The correlation is as an honest ledger says, whose answers are the events that went out. The
entries are `allowed`, given the clock. -/
def Books (allowed : Option ℕ → LedgerEntry Slot Registration Ending → Prop) (ctx : Ctx)
    (w w' : World) : Prop :=
  w'.millisOverride = w.millisOverride ∧ w'.initialized = w.initialized ∧
    ∃ l : CorrelationLedger,
      Honest (Ends ctx.ulongBits) w.correlation.slot l w'.correlation.slot ∧
      (∀ x ∈ l, allowed w.millisOverride x) ∧
      w'.events.filter Event.isCorrelated =
        w.events.filter Event.isCorrelated ++ l.filterMap answerOf

variable {allowed : Option ℕ → LedgerEntry Slot Registration Ending → Prop}

instance : Composes (Books allowed) where
  refl _ _ := ⟨rfl, rfl, [], .nil, by simp, by simp⟩
  trans _ _ _ _ h h' := by
    obtain ⟨hm, hi, l, hl, hall, hev⟩ := h
    obtain ⟨hm', hi', l', hl', hall', hev'⟩ := h'
    rw [hm] at hm' hall'
    exact ⟨hm', hi'.trans hi, l ++ l', hl.append hl', List.forall_mem_append.mpr ⟨hall, hall'⟩,
      by rw [hev', hev, List.filterMap_append, List.append_assoc]⟩

instance (priority := low) Moves.booksOfKeepsCorrelation {α : Type} (m : M α)
    [hm : Moves KeepsCorrelation m] :
    Moves (Books allowed) m where
  moves ctx w := by
    obtain ⟨⟨es, hes, hall⟩, hc, hrest⟩ := hm.moves ctx w
    refine ⟨hrest.1, hrest.2.1, [], ?_, by simp, ?_⟩
    · rw [hc]
      exact .nil
    · have hnone : es.filter Event.isCorrelated = [] :=
        List.filter_eq_nil_iff.mpr fun e he => by simp [hall e he]
      rw [hes, List.filter_append, hnone]
      rfl

/-- The entries that are allowed while packets are processed. -/
def Settling (clock : Option ℕ) : LedgerEntry Slot Registration Ending → Prop
  | .opened _ _ => False
  | .ended _ (.answered nowMs _) | .ended _ (.expired nowMs) => ∀ t, clock = some t → nowMs = t
  | .ended _ .malformed => True
  | .ended _ .reset => False

/-! ### Primitives -/

/-- An event that answers no request. -/
class Uncorrelated (e : Event) : Prop where
  uncorrelated : e.isCorrelated = false

instance (raw : List UInt8) : Uncorrelated (.radioPacketSend raw) := ⟨rfl⟩
instance (t : ℤ) : Uncorrelated (.radioNoiseFloorCalibrate t) := ⟨rfl⟩
instance : Uncorrelated .radioAgcReset := ⟨rfl⟩
instance (snr : ℚ) (rssi : Int16) (raw : List UInt8) : Uncorrelated (.logRxRaw snr rssi raw) :=
  ⟨rfl⟩
instance (p : Packet) (n : ℕ) (score : ℚ) : Uncorrelated (.logRx p n score) := ⟨rfl⟩
instance (p : Packet) (n : ℕ) : Uncorrelated (.logTx p n) := ⟨rfl⟩
instance (p : Packet) (n : ℕ) : Uncorrelated (.logTxFail p n) := ⟨rfl⟩
instance (type : RequestType) (code : ℤ) : Uncorrelated (.requestError type code) := ⟨rfl⟩
instance (key : Buf publicKeySize) (snr : Int8) : Uncorrelated (.peerSeenUpdate key snr) := ⟨rfl⟩
instance (m : Message) : Uncorrelated (.message m) := ⟨rfl⟩
instance (e : AdvertEvent) : Uncorrelated (.advert e) := ⟨rfl⟩
instance (e : PeerPathEvent) : Uncorrelated (.peerPath e) := ⟨rfl⟩
instance (e : BinaryRequestEvent) : Uncorrelated (.binaryRequest e) := ⟨rfl⟩
instance (e : NodeDiscoverEvent) : Uncorrelated (.nodeDiscover e) := ⟨rfl⟩
instance (e : ChannelDataEvent) : Uncorrelated (.channelData e) := ⟨rfl⟩
instance (e : DataEvent) : Uncorrelated (.rawData e) := ⟨rfl⟩
instance (e : DataEvent) : Uncorrelated (.controlData e) := ⟨rfl⟩
instance (p : Packet) (secret : Buf publicKeySize) (sender : Identity) (data : List UInt8) :
    Uncorrelated (.meshOnAnonDataRecv p secret sender data) := ⟨rfl⟩
instance (p : Packet) (type : UInt8) (sender : PeerIdentity) (secret : Buf publicKeySize)
    (data : List UInt8) : Uncorrelated (.meshOnPeerDataRecv p type sender secret data) := ⟨rfl⟩
instance (p : Packet) (sender : PeerIdentity) (secret : Buf publicKeySize) (path : List UInt8)
    (n type : UInt8) (extra : List UInt8) :
    Uncorrelated (.meshOnPeerPathRecv p sender secret path n type extra) := ⟨rfl⟩
instance (p : Packet) (tag code : UInt32) (flags : UInt8) (snrs : Buf maxPathLen)
    (hashes : List UInt8) : Uncorrelated (.meshOnTraceRecv p tag code flags snrs hashes) := ⟨rfl⟩
instance (p : Packet) (identity : Identity) (timestamp : UInt32) (data : List UInt8) :
    Uncorrelated (.meshOnAdvertRecv p identity timestamp data) := ⟨rfl⟩
instance (p : Packet) (type : UInt8) (channel : GroupChannel) (data : List UInt8) :
    Uncorrelated (.meshOnGroupDataRecv p type channel data) := ⟨rfl⟩
instance (p : Packet) : Uncorrelated (.meshOnControlDataRecv p) := ⟨rfl⟩
instance (p : Packet) : Uncorrelated (.meshOnRawDataRecv p) := ⟨rfl⟩
instance (p : Packet) (crc : UInt32) : Uncorrelated (.meshOnAckRecv p crc) := ⟨rfl⟩

instance (e : Event) [he : Uncorrelated e] : Moves KeepsCorrelation (emit e) :=
  ⟨fun _ _ => ⟨⟨[e], rfl, by simpa using he.uncorrelated⟩, rfl, rfl, rfl, rfl, le_rfl⟩⟩

instance (id : LocalIdentity) : Moves Mute (setSelfId id) :=
  ⟨fun _ _ => ⟨rfl, rfl, rfl, rfl, rfl, le_rfl⟩⟩

instance (v : UInt32) : Moves Mute (setRtcLastUnique v) :=
  ⟨fun _ _ => ⟨rfl, rfl, rfl, rfl, rfl, le_rfl⟩⟩

instance (f : Dispatcher → Dispatcher) : Moves Mute (modifyDispatcher f) :=
  ⟨fun _ _ => ⟨rfl, rfl, rfl, rfl, rfl, le_rfl⟩⟩

instance (f : PacketQueueManager → PacketQueueManager) : Moves Mute (modifyManager f) :=
  ⟨fun _ _ => ⟨rfl, rfl, rfl, rfl, rfl, le_rfl⟩⟩

instance (f : PacketQueueManager → Option PacketId × PacketQueueManager) :
    Moves Mute (takePacket f) := ⟨fun _ _ => ⟨rfl, rfl, rfl, rfl, rfl, le_rfl⟩⟩

instance (m : Mark) : Moves Mute (mark m) := ⟨fun _ _ => ⟨rfl, rfl, rfl, rfl, rfl, le_rfl⟩⟩

instance (id : PacketId) (packet : Packet) : Moves Mute (writePacket id packet) :=
  ⟨fun _ _ => ⟨rfl, rfl, rfl, rfl, rfl, le_rfl⟩⟩

instance (id : PacketId) (f : Packet → Packet) : Moves Mute (updatePacket id f) := by
  unfold updatePacket; infer_instance

instance : Moves Mute allocPacket := ⟨fun _ _ => ⟨rfl, rfl, rfl, rfl, rfl, le_rfl⟩⟩

instance (flag : UInt16) : Moves Mute (setErrFlag flag) := by unfold setErrFlag; infer_instance

instance : Moves Mute clockRtcGetCurrentTimeUnique := by
  unfold clockRtcGetCurrentTimeUnique; infer_instance

instance (packet : Packet) : Moves Mute (tablesHasSeen packet) where
  moves ctx w := by
    have hask : Mute ctx w (calculateHash packet ctx w).2 := Moves.moves ctx w
    rw [tablesHasSeen_run]
    dsimp only
    split <;> exact hask

/-! ### Policy and sending -/

instance : Moves Mute syncLocalIdentity := by
  unfold syncLocalIdentity; infer_instance

instance (packet : Packet) (maxCounters : List UInt8) :
    Moves Mute (packetIsLooped packet maxCounters) := by
  unfold packetIsLooped; infer_instance

instance (packet : Packet) : Moves Mute (allowPacketForward packet) := by
  unfold allowPacketForward; infer_instance

instance : Moves Mute dispatcherObtainNewPacket := by
  unfold dispatcherObtainNewPacket; infer_instance

instance (id : PacketId) : Moves Mute (dispatcherReleasePacket id) := by
  unfold dispatcherReleasePacket; infer_instance

instance (id : PacketId) (priority : UInt8) (delayMillis : UInt32) :
    Moves Mute (dispatcherSendPacket id priority delayMillis) := by
  unfold dispatcherSendPacket; infer_instance

instance (identity : LocalIdentity) (appData : List UInt8) :
    Moves Mute (meshCreateAdvert identity appData) := by
  unfold meshCreateAdvert; infer_instance

instance (id : PacketId) (type : UInt8) (clear : List UInt8) (secret : Buf publicKeySize)
    (data : List UInt8) :
    Moves Mute (fillEncrypted id type clear secret data) := by
  unfold fillEncrypted; infer_instance

instance (type : UInt8) (dest : Identity) (secret : Buf publicKeySize) (data : List UInt8) :
    Moves Mute (meshCreateDatagram type dest secret data) := by
  unfold meshCreateDatagram; infer_instance

instance (type : UInt8) (sender : LocalIdentity) (dest : Identity) (secret : Buf publicKeySize)
    (data : List UInt8) :
    Moves Mute (meshCreateAnonDatagram type sender dest secret data) := by
  unfold meshCreateAnonDatagram; infer_instance

instance (type : UInt8) (channel : GroupChannel) (data : List UInt8) :
    Moves Mute (meshCreateGroupDatagram type channel data) := by
  unfold meshCreateGroupDatagram; infer_instance

instance (ack : List UInt8) : Moves Mute (meshCreateAckData ack) := by
  unfold meshCreateAckData; infer_instance

instance (ack : List UInt8) (remaining : UInt8) :
    Moves Mute (meshCreateMultiAckData ack remaining) := by
  unfold meshCreateMultiAckData; infer_instance

instance (destHash : List UInt8) (secret : Buf publicKeySize) (path : List UInt8)
    (pathLen extraType : UInt8) (extra : List UInt8) :
    Moves Mute (meshCreatePathReturnByDestHash destHash secret path pathLen extraType extra) := by
  unfold meshCreatePathReturnByDestHash; infer_instance

instance (dest : Identity) (secret : Buf publicKeySize) (path : List UInt8)
    (pathLen extraType : UInt8) (extra : List UInt8) :
    Moves Mute (meshCreatePathReturnByIdentity dest secret path pathLen extraType extra) := by
  unfold meshCreatePathReturnByIdentity; infer_instance

instance (type : UInt8) (data : List UInt8) : Moves Mute (createPlain type data) := by
  unfold createPlain; infer_instance

instance (data : List UInt8) : Moves Mute (meshCreateRawData data) := by
  unfold meshCreateRawData; infer_instance

instance (data : List UInt8) : Moves Mute (meshCreateControlData data) := by
  unfold meshCreateControlData; infer_instance

instance (tag authCode : UInt32) (flags : UInt8) :
    Moves Mute (meshCreateTrace tag authCode flags) := by
  unfold meshCreateTrace; infer_instance

instance (packet : Packet) : Moves Mute (recordSentFlood packet) := by
  unfold recordSentFlood; infer_instance

instance (id : PacketId) (packet : Packet) (delayMillis : UInt32) :
    Moves Mute (sendFloodPacket id packet delayMillis) := by
  unfold sendFloodPacket; infer_instance

instance (id : PacketId) (delayMillis : UInt32) (pathHashSize : UInt8) :
    Moves Mute (meshSendFlood id delayMillis pathHashSize) := by
  unfold meshSendFlood; infer_instance

instance (id : PacketId) (codes : UInt16 × UInt16) (delayMillis : UInt32) (pathHashSize : UInt8) :
    Moves Mute (meshSendFloodByTransportCodes id codes delayMillis pathHashSize) := by
  unfold meshSendFloodByTransportCodes; infer_instance

instance (id : PacketId) (path : List UInt8) (pathLen : UInt8) (delayMillis : UInt32) :
    Moves Mute (meshSendDirect id path pathLen delayMillis) := by
  unfold meshSendDirect; infer_instance

instance (id : PacketId) (delayMillis : UInt32) : Moves Mute (meshSendZeroHop id delayMillis) := by
  unfold meshSendZeroHop; infer_instance

/-! ### Publishing and answering -/

instance (peer : PeerIdentity) (packet : Packet) (timestamp : UInt32) (text : List UInt8) :
    Moves KeepsCorrelation (textMessagePublish peer packet timestamp text) := by
  unfold textMessagePublish; infer_instance

instance (channel : GroupChannel) (packet : Packet) (timestamp : UInt32) (text : List UInt8) :
    Moves KeepsCorrelation (channelTextPublish channel packet timestamp text) := by
  unfold channelTextPublish; infer_instance

instance (channel : GroupChannel) (packet : Packet) (data : List UInt8) :
    Moves KeepsCorrelation (channelDataPublish channel packet data) := by
  unfold channelDataPublish; infer_instance

instance (packet : Packet) : Moves KeepsCorrelation (controlDataPublish packet) := by
  unfold controlDataPublish; infer_instance

instance (packet : Packet) : Moves KeepsCorrelation (rawDataPublish packet) := by
  unfold rawDataPublish; infer_instance

instance (packet : Packet) : Moves KeepsCorrelation (nodeDiscoverPublish packet) := by
  unfold nodeDiscoverPublish; infer_instance

instance (peer : PeerIdentity) (packet : Packet) (tag : UInt32) (payload : List UInt8) :
    Moves KeepsCorrelation (binaryRequestPublish peer packet tag payload) := by
  unfold binaryRequestPublish; infer_instance

instance (packet : Packet) (peer : PeerIdentity) (path : List UInt8) (pathLen extraType : UInt8)
    (extra : List UInt8) :
    Moves KeepsCorrelation (peerPathPublish packet peer path pathLen extraType extra) := by
  unfold peerPathPublish; infer_instance

instance (packet : Packet) (identity : Identity) (timestamp : UInt32) (parser : AdvertDataParser) :
    Moves KeepsCorrelation (advertPublish packet identity timestamp parser) := by
  unfold advertPublish; infer_instance

instance (key : Buf publicKeySize) (snr : Int8) :
    Moves KeepsCorrelation (peerSeenUpdate key snr) := by
  unfold peerSeenUpdate; infer_instance

instance (peer : PeerIdentity) (ack : List UInt8) : Moves Mute (sendAckDirect peer ack) := by
  unfold sendAckDirect; infer_instance

instance (peer : PeerIdentity) (secret : Buf publicKeySize) (packet : Packet) (ack : List UInt8) :
    Moves Mute (sendAckOrPathReturn peer secret packet ack) := by
  unfold sendAckOrPathReturn; infer_instance

instance (peer : PeerIdentity) (secret : Buf publicKeySize) (packet : Packet) (flags : UInt8)
    (data : List UInt8) (textEnd : ℕ) :
    Moves Mute (handleTextFollowUp peer secret packet flags data textEnd) := by
  unfold handleTextFollowUp; infer_instance

instance (peer : PeerIdentity) (secret : Buf publicKeySize) (packet : Packet) :
    Moves Mute (handleDiscoverPathRequest peer secret packet) := by
  unfold handleDiscoverPathRequest; infer_instance

instance (id : PacketId) (key : Buf publicKeySize) (delayMillis : UInt32) :
    Moves Mute (sendToPeer id key delayMillis) := by
  unfold sendToPeer; infer_instance

instance (peer : PeerIdentity) (secret : Buf publicKeySize) (packet : Packet) (tag : UInt32)
    (mask : UInt8) :
    Moves Mute (handleTelemetryRequest peer secret packet tag mask) := by
  unfold handleTelemetryRequest; infer_instance

instance (sender : PeerIdentity) (secret : Buf publicKeySize) (packet : Packet)
    (timestamp : UInt32) (flags : UInt8) (data : List UInt8) (textOff : ℕ) :
    Moves KeepsCorrelation (publishText sender secret packet timestamp flags data textOff) := by
  unfold publishText; infer_instance

instance (sender : PeerIdentity) (secret : Buf publicKeySize) (packet : Packet)
    (timestamp : UInt32) (data : List UInt8) :
    Moves KeepsCorrelation (onPeerText sender secret packet timestamp data) := by
  unfold onPeerText; infer_instance

instance (sender : PeerIdentity) (secret : Buf publicKeySize) (packet : Packet)
    (timestamp : UInt32) (data : List UInt8) :
    Moves KeepsCorrelation (onPeerReq sender secret packet timestamp data) := by
  unfold onPeerReq; infer_instance

instance (fallback : Event) (handler : M Unit) [Uncorrelated fallback]
    [Moves KeepsCorrelation handler] :
    Moves KeepsCorrelation (whenInitialized fallback handler) := by
  unfold whenInitialized; infer_instance

instance (packet : Packet) (identity : Identity) (timestamp : UInt32) (appData : List UInt8) :
    Moves KeepsCorrelation (onAdvertRecv packet identity timestamp appData) := by
  unfold onAdvertRecv; infer_instance

instance (packet : Packet) : Moves KeepsCorrelation (handleControlDiscoverRequest packet) := by
  unfold handleControlDiscoverRequest; infer_instance

instance (packet : Packet) : Moves KeepsCorrelation (onControlDataRecv packet) := by
  unfold onControlDataRecv; infer_instance

instance (packet : Packet) : Moves KeepsCorrelation (onRawDataRecv packet) := by
  unfold onRawDataRecv; infer_instance

instance (packet : Packet) (type : UInt8) (channel : GroupChannel) (data : List UInt8) :
    Moves KeepsCorrelation (onGroupDataRecv packet type channel data) := by
  unfold onGroupDataRecv; infer_instance

/-! ### Answers -/

/-- A registration in a single slot was answered by an event. -/
theorem Books.answered {ctx : Ctx} {w w' : World} {s : Slot} {r : Registration} {e : Event}
    (hopen : w.correlation.slot s = some r) (hanswers : AnsweredBy s r e) (hs : ∀ i, s ≠ .ack i)
    (he : e.isCorrelated = true) (hevents : w'.events = w.events ++ [e])
    (hslots : w'.correlation.slot = Function.update w.correlation.slot s none)
    (hclock : w'.millisOverride = w.millisOverride) (hinit : w'.initialized = w.initialized) :
    Books Settling ctx w w' := by
  refine ⟨hclock, hinit, [.ended s (.answered (w.millisOverride.getD 0) e)], ?_, ?_, ?_⟩
  · rw [hslots]
    exact .single _ ⟨r, hopen, hanswers, fun i hi => absurd hi (hs i)⟩
  · simpa [Settling] using fun t ht => by rw [ht, Option.getD_some]
  · simp [hevents, he, answerOf]

/-- A response answers the telemetry request that waits, or changes nothing. -/
theorem pendingTelemetryHandle_run (key : Buf publicKeySize) (timestamp : UInt32)
    (payload : List UInt8) (ctx : Ctx) (w : World) :
    pendingTelemetryHandle key timestamp payload ctx w =
      if w.correlation.pendingTelemetry.isAnswered key payload then
        (true,
          { w with
            events := w.events ++
              [.telemetry (keyPrefixOf key) timestamp (wordAt payload) (payload.drop 4)]
            correlation := { w.correlation with pendingTelemetry := .zero } })
      else (false, w) := by
  cases h : w.correlation.pendingTelemetry.isAnswered key payload <;>
    simp [pendingTelemetryHandle, h, emit, modifyCorrelation]

/-- A response answers the binary request that waits, or changes nothing. -/
theorem pendingBinaryHandle_run (key : Buf publicKeySize) (timestamp : UInt32)
    (payload : List UInt8) (ctx : Ctx) (w : World) :
    pendingBinaryHandle key timestamp payload ctx w =
      if w.correlation.pendingBinary.isAnswered key payload then
        (true,
          { w with
            events := w.events ++
              [.binaryResponse (keyPrefixOf key) timestamp (wordAt payload) (payload.drop 4)]
            correlation := { w.correlation with pendingBinary := .zero } })
      else (false, w) := by
  cases h : w.correlation.pendingBinary.isAnswered key payload <;>
    simp [pendingBinaryHandle, h, emit, modifyCorrelation]

/-- What it takes to answer the request a slot remembers. -/
theorem Pending.isAnswered_iff {pending : Pending} {key : Buf publicKeySize}
    {payload : List UInt8} :
    pending.isAnswered key payload = true ↔ pending.valid = true ∧ 4 ≤ payload.length ∧
      pending.tag = wordAt payload ∧ pending.keyPrefix = keyPrefixOf key := by
  simp [Pending.isAnswered, and_assoc]

instance (key : Buf publicKeySize) (timestamp : UInt32) (payload : List UInt8) :
    Moves (Books Settling) (pendingTelemetryHandle key timestamp payload) where
  moves ctx w := by
    rw [pendingTelemetryHandle_run]
    split
    · rename_i h
      obtain ⟨hvalid, -, htag, hkey⟩ := Pending.isAnswered_iff.mp h
      exact .answered (s := .telemetry) (Pending.registration_eq_some.mpr ⟨hvalid, rfl⟩)
        ⟨timestamp, payload.drop 4, by rw [htag, hkey]⟩ (by simp) rfl rfl
        (Correlation.slot_setTelemetry ..) rfl rfl
    · exact Composes.refl ctx w

instance (key : Buf publicKeySize) (timestamp : UInt32) (payload : List UInt8) :
    Moves (Books Settling) (pendingBinaryHandle key timestamp payload) where
  moves ctx w := by
    rw [pendingBinaryHandle_run]
    split
    · rename_i h
      obtain ⟨hvalid, -, htag, hkey⟩ := Pending.isAnswered_iff.mp h
      exact .answered (s := .binary) (Pending.registration_eq_some.mpr ⟨hvalid, rfl⟩)
        ⟨timestamp, payload.drop 4, by rw [htag, hkey]⟩ (by simp) rfl rfl
        (Correlation.slot_setBinary ..) rfl rfl
    · exact Composes.refl ctx w

/-- A path answers the path discovery that waits, or changes nothing. -/
theorem pendingDiscoveryHandle_cases (key : Buf publicKeySize) (packet : Packet)
    (path : List UInt8) (pathLenField extraType : UInt8) (extra : List UInt8) (ctx : Ctx)
    (w : World) :
    pendingDiscoveryHandle key packet path pathLenField extraType extra ctx w = (false, w) ∨
    ∃ decoded, pathLenDecode pathLenField = some decoded ∧
      w.correlation.pendingDiscovery.valid = true ∧ extraType = payloadTypeResponse ∧
      w.correlation.pendingDiscovery.keyPrefix = keyPrefixOf key ∧ 4 ≤ extra.length ∧
      w.correlation.pendingDiscovery.tag = wordAt extra ∧
      pendingDiscoveryHandle key packet path pathLenField extraType extra ctx w =
        let t := timestampNowSeconds ctx w
        (true,
          { t.2 with
            events := t.2.events ++ [.peerPathPublish
              { tag := w.correlation.pendingDiscovery.tag
                keyPrefix := keyPrefixOf key
                timestamp := t.1
                lastSeenSnr := packet.snrQ4
                pathHashSize := decoded.2
                outPath := path.take decoded.1
                outPathSnr := []
                returnPathSnr := [] } true]
            correlation := { t.2.correlation with pendingDiscovery := .zero } }) := by
  rw [pendingDiscoveryHandle, Prog.run_bind, Prog.run_gets]
  by_cases h₁ : (!w.correlation.pendingDiscovery.valid) = true ∨ extraType ≠ payloadTypeResponse ∨
      w.correlation.pendingDiscovery.keyPrefix ≠ keyPrefixOf key
  · exact .inl (by rw [if_pos h₁]; rfl)
  · rw [if_neg h₁]
    simp only [not_or, not_not, Bool.not_eq_true, Bool.not_eq_false'] at h₁
    cases hdecode : pathLenDecode pathLenField with
    | none => exact .inl rfl
    | some decoded =>
      simp only [Option.elim_some]
      by_cases h₂ : extra.length < 4
      · exact .inl (by rw [if_pos h₂]; rfl)
      · rw [if_neg h₂]
        by_cases h₃ : w.correlation.pendingDiscovery.tag ≠ wordAt extra
        · exact .inl (by rw [if_pos h₃]; rfl)
        · rw [if_neg h₃]
          exact .inr ⟨decoded, rfl, h₁.1, h₁.2.1, h₁.2.2, Nat.not_lt.mp h₂, not_not.mp h₃, rfl⟩

instance (key : Buf publicKeySize) (packet : Packet) (path : List UInt8)
    (pathLenField extraType : UInt8) (extra : List UInt8) :
    Moves (Books Settling)
      (pendingDiscoveryHandle key packet path pathLenField extraType extra) where
  moves ctx w := by
    obtain ⟨he, hc, hm, hi, -⟩ := (inferInstance : Moves Mute timestampNowSeconds).moves ctx w
    rcases pendingDiscoveryHandle_cases key packet path pathLenField extraType extra ctx w with
      h | ⟨decoded, -, hvalid, -, hkey, -, -, h⟩
    · rw [h]
      exact Composes.refl ctx w
    · rw [h]
      exact .answered (s := .discovery) (Pending.registration_eq_some.mpr ⟨hvalid, rfl⟩)
        ⟨_, rfl, rfl, hkey.symm⟩ (by simp) rfl (by dsimp only; rw [he])
        (by dsimp only; rw [hc]; exact Correlation.slot_setDiscovery ..) hm hi

/-- A trace that comes back has the wrong shape. -/
def TraceMalformed (flags snrCount hashBytes : UInt8) : Prop :=
  let hashSize : UInt8 := 1 <<< (flags &&& 3)
  hashSize = 0 ∨ hashSize = 4 ∨ hashBytes = 0 ∨ hashBytes % hashSize ≠ 0 ∨
    snrCount ≠ hashBytes / hashSize ∨ hashBytes / hashSize % 2 = 0

/-- A trace that comes back changes nothing, ends the wait, or answers the trace request. -/
theorem pendingTraceHandle_cases (tag : UInt32) (flags : UInt8) (snrs : Buf maxPathLen)
    (snrCount hashBytes : UInt8) (snr : Int8) (ctx : Ctx) (w : World) :
    pendingTraceHandle tag flags snrs snrCount hashBytes snr ctx w = (false, w) ∨
    (w.correlation.pendingTrace.valid = true ∧ w.correlation.pendingTrace.tag = tag ∧
      (TraceMalformed flags snrCount hashBytes ∧
        pendingTraceHandle tag flags snrs snrCount hashBytes snr ctx w =
          (false, { w with correlation := { w.correlation with pendingTrace := .zero } }) ∨
        ∃ out back, let t := timestampNowSeconds ctx w
          pendingTraceHandle tag flags snrs snrCount hashBytes snr ctx w =
            (true,
              { t.2 with
                events := t.2.events ++ [.tracePath 1 tag out back snr t.1]
                correlation := { t.2.correlation with pendingTrace := .zero } }))) := by
  rw [pendingTraceHandle, Prog.run_bind, Prog.run_gets]
  dsimp only
  split
  · exact .inl rfl
  · rename_i h₁
    simp only [not_or, not_not, Bool.not_eq_true, Bool.not_eq_false'] at h₁
    refine .inr ⟨h₁.1, h₁.2, ?_⟩
    split
    · rename_i h₂
      exact .inl ⟨by unfold TraceMalformed; tauto, rfl⟩
    · split
      · rename_i h₃
        exact .inl ⟨by unfold TraceMalformed; tauto, rfl⟩
      · exact .inr ⟨_, _, rfl⟩

instance (tag : UInt32) (flags : UInt8) (snrs : Buf maxPathLen) (snrCount hashBytes : UInt8)
    (snr : Int8) :
    Moves (Books Settling) (pendingTraceHandle tag flags snrs snrCount hashBytes snr) where
  moves ctx w := by
    obtain ⟨he, hc, hm, hi, -⟩ := (inferInstance : Moves Mute timestampNowSeconds).moves ctx w
    rcases pendingTraceHandle_cases tag flags snrs snrCount hashBytes snr ctx w with
      h | ⟨hvalid, htag, ⟨-, h⟩ | ⟨out, back, h⟩⟩
    · rw [h]
      exact Composes.refl ctx w
    · rw [h]
      refine ⟨rfl, rfl, [.ended .trace .malformed], ?_, by simp [Settling], by simp [answerOf]⟩
      have hopen := Pending.registration_eq_some.mpr ⟨hvalid, rfl⟩
      have hended : Honest (Ends ctx.ulongBits) w.correlation.slot [.ended .trace .malformed]
          (Function.update w.correlation.slot .trace none) := .single _ ⟨_, hopen, rfl⟩
      rw [← Pending.registration_zero, ← Correlation.slot_setTrace] at hended
      exact hended
    · rw [h]
      exact .answered (s := .trace) (Pending.registration_eq_some.mpr ⟨hvalid, rfl⟩)
        ⟨out, back, snr, _, by rw [htag]⟩ (by simp) rfl (by dsimp only; rw [he])
        (by dsimp only; rw [hc]; exact Correlation.slot_setTrace ..) hm hi

/-- Slots that are kept unless their time has been reached have an honest ledger of expiries. -/
theorem exists_ledger_of_kept {w nowMs : ℕ} {t t' : Slot → Option Registration}
    (h : ∀ s, KeptUnlessReached w nowMs (t s) (t' s)) :
    ∃ l : CorrelationLedger, Honest (Ends w) t l t' ∧
      ∀ x ∈ l, ∃ s, x = .ended s (.expired nowMs) := by
  obtain ⟨l, hl, hall⟩ := @Honest.exists_of_closes _ _ _ _ (Ends w) t t' (· = .expired nowMs)
    Slot.all fun s => (h s).imp_right fun ⟨hnone, hreached⟩ =>
      ⟨hnone, s.mem_all, fun r hr => ⟨_, rfl, hreached r hr⟩⟩
  refine ⟨l, hl, fun x hx => ?_⟩
  obtain ⟨s, reason, rfl, rfl⟩ := hall x hx
  exact ⟨s, rfl⟩

/-- Expiries tell the host nothing. -/
theorem filterMap_answerOf_expired {nowMs : ℕ} {l : CorrelationLedger}
    (h : ∀ x ∈ l, ∃ s, x = .ended s (.expired nowMs)) : l.filterMap answerOf = [] := by
  refine List.filterMap_eq_nil_iff.mpr fun x hx => ?_
  obtain ⟨s, rfl⟩ := h x hx
  rfl

theorem settling_of_expired {clock : Option ℕ} {nowMs : ℕ} {l : CorrelationLedger}
    (hclock : ∀ t, clock = some t → nowMs = t) (h : ∀ x ∈ l, ∃ s, x = .ended s (.expired nowMs)) :
    ∀ x ∈ l, Settling clock x := by
  intro x hx
  obtain ⟨s, rfl⟩ := h x hx
  exact hclock

/-- A clock that stands is read. -/
theorem clockMillisGet_of_override {ctx : Ctx} {w : World} {t : ℕ}
    (h : w.millisOverride = some t) : (clockMillisGet ctx w).1 = t := by
  simp [clockMillisGet, h]

/-- An acknowledgement changes nothing but what has expired, or it answers the first registration of
its code that has not. -/
theorem expectedAckHandle_cases (ackCrc : UInt32) (ctx : Ctx) (w : World) :
    let now := (clockMillisGet ctx w).1
    let w₁ : World := { (clockMillisGet ctx w).2 with
      correlation := w.correlation.expectedAckHandle ctx.ulongBits now ackCrc }
    let Kept s := KeptUnlessReached ctx.ulongBits now (w.correlation.slot s) (w₁.correlation.slot s)
    (expectedAckHandle ackCrc ctx w = (false, w₁) ∧ ∀ s, Kept s) ∨
    ∃ i r, w.correlation.slot (.ack i) = some r ∧ r.tag = ackCrc ∧
      timeReached ctx.ulongBits now r.expiresAtMs = false ∧
      expectedAckHandle ackCrc ctx w =
        (true, { w₁ with events := w.events ++ [.messageAck r.keyPrefix r.attempt] }) ∧
      w₁.correlation.slot (.ack i) = none ∧ ∀ s, s ≠ .ack i → Kept s := by
  obtain ⟨he, hc, -⟩ := (inferInstance : Moves Mute clockMillisGet).moves ctx w
  have hrun : expectedAckHandle ackCrc ctx w =
      ((ExpectedAck.handle ctx.ulongBits (clockMillisGet ctx w).1 ackCrc
        w.correlation.expectedAcks).2.elim (pure false) fun found => do
          emit (.messageAck found.1 found.2)
          pure true : M Bool) ctx
        { (clockMillisGet ctx w).2 with
          correlation := w.correlation.expectedAckHandle ctx.ulongBits (clockMillisGet ctx w).1
            ackCrc } := by
    rw [← hc]
    rfl
  intro now w₁ Kept
  rcases w.correlation.slot_expectedAckHandle ctx.ulongBits now ackCrc with
    ⟨hnone, hkept⟩ | ⟨i, r, hopen, htag, hreached, hfound, hfree, hkept⟩
  · rw [hnone] at hrun
    exact .inl ⟨hrun, hkept⟩
  · rw [hfound] at hrun
    refine .inr ⟨i, r, hopen, htag, hreached, ?_, hfree, hkept⟩
    rw [hrun, ← he]
    rfl

instance (ackCrc : UInt32) : Moves (Books Settling) (expectedAckHandle ackCrc) where
  moves ctx w := by
    have hclock : ∀ t, w.millisOverride = some t → (clockMillisGet ctx w).1 = t :=
      fun t => clockMillisGet_of_override
    obtain ⟨he, -, hm, hi, -⟩ := (inferInstance : Moves Mute clockMillisGet).moves ctx w
    rcases expectedAckHandle_cases ackCrc ctx w with
      ⟨h, hkept⟩ | ⟨i, r, hopen, -, hreached, h, hfree, hkept⟩
    · rw [h]
      obtain ⟨l, hl, hall⟩ := exists_ledger_of_kept hkept
      exact ⟨hm, hi, l, hl, settling_of_expired hclock hall,
        by simp [filterMap_answerOf_expired hall, he]⟩
    · rw [h]
      -- First the answer, then what had expired on the way to it.
      let x : LedgerEntry Slot Registration Ending :=
        .ended (.ack i) (.answered (clockMillisGet ctx w).1 (.messageAck r.keyPrefix r.attempt))
      have hx : Honest (Ends ctx.ulongBits) w.correlation.slot [x] (x.apply w.correlation.slot) :=
        .single x ⟨r, hopen, rfl, fun _ _ => hreached⟩
      obtain ⟨l, hl, hall⟩ := @exists_ledger_of_kept ctx.ulongBits (clockMillisGet ctx w).1
        (x.apply w.correlation.slot) _ fun s => by
          by_cases hs : s = .ack i
          · have hx' : x.apply w.correlation.slot (.ack i) = none := Function.update_self ..
            rw [hs]
            exact .inl (hfree.trans hx'.symm)
          · rw [LedgerEntry.apply_of_ne (Ne.symm hs)]
            exact hkept s hs
      refine ⟨hm, hi, x :: l, hx.append hl,
        List.forall_mem_cons.mpr ⟨hclock, settling_of_expired hclock hall⟩, ?_⟩
      rw [List.filterMap_cons, filterMap_answerOf_expired hall]
      simp [x, answerOf, Event.isCorrelated]

/-! ### Receiving -/

instance (sender : PeerIdentity) (payload : List UInt8) :
    Moves (Books Settling) (onPeerResponse sender payload) := by
  unfold onPeerResponse; infer_instance

instance (packet : Packet) (type : UInt8) (sender : PeerIdentity) (secret : Buf publicKeySize)
    (data : List UInt8) :
    Moves (Books Settling) (onPeerDataRecvInternal packet type sender secret data) := by
  unfold onPeerDataRecvInternal; infer_instance

instance (fallback : Event) (handler : M Unit) [Uncorrelated fallback]
    [Moves (Books Settling) handler] :
    Moves (Books Settling) (whenInitialized fallback handler) := by
  unfold whenInitialized; infer_instance

instance (packet : Packet) (type : UInt8) (sender : PeerIdentity) (secret : Buf publicKeySize)
    (data : List UInt8) :
    Moves (Books Settling) (onPeerDataRecv packet type sender secret data) := by
  unfold onPeerDataRecv; infer_instance

instance (packet : Packet) (ackCrc : UInt32) :
    Moves (Books Settling) (onAckRecv packet ackCrc) := by
  unfold onAckRecv; infer_instance

instance (packet : Packet) (sender : PeerIdentity) (secret : Buf publicKeySize)
    (path : List UInt8) (pathLen extraType : UInt8) (extra : List UInt8) :
    Moves (Books Settling) (onPeerPathRecv packet sender secret path pathLen extraType extra) := by
  unfold onPeerPathRecv; infer_instance

instance (packet : Packet) (tag authCode : UInt32) (flags : UInt8) (snrs : Buf maxPathLen)
    (hashes : List UInt8) :
    Moves (Books Settling) (onTraceRecv packet tag authCode flags snrs hashes) := by
  unfold onTraceRecv; infer_instance

instance (packet : Packet) : Moves Mute (handOver packet) := by
  unfold handOver; infer_instance

instance (inside : Prop) [Decidable inside] : Moves (Books Settling) (access inside) :=
  ⟨fun _ _ => ⟨rfl, rfl, [], .nil, by simp, by simp [access]⟩⟩

instance (packet : Packet) (i n : ℕ) : Moves (Books Settling) (payloadRead packet i n) := by
  unfold payloadRead; infer_instance

instance (packet : Packet) (i : ℕ) : Moves (Books Settling) (payloadByte packet i) := by
  unfold payloadByte; infer_instance

instance (packet : Packet) (i n : ℕ) : Moves (Books Settling) (pathRead packet i n) := by
  unfold pathRead; infer_instance

instance (packet : Packet) : Moves (Books Settling) (accessInner packet) := by
  unfold accessInner; infer_instance

instance (received : Packet) (sz n k : ℕ) (path : Buf maxPathLen) :
    Moves (Books Settling) (shiftPath received sz n k path) := by
  induction n generalizing k path with
  | zero => unfold shiftPath; infer_instance
  | succ n ih => unfold shiftPath; infer_instance

instance (packet : Packet) : Moves (Books Settling) (meshRemoveSelfFromPath packet) := by
  unfold meshRemoveSelfFromPath; infer_instance

instance (packet : Packet) : Moves (Books Settling) (meshRouteRecvPacket packet) := by
  unfold meshRouteRecvPacket; infer_instance

instance (packet : Packet) (id : PacketId) (delayMillis : UInt32) :
    Moves (Books Settling) (sendAckAlong packet id delayMillis) := by
  unfold sendAckAlong; infer_instance

instance (packet : Packet) (n : ℕ) (delayMillis : UInt32) :
    Moves (Books Settling) (routeExtraAcks packet n delayMillis) := by
  induction n generalizing delayMillis with
  | zero => unfold routeExtraAcks; infer_instance
  | succ n ih => unfold routeExtraAcks; infer_instance

instance (packet : Packet) (delayMillis : UInt32) :
    Moves (Books Settling) (meshRouteDirectRecvAcks packet delayMillis) := by
  unfold meshRouteDirectRecvAcks; infer_instance

instance (packet : Packet) : Moves (Books Settling) (meshForwardMultipartDirect packet) := by
  unfold meshForwardMultipartDirect; infer_instance

instance (packet : Packet) (hash : List UInt8) (hashSize : ℕ) :
    Moves (Books Settling) (forwardTrace packet hash hashSize) := by
  unfold forwardTrace; infer_instance

instance (packet : Packet) : Moves (Books Settling) (onRecvTrace packet) := by
  unfold onRecvTrace; infer_instance

instance (packet : Packet) : Moves (Books Settling) (onRecvDirectHop packet) := by
  unfold onRecvDirectHop; infer_instance

instance (packet : Packet) : Moves (Books Settling) (onRecvAck packet) := by
  unfold onRecvAck; infer_instance

instance (packet : Packet) (srcHash : UInt8) (sender : PeerIdentity) (secret : Buf publicKeySize)
    (r : PathReturn) : Moves (Books Settling) (onRecvPath packet srcHash sender secret r) := by
  unfold onRecvPath; infer_instance

instance (packet : Packet) (srcHash : UInt8) (macAndData : List UInt8) (n cursor : ℕ) :
    Moves (Books Settling) (tryPeers packet srcHash macAndData n cursor) := by
  induction n generalizing cursor with
  | zero => unfold tryPeers; infer_instance
  | succ n ih => unfold tryPeers; infer_instance

instance (packet : Packet) : Moves (Books Settling) (onRecvPeer packet) := by
  unfold onRecvPeer; infer_instance

instance (packet : Packet) : Moves (Books Settling) (onRecvAnon packet) := by
  unfold onRecvAnon; infer_instance

instance (packet : Packet) (macAndData : List UInt8) (channels : List GroupChannel) :
    Moves KeepsCorrelation (tryChannels packet macAndData channels) := by
  induction channels with
  | nil => unfold tryChannels; infer_instance
  | cons channel channels ih => unfold tryChannels; infer_instance

instance (packet : Packet) : Moves (Books Settling) (onRecvGroup packet) := by
  unfold onRecvGroup; infer_instance

instance (packet : Packet) : Moves (Books Settling) (onRecvAdvert packet) := by
  unfold onRecvAdvert; infer_instance

instance (packet : Packet) : Moves (Books Settling) (onRecvRawCustom packet) := by
  unfold onRecvRawCustom; infer_instance

instance (packet : Packet) : Moves (Books Settling) (onRecvMultipart packet) := by
  unfold onRecvMultipart; infer_instance

instance (packet : Packet) : Moves (Books Settling) (onRecvPayload packet) := by
  unfold onRecvPayload; infer_instance

instance (packet : Packet) : Moves (Books Settling) (onRecvRouted packet) := by
  unfold onRecvRouted; infer_instance

instance (packet : Packet) : Moves (Books Settling) (meshOnRecvPacket packet) := by
  unfold meshOnRecvPacket; infer_instance

/-! ### The dispatcher -/

instance : Moves Mute dispatcherUpdateTxBudget := by
  unfold dispatcherUpdateTxBudget; infer_instance

instance (needed : ℕ) : Moves Mute (waitForBudget needed) := by
  unfold waitForBudget; infer_instance

instance (id : PacketId) (action : Action) : Moves Mute (dispatcherSettle id action) := by
  unfold dispatcherSettle; infer_instance

instance (id : PacketId) : Moves (Books Settling) (dispatcherProcessRecvPacket id) := by
  unfold dispatcherProcessRecvPacket; infer_instance

instance (id : PacketId) (packet : Packet) (score : ℚ) (airTime : UInt32) :
    Moves (Books Settling) (dispatcherReceivePacket id packet score airTime) := by
  unfold dispatcherReceivePacket; infer_instance

instance (snr : ℚ) (packetLen : ℕ) : Moves Mute (radioPacketScore snr packetLen) := by
  unfold radioPacketScore; infer_instance

instance (id : PacketId) (packet : Packet) (rawLength : ℕ) (snr : ℚ) :
    Moves (Books Settling) (dispatcherReceiveParsed id packet rawLength snr) := by
  unfold dispatcherReceiveParsed; infer_instance

instance (raw : List UInt8) (rssiDbm : Int16) (snrQ4 : Int8) :
    Moves (Books Settling) (dispatcherReceiveRaw raw rssiDbm snrQ4) := by
  unfold dispatcherReceiveRaw; infer_instance

instance (agcResetInterval : ℤ) : Moves Mute (armAgcReset agcResetInterval) := by
  unfold armAgcReset; infer_instance

instance : Moves Mute chargeAirTime := by
  unfold chargeAirTime; infer_instance

instance : Moves Mute scheduleNextTx := by
  unfold scheduleNextTx; infer_instance

instance (packet : Packet) : Moves Mute (countSent packet) := by
  unfold countSent; infer_instance

instance (id : PacketId) : Moves Mute (releaseOutbound id) := by
  unfold releaseOutbound; infer_instance

instance (success : Bool) : Moves KeepsCorrelation (dispatcherTxDone success) := by
  unfold dispatcherTxDone; infer_instance

instance (id : PacketId) (now : ℕ) : Moves KeepsCorrelation (startSend id now) := by
  unfold startSend; infer_instance

instance (now : ℕ) : Moves KeepsCorrelation (sendNext now) := by
  unfold sendNext; infer_instance

instance (now : ℕ) : Moves Mute (channelBusy now) := by
  unfold channelBusy; infer_instance

instance : Moves KeepsCorrelation dispatcherCheckSend := by
  unfold dispatcherCheckSend; infer_instance

instance : Moves KeepsCorrelation floorCalibrate := by
  unfold floorCalibrate; infer_instance

instance : Moves KeepsCorrelation trackRecvMode := by
  unfold trackRecvMode; infer_instance

instance : Moves KeepsCorrelation expireOutbound := by
  unfold expireOutbound; infer_instance

instance (agcResetInterval : ℤ) : Moves KeepsCorrelation (agcReset agcResetInterval) := by
  unfold agcReset; infer_instance

instance : Moves (Books Settling) takeInbound := by
  unfold takeInbound; infer_instance

instance : Moves (Books Settling) dispatcherLoop := by
  unfold dispatcherLoop; infer_instance

end Meshcore
