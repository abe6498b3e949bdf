import Meshcore.MeshSend
import Meshcore.Pending

/-!
# Publishing events

`runtime/meshcore_runtime_event_publish.c`: from a received packet to the record the host gets.

## Main definitions

* `textMessagePublish`, `channelTextPublish`, `channelDataPublish`, `controlDataPublish`,
  `nodeDiscoverPublish`, `rawDataPublish`, `binaryRequestPublish`, `peerPathPublish`,
  `advertPublish`
-/

namespace Meshcore

/-- `meshcore_runtime_message_route_from_packet`. -/
def messageRouteFromPacket (packet : Packet) : Route :=
  if packet.isRouteFlood then .flood
  else if packet.isRouteDirect then .direct
  else .unspecified

/-- `snprintf` of `"%s"` into an array of `size`. -/
def printString (size : ℕ) (bytes : List UInt8) : List UInt8 := (cString bytes).take (size - 1)

/-- `meshcore_runtime_packet_path_copy`, into an array of `maxPathLen`. -/
def packetPathCopy (packet : Packet) : List UInt8 := packet.pathBytes

/-- `meshcore_runtime_text_message_publish`. -/
def textMessagePublish (peer : PeerIdentity) (packet : Packet) (senderTimestamp : UInt32)
    (text : List UInt8) : M Unit :=
  if text = [] then pure ()
  else
    emit <| .message
      { type := .receiveNode
        route := messageRouteFromPacket packet
        target := peer.publicKey.slice 0 4
        senderName := printString nodeNameMaxLen peer.name.bytes
        payload := text.take maxMessageTxLen
        senderTimestamp
        rxSnr := packet.getSnr }

/-- The characters of `"unknown"`. -/
def unknownName : List UInt8 := [0x75, 0x6E, 0x6B, 0x6E, 0x6F, 0x77, 0x6E]

abbrev charColon : UInt8 := 0x3A
abbrev charSpace : UInt8 := 0x20

/-- The sender name and the text of a channel message: what stands before the first colon, and what
follows it and one space. -/
def splitChannelText (text : List UInt8) : List UInt8 × List UInt8 :=
  let name := text.takeWhile (· != charColon)
  if name.length = text.length then (unknownName, text)
  else
    let payload := text.drop (name.length + 1)
    let payload := if payload.head? = some charSpace then payload.drop 1 else payload
    (if name = [] then unknownName else cString (name.take (nodeNameMaxLen - 1)), payload)

/-- `meshcore_runtime_channel_text_publish`. -/
def channelTextPublish (channel : GroupChannel) (packet : Packet) (senderTimestamp : UInt32)
    (text : List UInt8) : M Unit :=
  if text = [] then pure ()
  else
    let parts := splitChannelText text
    if parts.2 = [] then pure ()
    else
      emit <| .message
        { type := .receiveChannel
          route := messageRouteFromPacket packet
          target := channel.secret.slice 0 4
          senderName := parts.1
          payload := parts.2.take maxMessageTxLen
          senderTimestamp
          rxSnr := packet.getSnr }

/-- `meshcore_runtime_channel_data_publish`. -/
def channelDataPublish (channel : GroupChannel) (packet : Packet) (data : List UInt8) : M Unit :=
  if data.length < 3 then pure ()
  else
    let dataLen := (data.getD 2 0).toNat
    if dataLen > data.length - 3 ∨ dataLen > maxChannelDataPayloadLen then pure ()
    else
      emit <| .channelData
        { channelHash := channel.hash
          path := packetPathCopy packet
          dataType := UInt16.ofNat (leNat (data.take 2))
          payload := (data.drop 3).take dataLen
          rxSnrQ4 := packet.snrQ4 }

/-- The event of a packet whose whole payload goes to the host. -/
def dataEvent (packet : Packet) : DataEvent where
  path := packetPathCopy packet
  payload := packet.payloadBytes
  rxSnrQ4 := packet.snrQ4

/-- `meshcore_runtime_control_data_publish`. -/
def controlDataPublish (packet : Packet) : M Unit :=
  if packet.payloadLen = 0 ∨ packet.payloadLen > maxControlDataPayloadLen then pure ()
  else emit (.controlData (dataEvent packet))

/-- `meshcore_runtime_raw_data_publish`. -/
def rawDataPublish (packet : Packet) : M Unit :=
  if packet.payloadLen = 0 ∨ packet.payloadLen > maxRawDataPayloadLen then pure ()
  else emit (.rawData (dataEvent packet))

abbrev ctlTypeNodeDiscoverReq : UInt8 := 0x80
abbrev ctlTypeNodeDiscoverResp : UInt8 := 0x90

/-- `meshcore_runtime_node_discover_publish`. -/
def nodeDiscoverPublish (packet : Packet) : M Unit :=
  if packet.payloadLen < 6 ∨ packet.payload.get 0 &&& 0xF0 ≠ ctlTypeNodeDiscoverResp then pure ()
  else
    let role := roleFromAdvertType (packet.payload.get 0 &&& 0x0F)
    let keyLen := packet.payloadLen - 6
    if role = .none ∨ keyLen < nodeDiscoverPublicKeyPrefixBytes then pure ()
    else
      emit <| .nodeDiscover
        { role
          tag := wordAt (packet.payload.slice 2 4)
          publicKey := packet.payload.slice 6 (min keyLen publicKeySize)
          path := packetPathCopy packet
          uplinkSnr := (packet.payload.get 1).toInt8
          downlinkSnr := packet.snrQ4 }

/-- `meshcore_runtime_binary_request_publish`. -/
def binaryRequestPublish (peer : PeerIdentity) (packet : Packet) (tag : UInt32)
    (payload : List UInt8) : M Unit :=
  if payload.length = 0 ∨ payload.length > maxServiceRequestPayloadLen ∨ tag = 0 then pure ()
  else
    emit <| .binaryRequest
      { route := messageRouteFromPacket packet
        keyPrefix := keyPrefixOf peer.publicKey
        tag
        publicKey := peer.publicKey
        pathLen := packet.pathLenField
        path := pathBuf (packetPathCopy packet)
        payload
        rxSnrQ4 := packet.snrQ4 }

/-- The SNR records of a path answer: what the extra carries for the way out, and what the packet's
own path collected on the way back. -/
def pathSnrs (isChat : Bool) (packet : Packet) (extraType : UInt8) (extra : List UInt8) :
    List UInt8 × List UInt8 :=
  if isChat ∧ extraType = pathExtraTypeSnr ∧ extra.length ≥ 1 then
    let outCount := min (min (extra.getD 0 0).toNat (extra.length - 1)) maxPathLen
    ((extra.drop 1).take outCount,
      (extractReturnPathSnrs packet).elim [] fun snrs => appendSnrWithTrunc snrs packet.snrQ4)
  else ([], [])

/-- `meshcore_runtime_peer_path_publish`. -/
def peerPathPublish (packet : Packet) (peer : PeerIdentity) (path : List UInt8)
    (pathLen extraType : UInt8) (extra : List UInt8) : M Unit :=
  (pathLenDecode pathLen).elim (pure ()) fun decoded => do
    let isChat ← localRoleIs .chat
    let snrs := pathSnrs isChat packet extraType extra
    let timestamp ← timestampNowSeconds
    emit <| .peerPath
      { tag := 0
        keyPrefix := keyPrefixOf peer.publicKey
        timestamp
        lastSeenSnr := packet.snrQ4
        pathHashSize := decoded.2
        outPath := path.take decoded.1
        outPathSnr := snrs.1
        returnPathSnr := snrs.2 }

/-- `meshcore_runtime_raw_advert_copy`: the packet as a flood, serialised. -/
def rawAdvertCopy (packet : Packet) : List UInt8 :=
  let normalized := packet.withRouteType routeTypeFlood
  let written := normalized.writeTo (Buf.zero maxTransUnitLen)
  written.2.slice 0 written.1

/-- `meshcore_runtime_advert_publish`. -/
def advertPublish (packet : Packet) (identity : Identity) (timestamp : UInt32)
    (parser : AdvertDataParser) : M Unit :=
  let role := roleFromAdvertType parser.getType
  if !parser.valid ∨ role = .none then pure ()
  else
    emit <| .advert
      { name := if parser.hasName then printString nodeNameMaxLen parser.name else []
        role
        publicKey := identity
        isNew := true
        advertTimestamp := timestamp
        position := if parser.hasLatLon then some (parser.lat, parser.lon) else none
        outPath := (pathLenDecode packet.pathLenField).map fun d =>
          (d.2, packet.path.slice 0 d.1)
        rawAdvert := rawAdvertCopy packet }

instance (peer : PeerIdentity) (packet : Packet) (timestamp : UInt32) (text : List UInt8) :
    Moves Quiet (textMessagePublish peer packet timestamp text) := by
  unfold textMessagePublish; infer_instance

instance (channel : GroupChannel) (packet : Packet) (timestamp : UInt32) (text : List UInt8) :
    Moves Quiet (channelTextPublish channel packet timestamp text) := by
  unfold channelTextPublish; infer_instance

instance (channel : GroupChannel) (packet : Packet) (data : List UInt8) :
    Moves Quiet (channelDataPublish channel packet data) := by
  unfold channelDataPublish; infer_instance

instance (packet : Packet) : Moves Quiet (controlDataPublish packet) := by
  unfold controlDataPublish; infer_instance

instance (packet : Packet) : Moves Quiet (rawDataPublish packet) := by
  unfold rawDataPublish; infer_instance

instance (packet : Packet) : Moves Quiet (nodeDiscoverPublish packet) := by
  unfold nodeDiscoverPublish; infer_instance

instance (peer : PeerIdentity) (packet : Packet) (tag : UInt32) (payload : List UInt8) :
    Moves Quiet (binaryRequestPublish peer packet tag payload) := by
  unfold binaryRequestPublish; infer_instance

instance (packet : Packet) (peer : PeerIdentity) (path : List UInt8) (pl et : UInt8)
    (extra : List UInt8) : Moves Quiet (peerPathPublish packet peer path pl et extra) := by
  unfold peerPathPublish; infer_instance

instance (packet : Packet) (identity : Identity) (timestamp : UInt32) (parser : AdvertDataParser) :
    Moves Quiet (advertPublish packet identity timestamp parser) := by
  unfold advertPublish; infer_instance

end Meshcore
