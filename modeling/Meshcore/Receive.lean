import Meshcore.Publish

/-!
# The runtime's handlers

`runtime/meshcore_runtime_receive.c` and `runtime/meshcore_runtime_control.c`: what `runtime_ops`
gives the mesh for a packet that is addressed to this node. A handler publishes events, settles the
request correlation and may send an answer; the packet itself stays with its caller.

While the runtime is not initialised each handler passes the packet to the host instead.

## Main definitions

* `handleTextFollowUp` — the acknowledgement of a text
* `onPeerDataRecv`, `onPeerPathRecv`, `onAckRecv`, `onAdvertRecv`, `onControlDataRecv`,
  `onRawDataRecv`, `onGroupDataRecv`, `onTraceRecv`
-/

namespace Meshcore

abbrev txtTypePlain : UInt8 := 0
abbrev txtTypeSignedPlain : UInt8 := 2

abbrev reqTypeGetTelemetryData : UInt8 := 0x03
abbrev reqTypeDiscoverPathSnr : UInt8 := 0x07

abbrev runtimeTxtAckDelayMs : UInt32 := 200
abbrev runtimeServerResponseDelayMs : UInt32 := 300

/-- `MESHCORE_RUNTIME_TELEM_PERM_SUPPORTED`. -/
abbrev telemPermSupported : UInt8 := 0x01 ||| 0x02 ||| 0x04

/-- `meshcore_runtime_telemetry_wire_decode`. -/
def telemetryWireDecode (wireMask : UInt8) : UInt8 := ~~~wireMask &&& telemPermSupported

/-- `meshcore_runtime_peer_seen_update`. -/
def peerSeenUpdate (publicKey : Buf publicKeySize) (snrQ4 : Int8) : M Unit :=
  emit (.peerSeenUpdate publicKey snrQ4)

/-! ### Acknowledgements -/

/-- `meshcore_runtime_send_ack_direct`: without a known path the acknowledgement is flooded. -/
def sendAckDirect (peer : PeerIdentity) (ack : List UInt8) : M Unit := do
  let peerPath ← peerPathGet peer.publicKey
  peerPath.elim
    (do
      let packet ← meshCreateAckData ack
      packet.elim (pure ()) fun id => do
        let hashSize ← localPathHashSizeGet
        meshSendFlood id runtimeTxtAckDelayMs hashSize)
    fun peerPath => do
      let extraAcks ← hook Hooks.extraAckTransmitCount
      let delayMs ←
        (if extraAcks > 0 then do
          let packet ← meshCreateMultiAckData ack 1
          packet.elim (pure runtimeTxtAckDelayMs) fun id => do
            meshSendDirect id peerPath.1.outPath.bytes peerPath.2 runtimeTxtAckDelayMs
            pure (runtimeTxtAckDelayMs + 300)
        else pure runtimeTxtAckDelayMs)
      let packet ← meshCreateAckData ack
      packet.elim (pure ()) fun id =>
        meshSendDirect id peerPath.1.outPath.bytes peerPath.2 delayMs

/-- `meshcore_runtime_send_ack_or_path_return`: a flood is answered by the path it came by, with
the acknowledgement as the extra. -/
def sendAckOrPathReturn (peer : PeerIdentity) (secret : Buf publicKeySize) (packet : Packet)
    (ack : List UInt8) : M Unit :=
  if packet.isRouteFlood then do
    let reply ← meshCreatePathReturnByIdentity peer.publicKey secret packet.path.bytes
      packet.pathLenField payloadTypeAck ack
    reply.elim (pure ()) fun id => do
      let hashSize ← localPathHashSizeGet
      meshSendFlood id runtimeTxtAckDelayMs hashSize
  else sendAckDirect peer ack

/-- `meshcore_runtime_handle_text_follow_up`. -/
def handleTextFollowUp (peer : PeerIdentity) (secret : Buf publicKeySize) (packet : Packet)
    (flags : UInt8) (data : List UInt8) (textEnd : ℕ) : M Unit :=
  if textEnd ≤ 4 then pure ()
  else if flags = txtTypePlain then do
    let hash ← utilsSha256TwoFragments 4 (data.take textEnd) peer.publicKey.bytes
    let extended : UInt8 := if textEnd + 1 < data.length then data.getD (textEnd + 1) 0 else 0
    let random ← hook fun h => h.rngRandom 1
    sendAckOrPathReturn peer secret packet (hash.bytes ++ [extended] ++ random.bytes)
  else if flags = txtTypeSignedPlain then do
    let selfId ← Prog.gets World.selfId
    let hash ← utilsSha256TwoFragments 4 (data.take textEnd) selfId.identity.bytes
    sendAckOrPathReturn peer secret packet hash.bytes
  else pure ()

/-! ### Requests -/

/-- `meshcore_runtime_build_forward_path_snrs`: the hashes and the SNR bytes of a path that carries
both. -/
def buildForwardPathSnrs (packet : Packet) : Option (List UInt8 × List UInt8) :=
  let tupleSize := packet.getPathHashSize
  if !packet.hasSnrFlag ∨ tupleSize < 2 ∨ tupleSize = 4 then none
  else
    let stride := tupleSize.toNat
    let hashSize := stride - 1
    let hops := packet.getPathHashCount.toNat
    if hops * stride > maxPathLen then none
    else
      some ((List.range hops).flatMap fun i => packet.path.slice (i * stride) hashSize,
        (List.range hops).map fun i => packet.path.get (i * stride + hashSize))

/-- `meshcore_runtime_handle_discover_path_request`. -/
def handleDiscoverPathRequest (peer : PeerIdentity) (secret : Buf publicKeySize)
    (packet : Packet) : M Unit :=
  if !packet.isRouteFlood then pure ()
  else
    let forward := (buildForwardPathSnrs packet).bind fun built =>
      let snrs := appendSnrWithTrunc built.2 packet.snrQ4
      (pathLenEncode (packet.getPathHashSize - 1) (UInt8.ofNat built.1.length)).map fun pathLen =>
        (built.1, pathLen, UInt8.ofNat snrs.length :: snrs)
    forward.elim
      (do
        let reply ← meshCreatePathReturnByIdentity peer.publicKey secret packet.path.bytes
          packet.pathLenField 0 []
        reply.elim (pure ()) fun id => do
          let hashSize ← localPathHashSizeGet
          meshSendFlood id runtimeServerResponseDelayMs hashSize)
      fun forward => do
        let reply ← meshCreatePathReturnByIdentity peer.publicKey secret forward.1 forward.2.1
          pathExtraTypeSnr forward.2.2
        reply.elim (pure ()) fun id => do
          let hashSize ← localPathHashSizeGet
          meshSendFloodByTransportCodes id (snrTransportCode0, snrTransportCode1)
            runtimeServerResponseDelayMs hashSize

/-- The way back to a peer for a response: its stored path, or a flood. -/
def sendToPeer (id : PacketId) (publicKey : Buf publicKeySize) (delayMillis : UInt32) :
    M Unit := do
  let peerPath ← peerPathGet publicKey
  peerPath.elim
    (do
      let hashSize ← localPathHashSizeGet
      meshSendFlood id delayMillis hashSize)
    fun peerPath => meshSendDirect id peerPath.1.outPath.bytes peerPath.2 delayMillis

/-- `meshcore_runtime_handle_telemetry_request`. -/
def handleTelemetryRequest (peer : PeerIdentity) (secret : Buf publicKeySize) (packet : Packet)
    (tag : UInt32) (permissionMask : UInt8) : M Unit := do
  let telemetry ← hook fun h => h.telemetryNode (keyPrefixOf peer.publicKey) permissionMask
  telemetry.elim (pure ()) fun telemetry =>
    if telemetry.1 > maxTelemetryPayloadLen then pure ()
    else
      let response := leBytes 4 tag.toNat ++ telemetry.2.slice 0 telemetry.1
      if packet.isRouteFlood then do
        let reply ← meshCreatePathReturnByIdentity peer.publicKey secret packet.path.bytes
          packet.pathLenField payloadTypeResponse response
        reply.elim (pure ()) fun id => do
          let hashSize ← localPathHashSizeGet
          meshSendFlood id runtimeServerResponseDelayMs hashSize
      else do
        let reply ← meshCreateDatagram payloadTypeResponse peer.publicKey secret response
        reply.elim (pure ()) fun id => sendToPeer id peer.publicKey runtimeServerResponseDelayMs

/-- `meshcore_runtime_local_role_answers_telemetry`. -/
def localRoleAnswersTelemetry : M Bool := do
  let isChat ← localRoleIs .chat
  if isChat then pure true
  else do
    let isRepeater ← localRoleIs .repeater
    if isRepeater then pure true
    else do
      let isRoom ← localRoleIs .room
      if isRoom then pure true else localRoleIs .sensor

/-! ### Peer data -/

/-- The text that starts at `textOff` and ends before the next zero: published if there is any, and
acknowledged. -/
def publishText (sender : PeerIdentity) (secret : Buf publicKeySize) (packet : Packet)
    (timestamp : UInt32) (flags : UInt8) (data : List UInt8) (textOff : ℕ) : M Unit := do
  let text := cString (data.drop textOff)
  (if text.length > 0 then textMessagePublish sender packet timestamp text else pure ())
  handleTextFollowUp sender secret packet flags data (textOff + text.length)

/-- The `TXT_MSG` branch of `meshcore_runtime_on_peer_data_recv_internal`. -/
def onPeerText (sender : PeerIdentity) (secret : Buf publicKeySize) (packet : Packet)
    (timestamp : UInt32) (data : List UInt8) : M Unit :=
  let flags := data.getD 4 0 >>> 2
  if flags = txtTypeSignedPlain then
    if data.length ≤ 9 then pure ()
    else do
      let rc ← syncLocalIdentity
      if rc ≠ 0 then pure ()
      else publishText sender secret packet timestamp flags data 9
  else if flags = txtTypePlain then publishText sender secret packet timestamp flags data 5
  else pure ()

/-- The `REQ` branch. -/
def onPeerReq (sender : PeerIdentity) (secret : Buf publicKeySize) (packet : Packet)
    (timestamp : UInt32) (data : List UInt8) : M Unit :=
  let publish := binaryRequestPublish sender packet timestamp (data.drop 4)
  if data.length > 5 then do
    let reqType := data.getD 4 0
    let permissionMask := telemetryWireDecode (data.getD 5 0)
    let isChat ← localRoleIs .chat
    if isChat ∧ (reqType = reqTypeDiscoverPathSnr ∨
      (reqType = reqTypeGetTelemetryData ∧ packet.hasSnrFlag))
    then handleDiscoverPathRequest sender secret packet
    else if reqType = reqTypeGetTelemetryData then do
      let answers ← localRoleAnswersTelemetry
      if answers then handleTelemetryRequest sender secret packet timestamp permissionMask
      else publish
    else publish
  else publish

/-- A response, matched against the pending telemetry request and then the binary one. -/
def onPeerResponse (sender : PeerIdentity) (payload : List UInt8) : M Unit := do
  let responseTimestamp ← timestampNowSeconds
  let handled ← pendingTelemetryHandle sender.publicKey responseTimestamp payload
  if handled then pure ()
  else do
    let _ ← pendingBinaryHandle sender.publicKey responseTimestamp payload
    pure ()

/-- `meshcore_runtime_on_peer_data_recv_internal`. -/
def onPeerDataRecvInternal (packet : Packet) (type : UInt8) (sender : PeerIdentity)
    (secret : Buf publicKeySize) (data : List UInt8) : M Unit := do
  let timestamp := if data.length ≥ 4 then wordAt data else 0
  let isChat ← localRoleIs .chat
  (if isChat ∧ type = payloadTypeTxtMsg ∧ data.length > 5 then
    onPeerText sender secret packet timestamp data
  else if type = payloadTypeReq ∧ data.length > 4 then
    onPeerReq sender secret packet timestamp data
  else if type = payloadTypeResponse ∧ data.length ≥ 4 then onPeerResponse sender data
  else pure ())
  peerSeenUpdate sender.publicKey packet.snrQ4

/-- The runtime handles a packet itself only while it is initialised. -/
def whenInitialized (fallback : Event) (handler : M Unit) : M Unit := do
  let initialized ← Prog.gets World.initialized
  if !initialized then emit fallback else handler

/-- `meshcore_runtime_on_peer_data_recv`. -/
def onPeerDataRecv (packet : Packet) (type : UInt8) (sender : PeerIdentity)
    (secret : Buf publicKeySize) (data : List UInt8) : M Unit :=
  whenInitialized (.meshOnPeerDataRecv packet type sender secret data)
    (onPeerDataRecvInternal packet type sender secret data)

/-- `meshcore_runtime_on_ack_recv`. -/
def onAckRecv (packet : Packet) (ackCrc : UInt32) : M Unit :=
  whenInitialized (.meshOnAckRecv packet ackCrc) do
    let _ ← expectedAckHandle ackCrc
    pure ()

/-- `meshcore_runtime_on_peer_path_recv`: whether the mesh should answer with the reverse path. -/
def onPeerPathRecv (packet : Packet) (sender : PeerIdentity) (secret : Buf publicKeySize)
    (path : List UInt8) (pathLen extraType : UInt8) (extra : List UInt8) : M Bool := do
  let initialized ← Prog.gets World.initialized
  if !initialized then do
    emit (.meshOnPeerPathRecv packet sender secret path pathLen extraType extra)
    hook Hooks.meshOnPeerPathRecv
  else do
    let discovered ← pendingDiscoveryHandle sender.publicKey packet path pathLen extraType extra
    if discovered then pure true
    else do
      let isChat ← localRoleIs .chat
      (if isChat ∧ extraType = payloadTypeAck ∧ extra.length ≥ 4 then do
        let _ ← expectedAckHandle (wordAt extra)
        pure ()
      else do
        let isChat ← localRoleIs .chat
        if isChat ∧ extraType = payloadTypeResponse ∧ extra.length ≥ 4 then
          onPeerResponse sender extra
        else pure ())
      peerPathPublish packet sender path pathLen extraType extra
      localRoleIs .chat

/-! ### Other packets -/

/-- `meshcore_runtime_advert_is_share`. -/
def advertIsShare (packet : Packet) : Bool :=
  packet.hasTransportCodes && packet.transportCodes.1 == 0 && packet.transportCodes.2 == 0

/-- `meshcore_runtime_on_advert_recv`. -/
def onAdvertRecv (packet : Packet) (identity : Identity) (timestamp : UInt32)
    (appData : List UInt8) : M Unit :=
  whenInitialized (.meshOnAdvertRecv packet identity timestamp appData) <|
    if appData.length = 0 ∨ appData.length > 255 then pure ()
    else
      let parser := AdvertDataParser.init appData
      if !parser.valid then pure ()
      else do
        let isChat ← localRoleIs .chat
        if isChat then
          if parser.hasName then advertPublish packet identity timestamp parser else pure ()
        else do
          let isRepeater ← localRoleIs .repeater
          if isRepeater ∧ packet.pathLen = 0 ∧ !advertIsShare packet ∧
            parser.getType = advTypeRepeater
          then advertPublish packet identity timestamp parser
          else pure ()

/-- `meshcore_runtime_handle_control_discover_request`. -/
def handleControlDiscoverRequest (packet : Packet) : M Unit :=
  if packet.payloadLen < 6 ∨ packet.payload.get 0 &&& 0xF0 ≠ ctlTypeNodeDiscoverReq then pure ()
  else do
    let lastModify ← hook Hooks.nodeConfigLastModify
    lastModify.elim (pure ()) fun lastModify => do
      let identity ← localIdentityGet
      identity.elim (pure ()) fun identity =>
        let advertType := roleToAdvertType identity.role
        let filter := packet.payload.get 1
        let tag := packet.payload.slice 2 4
        let since : UInt32 :=
          if packet.payloadLen ≥ 10 then wordAt (packet.payload.slice 6 4) else 0
        if advertType = advTypeNone ∨ filter &&& (1 <<< advertType) = 0 ∨ lastModify < since then
          pure ()
        else do
          let prefixOnly := packet.payload.get 0 &&& 0x01 ≠ 0
          let data := [ctlTypeNodeDiscoverResp ||| advertType, packet.snrQ4.toUInt8] ++ tag ++
            identity.publicKey.bytes
          let reply ← meshCreateControlData
            (data.take (if prefixOnly then 6 + 8 else 6 + publicKeySize))
          reply.elim (pure ()) fun id => do
            let made ← readPacket id
            let delay ← getRetransmitDelay made
            meshSendZeroHop id (delay * 4)

/-- `meshcore_runtime_on_control_data_recv`. -/
def onControlDataRecv (packet : Packet) : M Unit :=
  whenInitialized (.meshOnControlDataRecv packet) <|
    if packet.payloadLen = 0 ∨ packet.payloadLen > maxControlDataPayloadLen then pure ()
    else do
      handleControlDiscoverRequest packet
      nodeDiscoverPublish packet
      controlDataPublish packet

/-- `meshcore_runtime_on_raw_data_recv`. -/
def onRawDataRecv (packet : Packet) : M Unit :=
  whenInitialized (.meshOnRawDataRecv packet) <|
    if packet.payloadLen = 0 ∨ packet.payloadLen > maxRawDataPayloadLen then pure ()
    else rawDataPublish packet

/-- `meshcore_runtime_on_group_data_recv`. -/
def onGroupDataRecv (packet : Packet) (type : UInt8) (channel : GroupChannel)
    (data : List UInt8) : M Unit :=
  whenInitialized (.meshOnGroupDataRecv packet type channel data) do
    let isChat ← localRoleIs .chat
    if !isChat then pure ()
    else if type = payloadTypeGrpTxt ∧ data.length > 5 ∧ data.getD 4 0 >>> 2 = 0 then
      let text := cString (data.drop 5)
      if text.length > 0 then channelTextPublish channel packet (wordAt data) text else pure ()
    else if type = payloadTypeGrpData ∧ data.length ≥ 3 then channelDataPublish channel packet data
    else pure ()

/-- `meshcore_runtime_on_trace_recv`. -/
def onTraceRecv (packet : Packet) (tag authCode : UInt32) (flags : UInt8)
    (pathSnrs : Buf maxPathLen) (pathHashes : List UInt8) : M Unit :=
  whenInitialized (.meshOnTraceRecv packet tag authCode flags pathSnrs pathHashes) do
    let _ ← pendingTraceHandle tag flags pathSnrs packet.getPathHashCount
      (UInt8.ofNat pathHashes.length) packet.snrQ4
    pure ()

/-! ### Their effects -/

instance (key : Buf publicKeySize) (snr : Int8) : Moves Quiet (peerSeenUpdate key snr) := by
  unfold peerSeenUpdate; infer_instance

instance : Moves Asks localRoleAnswersTelemetry := by
  unfold localRoleAnswersTelemetry; infer_instance

instance (sender : PeerIdentity) (payload : List UInt8) :
    Moves Quiet (onPeerResponse sender payload) := by
  unfold onPeerResponse; infer_instance

instance (fallback : Event) (handler : M Unit) [Moves Quiet handler] :
    Moves Quiet (whenInitialized fallback handler) := by
  unfold whenInitialized; infer_instance

instance (packet : Packet) (ackCrc : UInt32) : Moves Quiet (onAckRecv packet ackCrc) := by
  unfold onAckRecv; infer_instance

set_option synthInstance.maxSize 10000 in
instance (packet : Packet) (sender : PeerIdentity) (secret : Buf publicKeySize)
    (path : List UInt8) (pathLen extraType : UInt8) (extra : List UInt8) :
    Moves Quiet (onPeerPathRecv packet sender secret path pathLen extraType extra) := by
  unfold onPeerPathRecv; infer_instance

instance (packet : Packet) (identity : Identity) (timestamp : UInt32) (appData : List UInt8) :
    Moves Quiet (onAdvertRecv packet identity timestamp appData) := by
  unfold onAdvertRecv; infer_instance

instance (packet : Packet) : Moves Quiet (onRawDataRecv packet) := by
  unfold onRawDataRecv; infer_instance

instance (packet : Packet) (type : UInt8) (channel : GroupChannel) (data : List UInt8) :
    Moves Quiet (onGroupDataRecv packet type channel data) := by
  unfold onGroupDataRecv; infer_instance

instance (packet : Packet) (tag authCode : UInt32) (flags : UInt8) (snrs : Buf maxPathLen)
    (hashes : List UInt8) : Moves Quiet (onTraceRecv packet tag authCode flags snrs hashes) := by
  unfold onTraceRecv; infer_instance

section

variable {hands : FloodKey → Prop}

set_option synthInstance.maxSize 10000 in
instance (peer : PeerIdentity) (ack : List UInt8) :
    Uses (Steps hands) [] (sendAckDirect peer ack) fun _ => [] := by
  unfold sendAckDirect; infer_instance

instance (peer : PeerIdentity) (secret : Buf publicKeySize) (packet : Packet)
    (ack : List UInt8) :
    Uses (Steps hands) [] (sendAckOrPathReturn peer secret packet ack) fun _ => [] := by
  unfold sendAckOrPathReturn; infer_instance

instance (peer : PeerIdentity) (secret : Buf publicKeySize) (packet : Packet) (flags : UInt8)
    (data : List UInt8) (textEnd : ℕ) :
    Uses (Steps hands) [] (handleTextFollowUp peer secret packet flags data textEnd)
      fun _ => [] := by
  unfold handleTextFollowUp; infer_instance

instance (peer : PeerIdentity) (secret : Buf publicKeySize) (packet : Packet) :
    Uses (Steps hands) [] (handleDiscoverPathRequest peer secret packet) fun _ => [] := by
  unfold handleDiscoverPathRequest; infer_instance

instance (id : PacketId) (key : Buf publicKeySize) (delayMillis : UInt32) {type : UInt8}
    [Floodable type] : UsesMade hands type id (sendToPeer id key delayMillis) := by
  unfold sendToPeer; infer_instance

instance (peer : PeerIdentity) (secret : Buf publicKeySize) (packet : Packet) (tag : UInt32)
    (mask : UInt8) :
    Uses (Steps hands) [] (handleTelemetryRequest peer secret packet tag mask) fun _ => [] := by
  unfold handleTelemetryRequest; infer_instance

instance (sender : PeerIdentity) (secret : Buf publicKeySize) (packet : Packet)
    (timestamp : UInt32) (flags : UInt8) (data : List UInt8) (textOff : ℕ) :
    Uses (Steps hands) [] (publishText sender secret packet timestamp flags data textOff)
      fun _ => [] := by
  unfold publishText; infer_instance

instance (sender : PeerIdentity) (secret : Buf publicKeySize) (packet : Packet)
    (timestamp : UInt32) (data : List UInt8) :
    Uses (Steps hands) [] (onPeerText sender secret packet timestamp data) fun _ => [] := by
  unfold onPeerText; infer_instance

instance (sender : PeerIdentity) (secret : Buf publicKeySize) (packet : Packet)
    (timestamp : UInt32) (data : List UInt8) :
    Uses (Steps hands) [] (onPeerReq sender secret packet timestamp data) fun _ => [] := by
  unfold onPeerReq; infer_instance

instance (packet : Packet) (type : UInt8) (sender : PeerIdentity) (secret : Buf publicKeySize)
    (data : List UInt8) :
    Uses (Steps hands) [] (onPeerDataRecvInternal packet type sender secret data)
      fun _ => [] := by
  unfold onPeerDataRecvInternal; infer_instance

instance (packet : Packet) (type : UInt8) (sender : PeerIdentity) (secret : Buf publicKeySize)
    (data : List UInt8) :
    Uses (Steps hands) [] (onPeerDataRecv packet type sender secret data) fun _ => [] := by
  unfold onPeerDataRecv whenInitialized; infer_instance

set_option synthInstance.maxSize 10000 in
instance (packet : Packet) :
    Uses (Steps hands) [] (handleControlDiscoverRequest packet) fun _ => [] := by
  unfold handleControlDiscoverRequest; infer_instance

instance (packet : Packet) : Uses (Steps hands) [] (onControlDataRecv packet) fun _ => [] := by
  unfold onControlDataRecv whenInitialized; infer_instance

end

end Meshcore
