import Meshcore.Receive

/-!
# Requests

`runtime/meshcore_runtime_request.c`: what the host can ask for. A public call checks its arguments
and fills a request record, which is then executed at once. An argument that is a null pointer is
`none`, unless it comes with the length 0: then it is the empty list, as for any pointer with that
length. Where the source rejects the arguments, which is always with `-EINVAL`, the record is
`none`.

Every request needs a packet. One that fails after that makes no noise but a `requestError`.

## Main definitions

* `validate...` — from arguments to a record
* `execute...` — the request itself
-/

namespace Meshcore

abbrev channelSecretLen16 : ℕ := 16
abbrev channelSecretLen32 : ℕ := 32
abbrev maxRawAdvertLen : ℕ := 255
abbrev telemPermBase : UInt8 := 0x01

/-! ### The records -/

structure MessageSendToNode where
  publicKey : Buf publicKeySize
  flood : Bool
  attempt : UInt8
  payload : List UInt8

structure MessageSendToChannel where
  secret : List UInt8
  payload : List UInt8

structure ChannelData where
  secret : List UInt8
  path : Buf maxPathLen
  pathLen : UInt8
  dataType : UInt16
  payload : List UInt8

structure NodeTracePath where
  path : List UInt8
  pathHashSize : UInt8

structure NodeTelemetry where
  publicKey : Buf publicKeySize
  permissionMask : UInt8

/-- The binary request and the anonymous datagram. -/
structure NodePayload where
  publicKey : Buf publicKeySize
  payload : List UInt8

structure NodeBinaryResponse where
  request : BinaryRequestEvent
  payload : List UInt8

structure RawData where
  path : Buf maxPathLen
  pathLen : UInt8
  payload : List UInt8

/-! ### Validation -/

/-- `meshcore_runtime_request_validate_node_peer_advert`. -/
def validateNodePeerAdvert (rawAdvert : Option (List UInt8)) : Option (List UInt8) :=
  rawAdvert.filter fun raw =>
    decide (0 < raw.length ∧ raw.length ≤ maxRawAdvertLen) &&
      (Packet.init.readFrom raw).any fun r => r.1 && r.2.getPayloadType == payloadTypeAdvert

/-- `meshcore_runtime_request_validate_message_send_to_node`. -/
def validateMessageSendToNode (publicKey : Option (Buf publicKeySize)) (flood : Bool)
    (attempt : UInt8) (payload : Option (List UInt8)) : Option MessageSendToNode := do
  let publicKey ← publicKey
  let payload ← payload
  if payload.length = 0 ∨ payload.length > maxMessageTxLen then none
  else if attempt > 3 ∧ payload.length > maxMessageTxLen - 2 then none
  else some { publicKey, flood, attempt, payload }

/-- A channel secret of one of its two lengths. -/
def validateSecret (secret : Option (List UInt8)) : Option (List UInt8) :=
  secret.filter fun s => s.length = channelSecretLen16 ∨ s.length = channelSecretLen32

/-- `meshcore_runtime_request_validate_message_send_to_channel`. -/
def validateMessageSendToChannel (secret payload : Option (List UInt8)) :
    Option MessageSendToChannel := do
  let secret ← validateSecret secret
  let payload ← payload
  if payload.length = 0 ∨ payload.length > maxMessageTxLen then none
  else some { secret, payload }

/-- `meshcore_runtime_request_validate_path`, and the path bytes as the caller copies them. -/
def validatePath (path : Option (List UInt8)) (pathLen : UInt8) (allowUnknown : Bool) :
    Option (Buf maxPathLen) :=
  if pathLen = outPathUnknown then if allowUnknown then some (Buf.zero _) else none
  else
    (pathLenDecode pathLen).bind fun decoded =>
      if decoded.1 > 0 then path.map fun path => (Buf.zero _).store 0 (path.take decoded.1)
      else some (Buf.zero _)

/-- `meshcore_runtime_request_validate_channel_data`. -/
def validateChannelData (secret path : Option (List UInt8)) (pathLen : UInt8)
    (dataType : UInt16) (payload : Option (List UInt8)) : Option ChannelData := do
  let secret ← validateSecret secret
  let payload ← payload
  if payload.length > maxChannelDataPayloadLen then none
  else do
    let path ← validatePath path pathLen true
    some { secret, path, pathLen, dataType, payload }

/-- `meshcore_runtime_request_validate_node_telemetry`. -/
def validateNodeTelemetry (publicKey : Option (Buf publicKeySize)) (permissionMask : UInt8) :
    Option NodeTelemetry := do
  let publicKey ← publicKey
  if permissionMask &&& ~~~telemPermSupported ≠ 0 then none else some { publicKey, permissionMask }

/-- `meshcore_runtime_request_validate_node_trace`: an odd number of hops. -/
def validateNodeTrace (path : Option (List UInt8)) (pathLen pathHashSize : UInt8) :
    Option NodeTracePath := do
  let path ← path
  if pathLen = 0 ∨ pathLen.toNat > maxPathLen ∨ pathHashSize = 0 ∨ pathHashSize > 3 ∨
    pathLen % pathHashSize ≠ 0
  then none
  else if (pathLen / pathHashSize) % 2 = 0 then none
  else some { path := path.take pathLen.toNat, pathHashSize }

/-- `meshcore_runtime_request_validate_raw_data`. -/
def validateRawData (path : Option (List UInt8)) (pathLen : UInt8)
    (payload : Option (List UInt8)) : Option RawData := do
  let payload ← payload
  if payload.length = 0 ∨ payload.length > maxRawDataPayloadLen then none
  else do
    let path ← validatePath path pathLen false
    some { path, pathLen, payload }

/-- `meshcore_runtime_request_validate_control_data`. -/
def validateControlData (payload : Option (List UInt8)) : Option (List UInt8) :=
  payload.filter fun payload =>
    decide (0 < payload.length ∧ payload.length ≤ maxControlDataPayloadLen) &&
      payload.getD 0 0 &&& 0x80 != 0

/-- `meshcore_runtime_request_validate_node_binary`. -/
def validateNodeBinary (publicKey : Option (Buf publicKeySize)) (payload : Option (List UInt8)) :
    Option NodePayload := do
  let publicKey ← publicKey
  let payload ← payload
  if payload.length = 0 ∨ payload.length > maxServiceRequestPayloadLen ∨
    !meshDatagramPlaintextFits (4 + payload.length)
  then none
  else some { publicKey, payload }

/-- `meshcore_runtime_request_validate_node_anon_data`. -/
def validateNodeAnonData (publicKey : Option (Buf publicKeySize))
    (payload : Option (List UInt8)) : Option NodePayload := do
  let publicKey ← publicKey
  let payload ← payload
  if payload.length = 0 ∨ payload.length > maxAnonDataPayloadLen then none
  else some { publicKey, payload }

/-- `meshcore_runtime_request_validate_node_binary_response`. -/
def validateNodeBinaryResponse (request : Option BinaryRequestEvent)
    (payload : Option (List UInt8)) : Option NodeBinaryResponse := do
  let request ← request
  let payload ← payload
  if payload.length > maxServiceResponsePayloadLen ∨
    !meshDatagramPlaintextFits (4 + payload.length) ∨ request.tag = 0 ∨
    request.payload.length > maxServiceRequestPayloadLen
  then none
  else if request.route = .flood ∧ ((pathLenDecode request.pathLen).isNone ∨
    !meshPathReturnExtraFits request.pathLen (4 + payload.length))
  then none
  else some { request, payload }

/-! ### What was validated -/

theorem of_validateMessageSendToNode {publicKey : Option (Buf publicKeySize)} {flood : Bool}
    {attempt : UInt8} {payload : Option (List UInt8)} {r : MessageSendToNode}
    (h : validateMessageSendToNode publicKey flood attempt payload = some r) :
    publicKey = some r.publicKey ∧ payload = some r.payload ∧ r.flood = flood ∧
      r.attempt = attempt ∧ 0 < r.payload.length ∧ r.payload.length ≤ maxMessageTxLen ∧
      ¬(r.attempt > 3 ∧ r.payload.length > maxMessageTxLen - 2) := by
  simp only [validateMessageSendToNode, Option.bind_eq_bind, Option.bind_eq_some_iff] at h
  obtain ⟨key, rfl, payload, rfl, h⟩ := h
  split at h
  · cases h
  split at h
  · cases h
  rename_i hlen hattempt
  obtain rfl := Option.some.inj h
  dsimp only
  exact ⟨rfl, rfl, rfl, rfl, by omega, by omega, hattempt⟩

theorem of_validateSecret {secret : Option (List UInt8)} {s : List UInt8}
    (h : validateSecret secret = some s) : secret = some s :=
  (Option.filter_eq_some_iff.mp h).1

theorem of_validateMessageSendToChannel {secret payload : Option (List UInt8)}
    {r : MessageSendToChannel} (h : validateMessageSendToChannel secret payload = some r) :
    secret = some r.secret ∧ payload = some r.payload := by
  simp only [validateMessageSendToChannel, Option.bind_eq_bind, Option.bind_eq_some_iff] at h
  obtain ⟨s, hs, payload, rfl, h⟩ := h
  split at h
  · cases h
  obtain rfl := Option.some.inj h
  exact ⟨of_validateSecret hs, rfl⟩

theorem of_validateNodeTelemetry {publicKey : Option (Buf publicKeySize)} {mask : UInt8}
    {r : NodeTelemetry} (h : validateNodeTelemetry publicKey mask = some r) :
    publicKey = some r.publicKey ∧ r.permissionMask = mask ∧
      r.permissionMask &&& ~~~telemPermSupported = 0 := by
  simp only [validateNodeTelemetry, Option.bind_eq_bind, Option.bind_eq_some_iff] at h
  obtain ⟨key, rfl, h⟩ := h
  split at h
  · cases h
  rename_i hmask
  obtain rfl := Option.some.inj h
  exact ⟨rfl, rfl, not_not.mp hmask⟩

/-- A path that the host gave is one that a packet can take. -/
theorem of_validatePath {path : Option (List UInt8)} {pathLen : UInt8} {allowUnknown : Bool}
    {out : Buf maxPathLen} (h : validatePath path pathLen allowUnknown = some out) :
    (pathLen = outPathUnknown ∧ allowUnknown = true) ∨ isValidPathLen pathLen = true := by
  rw [validatePath] at h
  split at h
  · rename_i hunknown
    split at h
    · rename_i hallow
      exact .inl ⟨hunknown, hallow⟩
    · cases h
  · rw [Option.bind_eq_some_iff] at h
    obtain ⟨decoded, hdecoded, -⟩ := h
    exact .inr (pathLenDecode_eq_some.mp hdecoded).1

theorem of_validateChannelData {secret path : Option (List UInt8)} {pathLen : UInt8}
    {dataType : UInt16} {payload : Option (List UInt8)} {r : ChannelData}
    (h : validateChannelData secret path pathLen dataType payload = some r) :
    secret = some r.secret ∧
      (r.pathLen = outPathUnknown ∨ isValidPathLen r.pathLen = true) := by
  simp only [validateChannelData, Option.bind_eq_bind, Option.bind_eq_some_iff] at h
  obtain ⟨s, hs, payload, rfl, h⟩ := h
  split at h
  · cases h
  rw [Option.bind_eq_some_iff] at h
  obtain ⟨path, hpath, h⟩ := h
  obtain rfl := Option.some.inj h
  exact ⟨of_validateSecret hs, (of_validatePath hpath).imp_left And.left⟩

theorem of_validateRawData {path : Option (List UInt8)} {pathLen : UInt8}
    {payload : Option (List UInt8)} {r : RawData}
    (h : validateRawData path pathLen payload = some r) : isValidPathLen r.pathLen = true := by
  simp only [validateRawData, Option.bind_eq_bind, Option.bind_eq_some_iff] at h
  obtain ⟨payload, rfl, h⟩ := h
  split at h
  · cases h
  rw [Option.bind_eq_some_iff] at h
  obtain ⟨path, hpath, h⟩ := h
  obtain rfl := Option.some.inj h
  exact (of_validatePath hpath).resolve_left fun ⟨_, hallow⟩ => nomatch hallow

theorem of_validateNodeTrace {path : Option (List UInt8)} {pathLen pathHashSize : UInt8}
    {r : NodeTracePath} (h : validateNodeTrace path pathLen pathHashSize = some r) :
    r.path.length ≤ maxPathLen := by
  simp only [validateNodeTrace, Option.bind_eq_bind, Option.bind_eq_some_iff] at h
  obtain ⟨path, rfl, h⟩ := h
  split at h
  · cases h
  split at h
  · cases h
  rename_i hlen _
  obtain rfl := Option.some.inj h
  simp only [not_or] at hlen
  dsimp only
  rw [List.length_take]
  omega

theorem of_validateNodePeerAdvert {rawAdvert : Option (List UInt8)} {raw : List UInt8}
    (h : validateNodePeerAdvert rawAdvert = some raw) :
    rawAdvert = some raw ∧ raw.length ≤ maxRawAdvertLen ∧
      ∃ got, Packet.init.readFrom raw = some (true, got) ∧
        got.getPayloadType = payloadTypeAdvert := by
  obtain ⟨rfl, hvalid⟩ := Option.filter_eq_some_iff.mp h
  rw [Bool.and_eq_true] at hvalid
  obtain ⟨hlen, hread⟩ := hvalid
  cases hparse : Packet.init.readFrom raw with
  | none => simp [hparse] at hread
  | some r =>
    obtain ⟨ok, got⟩ := r
    simp only [hparse, Option.any_some, Bool.and_eq_true, beq_iff_eq] at hread
    obtain ⟨rfl, htype⟩ := hread
    exact ⟨rfl, (of_decide_eq_true hlen).2, got, rfl, htype⟩

theorem of_validateNodeBinary {publicKey : Option (Buf publicKeySize)}
    {payload : Option (List UInt8)} {r : NodePayload}
    (h : validateNodeBinary publicKey payload = some r) :
    publicKey = some r.publicKey ∧ payload = some r.payload ∧ 0 < r.payload.length ∧
      r.payload.length ≤ maxServiceRequestPayloadLen ∧
      meshDatagramPlaintextFits (4 + r.payload.length) = true := by
  simp only [validateNodeBinary, Option.bind_eq_bind, Option.bind_eq_some_iff] at h
  obtain ⟨key, rfl, payload, rfl, h⟩ := h
  split at h
  · cases h
  rename_i hlen
  obtain rfl := Option.some.inj h
  simp only [not_or, Bool.not_eq_true', Bool.not_eq_false] at hlen
  dsimp only
  exact ⟨rfl, rfl, by omega, by omega, hlen.2.2⟩

theorem of_validateNodeAnonData {publicKey : Option (Buf publicKeySize)}
    {payload : Option (List UInt8)} {r : NodePayload}
    (h : validateNodeAnonData publicKey payload = some r) :
    publicKey = some r.publicKey ∧ payload = some r.payload ∧
      r.payload.length ≤ maxAnonDataPayloadLen := by
  simp only [validateNodeAnonData, Option.bind_eq_bind, Option.bind_eq_some_iff] at h
  obtain ⟨key, rfl, payload, rfl, h⟩ := h
  split at h
  · cases h
  rename_i hlen
  obtain rfl := Option.some.inj h
  dsimp only
  exact ⟨rfl, rfl, by omega⟩

theorem of_validateNodeBinaryResponse {request : Option BinaryRequestEvent}
    {payload : Option (List UInt8)} {r : NodeBinaryResponse}
    (h : validateNodeBinaryResponse request payload = some r) :
    request = some r.request ∧ payload = some r.payload ∧
      r.payload.length ≤ maxServiceResponsePayloadLen ∧
      meshDatagramPlaintextFits (4 + r.payload.length) = true ∧ r.request.tag ≠ 0 ∧
      (r.request.route = .flood → (pathLenDecode r.request.pathLen).isSome ∧
        meshPathReturnExtraFits r.request.pathLen (4 + r.payload.length) = true) := by
  simp only [validateNodeBinaryResponse, Option.bind_eq_bind, Option.bind_eq_some_iff] at h
  obtain ⟨request, rfl, payload, rfl, h⟩ := h
  split at h
  · cases h
  split at h
  · cases h
  rename_i hlen hpath
  obtain rfl := Option.some.inj h
  simp only [not_or, Bool.not_eq_true', Bool.not_eq_false] at hlen
  dsimp only
  refine ⟨rfl, rfl, by omega, hlen.2.1, hlen.2.2.1, fun hroute => ?_⟩
  simpa [hroute, Option.isSome_iff_ne_none] using hpath

/-! ### Execution -/

/-- `meshcore_runtime_request_log_transient_failure`. -/
def requestLogTransientFailure (type : RequestType) (errCode : ℤ) : M Unit :=
  if errCode = eNOBUFS ∨ errCode = eAGAIN ∨ errCode = eBUSY then emit (.requestError type errCode)
  else pure ()

/-- The packet of a request, or the report that there was none. -/
def withRequestPacket (type : RequestType) (packet : M (Option PacketId))
    (send : PacketId → M Unit) : M Unit := do
  let packet ← packet
  packet.elim (requestLogTransientFailure type eNOBUFS) send

/-- A request that uses the local identity brings it up to date first. -/
def withLocalIdentity (type : RequestType) (execute : M Unit) : M Unit := do
  let rc ← syncLocalIdentity
  if rc ≠ 0 then requestLogTransientFailure type eAGAIN else execute

/-- The tag of a request: the caller's, or a fresh one. -/
def requestTagOf (tag : UInt32) : M UInt32 :=
  if tag = 0 then clockRtcGetCurrentTimeUnique else pure tag

/-- `meshcore_local_identity_calc_shared_secret` with the local identity. -/
def selfSharedSecret (publicKey : Buf publicKeySize) : M (Buf publicKeySize) := do
  let selfId ← Prog.gets World.selfId
  localIdentityCalcSharedSecret selfId publicKey

/-- The flood of a request. -/
def requestSendFlood (id : PacketId) (delayMillis : UInt32) : M Unit := do
  let hashSize ← localPathHashSizeGet
  meshSendFlood id delayMillis hashSize

/-- The application data of this node's advert. -/
def advertAppData (advertType : UInt8) (identity : NodeIdentity) (profile : AdvertProfile) :
    List UInt8 :=
  let builder := AdvertDataBuilder.initWithName advertType (cString identity.name.bytes)
  let builder :=
    if profile.hasPosition then
      { builder with hasLoc := true, lat := profile.latitude, lon := profile.longitude }
    else builder
  builder.encodeTo

/-- The identity and the profile an advert needs. -/
def advertSource : M (Option (NodeIdentity × AdvertProfile)) := do
  let rc ← syncLocalIdentity
  if rc ≠ 0 then pure none
  else do
    let identity ← localIdentityGet
    identity.elim (pure none) fun identity => do
      let profile ← hook Hooks.nodeAdvertProfile
      pure (profile.map (identity, ·))

/-- `meshcore_runtime_request_execute_node_advert`. -/
def executeNodeAdvert (flood : Bool) : M Unit := do
  let source ← advertSource
  source.elim (requestLogTransientFailure .nodeAdvert eAGAIN) fun source =>
    let advertType := roleToAdvertType source.1.role
    if advertType = advTypeNone then pure ()
    else do
      let selfId ← Prog.gets World.selfId
      withRequestPacket .nodeAdvert
        (meshCreateAdvert selfId (advertAppData advertType source.1 source.2)) fun id =>
          if flood then requestSendFlood id 0 else meshSendZeroHop id 0

/-- `meshcore_runtime_request_execute_node_peer_advert`. -/
def executeNodePeerAdvert (rawAdvert : List UInt8) : M Unit :=
  withRequestPacket .nodePeerAdvert dispatcherObtainNewPacket fun id => do
    let into ← readPacket id
    let read := (into.readFrom rawAdvert).getD (false, into)
    writePacket id read.2
    if !read.1 ∨ read.2.getPayloadType ≠ payloadTypeAdvert then dispatcherReleasePacket id
    else meshSendZeroHop id 0

/-- The plaintext of a text message, without the mark of a late attempt. -/
def textPlain (timestamp : UInt32) (attempt : UInt8) (payload : List UInt8) : List UInt8 :=
  leBytes 4 timestamp.toNat ++ [attempt &&& 0x03] ++ payload

/-- `meshcore_runtime_request_execute_message_send_to_node`. The expected acknowledgement is over
the plain text; an attempt that does not fit in two bits goes behind it. -/
def executeMessageSendToNode (request : MessageSendToNode) : M Unit :=
  withLocalIdentity .messageSendToNode <|
    if request.attempt > 3 ∧ request.payload.length > maxMessageTxLen - 2 then pure ()
    else do
      let timestamp ← clockRtcGetCurrentTime
      let data := textPlain timestamp request.attempt request.payload
      let selfId ← Prog.gets World.selfId
      let expectedAck ← utilsSha256TwoFragments 4 data selfId.identity.bytes
      let data := data ++ (if request.attempt > 3 then [0, request.attempt] else [])
      let secret ← selfSharedSecret request.publicKey
      withRequestPacket .messageSendToNode
        (meshCreateDatagram payloadTypeTxtMsg request.publicKey secret data) fun id => do
          expectedAckRegister (wordAt expectedAck.bytes) (keyPrefixOf request.publicKey)
            request.attempt
          if request.flood then requestSendFlood id 0 else sendToPeer id request.publicKey 0

/-- The channel of a secret that the host knows. -/
def channelOfSecret (secret : List UInt8) : M (Option GroupChannel) := do
  let channelHash ← hook fun h => h.channelSecretHash secret
  channelHash.elim (pure none) fun channelHash => do
    let found ← hook fun h => h.channelSecretMatchExists channelHash secret
    if found ≤ 0 then pure none
    else pure (some { hash := channelHash, secret := (Buf.zero _).store 0 secret })

/-- `meshcore_runtime_request_execute_message_send_to_channel`. -/
def executeMessageSendToChannel (request : MessageSendToChannel) : M Unit := do
  let identity ← localIdentityGet
  identity.elim (requestLogTransientFailure .messageSendToChannel eAGAIN) fun identity => do
    let channel ← channelOfSecret request.secret
    channel.elim (pure ()) fun channel => do
      let timestamp ← clockRtcGetCurrentTime
      let namePrefix := printString (nodeNameMaxLen + 3)
        (cString identity.name.bytes ++ [charColon, charSpace])
      if namePrefix.length ≥ maxMessageTxLen ∨
        request.payload.length + namePrefix.length > maxMessageTxLen
      then pure ()
      else
        withRequestPacket .messageSendToChannel
          (meshCreateGroupDatagram payloadTypeGrpTxt channel
            (leBytes 4 timestamp.toNat ++ [0] ++ namePrefix ++ request.payload))
          fun id => requestSendFlood id 0

/-- `meshcore_runtime_request_prepare_req_data`, behind the tag. -/
def telemetryReqData (tag : UInt32) (permissionMask : UInt8) : M (List UInt8) := do
  let random ← hook fun h => h.rngRandom 4
  pure (leBytes 4 tag.toNat ++ [reqTypeGetTelemetryData, ~~~permissionMask, 0, 0, 0] ++
    random.bytes)

/-- `meshcore_runtime_request_execute_node_discover_path`. -/
def executeNodeDiscoverPath (publicKey : Buf publicKeySize) (tag : UInt32) : M Unit :=
  withLocalIdentity .nodeDiscoverPath do
    let tag ← requestTagOf tag
    let data ← telemetryReqData tag telemPermBase
    let secret ← selfSharedSecret publicKey
    withRequestPacket .nodeDiscoverPath (meshCreateDatagram payloadTypeReq publicKey secret data)
      fun id => do
        pendingDiscoveryRegister tag publicKey
        requestSendFlood id 0

/-- The hashes of a trace: three-byte hashes are cut to two bytes. -/
def traceHashes (request : NodeTracePath) : List UInt8 :=
  if request.pathHashSize = 3 then
    (List.range (request.path.length / 3)).flatMap fun hop => (request.path.drop (hop * 3)).take 2
  else request.path

/-- `meshcore_runtime_request_execute_node_trace_path`. -/
def executeNodeTracePath (request : NodeTracePath) (tag : UInt32) : M Unit :=
  let flags : UInt8 := if request.pathHashSize = 1 then 0 else 1
  let tracePath := traceHashes request
  if tracePath.length > packetPayloadMaxLen - 9 ∨ tracePath.length > maxPathLen then pure ()
  else do
    let tag ← requestTagOf tag
    let millis ← clockMillisGet
    withRequestPacket .nodeTracePath
      (meshCreateTrace tag (UInt32.ofNat (millis % 2 ^ 24)) flags) fun id => do
        pendingTraceRegister tag
        meshSendDirect id tracePath (UInt8.ofNat tracePath.length) 0

/-- `meshcore_runtime_request_execute_node_telemetry`. -/
def executeNodeTelemetry (request : NodeTelemetry) (tag : UInt32) : M Unit :=
  withLocalIdentity .nodeTelemetry do
    let tag ← requestTagOf tag
    let data ← telemetryReqData tag request.permissionMask
    let secret ← selfSharedSecret request.publicKey
    withRequestPacket .nodeTelemetry
      (meshCreateDatagram payloadTypeReq request.publicKey secret data) fun id => do
        pendingTelemetryRegister tag request.publicKey request.permissionMask
        sendToPeer id request.publicKey 0

/-- `meshcore_runtime_request_execute_node_binary`: a fresh tag is drawn in any case. -/
def executeNodeBinary (request : NodePayload) (tag : UInt32) : M Unit :=
  withLocalIdentity .nodeBinary do
    let fresh ← clockRtcGetCurrentTimeUnique
    let tag := if tag ≠ 0 then tag else fresh
    let secret ← selfSharedSecret request.publicKey
    withRequestPacket .nodeBinary
      (meshCreateDatagram payloadTypeReq request.publicKey secret
        (leBytes 4 tag.toNat ++ request.payload)) fun id => do
        pendingBinaryRegister tag request.publicKey
        sendToPeer id request.publicKey 0

/-- `meshcore_runtime_request_execute_node_anon_data`. -/
def executeNodeAnonData (request : NodePayload) : M Unit :=
  withLocalIdentity .nodeAnonData do
    let secret ← selfSharedSecret request.publicKey
    let selfId ← Prog.gets World.selfId
    withRequestPacket .nodeAnonData
      (meshCreateAnonDatagram payloadTypeAnonReq selfId request.publicKey secret request.payload)
      fun id => sendToPeer id request.publicKey 0

/-- `meshcore_runtime_request_execute_node_binary_response`. -/
def executeNodeBinaryResponse (r : NodeBinaryResponse) : M Unit :=
  withLocalIdentity .nodeBinaryResponse do
    let data := leBytes 4 r.request.tag.toNat ++ r.payload
    let secret ← selfSharedSecret r.request.publicKey
    if r.request.route = .flood then
      withRequestPacket .nodeBinaryResponse
        (meshCreatePathReturnByIdentity r.request.publicKey secret r.request.path.bytes
          r.request.pathLen payloadTypeResponse data)
        fun id => requestSendFlood id runtimeServerResponseDelayMs
    else
      withRequestPacket .nodeBinaryResponse
        (meshCreateDatagram payloadTypeResponse r.request.publicKey secret data)
        fun id => sendToPeer id r.request.publicKey runtimeServerResponseDelayMs

/-- `meshcore_runtime_request_execute_node_discover`. -/
def executeNodeDiscover (filter : UInt8) (prefixOnly : Bool) (since tag : UInt32) : M Unit :=
  let head : UInt8 := if prefixOnly then ctlTypeNodeDiscoverReq ||| 0x01 else ctlTypeNodeDiscoverReq
  withRequestPacket .nodeDiscover
    (meshCreateControlData ([head, filter] ++ leBytes 4 tag.toNat ++ leBytes 4 since.toNat))
    fun id => meshSendZeroHop id 0

/-- `meshcore_runtime_request_execute_channel_data`. -/
def executeChannelData (request : ChannelData) : M Unit := do
  let channel ← channelOfSecret request.secret
  channel.elim (pure ()) fun channel =>
    withRequestPacket .channelData
      (meshCreateGroupDatagram payloadTypeGrpData channel
        (leBytes 2 request.dataType.toNat ++ [UInt8.ofNat request.payload.length] ++
          request.payload)) fun id =>
        if request.pathLen = outPathUnknown then requestSendFlood id 0
        else meshSendDirect id request.path.bytes request.pathLen 0

/-- `meshcore_runtime_request_execute_raw_data`. -/
def executeRawData (request : RawData) : M Unit :=
  withRequestPacket .rawData (meshCreateRawData request.payload) fun id =>
    meshSendDirect id request.path.bytes request.pathLen 0

/-- `meshcore_runtime_request_execute_control_data`. -/
def executeControlData (payload : List UInt8) : M Unit :=
  withRequestPacket .controlData (meshCreateControlData payload) fun id => meshSendZeroHop id 0

/-! ### Their effects -/

instance (type : RequestType) (errCode : ℤ) :
    Moves Quiet (requestLogTransientFailure type errCode) := by
  unfold requestLogTransientFailure; infer_instance

instance (tag : UInt32) : Moves Quiet (requestTagOf tag) := by unfold requestTagOf; infer_instance

instance (key : Buf publicKeySize) : Moves Asks (selfSharedSecret key) := by
  unfold selfSharedSecret; infer_instance

instance : Moves Quiet advertSource := by unfold advertSource; infer_instance

instance (secret : List UInt8) : Moves Asks (channelOfSecret secret) := by
  unfold channelOfSecret; infer_instance

instance (tag : UInt32) (mask : UInt8) : Moves Asks (telemetryReqData tag mask) := by
  unfold telemetryReqData; infer_instance

section

variable {hands : FloodKey → Prop}

instance (type : RequestType) (packet : M (Option PacketId)) (send : PacketId → M Unit)
    [Uses (Steps hands) [] packet Option.toList]
    [∀ id, Uses (Steps hands) [id] (send id) fun _ => []] :
    Uses (Steps hands) [] (withRequestPacket type packet send) fun _ => [] := by
  unfold withRequestPacket; infer_instance

instance (priority := low) withRequestPacket_made {made : UInt8} (type : RequestType)
    (packet : M (Option PacketId)) (send : PacketId → M Unit)
    [Uses (Steps hands) [] packet Option.toList] [Makes made packet]
    [∀ id, UsesMade hands made id (send id)] :
    Uses (Steps hands) [] (withRequestPacket type packet send) fun _ => [] := by
  unfold withRequestPacket; infer_instance

instance (type : RequestType) (execute : M Unit) [Uses (Steps hands) [] execute fun _ => []] :
    Uses (Steps hands) [] (withLocalIdentity type execute) fun _ => [] := by
  unfold withLocalIdentity; infer_instance

instance (raw : List UInt8) : Uses (Steps hands) [] (executeNodePeerAdvert raw) fun _ => [] := by
  unfold executeNodePeerAdvert; infer_instance

instance (request : NodeTracePath) (tag : UInt32) :
    Uses (Steps hands) [] (executeNodeTracePath request tag) fun _ => [] := by
  unfold executeNodeTracePath; infer_instance

instance (filter : UInt8) (prefixOnly : Bool) (since tag : UInt32) :
    Uses (Steps hands) [] (executeNodeDiscover filter prefixOnly since tag) fun _ => [] := by
  unfold executeNodeDiscover; infer_instance

instance (request : RawData) : Uses (Steps hands) [] (executeRawData request) fun _ => [] := by
  unfold executeRawData; infer_instance

instance (payload : List UInt8) :
    Uses (Steps hands) [] (executeControlData payload) fun _ => [] := by
  unfold executeControlData; infer_instance

instance (id : PacketId) (delayMillis : UInt32) {type : UInt8} [Floodable type] :
    UsesMade hands type id (requestSendFlood id delayMillis) := by
  unfold requestSendFlood; infer_instance

instance (flood : Bool) : Uses (Steps hands) [] (executeNodeAdvert flood) fun _ => [] := by
  unfold executeNodeAdvert; infer_instance

instance (request : MessageSendToNode) :
    Uses (Steps hands) [] (executeMessageSendToNode request) fun _ => [] := by
  unfold executeMessageSendToNode; infer_instance

instance (request : MessageSendToChannel) :
    Uses (Steps hands) [] (executeMessageSendToChannel request) fun _ => [] := by
  unfold executeMessageSendToChannel; infer_instance

instance (key : Buf publicKeySize) (tag : UInt32) :
    Uses (Steps hands) [] (executeNodeDiscoverPath key tag) fun _ => [] := by
  unfold executeNodeDiscoverPath; infer_instance

instance (request : NodeTelemetry) (tag : UInt32) :
    Uses (Steps hands) [] (executeNodeTelemetry request tag) fun _ => [] := by
  unfold executeNodeTelemetry; infer_instance

instance (request : NodePayload) (tag : UInt32) :
    Uses (Steps hands) [] (executeNodeBinary request tag) fun _ => [] := by
  unfold executeNodeBinary; infer_instance

instance (request : NodePayload) :
    Uses (Steps hands) [] (executeNodeAnonData request) fun _ => [] := by
  unfold executeNodeAnonData; infer_instance

instance (r : NodeBinaryResponse) :
    Uses (Steps hands) [] (executeNodeBinaryResponse r) fun _ => [] := by
  unfold executeNodeBinaryResponse; infer_instance

instance (request : ChannelData) :
    Uses (Steps hands) [] (executeChannelData request) fun _ => [] := by
  unfold executeChannelData; infer_instance

end

end Meshcore
