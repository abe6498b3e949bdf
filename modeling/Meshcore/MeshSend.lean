import Meshcore.Policy

/-!
# Making and sending packets

The part of `core/meshcore_dispatcher.c` that obtains, releases and queues packets, and from
`core/meshcore_mesh.c` the `create_*` functions, which give a filled buffer or none, and the
`send_*` functions, which take one.

A pointer argument is the list of bytes it points to. The `path` of `meshSendDirect` is whatever
lies behind the pointer; only the bytes that `pathLen` announces are read.

## Main definitions

* `dispatcherObtainNewPacket`, `dispatcherReleasePacket`, `dispatcherSendPacket`
* `meshCreate...` — the packets this node makes
* `meshSend...` — the routes a packet can be sent by
-/

namespace Meshcore

/-! ### The dispatcher's part -/

/-- The conversion of a `uint32_t` to `int`. -/
def toCInt (x : UInt32) : ℤ := x.toInt32.toInt

/-- `meshcore_dispatcher_future_millis`. -/
def dispatcherFutureMillis (millisFromNow : ℤ) : M ℕ := do
  let now ← clockMillisGet
  let ctx ← Prog.env
  pure ((now + millisFromNow) % 2 ^ ctx.ulongBits).toNat

/-- `meshcore_dispatcher_obtain_new_packet`. -/
def dispatcherObtainNewPacket : M (Option PacketId) := do
  let packet ← allocPacket
  packet.elim
    (do
      setErrFlag errEventFull
      pure none)
    fun id => do
      updatePacket id fun p => { p with payloadLen := 0, pathLen := 0, snrQ4 := 0 }
      pure (some id)

/-- `meshcore_dispatcher_release_packet`. -/
def dispatcherReleasePacket (id : PacketId) : M Unit := modifyManager (·.free id)

/-- `meshcore_dispatcher_send_packet`. -/
def dispatcherSendPacket (id : PacketId) (priority : UInt8) (delayMillis : UInt32) : M Unit := do
  let packet ← readPacket id
  if !isValidPathLen packet.pathLenField ∨ packet.payloadLen > packetPayloadMaxLen then
    modifyManager (·.free id)
  else do
    let scheduledFor ← dispatcherFutureMillis (toCInt delayMillis)
    modifyManager (·.queueOutbound id priority (scheduledFor % 2 ^ 32))

section

variable {hands : FloodKey → Prop}

instance (millisFromNow : ℤ) : Moves Asks (dispatcherFutureMillis millisFromNow) := by
  unfold dispatcherFutureMillis; infer_instance

instance : Uses (Steps hands) [] dispatcherObtainNewPacket Option.toList := by
  unfold dispatcherObtainNewPacket; infer_instance

instance (id : PacketId) : Uses (Steps hands) [id] (dispatcherReleasePacket id) fun _ => [] := by
  unfold dispatcherReleasePacket; infer_instance

instance (id : PacketId) (priority : UInt8) (delayMillis : UInt32) :
    Uses (Steps hands) [id] (dispatcherSendPacket id priority delayMillis) fun _ => [] := by
  unfold dispatcherSendPacket; infer_instance

end

/-! ### Packets -/

abbrev meshMaxAdvertDataSize : ℕ := 32
abbrev meshMaxCombinedPath : ℕ := packetPayloadMaxLen - cipherMacSize - cipherBlockSize

/-- The header byte of a packet that was just made. -/
def typeHeader (type : UInt8) : UInt8 := type <<< phTypeShift

/-- `meshcore_mesh_create_advert`. -/
def meshCreateAdvert (identity : LocalIdentity) (appData : List UInt8) :
    M (Option PacketId) :=
  if appData.length > meshMaxAdvertDataSize then pure none
  else do
    let packet ← dispatcherObtainNewPacket
    packet.elim (pure none) fun id => do
      let emittedTimestamp ← clockRtcGetCurrentTime
      let message := identity.identity.bytes ++ leBytes 4 emittedTimestamp.toNat ++ appData
      let signature ← localIdentitySign identity message
      let payload :=
        identity.identity.bytes ++ leBytes 4 emittedTimestamp.toNat ++ signature.bytes ++ appData
      updatePacket id fun p =>
        { p with
          header := typeHeader payloadTypeAdvert
          payload := p.payload.store 0 payload
          payloadLen := payload.length }
      pure (some id)

/-- `meshcore_mesh_datagram_plaintext_fits`. -/
def meshDatagramPlaintextFits (len : ℕ) : Bool :=
  decide (len ≤ packetPayloadMaxLen - cipherMacSize - cipherBlockSize + 1)

/-- The common end of the functions that make an encrypted packet: the clear prefix, then the MAC
and the ciphertext of `data`. When encryption fails the packet is released. -/
def fillEncrypted (id : PacketId) (type : UInt8) (clear : List UInt8) (secret : Buf publicKeySize)
    (data : List UInt8) : M (Option PacketId) := do
  let enc ← utilsEncryptThenMac secret data
  enc.elim
    (do
      dispatcherReleasePacket id
      pure none)
    fun enc => do
      updatePacket id fun p =>
        { p with
          header := typeHeader type
          payload := p.payload.store 0 (clear ++ enc)
          payloadLen := clear.length + enc.length }
      pure (some id)

/-- `meshcore_mesh_create_datagram`. -/
def meshCreateDatagram (type : UInt8) (dest : Identity) (secret : Buf publicKeySize)
    (data : List UInt8) : M (Option PacketId) :=
  if !(type = payloadTypeTxtMsg ∨ type = payloadTypeReq ∨ type = payloadTypeResponse) then
    pure none
  else if !meshDatagramPlaintextFits data.length then pure none
  else do
    let packet ← dispatcherObtainNewPacket
    packet.elim (pure none) fun id => do
      let selfId ← Prog.gets World.selfId
      fillEncrypted id type (identityCopyHashTo dest ++ identityCopyHashTo selfId.identity) secret
        data

/-- `meshcore_mesh_create_anon_datagram`. -/
def meshCreateAnonDatagram (type : UInt8) (sender : LocalIdentity) (dest : Identity)
    (secret : Buf publicKeySize) (data : List UInt8) : M (Option PacketId) :=
  if type ≠ payloadTypeAnonReq then pure none
  else if data.length > packetPayloadMaxLen - 1 - publicKeySize - cipherBlockSize + 1 then
    pure none
  else do
    let packet ← dispatcherObtainNewPacket
    packet.elim (pure none) fun id =>
      fillEncrypted id type (identityCopyHashTo dest ++ sender.identity.bytes) secret data

/-- `meshcore_mesh_create_group_datagram`. -/
def meshCreateGroupDatagram (type : UInt8) (channel : GroupChannel) (data : List UInt8) :
    M (Option PacketId) :=
  if !(type = payloadTypeGrpTxt ∨ type = payloadTypeGrpData) then pure none
  else if data.length > packetPayloadMaxLen - 1 - cipherBlockSize + 1 then pure none
  else do
    let packet ← dispatcherObtainNewPacket
    packet.elim (pure none) fun id => fillEncrypted id type [channel.hash] channel.secret data

/-- `meshcore_mesh_create_ack_data`. -/
def meshCreateAckData (ack : List UInt8) : M (Option PacketId) := do
  let packet ← dispatcherObtainNewPacket
  packet.elim (pure none) fun id =>
    if ack.length > packetPayloadMaxLen then do
      dispatcherReleasePacket id
      pure none
    else do
      updatePacket id fun p =>
        { p with
          header := typeHeader payloadTypeAck
          payload := p.payload.store 0 ack
          payloadLen := ack.length }
      pure (some id)

/-- `meshcore_mesh_create_multi_ack_data`. -/
def meshCreateMultiAckData (ack : List UInt8) (remaining : UInt8) : M (Option PacketId) := do
  let packet ← dispatcherObtainNewPacket
  packet.elim (pure none) fun id =>
    if ack.length > packetPayloadMaxLen - 1 then do
      dispatcherReleasePacket id
      pure none
    else do
      updatePacket id fun p =>
        { p with
          header := typeHeader payloadTypeMultipart
          payload := p.payload.store 0 (((remaining <<< 4) ||| payloadTypeAck) :: ack)
          payloadLen := 1 + ack.length }
      pure (some id)

/-- `meshcore_mesh_path_return_extra_fits`. -/
def meshPathReturnExtraFits (pathLen : UInt8) (extraLen : ℕ) : Bool :=
  let pathBytes := (hashSizeOf pathLen).toNat * (hashCountOf pathLen).toNat
  if pathBytes > meshMaxCombinedPath - 5 then false
  else decide (extraLen ≤ meshMaxCombinedPath - 5 - pathBytes)

/-- `meshcore_mesh_create_path_return_by_dest_hash`: without an extra, four random bytes. -/
def meshCreatePathReturnByDestHash (destHash : List UInt8) (secret : Buf publicKeySize)
    (path : List UInt8) (pathLen extraType : UInt8) (extra : List UInt8) :
    M (Option PacketId) :=
  if !meshPathReturnExtraFits pathLen extra.length then pure none
  else do
    let packet ← dispatcherObtainNewPacket
    packet.elim (pure none) fun id => do
      let pathBytes := (hashSizeOf pathLen).toNat * (hashCountOf pathLen).toNat
      let selfId ← Prog.gets World.selfId
      let tail ←
        (if extra.length > 0 then pure (extraType :: extra)
        else (fun r : Buf 4 => 0xFF :: r.bytes) <$> hook fun h => h.rngRandom 4)
      fillEncrypted id payloadTypePath (destHash.take 1 ++ identityCopyHashTo selfId.identity)
        secret (pathLen :: (path.take pathBytes ++ tail))

/-- `meshcore_mesh_create_path_return_by_identity`. -/
def meshCreatePathReturnByIdentity (dest : Identity) (secret : Buf publicKeySize)
    (path : List UInt8) (pathLen extraType : UInt8) (extra : List UInt8) :
    M (Option PacketId) :=
  meshCreatePathReturnByDestHash (identityCopyHashTo dest) secret path pathLen extraType extra

/-- The raw-custom and the control packet, which differ in their type. -/
def createPlain (type : UInt8) (data : List UInt8) : M (Option PacketId) :=
  if data.length > packetPayloadMaxLen then pure none
  else do
    let packet ← dispatcherObtainNewPacket
    packet.elim (pure none) fun id => do
      updatePacket id fun p =>
        { p with
          header := typeHeader type
          payload := p.payload.store 0 data
          payloadLen := data.length }
      pure (some id)

/-- `meshcore_mesh_create_raw_data`. -/
def meshCreateRawData (data : List UInt8) : M (Option PacketId) :=
  createPlain payloadTypeRawCustom data

/-- `meshcore_mesh_create_control_data`. -/
def meshCreateControlData (data : List UInt8) : M (Option PacketId) :=
  createPlain payloadTypeControl data

/-- `meshcore_mesh_create_trace`. -/
def meshCreateTrace (tag authCode : UInt32) (flags : UInt8) : M (Option PacketId) := do
  let packet ← dispatcherObtainNewPacket
  packet.elim (pure none) fun id => do
    updatePacket id fun p =>
      { p with
        header := typeHeader payloadTypeTrace
        payload := p.payload.store 0 (leBytes 4 tag.toNat ++ leBytes 4 authCode.toNat ++ [flags])
        payloadLen := 9 }
    pure (some id)

section

variable {hands : FloodKey → Prop}

instance (identity : LocalIdentity) (appData : List UInt8) :
    Uses (Steps hands) [] (meshCreateAdvert identity appData) Option.toList := by
  unfold meshCreateAdvert; infer_instance

instance (id : PacketId) (type : UInt8) (clear : List UInt8) (secret : Buf publicKeySize)
    (data : List UInt8) :
    Uses (Steps hands) [id] (fillEncrypted id type clear secret data) Option.toList := by
  unfold fillEncrypted; infer_instance

instance (type : UInt8) (dest : Identity) (secret : Buf publicKeySize) (data : List UInt8) :
    Uses (Steps hands) [] (meshCreateDatagram type dest secret data) Option.toList := by
  unfold meshCreateDatagram; infer_instance

instance (type : UInt8) (sender : LocalIdentity) (dest : Identity) (secret : Buf publicKeySize)
    (data : List UInt8) :
    Uses (Steps hands) [] (meshCreateAnonDatagram type sender dest secret data)
      Option.toList := by
  unfold meshCreateAnonDatagram; infer_instance

instance (type : UInt8) (channel : GroupChannel) (data : List UInt8) :
    Uses (Steps hands) [] (meshCreateGroupDatagram type channel data) Option.toList := by
  unfold meshCreateGroupDatagram; infer_instance

instance (ack : List UInt8) : Uses (Steps hands) [] (meshCreateAckData ack) Option.toList := by
  unfold meshCreateAckData; infer_instance

instance (ack : List UInt8) (remaining : UInt8) :
    Uses (Steps hands) [] (meshCreateMultiAckData ack remaining) Option.toList := by
  unfold meshCreateMultiAckData; infer_instance

instance (destHash : List UInt8) (secret : Buf publicKeySize) (path : List UInt8)
    (pathLen extraType : UInt8) (extra : List UInt8) :
    Uses (Steps hands) []
      (meshCreatePathReturnByDestHash destHash secret path pathLen extraType extra)
      Option.toList := by
  unfold meshCreatePathReturnByDestHash; infer_instance

instance (dest : Identity) (secret : Buf publicKeySize) (path : List UInt8)
    (pathLen extraType : UInt8) (extra : List UInt8) :
    Uses (Steps hands) []
      (meshCreatePathReturnByIdentity dest secret path pathLen extraType extra)
      Option.toList := by
  unfold meshCreatePathReturnByIdentity; infer_instance

instance (type : UInt8) (data : List UInt8) :
    Uses (Steps hands) [] (createPlain type data) Option.toList := by
  unfold createPlain; infer_instance

instance (data : List UInt8) : Uses (Steps hands) [] (meshCreateRawData data) Option.toList := by
  unfold meshCreateRawData; infer_instance

instance (data : List UInt8) :
    Uses (Steps hands) [] (meshCreateControlData data) Option.toList := by
  unfold meshCreateControlData; infer_instance

instance (tag authCode : UInt32) (flags : UInt8) :
    Uses (Steps hands) [] (meshCreateTrace tag authCode flags) Option.toList := by
  unfold meshCreateTrace; infer_instance

end

/-! ### Routes -/

/-- The bytes behind a path pointer, as a path array. -/
def pathBuf (path : List UInt8) : Buf maxPathLen := (Buf.zero _).store 0 path

/-- The header with another route type. -/
def Packet.withRouteType (packet : Packet) (routeType : UInt8) : Packet :=
  { packet with header := (packet.header &&& ~~~phRouteMask) ||| routeType }

/-- The priority of a flood packet. -/
def floodPriority (type : UInt8) : UInt8 :=
  if type = payloadTypePath then 2 else if type = payloadTypeAdvert then 3 else 1

/-- A packet that goes out as a flood is recorded, so that its copies are duplicates. -/
def recordSentFlood (packet : Packet) : M Unit := do
  let _ ← tablesHasSeen packet
  if packet.payloadLen > packetPayloadMaxLen then pure () else mark (.sent packet.floodKey)

/-- The common end of the two floods. -/
def sendFloodPacket (id : PacketId) (packet : Packet) (delayMillis : UInt32) : M Unit := do
  writePacket id packet
  recordSentFlood packet
  dispatcherSendPacket id (floodPriority packet.getPayloadType) delayMillis

/-- `meshcore_mesh_send_flood`. -/
def meshSendFlood (id : PacketId) (delayMillis : UInt32) (pathHashSize : UInt8) : M Unit := do
  let packet ← readPacket id
  let type := packet.getPayloadType
  if type = payloadTypeTrace ∨ pathHashSize = 0 ∨ pathHashSize > 3 then
    dispatcherReleasePacket id
  else do
    let packet := (packet.withRouteType routeTypeFlood).setPathHashSizeAndCount pathHashSize 0
    sendFloodPacket id packet delayMillis

/-- `meshcore_mesh_transport_flood_hash_size`: room for the SNR byte of each hop. -/
def meshTransportFloodHashSize (pathHashSize : UInt8) (transportCodes : UInt16 × UInt16) :
    UInt8 :=
  if transportCodes.1 = snrTransportCode0 ∧ transportCodes.2 = snrTransportCode1 ∧
    pathHashSize < 3
  then pathHashSize + 1
  else pathHashSize

/-- `meshcore_mesh_send_flood_by_transport_codes`. -/
def meshSendFloodByTransportCodes (id : PacketId) (transportCodes : UInt16 × UInt16)
    (delayMillis : UInt32) (pathHashSize : UInt8) : M Unit := do
  let packet ← readPacket id
  let type := packet.getPayloadType
  if type = payloadTypeTrace ∨ pathHashSize = 0 ∨ pathHashSize > 3 then
    dispatcherReleasePacket id
  else do
    let hashSize := meshTransportFloodHashSize pathHashSize transportCodes
    let packet := { packet.withRouteType routeTypeTransportFlood with transportCodes }
    let packet := packet.setPathHashSizeAndCount hashSize 0
    sendFloodPacket id packet delayMillis

/-- `meshcore_mesh_send_direct`. The path of a trace goes behind its payload. -/
def meshSendDirect (id : PacketId) (path : List UInt8) (pathLen : UInt8) (delayMillis : UInt32) :
    M Unit := do
  let packet ← readPacket id
  let packet := packet.withRouteType routeTypeDirect
  if packet.getPayloadType = payloadTypeTrace then
    if packet.payloadLen + pathLen.toNat > packetPayloadMaxLen then dispatcherReleasePacket id
    else do
      let packet :=
        { packet with
          payload := packet.payload.store packet.payloadLen (path.take pathLen.toNat)
          payloadLen := packet.payloadLen + pathLen.toNat
          pathLen := 0 }
      writePacket id packet
      let _ ← tablesHasSeen packet
      dispatcherSendPacket id 5 delayMillis
  else do
    let copied := copyPath packet.path (pathBuf path) pathLen
    let packet := { packet with path := copied.2, pathLen := copied.1.toUInt16 }
    writePacket id packet
    let _ ← tablesHasSeen packet
    dispatcherSendPacket id (if packet.getPayloadType = payloadTypePath then 1 else 0) delayMillis

/-- `meshcore_mesh_send_zero_hop`. -/
def meshSendZeroHop (id : PacketId) (delayMillis : UInt32) : M Unit := do
  let packet ← readPacket id
  let packet := { packet.withRouteType routeTypeDirect with pathLen := 0 }
  writePacket id packet
  let _ ← tablesHasSeen packet
  dispatcherSendPacket id 0 delayMillis

section

variable {hands : FloodKey → Prop}

instance (id : PacketId) (path : List UInt8) (pathLen : UInt8) (delayMillis : UInt32) :
    Uses (Steps hands) [id] (meshSendDirect id path pathLen delayMillis) fun _ => [] := by
  unfold meshSendDirect; infer_instance

instance (id : PacketId) (delayMillis : UInt32) :
    Uses (Steps hands) [id] (meshSendZeroHop id delayMillis) fun _ => [] := by
  unfold meshSendZeroHop; infer_instance

end

/-! ### What is flooded

The duplicate check of a multipart packet is on the packet inside, so a multipart packet of this
node would come back to it as new. The node floods none: every packet it floods was made just
before, with another type. -/

/-- The payload type of a packet made with `type`. -/
def madeType (type : UInt8) : UInt8 := (typeHeader type >>> phTypeShift) &&& phTypeMask

/-- A program that makes a packet of a type, or none. -/
class Makes (type : outParam UInt8) (m : M (Option PacketId)) : Prop where
  makes : ∀ ctx w id, (m ctx w).1 = some id →
    ((m ctx w).2.packetManager.packetBuf id).getPayloadType = madeType type

/-- A program that takes a packet which was made with the type. -/
class UsesMade (hands : FloodKey → Prop) (type : UInt8) (id : PacketId) (m : M Unit) : Prop where
  uses : ∀ ctx w extra, (w.packetManager.packetBuf id).getPayloadType = madeType type →
    Steps hands ctx (id :: extra, w) (extra, (m ctx w).2)

/-- The types this node floods. -/
class Floodable (type : UInt8) : Prop where
  ne_trace : madeType type ≠ payloadTypeTrace
  ne_multipart : madeType type ≠ payloadTypeMultipart

instance : Floodable payloadTypeReq := ⟨by decide, by decide⟩
instance : Floodable payloadTypeResponse := ⟨by decide, by decide⟩
instance : Floodable payloadTypeTxtMsg := ⟨by decide, by decide⟩
instance : Floodable payloadTypeAck := ⟨by decide, by decide⟩
instance : Floodable payloadTypeAdvert := ⟨by decide, by decide⟩
instance : Floodable payloadTypeGrpTxt := ⟨by decide, by decide⟩
instance : Floodable payloadTypeGrpData := ⟨by decide, by decide⟩
instance : Floodable payloadTypeAnonReq := ⟨by decide, by decide⟩
instance : Floodable payloadTypePath := ⟨by decide, by decide⟩

namespace Makes

variable {type : UInt8} {α : Type}

instance : Returns (· = none) (pure none : M (Option PacketId)) := ⟨fun _ _ => rfl⟩

instance bind (m : M α) (f : α → M (Option PacketId)) [hf : ∀ a, Makes type (f a)] :
    Makes type (m >>= f) := ⟨fun ctx _ id h => (hf _).makes ctx _ id h⟩

instance ite (c : Prop) [Decidable c] (m n : M (Option PacketId)) [hm : Returns (· = none) m]
    [hn : Makes type n] : Makes type (if c then m else n) := by
  split
  · exact ⟨fun ctx w id h => absurd (h.symm.trans (hm.returns ctx w)) (by simp)⟩
  · exact hn

instance elim (o : Option α) (n : M (Option PacketId)) (f : α → M (Option PacketId))
    [hn : Returns (· = none) n] [hf : ∀ a, Makes type (f a)] : Makes type (o.elim n f) := by
  cases o with
  | none => exact ⟨fun ctx w id h => absurd (h.symm.trans (hn.returns ctx w)) (by simp)⟩
  | some a => exact hf a

/-- A packet is filled, and its header names the type. -/
instance (priority := high) fill (id : PacketId) (payloadLen : Packet → ℕ)
    (pathLen : Packet → UInt16) (codes : Packet → UInt16 × UInt16) (path : Packet → Buf maxPathLen)
    (payload : Packet → Buf packetPayloadMaxLen) (snrQ4 : Packet → Int8) :
    Makes type (do
      updatePacket id fun p =>
        ⟨typeHeader type, payloadLen p, pathLen p, codes p, path p, payload p, snrQ4 p⟩
      pure (some id)) where
  makes ctx w id' h := by
    obtain rfl := Option.some.inj h
    simp only [updatePacket, readPacket, writePacket, Prog.run_bind, Prog.run_gets, Prog.run_modify,
      Prog.run_pure, PacketQueueManager.write, Function.update_self]
    rfl

end Makes

namespace UsesMade

variable {hands : FloodKey → Prop} {type : UInt8} {id : PacketId} {α : Type}

instance (priority := low) ofUses (m : M Unit) [hm : Uses (Steps hands) [id] m fun _ => []] :
    UsesMade hands type id m := ⟨fun ctx w extra _ => hm.uses ctx w extra⟩

instance bind (m : M α) (f : α → M Unit) [hm : Moves Quiet m]
    [hf : ∀ a, UsesMade hands type id (f a)] : UsesMade hands type id (m >>= f) where
  uses ctx w extra h := by
    have hquiet := hm.moves ctx w
    refine .head (.quiet hquiet) ((hf _).uses ctx _ extra ?_)
    rw [hquiet]
    exact h

instance ite (c : Prop) [Decidable c] (m n : M Unit) [hm : UsesMade hands type id m]
    [hn : UsesMade hands type id n] : UsesMade hands type id (if c then m else n) := by
  split
  · exact hm
  · exact hn

instance elim (o : Option α) (n : M Unit) (f : α → M Unit) [hn : UsesMade hands type id n]
    [hf : ∀ a, UsesMade hands type id (f a)] : UsesMade hands type id (o.elim n f) := by
  cases o with
  | none => exact hn
  | some a => exact hf a

end UsesMade

section

variable {hands : FloodKey → Prop} {type : UInt8}

/-- A packet is made and taken. -/
instance (priority := low) Uses.acquireMade (m : M (Option PacketId)) (n : M Unit)
    (f : PacketId → M Unit) [hm : Uses (Steps hands) [] m Option.toList] [hmade : Makes type m]
    [hn : Uses (Steps hands) [] n fun _ => []] [hf : ∀ id, UsesMade hands type id (f id)] :
    Uses (Steps hands) [] (m >>= fun o => o.elim n f) fun _ => [] where
  uses ctx w extra := by
    have h1 := hm.uses ctx w extra
    rw [Prog.run_bind]
    cases ho : (m ctx w).1 with
    | none =>
      rw [ho] at h1
      exact h1.trans (hn.uses ctx _ extra)
    | some id =>
      rw [ho] at h1
      exact h1.trans ((hf id).uses ctx _ extra (hmade.makes ctx w id ho))

theorem getPayloadType_withRouteType (packet : Packet) {routeType : UInt8}
    (h : routeType >>> (2 : UInt8) = 0) :
    (packet.withRouteType routeType).getPayloadType = packet.getPayloadType := by
  rw [Packet.getPayloadType, Packet.withRouteType, UInt8.shiftRight_or, h, UInt8.shiftRight_and,
    UInt8.or_zero, UInt8.and_assoc]
  rfl

/-- A packet of another type than a trace or a multipart packet is recorded under its own hash. -/
theorem recordSentFlood_uses {packet : Packet} (htrace : packet.getPayloadType ≠ payloadTypeTrace)
    (hmulti : packet.getPayloadType ≠ payloadTypeMultipart) :
    Uses (Steps hands) [] (recordSentFlood packet) fun _ => [] where
  uses ctx w extra := by
    have hseen := (inferInstance :
      Uses (Steps hands) [] (tablesHasSeen packet) fun _ => []).uses ctx w extra
    refine hseen.trans ?_
    simp only [recordSentFlood, Prog.run_bind, Prog.run_ite]
    split
    · exact .refl
    · rename_i hlen
      refine .single (.sent packet.floodKey w.tick hmulti ?_)
      have hmem := mem_tablesHasSeen packet ctx w
      rw [calculateHash_run, if_neg hlen, Packet.hashData, if_neg htrace] at hmem
      exact hmem

theorem sendFloodPacket_uses (id : PacketId) {packet : Packet} (delayMillis : UInt32)
    (htrace : packet.getPayloadType ≠ payloadTypeTrace)
    (hmulti : packet.getPayloadType ≠ payloadTypeMultipart) :
    Uses (Steps hands) [id] (sendFloodPacket id packet delayMillis) fun _ => [] := by
  have := @recordSentFlood_uses hands _ htrace hmulti
  unfold sendFloodPacket
  infer_instance

instance (id : PacketId) (delayMillis : UInt32) (pathHashSize : UInt8) [ht : Floodable type] :
    UsesMade hands type id (meshSendFlood id delayMillis pathHashSize) where
  uses ctx w extra htype := by
    let packet :=
      ((w.packetManager.packetBuf id).withRouteType routeTypeFlood).setPathHashSizeAndCount
        pathHashSize 0
    have hkeep : packet.getPayloadType = madeType type :=
      (getPayloadType_withRouteType _ (by decide)).trans htype
    have := @sendFloodPacket_uses hands id _ delayMillis (hkeep ▸ ht.ne_trace)
      (hkeep ▸ ht.ne_multipart)
    have hall : Uses (Steps hands) [id]
        (if (w.packetManager.packetBuf id).getPayloadType = payloadTypeTrace ∨ pathHashSize = 0 ∨
          pathHashSize > 3
        then dispatcherReleasePacket id else sendFloodPacket id packet delayMillis)
        fun _ => [] := inferInstance
    exact hall.uses ctx w extra

instance (id : PacketId) (codes : UInt16 × UInt16) (delayMillis : UInt32) (pathHashSize : UInt8)
    [ht : Floodable type] :
    UsesMade hands type id (meshSendFloodByTransportCodes id codes delayMillis pathHashSize) where
  uses ctx w extra htype := by
    let packet :=
      { (w.packetManager.packetBuf id).withRouteType routeTypeTransportFlood with
        transportCodes := codes }.setPathHashSizeAndCount
          (meshTransportFloodHashSize pathHashSize codes) 0
    have hkeep : packet.getPayloadType = madeType type :=
      (getPayloadType_withRouteType _ (by decide)).trans htype
    have := @sendFloodPacket_uses hands id _ delayMillis (hkeep ▸ ht.ne_trace)
      (hkeep ▸ ht.ne_multipart)
    have hall : Uses (Steps hands) [id]
        (if (w.packetManager.packetBuf id).getPayloadType = payloadTypeTrace ∨ pathHashSize = 0 ∨
          pathHashSize > 3
        then dispatcherReleasePacket id else sendFloodPacket id packet delayMillis)
        fun _ => [] := inferInstance
    exact hall.uses ctx w extra

end

section

instance (identity : LocalIdentity) (appData : List UInt8) :
    Makes payloadTypeAdvert (meshCreateAdvert identity appData) := by
  unfold meshCreateAdvert; infer_instance

instance (id : PacketId) (type : UInt8) (clear : List UInt8) (secret : Buf publicKeySize)
    (data : List UInt8) : Makes type (fillEncrypted id type clear secret data) := by
  unfold fillEncrypted; infer_instance

instance (type : UInt8) (dest : Identity) (secret : Buf publicKeySize) (data : List UInt8) :
    Makes type (meshCreateDatagram type dest secret data) := by
  unfold meshCreateDatagram; infer_instance

instance (type : UInt8) (sender : LocalIdentity) (dest : Identity) (secret : Buf publicKeySize)
    (data : List UInt8) :
    Makes type (meshCreateAnonDatagram type sender dest secret data) := by
  unfold meshCreateAnonDatagram; infer_instance

instance (type : UInt8) (channel : GroupChannel) (data : List UInt8) :
    Makes type (meshCreateGroupDatagram type channel data) := by
  unfold meshCreateGroupDatagram; infer_instance

instance (ack : List UInt8) : Makes payloadTypeAck (meshCreateAckData ack) := by
  unfold meshCreateAckData; infer_instance

instance (destHash : List UInt8) (secret : Buf publicKeySize) (path : List UInt8)
    (pathLen extraType : UInt8) (extra : List UInt8) :
    Makes payloadTypePath
      (meshCreatePathReturnByDestHash destHash secret path pathLen extraType extra) := by
  unfold meshCreatePathReturnByDestHash; infer_instance

instance (dest : Identity) (secret : Buf publicKeySize) (path : List UInt8)
    (pathLen extraType : UInt8) (extra : List UInt8) :
    Makes payloadTypePath
      (meshCreatePathReturnByIdentity dest secret path pathLen extraType extra) := by
  unfold meshCreatePathReturnByIdentity; infer_instance

end

end Meshcore
