import Meshcore.Receive

/-!
# Receiving in the mesh

`meshcore_mesh_on_recv_packet` and what it calls in `core/meshcore_mesh.c`: the decisions about a
received packet. The source works on the packet in its buffer; here the packet is a value that goes
in and comes back changed, together with the action for the dispatcher. The buffer is held by the
dispatcher during the call, so no other packet shares it.

Each payload type is one definition, in the order of the source's `switch`.

Reads of the packet's payload and path, and writes to its path, are recorded with what they touch.
Not recorded are those of the whole payload, which cannot miss it.

## Main definitions

* `meshRouteRecvPacket` — the flood relay: this node's hash goes to the end of the path
* `meshRemoveSelfFromPath`, `onRecvDirectHop` — the direct relay: the first hash goes
* `meshOnRecvPacket`
* `Verdict` — what it answers
-/

set_option synthInstance.maxSize 10000

namespace Meshcore

/-- `meshcore_dispatcher_action`. -/
abbrev Action : Type := UInt32

abbrev actionRelease : Action := 0
abbrev actionManualHold : Action := 1

/-- `MESHCORE_ACTION_RETRANSMIT_DELAYED`: the priority, plus one, above the delay. A delay of more
than 24 bits runs into the priority. -/
def actionRetransmitDelayed (pri : UInt8) (delay : UInt32) : Action :=
  ((1 + pri.toUInt32) <<< 24) ||| delay

/-- The priority in an action, as the dispatcher reads it. -/
def actionPriority (action : Action) : UInt8 := ((action >>> 24) - 1).toUInt8

/-- The payload of a flood packet goes to the role logic. -/
def handOver (packet : Packet) : M Unit :=
  if packet.isRouteFlood then mark (.handed packet.floodKey) else pure ()

/-! ### Accesses to the packet -/

/-- `n` bytes of the payload, from index `i` on. -/
def payloadRead (packet : Packet) (i n : ℕ) : M (List UInt8) := do
  access (i + n ≤ packet.payloadLen)
  pure (packet.payload.slice i n)

/-- One byte of the payload. -/
def payloadByte (packet : Packet) (i : ℕ) : M UInt8 := do
  access (i < packet.payloadLen)
  pure (packet.payload.get i)

/-- `n` bytes of the path, from index `i` on. -/
def pathRead (packet : Packet) (i n : ℕ) : M (List UInt8) := do
  access (i + n ≤ packet.getPathByteLen.toNat)
  pure (packet.path.slice i n)

/-! ### Forwarding -/

/-- This node's hash, of the size that the packet uses, goes to the end of the path. -/
def appendSelfToPath (selfId : Identity) (packet : Packet) : Packet :=
  let hashCount := packet.getPathHashCount
  let hashSize := packet.getPathHashSize
  { packet with
    path := packet.path.store (hashCount.toNat * hashSize.toNat)
      (identityCopyHashByLen selfId hashSize.toNat) }.setPathHashCount (hashCount + 1)

/-- `meshcore_mesh_route_recv_packet`. -/
def meshRouteRecvPacket (packet : Packet) : M (Action × Packet) :=
  let hashCount := packet.getPathHashCount
  let hashSize := packet.getPathHashSize
  if packet.isRouteFlood ∧ !packet.isMarkedDoNotRetransmit ∧
    (hashCount.toNat + 1) * hashSize.toNat ≤ maxPathLen
  then do
    let allow ← allowPacketForward packet
    if !allow then pure (actionRelease, packet)
    else do
      let selfId ← Prog.gets World.selfId
      access (hashCount.toNat * hashSize.toNat + hashSize.toNat ≤ maxPathLen)
      let packet := appendSelfToPath selfId.identity packet
      let delay ← getRetransmitDelay packet
      pure (actionRetransmitDelayed packet.getPathHashCount delay, packet)
  else pure (actionRelease, packet)

/-- The loop of `meshcore_mesh_remove_self_from_path`: `n` entries of `sz` bytes move down by one,
from index `k`. The path is as long as that of `received`. -/
def shiftPath (received : Packet) (sz : ℕ) : ℕ → (k : ℕ) → Buf maxPathLen → M (Buf maxPathLen)
  | 0, _, path => pure path
  | n + 1, k, path => do
    access (k + sz + sz ≤ received.getPathByteLen.toNat)
    access (k + sz ≤ maxPathLen)
    shiftPath received sz n (k + sz) (path.store k (path.slice (k + sz) sz))

/-- `meshcore_mesh_remove_self_from_path`. -/
def meshRemoveSelfFromPath (received : Packet) : M Packet :=
  let hashCount := received.getPathHashCount
  if hashCount = 0 then pure received
  else do
    let packet := received.setPathHashCount (hashCount - 1)
    let path ← shiftPath received packet.getPathHashSize.toNat packet.getPathHashCount.toNat 0
      packet.path
    pure { packet with path }

/-- One acknowledgement that takes over the path of `packet`. -/
def sendAckAlong (packet : Packet) (id : PacketId) (delayMillis : UInt32) : M Unit := do
  access (packet.getPathByteLen.toNat ≤ maxPathLen)
  updatePacket id fun ack =>
    let copied := copyPath ack.path packet.path packet.pathLenField
    { ack.withRouteType routeTypeDirect with path := copied.2, pathLen := copied.1.toUInt16 }
  dispatcherSendPacket id 0 delayMillis

/-- The loop of `meshcore_mesh_route_direct_recv_acks`, and the delay it ends with. -/
def routeExtraAcks (packet : Packet) : ℕ → UInt32 → M UInt32
  | 0, delayMillis => pure delayMillis
  | extra + 1, delayMillis => do
    let retransmit ← getDirectRetransmitDelay packet
    let delayMillis := delayMillis + (retransmit + 300)
    let a1 ← meshCreateMultiAckData packet.payloadBytes (UInt8.ofNat (extra + 1))
    a1.elim (routeExtraAcks packet extra delayMillis) fun id => do
      sendAckAlong packet id delayMillis
      routeExtraAcks packet extra delayMillis

/-- `meshcore_mesh_route_direct_recv_acks`. -/
def meshRouteDirectRecvAcks (packet : Packet) (delayMillis : UInt32) : M Unit :=
  if packet.isMarkedDoNotRetransmit then pure ()
  else do
    let extra ← hook Hooks.extraAckTransmitCount
    let delayMillis ← routeExtraAcks packet extra.toNat delayMillis
    let a2 ← meshCreateAckData packet.payloadBytes
    a2.elim (pure ()) fun id => sendAckAlong packet id delayMillis

/-- The acknowledgement inside a multipart packet, with the packet's header and path. -/
def multipartInner (packet : Packet) : Packet :=
  let copied := copyPath (Buf.zero _) packet.path packet.pathLenField
  { Packet.init with
    header := packet.header
    path := copied.2
    pathLen := copied.1.toUInt16
    payloadLen := packet.payloadLen - 1
    payload := (Buf.zero _).store 0 (packet.payload.slice 1 (packet.payloadLen - 1)) }

theorem payloadBytes_multipartInner {packet : Packet}
    (hlen : packet.payloadLen ≤ packetPayloadMaxLen) :
    (multipartInner packet).payloadBytes = packet.payloadBytes.drop 1 := by
  have hmax : packet.payloadLen ≤ 184 := hlen
  have hslice : (packet.payload.slice 1 (packet.payloadLen - 1)).length
      = packet.payloadLen - 1 := by
    rw [Buf.length_slice]
    show min _ (184 - 1) = _
    omega
  have hfits : 0 + (packet.payload.slice 1 (packet.payloadLen - 1)).length ≤ 184 := by omega
  rw [Packet.payloadBytes, Packet.payloadBytes, Buf.drop_slice, Nat.zero_add]
  refine Eq.trans ?_ (Buf.slice_store_self (Buf.zero packetPayloadMaxLen) hfits)
  rw [hslice]
  rfl

/-- What `multipartInner` touches. -/
def accessInner (packet : Packet) : M Unit := do
  access (packet.getPathByteLen.toNat ≤ maxPathLen)
  access (1 + (packet.payloadLen - 1) ≤ packet.payloadLen)

/-- Whether a multipart packet that starts with this byte carries an acknowledgement. -/
def multipartIsAck (packet : Packet) (first : UInt8) : Bool :=
  first &&& 0x0F == payloadTypeAck && decide (5 ≤ packet.payloadLen)

/-- `meshcore_mesh_forward_multipart_direct`, which releases the packet always. -/
def meshForwardMultipartDirect (packet : Packet) : M Unit :=
  if packet.payloadLen = 0 then pure ()
  else do
    let first ← payloadByte packet 0
    if multipartIsAck packet first then do
      let remaining := first >>> 4
      accessInner packet
      let tmp := multipartInner packet
      let seen ← tablesHasSeen tmp
      if seen then pure ()
      else do
        let tmp ← meshRemoveSelfFromPath tmp
        meshRouteDirectRecvAcks tmp ((remaining.toUInt32 + 1) * 300)
    else pure ()

/-! ### Direct packets -/

/-- A direct trace on its way, whose next hash is `hash`. -/
def forwardTrace (packet : Packet) (hash : List UInt8) (hashSize : ℕ) : M (Action × Packet) := do
  let selfId ← Prog.gets World.selfId
  if !identityIsHashMatchByLen selfId.identity hash hashSize then pure (actionRelease, packet)
  else do
    let allow ← allowPacketForward packet
    if !allow then pure (actionRelease, packet)
    else do
      let seen ← tablesHasSeen packet
      if seen then pure (actionRelease, packet)
      else do
        access (packet.pathLen.toNat < maxPathLen)
        let packet :=
          { packet with
            path := packet.path.set packet.pathLen.toNat packet.snrQ4.toUInt8
            pathLen := packet.pathLen + 1 }
        let delay ← getDirectRetransmitDelay packet
        pure (actionRetransmitDelayed 5 delay, packet)

/-- A direct trace: at the end of its route it is answered, on the way it collects an SNR. -/
def onRecvTrace (packet : Packet) : M (Action × Packet) :=
  if packet.pathLen.toNat < maxPathLen ∧ packet.payloadLen ≥ 9 then do
    let traceTag ← payloadRead packet 0 4
    let authCode ← payloadRead packet 4 4
    let flags ← payloadByte packet 8
    let pathSz := (flags &&& 0x03).toNat
    let len := packet.payloadLen - 9
    let offset := packet.pathLen.toNat * 2 ^ pathSz
    if offset ≥ len then do
      onTraceRecv packet (wordAt traceTag) (wordAt authCode) flags packet.path
        (packet.payload.slice 9 len)
      pure (actionRelease, packet)
    else do
      let hash ← payloadRead packet (9 + offset) (2 ^ pathSz)
      forwardTrace packet hash (2 ^ pathSz)
  else pure (actionRelease, packet)

/-- A direct packet that still has hops to go. -/
def onRecvDirectHop (packet : Packet) : M (Action × Packet) := do
  let payloadType := packet.getPayloadType
  (if payloadType = payloadTypeAck ∧ packet.payloadLen ≥ 4 then do
    let ackCrc ← payloadRead packet 0 4
    onAckRecv packet (wordAt ackCrc)
  else pure ())
  let selfId ← Prog.gets World.selfId
  let hash ← pathRead packet 0 packet.getPathHashSize.toNat
  if !identityIsHashMatchByLen selfId.identity hash packet.getPathHashSize.toNat then
    pure (actionRelease, packet)
  else do
    let allow ← allowPacketForward packet
    if !allow then pure (actionRelease, packet)
    else if payloadType = payloadTypeMultipart then do
      meshForwardMultipartDirect packet
      pure (actionRelease, packet)
    else do
      let seen ← tablesHasSeen packet
      if seen then pure (actionRelease, packet)
      else if payloadType = payloadTypeAck then do
        let packet ← meshRemoveSelfFromPath packet
        meshRouteDirectRecvAcks packet 0
        pure (actionRelease, packet)
      else do
        let packet ← meshRemoveSelfFromPath packet
        let delay ← getDirectRetransmitDelay packet
        pure (actionRetransmitDelayed 0 delay, packet)

/-! ### Payload types -/

/-- `PAYLOAD_TYPE_ACK`. -/
def onRecvAck (packet : Packet) : M (Action × Packet) :=
  if packet.payloadLen < 4 then pure (actionRelease, packet)
  else do
    let ackCrc ← payloadRead packet 0 4
    let seen ← tablesHasSeen packet
    if seen then pure (actionRelease, packet)
    else do
      handOver packet
      onAckRecv packet (wordAt ackCrc)
      meshRouteRecvPacket packet

/-- What a decrypted path packet says: the path length, what follows it, the type of the extra
and the extra. -/
structure PathReturn where
  pathLen : UInt8
  path : List UInt8
  extraType : UInt8
  extra : List UInt8

/-- The checks on the plaintext of a path packet. -/
def parsePathReturn (data : List UInt8) : Option PathReturn :=
  if data.length < 2 then none
  else
    let pathLen := data.getD 0 0
    let pathBytes := (hashSizeOf pathLen).toNat * (hashCountOf pathLen).toNat
    if 1 + pathBytes + 1 > data.length then none
    else
      some
        { pathLen
          path := data.drop 1
          extraType := data.getD (1 + pathBytes) 0 &&& 0x0F
          extra := data.drop (2 + pathBytes) }

/-- A path packet whose plaintext was accepted, and the reverse path in answer to a flood. -/
def onRecvPath (packet : Packet) (srcHash : UInt8) (sender : PeerIdentity)
    (secret : Buf publicKeySize) (r : PathReturn) : M Unit := do
  handOver packet
  let answer ← onPeerPathRecv packet sender secret r.path r.pathLen r.extraType r.extra
  if answer ∧ packet.isRouteFlood then do
    let path ← pathRead packet 0 packet.getPathByteLen.toNat
    let rpath ← meshCreatePathReturnByDestHash [srcHash] secret path packet.pathLenField 0 []
    rpath.elim (pure ()) fun id => meshSendDirect id r.path r.pathLen 500
  else pure ()

/-- The candidates for the sender of a packet, from slot `cursor` on, until one has the key. -/
def tryPeers (packet : Packet) (srcHash : UInt8) (macAndData : List UInt8) :
    ℕ → (cursor : ℕ) → M Bool
  | 0, _ => pure false
  | n + 1, cursor => do
    let candidate ← hook fun h => h.peerNextSharedSecretByHash srcHash cursor
    candidate.elim (pure false) fun candidate => do
      let next := candidate.1 + 1
      let secret := candidate.2.1
      let sender := candidate.2.2
      let data ← utilsMacThenDecrypt secret macAndData
      if data.length = 0 then tryPeers packet srcHash macAndData n next
      else if packet.getPayloadType = payloadTypePath then
        (parsePathReturn data).elim (tryPeers packet srcHash macAndData n next) fun r => do
          onRecvPath packet srcHash sender secret r
          pure true
      else do
        handOver packet
        onPeerDataRecv packet packet.getPayloadType sender secret data
        pure true

/-- `PAYLOAD_TYPE_PATH`, `_REQ`, `_RESPONSE` and `_TXT_MSG`. A packet that a peer's key opened is
not retransmitted. -/
def onRecvPeer (packet : Packet) : M (Action × Packet) :=
  if packet.payloadLen < 2 then pure (actionRelease, packet)
  else do
    let destHash ← payloadByte packet 0
    let srcHash ← payloadByte packet 1
    if 2 + cipherMacSize ≥ packet.payloadLen then pure (actionRelease, packet)
    else do
      let seen ← tablesHasSeen packet
      if seen then pure (actionRelease, packet)
      else do
        let selfId ← Prog.gets World.selfId
        let ctx ← Prog.env
        let macAndData ← payloadRead packet 2 (packet.payloadLen - 2)
        let found ← (if identityIsHashMatch selfId.identity [destHash] then
            tryPeers packet srcHash macAndData ctx.peerLimit 0
          else pure false)
        meshRouteRecvPacket (if found then packet.markDoNotRetransmit else packet)

/-- `PAYLOAD_TYPE_ANON_REQ`. -/
def onRecvAnon (packet : Packet) : M (Action × Packet) :=
  if packet.payloadLen < 1 + publicKeySize then pure (actionRelease, packet)
  else do
    let destHash ← payloadByte packet 0
    let off := 1 + publicKeySize
    if off + cipherMacSize ≥ packet.payloadLen then pure (actionRelease, packet)
    else do
      let seen ← tablesHasSeen packet
      if seen then pure (actionRelease, packet)
      else do
        let selfId ← Prog.gets World.selfId
        if !identityIsHashMatch selfId.identity [destHash] then meshRouteRecvPacket packet
        else do
          let senderPubKey ← payloadRead packet 1 publicKeySize
          let sender : Identity := (Buf.zero _).store 0 senderPubKey
          let secret ← localIdentityCalcSharedSecret selfId sender
          let macAndData ← payloadRead packet off (packet.payloadLen - off)
          let data ← utilsMacThenDecrypt secret macAndData
          if data.length = 0 then meshRouteRecvPacket packet
          else do
            handOver packet
            emit (.meshOnAnonDataRecv packet secret sender data)
            meshRouteRecvPacket packet.markDoNotRetransmit

/-- The channels with the packet's hash, until one has the key. -/
def tryChannels (packet : Packet) (macAndData : List UInt8) : List GroupChannel → M Unit
  | [] => pure ()
  | channel :: channels => do
    let data ← utilsMacThenDecrypt channel.secret macAndData
    if data.length = 0 then tryChannels packet macAndData channels
    else do
      handOver packet
      onGroupDataRecv packet packet.getPayloadType channel data

/-- `PAYLOAD_TYPE_GRP_DATA` and `_GRP_TXT`. -/
def onRecvGroup (packet : Packet) : M (Action × Packet) :=
  if packet.payloadLen < 1 then pure (actionRelease, packet)
  else do
    let channelHash ← payloadByte packet 0
    if 1 + cipherMacSize ≥ packet.payloadLen then pure (actionRelease, packet)
    else do
      let seen ← tablesHasSeen packet
      if seen then pure (actionRelease, packet)
      else do
        let channels ← hook fun h => (h.channelSearchByHash channelHash).take
            channelSearchMaxMatches
        let macAndData ← payloadRead packet 1 (packet.payloadLen - 1)
        tryChannels packet macAndData channels
        meshRouteRecvPacket packet

/-- `PAYLOAD_TYPE_ADVERT`. -/
def onRecvAdvert (packet : Packet) : M (Action × Packet) :=
  let off := publicKeySize + 4 + 64
  if packet.payloadLen < off then pure (actionRelease, packet)
  else do
    let pubKey ← payloadRead packet 0 publicKeySize
    let identity : Identity := (Buf.zero _).store 0 pubKey
    let timestamp ← payloadRead packet publicKeySize 4
    let selfId ← Prog.gets World.selfId
    if identityMatchesByPubKey selfId.identity identity then pure (actionRelease, packet)
    else do
      let seen ← tablesHasSeen packet
      if seen then pure (actionRelease, packet)
      else do
        let appData ← payloadRead packet off (min (packet.payloadLen - off) meshMaxAdvertDataSize)
        let signature ← payloadRead packet (publicKeySize + 4) 64
        let isOk ← identityVerify identity signature (identity.bytes ++ timestamp ++ appData)
        if !isOk then pure (actionRelease, packet)
        else do
          handOver packet
          onAdvertRecv packet identity (wordAt timestamp) appData
          meshRouteRecvPacket packet

/-- `PAYLOAD_TYPE_RAW_CUSTOM`: direct packets only. -/
def onRecvRawCustom (packet : Packet) : M (Action × Packet) :=
  if !packet.isRouteDirect then pure (actionRelease, packet)
  else do
    let seen ← tablesHasSeen packet
    if seen then pure (actionRelease, packet)
    else do
      handOver packet
      onRawDataRecv packet
      pure (actionRelease, packet)

/-- `PAYLOAD_TYPE_MULTIPART`. The duplicate check is on the acknowledgement inside. -/
def onRecvMultipart (packet : Packet) : M (Action × Packet) :=
  if packet.payloadLen > 2 then do
    let first ← payloadByte packet 0
    if multipartIsAck packet first then do
      accessInner packet
      let tmp := multipartInner packet
      let seen ← tablesHasSeen tmp
      if seen ∨ tmp.payloadLen < 4 then pure (actionRelease, packet)
      else do
        handOver packet
        let ackCrc ← payloadRead tmp 0 4
        onAckRecv tmp (wordAt ackCrc)
        pure (actionRelease, packet)
    else pure (actionRelease, packet)
  else pure (actionRelease, packet)

/-- The `switch` of `meshcore_mesh_on_recv_packet`. -/
def onRecvPayload (packet : Packet) : M (Action × Packet) :=
  let payloadType := packet.getPayloadType
  if payloadType = payloadTypeAck then onRecvAck packet
  else if payloadType = payloadTypePath ∨ payloadType = payloadTypeReq ∨
    payloadType = payloadTypeResponse ∨ payloadType = payloadTypeTxtMsg
  then onRecvPeer packet
  else if payloadType = payloadTypeAnonReq then onRecvAnon packet
  else if payloadType = payloadTypeGrpData ∨ payloadType = payloadTypeGrpTxt then
    onRecvGroup packet
  else if payloadType = payloadTypeAdvert then onRecvAdvert packet
  else if payloadType = payloadTypeRawCustom then onRecvRawCustom packet
  else if payloadType = payloadTypeMultipart then onRecvMultipart packet
  else pure (actionRelease, packet)

/-- `meshcore_mesh_on_recv_packet`, behind the traces and the control packets for one hop. -/
def onRecvRouted (packet : Packet) : M (Action × Packet) :=
  if packet.isRouteDirect ∧ packet.getPathHashCount > 0 then onRecvDirectHop packet
  else do
    let filtered ←
      (if packet.isRouteFlood then hook fun h => h.filterRecvFloodPacket packet else pure false)
    if filtered then pure (actionRelease, packet) else onRecvPayload packet

/-- `meshcore_mesh_on_recv_packet`. -/
def meshOnRecvPacket (packet : Packet) : M (Action × Packet) :=
  let payloadType := packet.getPayloadType
  if packet.isRouteDirect ∧ payloadType = payloadTypeTrace then onRecvTrace packet
  else if packet.isRouteDirect ∧ payloadType = payloadTypeControl ∧ packet.payloadLen > 0 then do
    let first ← payloadByte packet 0
    if first &&& 0x80 ≠ 0 then
      if packet.getPathHashCount = 0 then do
        onControlDataRecv packet
        pure (actionRelease, packet)
      else pure (actionRelease, packet)
    else onRecvRouted packet
  else onRecvRouted packet

/-! ### Their verdicts -/

/-- The mesh releases a packet or has it retransmitted. -/
def Verdict (r : Action × Packet) : Prop :=
  r.1 = actionRelease ∨ ∃ pri delay, pri < 255 ∧ r.1 = actionRetransmitDelayed pri delay

theorem toNat_priorityByte {pri : UInt8} (hpri : pri < 255) :
    ((1 + pri.toUInt32) <<< 24).toNat = (1 + pri.toNat) * 2 ^ 24 := by
  have hlt : pri.toNat < 255 := by simpa [UInt8.lt_iff_toNat_lt] using hpri
  rw [UInt32.toNat_shiftLeft, UInt32.toNat_add, UInt8.toNat_toUInt32, Nat.shiftLeft_eq,
    show (1 : UInt32).toNat = 1 from rfl, show (24 : UInt32).toNat % 32 = 24 from rfl]
  omega

/-- A retransmission has a byte above its delay that is not 0, so it is neither of the other
actions. -/
theorem two_pow_le_actionRetransmitDelayed {pri : UInt8} (hpri : pri < 255) (delay : UInt32) :
    2 ^ 24 ≤ (actionRetransmitDelayed pri delay).toNat := by
  rw [actionRetransmitDelayed, UInt32.toNat_or, toNat_priorityByte hpri]
  exact le_trans (by omega) Nat.left_le_or

/-- The mesh never keeps a packet. -/
theorem Verdict.ne_hold {r : Action × Packet} (h : Verdict r) : r.1 ≠ actionManualHold := by
  rcases h with h | ⟨pri, delay, hpri, h⟩
  · rw [h]
    decide
  · intro hhold
    have hle := two_pow_le_actionRetransmitDelayed hpri delay
    rw [← h, hhold] at hle
    exact absurd hle (by decide)

instance (packet : Packet) : Returns Verdict (pure (actionRelease, packet) : M _) :=
  ⟨fun _ _ => .inl rfl⟩

instance (packet : Packet) (delay : UInt32) :
    Returns Verdict (pure (actionRetransmitDelayed 5 delay, packet) : M _) :=
  ⟨fun _ _ => .inr ⟨5, delay, by decide, rfl⟩⟩

instance (packet : Packet) (delay : UInt32) :
    Returns Verdict (pure (actionRetransmitDelayed 0 delay, packet) : M _) :=
  ⟨fun _ _ => .inr ⟨0, delay, by decide, rfl⟩⟩

instance (packet : Packet) (delay : UInt32) :
    Returns Verdict
      (pure (actionRetransmitDelayed packet.getPathHashCount delay, packet) : M _) where
  returns _ _ := .inr ⟨_, delay, packet.getPathHashCount_lt_255, rfl⟩

instance (packet : Packet) : Returns Verdict (meshRouteRecvPacket packet) := by
  unfold meshRouteRecvPacket; infer_instance

instance (packet : Packet) (hash : List UInt8) (hashSize : ℕ) :
    Returns Verdict (forwardTrace packet hash hashSize) := by
  unfold forwardTrace; infer_instance

instance (packet : Packet) : Returns Verdict (onRecvTrace packet) := by
  unfold onRecvTrace; infer_instance

instance (packet : Packet) : Returns Verdict (onRecvDirectHop packet) := by
  unfold onRecvDirectHop; infer_instance

instance (packet : Packet) : Returns Verdict (onRecvAck packet) := by
  unfold onRecvAck; infer_instance

instance (packet : Packet) : Returns Verdict (onRecvPeer packet) := by
  unfold onRecvPeer; infer_instance

instance (packet : Packet) : Returns Verdict (onRecvAnon packet) := by
  unfold onRecvAnon; infer_instance

instance (packet : Packet) : Returns Verdict (onRecvGroup packet) := by
  unfold onRecvGroup; infer_instance

instance (packet : Packet) : Returns Verdict (onRecvAdvert packet) := by
  unfold onRecvAdvert; infer_instance

instance (packet : Packet) : Returns Verdict (onRecvRawCustom packet) := by
  unfold onRecvRawCustom; infer_instance

instance (packet : Packet) : Returns Verdict (onRecvMultipart packet) := by
  unfold onRecvMultipart; infer_instance

instance (packet : Packet) : Returns Verdict (onRecvPayload packet) := by
  unfold onRecvPayload; infer_instance

instance (packet : Packet) : Returns Verdict (onRecvRouted packet) := by
  unfold onRecvRouted; infer_instance

instance (packet : Packet) : Returns Verdict (meshOnRecvPacket packet) := by
  unfold meshOnRecvPacket; infer_instance

/-! ### Their effects -/

section

/-- A flood packet may be handed over under its key. -/
class HandsOver (hands : FloodKey → Prop) (packet : Packet) : Prop where
  hands : packet.isRouteFlood = true → hands packet.floodKey

variable {hands : FloodKey → Prop}

instance (packet : Packet) [hp : HandsOver hands packet] :
    Uses (Steps hands) [] (handOver packet) fun _ => [] where
  uses _ _ _ := by
    rw [handOver]
    split
    · rename_i hflood
      exact .single (.handed _ (hp.hands hflood))
    · exact .refl

instance (packet : Packet) (i n : ℕ) : Moves Quiet (payloadRead packet i n) := by
  unfold payloadRead; infer_instance

instance (packet : Packet) (i : ℕ) : Moves Quiet (payloadByte packet i) := by
  unfold payloadByte; infer_instance

instance (packet : Packet) (i n : ℕ) : Moves Quiet (pathRead packet i n) := by
  unfold pathRead; infer_instance

instance (packet : Packet) : Moves Quiet (accessInner packet) := by
  unfold accessInner; infer_instance

theorem shiftPath_quiet (received : Packet) (sz n k : ℕ) (path : Buf maxPathLen) :
    Moves Quiet (shiftPath received sz n k path) := by
  induction n generalizing k path with
  | zero => unfold shiftPath; infer_instance
  | succ n ih => unfold shiftPath; infer_instance

attribute [instance] shiftPath_quiet

instance (packet : Packet) : Moves Quiet (meshRemoveSelfFromPath packet) := by
  unfold meshRemoveSelfFromPath; infer_instance

instance (packet : Packet) : Moves Quiet (meshRouteRecvPacket packet) := by
  unfold meshRouteRecvPacket; infer_instance

instance (packet : Packet) (id : PacketId) (delayMillis : UInt32) :
    Uses (Steps hands) [id] (sendAckAlong packet id delayMillis) fun _ => [] := by
  unfold sendAckAlong; infer_instance

theorem routeExtraAcks_uses (packet : Packet) (extra : ℕ) (delayMillis : UInt32) :
    Uses (Steps hands) [] (routeExtraAcks packet extra delayMillis) fun _ => [] := by
  induction extra generalizing delayMillis with
  | zero => unfold routeExtraAcks; infer_instance
  | succ extra ih => unfold routeExtraAcks; infer_instance

attribute [instance] routeExtraAcks_uses

instance (packet : Packet) (delayMillis : UInt32) :
    Uses (Steps hands) [] (meshRouteDirectRecvAcks packet delayMillis) fun _ => [] := by
  unfold meshRouteDirectRecvAcks; infer_instance

instance (packet : Packet) :
    Uses (Steps hands) [] (meshForwardMultipartDirect packet) fun _ => [] := by
  unfold meshForwardMultipartDirect; infer_instance

instance (packet : Packet) (hash : List UInt8) (hashSize : ℕ) :
    Uses (Steps hands) [] (forwardTrace packet hash hashSize) fun _ => [] := by
  unfold forwardTrace; infer_instance

instance (packet : Packet) : Uses (Steps hands) [] (onRecvTrace packet) fun _ => [] := by
  unfold onRecvTrace; infer_instance

instance (packet : Packet) : Uses (Steps hands) [] (onRecvDirectHop packet) fun _ => [] := by
  unfold onRecvDirectHop; infer_instance

instance (packet : Packet) [HandsOver hands packet] :
    Uses (Steps hands) [] (onRecvAck packet) fun _ => [] := by
  unfold onRecvAck; infer_instance

instance (packet : Packet) (srcHash : UInt8) (sender : PeerIdentity)
    (secret : Buf publicKeySize) (r : PathReturn) [HandsOver hands packet] :
    Uses (Steps hands) [] (onRecvPath packet srcHash sender secret r) fun _ => [] := by
  unfold onRecvPath; infer_instance

theorem tryPeers_uses (packet : Packet) (srcHash : UInt8) (macAndData : List UInt8) (n cursor : ℕ)
    [HandsOver hands packet] :
    Uses (Steps hands) [] (tryPeers packet srcHash macAndData n cursor) fun _ => [] := by
  induction n generalizing cursor with
  | zero => unfold tryPeers; infer_instance
  | succ n ih => unfold tryPeers; infer_instance

attribute [instance] tryPeers_uses

instance (packet : Packet) [HandsOver hands packet] :
    Uses (Steps hands) [] (onRecvPeer packet) fun _ => [] := by
  unfold onRecvPeer; infer_instance

instance (packet : Packet) [HandsOver hands packet] :
    Uses (Steps hands) [] (onRecvAnon packet) fun _ => [] := by
  unfold onRecvAnon; infer_instance

theorem tryChannels_uses (packet : Packet) (macAndData : List UInt8)
    (channels : List GroupChannel) [HandsOver hands packet] :
    Uses (Steps hands) [] (tryChannels packet macAndData channels) fun _ => [] := by
  induction channels with
  | nil => unfold tryChannels; infer_instance
  | cons channel channels ih => unfold tryChannels; infer_instance

attribute [instance] tryChannels_uses

instance (packet : Packet) [HandsOver hands packet] :
    Uses (Steps hands) [] (onRecvGroup packet) fun _ => [] := by
  unfold onRecvGroup; infer_instance

instance (packet : Packet) [HandsOver hands packet] :
    Uses (Steps hands) [] (onRecvAdvert packet) fun _ => [] := by
  unfold onRecvAdvert; infer_instance

instance (packet : Packet) [HandsOver hands packet] :
    Uses (Steps hands) [] (onRecvRawCustom packet) fun _ => [] := by
  unfold onRecvRawCustom; infer_instance

instance (packet : Packet) [HandsOver hands packet] :
    Uses (Steps hands) [] (onRecvMultipart packet) fun _ => [] := by
  unfold onRecvMultipart; infer_instance

instance (packet : Packet) [HandsOver hands packet] :
    Uses (Steps hands) [] (onRecvPayload packet) fun _ => [] := by
  unfold onRecvPayload; infer_instance

instance (packet : Packet) [HandsOver hands packet] :
    Uses (Steps hands) [] (onRecvRouted packet) fun _ => [] := by
  unfold onRecvRouted; infer_instance

instance (packet : Packet) [HandsOver hands packet] :
    Uses (Steps hands) [] (meshOnRecvPacket packet) fun _ => [] := by
  unfold meshOnRecvPacket; infer_instance

end

end Meshcore
