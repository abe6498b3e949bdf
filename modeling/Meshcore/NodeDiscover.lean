import Meshcore.Hearing
import Meshcore.Outcomes

/-!
# Node discovery

A node that looks for its neighbours sends a control packet which they answer with their role and
their key. The two packets share the byte that starts them: a command in its high half, and in its
low half a flag or the advert type of a role. Built by one node and read by the other, they agree,
whatever the role and the flag.

## Main definitions

* `discoverRequest`, `discoverReply` — the payloads
* `IsWanted` — the nodes that a request asks for

## Main results

* `node_discover_agreement`
-/

namespace Meshcore

/-- The byte that starts a discover request. -/
def discoverHead (prefixOnly : Bool) : UInt8 :=
  if prefixOnly then ctlTypeNodeDiscoverReq ||| 0x01 else ctlTypeNodeDiscoverReq

/-- The payload of a discover request. -/
def discoverRequest (filter : UInt8) (prefixOnly : Bool) (since tag : UInt32) : List UInt8 :=
  [discoverHead prefixOnly, filter] ++ leBytes 4 tag.toNat ++ leBytes 4 since.toNat

/-- The payload of the reply of a node that heard a request with this SNR. -/
def discoverReply (role : Role) (snrQ4 : Int8) (tag : UInt32) (publicKey : Buf publicKeySize)
    (prefixOnly : Bool) : List UInt8 :=
  [ctlTypeNodeDiscoverResp ||| roleToAdvertType role, snrQ4.toUInt8] ++ leBytes 4 tag.toNat ++
    publicKey.slice 0 (if prefixOnly then 8 else publicKeySize)

/-- A request with this filter asks for nodes of this role that were modified then. -/
def IsWanted (filter : UInt8) (since : UInt32) (role : Role) (lastModify : UInt32) : Prop :=
  roleToAdvertType role ≠ advTypeNone ∧ filter &&& (1 <<< roleToAdvertType role) ≠ 0 ∧
    since ≤ lastModify

instance (filter : UInt8) (since : UInt32) (role : Role) (lastModify : UInt32) :
    Decidable (IsWanted filter since role lastModify) :=
  inferInstanceAs (Decidable (_ ∧ _ ∧ _))

/-! ### The packets -/

@[simp] theorem length_discoverRequest (filter : UInt8) (prefixOnly : Bool) (since tag : UInt32) :
    (discoverRequest filter prefixOnly since tag).length = 10 := by
  simp [discoverRequest]

theorem length_discoverReply (role : Role) (snrQ4 : Int8) (tag : UInt32)
    (publicKey : Buf publicKeySize) (prefixOnly : Bool) :
    (discoverReply role snrQ4 tag publicKey prefixOnly).length
      = 6 + if prefixOnly then 8 else publicKeySize := by
  have hkey : (publicKey.slice 0 (if prefixOnly then 8 else publicKeySize)).length
      = if prefixOnly then 8 else publicKeySize :=
    Buf.length_slice_of_le _ (by cases prefixOnly <;> decide)
  simp only [discoverReply, List.length_append, List.length_cons, List.length_nil, length_leBytes,
    hkey]

section

variable {ctx : Ctx} {w : World} {held : List PacketId} {type : UInt8} {bytes : List UInt8}

/-- With a free buffer, a control packet is made. -/
theorem meshCreateControlData_made {data : List UInt8} (hlen : data.length ≤ packetPayloadMaxLen)
    (hpool : w.PoolIntact ctx held) (hfree : 0 < w.packetManager.getFreeCount) :
    ∃ id, (meshCreateControlData data ctx w).1 = some id ∧
      Made (Load payloadTypeControl data) ctx held w id (meshCreateControlData data ctx w).2 := by
  have hfills : Fills (Load payloadTypeControl data) (meshCreateControlData data) :=
    inferInstanceAs (Fills (Load (madeType payloadTypeControl) data) _)
  have hobtained : (dispatcherObtainNewPacket ctx w).1.isSome :=
    dispatcherObtainNewPacket_isSome hpool.conserves hfree
  obtain ⟨id, hid⟩ := Option.isSome_iff_exists.mp hobtained
  refine Made.of_isSome hpool ?_
  rw [meshCreateControlData, createPlain, if_neg (not_lt.mpr hlen), Prog.run_bind, hid]
  rfl

/-- It is sent to the neighbours. -/
theorem control_shipped {id : PacketId} {data : List UInt8} (delayMillis : UInt32)
    (hpool : w.PoolIntact ctx (id :: held))
    (hload : Load payloadTypeControl data (w.packetManager.packetBuf id)) :
    Shipped (ZeroHop payloadTypeControl data) w (meshSendZeroHop id delayMillis ctx w).2 := by
  obtain ⟨entry, hentries, hpacket⟩ := meshSendZeroHop_shipped delayMillis hpool
    (hload.payloadLen_eq.trans_le hload.length_le)
  exact ⟨entry, hentries, hpacket ▸ hload.toNeighbours⟩

/-- A request is sent to the neighbours. -/
theorem executeNodeDiscover_shipped (filter : UInt8) (prefixOnly : Bool) (since tag : UInt32)
    (hroom : w.HasRoom ctx) :
    Shipped (ZeroHop payloadTypeControl (discoverRequest filter prefixOnly since tag)) w
      (executeNodeDiscover filter prefixOnly since tag ctx w).2 := by
  have hlen := length_discoverRequest filter prefixOnly since tag
  obtain ⟨id, hid, hmade⟩ := meshCreateControlData_made (hlen.trans_le (by decide)) hroom.pool
    hroom.free
  have hrun : executeNodeDiscover filter prefixOnly since tag ctx w
      = meshSendZeroHop id 0 ctx
        (meshCreateControlData (discoverRequest filter prefixOnly since tag) ctx w).2 :=
    withRequestPacket_run hid
  rw [hrun]
  exact (control_shipped 0 hmade.pool hmade.packet).after hmade.unsent

end

/-! ### A control packet is heard -/

/-- What a node does with a control packet for its neighbours. -/
def handleControl (packet : Packet) : M Unit := do
  handleControlDiscoverRequest packet
  nodeDiscoverPublish packet
  controlDataPublish packet

theorem meshOnRecvPacket_control {sent got : Packet} {snrQ4 : Int8} {bytes : List UInt8} {ctx : Ctx}
    {w : World} (hsent : ZeroHop payloadTypeControl bytes sent) (hears : Hears sent snrQ4 got)
    (hpos : 0 < bytes.length) (hhead : bytes.getD 0 0 &&& 0x80 ≠ 0) (hinit : w.initialized = true) :
    meshOnRecvPacket got ctx w = ((actionRelease, got), (handleControl got ctx w).2) := by
  have hload := hears.load hsent.toLoad
  have hdirect : got.isRouteDirect = true :=
    isRouteDirect_of_getRouteType (hears.getRouteType_eq.trans hsent.route)
  have hcount : got.getPathHashCount = 0 := by
    rw [Packet.getPathHashCount, hears.fields.pathLenField, Packet.pathLenField, hsent.pathLen_eq]
    decide
  have hlen : got.payloadLen > 0 := hload.payloadLen_eq ▸ hpos
  have hfirst : payloadByte got 0 ctx w = (bytes.getD 0 0, w) := by
    rw [payloadByte_run hlen, hload.get_payload hpos]
  have htrace : ¬(got.isRouteDirect = true ∧ got.getPayloadType = payloadTypeTrace) := by
    rw [hload.type_eq]
    exact fun h => absurd h.2 (by decide)
  have hfits : ¬(got.payloadLen = 0 ∨ got.payloadLen > maxControlDataPayloadLen) := by
    have hle : got.payloadLen ≤ 184 := hload.payloadLen_eq.trans_le hload.length_le
    show ¬(got.payloadLen = 0 ∨ got.payloadLen > 184)
    omega
  rw [meshOnRecvPacket, if_neg htrace, if_pos ⟨hdirect, hload.type_eq, hlen⟩,
    Prog.run_bind_of hfirst, if_pos hhead, if_pos hcount, Prog.run_bind, Prog.run_pure]
  rw [onControlDataRecv, whenInitialized_run hinit, if_neg hfits]
  rfl

/-! ### The node that is asked -/

section

variable {filter : UInt8} {prefixOnly : Bool} {since tag : UInt32} {packet : Packet} {ctx : Ctx}
  {w : World} {held : List PacketId} {identity : NodeIdentity} {lastModify : UInt32}

/-- A request, read as the node does. -/
theorem discoverRequest_read
    (hload : Load payloadTypeControl (discoverRequest filter prefixOnly since tag) packet) :
    packet.payloadLen = 10 ∧ packet.payload.get 0 &&& 0xF0 = ctlTypeNodeDiscoverReq ∧
      (packet.payload.get 0 &&& 0x01 ≠ 0 ↔ prefixOnly = true) ∧ packet.payload.get 1 = filter ∧
      packet.payload.slice 2 4 = leBytes 4 tag.toNat ∧
      wordAt (packet.payload.slice 6 4) = since := by
  have hlen := length_discoverRequest filter prefixOnly since tag
  have hget : ∀ i, i < 10 →
      packet.payload.get i = (discoverRequest filter prefixOnly since tag).getD i 0 :=
    fun i hi => hload.get_payload (by omega)
  have hslice : ∀ off, off + 4 ≤ 10 → packet.payload.slice off 4
      = ((discoverRequest filter prefixOnly since tag).drop off).take 4 :=
    fun off hoff => hload.slice_payload (by omega)
  have htag : (leBytes 4 tag.toNat).length = 4 := length_leBytes ..
  have hsince : (leBytes 4 since.toNat).length = 4 := length_leBytes ..
  rw [hget 0 (by decide), hget 1 (by decide), hslice 2 (by decide), hslice 6 (by decide)]
  have hhead : (discoverRequest filter prefixOnly since tag).getD 0 0 = discoverHead prefixOnly :=
    rfl
  refine ⟨hload.payloadLen_eq.trans hlen, ?_, ?_, rfl, ?_, ?_⟩
  · rw [hhead]
    cases prefixOnly <;> decide
  · rw [hhead]
    cases prefixOnly <;> decide
  · exact List.take_left' htag
  · have hdrop : (discoverRequest filter prefixOnly since tag).drop 6 = leBytes 4 since.toNat :=
      List.drop_left' (by simp)
    rw [hdrop, List.take_of_length_le hsince.le, ← List.append_nil (leBytes 4 _), wordAt_leBytes]

/-- What the host says to a node that is asked. -/
def Hooks.Describes (identity : NodeIdentity) (lastModify : UInt32) (h : Hooks) : Prop :=
  h.Is identity ∧ h.nodeConfigLastModify = some lastModify

/-- The reply, up to the queue. -/
def sendDiscoverReply (data : List UInt8) : M Unit := do
  let reply ← meshCreateControlData data
  reply.elim (pure ()) fun id => do
    let made ← readPacket id
    let delay ← getRetransmitDelay made
    meshSendZeroHop id (delay * 4)

theorem sendDiscoverReply_shipped {data : List UInt8} (hlen : data.length ≤ packetPayloadMaxLen)
    (hpool : w.PoolIntact ctx held) (hfree : 0 < w.packetManager.getFreeCount) :
    Shipped (ZeroHop payloadTypeControl data) w (sendDiscoverReply data ctx w).2 := by
  obtain ⟨id, hid, hmade⟩ := meshCreateControlData_made hlen hpool hfree
  rw [sendDiscoverReply, Prog.run_bind, hid, Option.elim_some]
  generalize (meshCreateControlData data ctx w).2 = w₁ at hmade
  obtain ⟨packet, hpacket⟩ : ∃ packet, packet = w₁.packetManager.packetBuf id := ⟨_, rfl⟩
  have hread : readPacket id ctx w₁ = (packet, w₁) := by rw [hpacket]; rfl
  rw [Prog.run_bind_of hread, Prog.run_bind]
  have hmade' := hmade.notes
    ((inferInstance : Moves Notes (getRetransmitDelay packet)).moves ctx w₁)
  exact (control_shipped _ hmade'.pool hmade'.packet).after hmade'.unsent

theorem handleControlDiscoverRequest_run
    (hload : Load payloadTypeControl (discoverRequest filter prefixOnly since tag) packet)
    (hhost : FromNow ctx w (Hooks.Describes identity lastModify)) :
    handleControlDiscoverRequest packet ctx w =
      (if IsWanted filter since identity.role lastModify then
        sendDiscoverReply
          (discoverReply identity.role packet.snrQ4 tag identity.publicKey prefixOnly)
      else pure ()) ctx { w with tick := w.tick + 2 } := by
  obtain ⟨hlen, hcommand, hprefixOnly, hfilter, htag, hsince⟩ := discoverRequest_read hload
  have hmine :
      ¬(packet.payloadLen < 6 ∨ packet.payload.get 0 &&& 0xF0 ≠ ctlTypeNodeDiscoverReq) := by
    rw [hlen, hcommand]
    decide
  have hmodify : (hook Hooks.nodeConfigLastModify ctx w).1 = some lastModify := hhost.now.2
  have hidentity := @localIdentityGet_run ctx { w with tick := w.tick + 1 } identity
    (hhost _ (Nat.le_succ _)).1
  have hlong : packet.payloadLen ≥ 10 := hlen.ge
  have hasked : (hook Hooks.nodeConfigLastModify ctx w).2 = { w with tick := w.tick + 1 } := rfl
  rw [handleControlDiscoverRequest, if_neg hmine, Prog.run_bind, hmodify, hasked, Option.elim_some,
    Prog.run_bind_of hidentity, Option.elim_some]
  simp only [hfilter, htag, if_pos hlong, hsince]
  by_cases hwanted : IsWanted filter since identity.role lastModify
  · have hanswer : ¬(roleToAdvertType identity.role = advTypeNone ∨
        filter &&& (1 <<< roleToAdvertType identity.role) = 0 ∨ lastModify < since) := by
      rw [not_or, not_or, UInt32.not_lt]
      exact hwanted
    have hdata : ([ctlTypeNodeDiscoverResp ||| roleToAdvertType identity.role,
        packet.snrQ4.toUInt8] ++ leBytes 4 tag.toNat ++ identity.publicKey.bytes).take
          (if packet.payload.get 0 &&& 0x01 ≠ 0 then 6 + 8 else 6 + publicKeySize)
        = discoverReply identity.role packet.snrQ4 tag identity.publicKey prefixOnly := by
      simp only [hprefixOnly]
      have hhead : ([ctlTypeNodeDiscoverResp ||| roleToAdvertType identity.role,
          packet.snrQ4.toUInt8] ++ leBytes 4 tag.toNat).length = 6 := by simp
      rw [discoverReply, Buf.slice, List.drop_zero, ← apply_ite (6 + ·), ← hhead,
        List.take_length_add_append]
    rw [if_neg hanswer, if_pos hwanted, hdata]
    rfl
  · have hrefuse : roleToAdvertType identity.role = advTypeNone ∨
        filter &&& (1 <<< roleToAdvertType identity.role) = 0 ∨ lastModify < since := by
      by_contra hanswer
      rw [not_or, not_or, UInt32.not_lt] at hanswer
      exact hwanted hanswer
    rw [if_pos hrefuse, if_neg hwanted]

/-- A node that hears a request answers it when it is wanted, and does nothing else with it but
report it to the host. -/
theorem meshOnRecvPacket_discoverRequest {sent got : Packet} {snrQ4 : Int8}
    (hsent : ZeroHop payloadTypeControl (discoverRequest filter prefixOnly since tag) sent)
    (hears : Hears sent snrQ4 got) (hinit : w.initialized = true)
    (hhost : FromNow ctx w (Hooks.Describes identity lastModify)) :
    let w' := (meshOnRecvPacket got ctx w).2
    (IsWanted filter since identity.role lastModify → ∀ held, w.PoolIntact ctx held →
      0 < w.packetManager.getFreeCount → Shipped (ZeroHop payloadTypeControl
        (discoverReply identity.role snrQ4 tag identity.publicKey prefixOnly)) w w') ∧
    (¬IsWanted filter since identity.role lastModify → Unsent ctx w w') := by
  have hload := hears.load hsent.toLoad
  have hlen := length_discoverRequest filter prefixOnly since tag
  have hhead : (discoverRequest filter prefixOnly since tag).getD 0 0 &&& 0x80 ≠ 0 := by
    show discoverHead prefixOnly &&& 0x80 ≠ 0
    cases prefixOnly <;> decide
  have hrun := handleControlDiscoverRequest_run hload hhost
  rw [hears.snrQ4_eq] at hrun
  rw [meshOnRecvPacket_control hsent hears (hlen ▸ by decide) hhead hinit]
  have hafter : KeepsManager ctx (handleControlDiscoverRequest got ctx w).2
      (handleControl got ctx w).2 :=
    (inferInstance : Moves KeepsManager (do
      nodeDiscoverPublish got
      controlDataPublish got)).moves ctx _
  refine ⟨fun hwanted held hpool hfree => ?_, fun hwanted => ?_⟩
  · have hreply := length_discoverReply identity.role snrQ4 tag identity.publicKey prefixOnly
    have hfits : (discoverReply identity.role snrQ4 tag identity.publicKey prefixOnly).length
        ≤ packetPayloadMaxLen := by
      rw [hreply]
      cases prefixOnly <;> decide
    have hpool' : { w with tick := w.tick + 2 }.PoolIntact ctx held :=
      ⟨hpool.conserves, hpool.poolSize, hpool.reissued⟩
    rw [if_pos hwanted] at hrun
    refine Shipped.before ?_ hafter
    rw [hrun]
    exact sendDiscoverReply_shipped hfits hpool' hfree
  · rw [if_neg hwanted] at hrun
    show (handleControl got ctx w).2.packetManager.sendQueue = _
    rw [hafter, hrun]
    rfl

end

/-! ### The node that asked -/

section

variable {role : Role} {snrQ4 snrQ4' : Int8} {tag : UInt32} {publicKey : Buf publicKeySize}
  {prefixOnly : Bool} {sent got : Packet} {ctx : Ctx} {w : World}

/-- What the host is told of a reply. -/
def discoverEvent (role : Role) (snrQ4 snrQ4' : Int8) (tag : UInt32) (publicKey : Buf publicKeySize)
    (prefixOnly : Bool) : NodeDiscoverEvent where
  role
  tag
  publicKey := publicKey.slice 0 (if prefixOnly then 8 else publicKeySize)
  path := []
  uplinkSnr := snrQ4
  downlinkSnr := snrQ4'

/-- A reply, read as the node does that asked. -/
theorem discoverReply_read {packet : Packet}
    (hload : Load payloadTypeControl (discoverReply role snrQ4 tag publicKey prefixOnly) packet) :
    packet.payload.get 0 &&& 0xF0 = ctlTypeNodeDiscoverResp ∧
      roleFromAdvertType (packet.payload.get 0 &&& 0x0F) = role ∧
      (packet.payload.get 1).toInt8 = snrQ4 ∧ wordAt (packet.payload.slice 2 4) = tag ∧
      packet.payload.slice 6 (min (packet.payloadLen - 6) publicKeySize)
        = publicKey.slice 0 (if prefixOnly then 8 else publicKeySize) := by
  have hn : (if prefixOnly then 8 else publicKeySize) ≤ publicKeySize := by
    cases prefixOnly <;> decide
  have hlen := length_discoverReply role snrQ4 tag publicKey prefixOnly
  have hhead : packet.payload.get 0 = ctlTypeNodeDiscoverResp ||| roleToAdvertType role :=
    hload.get_payload (hlen ▸ by omega)
  have hsnr : packet.payload.get 1 = snrQ4.toUInt8 := hload.get_payload (hlen ▸ by omega)
  have htag : packet.payload.slice 2 4 = leBytes 4 tag.toNat :=
    (hload.slice_payload (hlen ▸ by omega)).trans
      (List.take_left' (length_leBytes ..))
  have hkey : packet.payload.slice 6 (if prefixOnly then 8 else publicKeySize)
      = publicKey.slice 0 (if prefixOnly then 8 else publicKeySize) := by
    rw [hload.slice_payload hlen.ge, discoverReply, List.drop_left' (by simp)]
    exact List.take_of_length_le (Buf.length_slice_of_le _ (by omega)).le
  rw [hhead, hsnr, htag, hload.payloadLen_eq, hlen, Nat.add_sub_cancel_left, Nat.min_eq_left hn]
  refine ⟨?_, ?_, ?_, ?_, hkey⟩
  · cases role <;> decide
  · cases role <;> rfl
  · exact Int8.toInt8_toUInt8 _
  · rw [← List.append_nil (leBytes 4 _), wordAt_leBytes]

theorem meshOnRecvPacket_discoverReply (hrole : role ≠ .none)
    (hsent : ZeroHop payloadTypeControl (discoverReply role snrQ4 tag publicKey prefixOnly) sent)
    (hears : Hears sent snrQ4' got) (hinit : w.initialized = true) :
    (meshOnRecvPacket got ctx w).2 =
      { w with events := w.events ++
        [.nodeDiscover (discoverEvent role snrQ4 snrQ4' tag publicKey prefixOnly),
          .controlData (dataEvent got)] } := by
  have hload := hears.load hsent.toLoad
  have hlen := length_discoverReply role snrQ4 tag publicKey prefixOnly
  have hhead : (discoverReply role snrQ4 tag publicKey prefixOnly).getD 0 0 &&& 0x80 ≠ 0 := by
    show (ctlTypeNodeDiscoverResp ||| roleToAdvertType role) &&& 0x80 ≠ 0
    cases role <;> decide
  obtain ⟨hcommand, hfrom, hsnr, htag, hkey⟩ := discoverReply_read hload
  have hlong : 14 ≤ got.payloadLen := by
    rw [hload.payloadLen_eq, hlen]
    cases prefixOnly <;> decide
  have hshort : got.payloadLen ≤ 184 := hload.payloadLen_eq.trans_le hload.length_le
  have hpath : packetPathCopy got = [] := by
    rw [packetPathCopy, hears.fields.pathBytes, Packet.pathBytes, Packet.toNat_getPathByteLen,
      Packet.pathLenField, hsent.pathLen_eq]
    exact Buf.slice_zero _ _
  rw [meshOnRecvPacket_control hsent hears (by omega) hhead hinit]
  have hrequest : handleControlDiscoverRequest got ctx w = ((), w) := by
    rw [handleControlDiscoverRequest, if_pos (.inr (by rw [hcommand]; decide))]
    rfl
  have hpublish : nodeDiscoverPublish got ctx w = ((), { w with events := w.events ++
      [.nodeDiscover (discoverEvent role snrQ4 snrQ4' tag publicKey prefixOnly)] }) := by
    have hreply : ¬(got.payloadLen < 6 ∨ got.payload.get 0 &&& 0xF0 ≠ ctlTypeNodeDiscoverResp) := by
      rw [hcommand, not_or]
      exact ⟨by omega, not_not.mpr rfl⟩
    have hnamed : ¬(role = .none ∨ got.payloadLen - 6 < nodeDiscoverPublicKeyPrefixBytes) := by
      rw [not_or]
      exact ⟨hrole, by show ¬got.payloadLen - 6 < 8; omega⟩
    rw [nodeDiscoverPublish, if_neg hreply]
    simp only [hfrom, if_neg hnamed, hsnr, htag, hkey, hpath, hears.snrQ4_eq]
    rfl
  have hdata : ¬(got.payloadLen = 0 ∨ got.payloadLen > maxControlDataPayloadLen) := by
    show ¬(got.payloadLen = 0 ∨ got.payloadLen > 184)
    omega
  rw [handleControl, Prog.run_bind_of hrequest, Prog.run_bind_of hpublish, controlDataPublish,
    if_neg hdata, emit, Prog.run_modify, List.append_assoc]
  rfl

end

/-! ### The result -/

/-- **Node discovery.** A request goes to the neighbours. A node that hears it queues one reply if
its role and its age are asked for and it has a free buffer, and none if they are not. Whoever hears
the reply publishes the role and the key of that node, the tag and both SNRs, and queues nothing. -/
theorem node_discover_agreement (filter : UInt8) (prefixOnly : Bool) (since tag : UInt32) :
    (∀ ctx w, w.HasRoom ctx →
      Shipped (ZeroHop payloadTypeControl (discoverRequest filter prefixOnly since tag)) w
        (executeNodeDiscover filter prefixOnly since tag ctx w).2) ∧
    ∀ request got snrQ4,
      ZeroHop payloadTypeControl (discoverRequest filter prefixOnly since tag) request →
      Hears request snrQ4 got →
      ∀ ctx w identity lastModify, w.initialized = true →
        FromNow ctx w (Hooks.Describes identity lastModify) →
        let w' := (meshOnRecvPacket got ctx w).2
        let reply := discoverReply identity.role snrQ4 tag identity.publicKey prefixOnly
        (IsWanted filter since identity.role lastModify → ∀ held, w.PoolIntact ctx held →
          0 < w.packetManager.getFreeCount → Shipped (ZeroHop payloadTypeControl reply) w w') ∧
        (¬IsWanted filter since identity.role lastModify → Unsent ctx w w') ∧
        ∀ answer got' snrQ4', IsWanted filter since identity.role lastModify →
          ZeroHop payloadTypeControl reply answer → Hears answer snrQ4' got' →
          ∀ ctx (w : World), w.initialized = true →
            (meshOnRecvPacket got' ctx w).2 =
              { w with events := w.events ++
                [.nodeDiscover
                  (discoverEvent identity.role snrQ4 snrQ4' tag identity.publicKey prefixOnly),
                  .controlData (dataEvent got')] } := by
  refine ⟨fun ctx w hroom => executeNodeDiscover_shipped filter prefixOnly since tag hroom, ?_⟩
  intro request got snrQ4 hrequest hears ctx w identity lastModify hinit hhost
  have hrole : IsWanted filter since identity.role lastModify → identity.role ≠ .none := by
    rintro ⟨htype, -⟩ hnone
    rw [hnone] at htype
    exact htype rfl
  obtain ⟨hreply, hnone⟩ := meshOnRecvPacket_discoverRequest hrequest hears hinit hhost
  refine ⟨hreply, hnone, fun answer got' snrQ4' hwanted hanswer hears' ctx w hinit => ?_⟩
  exact meshOnRecvPacket_discoverReply (hrole hwanted) hanswer hears' hinit

/-- A CHAT node that was modified at time 5. -/
def Ctx.modified : Ctx :=
  { Ctx.silent with hooks := fun _ => { Hooks.silent with nodeConfigLastModify := some 5 } }

/-- The packet of a request for CHAT nodes. -/
def discoverPacket : Packet :=
  { Packet.init with
    header := 0x2E, payloadLen := 10, payload := (Buf.zero _).store 0
      (discoverRequest 2 false 0 7) }

theorem node_discover_agreement_chat :
    Shipped (ZeroHop payloadTypeControl (discoverReply .chat 3 7 (Buf.zero _) false))
      (Op.next .modified .boot .init)
      (meshOnRecvPacket { discoverPacket with snrQ4 := 3 } .modified
        (Op.next .modified .boot .init)).2 := by
  have hsent : ZeroHop payloadTypeControl (discoverRequest 2 false 0 7) discoverPacket :=
    ⟨⟨by decide, by decide, by decide, by decide⟩, by decide, by decide⟩
  have hair : OnAir discoverPacket discoverPacket := ⟨Packet.init, by decide +kernel⟩
  have hpool : (Op.next .modified .boot .init).PoolIntact .modified [] :=
    Reachable.poolIntact ⟨[.init], rfl⟩ (by decide +kernel)
  exact ((node_discover_agreement 2 false 0 7).2 discoverPacket { discoverPacket with snrQ4 := 3 } 3
    hsent ⟨discoverPacket, hair, rfl⟩ .modified (Op.next .modified .boot .init)
    (Hooks.nodeIdentity .silent).2 5 (by decide +kernel) fun _ _ => ⟨rfl, rfl⟩).1 (by decide) []
    hpool (by decide +kernel)

end Meshcore
