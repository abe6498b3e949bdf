import Meshcore.LostRequests
import Meshcore.Relaying

/-!
# Adverts

A node tells the others of itself in an advert: its public key, the time, its signature over these
and over its application data, and the data, which say its type, its position and as much of its
name as there is room for. A CHAT node publishes an advert together with the packet in the form of a
flood. Its host may give that packet back, and then the advert goes to the neighbours with the same
signature.

## Main definitions

* `advertBytes` — the payload of an advert
* `TakesAdvert` — a node at the end of the way of an advert
* `advertEvent` — what the host is told

## Main results

* `meshOnRecvPacket_advert` — a node verifies an advert and looks at its data
* `advert_delivered`
-/

namespace Meshcore

/-! ### The advert -/

/-- What is signed. -/
def advertMessage (publicKey : Buf publicKeySize) (timestamp : UInt32) (appData : List UInt8) :
    List UInt8 :=
  publicKey.bytes ++ leBytes 4 timestamp.toNat ++ appData

/-- The payload of an advert. -/
def advertBytes (signature : Buf 64) (publicKey : Buf publicKeySize) (timestamp : UInt32)
    (appData : List UInt8) : List UInt8 :=
  publicKey.bytes ++ leBytes 4 timestamp.toNat ++ signature.bytes ++ appData

/-- A node at the end of the way of an advert of another node, that has not seen it. -/
structure TakesAdvert (publicKey : Buf publicKeySize) (got : Packet) (ctx : Ctx) (w : World) :
    Prop where
  atEnd : AtEnd got
  unseen : Unseen got ctx w
  passes : FromNow ctx w (Hooks.Passes got)
  other : w.selfId.identity ≠ publicKey

section

variable {signature : Buf 64} {publicKey : Buf publicKeySize} {timestamp : UInt32}
  {appData : List UInt8} {packet : Packet} {ctx : Ctx} {w : World}

theorem length_advertBytes :
    (advertBytes signature publicKey timestamp appData).length = 100 + appData.length := by
  simp only [advertBytes, List.length_append, Buf.length_bytes, length_leBytes]

theorem length_advertBytes_pos :
    0 < (advertBytes signature publicKey timestamp appData).length := by
  rw [length_advertBytes]
  omega

/-- An advert, read as a node does. -/
theorem advertBytes_read
    (hload : Load payloadTypeAdvert (advertBytes signature publicKey timestamp appData) packet) :
    packet.payload.slice 0 publicKeySize = publicKey.bytes ∧
      packet.payload.slice publicKeySize 4 = leBytes 4 timestamp.toNat ∧
      packet.payload.slice (publicKeySize + 4) 64 = signature.bytes ∧
      packet.payload.slice (publicKeySize + 4 + 64) appData.length = appData := by
  have hlen := @length_advertBytes signature publicKey timestamp appData
  have hkey : publicKey.bytes.length = publicKeySize := publicKey.length_bytes
  have hhead : (publicKey.bytes ++ leBytes 4 timestamp.toNat).length = publicKeySize + 4 := by
    rw [List.length_append, hkey, length_leBytes]
  have hsigned : (publicKey.bytes ++ leBytes 4 timestamp.toNat ++ signature.bytes).length
      = publicKeySize + 4 + 64 := by rw [List.length_append, hhead, signature.length_bytes]
  have hslice : ∀ off len, off + len ≤ 100 + appData.length → packet.payload.slice off len
      = ((advertBytes signature publicKey timestamp appData).drop off).take len :=
    fun off len h => hload.slice_payload (h.trans_eq hlen.symm)
  refine ⟨?_, ?_, ?_, ?_⟩
  · rw [hslice _ _ (by show 0 + 32 ≤ 100 + _; omega), List.drop_zero, advertBytes,
      List.append_assoc, List.append_assoc, List.take_left' hkey]
  · rw [hslice _ _ (by show 32 + 4 ≤ 100 + _; omega), advertBytes, List.append_assoc,
      List.append_assoc, List.drop_left' hkey, List.take_left' (length_leBytes ..)]
  · rw [hslice _ _ (by show 32 + 4 + 64 ≤ 100 + _; omega), advertBytes, List.append_assoc,
      List.drop_left' hhead, List.take_left' signature.length_bytes]
  · rw [hslice _ _ (by show 32 + 4 + 64 + _ ≤ 100 + _; omega), advertBytes, List.drop_left' hsigned,
      List.take_length]

/-- Such a node verifies the advert and looks at its data. Nobody is told of anything else. -/
theorem meshOnRecvPacket_advert (hlen : appData.length ≤ meshMaxAdvertDataSize)
    (hload : Load payloadTypeAdvert (advertBytes signature publicKey timestamp appData) packet)
    (h : TakesAdvert publicKey packet ctx w)
    (hverifies : ctx.ed25519Check signature.bytes publicKey
      (advertMessage publicKey timestamp appData) = true) :
    ∃ w', Mute ctx w w' ∧ (meshOnRecvPacket packet ctx w).2.events
      = (onAdvertRecv packet publicKey timestamp appData ctx w').2.events := by
  obtain ⟨hkey, htime, hsignature, hdata⟩ := advertBytes_read hload
  have hbytes : packet.payloadLen = 100 + appData.length :=
    hload.payloadLen_eq.trans length_advertBytes
  have hlong : ¬packet.payloadLen < publicKeySize + 4 + 64 := by
    show ¬packet.payloadLen < 100
    omega
  have hall : min (packet.payloadLen - (publicKeySize + 4 + 64)) meshMaxAdvertDataSize
      = appData.length := by
    have hrest : packet.payloadLen - (publicKeySize + 4 + 64) = appData.length := by
      show packet.payloadLen - 100 = _
      omega
    rw [hrest, Nat.min_eq_left hlen]
  have hword : wordAt (leBytes 4 timestamp.toNat) = timestamp := by
    rw [← List.append_nil (leBytes 4 _), wordAt_leBytes]
  obtain ⟨w₁, hasks, hrun⟩ := meshOnRecvPacket_delivers h.atEnd (by rw [hload.type_eq]; decide)
    (by rw [hload.type_eq]; decide) h.passes.now
  have hpayload : onRecvPayload packet = onRecvAdvert packet := by
    rw [onRecvPayload, hload.type_eq]
    rfl
  have hother : identityMatchesByPubKey w₁.selfId.identity publicKey = false := by
    rw [hasks.1]
    exact beq_false_of_ne h.other
  have hseen := h.unseen.after hasks
  have hmute := (inferInstance : Moves Mute (tablesHasSeen packet)).moves ctx w₁
  rw [hrun, hpayload, onRecvAdvert]
  dsimp only
  rw [if_neg hlong, Prog.run_bind_of (payloadRead_run (by show 0 + 32 ≤ _; omega) ctx w₁), hkey,
    Prog.run_bind_of (payloadRead_run (by show 32 + 4 ≤ _; omega) ctx w₁), htime, Prog.run_bind,
    Prog.run_gets]
  simp only [Buf.store_bytes, hother, Bool.false_eq_true, if_false]
  rw [Prog.run_bind, hseen]
  simp only [Bool.false_eq_true, if_false, hall]
  generalize (tablesHasSeen packet ctx w₁).2 = w₂ at hmute
  have hover := (inferInstance : Moves Mute (handOver packet)).moves ctx w₂
  have hverify : identityVerify publicKey signature.bytes
      (publicKey.bytes ++ leBytes 4 timestamp.toNat ++ appData) ctx w₂ = (true, w₂) :=
    congrArg (·, w₂) hverifies
  refine ⟨(handOver packet ctx w₂).2, ?_, ?_⟩
  · exact Composes.trans ctx _ _ _ hasks.mute <| Composes.trans ctx _ _ _ hmute hover
  · rw [Prog.run_bind_of (payloadRead_run (by show 32 + 4 + 64 + _ ≤ _; omega) ctx w₂), hdata,
      Prog.run_bind_of (payloadRead_run (by show 32 + 4 + 64 ≤ _; omega) ctx w₂), hsignature,
      Prog.run_bind_of hverify, hword]
    exact ((inferInstance : Moves Silent (meshRouteRecvPacket packet)).moves ctx _).events

/-! ### What it says -/

/-- What the host is told of an advert. -/
def advertEvent (publicKey : Buf publicKeySize) (role : Role) (timestamp : UInt32)
    (name : List UInt8) (position : Option (Int32 × Int32)) (got : Packet) : AdvertEvent where
  name
  role
  publicKey
  isNew := true
  advertTimestamp := timestamp
  position
  outPath := some (got.getPathHashSize, got.pathBytes)
  rawAdvert := rawAdvertCopy got

end

/-- The bytes that a name may take in an advert. -/
def advertNameRoom (hasPosition : Bool) : ℕ := if hasPosition then 23 else 31

/-- The position that a profile shows. -/
def AdvertProfile.position (profile : AdvertProfile) : Option (Int32 × Int32) :=
  if profile.hasPosition then some (profile.latitude, profile.longitude) else none

section

variable {role : Role} {name : List UInt8} {profile : AdvertProfile}

theorem length_advertAppData_le (role : Role) (identity : NodeIdentity) (profile : AdvertProfile) :
    (advertAppData (roleToAdvertType role) identity profile).length ≤ 32 :=
  AdvertDataBuilder.length_encodeTo_le _

/-- The data of an advert, as its parser sees them. -/
theorem advertAppData_read (role : Role) (identity : NodeIdentity) (profile : AdvertProfile) :
    let parser := AdvertDataParser.init (advertAppData (roleToAdvertType role) identity profile)
    parser.valid = true ∧ roleFromAdvertType parser.getType = role ∧
      parser.name = identity.cName.take (advertNameRoom profile.hasPosition) ∧
      (if parser.hasLatLon then some (parser.lat, parser.lon) else none) = profile.position := by
  let named := AdvertDataBuilder.initWithName (roleToAdvertType role) identity.cName
  let builder : AdvertDataBuilder :=
    if profile.hasPosition then
      { named with hasLoc := true, lat := profile.latitude, lon := profile.longitude }
    else named
  have htype : builder.type = roleToAdvertType role := by
    dsimp only [builder]
    split <;> rfl
  have hname : builder.shownName = identity.cName.take (advertNameRoom profile.hasPosition) := by
    dsimp only [builder]
    cases profile.hasPosition <;> rfl
  have hposition : (if builder.hasLoc then some (builder.lat, builder.lon) else none)
      = profile.position := by
    cases h : profile.hasPosition <;>
      simp [builder, named, AdvertProfile.position, AdvertDataBuilder.initWithName, h]
  obtain ⟨flags, hkind, hflag, hparser⟩ := AdvertDataParser.init_encodeTo builder
    (by rw [htype]; cases role <;> rfl)
  intro parser
  have hparsed : parser = _ := hparser
  have hhas : parser.hasLatLon = builder.hasLoc := by
    rw [AdvertDataParser.hasLatLon, hparsed, Bool.eq_iff_iff, bne_iff_ne]
    exact hflag
  rw [hhas]
  refine ⟨?_, ?_, ?_, ?_⟩
  · rw [hparsed]
  · rw [AdvertDataParser.getType, hparsed]
    dsimp only
    rw [hkind, htype]
    cases role <;> rfl
  · rw [hparsed]
    exact hname
  · rw [← hposition, hparsed]
    dsimp only
    cases builder.hasLoc <;> rfl

/-- A CHAT node tells its host of the advert. -/
theorem onAdvertRecv_chat {identity : NodeIdentity} {publicKey : Buf publicKeySize}
    {timestamp : UInt32} {got : Packet} {ctx : Ctx} {w : World}
    (hrole : roleToAdvertType role ≠ advTypeNone) (hname : identity.cName ≠ [])
    (hvalid : isValidPathLen got.pathLenField = true) (hinit : w.initialized = true)
    (hchat : (ctx.hooks w.tick).HasRole .chat) :
    (onAdvertRecv got publicKey timestamp
      (advertAppData (roleToAdvertType role) identity profile) ctx w).2.events
      = w.events ++ [.advert (advertEvent publicKey role timestamp
        (identity.cName.take (advertNameRoom profile.hasPosition)) profile.position got)] := by
  obtain ⟨hparsed, hfrom, hshown, hposition⟩ := advertAppData_read role identity profile
  have hle := length_advertAppData_le role identity profile
  have hpos : 0 < (advertAppData (roleToAdvertType role) identity profile).length :=
    Nat.zero_lt_succ _
  generalize advertAppData (roleToAdvertType role) identity profile = appData at *
  have hroom : 0 < advertNameRoom profile.hasPosition ∧
      advertNameRoom profile.hasPosition ≤ nodeNameMaxLen - 1 := by
    cases profile.hasPosition <;> decide
  have hzero : 0 ∉ identity.cName.take (advertNameRoom profile.hasPosition) := fun h =>
    zero_not_mem_cString _ (List.mem_of_mem_take h)
  have hprinted : printString nodeNameMaxLen
      (identity.cName.take (advertNameRoom profile.hasPosition))
      = identity.cName.take (advertNameRoom profile.hasPosition) := by
    rw [printString, cString_eq_self hzero,
      List.take_of_length_le ((List.length_take_le ..).trans hroom.2)]
  have hhas : (AdvertDataParser.init appData).hasName = true := by
    rw [AdvertDataParser.hasName, AdvertDataParser.getName, hshown,
      cString_eq_self hzero, bne_iff_ne]
    intro hnil
    rcases List.take_eq_nil_iff.mp hnil with h | h
    · exact hroom.1.ne' h
    · exact hname h
  have hlen : ¬(appData.length = 0 ∨ appData.length > 255) := by
    rw [not_or]
    exact ⟨hpos.ne', by omega⟩
  have hpath : pathLenDecode got.pathLenField
      = some (got.getPathByteLen.toNat, got.getPathHashSize) := by
    refine pathLenDecode_eq_some.mpr ⟨hvalid, ?_⟩
    rw [got.toNat_getPathByteLen_eq_mul, Nat.mul_comm]
    rfl
  have hsome : ¬((!(AdvertDataParser.init appData).valid) = true ∨ role = .none) := by
    rw [hparsed]
    rintro (h | rfl)
    · exact absurd h (by decide)
    · exact hrole rfl
  rw [onAdvertRecv, whenInitialized_run hinit, if_neg hlen, hparsed, if_neg (by decide),
    Prog.run_bind_of hchat.localRoleIs_run, if_pos rfl, hhas, if_pos rfl, advertPublish]
  simp only [hfrom, if_neg hsome, hhas, if_true, hshown, hprinted, hposition, hpath]
  rfl

end

/-! ### The node's own advert -/

/-- The host shows this profile in adverts. -/
def Hooks.Shows (profile : AdvertProfile) (hooks : Hooks) : Prop :=
  hooks.nodeAdvertProfile = some profile

/-- The key pair of a node. -/
def NodeIdentity.keys (identity : NodeIdentity) : LocalIdentity :=
  ⟨identity.publicKey, identity.privateKey⟩

/-- The signature of a node on its advert. -/
def Ctx.signature (ctx : Ctx) (keys : LocalIdentity) (timestamp : UInt32) (appData : List UInt8) :
    Buf 64 :=
  ctx.ed25519Sign keys (advertMessage keys.identity timestamp appData)

section

variable {identity : NodeIdentity} {profile : AdvertProfile} {ctx : Ctx} {w : World}
  {held : List PacketId} {keys : LocalIdentity} {appData : List UInt8}

theorem advertSource_run (hidentity : FromNow ctx w (Hooks.Is identity))
    (hprofile : FromNow ctx w (Hooks.Shows profile)) :
    advertSource ctx w = (some (identity, profile),
      { w with selfId := identity.keys, tick := w.tick + 3 }) := by
  let w₁ : World := { w with selfId := identity.keys, tick := w.tick + 1 }
  let w₂ : World := { w₁ with tick := w₁.tick + 1 }
  have hanswer : hook Hooks.nodeIdentity ctx w = ((0, identity), { w with tick := w.tick + 1 }) :=
    Prod.ext hidentity.now rfl
  have hsync : syncLocalIdentity ctx w = (0, w₁) := by
    rw [syncLocalIdentity, Prog.run_bind_of hanswer, if_neg (not_not.mpr rfl)]
    rfl
  have hget : localIdentityGet ctx w₁ = (some identity, w₂) :=
    localIdentityGet_run (hidentity _ (Nat.le_succ _))
  have hshown : hook Hooks.nodeAdvertProfile ctx w₂
      = (some profile, { w₂ with tick := w₂.tick + 1 }) :=
    Prod.ext (hprofile _ (Nat.le_add_right w.tick 2)) rfl
  rw [advertSource, Prog.run_bind_of hsync, if_neg (not_not.mpr rfl), Prog.run_bind_of hget,
    Option.elim_some, Prog.run_bind_of hshown]
  rfl

/-- With a free buffer, an advert is made and signed. -/
theorem meshCreateAdvert_made (hlen : appData.length ≤ meshMaxAdvertDataSize)
    (hpool : w.PoolIntact ctx held) (hfree : 0 < w.packetManager.getFreeCount) :
    ∃ id n, w.tick ≤ n ∧ (meshCreateAdvert keys appData ctx w).1 = some id ∧
      Made (Load payloadTypeAdvert (advertBytes (ctx.signature keys (ctx.hooks n).rtc appData)
        keys.identity (ctx.hooks n).rtc appData)) ctx held w id
        (meshCreateAdvert keys appData ctx w).2 := by
  obtain ⟨id, hid⟩ := Option.isSome_iff_exists.mp
    (dispatcherObtainNewPacket_isSome hpool.conserves hfree)
  have hlater := ((inferInstance : Moves Mute dispatcherObtainNewPacket).moves ctx w).2.2.2.2.2
  let w₁ := (dispatcherObtainNewPacket ctx w).2
  let timestamp := (ctx.hooks w₁.tick).rtc
  let bytes := advertBytes (ctx.signature keys timestamp appData) keys.identity timestamp appData
  have hbytes : bytes.length ≤ packetPayloadMaxLen := by
    rw [length_advertBytes]
    change appData.length ≤ 32 at hlen
    show 100 + appData.length ≤ 184
    omega
  have hrun : meshCreateAdvert keys appData ctx w = (do
      updatePacket id fun p =>
        { p with
          header := typeHeader payloadTypeAdvert
          payload := p.payload.store 0 bytes
          payloadLen := bytes.length }
      pure (some id) : M _) ctx { w₁ with tick := w₁.tick + 1 } := by
    rw [meshCreateAdvert, if_neg (not_lt.mpr hlen), Prog.run_bind, hid]
    rfl
  have hsome : (meshCreateAdvert keys appData ctx w).1 = some id := by
    rw [hrun]
    rfl
  refine ⟨id, w₁.tick, hlater, hsome, .of_some hpool hsome ?_⟩
  rw [hrun]
  exact (Fills.update fun p => @Load.fill payloadTypeAdvert bytes p hbytes p.pathLen
    p.transportCodes p.path p.snrQ4).fills ctx _ id rfl

/-- The advert goes out as a flood, or to the neighbours. -/
theorem executeNodeAdvert_shipped (flood : Bool)
    (hrole : roleToAdvertType identity.role ≠ advTypeNone) (hroom : w.HasRoom ctx)
    (hidentity : FromNow ctx w (Hooks.Is identity))
    (hprofile : FromNow ctx w (Hooks.Shows profile)) :
    let appData := advertAppData (roleToAdvertType identity.role) identity profile
    ∃ n, w.tick ≤ n ∧ Shipped (Sent payloadTypeAdvert
        (advertBytes (ctx.signature identity.keys (ctx.hooks n).rtc appData) identity.publicKey
          (ctx.hooks n).rtc appData)) w
      (executeNodeAdvert flood ctx w).2 := by
  intro appData
  let w₁ : World := { w with selfId := identity.keys, tick := w.tick + 3 }
  have hidle : Idle ctx w w₁ := ⟨rfl, Nat.le_add_right ..⟩
  have hroom₁ := hidle.hasRoom hroom
  obtain ⟨id, n, hn, hid, hmade⟩ := @meshCreateAdvert_made ctx w₁ [] identity.keys appData
    (length_advertAppData_le ..) hroom₁.pool hroom₁.free
  have hself : Prog.gets World.selfId ctx w₁ = (identity.keys, w₁) := rfl
  refine ⟨n, hidle.2.trans hn, ?_⟩
  rw [executeNodeAdvert, Prog.run_bind_of (advertSource_run hidentity hprofile), Option.elim_some]
  dsimp only
  rw [if_neg hrole, Prog.run_bind_of hself, withRequestPacket_run hid]
  refine Shipped.after hidle.unsent (Shipped.after hmade.unsent ?_)
  cases flood with
  | true => exact requestSendFlood_shipped 0 (by decide) hmade.pool hmade.packet
  | false =>
    refine (meshSendZeroHop_shipped 0 hmade.pool ?_).imp ?_
    · exact hmade.packet.payloadLen_eq.trans_le hmade.packet.length_le
    · rintro packet rfl
      exact hmade.packet.toNeighbours.sent

end

/-! ### Replay -/

section

variable {signature : Buf 64} {publicKey : Buf publicKeySize} {timestamp : UInt32}
  {appData : List UInt8} {packet : Packet} {ctx : Ctx} {w : World}

/-- The copy of an advert is read as an advert with the same bytes. -/
theorem readFrom_rawAdvertCopy {bytes : List UInt8} (henc : packet.Encodable)
    (hload : Load payloadTypeAdvert bytes packet) (hbytes : 0 < bytes.length) (into : Packet) :
    (rawAdvertCopy packet).length ≤ maxRawAdvertLen ∧ 0 < (rawAdvertCopy packet).length ∧
      ∃ read, into.readFrom (rawAdvertCopy packet) = some (true, read) ∧
        Load payloadTypeAdvert bytes read := by
  let flood := packet.withRouteType routeTypeFlood
  have hflood : flood.Encodable := ⟨henc.validPathLen, henc.payloadLen_le⟩
  have hload' : Load payloadTypeAdvert bytes flood :=
    hload.congr (getPayloadType_withRouteType packet (by decide)) rfl rfl
  have hpos : 0 < flood.payloadLen := hbytes.trans_eq hload'.payloadLen_eq.symm
  have hcopy : rawAdvertCopy packet = (flood.toFrame hflood).bytes := Packet.sentBytes_eq hflood
  have hlt := (flood.toFrame hflood).length_bytes_lt
  refine ⟨?_, ?_, _, Packet.readFrom_sentBytes hflood hpos into,
    (Packet.onAirFields_onto hflood into).load hload'⟩
  · rw [hcopy]
    exact hlt.le
  · rw [hcopy]
    exact Nat.zero_lt_succ _

theorem executeNodePeerAdvert_shipped (henc : packet.Encodable)
    (hload : Load payloadTypeAdvert (advertBytes signature publicKey timestamp appData) packet)
    (hroom : w.HasRoom ctx) :
    Shipped (ZeroHop payloadTypeAdvert (advertBytes signature publicKey timestamp appData)) w
      (executeNodePeerAdvert (rawAdvertCopy packet) ctx w).2 := by
  obtain ⟨id, hid⟩ := Option.isSome_iff_exists.mp
    (dispatcherObtainNewPacket_isSome hroom.pool.conserves hroom.free)
  have hmade : Made (fun _ => True) ctx [] w id (dispatcherObtainNewPacket ctx w).2 :=
    .of_some hroom.pool hid trivial
  obtain ⟨-, -, read, hread, hread'⟩ := readFrom_rawAdvertCopy henc hload length_advertBytes_pos
    ((dispatcherObtainNewPacket ctx w).2.packetManager.packetBuf id)
  rw [executeNodePeerAdvert, withRequestPacket_run hid]
  refine Shipped.after hmade.unsent ((sendPeerAdvert_shipped hmade.pool hread hread'.type_eq
    (hread'.payloadLen_eq.trans_le hread'.length_le)).imp ?_)
  rintro packet rfl
  exact hread'.toNeighbours

/-- The copy of an advert is accepted. -/
theorem validateNodePeerAdvert_rawAdvertCopy (henc : packet.Encodable)
    (hload : Load payloadTypeAdvert (advertBytes signature publicKey timestamp appData) packet) :
    validateNodePeerAdvert (some (rawAdvertCopy packet)) = some (rawAdvertCopy packet) := by
  obtain ⟨hmax, hpos, read, hread, hread'⟩ :=
    readFrom_rawAdvertCopy henc hload length_advertBytes_pos Packet.init
  refine Option.filter_eq_some_iff.mpr ⟨rfl, ?_⟩
  rw [hread, Option.any_some, hread'.type_eq, decide_eq_true ⟨hpos, hmax⟩]
  rfl

end

/-! ### The result -/

/-- What the host of a node says is signed with these keys is good for another node. -/
def Ctx.Accepts (ctx signer : Ctx) (keys : LocalIdentity) : Prop :=
  ∀ message, ctx.ed25519Check (signer.ed25519Sign keys message).bytes keys.identity message = true

/-- What a CHAT node makes of the advert of another node. -/
theorem meshOnRecvPacket_advert_chat {identity : NodeIdentity} {profile : AdvertProfile}
    {timestamp : UInt32} {got : Packet} {signer ctx : Ctx} {w : World}
    (hname : identity.cName ≠ []) (hrole : roleToAdvertType identity.role ≠ advTypeNone)
    (henc : got.Encodable)
    (hload :
      let appData := advertAppData (roleToAdvertType identity.role) identity profile
      Load payloadTypeAdvert (advertBytes (signer.signature identity.keys timestamp appData)
        identity.publicKey timestamp appData) got)
    (htakes : TakesAdvert identity.publicKey got ctx w)
    (haccepts : ctx.Accepts signer identity.keys) (hinit : w.initialized = true)
    (hchat : FromNow ctx w (Hooks.HasRole .chat)) :
    (meshOnRecvPacket got ctx w).2.events = w.events ++ [.advert (advertEvent identity.publicKey
      identity.role timestamp (identity.cName.take (advertNameRoom profile.hasPosition))
      profile.position got)] := by
  obtain ⟨w', ⟨hevents, -, -, hinit', -, hlater⟩, hrun⟩ :=
    meshOnRecvPacket_advert (length_advertAppData_le ..) hload htakes (haccepts _)
  rw [hrun, onAdvertRecv_chat hrole hname henc.validPathLen (hinit'.trans hinit) (hchat _ hlater),
    hevents]

/-- **Adverts.** The advert of a node with a name goes out, signed. Every other node that has not
seen it verifies it, and a CHAT node tells its host of it. What its host is given goes out again, to
the neighbours and with the same bytes, and a CHAT node that has not seen it makes the same of
it. -/
theorem advert_delivered {identity : NodeIdentity} (hname : identity.cName ≠ [])
    (hrole : roleToAdvertType identity.role ≠ advTypeNone) (profile : AdvertProfile)
    (signer : Ctx) :
    let appData := advertAppData (roleToAdvertType identity.role) identity profile
    let bytes := fun timestamp => advertBytes (signer.signature identity.keys timestamp appData)
      identity.publicKey timestamp appData
    let event := fun timestamp got => advertEvent identity.publicKey identity.role timestamp
      (identity.cName.take (advertNameRoom profile.hasPosition)) profile.position got
    (∀ flood w, w.HasRoom signer → FromNow signer w (Hooks.Is identity) →
      FromNow signer w (Hooks.Shows profile) →
      ∃ n, w.tick ≤ n ∧ Shipped (Sent payloadTypeAdvert (bytes (signer.hooks n).rtc)) w
        (executeNodeAdvert flood signer w).2) ∧
    ∀ timestamp sent, Sent payloadTypeAdvert (bytes timestamp) sent → ∀ got, Relayed sent got →
      (∀ ctx w, TakesAdvert identity.publicKey got ctx w → ctx.Accepts signer identity.keys →
        (∃ w', Mute ctx w w' ∧ (meshOnRecvPacket got ctx w).2.events
          = (onAdvertRecv got identity.publicKey timestamp appData ctx w').2.events) ∧
        (w.initialized = true → FromNow ctx w (Hooks.HasRole .chat) →
          (meshOnRecvPacket got ctx w).2.events = w.events ++ [.advert (event timestamp got)])) ∧
      let raw := (event timestamp got).rawAdvert
      validateNodePeerAdvert (some raw) = some raw ∧
      (∀ ctx w, w.HasRoom ctx → Shipped (ZeroHop payloadTypeAdvert (bytes timestamp)) w
        (executeNodePeerAdvert raw ctx w).2) ∧
      ∀ replayed, ZeroHop payloadTypeAdvert (bytes timestamp) replayed →
        ∀ got', Relayed replayed got' → ∀ ctx w, TakesAdvert identity.publicKey got' ctx w →
          ctx.Accepts signer identity.keys → w.initialized = true →
          FromNow ctx w (Hooks.HasRole .chat) →
          (meshOnRecvPacket got' ctx w).2.events
            = w.events ++ [.advert (event timestamp got')] := by
  intro appData bytes event
  refine ⟨fun flood w hroom hidentity hprofile =>
    executeNodeAdvert_shipped flood hrole hroom hidentity hprofile, ?_⟩
  intro timestamp sent hsent got hrelayed
  have hload := hrelayed.load hsent.toLoad
  have henc := hrelayed.encodable
  refine ⟨fun ctx w htakes haccepts => ⟨?_, ?_⟩, validateNodePeerAdvert_rawAdvertCopy henc hload,
    fun ctx w hroom => executeNodePeerAdvert_shipped henc hload hroom, ?_⟩
  · exact meshOnRecvPacket_advert (length_advertAppData_le ..) hload htakes (haccepts _)
  · exact meshOnRecvPacket_advert_chat hname hrole henc hload htakes haccepts
  · intro replayed hreplayed got' hrelayed' ctx w htakes haccepts hinit hchat
    exact meshOnRecvPacket_advert_chat hname hrole hrelayed'.encodable
      (hrelayed'.load hreplayed.toLoad) htakes haccepts hinit hchat

/-- A CHAT node that takes every signature for good. -/
def Ctx.trusting : Ctx := { Ctx.forwarding with ed25519Check := fun _ _ _ => true }

/-- The bytes of an advert of the node `a`. -/
def advertOfA : List UInt8 :=
  advertBytes (Buf.zero _) NodeIdentity.calledA.publicKey 5
    (advertAppData advTypeChat .calledA ⟨false, 0, 0⟩)

/-- A flood with it. -/
def advertPacket : Packet :=
  { Packet.init with header := 0x11, payloadLen := 102, payload := (Buf.zero _).store 0 advertOfA }

theorem advert_delivered_a :
    (meshOnRecvPacket advertPacket .trusting { World.boot with initialized := true }).2.events
      = [.advert (advertEvent NodeIdentity.calledA.publicKey .chat 5 [0x61] none
        advertPacket)] := by
  have hname : NodeIdentity.calledA.cName = [0x61] := by decide +kernel
  have hsent : Sent payloadTypeAdvert advertOfA advertPacket :=
    { type_eq := by decide
      payloadBytes_eq := by decide +kernel
      payloadLen_eq := by decide +kernel
      length_le := by decide +kernel
      route := .inl (by decide)
      validPathLen := by decide }
  have hair : OnAir advertPacket advertPacket := ⟨Packet.init, by decide +kernel⟩
  have htakes : TakesAdvert NodeIdentity.calledA.publicKey advertPacket .trusting
      { World.boot with initialized := true } :=
    { atEnd := fun _ => by decide
      unseen := fun _ _ => tablesHasSeen_fresh (fun _ _ => rfl) (by decide) rfl
      passes := fun _ _ => rfl
      other := by decide +kernel }
  have hall := (@advert_delivered .calledA (by rw [hname]; decide) (by decide) ⟨false, 0, 0⟩
    .silent).2 5 advertPacket hsent advertPacket (.heard ⟨advertPacket, hair, rfl⟩)
  have hrun := (hall.1 .trusting _ htakes fun _ => rfl).2 rfl fun _ _ => ⟨_, rfl, rfl⟩
  rw [hname] at hrun
  exact hrun

end Meshcore
