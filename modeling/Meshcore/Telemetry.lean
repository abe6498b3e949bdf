import Meshcore.BinaryResponses

/-!
# Telemetry

A node asks a peer for telemetry with a mask of what it wants, complemented on the way. The peer's
host is asked with the same mask, and its answer goes back as a response. The host may answer with
as much as fits a datagram; but when the request was flooded the answer goes back with the path that
it came by, and there is less room for it the longer that path is.

## Main definitions

* `telemetryRequestData` — the data of a request
* `wayBackOf` — the path that goes with the answer
* `AnswersTelemetry` — the host was told of the answer, and the node waits for it no longer

## Main results

* `telemetry_delivered_iff` — when an answer is queued, and when it is told
-/

namespace Meshcore

/-- The data of a request for telemetry. -/
def telemetryRequestData (tag : UInt32) (mask : UInt8) (random : Buf 4) : List UInt8 :=
  taggedData tag ([reqTypeGetTelemetryData, ~~~mask, 0, 0, 0] ++ random.bytes)

/-- A request that was flooded is answered with the path that it came by. -/
def wayBackOf (packet : Packet) : Option (UInt8 × List UInt8) :=
  if packet.isRouteFlood then some (packet.pathLenField, packet.path.bytes) else none

/-- The roles that `meshcore_runtime_local_role_answers_telemetry` looks for. -/
def Role.answersTelemetry : Role → Bool
  | .chat | .repeater | .room | .sensor => true
  | .none => false

/-- Asked by this peer for this, the host answers so; and if the request came directly, what the
host knows of the way back can be used. -/
structure Hooks.Measures (got : Packet) (publicKey : Buf publicKeySize) (mask : UInt8)
    (telemetry : ℕ × Buf maxTelemetryPayloadLen) (hooks : Hooks) : Prop where
  answer : hooks.telemetryNode (keyPrefixOf publicKey) mask = some telemetry
  path : got.isRouteFlood = false → ¬hooks.PathUnusable publicKey

/-- Between these states the host was told of one answer, which is this one with zeros behind it,
and the node waits for no telemetry any longer. -/
def AnswersTelemetry (publicKey : Buf publicKeySize) (tag : UInt32) (payload : List UInt8)
    (w w' : World) : Prop :=
  (∃ timestamp zeros, w'.events.filter Event.isCorrelated = w.events.filter Event.isCorrelated ++
    [.telemetry (keyPrefixOf publicKey) timestamp tag (payload ++ List.replicate zeros 0)]) ∧
  w'.correlation = { w.correlation with pendingTelemetry := .zero }

section

variable {c : Cipher} {ctx : Ctx} {w w' : World} {secret publicKey : Buf publicKeySize}
  {identity : NodeIdentity} {request : NodeTelemetry} {tag : UInt32} {mask : UInt8}
  {random : Buf 4} {telemetry : ℕ × Buf maxTelemetryPayloadLen} {sender : PeerIdentity}
  {destHash srcHash : UInt8} {got : Packet} {payload : List UInt8} {held : List PacketId}
  {role : Role} {wayBack : Option (UInt8 × List UInt8)} {correlation : Correlation}

/-! ### The mask -/

/-- A supported mask comes off the wire as it was. -/
theorem telemetryWireDecode_compl (h : mask &&& ~~~telemPermSupported = 0) :
    telemetryWireDecode (~~~mask) = mask := by
  rw [telemetryWireDecode, UInt8.not_not]
  rw [← UInt8.toBitVec_inj, UInt8.toBitVec_and, UInt8.toBitVec_not] at h
  have hall : mask.toBitVec &&& (telemPermSupported.toBitVec ||| ~~~telemPermSupported.toBitVec)
      = mask.toBitVec := by
    rw [show telemPermSupported.toBitVec ||| ~~~telemPermSupported.toBitVec
      = BitVec.allOnes 8 by decide, BitVec.and_allOnes]
  rw [BitVec.and_or_distrib_left, h] at hall
  rw [← UInt8.toBitVec_inj, UInt8.toBitVec_and]
  exact (BitVec.or_zero).symm.trans hall

/-! ### Asking -/

theorem telemetryReqData_run (tag : UInt32) (mask : UInt8) (ctx : Ctx) (w : World) :
    telemetryReqData tag mask ctx w
      = (telemetryRequestData tag mask ((ctx.hooks w.tick).rngRandom 4),
          { w with tick := w.tick + 1 }) := by
  rw [telemetryRequestData, taggedData, ← List.append_assoc]
  rfl

theorem length_telemetryRequestData (tag : UInt32) (mask : UInt8) (random : Buf 4) :
    (telemetryRequestData tag mask random).length = 13 := by
  rw [telemetryRequestData, length_taggedData, List.length_append, Buf.length_bytes]
  rfl

/-- A tag is drawn where none was asked for, and the node stays who it is. -/
theorem requestTagOf_run (tag : UInt32) (ctx : Ctx) (w : World) :
    ∃ sentTag w', requestTagOf tag ctx w = (sentTag, w') ∧ (tag ≠ 0 → sentTag = tag) ∧
      Idle ctx w w' ∧ w'.selfId = w.selfId := by
  have hidle : Idle ctx w (requestTagOf tag ctx w).2 := Moves.moves ctx w
  refine ⟨(requestTagOf tag ctx w).1, (requestTagOf tag ctx w).2, rfl, ?_, hidle, ?_⟩
  · intro hasked
    rw [requestTagOf, if_neg hasked]
    rfl
  · rw [requestTagOf]
    split
    · exact selfId_clockRtcGetCurrentTimeUnique ctx w
    · rfl

/-- Whoever asks for telemetry draws a tag if need be, notes it, and seals the request and sends
it. -/
theorem telemetryRequest_shipped {Q : List UInt8 → Packet → Prop} (type : RequestType)
    (tag : UInt32) (mask : UInt8) (publicKey : Buf publicKeySize) (register : UInt32 → M Unit)
    [∀ sentTag, Moves Notes (register sentTag)] (send : PacketId → M Unit)
    [∀ id, Moves KeepsCorrelation (send id)] (hroom : w.HasRoom ctx)
    (hc : FromNow ctx w (Hooks.Ciphers c)) (hself : FromNow ctx w (Hooks.Is identity))
    (hsend : ∀ w' id bytes, w.tick ≤ w'.tick → w'.PoolIntact ctx [id] →
      Load payloadTypeReq bytes (w'.packetManager.packetBuf id) →
        Shipped (Q bytes) w' (send id ctx w').2) :
    let w' := (withLocalIdentity type (do
      let tag ← requestTagOf tag
      let data ← telemetryReqData tag mask
      let secret ← selfSharedSecret publicKey
      withRequestPacket type (meshCreateDatagram payloadTypeReq publicKey secret data) fun id => do
        register tag
        send id) ctx w).2
    ∃ sentTag random w'', (tag ≠ 0 → sentTag = tag) ∧
      Shipped (Q (datagramBytes c (ctx.calculateSharedSecret identity.privateKey publicKey)
        (Identity.shortHash publicKey) (Identity.shortHash identity.publicKey)
        (telemetryRequestData sentTag mask random))) w w' ∧
      w'.correlation = (register sentTag ctx w'').2.correlation := by
  let w₁ : World :=
    { w with selfId := ⟨identity.publicKey, identity.privateKey⟩, tick := w.tick + 1 }
  obtain ⟨sentTag, w₂, htagged, htag, hidle₁, hsame⟩ := requestTagOf_run tag ctx w₁
  let w₃ : World := { w₂ with tick := w₂.tick + 1 }
  let random := (ctx.hooks w₂.tick).rngRandom 4
  let secret := ctx.calculateSharedSecret identity.privateKey publicKey
  have hidle : Idle ctx w w₃ := Composes.trans ctx w w₁ w₃ ⟨rfl, Nat.le_succ _⟩
    (Composes.trans ctx w₁ w₂ w₃ hidle₁ ⟨rfl, Nat.le_succ _⟩)
  have hroom₃ := hidle.hasRoom hroom
  have hc₃ := hc.later hidle.2
  have hfits : meshDatagramPlaintextFits (telemetryRequestData sentTag mask random).length
      = true := by
    rw [length_telemetryRequestData]
    decide
  have hself₃ : w₃.selfId = w₁.selfId := hsame
  have hsecret : selfSharedSecret publicKey ctx w₃ = (secret, w₃) := by
    rw [selfSharedSecret, Prog.run_bind, Prog.run_gets, hself₃]
    rfl
  intro w'
  obtain ⟨w₄, -, hnoted⟩ := @datagram_correlation c ctx w₃ payloadTypeReq publicKey _ type secret
    (telemetryRequestData sentTag mask random) (register sentTag) _ send _ (.inr (.inl rfl)) hfits
    hroom₃ hc₃
  have hshipped := @datagram_shipped c ctx w₃ payloadTypeReq publicKey _ _ type secret
    (telemetryRequestData sentTag mask random) (register sentTag) _ send (.inr (.inl rfl)) hfits
    hroom₃ hc₃ fun v id hlater => hsend v id _ (hidle.2.trans hlater)
  rw [hself₃] at hshipped
  have hrun : w' = (withRequestPacket type (meshCreateDatagram payloadTypeReq publicKey secret
      (telemetryRequestData sentTag mask random)) (fun id => do
        register sentTag
        send id) ctx w₃).2 := by
    dsimp only [w']
    rw [withLocalIdentity_run type _ hself.now, Prog.run_bind_of htagged,
      Prog.run_bind_of (telemetryReqData_run ..), Prog.run_bind_of hsecret]
  rw [hrun]
  exact ⟨sentTag, random, w₄, htag, hshipped.after hidle.unsent, hnoted⟩

/-- A request is sealed and sent on its way, and who has asked waits for the tag. -/
theorem executeNodeTelemetry_shipped
    (hr : validateNodeTelemetry (some publicKey) mask = some request) (tag : UInt32)
    (hroom : w.HasRoom ctx) (hc : FromNow ctx w (Hooks.Ciphers c))
    (hknows : FromNow ctx w (Hooks.Knows identity publicKey)) :
    ∃ sentTag random, (tag ≠ 0 → sentTag = tag) ∧
      Shipped (Sent payloadTypeReq (datagramBytes c
        (ctx.calculateSharedSecret identity.privateKey publicKey) (Identity.shortHash publicKey)
        (Identity.shortHash identity.publicKey) (telemetryRequestData sentTag mask random))) w
        (executeNodeTelemetry request tag ctx w).2 ∧
      ∀ payload, (executeNodeTelemetry request tag ctx w).2.correlation.pendingTelemetry.Awaits
        publicKey (taggedData sentTag payload) := by
  obtain ⟨hkey, rfl, -⟩ := of_validateNodeTelemetry hr
  obtain rfl := Option.some.inj hkey
  obtain ⟨sentTag, random, w', htag, hshipped, hnoted⟩ :=
    telemetryRequest_shipped .nodeTelemetry tag request.permissionMask request.publicKey
    (fun tag => pendingTelemetryRegister tag request.publicKey request.permissionMask)
    (fun id => sendToPeer id request.publicKey 0) hroom hc (hknows.imp fun _ h => h.self)
    fun _ _ _ hlater => sendToPeer_shipped request.publicKey 0 (hknows _ hlater).path (by decide)
  refine ⟨sentTag, random, htag, hshipped, fun payload => ?_⟩
  rw [executeNodeTelemetry, hnoted]
  exact ⟨rfl, (wordAt_taggedData sentTag payload).symm, rfl⟩

/-! ### Being asked -/

theorem localRoleAnswersTelemetry_run (hrole : FromNow ctx w (Hooks.HasRole role)) :
    (localRoleAnswersTelemetry ctx w).1 = role.answersTelemetry := by
  have hrun : ∀ (r : Role) (v : World), w.tick ≤ v.tick →
      localRoleIs r ctx v = (decide (role = r), { v with tick := v.tick + 1 }) := by
    intro r v hlater
    obtain ⟨identity, hidentity, rfl⟩ := hrole v.tick hlater
    exact localRoleIs_run r hidentity
  rw [localRoleAnswersTelemetry, Prog.run_bind_of (hrun .chat w le_rfl)]
  by_cases hchat : role = .chat
  · rw [if_pos (decide_eq_true hchat), hchat]
    rfl
  rw [if_neg (mt of_decide_eq_true hchat),
    Prog.run_bind_of (hrun .repeater _ (Nat.le_add_right w.tick 1))]
  by_cases hrepeater : role = .repeater
  · rw [if_pos (decide_eq_true hrepeater), hrepeater]
    rfl
  rw [if_neg (mt of_decide_eq_true hrepeater),
    Prog.run_bind_of (hrun .room _ (Nat.le_add_right w.tick 2))]
  by_cases hroom : role = .room
  · rw [if_pos (decide_eq_true hroom), hroom]
    rfl
  rw [if_neg (mt of_decide_eq_true hroom), hrun .sensor _ (Nat.le_add_right w.tick 3)]
  cases role with
  | chat => exact absurd rfl hchat
  | repeater => exact absurd rfl hrepeater
  | room => exact absurd rfl hroom
  | sensor => rfl
  | none => rfl

/-- The answer of the host, behind the tag. -/
def telemetryResponse (tag : UInt32) (telemetry : ℕ × Buf maxTelemetryPayloadLen) : List UInt8 :=
  taggedData tag (telemetry.2.slice 0 telemetry.1)

theorem length_telemetryResponse (hlen : telemetry.1 ≤ maxTelemetryPayloadLen) (tag : UInt32) :
    (telemetryResponse tag telemetry).length = 4 + telemetry.1 := by
  rw [telemetryResponse, length_taggedData, Buf.length_slice, Nat.sub_zero, Nat.min_eq_left hlen]

/-- A node that answers queues the answer if it fits, and nothing if it does not. -/
theorem handleTelemetryRequest_shipped (hc : FromNow ctx w (Hooks.Ciphers c))
    (hpool : w.PoolIntact ctx held) (hfree : 0 < w.packetManager.getFreeCount)
    (hhost : FromNow ctx w (Hooks.Measures got sender.publicKey mask telemetry))
    (hlen : telemetry.1 ≤ maxTelemetryPayloadLen) :
    let carrier := responseCarrier (wayBackOf got) (telemetryResponse tag telemetry)
    let w' := (handleTelemetryRequest sender secret got tag mask ctx w).2
    (ResponseFits (wayBackOf got) (4 + telemetry.1) →
      Shipped (Sent carrier.1 (datagramBytes c secret (Identity.shortHash sender.publicKey)
        (Identity.shortHash w.selfId.identity) carrier.2)) w w') ∧
      (¬ResponseFits (wayBackOf got) (4 + telemetry.1) → Unsent ctx w w') := by
  intro carrier w'
  let w₁ : World := { w with tick := w.tick + 1 }
  let response := telemetryResponse tag telemetry
  have hlater : w.tick ≤ w₁.tick := Nat.le_succ _
  have hunsent : Unsent ctx w w₁ := rfl
  have hpool₁ : w₁.PoolIntact ctx held := ⟨hpool.conserves, hpool.poolSize, hpool.reissued⟩
  have hresponse : response.length = 4 + telemetry.1 := length_telemetryResponse hlen tag
  have hnonempty : response ≠ [] := taggedData_ne_nil _ _
  have hanswer : hook (fun h => h.telemetryNode (keyPrefixOf sender.publicKey) mask) ctx w
      = (some telemetry, w₁) := Prod.ext hhost.now.answer rfl
  have hrun : handleTelemetryRequest sender secret got tag mask ctx w =
      (if got.isRouteFlood then
        (do
          let reply ← meshCreatePathReturnByIdentity sender.publicKey secret got.path.bytes
            got.pathLenField payloadTypeResponse response
          reply.elim (pure ()) fun id => requestSendFlood id runtimeServerResponseDelayMs : M Unit)
      else do
        let reply ← meshCreateDatagram payloadTypeResponse sender.publicKey secret response
        reply.elim (pure ()) fun id =>
          sendToPeer id sender.publicKey runtimeServerResponseDelayMs) ctx w₁ := by
    rw [handleTelemetryRequest, Prog.run_bind_of hanswer, Option.elim_some,
      if_neg (not_lt.mpr hlen)]
    rfl
  dsimp only [w', carrier]
  rw [hrun, wayBackOf]
  by_cases hflood : got.isRouteFlood = true
  · rw [if_pos hflood, if_pos hflood]
    constructor
    · intro hfits
      rw [← hresponse] at hfits
      obtain ⟨id, hid, hmade⟩ := @meshCreatePathReturnByIdentity_made c ctx w₁ secret
        got.pathLenField payloadTypeResponse got.path.bytes response held sender.publicKey hnonempty
        hfits (hc.later hlater) hpool₁ hfree
      rw [Prog.run_bind, hid, Option.elim_some]
      exact ((requestSendFlood_shipped runtimeServerResponseDelayMs (by decide) hmade.pool
        hmade.packet).after hmade.unsent).after hunsent
    · intro hlong
      rw [← hresponse] at hlong
      have hnone : meshCreatePathReturnByIdentity sender.publicKey secret got.path.bytes
          got.pathLenField payloadTypeResponse response = pure none := by
        rw [meshCreatePathReturnByIdentity, meshCreatePathReturnByDestHash, if_pos]
        simpa [ResponseFits] using hlong
      rw [hnone]
      exact hunsent
  · rw [if_neg hflood, if_neg hflood]
    have hfits : meshDatagramPlaintextFits (4 + telemetry.1) = true := by
      refine decide_eq_true ?_
      have hmax : telemetry.1 ≤ 163 := hlen
      show 4 + telemetry.1 ≤ 167
      omega
    refine ⟨fun _ => ?_, fun hlong => absurd hfits hlong⟩
    rw [← hresponse] at hfits
    obtain ⟨id, hid, hmade⟩ := @meshCreateDatagram_made c ctx w₁ payloadTypeResponse response secret
      held sender.publicKey (.inr (.inr rfl)) hfits (hc.later hlater) hpool₁ hfree
    have hcreate := ((inferInstance : Moves Mute (meshCreateDatagram payloadTypeResponse
      sender.publicKey secret response)).moves ctx w₁).2.2.2.2.2
    rw [Prog.run_bind, hid, Option.elim_some]
    exact ((sendToPeer_shipped sender.publicKey runtimeServerResponseDelayMs
      ((hhost _ (hlater.trans hcreate)).path (Bool.eq_false_iff.mpr hflood)) (by decide) hmade.pool
      hmade.packet).after hmade.unsent).after hunsent

theorem hasSnrFlag_of_relayed {sent : Packet} {type : UInt8} {bytes : List UInt8}
    (hsent : Sent type bytes sent) (hrelayed : Relayed sent got) : got.hasSnrFlag = false := by
  have hroute := hsent.route
  rw [← hrelayed.getRouteType_eq] at hroute
  have hcodes : got.hasTransportCodes = false := by
    rw [Packet.hasTransportCodes]
    rcases hroute with h | h <;> rw [h] <;> rfl
  rw [Packet.hasSnrFlag, hcodes]
  rfl

/-- A node whose role answers for telemetry does so for a plain request. -/
theorem onPeerReq_telemetry (hsnr : got.hasSnrFlag = false)
    (hmask : mask &&& ~~~telemPermSupported = 0) (hrole : FromNow ctx w (Hooks.HasRole role))
    (hanswers : role.answersTelemetry = true) :
    ∃ w', Asks ctx w w' ∧
      onPeerReq sender secret got tag (padded (telemetryRequestData tag mask random)) ctx w
        = handleTelemetryRequest sender secret got tag mask ctx w' := by
  have hlong : (padded (telemetryRequestData tag mask random)).length > 5 := by
    rw [length_padded, cipherBlockCount, length_telemetryRequestData]
    decide
  have hbyte : ∀ i, i < 5 → (padded (telemetryRequestData tag mask random)).getD (4 + i) 0
      = [reqTypeGetTelemetryData, ~~~mask, 0, 0, 0].getD i 0 := by
    intro i hi
    rw [padded, telemetryRequestData, taggedData, List.append_assoc, List.append_assoc,
      List.getD_append_right _ _ _ _ (by rw [length_leBytes]; omega), length_leBytes,
      Nat.add_sub_cancel_left, List.getD_append _ _ _ _ hi]
  have htype : (padded (telemetryRequestData tag mask random)).getD 4 0 = reqTypeGetTelemetryData :=
    hbyte 0 (by decide)
  have hwire : (padded (telemetryRequestData tag mask random)).getD 5 0 = ~~~mask :=
    hbyte 1 (by decide)
  have hasked : Asks ctx w (localRoleIs .chat ctx w).2 := Moves.moves ctx w
  have hanswer := localRoleAnswersTelemetry_run (hrole.later hasked.2)
  have hasked' : Asks ctx (localRoleIs .chat ctx w).2
      (localRoleAnswersTelemetry ctx (localRoleIs .chat ctx w).2).2 := Moves.moves ctx _
  refine ⟨_, Composes.trans ctx w _ _ hasked hasked', ?_⟩
  rw [onPeerReq, if_pos hlong, Prog.run_bind, htype, hwire, telemetryWireDecode_compl hmask, if_neg,
    if_pos rfl, Prog.run_bind, hanswer, if_pos hanswers]
  rintro ⟨-, hdiscover | ⟨-, hflag⟩⟩
  · exact absurd hdiscover (by decide)
  · rw [hsnr] at hflag
    exact Bool.false_ne_true hflag

/-- Whatever way it came, a request makes the node answer, and do nothing else to its queues. -/
theorem meshOnRecvPacket_telemetryRequest {sent : Packet}
    (hsent : Sent payloadTypeReq (datagramBytes c secret destHash srcHash
      (telemetryRequestData tag mask random)) sent) (hrelayed : Relayed sent got)
    (htakes : TakesPathReturn c secret sender destHash srcHash
      (telemetryRequestData tag mask random) got ctx w)
    (hinit : w.initialized = true) (hmask : mask &&& ~~~telemPermSupported = 0)
    (hrole : FromNow ctx w (Hooks.HasRole role)) (hanswers : role.answersTelemetry = true) :
    ∃ w', Unpacks ctx w w' ∧ KeepsManager ctx
      (handleTelemetryRequest sender secret got tag mask ctx w').2
      (meshOnRecvPacket got ctx w).2 := by
  have hnonempty : telemetryRequestData tag mask random ≠ [] :=
    List.ne_nil_of_length_pos (by rw [length_telemetryRequestData]; decide)
  obtain ⟨w₁, hunpacks, hrun⟩ := meshOnRecvPacket_data (.inl rfl) hnonempty
    (hrelayed.load hsent.toLoad) htakes
  have hinit₁ : w₁.initialized = true := hunpacks.mute.2.2.2.1.trans hinit
  have hlen : (padded (telemetryRequestData tag mask random)).length = 16 := by
    rw [length_padded, cipherBlockCount, length_telemetryRequestData]
    rfl
  have htag : wordAt (padded (telemetryRequestData tag mask random)) = tag :=
    wordAt_padded_taggedData tag _
  have hasked : Asks ctx w₁ (localRoleIs .chat ctx w₁).2 := Moves.moves ctx w₁
  obtain ⟨w₂, hasks, hreq⟩ := @onPeerReq_telemetry ctx (localRoleIs .chat ctx w₁).2 secret tag mask
    random sender got role (hasSnrFlag_of_relayed hsent hrelayed) hmask
    ((hrole.later hunpacks.2).later hasked.2) hanswers
  have hquestions := Composes.trans ctx _ _ _ hasked hasks
  have hseen : ∀ v, KeepsManager ctx v (peerSeenUpdate sender.publicKey got.snrQ4 ctx v).2 :=
    Moves.moves ctx
  refine ⟨w₂, Composes.trans ctx _ _ _ hunpacks ⟨by rw [hquestions.1], hquestions.2⟩, ?_⟩
  rw [hrun, Prog.run_bind, meshRouteRecvPacket_marked, onPeerDataRecv, whenInitialized_run hinit₁,
    onPeerDataRecvInternal, Prog.run_bind, Prog.run_bind, if_neg fun h => absurd h.2.1 (by decide),
    if_pos ⟨rfl, by omega⟩, if_pos (by omega), htag, hreq]
  exact hseen _

/-! ### Being answered -/

/-- A response is for the request for telemetry that waits for its tag. -/
theorem respond_telemetry {response : List UInt8}
    (hwaits : correlation.pendingTelemetry.Awaits publicKey (taggedData tag response)) (zeros : ℕ)
    (timestamp : UInt32) :
    correlation.respond publicKey (taggedData tag response ++ List.replicate zeros 0) timestamp
      = some (.telemetry (keyPrefixOf publicKey) timestamp tag
          (response ++ List.replicate zeros 0),
          { correlation with pendingTelemetry := .zero }) := by
  have hlen : 4 ≤ (taggedData tag response ++ List.replicate zeros (0 : UInt8)).length := by
    rw [List.length_append, length_taggedData]
    omega
  rw [Correlation.respond, if_pos ((isAnswered_append_zeros ..).mpr ⟨hlen, hwaits⟩),
    drop_taggedData, wordAt_append_zeros, wordAt_taggedData]

/-- The answer is told, unless it comes with the way back and a path discovery waits for it. -/
theorem meshOnRecvPacket_telemetry_iff {response : List UInt8}
    (hpath : ∀ way ∈ wayBack, pathBytesOf way.1 ≤ way.2.length ∧ isValidPathLen way.1 = true)
    (hload : Load (responseCarrier wayBack (taggedData tag response)).1
      (datagramBytes c secret destHash srcHash
        (responseCarrier wayBack (taggedData tag response)).2)
      got)
    (htakes : TakesPathReturn c secret sender destHash srcHash
      (responseCarrier wayBack (taggedData tag response)).2 got ctx w)
    (hinit : w.initialized = true) (hrole : FromNow ctx w (Hooks.HasRole .chat))
    (hwaits : w.correlation.pendingTelemetry.Awaits sender.publicKey (taggedData tag response)) :
    AnswersTelemetry sender.publicKey tag response w (meshOnRecvPacket got ctx w).2 ↔
      ¬(wayBack.isSome ∧
        w.correlation.pendingDiscovery.Awaits sender.publicKey (taggedData tag response)) := by
  have hlen : 4 ≤ (taggedData tag response).length := by
    rw [length_taggedData]
    exact Nat.le_add_right ..
  constructor
  · rintro ⟨-, hanswered⟩ ⟨hway, hdiscovery⟩
    obtain ⟨way, rfl⟩ := Option.isSome_iff_exists.mp hway
    obtain ⟨-, hcorrelation⟩ := meshOnRecvPacket_discovered (hpath way rfl).1 (hpath way rfl).2
      hload htakes hlen hinit hdiscovery
    rw [hcorrelation] at hanswered
    have hzero : w.correlation.pendingTelemetry = .zero :=
      congrArg Correlation.pendingTelemetry hanswered
    have hvalid := hwaits.1
    rw [hzero] at hvalid
    exact Bool.false_ne_true hvalid
  · intro hfree
    obtain ⟨timestamp, zeros, h⟩ := meshOnRecvPacket_response (fun way hway => (hpath way hway).1)
      hload htakes hlen hinit hrole fun hway hdiscovery => hfree ⟨hway, hdiscovery⟩
    rw [respond_telemetry hwaits] at h
    exact ⟨⟨timestamp, zeros, h.1⟩, h.2⟩

/-- The path of a packet that was heard is one. -/
theorem wayBackOf_valid (henc : got.Encodable) :
    ∀ way ∈ wayBackOf got, pathBytesOf way.1 ≤ way.2.length ∧ isValidPathLen way.1 = true := by
  intro way hway
  rw [wayBackOf] at hway
  split at hway
  · obtain rfl := Option.some.inj hway
    refine ⟨?_, henc.validPathLen⟩
    rw [Buf.length_bytes, pathBytesOf, toNat_hashSizeOf, toNat_hashCountOf, Nat.mul_comm]
    exact (isValidPathLen_iff.mp henc.validPathLen).2
  · exact absurd hway (Option.not_mem_none way)

/-- The answer is queued if and only if it fits. -/
theorem meshOnRecvPacket_telemetryRequest_iff {sent : Packet}
    (hsent : Sent payloadTypeReq (datagramBytes c secret destHash srcHash
      (telemetryRequestData tag mask random)) sent) (hrelayed : Relayed sent got)
    (htakes : TakesPathReturn c secret sender destHash srcHash
      (telemetryRequestData tag mask random) got ctx w)
    (hinit : w.initialized = true) (hmask : mask &&& ~~~telemPermSupported = 0)
    (hrole : FromNow ctx w (Hooks.HasRole role)) (hanswers : role.answersTelemetry = true)
    (hhost : FromNow ctx w (Hooks.Measures got sender.publicKey mask telemetry))
    (hlen : telemetry.1 ≤ maxTelemetryPayloadLen) (hpool : w.PoolIntact ctx held)
    (hfree : 0 < w.packetManager.getFreeCount) :
    let carrier := responseCarrier (wayBackOf got) (telemetryResponse tag telemetry)
    Shipped (Sent carrier.1 (datagramBytes c secret (Identity.shortHash sender.publicKey)
        (Identity.shortHash w.selfId.identity) carrier.2)) w (meshOnRecvPacket got ctx w).2 ↔
      ResponseFits (wayBackOf got) (4 + telemetry.1) := by
  intro carrier
  obtain ⟨w', hunpacks, hkeepsManager⟩ :=
    meshOnRecvPacket_telemetryRequest hsent hrelayed htakes hinit hmask hrole hanswers
  have hmanager : w'.packetManager = w.packetManager := by rw [hunpacks.1]
  have hself : w'.selfId = w.selfId := by rw [hunpacks.1]
  have hunsent : Unsent ctx w w' := by rw [Unsent, hmanager]
  obtain ⟨hqueued, hdropped⟩ := @handleTelemetryRequest_shipped c ctx w' secret tag mask telemetry
    sender got held (htakes.ciphers.later hunpacks.2) (hunpacks.poolIntact hpool)
    (by rwa [hmanager]) (hhost.later hunpacks.2) hlen
  rw [hself] at hqueued
  constructor
  · intro hshipped
    by_contra hlong
    obtain ⟨entry, hentries, -⟩ := hshipped
    rw [hkeepsManager, hdropped hlong, hunsent] at hentries
    exact List.append_ne_nil_of_right_ne_nil [] (List.cons_ne_nil entry [])
      (List.self_eq_append_right.mp hentries)
  · intro hfits
    exact ((hqueued hfits).before hkeepsManager).after hunsent

end

/-! ### The result -/

/-- **Telemetry.** A request with a supported mask is sealed and sent on its way, and who has asked
waits for its tag. Whatever way it takes to a node that knows the sender and whose role answers for
telemetry, that node asks its host with the mask of the request, and queues the answer if and only
if it fits. When the answer reaches a CHAT node that waits for it, that node tells its host of one
answer, with the tag and what the host of the other node said, with zeros behind it; unless the
answer came with the way back and a path discovery waits for the same tag from the same peer. -/
theorem telemetry_delivered_iff (c : Cipher) {publicKey : Buf publicKeySize} {mask : UInt8}
    {request : NodeTelemetry} (hr : validateNodeTelemetry (some publicKey) mask = some request) :
    (∀ tag ctx w identity, w.HasRoom ctx → FromNow ctx w (Hooks.Ciphers c) →
      FromNow ctx w (Hooks.Knows identity publicKey) →
      ∃ sentTag random, (tag ≠ 0 → sentTag = tag) ∧
        Shipped (Sent payloadTypeReq (datagramBytes c
          (ctx.calculateSharedSecret identity.privateKey publicKey) (Identity.shortHash publicKey)
          (Identity.shortHash identity.publicKey) (telemetryRequestData sentTag mask random))) w
          (executeNodeTelemetry request tag ctx w).2 ∧
        ∀ payload, (executeNodeTelemetry request tag ctx w).2.correlation.pendingTelemetry.Awaits
          publicKey (taggedData sentTag payload)) ∧
    ∀ tag random telemetry, telemetry.1 ≤ maxTelemetryPayloadLen →
      ∀ secret destHash srcHash sent, Sent payloadTypeReq
        (datagramBytes c secret destHash srcHash (telemetryRequestData tag mask random)) sent →
        ∀ got, Relayed sent got →
          let carrier := responseCarrier (wayBackOf got) (telemetryResponse tag telemetry)
          (∀ ctx w sender role held, TakesPathReturn c secret sender destHash srcHash
            (telemetryRequestData tag mask random) got ctx w → w.initialized = true →
              FromNow ctx w (Hooks.HasRole role) → role.answersTelemetry = true →
                FromNow ctx w (Hooks.Measures got sender.publicKey mask telemetry) →
                  w.PoolIntact ctx held → 0 < w.packetManager.getFreeCount →
                    (Shipped (Sent carrier.1 (datagramBytes c secret
                        (Identity.shortHash sender.publicKey) (Identity.shortHash w.selfId.identity)
                        carrier.2)) w (meshOnRecvPacket got ctx w).2 ↔
                      ResponseFits (wayBackOf got) (4 + telemetry.1))) ∧
          ∀ secret' destHash' srcHash' answer,
            Sent carrier.1 (datagramBytes c secret' destHash' srcHash' carrier.2) answer →
              ∀ got', Relayed answer got' → ∀ ctx w sender,
                TakesPathReturn c secret' sender destHash' srcHash' carrier.2 got' ctx w →
                  w.initialized = true → FromNow ctx w (Hooks.HasRole .chat) →
                    w.correlation.pendingTelemetry.Awaits sender.publicKey
                      (telemetryResponse tag telemetry) →
                      (AnswersTelemetry sender.publicKey tag (telemetry.2.slice 0 telemetry.1) w
                          (meshOnRecvPacket got' ctx w).2 ↔
                        ¬((wayBackOf got).isSome ∧ w.correlation.pendingDiscovery.Awaits
                          sender.publicKey (telemetryResponse tag telemetry))) := by
  obtain ⟨-, hpermission, hmask⟩ := of_validateNodeTelemetry hr
  rw [hpermission] at hmask
  refine ⟨fun tag ctx w identity hroom hc hknows =>
    executeNodeTelemetry_shipped hr tag hroom hc hknows, ?_⟩
  intro tag random telemetry hlen secret destHash srcHash sent hsent got hrelayed carrier
  constructor
  · intro ctx w sender role held htakes hinit hrole hanswers hhost hpool hfree
    exact meshOnRecvPacket_telemetryRequest_iff hsent hrelayed htakes hinit hmask hrole
      hanswers hhost hlen hpool hfree
  · intro secret' destHash' srcHash' answer hanswer got' hrelayed' ctx w sender htakes hinit
      hrole hwaits
    exact meshOnRecvPacket_telemetry_iff (wayBackOf_valid hrelayed.encodable)
      (hrelayed'.load hanswer.toLoad) htakes hinit hrole hwaits

/-- A CHAT node whose host answers with as many zeros. -/
def Ctx.measuring (len : ℕ) : Ctx :=
  { Ctx.knowingPeer with
    hooks := fun n =>
      { Ctx.knowingPeer.hooks n with telemetryNode := fun _ _ => some (len, Buf.zero _) } }

/-- Such a node, once it has started. -/
def World.measuring (len : ℕ) : World := Op.next (.measuring len) .boot .init

/-- Its pool is free. -/
theorem poolIntact_measuring : (World.measuring 5).PoolIntact (.measuring 5) [] :=
  Reachable.poolIntact ⟨[.init], rfl⟩ (by decide +kernel)

/-- It takes what its peer seals. -/
theorem takes_measuring (src : List UInt8) {got : Packet} (hend : AtEnd got)
    (hlen : got.payloadLen ≤ packetPayloadMaxLen) :
    TakesPathReturn .plain (Buf.zero _) zeroPeer 0 1 src got (.measuring 5) (.measuring 5) where
  atEnd := hend
  unseen _ _ := tablesHasSeen_fresh (fun _ _ => rfl) hlen rfl
  passes _ _ := rfl
  own := by decide +kernel
  ciphers _ _ := ⟨fun _ _ => rfl, fun _ _ => rfl, fun _ _ => rfl⟩
  finds := ⟨fun cursor => if cursor = 0 then some (0, Buf.zero _, zeroPeer) else none,
    fun _ _ _ => rfl, .found rfl⟩

/-- A flood that asks it. -/
def telemetryPacket : Packet := datagramPacket 1 (telemetryRequestData 7 telemPermBase (Buf.zero _))

/-- The node that has asked. -/
def World.awaiting : World :=
  { World.started with
    correlation := { World.started.correlation with
      pendingTelemetry := { valid := true, tag := 7, keyPrefix := keyPrefixOf (Buf.zero _)
                            permissionMask := telemPermBase, expiresAtMs := 10000 } } }

/-- The answer, with the way back of a flood that nobody relayed, as a flood. -/
def measuredPacket : Packet :=
  datagramPacket 0x21 (pathReturnText 0 telemetryPacket.path.bytes payloadTypeResponse
    (telemetryResponse 7 (5, Buf.zero _)))

/-- The request goes out, the answer goes out, and where it is heard it is told. -/
theorem telemetry_delivered_iff_five :
    (∃ random, Shipped (Sent payloadTypeReq (datagramBytes .plain (Buf.zero _) 0 1
        (telemetryRequestData 7 telemPermBase random))) .answering
        (executeNodeTelemetry ⟨Buf.zero _, telemPermBase⟩ 7 .answering .answering).2) ∧
      Shipped (Sent payloadTypePath (datagramBytes .plain (Buf.zero _) 0 0
        (pathReturnText 0 [] payloadTypeResponse (taggedData 7 [0, 0, 0, 0, 0])))) (.measuring 5)
        (meshOnRecvPacket telemetryPacket (.measuring 5) (.measuring 5)).2 ∧
      AnswersTelemetry (Buf.zero _) 7 [0, 0, 0, 0, 0] .awaiting
        (meshOnRecvPacket measuredPacket .knowingPeer .awaiting).2 := by
  have hr : validateNodeTelemetry (some (Buf.zero _)) telemPermBase
      = some ⟨Buf.zero _, telemPermBase⟩ := rfl
  obtain ⟨hasks, hrest⟩ := telemetry_delivered_iff .plain hr
  have hrequest : Sent payloadTypeReq (datagramBytes .plain (Buf.zero _) 0 1
      (telemetryRequestData 7 telemPermBase (Buf.zero _))) telemetryPacket :=
    sent_datagramPacket (by decide) (.inl (by decide)) (by decide +kernel)
  have hanswer : Sent payloadTypePath (datagramBytes .plain (Buf.zero _) 0 1 (pathReturnText 0
      telemetryPacket.path.bytes payloadTypeResponse (telemetryResponse 7 (5, Buf.zero _))))
      measuredPacket :=
    sent_datagramPacket (by decide) (.inl (by decide)) (by decide +kernel)
  have hheard : Hears telemetryPacket 0 telemetryPacket :=
    ⟨telemetryPacket, ⟨Packet.init, by decide +kernel⟩, rfl⟩
  have hheard' : Hears measuredPacket 0 measuredPacket :=
    ⟨measuredPacket, ⟨Packet.init, by decide +kernel⟩, rfl⟩
  obtain ⟨hmeasures, htold⟩ := hrest 7 (Buf.zero _) (5, Buf.zero _) (by decide) (Buf.zero _) 0 1
    telemetryPacket hrequest telemetryPacket (.heard hheard)
  refine ⟨?_, ?_, ?_⟩
  · obtain ⟨sentTag, random, htag, hships, -⟩ := hasks 7 .answering .answering .calledA
      hasRoom_answering (fun _ _ => ⟨fun _ _ => rfl, fun _ _ => rfl, fun _ _ => rfl⟩)
      (fun _ _ => ⟨rfl, fun h => Option.some_ne_none _ h.choose_spec.1.symm⟩)
    obtain rfl := htag (by decide)
    exact ⟨random, hships⟩
  · have htakes : TakesPathReturn .plain (Buf.zero _) zeroPeer 0 1
        (telemetryRequestData 7 telemPermBase (Buf.zero _)) telemetryPacket (.measuring 5)
        (.measuring 5) :=
      takes_measuring _ (fun _ => by decide) (hrequest.payloadLen_eq.trans_le hrequest.length_le)
    exact (hmeasures (.measuring 5) (.measuring 5) zeroPeer .chat [] htakes rfl
      (fun _ _ => ⟨_, rfl, rfl⟩) rfl
      (fun _ _ => ⟨rfl, fun _ h => Option.some_ne_none _ h.choose_spec.1.symm⟩)
      poolIntact_measuring (by decide +kernel)).mpr (by decide)
  · have htakes : TakesPathReturn .plain (Buf.zero _) zeroPeer 0 1 (pathReturnText 0
        telemetryPacket.path.bytes payloadTypeResponse (telemetryResponse 7 (5, Buf.zero _)))
        measuredPacket .knowingPeer .awaiting :=
      takes_knowingPeer _ (fun _ => by decide) (hanswer.payloadLen_eq.trans_le hanswer.length_le)
        rfl rfl
    exact (htold (Buf.zero _) 0 1 measuredPacket hanswer measuredPacket (.heard hheard')
      .knowingPeer .awaiting zeroPeer htakes rfl (fun _ _ => ⟨_, rfl, rfl⟩)
      ⟨rfl, by decide +kernel, rfl⟩).mpr fun h => absurd h.2.1 (by decide)

/-- 158 bytes would fit a datagram, and are not sent back to who has flooded its request. -/
theorem telemetry_dropped :
    158 ≤ maxTelemetryPayloadLen ∧ 0 < (World.measuring 158).packetManager.getFreeCount ∧
      (meshOnRecvPacket telemetryPacket (.measuring 158) (.measuring 158)).2.packetManager.sendQueue
        = (World.measuring 158).packetManager.sendQueue := by
  refine ⟨by decide, by decide +kernel, by decide +kernel⟩

end Meshcore
