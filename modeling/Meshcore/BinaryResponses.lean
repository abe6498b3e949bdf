import Meshcore.Responses
import Meshcore.BinaryRequests

/-!
# Binary responses

The host answers a request that it was told of. A CHAT node that waits for the tag hands the bytes
of the response to its host, and waits no longer. The validator checks the response against the room
in a datagram, and when the request was flooded against the room in a path return too.

## Main definitions

* `NodeBinaryResponse.wayBack` — the way that goes with the response
* `AnswersBinary` — the host was told of the response, and the node waits for it no longer

## Main results

* `binary_response_delivered`
-/

namespace Meshcore

/-- A request that was flooded is answered with the path that it came by. -/
def NodeBinaryResponse.wayBack (r : NodeBinaryResponse) : Option (UInt8 × List UInt8) :=
  if r.request.route = .flood then some (r.request.pathLen, r.request.path.bytes) else none

/-- Between these states the host was told of one answer, which is this response with zeros behind
it, and the node waits for no binary response any longer. -/
def AnswersBinary (publicKey : Buf publicKeySize) (tag : UInt32) (response : List UInt8)
    (w w' : World) : Prop :=
  (∃ timestamp zeros, w'.events.filter Event.isCorrelated = w.events.filter Event.isCorrelated ++
    [.binaryResponse (keyPrefixOf publicKey) timestamp tag (response ++ List.replicate zeros 0)]) ∧
  w'.correlation = { w.correlation with pendingBinary := .zero }

/-- A node waits for a binary response with this tag from this peer, and for nothing else with that
tag from there. -/
structure Correlation.AwaitsBinary (c : Correlation) (publicKey : Buf publicKeySize)
    (response : List UInt8) : Prop where
  binary : c.pendingBinary.Awaits publicKey response
  telemetry : ¬c.pendingTelemetry.Awaits publicKey response
  discovery : ¬c.pendingDiscovery.Awaits publicKey response

section

variable {c : Cipher} {ctx : Ctx} {w : World} {secret publicKey : Buf publicKeySize}
  {request : NodePayload} {event : Option BinaryRequestEvent} {payload : Option (List UInt8)}
  {r : NodeBinaryResponse} {tag : UInt32} {identity : NodeIdentity} {sender : PeerIdentity}
  {destHash srcHash : UInt8} {got : Packet} {response : List UInt8} {correlation : Correlation}

/-! ### Asking -/

theorem wordAt_taggedData (tag : UInt32) (payload : List UInt8) :
    wordAt (taggedData tag payload) = tag :=
  wordAt_leBytes tag payload

theorem drop_taggedData (tag : UInt32) (payload rest : List UInt8) :
    (taggedData tag payload ++ rest).drop 4 = payload ++ rest := by
  rw [taggedData, List.append_assoc, List.drop_left' (length_leBytes ..)]

/-- Who has asked waits for the tag. -/
theorem executeNodeBinary_awaits (hr : validateNodeBinary (some publicKey) payload = some request)
    (htag : tag ≠ 0) (hroom : w.HasRoom ctx) (hc : FromNow ctx w (Hooks.Ciphers c))
    (hself : FromNow ctx w (Hooks.Is identity)) (response : List UInt8) :
    (executeNodeBinary request tag ctx w).2.correlation.pendingBinary.Awaits publicKey
      (taggedData tag response) := by
  obtain ⟨hkey, -, -, -, hfits⟩ := of_validateNodeBinary hr
  obtain rfl := Option.some.inj hkey
  let w₁ : World :=
    { w with selfId := ⟨identity.publicKey, identity.privateKey⟩, tick := w.tick + 1 }
  obtain ⟨fresh, w₂, hfresh⟩ : ∃ fresh w₂, clockRtcGetCurrentTimeUnique ctx w₁ = (fresh, w₂) :=
    ⟨_, _, rfl⟩
  have hidle₁ : Idle ctx w₁ w₂ := by
    rw [show w₂ = (clockRtcGetCurrentTimeUnique ctx w₁).2 by rw [hfresh]]
    exact Moves.moves ctx w₁
  have hidle : Idle ctx w w₂ := Composes.trans ctx w w₁ w₂ ⟨rfl, Nat.le_succ _⟩ hidle₁
  have hroom₂ := hidle.hasRoom hroom
  let secret := ctx.calculateSharedSecret w₂.selfId.prvKey request.publicKey
  have hsecret : selfSharedSecret request.publicKey ctx w₂ = (secret, w₂) := rfl
  obtain ⟨w₃, -, hnoted⟩ := @datagram_correlation c ctx w₂ payloadTypeReq request.publicKey _
    .nodeBinary secret (taggedData tag request.payload)
    (pendingBinaryRegister tag request.publicKey)
    _ (fun id => sendToPeer id request.publicKey 0) _ (.inr (.inl rfl)) (by rwa [length_taggedData])
    hroom₂ (hc.later hidle.2)
  have hrun : (executeNodeBinary request tag ctx w).2.correlation
      = (pendingBinaryRegister tag request.publicKey ctx w₃).2.correlation := by
    rw [executeNodeBinary, withLocalIdentity_run .nodeBinary _ hself.now, Prog.run_bind_of hfresh,
      Prog.run_bind_of hsecret, if_pos htag]
    exact hnoted
  rw [hrun]
  exact ⟨rfl, (wordAt_taggedData tag response).symm, rfl⟩

/-! ### Answering -/

/-- An accepted response has room in its packet. -/
theorem fits_of_validateNodeBinaryResponse
    (hr : validateNodeBinaryResponse event payload = some r) :
    ResponseFits r.wayBack (taggedData r.request.tag r.payload).length ∧
      ∀ way ∈ r.wayBack, pathBytesOf way.1 ≤ way.2.length := by
  obtain ⟨-, -, -, hfits, -, hflood⟩ := of_validateNodeBinaryResponse hr
  rw [length_taggedData, NodeBinaryResponse.wayBack]
  split
  · rename_i hroute
    obtain ⟨hpath, hroom⟩ := hflood hroute
    obtain ⟨decoded, hdecoded⟩ := Option.isSome_iff_exists.mp hpath
    refine ⟨hroom, ?_⟩
    rintro way ⟨⟩
    rw [Buf.length_bytes, pathBytesOf, toNat_hashSizeOf, toNat_hashCountOf, Nat.mul_comm]
    exact (isValidPathLen_iff.mp (pathLenDecode_eq_some.mp hdecoded).1).2
  · exact ⟨hfits, fun way h => absurd h (Option.not_mem_none way)⟩

/-- An accepted response is sealed and sent on its way. -/
theorem executeNodeBinaryResponse_shipped (hr : validateNodeBinaryResponse event payload = some r)
    (hroom : w.HasRoom ctx) (hc : FromNow ctx w (Hooks.Ciphers c))
    (hknows : FromNow ctx w (Hooks.Knows identity r.request.publicKey)) :
    let carrier := responseCarrier r.wayBack (taggedData r.request.tag r.payload)
    Shipped (Sent carrier.1 (datagramBytes c
      (ctx.calculateSharedSecret identity.privateKey r.request.publicKey)
      (Identity.shortHash r.request.publicKey) (Identity.shortHash identity.publicKey) carrier.2)) w
      (executeNodeBinaryResponse r ctx w).2 := by
  intro carrier
  have hfits := (fits_of_validateNodeBinaryResponse hr).1
  let w₁ : World :=
    { w with selfId := ⟨identity.publicKey, identity.privateKey⟩, tick := w.tick + 1 }
  have hidle : Idle ctx w w₁ := ⟨rfl, Nat.le_succ _⟩
  have hlater : w.tick ≤ w₁.tick := Nat.le_succ _
  have hroom₁ := hidle.hasRoom hroom
  let secret := ctx.calculateSharedSecret identity.privateKey r.request.publicKey
  have hsecret : selfSharedSecret r.request.publicKey ctx w₁ = (secret, w₁) := rfl
  rw [executeNodeBinaryResponse, withLocalIdentity_run .nodeBinaryResponse _ hknows.now.self,
    Prog.run_bind_of hsecret]
  dsimp only [carrier]
  rw [NodeBinaryResponse.wayBack] at hfits ⊢
  split at hfits
  · rename_i hroute
    rw [if_pos hroute, if_pos hroute]
    obtain ⟨id, hid, hmade⟩ := @meshCreatePathReturnByIdentity_made c ctx w₁ secret
      r.request.pathLen payloadTypeResponse r.request.path.bytes
      (taggedData r.request.tag r.payload) [] r.request.publicKey (taggedData_ne_nil _ _) hfits
      (hc.later hlater) hroom₁.pool hroom₁.free
    have hrun := @withRequestPacket_run .nodeBinaryResponse _
      (fun id => requestSendFlood id runtimeServerResponseDelayMs) ctx w₁ id hid
    have hdata : leBytes 4 r.request.tag.toNat ++ r.payload = taggedData r.request.tag r.payload :=
      rfl
    rw [hdata, hrun]
    exact ((requestSendFlood_shipped runtimeServerResponseDelayMs (by decide) hmade.pool
      hmade.packet).after hmade.unsent).after hidle.unsent
  · rename_i hroute
    rw [if_neg hroute, if_neg hroute]
    exact sendDatagram_shipped .nodeBinaryResponse secret (taggedData r.request.tag r.payload)
      (pure () : M Unit) runtimeServerResponseDelayMs (.inr (.inr rfl)) hfits hroom₁
      (hc.later hlater) ((hknows.later hlater).imp fun _ h => h.path)

/-! ### Being answered -/

/-- A response is for the binary request that waits for its tag, if no request for telemetry
does. -/
theorem respond_binary
    (hbinary : correlation.pendingBinary.Awaits publicKey (taggedData tag response))
    (htelemetry : ¬correlation.pendingTelemetry.Awaits publicKey (taggedData tag response))
    (zeros : ℕ) (timestamp : UInt32) :
    correlation.respond publicKey (taggedData tag response ++ List.replicate zeros 0) timestamp
      = some (.binaryResponse (keyPrefixOf publicKey) timestamp tag
          (response ++ List.replicate zeros 0), { correlation with pendingBinary := .zero }) := by
  have hlen : 4 ≤ (taggedData tag response ++ List.replicate zeros (0 : UInt8)).length := by
    rw [List.length_append, length_taggedData]
    omega
  rw [Correlation.respond,
    if_neg fun h => htelemetry ((isAnswered_append_zeros ..).mp h).2,
    if_pos ((isAnswered_append_zeros ..).mpr ⟨hlen, hbinary⟩), drop_taggedData, wordAt_append_zeros,
    wordAt_taggedData]

/-- Whatever way it came, an accepted response is told to the host of who waits for it. -/
theorem meshOnRecvPacket_binaryResponse (hr : validateNodeBinaryResponse event payload = some r)
    (hload : Load (responseCarrier r.wayBack (taggedData r.request.tag r.payload)).1
      (datagramBytes c secret destHash srcHash
        (responseCarrier r.wayBack (taggedData r.request.tag r.payload)).2) got)
    (htakes : TakesPathReturn c secret sender destHash srcHash
      (responseCarrier r.wayBack (taggedData r.request.tag r.payload)).2 got ctx w)
    (hinit : w.initialized = true) (hrole : FromNow ctx w (Hooks.HasRole .chat))
    (hwaits : w.correlation.AwaitsBinary sender.publicKey (taggedData r.request.tag r.payload)) :
    AnswersBinary sender.publicKey r.request.tag r.payload w (meshOnRecvPacket got ctx w).2 := by
  obtain ⟨timestamp, zeros, h⟩ := meshOnRecvPacket_response
    (fits_of_validateNodeBinaryResponse hr).2 hload htakes
    (by rw [length_taggedData]; exact Nat.le_add_right ..) hinit hrole fun _ => hwaits.discovery
  rw [respond_binary hwaits.binary hwaits.telemetry] at h
  exact ⟨⟨timestamp, zeros, h.1⟩, h.2⟩

end

/-! ### The result -/

/-- **Binary responses.** Who asks with a tag waits for it. A response that the validator accepts is
sealed and sent on its way, as a datagram or as the extra of a path return. Whatever way it takes,
when it reaches a CHAT node that waits for a binary response with this tag from this peer, and for
nothing else, that node tells its host of one answer, with the tag and the response with zeros
behind it, and waits no longer. -/
theorem binary_response_delivered (c : Cipher) {event : BinaryRequestEvent} {response : List UInt8}
    {r : NodeBinaryResponse}
    (hr : validateNodeBinaryResponse (some event) (some response) = some r) :
    let carrier := responseCarrier r.wayBack (taggedData event.tag response)
    (∀ publicKey payload request, validateNodeBinary (some publicKey) payload = some request →
      ∀ ctx w identity, w.HasRoom ctx → FromNow ctx w (Hooks.Ciphers c) →
        FromNow ctx w (Hooks.Is identity) →
        (executeNodeBinary request event.tag ctx w).2.correlation.pendingBinary.Awaits publicKey
          (taggedData event.tag response)) ∧
    (∀ ctx w identity, w.HasRoom ctx → FromNow ctx w (Hooks.Ciphers c) →
      FromNow ctx w (Hooks.Knows identity event.publicKey) →
      Shipped (Sent carrier.1 (datagramBytes c
        (ctx.calculateSharedSecret identity.privateKey event.publicKey)
        (Identity.shortHash event.publicKey) (Identity.shortHash identity.publicKey) carrier.2)) w
        (executeNodeBinaryResponse r ctx w).2) ∧
    ∀ secret destHash srcHash sent,
      Sent carrier.1 (datagramBytes c secret destHash srcHash carrier.2) sent →
        ∀ got, Relayed sent got → ∀ ctx w sender,
          TakesPathReturn c secret sender destHash srcHash carrier.2 got ctx w →
            w.initialized = true → FromNow ctx w (Hooks.HasRole .chat) →
              w.correlation.AwaitsBinary sender.publicKey (taggedData event.tag response) →
                AnswersBinary sender.publicKey event.tag response w
                  (meshOnRecvPacket got ctx w).2 := by
  obtain ⟨hevent, hresponse, -, -, htag, -⟩ := of_validateNodeBinaryResponse hr
  obtain rfl := Option.some.inj hevent
  obtain rfl := Option.some.inj hresponse
  intro carrier
  refine ⟨?_, ?_, ?_⟩
  · intro publicKey payload request hrequest ctx w identity hroom hc hself
    exact executeNodeBinary_awaits hrequest htag hroom hc hself r.payload
  · intro ctx w identity hroom hc hknows
    exact executeNodeBinaryResponse_shipped hr hroom hc hknows
  · intro secret destHash srcHash sent hsent got hrelayed ctx w sender htakes hinit hrole hwaits
    exact meshOnRecvPacket_binaryResponse hr (hrelayed.load hsent.toLoad) htakes hinit hrole hwaits

/-- A request with the tag 7 that came directly. -/
def directRequest : BinaryRequestEvent where
  route := .direct
  keyPrefix := keyPrefixOf (Buf.zero _)
  tag := 7
  publicKey := Buf.zero _
  pathLen := 0
  path := Buf.zero _
  payload := [9]
  rxSnrQ4 := 0

/-- Its sender, who waits. -/
def World.waiting : World :=
  { World.started with
    correlation := { World.started.correlation with
      pendingBinary := { valid := true, tag := 7, keyPrefix := keyPrefixOf (Buf.zero _)
                         permissionMask := 0, expiresAtMs := 10000 } } }

/-- A node with the key of `a` that knows that peer. -/
def Ctx.answering : Ctx :=
  { Ctx.knowingPeer with
    hooks := fun n => { Ctx.knowingPeer.hooks n with nodeIdentity := (0, .calledA) } }

/-- Such a node, once it has started. -/
def World.answering : World := Op.next .answering .boot .init

/-- Its pool is free. -/
theorem hasRoom_answering : World.answering.HasRoom .answering :=
  ⟨Reachable.poolIntact ⟨[.init], rfl⟩ (by decide +kernel), by decide +kernel⟩

/-- The request makes its sender wait, the response goes out, and where it is heard it is told. -/
theorem binary_response_delivered_five :
    let response := taggedData 7 [1, 2, 3, 4, 5]
    (executeNodeBinary ⟨Buf.zero _, [9]⟩ 7 .answering .answering).2.correlation.pendingBinary.Awaits
        (Buf.zero _) response ∧
      Shipped (Sent payloadTypeResponse (datagramBytes .plain (Buf.zero _) 0 1 response)) .answering
        (executeNodeBinaryResponse ⟨directRequest, [1, 2, 3, 4, 5]⟩ .answering .answering).2 ∧
      AnswersBinary (Buf.zero _) 7 [1, 2, 3, 4, 5] .waiting
        (meshOnRecvPacket (datagramPacket 5 response) .knowingPeer .waiting).2 := by
  intro response
  have hr : validateNodeBinaryResponse (some directRequest) (some [1, 2, 3, 4, 5])
      = some ⟨directRequest, [1, 2, 3, 4, 5]⟩ := rfl
  have hrequest : validateNodeBinary (some (Buf.zero _)) (some [9]) = some ⟨Buf.zero _, [9]⟩ := rfl
  have hciphers : FromNow .answering .answering (Hooks.Ciphers .plain) :=
    fun _ _ => ⟨fun _ _ => rfl, fun _ _ => rfl, fun _ _ => rfl⟩
  have hself : FromNow .answering .answering (Hooks.Is .calledA) := fun _ _ => rfl
  have hknows : FromNow .answering .answering (Hooks.Knows .calledA (Buf.zero _)) :=
    fun _ _ => ⟨rfl, fun h => Option.some_ne_none _ h.choose_spec.1.symm⟩
  have hsent : Sent payloadTypeResponse (datagramBytes .plain (Buf.zero _) 0 1 response)
      (datagramPacket 5 response) :=
    sent_datagramPacket (by decide) (.inl (by decide)) (by decide +kernel)
  have hair : OnAir (datagramPacket 5 response) (datagramPacket 5 response) :=
    ⟨Packet.init, by decide +kernel⟩
  have htakes : TakesPathReturn .plain (Buf.zero _) zeroPeer 0 1 response
      (datagramPacket 5 response) .knowingPeer .waiting :=
    takes_knowingPeer _ (fun _ => by decide) (hsent.payloadLen_eq.trans_le hsent.length_le)
      rfl rfl
  obtain ⟨hasks, hships, htold⟩ := binary_response_delivered .plain hr
  exact ⟨hasks (Buf.zero _) (some [9]) _ hrequest .answering .answering .calledA hasRoom_answering
      hciphers hself,
    hships .answering .answering .calledA hasRoom_answering hciphers hknows,
    htold (Buf.zero _) 0 1 _ hsent _ (.heard ⟨_, hair, rfl⟩) .knowingPeer .waiting
      zeroPeer htakes rfl (fun _ _ => ⟨_, rfl, rfl⟩)
      ⟨⟨rfl, by decide +kernel, rfl⟩, fun h => absurd h.1 (by decide),
        fun h => absurd h.1 (by decide)⟩⟩

end Meshcore
