import Meshcore.Datagrams

/-!
# Binary requests

A node asks a peer with up to 163 bytes behind a tag of four. The seal fills the last block up with
zeros, and the peer takes what it finds behind the tag for the payload, zeros and all, but no more
than 163 bytes. The check of the sender is on the bytes before the seal: 161 to 167 bytes take
eleven blocks, which leave 172 behind the tag, so that the longest requests are dropped where they
arrive.

## Main definitions

* `taggedData` — what is sealed
* `PublishesRequest` — the host is told of one request

## Main results

* `onPeerDataRecv_request` — what a peer makes of the data
* `binary_request_published_iff` — when it tells its host of them
-/

namespace Meshcore

/-- A tag, and what follows it. -/
def taggedData (tag : UInt32) (payload : List UInt8) : List UInt8 := leBytes 4 tag.toNat ++ payload

@[simp] theorem length_taggedData (tag : UInt32) (payload : List UInt8) :
    (taggedData tag payload).length = 4 + payload.length := by
  rw [taggedData, List.length_append, length_leBytes]

theorem taggedData_ne_nil (tag : UInt32) (payload : List UInt8) : taggedData tag payload ≠ [] :=
  List.ne_nil_of_length_pos (by rw [length_taggedData]; omega)

/-- The runtime answers no request that starts with this byte by itself. -/
def Unreserved (payload : List UInt8) : Prop :=
  ∀ first ∈ payload.head?, first ≠ reqTypeGetTelemetryData ∧ first ≠ reqTypeDiscoverPathSnr

instance : (payload : List UInt8) → Decidable (Unreserved payload)
  | [] => isTrue fun _ h => nomatch h
  | first :: _ => decidable_of_iff
      (first ≠ reqTypeGetTelemetryData ∧ first ≠ reqTypeDiscoverPathSnr)
      ⟨fun h _ heq => Option.some.inj heq ▸ h, fun h => h first rfl⟩

def Event.isBinaryRequest : Event → Bool
  | .binaryRequest _ => true
  | _ => false

/-- Between these states the host is told of one binary request, with this tag and these bytes in
front. -/
def PublishesRequest (tag : UInt32) (payload : List UInt8) (w w' : World) : Prop :=
  ∃ event, w'.events.filter Event.isBinaryRequest
      = w.events.filter Event.isBinaryRequest ++ [.binaryRequest event] ∧
    event.tag = tag ∧ payload <+: event.payload

/-- What the host is told. -/
def binaryRequestEvent (peer : PeerIdentity) (packet : Packet) (tag : UInt32)
    (payload : List UInt8) :
    BinaryRequestEvent where
  route := messageRouteFromPacket packet
  keyPrefix := keyPrefixOf peer.publicKey
  tag
  publicKey := peer.publicKey
  pathLen := packet.pathLenField
  path := pathBuf (packetPathCopy packet)
  payload
  rxSnrQ4 := packet.snrQ4

section

variable {c : Cipher} {ctx : Ctx} {w : World} {publicKey secret : Buf publicKeySize}
  {payload : List UInt8} {request : NodePayload} {identity : NodeIdentity} {tag : UInt32}

/-! ### Asking -/

theorem selfId_clockRtcGetCurrentTimeUnique (ctx : Ctx) (w : World) :
    (clockRtcGetCurrentTimeUnique ctx w).2.selfId = w.selfId := by
  rw [clockRtcGetCurrentTimeUnique, Prog.run_bind, Prog.run_bind, Prog.run_ite]
  split <;> rfl

/-- An accepted request is sealed and sent on its way. -/
theorem executeNodeBinary_shipped
    (hr : validateNodeBinary (some publicKey) (some payload) = some request) (tag : UInt32)
    (hroom : w.HasRoom ctx) (hc : FromNow ctx w (Hooks.Ciphers c))
    (hknows : FromNow ctx w (Hooks.Knows identity publicKey)) :
    ∃ sentTag, (tag ≠ 0 → sentTag = tag) ∧
      Shipped (Sent payloadTypeReq (datagramBytes c
        (ctx.calculateSharedSecret identity.privateKey publicKey) (Identity.shortHash publicKey)
        (Identity.shortHash identity.publicKey) (taggedData sentTag payload))) w
        (executeNodeBinary request tag ctx w).2 := by
  obtain ⟨hkey, hpayload, -, -, hfits⟩ := of_validateNodeBinary hr
  obtain rfl := Option.some.inj hkey
  obtain rfl := Option.some.inj hpayload
  let w₁ : World :=
    { w with selfId := ⟨identity.publicKey, identity.privateKey⟩, tick := w.tick + 1 }
  obtain ⟨fresh, w₂, hfresh⟩ : ∃ fresh w₂, clockRtcGetCurrentTimeUnique ctx w₁ = (fresh, w₂) :=
    ⟨_, _, rfl⟩
  have hidle₁ : Idle ctx w₁ w₂ := by
    rw [show w₂ = (clockRtcGetCurrentTimeUnique ctx w₁).2 by rw [hfresh]]
    exact Moves.moves ctx w₁
  have hidle : Idle ctx w w₂ := Composes.trans ctx w w₁ w₂ ⟨rfl, Nat.le_succ _⟩ hidle₁
  have hself : w₂.selfId = w₁.selfId := by
    rw [← selfId_clockRtcGetCurrentTimeUnique ctx w₁, hfresh]
  let sentTag := if tag ≠ 0 then tag else fresh
  have hsecret : selfSharedSecret request.publicKey ctx w₂
      = (ctx.calculateSharedSecret identity.privateKey request.publicKey, w₂) := by
    rw [selfSharedSecret, Prog.run_bind, Prog.run_gets, hself]
    rfl
  have hshipped := sendDatagram_shipped .nodeBinary
    (ctx.calculateSharedSecret identity.privateKey request.publicKey)
    (taggedData sentTag request.payload) (pendingBinaryRegister sentTag request.publicKey) 0
    (.inr (.inl rfl)) (by rwa [length_taggedData]) (hidle.hasRoom hroom) (hc.later hidle.2)
    ((hknows.later hidle.2).imp fun _ h => h.path)
  rw [hself] at hshipped
  refine ⟨sentTag, fun h => if_pos h, ?_⟩
  rw [executeNodeBinary, withLocalIdentity_run .nodeBinary _ hknows.now.self,
    Prog.run_bind_of hfresh, Prog.run_bind_of hsecret]
  exact hshipped.after hidle.unsent

/-! ### Being asked -/

theorem wordAt_padded_taggedData (tag : UInt32) (payload : List UInt8) :
    wordAt (padded (taggedData tag payload)) = tag := by
  rw [padded, taggedData, List.append_assoc]
  exact wordAt_leBytes tag _

/-- The payload of the peer starts with the one that was sent. -/
theorem prefix_drop_padded (tag : UInt32) (payload : List UInt8) :
    payload <+: (padded (taggedData tag payload)).drop 4 := by
  rw [padded, taggedData, List.append_assoc, List.drop_left' (length_leBytes ..)]
  exact List.prefix_append ..

/-- A request that is not reserved is for the host. -/
theorem onPeerReq_published {data : List UInt8} (sender : PeerIdentity) (packet : Packet)
    (h : data.getD 4 0 ≠ reqTypeGetTelemetryData ∧ data.getD 4 0 ≠ reqTypeDiscoverPathSnr) :
    ∃ w', Asks ctx w w' ∧ onPeerReq sender secret packet tag data ctx w
      = binaryRequestPublish sender packet tag (data.drop 4) ctx w' := by
  rw [onPeerReq]
  split
  · refine ⟨(localRoleIs .chat ctx w).2, Moves.moves ctx w, ?_⟩
    rw [Prog.run_bind, if_neg fun hreserved => ?_, if_neg h.1]
    rcases hreserved.2 with hsnr | htelemetry
    · exact h.2 hsnr
    · exact h.1 htelemetry.1
  · exact ⟨w, Composes.refl ctx w, rfl⟩

/-- What a peer makes of the data of such a request. -/
theorem onPeerDataRecv_request (sender : PeerIdentity) (packet : Packet)
    (hinit : w.initialized = true) (htag : tag ≠ 0) (hpayload : payload ≠ [])
    (hplain : Unreserved payload) :
    (onPeerDataRecv packet payloadTypeReq sender secret (padded (taggedData tag payload))
        ctx w).2.events
      = w.events ++ (if payload.length ≤ 156 then [.binaryRequest (binaryRequestEvent sender packet
          tag ((padded (taggedData tag payload)).drop 4))] else []) ++
        [.peerSeenUpdate sender.publicKey packet.snrQ4] := by
  have hlen : (padded (taggedData tag payload)).length = (4 + payload.length + 15) / 16 * 16 := by
    rw [length_padded, cipherBlockCount, length_taggedData]
    rfl
  have hfirst : (padded (taggedData tag payload)).getD 4 0 = payload.head hpayload := by
    obtain ⟨first, rest, rfl⟩ := List.exists_cons_of_ne_nil hpayload
    rw [padded, taggedData, List.append_assoc,
      List.getD_append_right _ _ _ _ (length_leBytes ..).le, length_leBytes]
    rfl
  have hreserved := hplain _ (List.head_mem_head? hpayload)
  rw [onPeerDataRecv, whenInitialized_run hinit, onPeerDataRecvInternal, Prog.run_bind,
    Prog.run_bind, if_neg fun h => absurd h.2.1 (by decide), if_pos ⟨rfl, by omega⟩,
    if_pos (by omega), wordAt_padded_taggedData]
  obtain ⟨w', hasks, hrun⟩ := @onPeerReq_published ctx (localRoleIs .chat ctx w).2 secret tag
    (padded (taggedData tag payload)) sender packet (by rwa [hfirst])
  have hevents : w'.events = w.events := by
    have hrole : Asks ctx w (localRoleIs .chat ctx w).2 := Moves.moves ctx w
    rw [(Composes.trans ctx w _ _ hrole hasks).1]
  have hdrop : ((padded (taggedData tag payload)).drop 4).length
      = (4 + payload.length + 15) / 16 * 16 - 4 := by rw [List.length_drop, hlen]
  have hpos := List.length_pos_iff.mpr hpayload
  rw [hrun, binaryRequestPublish, hdrop]
  by_cases hshort : payload.length ≤ 156
  · have hfits : ¬((4 + payload.length + 15) / 16 * 16 - 4 = 0 ∨
        (4 + payload.length + 15) / 16 * 16 - 4 > maxServiceRequestPayloadLen ∨ tag = 0) := by
      rw [not_or, not_or]
      refine ⟨by omega, ?_, htag⟩
      show ¬_ > 163
      omega
    rw [if_neg hfits, if_pos hshort, ← hevents]
    rfl
  · have hlong : (4 + payload.length + 15) / 16 * 16 - 4 > maxServiceRequestPayloadLen := by
      show _ > 163
      omega
    rw [if_pos (.inr (.inl hlong)), if_neg hshort, List.append_nil, ← hevents]
    rfl

end

/-! ### The result -/

/-- **Binary requests.** An accepted request is sealed and sent on its way. Whatever way it takes to
a node that knows the sender, when the request does not start with a byte that the runtime answers
to by itself, that node tells its host of one request, with the tag and the bytes of the sender in
front, if and only if there are at most 156 of them. -/
theorem binary_request_published_iff (c : Cipher) {publicKey : Buf publicKeySize}
    {payload : List UInt8} {request : NodePayload}
    (hr : validateNodeBinary (some publicKey) (some payload) = some request)
    (hplain : Unreserved payload) :
    (∀ tag ctx w identity, w.HasRoom ctx → FromNow ctx w (Hooks.Ciphers c) →
      FromNow ctx w (Hooks.Knows identity publicKey) →
      ∃ sentTag, (tag ≠ 0 → sentTag = tag) ∧
        Shipped (Sent payloadTypeReq (datagramBytes c
          (ctx.calculateSharedSecret identity.privateKey publicKey) (Identity.shortHash publicKey)
          (Identity.shortHash identity.publicKey) (taggedData sentTag payload))) w
          (executeNodeBinary request tag ctx w).2) ∧
    ∀ tag, tag ≠ 0 → ∀ secret destHash srcHash sent,
      Sent payloadTypeReq (datagramBytes c secret destHash srcHash (taggedData tag payload)) sent →
        ∀ got, Relayed sent got → ∀ ctx w sender,
          TakesPathReturn c secret sender destHash srcHash (taggedData tag payload) got ctx w →
            w.initialized = true →
              (PublishesRequest tag payload w (meshOnRecvPacket got ctx w).2 ↔
                payload.length ≤ 156) := by
  refine ⟨fun tag ctx w identity hroom hc hknows =>
    executeNodeBinary_shipped hr tag hroom hc hknows, ?_⟩
  intro tag htag secret destHash srcHash sent hsent got hrelayed ctx w sender htakes hinit
  obtain ⟨-, hpayload, hpos, -, -⟩ := of_validateNodeBinary hr
  obtain rfl := Option.some.inj hpayload
  obtain ⟨w', hunpacks, hrun⟩ := meshOnRecvPacket_data (.inl rfl)
    (taggedData_ne_nil tag request.payload) (hrelayed.load hsent.toLoad) htakes
  obtain ⟨hevents, -, -, hinit', -⟩ := hunpacks.mute
  have hall : (meshOnRecvPacket got ctx w).2.events
      = w.events ++ (if request.payload.length ≤ 156 then
      [.binaryRequest (binaryRequestEvent sender got tag
        ((padded (taggedData tag request.payload)).drop 4))] else []) ++
      [.peerSeenUpdate sender.publicKey got.snrQ4] := by
    rw [hrun, ← hevents, ← onPeerDataRecv_request sender got (hinit'.trans hinit) htag
      (List.length_pos_iff.mp hpos) hplain]
    exact ((inferInstance : Moves Silent (meshRouteRecvPacket got.markDoNotRetransmit)).moves
      ctx _).events
  by_cases hshort : request.payload.length ≤ 156
  · rw [if_pos hshort] at hall
    refine iff_of_true ⟨binaryRequestEvent sender got tag
      ((padded (taggedData tag request.payload)).drop 4), ?_, rfl, prefix_drop_padded ..⟩ hshort
    rw [hall, List.filter_append, List.filter_append]
    exact List.append_nil _
  · rw [if_neg hshort] at hall
    refine iff_of_false ?_ hshort
    rintro ⟨event, hpublished, -, -⟩
    rw [hall, List.filter_append, List.filter_append] at hpublished
    simp [Event.isBinaryRequest] at hpublished

/-- A datagram with these data for a node of hash 0, from a node of hash 1. -/
def datagramPacket (header : UInt8) (data : List UInt8) : Packet :=
  { Packet.init with
    header
    payloadLen := (datagramBytes .plain (Buf.zero _) 0 1 data).length
    payload := (Buf.zero _).store 0 (datagramBytes .plain (Buf.zero _) 0 1 data) }

/-- It carries them. -/
theorem sent_datagramPacket {header type : UInt8} {data : List UInt8}
    (htype : (datagramPacket header data).getPayloadType = type)
    (hroute : (datagramPacket header data).getRouteType = routeTypeFlood ∨
      (datagramPacket header data).getRouteType = routeTypeDirect)
    (hlen : (datagramBytes .plain (Buf.zero _) 0 1 data).length ≤ packetPayloadMaxLen) :
    Sent type (datagramBytes .plain (Buf.zero _) 0 1 data) (datagramPacket header data) where
  type_eq := htype
  payloadBytes_eq := Buf.slice_store_self _ ((Nat.zero_add _).trans_le hlen)
  payloadLen_eq := rfl
  length_le := hlen
  route := hroute
  validPathLen := (by decide : isValidPathLen 0 = true)

/-- A CHAT node that has started. -/
def World.started : World := { World.boot with initialized := true }

theorem binary_request_published_iff_one :
    PublishesRequest 7 [9] .started
      (meshOnRecvPacket (datagramPacket 1 (taggedData 7 [9])) .knowingPeer .started).2 := by
  have hr : validateNodeBinary (some (Buf.zero _)) (some [9]) = some ⟨Buf.zero _, [9]⟩ := rfl
  have hsent : Sent payloadTypeReq (datagramBytes .plain (Buf.zero _) 0 1 (taggedData 7 [9]))
      (datagramPacket 1 (taggedData 7 [9])) :=
    sent_datagramPacket (by decide) (.inl (by decide)) (by decide +kernel)
  have hair : OnAir (datagramPacket 1 (taggedData 7 [9])) (datagramPacket 1 (taggedData 7 [9])) :=
    ⟨Packet.init, by decide +kernel⟩
  exact ((binary_request_published_iff .plain hr (by decide)).2 7 (by decide) (Buf.zero _)
    0 1 _ hsent _ (.heard ⟨_, hair, rfl⟩) .knowingPeer .started zeroPeer
    (takes_knowingPeer _ (fun _ => by decide) (hsent.payloadLen_eq.trans_le hsent.length_le)
      rfl rfl) rfl).mpr (by decide)

/-- A request of 157 bytes is accepted, and dropped where it arrives. -/
theorem binary_request_dropped :
    (validateNodeBinary (some (Buf.zero _)) (some (List.replicate 157 9))).isSome = true ∧
      ¬PublishesRequest 7 (List.replicate 157 9) .started (meshOnRecvPacket
        (datagramPacket 1 (taggedData 7 (List.replicate 157 9))) .knowingPeer .started).2 := by
  have hnone :
      (meshOnRecvPacket (datagramPacket 1 (taggedData 7 (List.replicate 157 9))) .knowingPeer
      .started).2.events.filter Event.isBinaryRequest = [] :=
    List.filter_eq_nil_iff.mpr (by decide +kernel)
  refine ⟨by decide +kernel, ?_⟩
  rintro ⟨event, hpublished, -, -⟩
  rw [hnone] at hpublished
  exact List.append_ne_nil_of_right_ne_nil _ (List.cons_ne_nil _ _) hpublished.symm

end Meshcore
