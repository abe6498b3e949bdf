import Meshcore.Outcomes
import Meshcore.RequestOutcome

/-!
# Requests that get lost

The check of the arguments admits what the request then drops without a word: a text that is too
long together with the name of this node, a channel that the host does not know, a stored path that
no packet can take, a role that is not advertised. Which answers of the host bring that about is
`Op.LostBy`, a predicate on the set of answers that the call was given.

## Main definitions

* `Op.Kept` — one packet was queued, or the failure was reported
* `Op.LostBy` — the answers that make a request get lost

## Main results

* `no_request_lost`
-/

namespace Meshcore

/-! ### The requests -/

theorem not_never (h : Hooks) : ¬Never {h} := not_false

instance (L : Set Hooks → Prop) [hL : Growing L] : Growing (Known L) :=
  ⟨fun _ _ hsub ⟨⟨h, hmem, hknown⟩, hlost⟩ => ⟨⟨h, hsub hmem, hknown⟩, hL.mono hsub hlost⟩⟩

theorem known_never (H : Set Hooks) : Known Never H ↔ False := ⟨And.right, False.elim⟩

/-- The advert of another node, when its parser takes it, goes to the neighbours. -/
theorem sendPeerAdvert_shipped {rawAdvert : List UInt8} {read : Packet} {id : PacketId} {ctx : Ctx}
    {w : World} (hpool : w.PoolIntact ctx [id])
    (hread : (w.packetManager.packetBuf id).readFrom rawAdvert = some (true, read))
    (htype : read.getPayloadType = payloadTypeAdvert)
    (hlen : read.payloadLen ≤ packetPayloadMaxLen) :
    Shipped (· = read.toNeighbours) w ((do
      let into ← readPacket id
      let read := (into.readFrom rawAdvert).getD (false, into)
      writePacket id read.2
      if !read.1 ∨ read.2.getPayloadType ≠ payloadTypeAdvert then dispatcherReleasePacket id
      else meshSendZeroHop id 0 : M Unit) ctx w).2 := by
  simp only [readPacket, Prog.run_bind, Prog.run_gets, hread, Option.getD_some, Bool.not_true,
    Bool.false_eq_true, htype, ne_eq, not_true, or_self, if_false]
  have hpool' : (writePacket id read ctx w).2.PoolIntact ctx [id] :=
    ⟨hpool.conserves.write read, hpool.poolSize, hpool.reissued⟩
  have hwritten := packetBuf_writePacket id read ctx w
  have hunsent : Unsent ctx w (writePacket id read ctx w).2 := Moves.moves ctx w
  have hship := meshSendZeroHop_shipped 0 hpool' (by rwa [hwritten])
  rw [hwritten] at hship
  exact hship.after hunsent

theorem executeNodePeerAdvert_concludes {raw : Option (List UInt8)} {rawAdvert : List UInt8}
    (h : validateNodePeerAdvert raw = some rawAdvert) :
    Concludes Never (executeNodePeerAdvert rawAdvert) := by
  obtain ⟨-, hlen, got, hread, htype⟩ := of_validateNodePeerAdvert h
  have hlen255 : rawAdvert.length ≤ 255 := hlen
  obtain ⟨f, hf, hpay, rfl⟩ := (Packet.readFrom_eq_true hlen255).mp hread
  have hsends : ∀ id, Sends (fun _ => True) Never id (do
      let into ← readPacket id
      let read := (into.readFrom rawAdvert).getD (false, into)
      writePacket id read.2
      if !read.1 ∨ read.2.getPayloadType ≠ payloadTypeAdvert then dispatcherReleasePacket id
      else meshSendZeroHop id 0) := by
    refine fun id => .of_shipped fun ctx w hpool _ => ?_
    -- The parser accepts the advert whatever the buffer held before.
    have hread' : (w.packetManager.packetBuf id).readFrom rawAdvert =
        some (true, f.onto (w.packetManager.packetBuf id)) :=
      (Packet.readFrom_eq_true hlen255).mpr ⟨f, hf, hpay, rfl⟩
    exact (sendPeerAdvert_shipped hpool hread' htype f.body.length_payload).queued
  have hfills : Fills (fun _ => True) dispatcherObtainNewPacket := ⟨fun _ _ _ _ => trivial⟩
  exact withRequestPacket_concludes (P := fun _ => True) .nodePeerAdvert _ _ inferInstance
    (.inl not_never)

theorem length_textPlain (timestamp : UInt32) (attempt : UInt8) (text : List UInt8) :
    (textPlain timestamp attempt text).length = 5 + text.length := by
  rw [textPlain, List.length_append, List.length_append, length_leBytes]
  show 4 + 1 + text.length = 5 + text.length
  omega

/-- The plaintext of an accepted text fits, with the whole attempt behind it. -/
theorem textPlain_fits {publicKey : Option (Buf publicKeySize)} {flood : Bool} {attempt : UInt8}
    {payload : Option (List UInt8)} {r : MessageSendToNode}
    (h : validateMessageSendToNode publicKey flood attempt payload = some r) (timestamp : UInt32) :
    meshDatagramPlaintextFits (textPlain timestamp r.attempt r.payload ++
      (if r.attempt > 3 then [0, r.attempt] else [])).length = true := by
  obtain ⟨-, -, -, -, -, hlen, hmark⟩ := of_validateMessageSendToNode h
  have hmax : maxMessageTxLen = 160 := rfl
  refine decide_eq_true ?_
  rw [List.length_append, length_textPlain]
  show _ ≤ 167
  split
  · rename_i hattempt
    have hshort : ¬r.payload.length > maxMessageTxLen - 2 := fun h => hmark ⟨hattempt, h⟩
    rw [List.length_cons, List.length_singleton]
    omega
  · rw [List.length_nil]
    omega

theorem executeMessageSendToNode_concludes {publicKey : Option (Buf publicKeySize)} {flood : Bool}
    {attempt : UInt8} {payload : Option (List UInt8)} {r : MessageSendToNode}
    (h : validateMessageSendToNode publicKey flood attempt payload = some r) :
    Concludes (Known fun H => r.flood = false ∧ Unusable r.publicKey H)
      (executeMessageSendToNode r) := by
  obtain ⟨-, -, -, -, -, -, hattempt⟩ := of_validateMessageSendToNode h
  have hgrowing : Growing fun H => r.flood = false ∧ Unusable r.publicKey H :=
    ⟨fun _ _ hsub ⟨hflood, hlost⟩ => ⟨hflood, Growing.mono hsub hlost⟩⟩
  have hsends : ∀ id, Sends (Loaded payloadTypeTxtMsg)
      (fun H => r.flood = false ∧ Unusable r.publicKey H) id
      (if r.flood then requestSendFlood id 0 else sendToPeer id r.publicKey 0) := by
    intro id
    cases r.flood with
    | true =>
      have h : Sends (Loaded payloadTypeTxtMsg) Never id (requestSendFlood id 0) := inferInstance
      exact h.congr fun H => by simp
    | false =>
      have h : Sends (Loaded payloadTypeTxtMsg) (Unusable r.publicKey) id
        (sendToPeer id r.publicKey 0) := inferInstance
      exact h.congr fun H => by simp
  have hsend : ∀ (ack timestamp : UInt32) (secret : Buf publicKeySize),
      Concludes (fun H => r.flood = false ∧ Unusable r.publicKey H)
        (withRequestPacket .messageSendToNode
          (meshCreateDatagram payloadTypeTxtMsg r.publicKey secret
            (textPlain timestamp r.attempt r.payload ++
              (if r.attempt > 3 then [0, r.attempt] else []))) fun id => do
          expectedAckRegister ack (keyPrefixOf r.publicKey) r.attempt
          if r.flood then requestSendFlood id 0 else sendToPeer id r.publicKey 0) := by
    intro ack timestamp secret
    have hmakes := meshCreateDatagram_succeeds r.publicKey secret (.inl rfl)
      (textPlain_fits h timestamp)
    exact withRequestPacket_concludes (P := Loaded payloadTypeTxtMsg) .messageSendToNode _ _
      hgrowing (.inr hmakes)
  rw [executeMessageSendToNode, if_neg hattempt]
  exact withLocalIdentity_concludes (L := fun H => r.flood = false ∧ Unusable r.publicKey H)
    .messageSendToNode _

theorem executeNodeDiscoverPath_concludes (publicKey : Buf publicKeySize) (tag : UInt32) :
    Concludes Never (executeNodeDiscoverPath publicKey tag) := by
  have hsend : ∀ (tag : UInt32) (secret : Buf publicKeySize) (data : List UInt8),
      Concludes Never (withRequestPacket .nodeDiscoverPath
        (meshCreateDatagram payloadTypeReq publicKey secret data) fun id => do
          pendingDiscoveryRegister tag publicKey
          requestSendFlood id 0) := fun tag secret data =>
    withRequestPacket_concludes (P := Loaded payloadTypeReq) .nodeDiscoverPath _ _ inferInstance
      (.inl not_never)
  exact (withLocalIdentity_concludes (L := Never) .nodeDiscoverPath _).congr known_never

theorem length_traceHashes_le {r : NodeTracePath} (h : r.path.length ≤ 64) :
    (traceHashes r).length ≤ 64 := by
  rw [traceHashes]
  split
  · have hall : ∀ n, ((List.range n).flatMap fun hop =>
        (r.path.drop (hop * 3)).take 2).length ≤ n * 2 := by
      intro n
      induction n with
      | zero => rfl
      | succ n ih =>
        have hlen : ((r.path.drop (n * 3)).take 2).length ≤ 2 := List.length_take_le ..
        rw [List.range_succ, List.flatMap_append, List.length_append, List.flatMap_singleton]
        omega
    exact (hall _).trans (by omega)
  · exact h

theorem executeNodeTracePath_concludes {path : Option (List UInt8)} {pathLen pathHashSize : UInt8}
    {r : NodeTracePath} (h : validateNodeTrace path pathLen pathHashSize = some r) (tag : UInt32) :
    Concludes Never (executeNodeTracePath r tag) := by
  have hlen := length_traceHashes_le (of_validateNodeTrace h)
  have hof : (UInt8.ofNat (traceHashes r).length).toNat = (traceHashes r).length := by
    rw [UInt8.toNat_ofNat', Nat.mod_eq_of_lt (by omega)]
  have hsend : ∀ (tag : UInt32) (millis : ℕ) (flags : UInt8),
      Concludes Never (withRequestPacket .nodeTracePath
        (meshCreateTrace tag (UInt32.ofNat (millis % 2 ^ 24)) flags) fun id => do
          pendingTraceRegister tag
          meshSendDirect id (traceHashes r) (UInt8.ofNat (traceHashes r).length) 0) := by
    intro tag millis flags
    have hdirect : ∀ id,
        Sends (Load payloadTypeTrace (traceHead tag (UInt32.ofNat (millis % 2 ^ 24)) flags)) Never
          id (meshSendDirect id (traceHashes r) (UInt8.ofNat (traceHashes r).length) 0) :=
      fun id => .of_shipped fun _ w hpool hload =>
        (meshSendDirect_trace _ 0 hpool hload (by
          rw [List.length_append, length_traceHead, hof, List.take_length]
          show 9 + _ ≤ 184
          omega) hof.le).queued
    exact withRequestPacket_concludes
      (P := Load payloadTypeTrace (traceHead tag (UInt32.ofNat (millis % 2 ^ 24)) flags))
      .nodeTracePath _ _ inferInstance (.inl not_never)
  have hfits : ¬((traceHashes r).length > packetPayloadMaxLen - 9 ∨
      (traceHashes r).length > maxPathLen) := by
    show ¬(_ > 175 ∨ _ > 64)
    omega
  rw [executeNodeTracePath, if_neg hfits]
  infer_instance

/-- A request that is sent to a peer as a datagram. -/
theorem datagram_concludes {made : UInt8} (type : RequestType) (publicKey : Buf publicKeySize)
    (secret : Buf publicKeySize) {data : List UInt8} {α : Type} (register : M α)
    [Moves Notes register] [Floodable made] (delayMillis : UInt32)
    (hmade : made = payloadTypeTxtMsg ∨ made = payloadTypeReq ∨ made = payloadTypeResponse)
    (hfits : meshDatagramPlaintextFits data.length = true) :
    Concludes (Unusable publicKey)
      (withRequestPacket type (meshCreateDatagram made publicKey secret data) fun id => do
        let _ ← register
        sendToPeer id publicKey delayMillis) :=
  withRequestPacket_concludes (P := Loaded made) type _ _ inferInstance
    (.inr (meshCreateDatagram_succeeds publicKey secret hmade hfits))

instance (tag : UInt32) (mask : UInt8) :
    Returns (fun data => meshDatagramPlaintextFits data.length = true)
      (telemetryReqData tag mask) where
  returns ctx w := by
    simp only [telemetryReqData, Prog.run_bind, Prog.run_pure, List.length_append, length_leBytes,
      Buf.length_bytes]
    rfl

theorem executeNodeTelemetry_concludes (r : NodeTelemetry) (tag : UInt32) :
    Concludes (Known (Unusable r.publicKey)) (executeNodeTelemetry r tag) := by
  have hsend : ∀ (tag : UInt32) (data : List UInt8), meshDatagramPlaintextFits data.length = true →
      Concludes (Unusable r.publicKey) (do
        let secret ← selfSharedSecret r.publicKey
        withRequestPacket .nodeTelemetry
          (meshCreateDatagram payloadTypeReq r.publicKey secret data) fun id => do
            pendingTelemetryRegister tag r.publicKey r.permissionMask
            sendToPeer id r.publicKey 0) := by
    intro tag data hfits
    have hmade : ∀ secret, Concludes (Unusable r.publicKey) (withRequestPacket .nodeTelemetry
        (meshCreateDatagram payloadTypeReq r.publicKey secret data) fun id => do
          pendingTelemetryRegister tag r.publicKey r.permissionMask
          sendToPeer id r.publicKey 0) := fun secret =>
      datagram_concludes .nodeTelemetry r.publicKey secret _ 0 (.inr (.inl rfl)) hfits
    infer_instance
  have hdata := fun tag => Concludes.bind_of_returns (m := telemetryReqData tag r.permissionMask)
    (hsend tag)
  exact withLocalIdentity_concludes (L := Unusable r.publicKey) .nodeTelemetry _

theorem executeNodeBinary_concludes {publicKey : Option (Buf publicKeySize)}
    {payload : Option (List UInt8)} {r : NodePayload}
    (h : validateNodeBinary publicKey payload = some r) (tag : UInt32) :
    Concludes (Known (Unusable r.publicKey)) (executeNodeBinary r tag) := by
  obtain ⟨-, -, -, -, hfits⟩ := of_validateNodeBinary h
  have hsend : ∀ (tag : UInt32) (secret : Buf publicKeySize),
      Concludes (Unusable r.publicKey) (withRequestPacket .nodeBinary
        (meshCreateDatagram payloadTypeReq r.publicKey secret (leBytes 4 tag.toNat ++ r.payload))
        fun id => do
          pendingBinaryRegister tag r.publicKey
          sendToPeer id r.publicKey 0) := fun tag secret =>
    datagram_concludes .nodeBinary r.publicKey secret _ 0 (.inr (.inl rfl))
      (by rwa [List.length_append, length_leBytes])
  exact withLocalIdentity_concludes (L := Unusable r.publicKey) .nodeBinary _

theorem executeNodeAnonData_concludes {publicKey : Option (Buf publicKeySize)}
    {payload : Option (List UInt8)} {r : NodePayload}
    (h : validateNodeAnonData publicKey payload = some r) :
    Concludes (Known (Unusable r.publicKey)) (executeNodeAnonData r) := by
  obtain ⟨-, -, hfits⟩ := of_validateNodeAnonData h
  have hsend : ∀ (sender : LocalIdentity) (secret : Buf publicKeySize),
      Concludes (Unusable r.publicKey) (withRequestPacket .nodeAnonData
        (meshCreateAnonDatagram payloadTypeAnonReq sender r.publicKey secret r.payload)
        fun id => sendToPeer id r.publicKey 0) := fun sender secret =>
    withRequestPacket_concludes (P := Loaded payloadTypeAnonReq) .nodeAnonData _ _ inferInstance
      (.inr (meshCreateAnonDatagram_succeeds sender r.publicKey secret hfits))
  exact withLocalIdentity_concludes (L := Unusable r.publicKey) .nodeAnonData _

theorem executeNodeBinaryResponse_concludes {request : Option BinaryRequestEvent}
    {payload : Option (List UInt8)} {r : NodeBinaryResponse}
    (h : validateNodeBinaryResponse request payload = some r) :
    Concludes (Known fun H => r.request.route ≠ .flood ∧ Unusable r.request.publicKey H)
      (executeNodeBinaryResponse r) := by
  obtain ⟨-, -, -, hfits, -, -⟩ := of_validateNodeBinaryResponse h
  have hgrowing : Growing fun H => r.request.route ≠ .flood ∧ Unusable r.request.publicKey H :=
    ⟨fun _ _ hsub ⟨hroute, hlost⟩ => ⟨hroute, Growing.mono hsub hlost⟩⟩
  have hsend : ∀ secret : Buf publicKeySize,
      Concludes (fun H => r.request.route ≠ .flood ∧ Unusable r.request.publicKey H)
        (if r.request.route = .flood then
          withRequestPacket .nodeBinaryResponse
            (meshCreatePathReturnByIdentity r.request.publicKey secret r.request.path.bytes
              r.request.pathLen payloadTypeResponse (leBytes 4 r.request.tag.toNat ++ r.payload))
            fun id => requestSendFlood id runtimeServerResponseDelayMs
        else
          withRequestPacket .nodeBinaryResponse
            (meshCreateDatagram payloadTypeResponse r.request.publicKey secret
              (leBytes 4 r.request.tag.toNat ++ r.payload))
            fun id => sendToPeer id r.request.publicKey runtimeServerResponseDelayMs) := by
    intro secret
    split
    · rename_i hroute
      refine (withRequestPacket_concludes (P := Loaded payloadTypePath) (L := Never)
        .nodeBinaryResponse _ _ inferInstance (.inl not_never)).congr fun H => ?_
      simp [hroute]
    · rename_i hroute
      refine (withRequestPacket_concludes (P := Loaded payloadTypeResponse)
        (L := Unusable r.request.publicKey) .nodeBinaryResponse _ _ inferInstance
        (.inr (meshCreateDatagram_succeeds r.request.publicKey secret (.inr (.inr rfl)) ?_))).congr
        fun H => ?_
      · rwa [List.length_append, length_leBytes]
      · simp [hroute]
  exact withLocalIdentity_concludes
    (L := fun H => r.request.route ≠ .flood ∧ Unusable r.request.publicKey H)
    .nodeBinaryResponse _

theorem executeNodeDiscover_concludes (filter : UInt8) (prefixOnly : Bool) (since tag : UInt32) :
    Concludes Never (executeNodeDiscover filter prefixOnly since tag) :=
  withRequestPacket_concludes (P := Loaded payloadTypeControl) .nodeDiscover _ _ inferInstance
    (.inl not_never)

theorem executeControlData_concludes (payload : List UInt8) :
    Concludes Never (executeControlData payload) :=
  withRequestPacket_concludes (P := Loaded payloadTypeControl) .controlData _ _ inferInstance
    (.inl not_never)

theorem executeRawData_concludes {path : Option (List UInt8)} {pathLen : UInt8}
    {payload : Option (List UInt8)} {r : RawData}
    (h : validateRawData path pathLen payload = some r) : Concludes Never (executeRawData r) := by
  have hsends : ∀ id, Sends (Loaded payloadTypeRawCustom) Never id
      (meshSendDirect id r.path.bytes r.pathLen 0) := fun id =>
    meshSendDirect_sends _ 0 (by decide) (of_validateRawData h)
  exact withRequestPacket_concludes (P := Loaded payloadTypeRawCustom) .rawData _ _ inferInstance
    (.inl not_never)

/-- The host knows no channel with the secret. -/
def ChannelUnknown (secret : List UInt8) (H : Set Hooks) : Prop :=
  (∃ h ∈ H, h.channelSecretHash secret = none) ∨
    ∃ h ∈ H, ∃ h' ∈ H, ∃ hash, h.channelSecretHash secret = some hash ∧
      h'.channelSecretMatchExists hash secret ≤ 0

instance (secret : List UInt8) : Growing (ChannelUnknown secret) where
  mono _ _ hsub := by
    rintro (⟨h, hmem, hnone⟩ | ⟨h, hmem, h', hmem', hash, hhash, hno⟩)
    · exact .inl ⟨h, hsub hmem, hnone⟩
    · exact .inr ⟨h, hsub hmem, h', hsub hmem', hash, hhash, hno⟩

/-- A request for a channel: dropped when the host knows none. -/
theorem channelOfSecret_concludes (secret : List UInt8) {p : Prop} (f : GroupChannel → M Unit)
    [hf : ∀ c, Concludes (fun _ => p) (f c)] :
    Concludes (fun H => ChannelUnknown secret H ∨ p)
      (channelOfSecret secret >>= fun channel => channel.elim (pure ()) f) where
  concludes ctx w hroom := by
    let h₀ := ctx.hooks w.tick
    let h₁ := ctx.hooks (w.tick + 1)
    let w₁ : World := { w with tick := w.tick + 1 }
    let w₂ : World := { w with tick := w.tick + 2 }
    cases hhash : h₀.channelSecretHash secret with
    | none =>
      have hrun : (channelOfSecret secret >>= fun channel => channel.elim (pure ()) f) ctx w
          = ((), w₁) := by
        simp [channelOfSecret, hook, h₀, hhash, w₁]
      have hmem : h₀ ∈ answers ctx w w₁ := mem_answers le_rfl (Nat.lt_succ_self _)
      rw [hrun]
      exact ⟨Nat.le_succ _, .lost rfl rfl (.inl (.inl ⟨h₀, hmem, hhash⟩))⟩
    | some hash =>
      have hmem : ∀ w', w₂.tick ≤ w'.tick → h₀ ∈ answers ctx w w' ∧ h₁ ∈ answers ctx w w' :=
        fun w' hle =>
          ⟨mem_answers le_rfl (Nat.lt_of_lt_of_le (Nat.lt_add_of_pos_right two_pos) hle),
          mem_answers (Nat.le_succ _) (Nat.lt_of_succ_le hle)⟩
      by_cases hfound : h₁.channelSecretMatchExists hash secret ≤ 0
      · have hrun : (channelOfSecret secret >>= fun channel => channel.elim (pure ()) f) ctx w
            = ((), w₂) := by
          simp [channelOfSecret, hook, h₀, h₁, hhash, hfound, w₂]
        obtain ⟨hmem₀, hmem₁⟩ := hmem w₂ le_rfl
        rw [hrun]
        exact ⟨Nat.le_add_right _ _,
          .lost rfl rfl (.inl (.inr ⟨h₀, hmem₀, h₁, hmem₁, hash, hhash, hfound⟩))⟩
      · have hrun : (channelOfSecret secret >>= fun channel => channel.elim (pure ()) f) ctx w
            = f { hash := hash, secret := (Buf.zero _).store 0 secret } ctx w₂ := by
          simp [channelOfSecret, hook, h₀, h₁, hhash, hfound, w₂]
        have hidle : Idle ctx w w₂ := ⟨rfl, Nat.le_add_right _ _⟩
        rw [hrun]
        have hout := (hf { hash := hash, secret := (Buf.zero _).store 0 secret }).concludes ctx w₂
          (hidle.hasRoom hroom)
        obtain ⟨hmem₀, hmem₁⟩ := hmem _ hout.later
        refine (hout.after (fun _ _ _ h => h) hidle).imp .inr fun h hsub => ?_
        -- The host that always answers the same knows the channel.
        have heq₀ : h₀ = h := hsub hmem₀
        have heq₁ : h₁ = h := hsub hmem₁
        rintro ((⟨_, rfl, hnone⟩ | ⟨_, rfl, _, rfl, hash', hhash', hno⟩) | hp)
        · rw [← heq₀, hhash] at hnone
          cases hnone
        · rw [← heq₀, hhash] at hhash'
          obtain rfl := Option.some.inj hhash'
          rw [← heq₁] at hno
          exact absurd hno hfound
        · exact hp

theorem executeChannelData_concludes {secret path : Option (List UInt8)} {pathLen : UInt8}
    {dataType : UInt16} {payload : Option (List UInt8)} {r : ChannelData}
    (h : validateChannelData secret path pathLen dataType payload = some r) :
    Concludes (ChannelUnknown r.secret) (executeChannelData r) := by
  obtain ⟨-, hpath⟩ := of_validateChannelData h
  have hsends : ∀ id, Sends (Loaded payloadTypeGrpData) Never id
      (if r.pathLen = outPathUnknown then requestSendFlood id 0
      else meshSendDirect id r.path.bytes r.pathLen 0) := by
    intro id
    split
    · infer_instance
    · rename_i hknown
      exact meshSendDirect_sends _ 0 (by decide) (hpath.resolve_left hknown)
  have hsend : ∀ channel, Concludes Never (withRequestPacket .channelData
      (meshCreateGroupDatagram payloadTypeGrpData channel
        (leBytes 2 r.dataType.toNat ++ [UInt8.ofNat r.payload.length] ++ r.payload)) fun id =>
      if r.pathLen = outPathUnknown then requestSendFlood id 0
      else meshSendDirect id r.path.bytes r.pathLen 0) := fun channel =>
    withRequestPacket_concludes (P := Loaded payloadTypeGrpData) .channelData _ _ inferInstance
      (.inl not_never)
  refine (channelOfSecret_concludes r.secret (p := False) _).congr fun H => ?_
  rw [or_false]

/-- What stands before the text of a channel message: the name of this node. -/
def Hooks.namePrefix (h : Hooks) : List UInt8 :=
  printString (nodeNameMaxLen + 3)
    (cString h.nodeIdentity.2.name.bytes ++ [charColon, charSpace])

/-- With the name of this node the text is too long. -/
def Hooks.TextTooLong (h : Hooks) (payload : List UInt8) : Prop :=
  h.namePrefix.length ≥ maxMessageTxLen ∨
    payload.length + h.namePrefix.length > maxMessageTxLen

theorem executeMessageSendToChannel_concludes (r : MessageSendToChannel) :
    Concludes (fun H => ∃ h ∈ H, h.nodeIdentity.1 = 0 ∧
        (ChannelUnknown r.secret H ∨ h.TextTooLong r.payload))
      (executeMessageSendToChannel r) where
  concludes ctx w hroom := by
    let h₀ := ctx.hooks w.tick
    let w₁ : World := { w with tick := w.tick + 1 }
    have hidle : Idle ctx w w₁ := ⟨rfl, Nat.le_succ _⟩
    by_cases hknown : h₀.nodeIdentity.1 = 0
    · let send : GroupChannel → M Unit := fun channel => do
        let timestamp ← clockRtcGetCurrentTime
        if h₀.namePrefix.length ≥ maxMessageTxLen ∨
          r.payload.length + h₀.namePrefix.length > maxMessageTxLen
        then pure ()
        else
          withRequestPacket .messageSendToChannel
            (meshCreateGroupDatagram payloadTypeGrpTxt channel
              (leBytes 4 timestamp.toNat ++ [0] ++ h₀.namePrefix ++ r.payload))
            fun id => requestSendFlood id 0
      have hrun : executeMessageSendToChannel r ctx w =
          (channelOfSecret r.secret >>= fun channel => channel.elim (pure ()) send) ctx w₁ := by
        simp only [executeMessageSendToChannel, localIdentityGet, hook, Prog.run_bind,
          Prog.run_pure, h₀, hknown, if_true, Option.elim_some]
        rfl
      have hsend : ∀ channel, Concludes (fun _ => h₀.TextTooLong r.payload) (send channel) := by
        intro channel
        have hgrowing : Growing fun _ => h₀.TextTooLong r.payload := ⟨fun _ _ _ h => h⟩
        have hbody : ∀ timestamp : UInt32, Concludes (fun _ => h₀.TextTooLong r.payload)
            (if h₀.namePrefix.length ≥ maxMessageTxLen ∨
              r.payload.length + h₀.namePrefix.length > maxMessageTxLen
            then pure ()
            else
              withRequestPacket .messageSendToChannel
                (meshCreateGroupDatagram payloadTypeGrpTxt channel
                  (leBytes 4 timestamp.toNat ++ [0] ++ h₀.namePrefix ++ r.payload))
                fun id => requestSendFlood id 0) := by
          intro timestamp
          split
          · rename_i hlong
            exact .drop hlong
          · rename_i hshort
            exact (withRequestPacket_concludes (P := Loaded payloadTypeGrpTxt) (L := Never)
              .messageSendToChannel _ _ inferInstance (.inl not_never)).congr
              fun _ => ⟨False.elim, hshort⟩
        infer_instance
      rw [hrun]
      have hinner :=
        (channelOfSecret_concludes (p := h₀.TextTooLong r.payload) r.secret send).concludes
        ctx w₁ (hidle.hasRoom hroom)
      have hmem : h₀ ∈ answers ctx w
          ((channelOfSecret r.secret >>= fun channel => channel.elim (pure ()) send) ctx w₁).2 :=
        mem_answers le_rfl (Nat.lt_of_succ_le hinner.later)
      have hgrowing : Growing fun H => ChannelUnknown r.secret H ∨ h₀.TextTooLong r.payload :=
        ⟨fun _ _ hsub => Or.imp_left (Growing.mono hsub)⟩
      refine (hinner.after hgrowing.mono hidle).imp (fun hlost => ⟨h₀, hmem, hknown, hlost⟩) ?_
      rintro h hsub ⟨_, rfl, -, hlost⟩
      have heq : h₀ = _ := hsub hmem
      rw [heq]
      exact hlost
    · have hrun : executeMessageSendToChannel r ctx w =
          ((), { w₁ with events := w.events ++ [.requestError .messageSendToChannel eAGAIN] }) := by
        simp only [executeMessageSendToChannel, localIdentityGet, hook, Prog.run_bind,
          Prog.run_pure, h₀, hknown, if_false, Option.elim_none]
        exact requestLogTransientFailure_run _ (.inr rfl) ctx w₁
      rw [hrun]
      refine ⟨Nat.le_succ _, .reported rfl rfl _ _ rfl ?_⟩
      rintro h - hsub ⟨_, rfl, hzero, -⟩
      have hmem : h₀ ∈ answers ctx w w₁ := mem_answers le_rfl (Nat.lt_succ_self _)
      exact hknown (hsub hmem ▸ hzero)

/-- This node has an identity and a profile, but no role that is advertised. -/
def RoleUnadvertised (H : Set Hooks) : Prop :=
  (∃ h ∈ H, h.nodeIdentity.1 = 0 ∧ roleToAdvertType h.nodeIdentity.2.role = advTypeNone) ∧
    ∃ h ∈ H, h.nodeAdvertProfile.isSome

/-- What an advert needs is there when three answers of the host are. -/
theorem advertSource_cases (ctx : Ctx) (w : World) :
    let h₁ := ctx.hooks (w.tick + 1)
    (∃ profile, (advertSource ctx w).1 = some (h₁.nodeIdentity.2, profile) ∧
      h₁.nodeIdentity.1 = 0 ∧ (ctx.hooks (w.tick + 2)).nodeAdvertProfile = some profile ∧
      (advertSource ctx w).2.tick = w.tick + 3) ∨
    (advertSource ctx w).1 = none ∧
      ∃ h ∈ answers ctx w (advertSource ctx w).2,
        h.nodeIdentity.1 ≠ 0 ∨ h.nodeAdvertProfile = none := by
  intro h₁
  by_cases hrc : (ctx.hooks w.tick).nodeIdentity.1 = 0
  · let w₂ : World :=
      { w with
        selfId := ⟨(ctx.hooks w.tick).nodeIdentity.2.publicKey,
          (ctx.hooks w.tick).nodeIdentity.2.privateKey⟩
        tick := w.tick + 2 }
    by_cases hknown : (ctx.hooks (w.tick + 1)).nodeIdentity.1 = 0
    · have hrun : advertSource ctx w = ((ctx.hooks (w.tick + 2)).nodeAdvertProfile.map
          (h₁.nodeIdentity.2, ·), { w₂ with tick := w.tick + 3 }) := by
        rw [advertSource, Prog.run_bind_of (syncLocalIdentity_run hrc), if_neg (not_not.mpr rfl)]
        simp only [localIdentityGet, hook, Prog.run_bind, Prog.run_pure, hknown, if_true,
          Option.elim_some]
        rfl
      rw [hrun]
      cases hprofile : (ctx.hooks (w.tick + 2)).nodeAdvertProfile with
      | some profile => exact .inl ⟨profile, rfl, hknown, rfl, rfl⟩
      | none =>
        exact .inr ⟨rfl, _, mem_answers (Nat.le_add_right _ 2) (Nat.lt_succ_self _), .inr hprofile⟩
    · have hrun : advertSource ctx w = (none, w₂) := by
        rw [advertSource, Prog.run_bind_of (syncLocalIdentity_run hrc), if_neg (not_not.mpr rfl)]
        simp only [localIdentityGet, hook, Prog.run_bind, Prog.run_pure, hknown, if_false,
          Option.elim_none]
        rfl
      rw [hrun]
      exact .inr ⟨rfl, _, mem_answers (Nat.le_add_right _ 1) (Nat.lt_succ_self _), .inl hknown⟩
  · have hrun : advertSource ctx w = (none, { w with tick := w.tick + 1 }) := by
      simp [advertSource, syncLocalIdentity, hook, hrc]
    rw [hrun]
    exact .inr ⟨rfl, _, mem_answers le_rfl (Nat.lt_succ_self _), .inl hrc⟩

theorem executeNodeAdvert_concludes (flood : Bool) :
    Concludes RoleUnadvertised (executeNodeAdvert flood) where
  concludes ctx w hroom := by
    have hidle : Idle ctx w (advertSource ctx w).2 := Moves.moves ctx w
    rw [executeNodeAdvert, Prog.run_bind]
    rcases advertSource_cases ctx w
      with ⟨profile, hsource, hknown, hprofile, htick⟩ | ⟨hsource, h', hmem, hno⟩
    · have hmem : ∀ w' : World, (advertSource ctx w).2.tick ≤ w'.tick → ∀ i < 3,
          ctx.hooks (w.tick + i) ∈ answers ctx w w' := by
        intro w' hle i hi
        exact mem_answers (Nat.le_add_right _ _) (by omega)
      rw [hsource, Option.elim_some]
      generalize (advertSource ctx w).2 = w₁ at hidle htick hmem
      by_cases hrole : roleToAdvertType (ctx.hooks (w.tick + 1)).nodeIdentity.2.role = advTypeNone
      · dsimp only
        rw [if_pos hrole]
        have hlost : RoleUnadvertised (answers ctx w w₁) :=
          ⟨⟨_, hmem w₁ le_rfl 1 (by decide), hknown, hrole⟩, _, hmem w₁ le_rfl 2 (by decide), by
            rw [hprofile]; rfl⟩
        exact .drop hidle hlost
      · dsimp only
        rw [if_neg hrole]
        have hsend : ∀ selfId : LocalIdentity, Concludes Never (withRequestPacket .nodeAdvert
            (meshCreateAdvert selfId (advertAppData
              (roleToAdvertType (ctx.hooks (w.tick + 1)).nodeIdentity.2.role)
              (ctx.hooks (w.tick + 1)).nodeIdentity.2 profile)) fun id =>
              if flood then requestSendFlood id 0 else meshSendZeroHop id 0) := by
          intro selfId
          have hsends : ∀ id, Sends (Loaded payloadTypeAdvert) Never id
              (if flood then requestSendFlood id 0 else meshSendZeroHop id 0) := by
            intro id
            split <;> infer_instance
          exact withRequestPacket_concludes (P := Loaded payloadTypeAdvert) .nodeAdvert _ _
            inferInstance (.inl not_never)
        have hinner := (hsend w₁.selfId).concludes ctx w₁ (hidle.hasRoom hroom)
        refine (hinner.after (fun _ _ _ h => h) hidle).imp False.elim ?_
        rintro h hsub ⟨⟨_, rfl, -, hnone⟩, -⟩
        have heq : ctx.hooks (w.tick + 1) = _ := hsub (hmem _ hinner.later 1 (by decide))
        exact hrole (heq ▸ hnone)
    · have hunknown : ∀ h, answers ctx w (advertSource ctx w).2 ⊆ {h} → ¬RoleUnadvertised {h} := by
        rintro h hsub ⟨⟨_, rfl, hzero, -⟩, _, rfl, hsome⟩
        obtain rfl : h' = _ := hsub hmem
        rcases hno with hne | hnone
        · exact hne hzero
        · rw [hnone] at hsome
          cases hsome
      rw [hsource, Option.elim_none]
      exact .report hidle .nodeAdvert (.inr rfl) hunknown

/-! ### The calls -/

/-- Among the answers that the host gave during the call are some that make the request get lost. -/
def Op.LostBy : Op → Set Hooks → Prop
  | .nodeAdvertRequest _, H => RoleUnadvertised H
  | .messageSendToNode (some publicKey) flood _ _, H =>
    Known (fun H => flood = false ∧ Unusable publicKey H) H
  | .messageSendToChannel (some secret) (some payload), H =>
    ∃ h ∈ H, h.nodeIdentity.1 = 0 ∧ (ChannelUnknown secret H ∨ h.TextTooLong payload)
  | .channelDataSend (some secret) _ _ _ _, H => ChannelUnknown secret H
  | .nodeTelemetryRequest (some publicKey) _ _, H
  | .nodeBinaryRequestWithTag (some publicKey) _ _, H
  | .nodeAnonDataSend (some publicKey) _, H => Known (Unusable publicKey) H
  | .nodeBinaryResponse (some event) _, H =>
    Known (fun H => event.route ≠ .flood ∧ Unusable event.publicKey H) H
  | _, _ => False

/-- One packet was queued, and a slot of the request correlation was taken for it at most; or
nothing was done and the failure was reported. -/
def Op.Kept (op : Op) (w w' : World) : Prop :=
  (Queued w w' ∧ (w'.correlation.slot = w.correlation.slot ∨ ∃ s r, op.Registers s r ∧
    w'.correlation.slot = Function.update w.correlation.slot s (some r))) ∨
  w'.packetManager.sendQueue = w.packetManager.sendQueue ∧ w'.correlation = w.correlation ∧
    ∃ es type code, w'.events = w.events ++ es ∧ Event.requestError type code ∈ es

section

variable {ctx : Ctx} {w : World} {α : Type} {record : Option α}

theorem requestExecuteNow_of_zero {execute : M Unit}
    (h : (requestExecuteNow execute ctx w).1 = 0) :
    w.initialized = true ∧ 0 < w.packetManager.getFreeCount ∧
      (requestExecuteNow execute ctx w).2 = (timerSyncNow ctx (execute ctx w).2).2 := by
  revert h
  simp only [requestExecuteNow, whenReady, Prog.run_bind, Prog.run_gets, Prog.run_ite,
    Prog.run_pure]
  split
  · exact fun h => absurd h (show eNODEV ≠ 0 by decide)
  split
  · exact fun h => absurd h (show eNOBUFS ≠ 0 by decide)
  · rename_i hinit hfree
    exact fun _ => ⟨by simpa using hinit, not_le.mp hfree, rfl⟩

/-- An accepted request was executed, and then the timer was synchronised. -/
theorem request_executed {execute : α → M Unit}
    (h : (request record (fun r => requestExecuteNow (execute r)) ctx w).1 = 0) :
    ∃ r, record = some r ∧ w.initialized = true ∧ 0 < w.packetManager.getFreeCount ∧
      (request record (fun r => requestExecuteNow (execute r)) ctx w).2
        = (timerSyncNow ctx (execute r ctx w).2).2 := by
  revert h
  simp only [request, whenReady, Prog.run_bind, Prog.run_gets, Prog.run_ite, Prog.run_pure]
  split
  · exact fun h => absurd h (show eNODEV ≠ 0 by decide)
  · cases record with
    | none => exact fun h => absurd h (show eINVAL ≠ 0 by decide)
    | some r => exact fun h => ⟨r, rfl, requestExecuteNow_of_zero h⟩

/-- The same for a request that draws a tag first. -/
theorem requestWithTag_executed {requestTag : Option UInt32} {execute : α → UInt32 → M Unit}
    (h : (requestWithTag record requestTag execute ctx w).1.1 = 0) :
    ∃ r tag w', record = some r ∧ Idle ctx w w' ∧ w'.initialized = true ∧
      0 < w'.packetManager.getFreeCount ∧
      (requestWithTag record requestTag execute ctx w).2
        = (timerSyncNow ctx (execute r tag ctx w').2).2 := by
  revert h
  simp only [requestWithTag, Prog.run_bind, Prog.run_gets, Prog.run_ite, Prog.run_pure]
  split
  · exact fun h => absurd h (show eNODEV ≠ 0 by decide)
  · cases record with
    | none => exact fun h => absurd h (show eINVAL ≠ 0 by decide)
    | some r =>
      simp only [Option.elim_some, Prog.run_bind, Prog.run_pure]
      exact fun h => ⟨r, _, _, rfl, Moves.moves ctx w, requestExecuteNow_of_zero h⟩

theorem request_concludes {L : Set Hooks → Prop} {execute : α → M Unit} (hw : Reachable ctx w)
    (h : (request record (fun r => requestExecuteNow (execute r)) ctx w).1 = 0)
    (hc : ∀ r, record = some r → Concludes L (execute r)) :
    ∃ w', Outcome L ctx w w' ∧
      (request record (fun r => requestExecuteNow (execute r)) ctx w).2
        = (timerSyncNow ctx w').2 := by
  obtain ⟨r, hr, hinit, hfree, hrun⟩ := request_executed h
  exact ⟨_, (hc r hr).concludes ctx w ⟨hw.poolIntact hinit, hfree⟩, hrun⟩

theorem requestWithTag_concludes {L : Set Hooks → Prop} {requestTag : Option UInt32}
    {execute : α → UInt32 → M Unit} (hw : Reachable ctx w) (hL : Monotone L)
    (h : (requestWithTag record requestTag execute ctx w).1.1 = 0)
    (hc : ∀ r tag, record = some r → Concludes L (execute r tag)) :
    ∃ w', Outcome L ctx w w' ∧
      (requestWithTag record requestTag execute ctx w).2 = (timerSyncNow ctx w').2 := by
  obtain ⟨r, tag, w', hr, hidle, hinit, hfree, hrun⟩ := requestWithTag_executed h
  have hroom : w.HasRoom ctx := by
    rw [hidle.1] at hinit hfree
    exact ⟨hw.poolIntact hinit, hfree⟩
  exact ⟨_, .after hL hidle ((hc r tag hr).concludes ctx w' (hidle.hasRoom hroom)), hrun⟩

end

instance : Growing RoleUnadvertised where
  mono _ _ hsub := by
    rintro ⟨⟨h, hmem, hrole⟩, h', hmem', hprofile⟩
    exact ⟨⟨h, hsub hmem, hrole⟩, h', hsub hmem', hprofile⟩

instance (p : Prop) (L : Set Hooks → Prop) [hL : Growing L] : Growing fun H => p ∧ L H :=
  ⟨fun _ _ hsub => And.imp_right (hL.mono hsub)⟩

theorem Op.lostBy_mono (op : Op) : Monotone op.LostBy := by
  intro H H' hsub
  cases op with
  | nodeAdvertRequest => exact Growing.mono (L := RoleUnadvertised) hsub
  | messageSendToNode publicKey flood =>
    cases publicKey with
    | none => exact id
    | some publicKey =>
      exact Growing.mono (L := Known fun H => flood = false ∧ Unusable publicKey H) hsub
  | messageSendToChannel secret payload =>
    cases secret with
    | none => exact id
    | some secret =>
      cases payload with
      | none => exact id
      | some payload =>
        rintro ⟨h, hmem, hknown, hlost⟩
        exact ⟨h, hsub hmem, hknown, hlost.imp_left (Growing.mono hsub)⟩
  | channelDataSend secret =>
    cases secret with
    | none => exact id
    | some secret => exact Growing.mono (L := ChannelUnknown secret) hsub
  | nodeTelemetryRequest publicKey | nodeBinaryRequestWithTag publicKey
  | nodeAnonDataSend publicKey =>
    cases publicKey with
    | none => exact id
    | some publicKey => exact Growing.mono (L := Known (Unusable publicKey)) hsub
  | nodeBinaryResponse event =>
    cases event with
    | none => exact id
    | some event =>
      exact Growing.mono
        (L := Known fun H => event.route ≠ .flood ∧ Unusable event.publicKey H) hsub
  | _ => exact id

/-- What becomes of an accepted request, before the timer is synchronised. -/
theorem Op.outcome {op : Op} (hop : op.isRequest = true) {ctx : Ctx} {w : World}
    (hw : Reachable ctx w) (h : (op.run ctx w).1 = 0) :
    ∃ w', Outcome op.LostBy ctx w w' ∧ op.next ctx w = (timerSyncNow ctx w').2 := by
  cases op with
  | init | deinit | timerFired | radioRxInject | radioTxDone => cases hop
  | nodeTracePathRequest => exact absurd h (show eNOTSUP ≠ 0 by decide)
  | nodeAdvertRequest flood =>
    exact request_concludes hw h fun r _ => executeNodeAdvert_concludes r
  | nodePeerAdvertRequest rawAdvert =>
    exact request_concludes hw h fun r hr => executeNodePeerAdvert_concludes hr
  | messageSendToNode publicKey flood attempt payload =>
    refine request_concludes hw h fun r hr => ?_
    obtain ⟨rfl, -, rfl, -⟩ := of_validateMessageSendToNode hr
    exact executeMessageSendToNode_concludes hr
  | messageSendToChannel secret payload =>
    refine request_concludes hw h fun r hr => ?_
    obtain ⟨rfl, rfl⟩ := of_validateMessageSendToChannel hr
    exact executeMessageSendToChannel_concludes r
  | channelDataSend secret path pathLen dataType payload =>
    refine request_concludes hw h fun r hr => ?_
    obtain ⟨rfl, -⟩ := of_validateChannelData hr
    exact executeChannelData_concludes hr
  | nodeDiscoverPathRequest publicKey requestTag =>
    exact requestWithTag_concludes hw (Op.lostBy_mono _) h fun r tag _ =>
      executeNodeDiscoverPath_concludes r tag
  | nodeTraceRequest path pathLen pathHashSize requestTag =>
    exact requestWithTag_concludes hw (Op.lostBy_mono _) h fun r tag hr =>
      executeNodeTracePath_concludes hr tag
  | nodeTelemetryRequest publicKey permissionMask requestTag =>
    refine requestWithTag_concludes hw (Op.lostBy_mono _) h fun r tag hr => ?_
    obtain ⟨rfl, -⟩ := of_validateNodeTelemetry hr
    exact executeNodeTelemetry_concludes r tag
  | nodeBinaryRequestWithTag publicKey payload tag =>
    refine request_concludes hw h fun r hr => ?_
    obtain ⟨rfl, -⟩ := of_validateNodeBinary hr
    exact executeNodeBinary_concludes hr tag
  | nodeAnonDataSend publicKey payload =>
    refine request_concludes hw h fun r hr => ?_
    obtain ⟨rfl, -⟩ := of_validateNodeAnonData hr
    exact executeNodeAnonData_concludes hr
  | nodeBinaryResponse event payload =>
    refine request_concludes hw h fun r hr => ?_
    obtain ⟨rfl, -⟩ := of_validateNodeBinaryResponse hr
    exact executeNodeBinaryResponse_concludes hr
  | nodeDiscoverRequest filter prefixOnly since requestTag =>
    exact requestWithTag_concludes hw (Op.lostBy_mono _) h fun r tag _ =>
      executeNodeDiscover_concludes r prefixOnly since tag
  | rawDataSend path pathLen payload =>
    exact request_concludes hw h fun r hr => executeRawData_concludes hr
  | controlDataSend payload =>
    exact request_concludes hw h fun r _ => executeControlData_concludes r

/-! ### The result -/

/-- The send queue stays, and no failure is reported. -/
def Unreported (_ : Ctx) (w w' : World) : Prop :=
  w'.packetManager.sendQueue = w.packetManager.sendQueue ∧
    ∃ es, w'.events = w.events ++ es ∧ ∀ type code, Event.requestError type code ∉ es

instance : Composes Unreported where
  refl _ _ := ⟨rfl, [], by simp, by simp⟩
  trans _ _ _ _ h h' := by
    obtain ⟨hq, es, hes, hall⟩ := h
    obtain ⟨hq', es', hes', hall'⟩ := h'
    refine ⟨hq'.trans hq, es ++ es', by rw [hes', hes, List.append_assoc], fun type code hmem => ?_⟩
    rcases List.mem_append.mp hmem with hmem | hmem
    · exact hall type code hmem
    · exact hall' type code hmem

instance (priority := low) Moves.unreportedOfAsks {α : Type} (m : M α) [hm : Moves Asks m] :
    Moves Unreported m where
  moves ctx w := by
    rw [(hm.moves ctx w).1]
    exact ⟨rfl, [], by simp, by simp⟩

instance (nowMs : ℕ) (deadline : Option ℕ) : Moves Unreported (setTimer nowMs deadline) where
  moves ctx w := by
    refine ⟨rfl, [deadline.elim .timerCancel .timerArm], rfl, fun type code hmem => ?_⟩
    cases deadline <;> cases List.mem_singleton.mp hmem

instance : Moves Unreported timerSyncNow := by
  unfold timerSyncNow timerSync; infer_instance

theorem Op.Enters.of_isRequest {op : Op} (hop : op.isRequest = true) {ctx : Ctx} {w : World}
    {b : CorrelationLedger} (h : op.Enters ctx w b) :
    b = [] ∨ ∃ s r, b = [.opened s r] ∧ op.Registers s r := by
  cases op with
  | init | deinit | timerFired | radioRxInject | radioTxDone => cases hop
  | _ => exact h.imp_right fun ⟨_, s, r, hb, hr, _⟩ => ⟨s, r, hb, hr⟩

/-- **No silently lost request.** When a request returns 0, and none of the host's answers during
the call makes it get lost, exactly one packet was queued, and at most one slot of the request
correlation was taken, for this request, or the failure was reported. A host that always answers the
same during the call, and whose cipher works, meets this exactly when its answers do not make the
request get lost. -/
theorem no_request_lost {op : Op} (hop : op.isRequest = true) {ctx : Ctx} {w : World}
    (hw : Reachable ctx w) (h : (op.run ctx w).1 = 0) :
    let w' := op.next ctx w
    (¬op.LostBy (answers ctx w w') → op.Kept w w') ∧
      ∀ h, answers ctx w w' ⊆ {h} → h.CipherWorks → (op.Kept w w' ↔ ¬op.LostBy {h}) := by
  intro w'
  obtain ⟨w₁, hout, hnext⟩ := Op.outcome hop hw h
  obtain ⟨hqueue, es, hes, hall⟩ : Unreported ctx w₁ w' := by
    rw [show w' = (timerSyncNow ctx w₁).2 from hnext]
    exact Moves.moves ctx w₁
  obtain ⟨-, hcorr, -, -, -, htick⟩ : KeepsCorrelation ctx w₁ w' := by
    rw [show w' = (timerSyncNow ctx w₁).2 from hnext]
    exact Moves.moves ctx w₁
  have hmono : answers ctx w w₁ ⊆ answers ctx w w' := answers_mono le_rfl htick
  have hslots : w'.correlation.slot = w.correlation.slot ∨ ∃ s r, op.Registers s r ∧
      w'.correlation.slot = Function.update w.correlation.slot s (some r) := by
    obtain ⟨b, hb, henters⟩ := op.exists_block ctx w
    have hslot := hb.honest.eq_foldl
    rcases henters.of_isRequest hop with rfl | ⟨s, r, rfl, hreg⟩
    · exact .inl hslot
    · exact .inr ⟨s, r, hreg, hslot⟩
  have hkept : ¬op.LostBy (answers ctx w w₁) → op.Kept w w' := by
    intro hn
    cases hout.fate with
    | queued hqueued =>
      obtain ⟨entry, hentries, -⟩ := hqueued
      exact .inl ⟨⟨entry, by rw [hqueue, hentries], trivial⟩, hslots⟩
    | reported hunsent hc type code he =>
      refine .inr ⟨hqueue.trans hunsent, hcorr.trans hc,
        [.requestError type code] ++ es, type, code, ?_,
        List.mem_append_left _ (List.mem_singleton_self _)⟩
      rw [hes, he, List.append_assoc]
    | lost _ _ hlost => exact absurd hlost hn
  refine ⟨fun hn => hkept fun hlost => hn (op.lostBy_mono hmono hlost), fun h hsub hcipher => ?_⟩
  refine ⟨fun hk => ?_, fun hn => hkept fun hlost => hn (op.lostBy_mono (hmono.trans hsub) hlost)⟩
  cases hout.fate with
  | queued _ _ hL => exact hL h (hmono.trans hsub)
  | reported _ _ _ _ _ hL => exact hL h hcipher (hmono.trans hsub)
  | lost hunsent he _ =>
    -- Nothing was queued, and nothing was reported.
    rcases hk with ⟨⟨entry, hentries, -⟩, -⟩ | ⟨-, -, es', type, code, hes', hmem⟩
    · rw [hqueue, show w₁.packetManager.sendQueue
        = w.packetManager.sendQueue from hunsent] at hentries
      exact absurd hentries (by simp)
    · rw [hes, he] at hes'
      obtain rfl := List.append_cancel_left hes'
      exact absurd hmem (hall type code)

/-- A control packet is queued. -/
theorem no_request_lost_control :
    let op := Op.controlDataSend (some [0x80])
    let w := runOps .silent .boot [.init]
    op.Kept w (op.next .silent w) :=
  (no_request_lost rfl ⟨[.init], rfl⟩ (by decide +kernel)).1 id

/-- A text of the greatest length is accepted for a known channel, and dropped without a word, since
with the name of this node before it the text is too long. -/
theorem request_lost :
    let known : Hooks :=
      { Hooks.silent with channelSecretHash _ := some 1, channelSecretMatchExists _ _ := 1 }
    let ctx : Ctx := { Ctx.silent with hooks _ := known }
    let op := Op.messageSendToChannel (some (List.replicate 16 0))
      (some (List.replicate maxMessageTxLen 0x41))
    let w := runOps ctx .boot [.init]
    Reachable ctx w ∧ (op.run ctx w).1 = 0 ∧ ¬op.Kept w (op.next ctx w) := by
  intro known ctx op w
  have hqueue : (op.next ctx w).packetManager.sendQueue.entries = [] := by decide +kernel
  have hsilent : (op.next ctx w).events.all
      (fun e => match e with | .requestError .. => false | _ => true) = true := by decide +kernel
  refine ⟨⟨[.init], rfl⟩, by decide +kernel, ?_⟩
  rintro (⟨⟨entry, hentries, -⟩, -⟩ | ⟨-, -, es, type, code, hes, hmem⟩)
  · rw [hqueue] at hentries
    exact absurd hentries (by simp)
  · rw [hes, List.all_eq_true] at hsilent
    exact absurd (hsilent _ (List.mem_append_right _ hmem)) (by simp)

end Meshcore
