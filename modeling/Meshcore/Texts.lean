import Meshcore.PeerRoutes
import Meshcore.Responses

/-!
# Texts for a peer

A text is sealed behind the time and the two low bits of the attempt; the whole attempt follows a
zero behind the text when it does not fit in two bits. Sender and peer both hash what stands up to
the end of the text, with the key of the sender: the one before the mark of the attempt and the
zeros of the seal are there, and the other behind them, where it finds the end of the text at the
first zero. The first four bytes of the hash are the code that the sender waits for.

## Main definitions

* `textData`, `ackCode` — what is sealed, and the code
* `Correlation.Expects`, `Correlation.Unexpected` — one registration has the code, and none has it
* `Acknowledges` — the packets that a text is answered with

## Main results

* `executeMessageSendToNode_shipped` — the text is sent, and the sender waits for its code
* `onPeerDataRecv_text` — what a peer makes of the data
* `meshOnRecvPacket_text` — it tells its host of the text, and answers with the code
-/

namespace Meshcore

/-- The host hashes two fragments to four bytes in this way. -/
def Hooks.Hashes (hash : List UInt8 → List UInt8 → Buf 4) (hooks : Hooks) : Prop :=
  ∀ frag1 frag2, hooks.sha256TwoFragments 4 frag1 frag2 = some (hash frag1 frag2)

/-- What is sealed: the plaintext, and behind a zero the attempt that does not fit in two bits. -/
def textData (timestamp : UInt32) (attempt : UInt8) (text : List UInt8) : List UInt8 :=
  textPlain timestamp attempt text ++ (if attempt > 3 then [0, attempt] else [])

/-- The code of a text, under the key of its sender. -/
def ackCode (hash : List UInt8 → List UInt8 → Buf 4) (timestamp : UInt32) (attempt : UInt8)
    (text : List UInt8) (publicKey : Buf publicKeySize) : UInt32 :=
  wordAt (hash (textPlain timestamp attempt text) publicKey.bytes).bytes

/-- No slot waits for this code. -/
def Correlation.Unexpected (c : Correlation) (code : UInt32) : Prop :=
  ∀ i r, c.slot (.ack i) = some r → r.tag ≠ code

/-- One slot waits for the code of this registration, with this registration, and no other slot
does. -/
def Correlation.Expects (c : Correlation) (r : Registration) : Prop :=
  ∃ i, ∀ j r', (c.slot (.ack j) = some r' ∧ r'.tag = r.tag) ↔ j = i ∧ r' = r

/-- What the host of a peer is told. -/
def textMessage (sender : PeerIdentity) (packet : Packet) (timestamp : UInt32) (text : List UInt8) :
    Message where
  type := .receiveNode
  route := messageRouteFromPacket packet
  target := sender.publicKey.slice 0 4
  senderName := printString nodeNameMaxLen sender.name.bytes
  payload := text
  senderTimestamp := timestamp
  rxSnr := packet.getSnr

/-- A packet is on its way with an acknowledgement: by itself, with another one to come, or as the
extra of a path return. -/
inductive Acknowledges (c : Cipher) (secret : Buf publicKeySize) (destHash srcHash : UInt8)
    (ack : List UInt8) (packet : Packet) : Prop where
  | plain (hsent : Sent payloadTypeAck ack packet)
  | multi (hsent : Sent payloadTypeMultipart (multiAckHead 1 :: ack) packet)
      (hroute : packet.getRouteType = routeTypeDirect)
  | pathReturn {pathLen : UInt8} {path : List UInt8} (hpath : pathBytesOf pathLen ≤ path.length)
      (hsent : Sent payloadTypePath (datagramBytes c secret destHash srcHash
        (pathReturnText pathLen path payloadTypeAck ack)) packet)

section

variable {c : Cipher} {ctx : Ctx} {w : World} {secret : Buf publicKeySize}
  {hash : List UInt8 → List UInt8 → Buf 4} {timestamp : UInt32} {attempt : UInt8}
  {text ack : List UInt8} {publicKey : Option (Buf publicKeySize)} {flood : Bool}
  {payload : Option (List UInt8)} {r : MessageSendToNode} {identity : NodeIdentity}
  {sender : PeerIdentity} {destHash srcHash : UInt8} {got : Packet} {held : List PacketId}

/-! ### What is sealed -/

theorem textData_ne_nil (timestamp : UInt32) (attempt : UInt8) (text : List UInt8) :
    textData timestamp attempt text ≠ [] := by
  refine List.ne_nil_of_length_pos ?_
  rw [textData, List.length_append, length_textPlain]
  omega

/-- An accepted text has room in its packet. -/
theorem textData_fits (hr : validateMessageSendToNode publicKey flood attempt payload = some r)
    (timestamp : UInt32) :
    meshDatagramPlaintextFits (textData timestamp r.attempt r.payload).length = true :=
  textPlain_fits hr timestamp

/-- A reader of the string sees nothing behind the first zero. -/
theorem cString_append_zero (h : 0 ∉ text) (rest : List UInt8) :
    cString (text ++ 0 :: rest) = text := by
  have hall : ∀ b ∈ text, (b != 0) = true := fun b hb => bne_iff_ne.mpr fun he => h (he ▸ hb)
  rw [cString, List.takeWhile_append_of_pos hall]
  exact List.append_nil text

/-- The padded data start with the plaintext. -/
theorem padded_textData (timestamp : UInt32) (attempt : UInt8) (text : List UInt8) :
    ∃ rest, padded (textData timestamp attempt text) = textPlain timestamp attempt text ++ rest ∧
      (0 ∉ text → cString (text ++ rest) = text) := by
  obtain ⟨zeros, hpadded⟩ : ∃ zeros, padded (textData timestamp attempt text)
      = textData timestamp attempt text ++ List.replicate zeros 0 := ⟨_, rfl⟩
  by_cases hattempt : attempt > 3
  · refine ⟨[0, attempt] ++ List.replicate zeros 0, ?_, fun h => cString_append_zero h _⟩
    rw [hpadded, textData, if_pos hattempt, List.append_assoc]
  · refine ⟨List.replicate zeros 0, ?_, fun h => cString_append_zeros h zeros⟩
    rw [hpadded, textData, if_neg hattempt, List.append_nil]

/-! ### Sending it -/

/-- A code that no slot waits for is registered in one slot. -/
theorem expects_expectedAckRegister {correlation : Correlation} {code : UInt32}
    (h : correlation.Unexpected code) (ulongBits nowMs : ℕ) (target : List UInt8)
    (attempt : UInt8) :
    (correlation.expectedAckRegister ulongBits nowMs code target attempt).Expects
      ⟨code, target, attempt, (nowMs + runtimeRequestTimeoutMs) % 2 ^ ulongBits⟩ := by
  refine ⟨⟨_, correlation.registerSlot_lt ulongBits nowMs⟩, fun j r' => ?_⟩
  rw [Correlation.slot_expectedAckRegister]
  by_cases hj : j = ⟨_, correlation.registerSlot_lt ulongBits nowMs⟩
  · rw [hj, Function.update_self]
    constructor
    · rintro ⟨hopen, -⟩
      exact ⟨rfl, (Option.some.inj hopen).symm⟩
    · rintro ⟨-, rfl⟩
      exact ⟨rfl, rfl⟩
  · rw [Function.update_of_ne fun heq => hj (Slot.ack.inj heq)]
    exact ⟨fun ⟨hopen, htag⟩ => absurd htag (h j r' hopen), fun heq => absurd heq.1 hj⟩

theorem utilsSha256TwoFragments_run (h : (ctx.hooks w.tick).Hashes hash)
    (frag1 frag2 : List UInt8) :
    utilsSha256TwoFragments 4 frag1 frag2 ctx w
      = (hash frag1 frag2, { w with tick := w.tick + 1 }) :=
  Prod.ext (congrArg (Option.getD · (Buf.zero 4)) (h frag1 frag2)) rfl

/-- An accepted text is sealed under the code that is registered. -/
theorem executeMessageSendToNode_run
    (hr : validateMessageSendToNode publicKey flood attempt payload = some r)
    (hself : FromNow ctx w (Hooks.Is identity)) (hhash : FromNow ctx w (Hooks.Hashes hash)) :
    let timestamp := (ctx.hooks (w.tick + 1)).rtc
    executeMessageSendToNode r ctx w = withRequestPacket .messageSendToNode
      (meshCreateDatagram payloadTypeTxtMsg r.publicKey
        (ctx.calculateSharedSecret identity.privateKey r.publicKey)
        (textData timestamp r.attempt r.payload))
      (fun id => do
        let _ ← expectedAckRegister (ackCode hash timestamp r.attempt r.payload identity.publicKey)
          (keyPrefixOf r.publicKey) r.attempt
        if r.flood then requestSendFlood id 0 else sendToPeer id r.publicKey 0) ctx
      { w with selfId := ⟨identity.publicKey, identity.privateKey⟩, tick := w.tick + 3 } := by
  obtain ⟨-, -, -, -, -, -, hmark⟩ := of_validateMessageSendToNode hr
  intro timestamp
  let synced (n : ℕ) : World :=
    { w with selfId := ⟨identity.publicKey, identity.privateKey⟩, tick := w.tick + n }
  let plain := textPlain timestamp r.attempt r.payload
  have htime : clockRtcGetCurrentTime ctx (synced 1) = (timestamp, synced 2) := rfl
  have hgets : Prog.gets World.selfId ctx (synced 2)
      = (⟨identity.publicKey, identity.privateKey⟩, synced 2) := rfl
  have hcode : utilsSha256TwoFragments 4 plain identity.publicKey.bytes ctx (synced 2)
      = (hash plain identity.publicKey.bytes, synced 3) :=
    utilsSha256TwoFragments_run (hhash _ (Nat.le_add_right ..)) ..
  have hsecret : selfSharedSecret r.publicKey ctx (synced 3)
      = (ctx.calculateSharedSecret identity.privateKey r.publicKey, synced 3) := rfl
  rw [executeMessageSendToNode, withLocalIdentity_run .messageSendToNode _ hself.now, if_neg hmark]
  change (clockRtcGetCurrentTime >>= _) ctx (synced 1) = _
  rw [Prog.run_bind_of htime, Prog.run_bind_of hgets, Prog.run_bind_of hcode,
    Prog.run_bind_of hsecret]
  rfl

/-- An accepted text is sent on its way, as a flood or along the stored path, and one registration
waits for its code when that is not zero and none did before. -/
theorem executeMessageSendToNode_shipped
    (hr : validateMessageSendToNode publicKey flood attempt payload = some r)
    (hroom : w.HasRoom ctx) (hc : FromNow ctx w (Hooks.Ciphers c))
    (hself : FromNow ctx w (Hooks.Is identity)) (hhash : FromNow ctx w (Hooks.Hashes hash))
    (hpath : flood = false → FromNow ctx w fun h => ¬h.PathUnusable r.publicKey) :
    let timestamp := (ctx.hooks (w.tick + 1)).rtc
    let code := ackCode hash timestamp r.attempt r.payload identity.publicKey
    let w' := (executeMessageSendToNode r ctx w).2
    Shipped (Sent payloadTypeTxtMsg (datagramBytes c
      (ctx.calculateSharedSecret identity.privateKey r.publicKey) (Identity.shortHash r.publicKey)
      (Identity.shortHash identity.publicKey) (textData timestamp r.attempt r.payload))) w w' ∧
    (code ≠ 0 → w.correlation.Unexpected code → ∃ v : World, w.tick ≤ v.tick ∧
      v.millisOverride = w.millisOverride ∧ w'.correlation.Expects
        ⟨code, keyPrefixOf r.publicKey, r.attempt,
          ((clockMillisGet ctx v).1 + runtimeRequestTimeoutMs) % 2 ^ ctx.ulongBits⟩) := by
  intro timestamp code w'
  obtain ⟨-, -, hflood, -⟩ := of_validateMessageSendToNode hr
  let w₁ : World :=
    { w with selfId := ⟨identity.publicKey, identity.privateKey⟩, tick := w.tick + 3 }
  let secret := ctx.calculateSharedSecret identity.privateKey r.publicKey
  let data := textData timestamp r.attempt r.payload
  let send := fun id => if r.flood then requestSendFlood id 0 else sendToPeer id r.publicKey 0
  let bytes := datagramBytes c secret (Identity.shortHash r.publicKey)
    (Identity.shortHash identity.publicKey) data
  have hidle : Idle ctx w w₁ := ⟨rfl, Nat.le_add_right ..⟩
  have hfits := textData_fits hr timestamp
  have hroom₁ := hidle.hasRoom hroom
  have hc₁ := hc.later hidle.2
  have hrun : w' = (withRequestPacket .messageSendToNode
      (meshCreateDatagram payloadTypeTxtMsg r.publicKey secret data) (fun id => do
        let _ ← expectedAckRegister code (keyPrefixOf r.publicKey) r.attempt
        send id) ctx w₁).2 := congrArg Prod.snd (executeMessageSendToNode_run hr hself hhash)
  refine ⟨?_, fun hcode hunexpected => ?_⟩
  · have hsend : ∀ v id, w₁.tick ≤ v.tick → v.PoolIntact ctx [id] →
        Load payloadTypeTxtMsg bytes (v.packetManager.packetBuf id) →
        Shipped (Sent payloadTypeTxtMsg bytes) v (send id ctx v).2 := by
      intro v id hlater hpool hload
      dsimp only [send]
      split
      · exact requestSendFlood_shipped 0 (by decide) hpool hload
      · rename_i hroute
        have hnot : flood = false := by
          rw [← hflood]
          exact Bool.not_eq_true _ ▸ hroute
        exact sendToPeer_shipped r.publicKey 0 (hpath hnot _ (hidle.2.trans hlater))
          (by decide) hpool hload
    rw [hrun]
    exact (datagram_shipped .messageSendToNode secret data
      (expectedAckRegister code (keyPrefixOf r.publicKey) r.attempt) send (.inl rfl)
      hfits hroom₁ hc₁ hsend).after hidle.unsent
  · obtain ⟨v, hmute, hnoted⟩ := @datagram_correlation c ctx w₁ payloadTypeTxtMsg r.publicKey _
      .messageSendToNode secret data (expectedAckRegister code (keyPrefixOf r.publicKey) r.attempt)
      _ send (fun _ => inferInstanceAs (Moves KeepsCorrelation (ite ..))) (.inl rfl)
        hfits hroom₁ hc₁
    have hread : Asks ctx v (clockMillisGet ctx v).2 := Moves.moves ctx v
    have hregistered :
        (expectedAckRegister code (keyPrefixOf r.publicKey) r.attempt ctx v).2.correlation
        = w.correlation.expectedAckRegister ctx.ulongBits (clockMillisGet ctx v).1 code
          (keyPrefixOf r.publicKey) r.attempt := by
      rw [← show v.correlation = w.correlation from hmute.2.1, expectedAckRegister, Prog.run_bind,
        Prog.run_bind, if_neg hcode]
      conv_lhs => rw [hread.1]
      rfl
    refine ⟨v, hidle.2.trans hmute.2.2.2.2.2, hmute.2.2.1, ?_⟩
    rw [hrun, hnoted, hregistered]
    exact expects_expectedAckRegister hunexpected ..

/-! ### Receiving it -/

/-- The two low bits of the attempt are no flags. -/
theorem and_shiftRight_two (attempt : UInt8) : (attempt &&& 0x03) >>> 2 = 0 := by
  have hmod : attempt.toNat &&& 3 = attempt.toNat % 4 := Nat.and_two_pow_sub_one_eq_mod _ 2
  refine UInt8.toNat_inj.mp ?_
  rw [UInt8.toNat_shiftRight, UInt8.toNat_and]
  show (attempt.toNat &&& 3) >>> 2 = 0
  rw [hmod, Nat.shiftRight_eq_div_pow]
  omega

/-- The text is published, and its code computed: it is the one of the sender. -/
theorem onPeerText_run (packet : Packet) (hhash : (ctx.hooks w.tick).Hashes hash) (htext : 0 ∉ text)
    (hne : text ≠ []) (hlen : text.length ≤ maxMessageTxLen) :
    ∃ ext random, onPeerText sender secret packet timestamp
        (padded (textData timestamp attempt text)) ctx w
      = sendAckOrPathReturn sender secret packet
        ((hash (textPlain timestamp attempt text) sender.publicKey.bytes).bytes
          ++ [ext, random]) ctx
      { w with
        tick := w.tick + 2
        events := w.events ++ [.message (textMessage sender packet timestamp text)] } := by
  obtain ⟨rest, hdata, hstring⟩ := padded_textData timestamp attempt text
  let data := padded (textData timestamp attempt text)
  have hplain := length_textPlain timestamp attempt text
  have hflags : data.getD 4 0 >>> 2 = txtTypePlain := by
    have hfour : data.getD 4 0 = attempt &&& 0x03 := by
      show (padded _).getD 4 0 = _
      rw [hdata]
      rfl
    rw [hfour]
    exact and_shiftRight_two attempt
  have hdrop : cString (data.drop 5) = text := by
    show cString ((padded _).drop 5) = _
    rw [hdata, textPlain, List.append_assoc, List.append_assoc,
      ← List.append_assoc (leBytes 4 timestamp.toNat), List.drop_left' (by simp)]
    exact hstring htext
  have htake : data.take (5 + text.length) = textPlain timestamp attempt text := by
    show (padded _).take _ = _
    rw [hdata, ← hplain, List.take_left]
  let w₁ : World :=
    { w with events := w.events ++ [.message (textMessage sender packet timestamp text)] }
  have hpublish : textMessagePublish sender packet timestamp text ctx w = ((), w₁) := by
    rw [textMessagePublish, if_neg hne, List.take_of_length_le hlen]
    rfl
  let w₂ : World := { w₁ with tick := w.tick + 1 }
  let w₃ : World := { w₁ with tick := w.tick + 2 }
  let plain := textPlain timestamp attempt text
  have hcode : utilsSha256TwoFragments 4 plain sender.publicKey.bytes ctx w₁
      = (hash plain sender.publicKey.bytes, w₂) :=
    @utilsSha256TwoFragments_run ctx w₁ hash hhash _ _
  let drawn := (ctx.hooks (w.tick + 1)).rngRandom 1
  have hdrawn : hook (fun h => h.rngRandom 1) ctx w₂ = (drawn, w₃) := rfl
  obtain ⟨random, hrandom⟩ : ∃ random, drawn.bytes = [random] :=
    List.length_eq_one_iff.mp (Buf.length_bytes _)
  let ext := if 5 + text.length + 1 < data.length then data.getD (5 + text.length + 1) 0 else 0
  refine ⟨ext, random, ?_⟩
  rw [onPeerText, hflags, if_neg (by decide), if_pos rfl, publishText, hdrop,
    if_pos (List.length_pos_iff.mpr hne), Prog.run_bind_of hpublish, handleTextFollowUp,
    if_neg (by omega), if_pos rfl, htake, Prog.run_bind_of hcode, Prog.run_bind_of hdrawn, hrandom,
    List.append_assoc]
  rfl

/-! ### Answering it -/

/-- The acknowledgement that goes last, if there is a buffer for it. -/
theorem sendLastAck_acknowledges {path : PeerPath} {wire : UInt8} (delayMs : UInt32)
    (hvalid : isValidPathLen wire = true) (hack : ack.length ≤ packetPayloadMaxLen)
    (hpool : w.PoolIntact ctx held) :
    let w' := (sendLastAck path wire ack delayMs ctx w).2
    (Unsent ctx w w' ∨ Shipped (Acknowledges c secret destHash srcHash ack) w w') ∧
      (0 < w.packetManager.getFreeCount →
        Shipped (Acknowledges c secret destHash srcHash ack) w w') := by
  intro w'
  have hsome : (meshCreateAckData ack ctx w).1.isSome →
      Shipped (Acknowledges c secret destHash srcHash ack) w w' := by
    intro hsome
    obtain ⟨id, hid, hmade⟩ := Made.of_isSome (P := Packed payloadTypeAck ack) hpool hsome
    have hrun : w' = (meshSendDirect id path.outPath.bytes wire delayMs ctx
        (meshCreateAckData ack ctx w).2).2 := by
      show (sendLastAck path wire ack delayMs ctx w).2 = _
      rw [sendLastAck, Prog.run_bind, hid]
      rfl
    rw [hrun]
    exact ((meshSendDirect_shipped path.outPath.bytes delayMs hvalid (by decide) hmade.pool
      hmade.packet.toLoad).imp fun _ => .plain).after hmade.unsent
  refine ⟨?_, fun hfree => hsome (meshCreateAckData_isSome hack hpool hfree)⟩
  cases hid : (meshCreateAckData ack ctx w).1 with
  | some id => exact .inr (hsome (by rw [hid]; rfl))
  | none =>
    have hrun : w' = (meshCreateAckData ack ctx w).2 := by
      show (sendLastAck path wire ack delayMs ctx w).2 = _
      rw [sendLastAck, Prog.run_bind, hid]
      rfl
    rw [hrun]
    exact .inl (Moves.moves ctx w)

/-- Along a path go one acknowledgement or two. -/
theorem sendAcks_acknowledges {path : PeerPath} {wire : UInt8} (extraAcks : UInt8)
    (hwire : path.wireLen = some wire) (hvalid : isValidPathLen wire = true)
    (hack : ack.length ≤ packetPayloadMaxLen - 1) (hpool : w.PoolIntact ctx held)
    (hfree : 0 < w.packetManager.getFreeCount) :
    ShippedUpTo 2 (Acknowledges c secret destHash srcHash ack) w ((do
      let delayMs ← sendFirstAck path wire ack extraAcks
      sendLastAck path wire ack delayMs : M Unit) ctx w).2 := by
  have hack' : ack.length ≤ packetPayloadMaxLen := hack.trans (Nat.sub_le ..)
  by_cases hextra : extraAcks > 0
  · obtain ⟨id, hid, hmade⟩ :=
      Made.of_isSome (P := Packed payloadTypeMultipart (multiAckHead 1 :: ack))
      hpool (meshCreateMultiAckData_isSome hack 1 hpool hfree)
    let first := sendFirstAck path wire ack extraAcks
    have hrun : first ctx w
        = (runtimeTxtAckDelayMs + 300, (meshSendDirect id path.outPath.bytes wire
          runtimeTxtAckDelayMs ctx (meshCreateMultiAckData ack 1 ctx w).2).2) := by
      show sendFirstAck path wire ack extraAcks ctx w = _
      rw [sendFirstAck, if_pos hextra, Prog.run_bind, hid]
      rfl
    have hpool₁ := ((inferInstance : Uses Carries [] first fun _ => []).uses ctx w held).2 hpool
    have hsent : Shipped (Acknowledges c secret destHash srcHash ack) w (first ctx w).2 := by
      rw [hrun]
      exact (((meshSendDirect_shipped path.outPath.bytes runtimeTxtAckDelayMs hvalid (by decide)
        hmade.pool hmade.packet.toLoad).and
        (meshSendDirect_follows runtimeTxtAckDelayMs hwire hvalid
        (by decide) hmade.pool hmade.packet.toLoad)).imp fun _ h => .multi h.1 h.2.route).after
          hmade.unsent
    have hsteps := (inferInstance : Uses (Steps fun _ => False) [] (sendLastAck path wire ack
      (first ctx w).1) fun _ => []).uses ctx (first ctx w).2 held
    rw [Prog.run_bind]
    exact (hsent.upTo le_rfl).snoc hsteps hpool₁.conserves
      (sendLastAck_acknowledges (first ctx w).1 hvalid hack' hpool₁).1
  · have hrun : sendFirstAck path wire ack extraAcks ctx w = (runtimeTxtAckDelayMs, w) := by
      rw [sendFirstAck, if_neg hextra]
      rfl
    rw [Prog.run_bind_of hrun]
    exact ((sendLastAck_acknowledges runtimeTxtAckDelayMs hvalid hack' hpool).2 hfree).upTo
      one_le_two

/-- A direct text is answered with acknowledgements along the stored path, or with a flood. -/
theorem sendAckDirect_acknowledges (hpath : ¬(ctx.hooks w.tick).PathUnusable sender.publicKey)
    (hack : ack.length ≤ packetPayloadMaxLen - 1) (hpool : w.PoolIntact ctx held)
    (hfree : 0 < w.packetManager.getFreeCount) :
    ShippedUpTo 2 (Acknowledges c secret destHash srcHash ack) w
      (sendAckDirect sender ack ctx w).2 := by
  let h := ctx.hooks w.tick
  have hack' : ack.length ≤ packetPayloadMaxLen := hack.trans (Nat.sub_le ..)
  rw [sendAckDirect_run]
  rcases h.wirePath_cases sender.publicKey with ⟨-, hnone⟩ | ⟨path, wire, -, hwire, hsome⟩
  · let asked : World := { w with tick := w.tick + 1 }
    have hasked : asked.PoolIntact ctx held := ⟨hpool.conserves, hpool.poolSize, hpool.reissued⟩
    obtain ⟨id, hid, hmade⟩ := Made.of_isSome (P := Packed payloadTypeAck ack) hasked
      (meshCreateAckData_isSome hack' hasked hfree)
    have hunsent : Unsent ctx w asked := rfl
    rw [show (ctx.hooks w.tick).wirePath sender.publicKey = none from hnone, Option.elim_none,
      Prog.run_bind, hid, Option.elim_some]
    have hshipped := requestSendFlood_shipped runtimeTxtAckDelayMs (by decide) hmade.pool
      hmade.packet.toLoad
    exact (((hshipped.imp fun _ => .plain).after hmade.unsent).after hunsent).upTo one_le_two
  · let asked : World := { w with tick := w.tick + 2 }
    have hasked : asked.PoolIntact ctx held := ⟨hpool.conserves, hpool.poolSize, hpool.reissued⟩
    have hunsent : Unsent ctx w asked := rfl
    have hvalid : isValidPathLen wire = true := by
      by_contra hinvalid
      exact hpath ⟨(path, wire), hsome, Bool.not_eq_true _ ▸ hinvalid⟩
    rw [show (ctx.hooks w.tick).wirePath sender.publicKey = some (path, wire) from hsome,
      Option.elim_some, Prog.run_bind]
    exact .after hunsent
      (@sendAcks_acknowledges c ctx asked secret ack destHash srcHash held path wire
      (ctx.hooks (w.tick + 1)).extraAckTransmitCount hwire hvalid hack hasked hfree)

/-- A text is answered. -/
theorem sendAckOrPathReturn_acknowledges (hack : ack ≠ []) (hlen : ack.length ≤ 97)
    (hgot : isValidPathLen got.pathLenField = true) (hc : FromNow ctx w (Hooks.Ciphers c))
    (hpath : ¬(ctx.hooks w.tick).PathUnusable sender.publicKey) (hpool : w.PoolIntact ctx held)
    (hfree : 0 < w.packetManager.getFreeCount) :
    ShippedUpTo 2 (Acknowledges c secret (Identity.shortHash sender.publicKey)
      (Identity.shortHash w.selfId.identity) ack) w
      (sendAckOrPathReturn sender secret got ack ctx w).2 := by
  rw [sendAckOrPathReturn]
  split
  · have hbytes : pathBytesOf got.pathLenField ≤ got.path.bytes.length := by
      rw [Buf.length_bytes, pathBytesOf, toNat_hashSizeOf, toNat_hashCountOf, Nat.mul_comm]
      exact (isValidPathLen_iff.mp hgot).2
    obtain ⟨id, hid, hmade⟩ := @meshCreatePathReturnByIdentity_made c ctx w secret got.pathLenField
      payloadTypeAck got.path.bytes ack held sender.publicKey hack
      (pathReturnExtraFits_of_valid hgot hlen) hc hpool hfree
    rw [Prog.run_bind, hid, Option.elim_some]
    have hshipped := requestSendFlood_shipped runtimeTxtAckDelayMs (by decide) hmade.pool
      hmade.packet
    exact ((hshipped.imp fun _ => .pathReturn hbytes).after hmade.unsent).upTo one_le_two
  · exact sendAckDirect_acknowledges hpath (hlen.trans (by decide)) hpool hfree

/-! ### What becomes of it -/

/-- A CHAT node makes the text out of the data, and answers it. -/
theorem onPeerDataRecv_text (packet : Packet) (hinit : w.initialized = true)
    (hchat : FromNow ctx w (Hooks.HasRole .chat)) (hhash : FromNow ctx w (Hooks.Hashes hash))
    (htext : 0 ∉ text) (hne : text ≠ []) (hlen : text.length ≤ maxMessageTxLen) :
    ∃ ext random, onPeerDataRecv packet payloadTypeTxtMsg sender secret
        (padded (textData timestamp attempt text)) ctx w = (do
          sendAckOrPathReturn sender secret packet
            ((hash (textPlain timestamp attempt text) sender.publicKey.bytes).bytes ++
              [ext, random])
          peerSeenUpdate sender.publicKey packet.snrQ4 : M Unit) ctx
      { w with
        tick := w.tick + 3
        events := w.events ++ [.message (textMessage sender packet timestamp text)] } := by
  obtain ⟨rest, hdata, -⟩ := padded_textData timestamp attempt text
  let asked : World := { w with tick := w.tick + 1 }
  have hlong : (padded (textData timestamp attempt text)).length > 5 := by
    have hpos := List.length_pos_iff.mpr hne
    rw [hdata, List.length_append, length_textPlain]
    omega
  have htime : wordAt (padded (textData timestamp attempt text)) = timestamp := by
    rw [hdata, textPlain, List.append_assoc, List.append_assoc, wordAt_leBytes]
  obtain ⟨ext, random, hrun⟩ := @onPeerText_run ctx asked secret hash timestamp attempt text
    sender packet (hhash _ (Nat.le_succ _)) htext hne hlen
  refine ⟨ext, random, ?_⟩
  rw [onPeerDataRecv, whenInitialized_run hinit, onPeerDataRecvInternal,
    Prog.run_bind_of hchat.now.localRoleIs_run, if_pos ⟨rfl, rfl, hlong⟩, if_pos (by omega), htime,
    Prog.run_bind, Prog.run_bind, hrun]

/-- A CHAT node that a text reaches tells its host of it, and answers it when there is a buffer for
the answer and the stored path can be used. -/
theorem meshOnRecvPacket_text
    (hload : Load payloadTypeTxtMsg (datagramBytes c secret destHash srcHash
      (textData timestamp attempt text)) got)
    (htakes : TakesPathReturn c secret sender destHash srcHash (textData timestamp attempt text) got
      ctx w)
    (hgot : isValidPathLen got.pathLenField = true) (hinit : w.initialized = true)
    (hchat : FromNow ctx w (Hooks.HasRole .chat)) (hhash : FromNow ctx w (Hooks.Hashes hash))
    (htext : 0 ∉ text) (hne : text ≠ []) (hlen : text.length ≤ maxMessageTxLen) :
    let w' := (meshOnRecvPacket got ctx w).2
    w'.events = w.events ++ [.message (textMessage sender got timestamp text),
        .peerSeenUpdate sender.publicKey got.snrQ4] ∧
      ∃ ack, ack.length = 6 ∧ wordAt ack = ackCode hash timestamp attempt text sender.publicKey ∧
        ((FromNow ctx w fun h => ¬h.PathUnusable sender.publicKey) → w.PoolIntact ctx held →
          0 < w.packetManager.getFreeCount → ShippedUpTo 2 (Acknowledges c secret
            (Identity.shortHash sender.publicKey) (Identity.shortHash w.selfId.identity) ack)
            w w') := by
  intro w'
  obtain ⟨w₁, hunpacks, hrun⟩ := meshOnRecvPacket_data (.inr (.inr rfl))
    (textData_ne_nil timestamp attempt text) hload htakes
  have hmute := hunpacks.mute
  have hlater : w.tick ≤ w₁.tick := hunpacks.2
  obtain ⟨ext, random, htold⟩ := @onPeerDataRecv_text ctx w₁ secret hash timestamp attempt text
    sender got (hmute.2.2.2.1.trans hinit) (hchat.later hlater) (hhash.later hlater) htext hne hlen
  let ack := (hash (textPlain timestamp attempt text) sender.publicKey.bytes).bytes ++ [ext, random]
  have hack : ack.length = 6 := by
    rw [List.length_append, Buf.length_bytes]
    rfl
  let w₂ : World :=
    { w₁ with
      tick := w₁.tick + 3
      events := w₁.events ++ [.message (textMessage sender got timestamp text)] }
  let answer := sendAckOrPathReturn sender secret got ack
  have hall : w' = (peerSeenUpdate sender.publicKey got.snrQ4 ctx (answer ctx w₂).2).2 := by
    show (meshOnRecvPacket got ctx w).2 = _
    rw [hrun, Prog.run_bind, meshRouteRecvPacket_marked, htold]
    rfl
  have hanswer : Mute ctx w₂ (answer ctx w₂).2 := Moves.moves ctx w₂
  refine ⟨?_, ack, hack, ?_, ?_⟩
  · rw [hall]
    show (answer ctx w₂).2.events ++ [_] = _
    rw [hanswer.1]
    show (w₁.events ++ [_]) ++ [_] = _
    rw [hmute.1, List.append_assoc]
    rfl
  · rw [ackCode, wordAt, wordAt, List.take_left' (Buf.length_bytes _),
      List.take_of_length_le (Buf.length_bytes _).le]
  · intro hpath hpool hfree
    have hmanager : w₂.packetManager = w.packetManager := by
      show w₁.packetManager = _
      rw [hunpacks.1]
    have hunsent : Unsent ctx w w₂ := by rw [Unsent, hmanager]
    have hself : w₂.selfId = w.selfId := by
      show w₁.selfId = _
      rw [hunpacks.1]
    have hpool₂ : w₂.PoolIntact ctx held := by
      have hpool₁ : w₁.PoolIntact ctx held := by
        rw [hunpacks.1]
        exact ⟨hpool.conserves, hpool.poolSize, hpool.reissued⟩
      exact ⟨hpool₁.conserves, hpool₁.poolSize, hpool₁.reissued⟩
    have hlater₂ : w.tick ≤ w₂.tick := hlater.trans (Nat.le_add_right ..)
    have hshipped := @sendAckOrPathReturn_acknowledges c ctx w₂ secret ack sender got held
      (List.ne_nil_of_length_pos (by omega)) (by omega) hgot (htakes.ciphers.later hlater₂)
      (hpath _ hlater₂) hpool₂ (by rwa [hmanager])
    rw [hself] at hshipped
    rw [hall]
    exact .after hunsent (hshipped.before (Moves.moves ctx _))

end

end Meshcore
