import Meshcore.Channels

/-!
# Text in a channel

A text in a channel carries the name of who says it: the name, a colon, a space and the text are one
string. A name has no colon, so the first colon is the one behind the name, whatever the text is,
and as neither has a zero the string ends where the zeros begin that the cipher adds.

## Main definitions

* `channelLine` — what is sealed of a text

## Main results

* `splitChannelText_line` — the name and the text are found again
* `channel_text_delivered`
-/

namespace Meshcore

/-! ### Lines -/

section

variable {name text : List UInt8}

/-- The name of who says something, as it stands in front of the text. -/
def sayer (name : List UInt8) : List UInt8 := name ++ [charColon, charSpace]

theorem zero_not_mem_sayer (h : 0 ∉ name) : 0 ∉ sayer name := by
  rw [sayer, List.mem_append]
  rintro (hname | hrest)
  · exact h hname
  · exact absurd hrest (by decide)

/-- A name fits, with what follows it. -/
theorem printString_sayer (h : 0 ∉ name) (hlen : name.length ≤ nodeNameMaxLen) :
    printString (nodeNameMaxLen + 3) (sayer name) = sayer name := by
  have hfits : (sayer name).length ≤ nodeNameMaxLen + 3 - 1 := by
    rw [sayer, List.length_append]
    change name.length ≤ 32 at hlen
    show name.length + 2 ≤ 34
    omega
  rw [printString, cString_eq_self (zero_not_mem_sayer h), List.take_of_length_le hfits]

/-- The first colon is the one behind the name, and the space behind it is not the text's. -/
theorem splitChannelText_line (h : 0 ∉ name) (hname : name ≠ []) (hcolon : charColon ∉ name) :
    splitChannelText (sayer name ++ text) = (name.take (nodeNameMaxLen - 1), text) := by
  have hall : ∀ b ∈ name, (b != charColon) = true := fun b hb => by
    rw [bne_iff_ne]
    rintro rfl
    exact hcolon hb
  have hline : sayer name ++ text = name ++ charColon :: charSpace :: text := by simp [sayer]
  have hfound : (name ++ charColon :: charSpace :: text).takeWhile (· != charColon) = name := by
    rw [List.takeWhile_append_of_pos hall, List.takeWhile_cons_of_neg (by decide), List.append_nil]
  have hcut : 0 ∉ name.take (nodeNameMaxLen - 1) := fun hzero => h (List.mem_of_mem_take hzero)
  have hbehind : (name ++ charColon :: charSpace :: text).drop (name.length + 1)
      = charSpace :: text := by
    rw [← List.drop_drop, List.drop_left]
    rfl
  have hsome : name.length ≠ (name ++ charColon :: charSpace :: text).length := by
    rw [List.length_append, List.length_cons]
    omega
  rw [hline, splitChannelText, hfound]
  dsimp only
  rw [if_neg hsome, hbehind, if_neg hname, cString_eq_self hcut]
  rfl

end

/-! ### The text that is sent -/

/-- What is sealed of a text: the time, a zero byte for a plain text, and the line. -/
def channelLine (timestamp : UInt32) (name text : List UInt8) : List UInt8 :=
  leBytes 4 timestamp.toNat ++ [0] ++ sayer name ++ text

theorem length_channelLine (timestamp : UInt32) (name text : List UInt8) :
    (channelLine timestamp name text).length = 5 + (name.length + 2 + text.length) := by
  simp only [channelLine, sayer, List.length_append, length_leBytes, List.length_cons,
    List.length_nil]
  omega

section

variable {secret text : List UInt8} {request : MessageSendToChannel} {identity : NodeIdentity}
  {ctx : Ctx} {w : World} {c : Cipher} {hash : UInt8}

theorem text_ne_nil_of_validateMessageSendToChannel
    (hr : validateMessageSendToChannel (some secret) (some text) = some request) : text ≠ [] := by
  rintro rfl
  cases hsecret : validateSecret (some secret) <;>
    simp [validateMessageSendToChannel, hsecret] at hr

/-- An accepted text that fits behind the name of the node is sealed and sent on its way. -/
theorem executeMessageSendToChannel_shipped
    (hr : validateMessageSendToChannel (some secret) (some text) = some request)
    (hlen : (sayer identity.cName).length + text.length ≤ maxMessageTxLen)
    (hroom : w.HasRoom ctx) (hc : FromNow ctx w (Hooks.Ciphers c))
    (hidentity : FromNow ctx w (Hooks.Is identity))
    (hchannel : FromNow ctx w (Hooks.HasChannel secret hash)) :
    ∃ n, w.tick ≤ n ∧ Shipped (Sent payloadTypeGrpTxt (hash :: c.sealed (channelKey secret)
        (channelLine (ctx.hooks n).rtc identity.cName text))) w
      (executeMessageSendToChannel request ctx w).2 := by
  obtain ⟨hsecret, htext⟩ := of_validateMessageSendToChannel hr
  have hsecret := (Option.some.inj hsecret).symm
  have htext := (Option.some.inj htext).symm
  let w₁ : World := { w with tick := w.tick + 1 }
  let w₂ : World := { w₁ with tick := w₁.tick + 2 }
  let w₃ : World := { w₂ with tick := w₂.tick + 1 }
  have hknown := @channelOfSecret_run ctx w₁ hash secret (hchannel.later (Nat.le_add_right _ 1))
  have hclock : clockRtcGetCurrentTime ctx w₂ = ((ctx.hooks w₂.tick).rtc, w₃) := rfl
  have hidle : Idle ctx w w₃ := ⟨rfl, Nat.le_add_right w.tick 4⟩
  have hname : (sayer identity.cName).length = identity.cName.length + 2 := List.length_append ..
  have hshort := identity.length_cName_le
  have hsaid : printString (nodeNameMaxLen + 3)
      (cString identity.name.bytes ++ [charColon, charSpace]) = sayer identity.cName :=
    printString_sayer (zero_not_mem_cString _) hshort
  change (sayer identity.cName).length + text.length ≤ 160 at hlen
  change identity.cName.length ≤ 32 at hshort
  have hfits : ¬((sayer identity.cName).length ≥ maxMessageTxLen ∨
      text.length + (sayer identity.cName).length > maxMessageTxLen) := by
    show ¬(_ ≥ 160 ∨ _ > 160)
    omega
  have hline : (channelLine (ctx.hooks w₂.tick).rtc identity.cName text).length
      ≤ packetPayloadMaxLen - 1 - cipherBlockSize + 1 := by
    rw [length_channelLine]
    show _ ≤ 168
    omega
  have hship := @sendToChannel_shipped c ctx w₃ ⟨hash, channelKey secret⟩ _ payloadTypeGrpTxt
    .messageSendToChannel _ _ (.inr rfl) hline (hidle.hasRoom hroom) (hc.later hidle.2)
    fun id w' hpool hload => requestSendFlood_shipped 0 (by decide) hpool hload
  refine ⟨w₂.tick, Nat.le_add_right w.tick 3, ?_⟩
  rw [executeMessageSendToChannel, Prog.run_bind_of (localIdentityGet_run hidentity.now),
    Option.elim_some, hsecret, Prog.run_bind_of hknown, Option.elim_some, Prog.run_bind_of hclock]
  simp only [htext, hsaid, if_neg hfits]
  exact hship.after hidle.unsent

/-! ### The text that is heard -/

/-- What the host is told of a text in a channel. -/
def channelMessage (channel : GroupChannel) (timestamp : UInt32) (name text : List UInt8)
    (got : Packet) : Message where
  type := .receiveChannel
  route := messageRouteFromPacket got
  target := channel.secret.slice 0 4
  senderName := name.take (nodeNameMaxLen - 1)
  payload := text
  senderTimestamp := timestamp
  rxSnr := got.getSnr

/-- A CHAT node tells its host who says what. -/
theorem onGroupDataRecv_text {name : List UInt8} (channel : GroupChannel) (packet : Packet)
    (timestamp : UInt32) (hname : name ≠ []) (hcolon : charColon ∉ name) (hzero : 0 ∉ name)
    (htext : text ≠ []) (hzero' : 0 ∉ text) (hlen : text.length ≤ maxMessageTxLen)
    (hinit : w.initialized = true) (hchat : (ctx.hooks w.tick).HasRole .chat) :
    (onGroupDataRecv packet payloadTypeGrpTxt channel
      (padded (channelLine timestamp name text)) ctx w).2.events
      = w.events ++ [.message (channelMessage channel timestamp name text packet)] := by
  let zeros := List.replicate (cipherBlockCount (channelLine timestamp name text) * cipherBlockSize
    - (channelLine timestamp name text).length) (0 : UInt8)
  have hpadded : padded (channelLine timestamp name text)
      = leBytes 4 timestamp.toNat ++ [0] ++ (sayer name ++ text ++ zeros) := by
    rw [padded, channelLine]
    simp only [List.append_assoc]
    rfl
  have hline : 0 ∉ sayer name ++ text := fun h =>
    (List.mem_append.mp h).elim (zero_not_mem_sayer hzero) hzero'
  have hpos : 0 < (sayer name ++ text).length := by
    rw [List.length_append]
    exact Nat.add_pos_right _ (List.length_pos_iff.mpr htext)
  have hlong : (padded (channelLine timestamp name text)).length > 5 := by
    rw [hpadded]
    simp only [List.length_append, length_leBytes, List.length_singleton] at hpos ⊢
    omega
  have hstring : cString ((padded (channelLine timestamp name text)).drop 5)
      = sayer name ++ text := by
    rw [hpadded, List.drop_left' (by simp), cString_append_zeros hline]
  have hplain : (padded (channelLine timestamp name text)).getD 4 0 = 0 := by
    rw [hpadded]
    rfl
  have htime : wordAt (padded (channelLine timestamp name text)) = timestamp := by
    rw [hpadded, List.append_assoc, wordAt_leBytes]
  have hne : ¬(sayer name ++ text) = [] := List.length_pos_iff.mp hpos
  rw [onGroupDataRecv, whenInitialized_run hinit, Prog.run_bind_of hchat.localRoleIs_run,
    Bool.not_true, if_neg (by decide),
    if_pos ⟨rfl, hlong, by rw [hplain]; decide⟩, hstring, if_pos hpos, htime,
    channelTextPublish, if_neg hne, splitChannelText_line hzero hname hcolon, if_neg htext,
    List.take_of_length_le hlen]
  rfl

end

/-! ### The result -/

/-- **Text in a channel.** An accepted text that fits behind the name of its node is sealed and sent
on its way. Whatever way it takes to a CHAT node that listens to the channel, that node tells its
host once who says it, when and what. -/
theorem channel_text_delivered (c : Cipher) {secret text : List UInt8}
    {request : MessageSendToChannel} {identity : NodeIdentity}
    (hr : validateMessageSendToChannel (some secret) (some text) = some request)
    (hname : identity.cName ≠ []) (hcolon : charColon ∉ identity.cName) (htext : 0 ∉ text)
    (hlen : (sayer identity.cName).length + text.length ≤ maxMessageTxLen) (hash : UInt8) :
    (∀ ctx w, w.HasRoom ctx → FromNow ctx w (Hooks.Ciphers c) →
      FromNow ctx w (Hooks.Is identity) → FromNow ctx w (Hooks.HasChannel secret hash) →
      ∃ n, w.tick ≤ n ∧ Shipped (Sent payloadTypeGrpTxt (hash :: c.sealed (channelKey secret)
        (channelLine (ctx.hooks n).rtc identity.cName text))) w
        (executeMessageSendToChannel request ctx w).2) ∧
    ∀ timestamp sent, Sent payloadTypeGrpTxt (hash :: c.sealed (channelKey secret)
        (channelLine timestamp identity.cName text)) sent →
      ∀ got, Relayed sent got → ∀ ctx w channel, channel.secret = channelKey secret →
        ListensTo c channel hash (channelLine timestamp identity.cName text) got ctx w →
        (meshOnRecvPacket got ctx w).2.events = w.events ++
          [.message (channelMessage channel timestamp identity.cName text got)] := by
  refine ⟨fun ctx w hroom hc hidentity hchannel =>
    executeMessageSendToChannel_shipped hr hlen hroom hc hidentity hchannel, ?_⟩
  intro timestamp sent hsent got hrelayed ctx w channel hkey hlistens
  have hload := hrelayed.load hsent.toLoad
  rw [← hkey] at hload
  obtain ⟨w', ⟨hevents, -, -, hinit, -, hlater⟩, hrun⟩ := meshOnRecvPacket_channel (.inr rfl)
    (by simp [channelLine]) hload hlistens
  have hsaid := text_ne_nil_of_validateMessageSendToChannel hr
  rw [hrun, onGroupDataRecv_text channel got timestamp hname hcolon (zero_not_mem_cString _) hsaid
    htext (by omega) (hinit.trans hlistens.initialized) (hlistens.chat _ hlater), hevents]

/-- A flood with a text for the channel of zeros. -/
def channelTextPacket : Packet :=
  { Packet.init with
    header := 0x15
    payloadLen := 19
    payload := (Buf.zero _).store 0
      (1 :: Cipher.plain.sealed (Buf.zero _) (channelLine 5 [0x61] [charSpace, charColon])) }

/-- The name is `a` and the text a space and a colon. -/
theorem channel_text_delivered_colon :
    (meshOnRecvPacket channelTextPacket .listening { World.boot with initialized := true }).2.events
      = [.message (channelMessage zeroChannel 5 [0x61] [charSpace, charColon]
        channelTextPacket)] := by
  have hvalid : validateMessageSendToChannel (some (List.replicate 16 0))
      (some [charSpace, charColon]) = some ⟨List.replicate 16 0, [charSpace, charColon]⟩ := rfl
  have hname : NodeIdentity.calledA.cName = [0x61] := by decide +kernel
  have hkey : channelKey (List.replicate 16 0) = zeroChannel.secret := by decide +kernel
  have hsent : Sent payloadTypeGrpTxt (1 :: Cipher.plain.sealed (channelKey (List.replicate 16 0))
      (channelLine 5 NodeIdentity.calledA.cName [charSpace, charColon])) channelTextPacket :=
    { type_eq := by decide
      payloadBytes_eq := by decide +kernel
      payloadLen_eq := by decide +kernel
      length_le := by decide +kernel
      route := .inl (by decide)
      validPathLen := by decide }
  have hair : OnAir channelTextPacket channelTextPacket := ⟨Packet.init, by decide +kernel⟩
  have hrun := (channel_text_delivered .plain hvalid (by rw [hname]; decide) (by rw [hname]; decide)
    (by decide) (by rw [hname]; decide) 1).2 5 channelTextPacket hsent channelTextPacket
    (.heard ⟨channelTextPacket, hair, rfl⟩) .listening _ zeroChannel hkey.symm
    (listensTo_zeroChannel _ (fun _ => by decide) (by decide))
  rwa [hname] at hrun

end Meshcore
