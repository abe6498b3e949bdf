import Meshcore.Cipher
import Meshcore.Relaying

/-!
# Messages in a channel

Whoever has the secret of a channel seals what it says there under that secret, and sends it with a
short hash of the channel in front. A node tries the channels that it knows under this hash, and the
one whose secret opens the packet says what comes out of it, with zeros behind it to the end of the
last block. The length of the data of an application therefore stands in front of it.

## Main definitions

* `Hooks.HasChannel`, `Hooks.OpensOnly` — what the hosts at both ends know
* `ChannelData.text` — what is sealed for data of an application

## Main results

* `meshOnRecvPacket_channel` — what a node makes of a packet for its channel
* `channel_data_delivered`
-/

namespace Meshcore

/-! ### The channel -/

/-- The key of a channel: its secret, filled up with zeros. -/
def channelKey (secret : List UInt8) : Buf publicKeySize := (Buf.zero _).store 0 secret

namespace Hooks

/-- The host has a channel with this secret, under this hash. -/
structure HasChannel (secret : List UInt8) (hash : UInt8) (hooks : Hooks) : Prop where
  secretHash : hooks.channelSecretHash secret = some hash
  matchExists : 0 < hooks.channelSecretMatchExists hash secret

/-- The channels that a node tries for a hash. -/
def candidates (hash : UInt8) (hooks : Hooks) : List GroupChannel :=
  (hooks.channelSearchByHash hash).take channelSearchMaxMatches

/-- The host has this channel under this hash, and no other channel of that hash opens the text. -/
structure OpensOnly (c : Cipher) (channel : GroupChannel) (hash : UInt8) (bytes : List UInt8)
    (hooks : Hooks) : Prop where
  mem : channel ∈ hooks.candidates hash
  only : ∀ other ∈ hooks.candidates hash, c.Opens other.secret bytes → other = channel

end Hooks

section

variable {c : Cipher} {ctx : Ctx} {w : World} {packet : Packet} {channel : GroupChannel}
  {hash : UInt8} {src secret : List UInt8} {type : UInt8}

theorem channelOfSecret_run (h : FromNow ctx w (Hooks.HasChannel secret hash)) :
    channelOfSecret secret ctx w
      = (some ⟨hash, channelKey secret⟩, { w with tick := w.tick + 2 }) := by
  have hhash : hook (fun h => h.channelSecretHash secret) ctx w
      = (some hash, { w with tick := w.tick + 1 }) := Prod.ext h.now.secretHash rfl
  have hexists : ¬(hook (fun h => h.channelSecretMatchExists hash secret) ctx
      { w with tick := w.tick + 1 }).1 ≤ 0 := not_le.mpr (h _ (Nat.le_succ w.tick)).matchExists
  rw [channelOfSecret, Prog.run_bind_of hhash, Option.elim_some, Prog.run_bind, Prog.run_ite,
    if_neg hexists]
  rfl

theorem padded_ne_nil (hsrc : src ≠ []) : (padded src).length ≠ 0 := by
  rw [padded, List.length_append]
  exact (Nat.add_pos_left (List.length_pos_iff.mpr hsrc) _).ne'

/-- The channels are tried one after the other, until the one opens the packet that should. -/
theorem tryChannels_run {channels : List GroupChannel} (hc : FromNow ctx w (Hooks.Ciphers c))
    (hsrc : src ≠ []) (hmem : channel ∈ channels)
    (honly : ∀ other ∈ channels, c.Opens other.secret (c.sealed channel.secret src) →
      other = channel) :
    ∃ w', Asks ctx w w' ∧ tryChannels packet (c.sealed channel.secret src) channels ctx w =
      (do
        handOver packet
        onGroupDataRecv packet packet.getPayloadType channel (padded src)) ctx w' := by
  induction channels generalizing w with
  | nil => exact absurd hmem List.not_mem_nil
  | cons other channels ih =>
    have hasks := (inferInstance : Moves Asks
      (utilsMacThenDecrypt other.secret (c.sealed channel.secret src))).moves ctx w
    rw [tryChannels, Prog.run_bind]
    by_cases hother : other = channel
    · subst hother
      refine ⟨_, hasks, ?_⟩
      rw [utilsMacThenDecrypt_sealed hc hsrc, if_neg (padded_ne_nil hsrc)]
    · have hrefused := utilsMacThenDecrypt_refused hc
        fun hopens => hother (honly other List.mem_cons_self hopens)
      obtain ⟨w', hasks', hrun⟩ := ih (hc.later hasks.2)
        ((List.mem_cons.mp hmem).resolve_left (Ne.symm hother))
        fun x hx => honly x (List.mem_cons_of_mem _ hx)
      refine ⟨w', Composes.trans ctx _ _ _ hasks hasks', ?_⟩
      rw [hrefused, List.length_nil, if_pos rfl, hrun]

/-- A text for a channel is sealed and sent on its way. -/
theorem sendToChannel_shipped {request : RequestType} {send : PacketId → M Unit} {Q : Packet → Prop}
    (htype : type = payloadTypeGrpData ∨ type = payloadTypeGrpTxt)
    (hlen : src.length ≤ packetPayloadMaxLen - 1 - cipherBlockSize + 1) (hroom : w.HasRoom ctx)
    (hc : FromNow ctx w (Hooks.Ciphers c))
    (hsend : ∀ id w', w'.PoolIntact ctx [id] →
      Load type (channel.hash :: c.sealed channel.secret src)
      (w'.packetManager.packetBuf id) → Shipped Q w' (send id ctx w').2) :
    Shipped Q w
      (withRequestPacket request (meshCreateGroupDatagram type channel src) send ctx w).2 := by
  obtain ⟨id, hid, hmade⟩ := @meshCreateGroupDatagram_made c ctx w src type [] channel
    htype.symm hlen hc hroom.pool hroom.free
  have hmadeType : madeType type = type := by rcases htype with rfl | rfl <;> decide
  rw [hmadeType] at hmade
  rw [withRequestPacket_run hid]
  exact (hsend id _ hmade.pool hmade.packet).after hmade.unsent

/-- A node at the end of the way of a packet for its channel. -/
structure ListensTo (c : Cipher) (channel : GroupChannel) (hash : UInt8) (src : List UInt8)
    (got : Packet) (ctx : Ctx) (w : World) : Prop where
  atEnd : AtEnd got
  initialized : w.initialized = true
  unseen : Unseen got ctx w
  passes : FromNow ctx w (Hooks.Passes got)
  chat : FromNow ctx w (Hooks.HasRole .chat)
  ciphers : FromNow ctx w (Hooks.Ciphers c)
  opensOnly : FromNow ctx w (Hooks.OpensOnly c channel hash (c.sealed channel.secret src))

/-- Such a node makes the text out and looks what is in it. Nobody is told of anything else. -/
theorem meshOnRecvPacket_channel (htype : type = payloadTypeGrpData ∨ type = payloadTypeGrpTxt)
    (hsrc : src ≠ []) (hload : Load type (hash :: c.sealed channel.secret src) packet)
    (h : ListensTo c channel hash src packet ctx w) :
    ∃ w', Mute ctx w w' ∧ (meshOnRecvPacket packet ctx w).2.events
      = (onGroupDataRecv packet type channel (padded src) ctx w').2.events := by
  have hpacket := hload.type_eq
  have hlen : packet.payloadLen = 1 + (c.sealed channel.secret src).length := by
    rw [hload.payloadLen_eq, List.length_cons, Nat.add_comm]
  have hsealed : cipherMacSize < (c.sealed channel.secret src).length := by
    rw [Cipher.length_sealed, ← length_padded]
    exact Nat.lt_add_of_pos_right (Nat.pos_of_ne_zero (padded_ne_nil hsrc))
  have hlong : 0 < packet.payloadLen := by omega
  have hhash : packet.payload.get 0 = hash := hload.get_payload (Nat.zero_lt_succ _)
  have hbytes : packet.payload.slice 1 (packet.payloadLen - 1) = c.sealed channel.secret src := by
    have hslice := @Load.slice_payload packet type _ hload 1 (c.sealed channel.secret src).length
      (by rw [List.length_cons, Nat.add_comm])
    rw [hlen, Nat.add_sub_cancel_left, hslice]
    exact List.take_length
  have hpayload : onRecvPayload packet = onRecvGroup packet := by
    rw [onRecvPayload]
    rcases htype with rfl | rfl <;> (rw [hpacket]; rfl)
  obtain ⟨w₁, hasks, hrun⟩ := meshOnRecvPacket_delivers h.atEnd
    (by rw [hpacket]; rcases htype with rfl | rfl <;> decide)
    (by rw [hpacket]; rcases htype with rfl | rfl <;> decide) h.passes.now
  have hseen := h.unseen.after hasks
  have hmute := (inferInstance : Moves Mute (tablesHasSeen packet)).moves ctx w₁
  rw [hrun, hpayload, onRecvGroup, if_neg (by omega),
    Prog.run_bind_of (payloadByte_run hlong ctx w₁),
    hhash, if_neg (by omega), Prog.run_bind, hseen, if_neg (by decide)]
  generalize (tablesHasSeen packet ctx w₁).2 = w₂ at hmute
  have hlater : w.tick ≤ w₂.tick := hasks.2.trans hmute.2.2.2.2.2
  have hopens := h.opensOnly _ hlater
  obtain ⟨w₃, hasks', htry⟩ := @tryChannels_run c ctx { w₂ with tick := w₂.tick + 1 } packet channel
    src _ (h.ciphers.later (hlater.trans (Nat.le_succ _))) hsrc hopens.mem hopens.only
  have hchannels : hook (fun h => h.candidates hash) ctx w₂
      = ((ctx.hooks w₂.tick).candidates hash, { w₂ with tick := w₂.tick + 1 }) := rfl
  have hover := (inferInstance : Moves Mute (handOver packet)).moves ctx w₃
  have hhook : Asks ctx w₂ { w₂ with tick := w₂.tick + 1 } := ⟨rfl, Nat.le_succ _⟩
  refine ⟨(handOver packet ctx w₃).2, ?_, ?_⟩
  · exact Composes.trans ctx _ _ _ hasks.mute <| Composes.trans ctx _ _ _ hmute <|
      Composes.trans ctx _ _ _ hhook.mute <| Composes.trans ctx _ _ _ hasks'.mute hover
  · rw [← hpacket]
    change ((hook (fun h => h.candidates hash) >>= fun _ => _) ctx w₂).2.events = _
    rw [Prog.run_bind_of hchannels, Prog.run_bind_of (payloadRead_run (by omega) ctx _), hbytes,
      Prog.run_bind, htry]
    exact ((inferInstance : Moves Silent (meshRouteRecvPacket packet)).moves ctx _).events

end

/-! ### Data of an application -/

namespace ChannelData

/-- What is sealed of a request: the type of the data, their length and the data. -/
def text (dataType : UInt16) (payload : List UInt8) : List UInt8 :=
  leBytes 2 dataType.toNat ++ [UInt8.ofNat payload.length] ++ payload

theorem length_text (dataType : UInt16) (payload : List UInt8) :
    (text dataType payload).length = 3 + payload.length := by
  rw [text, List.length_append, List.length_append, length_leBytes, List.length_singleton]

end ChannelData

section

variable {secret payload : List UInt8} {path : Option (List UInt8)} {pathLen : UInt8}
  {dataType : UInt16} {request : ChannelData} {ctx : Ctx} {w : World} {c : Cipher} {hash : UInt8}

theorem payload_of_validateChannelData
    (h : validateChannelData (some secret) path pathLen dataType (some payload) = some request) :
    request.dataType = dataType ∧ request.payload = payload ∧ request.secret = secret ∧
      payload.length ≤ maxChannelDataPayloadLen := by
  simp only [validateChannelData, Option.bind_eq_bind, Option.bind_eq_some_iff,
    Option.some.injEq] at h
  obtain ⟨s, hs, data, rfl, h⟩ := h
  obtain rfl := Option.some.inj (of_validateSecret hs)
  split at h
  · cases h
  · rename_i hlen
    rw [Option.bind_eq_some_iff] at h
    obtain ⟨path, -, h⟩ := h
    obtain rfl := Option.some.inj h
    exact ⟨rfl, rfl, rfl, not_lt.mp hlen⟩

/-- An accepted request is sealed and sent on its way. -/
theorem executeChannelData_shipped
    (hr : validateChannelData (some secret) path pathLen dataType (some payload) = some request)
    (hroom : w.HasRoom ctx) (hc : FromNow ctx w (Hooks.Ciphers c))
    (hchannel : FromNow ctx w (Hooks.HasChannel secret hash)) :
    Shipped (Sent payloadTypeGrpData
        (hash :: c.sealed (channelKey secret) (ChannelData.text dataType payload))) w
      (executeChannelData request ctx w).2 := by
  obtain ⟨hdata, hpayload, hsecret, hlen⟩ := payload_of_validateChannelData hr
  have hfits : (ChannelData.text dataType payload).length
      ≤ packetPayloadMaxLen - 1 - cipherBlockSize + 1 := by
    rw [ChannelData.length_text]
    change payload.length ≤ 165 at hlen
    show 3 + payload.length ≤ 168
    omega
  have hidle := (inferInstance : Moves Idle (channelOfSecret secret)).moves ctx w
  rw [channelOfSecret_run hchannel] at hidle
  have hpath := (of_validateChannelData hr).2
  rw [executeChannelData, hsecret, Prog.run_bind_of (channelOfSecret_run hchannel),
    Option.elim_some, hdata, hpayload]
  refine Shipped.after hidle.unsent (@sendToChannel_shipped c ctx _ ⟨hash, channelKey secret⟩
    (ChannelData.text dataType payload) payloadTypeGrpData _ _ _ (.inl rfl) hfits
    (hidle.hasRoom hroom) (hc.later hidle.2) fun id w' hpool hload => ?_)
  split
  · exact requestSendFlood_shipped 0 (by decide) hpool hload
  · rename_i hdirect
    exact meshSendDirect_shipped _ 0 (hpath.resolve_left hdirect) (by decide) hpool hload

/-- What the host is told of data in a channel. -/
def channelDataEvent (channel : GroupChannel) (dataType : UInt16) (payload : List UInt8)
    (got : Packet) : ChannelDataEvent where
  channelHash := channel.hash
  path := got.pathBytes
  dataType
  payload
  rxSnrQ4 := got.snrQ4

/-- The length in front of the data cuts off the zeros behind them. -/
theorem channelDataPublish_run (channel : GroupChannel) (packet : Packet) (dataType : UInt16)
    (hlen : payload.length ≤ maxChannelDataPayloadLen) (zeros : List UInt8) :
    channelDataPublish channel packet (ChannelData.text dataType payload ++ zeros)
      = emit (.channelData (channelDataEvent channel dataType payload packet)) := by
  change payload.length ≤ 165 at hlen
  have hall : (ChannelData.text dataType payload ++ zeros).length
      = 3 + payload.length + zeros.length := by
    rw [List.length_append, ChannelData.length_text]
  have hcount : (ChannelData.text dataType payload ++ zeros).getD 2 0
      = UInt8.ofNat payload.length := rfl
  have hdata : (ChannelData.text dataType payload ++ zeros).drop 3 = payload ++ zeros := rfl
  have htype : (ChannelData.text dataType payload ++ zeros).take 2 = leBytes 2 dataType.toNat := rfl
  have hmod : dataType.toNat % 256 ^ 2 = dataType.toNat := Nat.mod_eq_of_lt dataType.toNat_lt
  have hbyte : (UInt8.ofNat payload.length).toNat = payload.length := by
    rw [UInt8.toNat_ofNat', Nat.mod_eq_of_lt (by omega)]
  have hshort : ¬(ChannelData.text dataType payload ++ zeros).length < 3 := by omega
  have hfits : ¬(payload.length > (ChannelData.text dataType payload ++ zeros).length - 3 ∨
      payload.length > maxChannelDataPayloadLen) := by
    show ¬(_ ∨ payload.length > 165)
    omega
  rw [channelDataPublish, if_neg hshort]
  simp only [hcount, hbyte]
  rw [if_neg hfits, hdata, htype, List.take_left, leNat_leBytes, hmod, UInt16.ofNat_toNat]
  rfl

/-- A CHAT node tells its host of the data. -/
theorem onGroupDataRecv_data (channel : GroupChannel) (packet : Packet) (dataType : UInt16)
    (hinit : w.initialized = true) (hchat : (ctx.hooks w.tick).HasRole .chat)
    (hlen : payload.length ≤ maxChannelDataPayloadLen) :
    (onGroupDataRecv packet payloadTypeGrpData channel
      (padded (ChannelData.text dataType payload)) ctx w).2.events
      = w.events ++ [.channelData (channelDataEvent channel dataType payload packet)] := by
  have hlong : (padded (ChannelData.text dataType payload)).length ≥ 3 := by
    rw [padded, List.length_append, ChannelData.length_text]
    omega
  rw [onGroupDataRecv, whenInitialized_run hinit, Prog.run_bind_of hchat.localRoleIs_run,
    Bool.not_true, if_neg (by decide), if_neg fun h => absurd h.1 (by decide),
    if_pos ⟨rfl, hlong⟩, padded, channelDataPublish_run channel packet dataType hlen]
  rfl

end

/-! ### The result -/

/-- **Data in a channel.** An accepted request is sealed and sent on its way. Whatever way it takes
to a CHAT node that listens to the channel, that node tells its host of the data once, with the same
type and the same bytes. -/
theorem channel_data_delivered (c : Cipher) {secret payload : List UInt8}
    {path : Option (List UInt8)} {pathLen : UInt8} {dataType : UInt16} {request : ChannelData}
    (hr : validateChannelData (some secret) path pathLen dataType (some payload) = some request)
    (hash : UInt8) :
    let text := ChannelData.text dataType payload
    (∀ ctx w, w.HasRoom ctx → FromNow ctx w (Hooks.Ciphers c) →
      FromNow ctx w (Hooks.HasChannel secret hash) →
      Shipped (Sent payloadTypeGrpData (hash :: c.sealed (channelKey secret) text)) w
        (executeChannelData request ctx w).2) ∧
    ∀ sent, Sent payloadTypeGrpData (hash :: c.sealed (channelKey secret) text) sent →
      ∀ got, Relayed sent got → ∀ ctx w channel, channel.secret = channelKey secret →
        ListensTo c channel hash text got ctx w →
        (meshOnRecvPacket got ctx w).2.events
          = w.events ++ [.channelData (channelDataEvent channel dataType payload got)] := by
  intro text
  refine ⟨fun ctx w hroom hc hchannel => executeChannelData_shipped hr hroom hc hchannel, ?_⟩
  intro sent hsent got hrelayed ctx w channel hkey hlistens
  obtain ⟨-, -, -, hlen⟩ := payload_of_validateChannelData hr
  have hload := hrelayed.load hsent.toLoad
  rw [← hkey] at hload
  obtain ⟨w', ⟨hevents, -, -, hinit, -, hlater⟩, hrun⟩ :=
    meshOnRecvPacket_channel (.inl rfl) (by simp [text, ChannelData.text]) hload hlistens
  rw [hrun, onGroupDataRecv_data channel got dataType (hinit.trans hlistens.initialized)
    (hlistens.chat _ hlater) hlen, hevents]

/-- A channel whose secret is all zeros. -/
def zeroChannel : GroupChannel := ⟨1, Buf.zero _⟩

/-- A CHAT node in that channel. -/
def Ctx.listening : Ctx :=
  { Ctx.forwarding with
    hooks := fun n =>
      { Ctx.forwarding.hooks n with
        aes128EncryptBlock := fun _ block => some block
        aes128DecryptBlock := fun _ block => some block
        hmacSha256 := fun n _ _ => some (Buf.zero n)
        channelSearchByHash := fun _ => [zeroChannel] } }

theorem listensTo_zeroChannel {got : Packet} (src : List UInt8) (hend : AtEnd got)
    (hlen : got.payloadLen ≤ packetPayloadMaxLen) :
    ListensTo .plain zeroChannel 1 src got .listening { World.boot with initialized := true } where
  atEnd := hend
  initialized := rfl
  unseen _ _ := tablesHasSeen_fresh (fun _ _ => rfl) hlen rfl
  passes _ _ := rfl
  chat _ _ := ⟨_, rfl, rfl⟩
  ciphers _ _ := ⟨fun _ _ => rfl, fun _ _ => rfl, fun _ _ => rfl⟩
  opensOnly _ _ := ⟨List.mem_singleton_self _, fun _ hother _ => List.mem_singleton.mp hother⟩

/-- A flood with two bytes for that channel. -/
def channelPacket : Packet :=
  { Packet.init with
    header := 0x19
    payloadLen := 19
    payload := (Buf.zero _).store 0
      (1 :: Cipher.plain.sealed (Buf.zero _) (ChannelData.text 7 [1, 2])) }

theorem channel_data_delivered_two :
    (meshOnRecvPacket channelPacket .listening { World.boot with initialized := true }).2.events
      = [.channelData (channelDataEvent zeroChannel 7 [1, 2] channelPacket)] := by
  have hvalid : validateChannelData (some (List.replicate 16 0)) none outPathUnknown 7 (some [1, 2])
      = some ⟨List.replicate 16 0, Buf.zero _, outPathUnknown, 7, [1, 2]⟩ := rfl
  have hkey : channelKey (List.replicate 16 0) = zeroChannel.secret := by decide +kernel
  have hsent : Sent payloadTypeGrpData (1 :: Cipher.plain.sealed (channelKey (List.replicate 16 0))
      (ChannelData.text 7 [1, 2])) channelPacket :=
    { type_eq := by decide
      payloadBytes_eq := by decide +kernel
      payloadLen_eq := by decide +kernel
      length_le := by decide +kernel
      route := .inl (by decide)
      validPathLen := by decide }
  have hair : OnAir channelPacket channelPacket := ⟨Packet.init, by decide +kernel⟩
  exact (channel_data_delivered .plain hvalid 1).2 channelPacket hsent channelPacket
    (.heard ⟨channelPacket, hair, rfl⟩) .listening _ zeroChannel hkey.symm
    (listensTo_zeroChannel _ (fun _ => by decide) (by decide))

end Meshcore
