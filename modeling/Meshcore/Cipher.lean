import Meshcore.Hearing
import Meshcore.Lib.BlockCipher
import Meshcore.Outcomes

/-!
# Sealed payloads

A node encrypts a text with the secret that it shares with a peer or a channel and puts a short MAC
in front. Whoever has the secret finds the MAC right and gets the text back, with zeros behind it to
the end of its last block.

## Main definitions

* `Cipher` — what the host's cipher computes
* `Cipher.sealed` — the MAC and the ciphertext of a text
* `padded` — the text that comes back

## Main results

* `seal_round_trip`
* `meshCreateGroupDatagram_made` — the packet for a channel
-/

namespace Meshcore

/-- What the host's cipher computes: a block cipher and a MAC of two bytes. -/
structure Cipher extends BlockCipher (Buf publicKeySize) cipherBlockSize where
  mac : Buf publicKeySize → List UInt8 → Buf cipherMacSize

/-- The host's cipher works, and computes this. -/
structure Hooks.Ciphers (c : Cipher) (hooks : Hooks) : Prop where
  encrypt : ∀ key block, hooks.aes128EncryptBlock key block = some (c.encrypt key block)
  decrypt : ∀ key block, hooks.aes128DecryptBlock key block = some (c.decrypt key block)
  mac : ∀ key data, hooks.hmacSha256 cipherMacSize key data = some (c.mac key data)

/-- How many blocks a text takes. -/
abbrev cipherBlockCount (src : List UInt8) : ℕ := blockCount cipherBlockSize src.length

/-- A text, with its last block filled up with zeros. -/
def padded (src : List UInt8) : List UInt8 :=
  src ++ List.replicate (cipherBlockCount src * cipherBlockSize - src.length) 0

theorem length_padded (src : List UInt8) :
    (padded src).length = cipherBlockCount src * cipherBlockSize := by
  have hle : src.length ≤ cipherBlockCount src * cipherBlockSize := le_blockCount_mul (by decide) _
  rw [padded, List.length_append, List.length_replicate, Nat.add_sub_cancel' hle]

/-- A ciphertext can be decrypted: there is at least one block, and the last one is whole. -/
def WholeBlocks (bytes : List UInt8) : Prop :=
  bytes.length ≠ 0 ∧ bytes.length % cipherBlockSize = 0

instance (bytes : List UInt8) : Decidable (WholeBlocks bytes) := inferInstanceAs (Decidable (_ ∧ _))

namespace Cipher

variable (c : Cipher) (key : Buf publicKeySize) (src : List UInt8)

def encrypted : List UInt8 := mapBlocks (c.encrypt key) (cipherBlockCount src) src

/-- The MAC of the ciphertext, and the ciphertext. -/
def sealed : List UInt8 := (c.mac key (c.encrypted key src)).bytes ++ c.encrypted key src

@[simp] theorem length_encrypted :
    (c.encrypted key src).length = cipherBlockCount src * cipherBlockSize := length_mapBlocks ..

@[simp] theorem length_sealed :
    (c.sealed key src).length = cipherMacSize + cipherBlockCount src * cipherBlockSize := by
  rw [sealed, List.length_append, Buf.length_bytes, length_encrypted]

/-- The blocks of a ciphertext, decrypted. -/
def decrypted (bytes : List UInt8) : List UInt8 :=
  mapBlocks (c.decrypt key) (bytes.length / cipherBlockSize) bytes

theorem length_decrypted {bytes : List UInt8} (h : WholeBlocks bytes) :
    (c.decrypted key bytes).length = bytes.length := by
  rw [decrypted, length_mapBlocks, Nat.div_mul_cancel (Nat.dvd_of_mod_eq_zero h.2)]

/-- Somebody who has this key takes the sealed text for one that was sealed with it. -/
def Opens (bytes : List UInt8) : Prop :=
  (c.mac key (bytes.drop cipherMacSize)).bytes = bytes.take cipherMacSize

instance (bytes : List UInt8) : Decidable (c.Opens key bytes) := inferInstanceAs (Decidable (_ = _))

end Cipher

section

variable {c : Cipher} {ctx : Ctx} {w : World} {key : Buf publicKeySize} {src : List UInt8}

/-! ### Sealing -/

theorem cipherBlocks_run {cipher : Hooks → Buf cipherBlockSize → Option (Buf cipherBlockSize)}
    {f : Buf cipherBlockSize → Buf cipherBlockSize}
    (h : FromNow ctx w fun hooks => ∀ block, cipher hooks block = some (f block)) (n : ℕ)
    (src : List UInt8) : (cipherBlocks cipher n src ctx w).1 = some (mapBlocks f n src) := by
  induction n generalizing src w with
  | zero => rfl
  | succ n ih =>
    have hblock : (hook (fun h => cipher h (cipherBlock src)) ctx w)
        = (some (f (cipherBlock src)), { w with tick := w.tick + 1 }) :=
      Prod.ext (h.now _) rfl
    have hlater : FromNow ctx { w with tick := w.tick + 1 } _ := h.later (Nat.le_succ w.tick)
    have hrest := ih hlater (src.drop cipherBlockSize)
    rw [cipherBlocks, Prog.run_bind_of hblock, Option.elim_some, Prog.run_bind, hrest]
    rfl

theorem utilsEncrypt_run (h : FromNow ctx w (Hooks.Ciphers c)) :
    (utilsEncrypt key src ctx w).1 = some (c.encrypted key src) := by
  let full := src.length / cipherBlockSize
  have hencrypt := h.imp fun _ hooks => hooks.encrypt key
  have hblocks := cipherBlocks_run hencrypt full src
  have hlater :=
    ((inferInstance : Moves Asks (cipherBlocks (·.aes128EncryptBlock key) full src)).moves ctx w).2
  have hlast := hencrypt.later hlater
  rw [utilsEncrypt]
  dsimp only
  rw [Prog.run_bind, hblocks, Option.elim_some]
  split
  · rename_i hrest
    have hcount : cipherBlockCount src = full := by
      rw [List.length_drop] at hrest
      change src.length - src.length / 16 * 16 = 0 at hrest
      show (src.length + 16 - 1) / 16 = src.length / 16
      omega
    rw [Cipher.encrypted, hcount]
    rfl
  · rename_i hrest
    have hcount : cipherBlockCount src = full + 1 := by
      rw [List.length_drop] at hrest
      change ¬src.length - src.length / 16 * 16 = 0 at hrest
      show (src.length + 16 - 1) / 16 = src.length / 16 + 1
      omega
    rw [Cipher.encrypted, hcount, mapBlocks_add, mapBlocks, mapBlocks, List.append_nil]
    exact congrArg (Option.map _) (hlast.now _)

theorem utilsEncryptThenMac_run (h : FromNow ctx w (Hooks.Ciphers c)) :
    (utilsEncryptThenMac key src ctx w).1 = some (c.sealed key src) := by
  have hlater := ((inferInstance : Moves Asks (utilsEncrypt key src)).moves ctx w).2
  have hfull : ¬(src.length > 0 ∧ (c.encrypted key src).length = 0) := by
    rintro ⟨hpos, hzero⟩
    have hle := le_blockCount_mul (show 0 < cipherBlockSize by decide) src.length
    rw [Cipher.length_encrypted] at hzero
    exact absurd (hle.trans_eq hzero) (not_le.mpr hpos)
  rw [utilsEncryptThenMac, Prog.run_bind, utilsEncrypt_run h, Option.elim_some, if_neg hfull]
  exact congrArg (Option.map _) ((h.later hlater).now.mac _ _)

/-! ### Opening -/

/-- Bytes are opened when the MAC in front of them is right and whole blocks follow it. -/
theorem utilsMacThenDecrypt_run (bytes : List UInt8) (h : FromNow ctx w (Hooks.Ciphers c)) :
    (utilsMacThenDecrypt key bytes ctx w).1 =
      if c.Opens key bytes ∧ WholeBlocks (bytes.drop cipherMacSize) then
        c.decrypted key (bytes.drop cipherMacSize)
      else [] := by
  have hlater : FromNow ctx { w with tick := w.tick + 1 } (Hooks.Ciphers c) :=
    h.later (Nat.le_succ w.tick)
  have hblocks := cipherBlocks_run (hlater.imp fun _ hooks => hooks.decrypt key)
    ((bytes.drop cipherMacSize).length / cipherBlockSize) (bytes.drop cipherMacSize)
  have hhmac : hook (fun h => h.hmacSha256 cipherMacSize key (bytes.drop cipherMacSize)) ctx w
      = (some (c.mac key (bytes.drop cipherMacSize)), { w with tick := w.tick + 1 }) :=
    Prod.ext (h.now.mac _ _) rfl
  by_cases hlong : bytes.length ≤ cipherMacSize
  · have hshort : ¬WholeBlocks (bytes.drop cipherMacSize) := fun hwhole =>
      hwhole.1 (by rw [List.length_drop, Nat.sub_eq_zero_of_le hlong])
    rw [utilsMacThenDecrypt, if_pos hlong, if_neg fun h => hshort h.2]
    rfl
  · rw [utilsMacThenDecrypt, if_neg hlong, Prog.run_bind_of hhmac, Option.elim_some]
    by_cases hopens : c.Opens key bytes
    · have hmac : ¬(c.mac key (bytes.drop cipherMacSize)).bytes ≠ bytes.take cipherMacSize :=
        not_not.mpr hopens
      rw [if_neg hmac, utilsDecrypt]
      by_cases hwhole : WholeBlocks (bytes.drop cipherMacSize)
      · rw [if_neg (not_or.mpr ⟨hwhole.1, not_not.mpr hwhole.2⟩), Prog.run_map,
          if_pos ⟨hopens, hwhole⟩]
        exact congrArg (Option.getD · []) hblocks
      · have hcut : (bytes.drop cipherMacSize).length = 0 ∨
            (bytes.drop cipherMacSize).length % cipherBlockSize ≠ 0 := by
          by_contra hnot
          rw [not_or, not_not] at hnot
          exact hwhole hnot
        rw [if_pos hcut, if_neg fun h => hwhole h.2]
        rfl
    · have hmac : (c.mac key (bytes.drop cipherMacSize)).bytes ≠ bytes.take cipherMacSize := hopens
      rw [if_pos hmac, if_neg fun h => hopens h.1]
      rfl

/-- A sealed text comes back with its last block filled up. -/
theorem utilsMacThenDecrypt_sealed (h : FromNow ctx w (Hooks.Ciphers c)) (hsrc : src ≠ []) :
    (utilsMacThenDecrypt key (c.sealed key src) ctx w).1 = padded src := by
  have hle : src.length ≤ cipherBlockCount src * cipherBlockSize := le_blockCount_mul (by decide) _
  have hpos : 0 < cipherBlockCount src * cipherBlockSize :=
    (List.length_pos_iff.mpr hsrc).trans_le hle
  have htext : (c.sealed key src).drop cipherMacSize = c.encrypted key src :=
    List.drop_left' (Buf.length_bytes _)
  have hopens : c.Opens key (c.sealed key src) := by
    rw [Cipher.Opens, htext]
    exact (List.take_left' (Buf.length_bytes _)).symm
  have hwhole : WholeBlocks (c.encrypted key src) := by
    rw [WholeBlocks, Cipher.length_encrypted]
    exact ⟨hpos.ne', Nat.mul_mod_left ..⟩
  have hcount : (c.encrypted key src).length / cipherBlockSize = cipherBlockCount src := by
    rw [Cipher.length_encrypted, Nat.mul_div_cancel _ (by decide)]
  rw [utilsMacThenDecrypt_run _ h, htext, if_pos ⟨hopens, hwhole⟩, Cipher.decrypted, hcount,
    Cipher.encrypted, c.decrypt_text key hle]
  rfl

/-- Nothing comes back with a key for which the MAC is wrong. -/
theorem utilsMacThenDecrypt_refused {bytes : List UInt8} (h : FromNow ctx w (Hooks.Ciphers c))
    (hopens : ¬c.Opens key bytes) : (utilsMacThenDecrypt key bytes ctx w).1 = [] := by
  rw [utilsMacThenDecrypt_run bytes h, if_neg fun h => hopens h.1]

end

/-- **Sealing and opening.** A text that is not empty is sealed, and whoever has the key gets it
back with zeros to the end of its last block. What is opened, and only that, has the MAC of the rest
in front and a rest of whole blocks, at least one, and it gives as many bytes as the rest has. -/
theorem seal_round_trip (c : Cipher) (key : Buf publicKeySize) :
    (∀ src, src ≠ [] → ∀ ctx w, FromNow ctx w (Hooks.Ciphers c) →
      ∃ bytes, (utilsEncryptThenMac key src ctx w).1 = some bytes ∧
        ∀ ctx w, FromNow ctx w (Hooks.Ciphers c) →
          let text := (utilsMacThenDecrypt key bytes ctx w).1
          text.length = (src.length + 15) / 16 * 16 ∧
            text = src ++ List.replicate (text.length - src.length) 0) ∧
    ∀ bytes ctx w, FromNow ctx w (Hooks.Ciphers c) →
      let text := (utilsMacThenDecrypt key bytes ctx w).1
      let rest := bytes.drop 2
      (0 < text.length ↔ bytes.take 2 = (c.mac key rest).bytes ∧ rest ≠ [] ∧ rest.length % 16 = 0) ∧
        (0 < text.length → text.length = rest.length) := by
  refine ⟨fun src hsrc ctx w h => ⟨_, utilsEncryptThenMac_run h, fun ctx w h => ?_⟩,
    fun bytes ctx w h => ?_⟩
  · have hlen : (padded src).length = (src.length + 15) / 16 * 16 := length_padded src
    dsimp only
    rw [utilsMacThenDecrypt_sealed h hsrc, hlen]
    exact ⟨rfl, rfl⟩
  · have hwhole : (bytes.take 2 = (c.mac key (bytes.drop 2)).bytes ∧ bytes.drop 2 ≠ [] ∧
        (bytes.drop 2).length % 16 = 0) ↔ c.Opens key bytes ∧ WholeBlocks (bytes.drop 2) := by
      rw [Cipher.Opens, WholeBlocks, eq_comm, ne_eq, ← List.length_eq_zero_iff]
    dsimp only
    rw [hwhole, utilsMacThenDecrypt_run bytes h]
    split
    · rename_i hopens
      have hlen := c.length_decrypted key hopens.2
      rw [hlen]
      exact ⟨⟨fun _ => hopens, fun _ => Nat.pos_of_ne_zero hopens.2.1⟩, fun _ => rfl⟩
    · rename_i hopens
      exact ⟨⟨fun hpos => absurd hpos (lt_irrefl 0), fun h => absurd h hopens⟩,
        fun hpos => absurd hpos (lt_irrefl 0)⟩

/-- A cipher that changes nothing. -/
def Cipher.plain : Cipher where
  encrypt _ block := block
  decrypt _ block := block
  decrypt_encrypt _ _ := rfl
  mac _ _ := Buf.zero _

/-- A host with that cipher. -/
def Ctx.sealing : Ctx :=
  { Ctx.silent with
    hooks := fun n =>
      { Ctx.silent.hooks n with
        aes128EncryptBlock := fun _ block => some block
        aes128DecryptBlock := fun _ block => some block
        hmacSha256 := fun n _ _ => some (Buf.zero n) } }

theorem sealing_ciphers (w : World) : FromNow .sealing w (Hooks.Ciphers .plain) := fun _ _ =>
  ⟨fun _ _ => rfl, fun _ _ => rfl, fun _ _ => rfl⟩

theorem seal_round_trip_plain :
    (∃ bytes, (utilsEncryptThenMac (Buf.zero _) [7] .sealing .boot).1 = some bytes ∧
      (utilsMacThenDecrypt (Buf.zero _) bytes .sealing .boot).1.length = 16) ∧
    ¬0 < (utilsMacThenDecrypt (Buf.zero _) [0, 1, 2] .sealing .boot).1.length := by
  obtain ⟨hseals, hopens⟩ := seal_round_trip .plain (Buf.zero _)
  obtain ⟨bytes, hbytes, htext⟩ := hseals [7] (List.cons_ne_nil _ _) .sealing .boot
    (sealing_ciphers _)
  refine ⟨⟨bytes, hbytes, (htext .sealing .boot (sealing_ciphers _)).1⟩, ?_⟩
  rw [(hopens [0, 1, 2] .sealing .boot (sealing_ciphers _)).1]
  decide

section

variable {c : Cipher} {ctx : Ctx} {w : World} {key : Buf publicKeySize} {src : List UInt8}

/-! ### Packets -/

/-- A packet is filled with the sealed text. -/
theorem fillEncrypted_load {type : UInt8} (id : PacketId) (clear : List UInt8)
    (h : FromNow ctx w (Hooks.Ciphers c))
    (hlen : (clear ++ c.sealed key src).length ≤ packetPayloadMaxLen) :
    (fillEncrypted id type clear key src ctx w).1 = some id ∧
      Load (madeType type) (clear ++ c.sealed key src)
        ((fillEncrypted id type clear key src ctx w).2.packetManager.packetBuf id) := by
  rw [fillEncrypted, Prog.run_bind, utilsEncryptThenMac_run h, Option.elim_some]
  refine ⟨rfl, (Fills.update fun p => ?_).fills ctx _ id rfl⟩
  rw [← List.length_append]
  exact @Load.fill type (clear ++ c.sealed key src) p hlen p.pathLen p.transportCodes p.path p.snrQ4

/-- The packet for a channel carries the hash of the channel and the sealed text. -/
theorem meshCreateGroupDatagram_made {type : UInt8} {held : List PacketId} {channel : GroupChannel}
    (htype : type = payloadTypeGrpTxt ∨ type = payloadTypeGrpData)
    (hlen : src.length ≤ packetPayloadMaxLen - 1 - cipherBlockSize + 1)
    (h : FromNow ctx w (Hooks.Ciphers c)) (hpool : w.PoolIntact ctx held)
    (hfree : 0 < w.packetManager.getFreeCount) :
    ∃ id, (meshCreateGroupDatagram type channel src ctx w).1 = some id ∧
      Made (Load (madeType type) (channel.hash :: c.sealed channel.secret src)) ctx held w id
        (meshCreateGroupDatagram type channel src ctx w).2 := by
  obtain ⟨id, hid⟩ := Option.isSome_iff_exists.mp
    (dispatcherObtainNewPacket_isSome hpool.conserves hfree)
  have hlater := ((inferInstance : Moves Mute dispatcherObtainNewPacket).moves ctx w).2.2.2.2.2
  have hsealed : ([channel.hash] ++ c.sealed channel.secret src).length ≤ packetPayloadMaxLen := by
    rw [List.length_append, Cipher.length_sealed, List.length_singleton]
    change src.length ≤ 168 at hlen
    show 1 + (2 + (src.length + 16 - 1) / 16 * 16) ≤ 184
    omega
  have hrun : meshCreateGroupDatagram type channel src ctx w
      = fillEncrypted id type [channel.hash] channel.secret src ctx
        (dispatcherObtainNewPacket ctx w).2 := by
    rw [meshCreateGroupDatagram, if_neg (by simp [htype]), if_neg (not_lt.mpr hlen), Prog.run_bind,
      hid]
    rfl
  obtain ⟨hsome, hload⟩ := @fillEncrypted_load c ctx (dispatcherObtainNewPacket ctx w).2
    channel.secret src type id [channel.hash] (h.later hlater) hsealed
  rw [← hrun] at hsome hload
  exact ⟨id, hsome, .of_some hpool hsome hload⟩

end

end Meshcore
