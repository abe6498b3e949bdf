import Meshcore.Lib.Pieces
import Meshcore.Lib.Writes
import Meshcore.LostRequests
import Meshcore.PathReturns

/-!
# The constructors of packets

A constructor checks how much it is given, takes a free buffer and fills its payload, some with a
text that is sealed on the spot. The limits are differences of sizes, what is written is a sum of
them with the text rounded up to whole blocks, and the two have to agree at every length.

## Main definitions

* `Construction` — a call of a constructor
* `Construction.Accepts` — its check of types and lengths
* `Construction.payloadWrites`, `Construction.localWrites` — what it writes, and where
* `Prepared` — the calls that requests lead to

## Main results

* `Construction.staysIn` — no write leaves its array
* `Construction.filled` — the payload is what was written
* `constructors_stay_inside`
-/

namespace Meshcore

/-- A call of a constructor. -/
inductive Construction where
  | advert (identity : LocalIdentity) (appData : List UInt8)
  | datagram (type : UInt8) (dest : Identity) (secret : Buf publicKeySize) (data : List UInt8)
  | anonDatagram (type : UInt8) (sender : LocalIdentity) (dest : Identity)
      (secret : Buf publicKeySize) (data : List UInt8)
  | groupDatagram (type : UInt8) (channel : GroupChannel) (data : List UInt8)
  | ackData (ack : List UInt8)
  | multiAckData (ack : List UInt8) (remaining : UInt8)
  | pathReturn (destHash : UInt8) (secret : Buf publicKeySize) (path : List UInt8)
      (pathLen extraType : UInt8) (extra : List UInt8)
  | rawData (data : List UInt8)
  | trace (tag authCode : UInt32) (flags : UInt8)
  | controlData (data : List UInt8)

/-- What a constructor draws from outside: its own key, the clock, the signature, random bytes, the
blocks of the ciphertext as far as there were any, and the MAC unless it failed. -/
structure Gathered where
  selfId : Identity
  timestamp : UInt32
  signature : Buf 64
  random : Buf 4
  blocks : List (Buf cipherBlockSize)
  mac : Option (Buf cipherMacSize)

namespace Construction

/-- The constructors by their names. -/
def create : Construction → M (Option PacketId)
  | advert identity appData => meshCreateAdvert identity appData
  | datagram type dest secret data => meshCreateDatagram type dest secret data
  | anonDatagram type sender dest secret data => meshCreateAnonDatagram type sender dest secret data
  | groupDatagram type channel data => meshCreateGroupDatagram type channel data
  | ackData ack => meshCreateAckData ack
  | multiAckData ack remaining => meshCreateMultiAckData ack remaining
  | pathReturn destHash secret path pathLen extraType extra =>
      meshCreatePathReturnByDestHash [destHash] secret path pathLen extraType extra
  | rawData data => meshCreateRawData data
  | trace tag authCode flags => meshCreateTrace tag authCode flags
  | controlData data => meshCreateControlData data

/-- The types and the lengths that a constructor takes. -/
def Accepts : Construction → Prop
  | advert _ appData => appData.length ≤ meshMaxAdvertDataSize
  | datagram type _ _ data =>
      (type = payloadTypeTxtMsg ∨ type = payloadTypeReq ∨ type = payloadTypeResponse) ∧
        meshDatagramPlaintextFits data.length = true
  | anonDatagram type _ _ _ data =>
      type = payloadTypeAnonReq ∧
        data.length ≤ packetPayloadMaxLen - 1 - publicKeySize - cipherBlockSize + 1
  | groupDatagram type _ data =>
      (type = payloadTypeGrpTxt ∨ type = payloadTypeGrpData) ∧
        data.length ≤ packetPayloadMaxLen - 1 - cipherBlockSize + 1
  | ackData ack => ack.length ≤ packetPayloadMaxLen
  | multiAckData ack _ => ack.length ≤ packetPayloadMaxLen - 1
  | pathReturn _ _ _ pathLen _ extra => meshPathReturnExtraFits pathLen extra.length = true
  | rawData data => data.length ≤ packetPayloadMaxLen
  | trace .. => True
  | controlData data => data.length ≤ packetPayloadMaxLen

/-- The text that a constructor seals. -/
def plaintext (d : Gathered) : Construction → List UInt8
  | datagram _ _ _ data | anonDatagram _ _ _ _ data | groupDatagram _ _ data => data
  | pathReturn _ _ path pathLen extraType extra =>
      pathReturnText pathLen path (sentExtra extraType extra d.random).1
        (sentExtra extraType extra d.random).2
  | _ => []

/-- The writes of `meshcore_utils_encrypt_then_mac`: the blocks behind the place of the MAC, then
the MAC. -/
def sealWrites (off : ℕ) (d : Gathered) : List Write :=
  endToEnd (off + cipherMacSize) (d.blocks.map Buf.bytes) ++
    (d.mac.map fun mac => (off, mac.bytes)).toList

/-- The writes into the payload of the packet. -/
def payloadWrites (d : Gathered) : Construction → List Write
  | advert identity appData =>
      endToEnd 0 [identity.identity.bytes, leBytes 4 d.timestamp.toNat] ++
        (endToEnd (publicKeySize + 4 + 64) [appData] ++ [(publicKeySize + 4, d.signature.bytes)])
  | datagram _ dest _ _ =>
      endToEnd 0 [identityCopyHashTo dest, identityCopyHashTo d.selfId] ++ sealWrites 2 d
  | anonDatagram _ sender dest _ _ =>
      endToEnd 0 [identityCopyHashTo dest, sender.identity.bytes] ++
        sealWrites (1 + publicKeySize) d
  | groupDatagram _ channel _ => endToEnd 0 [[channel.hash]] ++ sealWrites 1 d
  | ackData ack => endToEnd 0 [ack]
  | multiAckData ack remaining => endToEnd 0 [[(remaining <<< 4) ||| payloadTypeAck], ack]
  | pathReturn destHash .. =>
      endToEnd 0 [[destHash], identityCopyHashTo d.selfId] ++ sealWrites 2 d
  | rawData data | controlData data => endToEnd 0 [data]
  | trace tag authCode flags => endToEnd 0 [leBytes 4 tag.toNat, leBytes 4 authCode.toNat, [flags]]

/-- The block on the stack in which `meshcore_utils_encrypt` fills up what is left of a text. -/
def lastBlockWrites (text : List UInt8) : List Write :=
  let rest := text.drop (text.length / cipherBlockSize * cipherBlockSize)
  if rest = [] then [] else [(0, List.replicate cipherBlockSize 0), (0, rest)]

/-- The arrays on the stack, their sizes and the writes into them. -/
def localWrites (d : Gathered) (k : Construction) : List (ℕ × List Write) :=
  (cipherBlockSize, lastBlockWrites (k.plaintext d)) ::
    match k with
    | advert identity appData =>
        [(publicKeySize + 4 + meshMaxAdvertDataSize,
          endToEnd 0 [identity.identity.bytes, leBytes 4 d.timestamp.toNat, appData])]
    | pathReturn _ _ path pathLen extraType extra =>
        let tail := sentExtra extraType extra d.random
        [(packetPayloadMaxLen,
          endToEnd 0 [[pathLen], path.take (pathBytesOf pathLen), [tail.1], tail.2])]
    | _ => []

/-- The ciphertext has no more blocks than the text. -/
def Sealing (d : Gathered) (k : Construction) : Prop :=
  d.blocks.length ≤ cipherBlockCount (k.plaintext d)

/-! ### Nothing is overrun -/

/-- Each block has its size. -/
theorem length_blocks (d : Gathered) :
    (d.blocks.map Buf.bytes).flatten.length = d.blocks.length * cipherBlockSize := by
  have hpieces : PiecesOf cipherBlockSize (d.blocks.map Buf.bytes) := by
    intro piece hmem
    obtain ⟨block, -, rfl⟩ := List.mem_map.mp hmem
    exact block.length_bytes
  rw [hpieces.length_flatten, List.length_map]

/-- A sealed text stays inside the payload when its blocks do. -/
theorem staysIn_sealWrites {off : ℕ} {d : Gathered}
    (h : off + cipherMacSize + d.blocks.length * cipherBlockSize ≤ packetPayloadMaxLen) :
    StaysIn packetPayloadMaxLen (sealWrites off d) := by
  refine (staysIn_endToEnd _ ?_).append ?_
  · rwa [length_blocks]
  · intro write hmem
    obtain ⟨mac, -, rfl⟩ := Option.map_eq_some_iff.mp (Option.mem_toList.mp hmem)
    show off + mac.bytes.length ≤ _
    rw [mac.length_bytes]
    omega

/-- What is left of a text is less than a block. -/
theorem staysIn_lastBlockWrites (text : List UInt8) :
    StaysIn cipherBlockSize (lastBlockWrites text) := by
  rw [lastBlockWrites]
  split
  · exact List.forall_mem_nil _
  · rintro write hmem
    rcases List.mem_cons.mp hmem with rfl | hmem
    · exact (Nat.zero_add _).trans_le (List.length_replicate).le
    · obtain rfl := List.mem_singleton.mp hmem
      show 0 + (text.drop (text.length / 16 * 16)).length ≤ 16
      rw [List.length_drop]
      omega

/-- Clear pieces and a sealed text stay inside the payload when the text is short enough. -/
theorem staysIn_sealed {front : List (List UInt8)} {off : ℕ} {d : Gathered} {text : List UInt8}
    (hoff : front.flatten.length = off) (hblocks : d.blocks.length ≤ cipherBlockCount text)
    (h : off + cipherMacSize + cipherBlockCount text * cipherBlockSize ≤ packetPayloadMaxLen) :
    StaysIn packetPayloadMaxLen (endToEnd 0 front ++ sealWrites off d) := by
  have hmul := Nat.mul_le_mul_right cipherBlockSize hblocks
  refine (staysIn_endToEnd _ ?_).append (staysIn_sealWrites ?_) <;> omega

/-- The text of a path return that fits is short enough. -/
theorem length_pathReturn_le {path extra : List UInt8} {pathLen extraType : UInt8}
    (hfits : meshPathReturnExtraFits pathLen extra.length = true) (random : Buf 4) :
    let tail := sentExtra extraType extra random
    (pathReturnText pathLen path tail.1 tail.2).length ≤ 167 := by
  have htail : (sentExtra extraType extra random).2.length ≤ extra.length + 4 := by
    rw [sentExtra]
    split
    · rw [Buf.length_bytes]
      omega
    · exact Nat.le_add_right ..
  exact length_le_of_pathReturnExtraFits hfits (by rw [List.length_cons]; omega) path

/-- **No constructor overruns.** Whatever it draws, what a constructor writes for a length that it
accepts stays inside the payload, and inside its arrays on the stack. -/
theorem staysIn {k : Construction} {d : Gathered} (h : k.Accepts) (hseal : k.Sealing d) :
    StaysIn packetPayloadMaxLen (k.payloadWrites d) ∧
      ∀ array ∈ k.localWrites d, StaysIn array.1 array.2 := by
  have hlast := staysIn_lastBlockWrites (k.plaintext d)
  cases k with
  | advert identity appData =>
    have hkey : identity.identity.bytes.length = 32 := identity.identity.length_bytes
    have hlen : appData.length ≤ 32 := h
    refine ⟨?_, List.forall_mem_cons.mpr ⟨hlast, List.forall_mem_singleton.mpr ?_⟩⟩
    · refine (staysIn_endToEnd _ ?_).append ((staysIn_endToEnd _ ?_).append ?_)
      · simp [hkey]
        decide
      · simp only [List.flatten_cons, List.flatten_nil, List.append_nil]
        show 32 + 4 + 64 + appData.length ≤ 184
        omega
      · refine List.forall_mem_singleton.mpr ?_
        show 32 + 4 + d.signature.bytes.length ≤ 184
        rw [Buf.length_bytes]
        omega
    · refine staysIn_endToEnd _ ?_
      simp only [List.flatten_cons, List.flatten_nil, List.append_nil, List.length_append, hkey,
        length_leBytes]
      show 0 + (32 + (4 + appData.length)) ≤ 32 + 4 + 32
      omega
  | datagram type dest secret data =>
    have hlen : data.length ≤ 167 := of_decide_eq_true h.2
    refine ⟨staysIn_sealed ?_ hseal ?_, List.forall_mem_singleton.mpr hlast⟩
    · simp [identityCopyHashTo_length]
    · show 2 + 2 + (data.length + 16 - 1) / 16 * 16 ≤ 184
      omega
  | anonDatagram type sender dest secret data =>
    have hlen : data.length ≤ 136 := h.2
    have hkey : sender.identity.bytes.length = 32 := sender.identity.length_bytes
    refine ⟨staysIn_sealed ?_ hseal ?_, List.forall_mem_singleton.mpr hlast⟩
    · simp [identityCopyHashTo_length, hkey]
      rfl
    · show 1 + 32 + 2 + (data.length + 16 - 1) / 16 * 16 ≤ 184
      omega
  | groupDatagram type channel data =>
    have hlen : data.length ≤ 168 := h.2
    refine ⟨staysIn_sealed ?_ hseal ?_, List.forall_mem_singleton.mpr hlast⟩
    · rfl
    · show 1 + 2 + (data.length + 16 - 1) / 16 * 16 ≤ 184
      omega
  | ackData ack =>
    refine ⟨staysIn_endToEnd _ ?_, List.forall_mem_singleton.mpr hlast⟩
    simpa using show _ ≤ packetPayloadMaxLen from h
  | multiAckData ack remaining =>
    have hlen : ack.length ≤ 183 := h
    refine ⟨staysIn_endToEnd _ ?_, List.forall_mem_singleton.mpr hlast⟩
    simp only [List.flatten_cons, List.flatten_nil, List.append_nil, List.length_append,
      List.length_singleton]
    show 0 + (1 + ack.length) ≤ 184
    omega
  | pathReturn destHash secret path pathLen extraType extra =>
    have hlen := @length_pathReturn_le path extra pathLen extraType h d.random
    refine ⟨staysIn_sealed ?_ hseal ?_, List.forall_mem_cons.mpr ⟨hlast,
      List.forall_mem_singleton.mpr (staysIn_endToEnd _ ?_)⟩⟩
    · simp [identityCopyHashTo_length]
    · show 2 + 2 + ((pathReturnText pathLen path _ _).length + 16 - 1) / 16 * 16 ≤ 184
      omega
    · have htext : ([[pathLen], path.take (pathBytesOf pathLen),
          [(sentExtra extraType extra d.random).1], (sentExtra extraType extra d.random).2] :
          List (List UInt8)).flatten = pathReturnText pathLen path
            (sentExtra extraType extra d.random).1 (sentExtra extraType extra d.random).2 := by
        simp [pathReturnText]
      show 0 + List.length _ ≤ 184
      rw [htext]
      omega
  | rawData data =>
    refine ⟨staysIn_endToEnd _ ?_, List.forall_mem_singleton.mpr hlast⟩
    simpa using show _ ≤ packetPayloadMaxLen from h
  | trace tag authCode flags =>
    refine ⟨staysIn_endToEnd _ ?_, List.forall_mem_singleton.mpr hlast⟩
    simp
    decide
  | controlData data =>
    refine ⟨staysIn_endToEnd _ ?_, List.forall_mem_singleton.mpr hlast⟩
    simpa using show _ ≤ packetPayloadMaxLen from h

end Construction

/-! ### What was written is what is sent -/

/-- The buffers keep their payloads. -/
def SamePayloads (_ : Ctx) (w w' : World) : Prop :=
  ∀ id, (w'.packetManager.packetBuf id).payload = (w.packetManager.packetBuf id).payload

instance : Composes SamePayloads where
  refl _ _ _ := rfl
  trans _ _ _ _ h h' id := (h' id).trans (h id)

instance (priority := low) Moves.samePayloadsOfAsks {α : Type} (m : M α) [hm : Moves Asks m] :
    Moves SamePayloads m where
  moves ctx w id := by rw [(hm.moves ctx w).1]

theorem Moves.samePayloadsUpdate {id : PacketId} {f : Packet → Packet}
    (h : ∀ p, (f p).payload = p.payload) : Moves SamePayloads (updatePacket id f) where
  moves _ _ id' := by
    by_cases hid : id' = id
    · subst hid
      exact (congrArg Packet.payload (Function.update_self ..)).trans (h _)
    · exact congrArg Packet.payload (Function.update_of_ne hid ..)

instance : Moves SamePayloads allocPacket where
  moves _ w id := congrArg (fun bufs => Packet.payload (bufs id))
    (@PacketQueueManager.packetBuf_allocNew w.packetManager)

instance (flag : UInt16) : Moves SamePayloads (setErrFlag flag) := ⟨fun _ _ _ => rfl⟩

/-- A buffer that is taken keeps its payload. -/
instance : Moves SamePayloads dispatcherObtainNewPacket := by
  have hclear : ∀ id, Moves SamePayloads (updatePacket id fun p : Packet =>
      { p with payloadLen := 0, pathLen := 0, snrQ4 := 0 }) := fun _ =>
    Moves.samePayloadsUpdate fun _ => rfl
  unfold dispatcherObtainNewPacket
  infer_instance

/-- A program that fills a packet, and from the payload that the buffer had before makes the new
one. -/
class Assembles (Q : Buf packetPayloadMaxLen → Packet → Prop) (m : M (Option PacketId)) : Prop where
  stores : ∀ ctx w id, (m ctx w).1 = some id →
    Q (w.packetManager.packetBuf id).payload ((m ctx w).2.packetManager.packetBuf id)

namespace Assembles

variable {Q : Buf packetPayloadMaxLen → Packet → Prop} {α : Type}

instance bind (m : M α) (f : α → M (Option PacketId)) [hm : Moves SamePayloads m]
    [hf : ∀ a, Assembles Q (f a)] : Assembles Q (m >>= f) where
  stores ctx w id h := by
    have hQ := (hf _).stores ctx _ id h
    rw [hm.moves ctx w id] at hQ
    exact hQ

/-- What follows may rely on what the first program answers. -/
theorem bind_of_returns {P : α → Prop} {m : M α} {f : α → M (Option PacketId)} [hP : Returns P m]
    [hm : Moves SamePayloads m] (hf : ∀ a, P a → Assembles Q (f a)) : Assembles Q (m >>= f) where
  stores ctx w id h := by
    have hQ := (hf _ (hP.returns ctx w)).stores ctx _ id h
    rw [hm.moves ctx w id] at hQ
    exact hQ

instance none : Assembles Q (pure Option.none) := ⟨fun _ _ _ h => absurd h (by simp)⟩

instance elim (o : Option α) (f : α → M (Option PacketId)) [hf : ∀ a, Assembles Q (f a)] :
    Assembles Q (o.elim (pure Option.none) f) := by
  cases o with
  | none => exact Assembles.none
  | some a => exact hf a

/-- A packet that cannot be filled is given back. -/
theorem release (id : PacketId) : Assembles Q (do
    dispatcherReleasePacket id
    pure Option.none) := ⟨fun _ _ _ h => absurd h (by simp)⟩

theorem update {id : PacketId} {f : Packet → Packet} (h : ∀ p, Q p.payload (f p)) :
    Assembles Q (do
      updatePacket id f
      pure (some id)) where
  stores ctx w id' hid := by
    obtain rfl := Option.some.inj hid
    simpa [updatePacket, readPacket] using h _

end Assembles

section

variable {ctx : Ctx} {w : World} {secret : Buf publicKeySize} {src out : List UInt8}

/-- What the cipher made are whole blocks. -/
theorem cipherBlocks_blocks {cipher : Hooks → Buf cipherBlockSize → Option (Buf cipherBlockSize)}
    {n : ℕ} (h : (cipherBlocks cipher n src ctx w).1 = some out) :
    ∃ blocks : List (Buf cipherBlockSize),
      blocks.length = n ∧ out = (blocks.map Buf.bytes).flatten := by
  induction n generalizing src out w with
  | zero =>
    obtain rfl := Option.some.inj h
    exact ⟨[], rfl, rfl⟩
  | succ n ih =>
    rw [cipherBlocks, Prog.run_bind] at h
    cases hblock : (hook (fun h => cipher h (cipherBlock src)) ctx w).1 with
    | none => simp [hblock] at h
    | some block =>
      simp only [hblock, Option.elim_some, Prog.run_bind, Prog.run_pure,
        Option.map_eq_some_iff] at h
      obtain ⟨rest, hrest, rfl⟩ := h
      obtain ⟨blocks, hlen, rfl⟩ := ih hrest
      exact ⟨block :: blocks, congrArg Nat.succ hlen, rfl⟩

theorem utilsEncrypt_blocks (h : (utilsEncrypt secret src ctx w).1 = some out) :
    ∃ blocks : List (Buf cipherBlockSize), blocks.length = cipherBlockCount src ∧
      out = (blocks.map Buf.bytes).flatten := by
  rw [utilsEncrypt, Prog.run_bind] at h
  cases hfull : (cipherBlocks (·.aes128EncryptBlock secret) (src.length / cipherBlockSize) src ctx
    w).1 with
  | none => simp [hfull] at h
  | some full =>
    obtain ⟨blocks, hlen, rfl⟩ := cipherBlocks_blocks hfull
    simp only [hfull, Option.elim_some, Prog.run_ite, List.length_drop, Prog.run_bind,
      Prog.run_pure] at h
    split at h
    · rename_i hrest
      obtain rfl := Option.some.inj h
      refine ⟨blocks, ?_, rfl⟩
      change src.length - src.length / 16 * 16 = 0 at hrest
      rw [hlen]
      show src.length / 16 = (src.length + 16 - 1) / 16
      omega
    · rename_i hrest
      rw [Option.map_eq_some_iff] at h
      obtain ⟨block, -, rfl⟩ := h
      refine ⟨blocks ++ [block], ?_, by simp⟩
      change ¬src.length - src.length / 16 * 16 = 0 at hrest
      rw [List.length_append, hlen, List.length_singleton]
      show src.length / 16 + 1 = (src.length + 16 - 1) / 16
      omega

theorem utilsEncryptThenMac_blocks (h : (utilsEncryptThenMac secret src ctx w).1 = some out) :
    ∃ (mac : Buf cipherMacSize) (blocks : List (Buf cipherBlockSize)),
      blocks.length = cipherBlockCount src ∧ out = mac.bytes ++ (blocks.map Buf.bytes).flatten := by
  rw [utilsEncryptThenMac, Prog.run_bind] at h
  cases henc : (utilsEncrypt secret src ctx w).1 with
  | none => simp [henc] at h
  | some enc =>
    simp only [henc, Option.elim_some, Prog.run_ite, Prog.run_bind, Prog.run_pure] at h
    split at h
    · cases h
    · rw [Option.map_eq_some_iff] at h
      obtain ⟨mac, -, rfl⟩ := h
      obtain ⟨blocks, hlen, rfl⟩ := utilsEncrypt_blocks henc
      exact ⟨mac, blocks, hlen, rfl⟩

/-- A packet is filled with a clear part, a MAC and the blocks of a text. -/
theorem Assembles.sealed {Q : Buf packetPayloadMaxLen → Packet → Prop} (id : PacketId)
    (type : UInt8) (clear : List UInt8)
    (h : ∀ (mac : Buf cipherMacSize) (blocks : List (Buf cipherBlockSize)) (p : Packet),
      blocks.length = cipherBlockCount src →
      let bytes := clear ++ (mac.bytes ++ (blocks.map Buf.bytes).flatten)
      Q p.payload
        { p with
          header := typeHeader type
          payload := p.payload.store 0 bytes
          payloadLen := bytes.length }) : Assembles Q (fillEncrypted id type clear secret src) where
  stores ctx w id' hid := by
    rw [fillEncrypted, Prog.run_bind] at hid ⊢
    have hsame := (inferInstance : Moves SamePayloads (utilsEncryptThenMac secret src)).moves ctx w
    cases henc : (utilsEncryptThenMac secret src ctx w).1 with
    | none => simp [henc] at hid
    | some enc =>
      obtain ⟨mac, blocks, hlen, rfl⟩ := utilsEncryptThenMac_blocks henc
      rw [henc, Option.elim_some] at hid
      rw [Option.elim_some, ← hsame id']
      refine (Assembles.update (Q := Q) fun p => ?_).stores ctx _ id' hid
      rw [← List.length_append]
      exact h mac blocks p hlen

end

/-- What a constructor draws when it seals nothing. -/
def Gathered.plain : Gathered where
  selfId := Buf.zero _
  timestamp := 0
  signature := Buf.zero _
  random := Buf.zero _
  blocks := []
  mac := none

namespace Construction

/-- The packet that a constructor made, from the payload that the buffer had before: the writes went
through, they amount to one write of so many bytes from the start on, and no more than there is room
for. -/
structure Filled (k : Construction) (d : Gathered) (before : Buf packetPayloadMaxLen)
    (after : Packet) (bytes : List UInt8) : Prop where
  blocks : d.blocks.length = cipherBlockCount (k.plaintext d)
  written : Buf.writeAll (k.payloadWrites d) before = some after.payload
  payload : after.payload = before.store 0 bytes
  counted : bytesWritten (k.payloadWrites d) = bytes.length
  payloadLen : after.payloadLen = bytes.length
  length_le : bytes.length ≤ packetPayloadMaxLen

/-- A constructor that writes its payload end to end. -/
theorem filled_plain {k : Construction} {d : Gathered} {pieces : List (List UInt8)}
    {before : Buf packetPayloadMaxLen} {after : Packet} {bytes : List UInt8}
    (hwrites : k.payloadWrites d = endToEnd 0 pieces) (htext : k.plaintext d = [])
    (hblocks : d.blocks = []) (hbytes : pieces.flatten = bytes)
    (hle : bytes.length ≤ packetPayloadMaxLen) (hpayload : after.payload = before.store 0 bytes)
    (hlen : after.payloadLen = bytes.length) :
    k.Filled d before after bytes where
  blocks := by rw [hblocks, htext]; rfl
  written := by
    rw [hwrites, hpayload, ← hbytes]
    exact Buf.writeAll_endToEnd _ _ (by rwa [hbytes, Nat.zero_add])
  payload := hpayload
  counted := by rw [hwrites, bytesWritten_endToEnd, hbytes]
  payloadLen := hlen
  length_le := hle

/-- A constructor that seals a text behind a clear part. -/
theorem filled_sealed {k : Construction} {d : Gathered} {front : List (List UInt8)} {off : ℕ}
    {before : Buf packetPayloadMaxLen} {after : Packet} {mac : Buf cipherMacSize}
    {bytes : List UInt8} (hwrites : k.payloadWrites d = endToEnd 0 front ++ sealWrites off d)
    (hoff : off = front.flatten.length)
    (hblocks : d.blocks.length = cipherBlockCount (k.plaintext d))
    (hmac : d.mac = some mac)
    (hbytes : front.flatten ++ (mac.bytes ++ (d.blocks.map Buf.bytes).flatten)
      = bytes)
    (hle : off + cipherMacSize + cipherBlockCount (k.plaintext d) * cipherBlockSize
      ≤ packetPayloadMaxLen)
    (hpayload : after.payload = before.store 0 bytes) (hlen : after.payloadLen = bytes.length) :
    k.Filled d before after bytes where
  blocks := hblocks
  written := by
    rw [hwrites, sealWrites, hmac, hpayload, ← hbytes]
    refine Buf.writeAll_gap front _ before hoff (by rw [mac.length_bytes]) ?_
    rwa [length_blocks, hblocks]
  payload := hpayload
  counted := by
    have hone : bytesWritten (Option.map (fun mac : Buf cipherMacSize => (off, mac.bytes))
        (some mac)).toList = mac.bytes.length := bytesWritten_singleton (off, mac.bytes)
    rw [hwrites, bytesWritten_append, bytesWritten_endToEnd, sealWrites, bytesWritten_append,
      bytesWritten_endToEnd, hmac, hone, ← hbytes, List.length_append, List.length_append,
      Nat.add_comm mac.bytes.length]
  payloadLen := hlen
  length_le := by
    rw [← hbytes, List.length_append, List.length_append, length_blocks, hblocks, mac.length_bytes,
      ← hoff]
    omega

/-- The packet is one that the constructor filled. -/
def Result (k : Construction) (before : Buf packetPayloadMaxLen) (after : Packet) : Prop :=
  ∃ d bytes, k.Filled d before after bytes

theorem advert_stores (identity : LocalIdentity) (appData : List UInt8) :
    Assembles (advert identity appData).Result (meshCreateAdvert identity appData) := by
  unfold meshCreateAdvert
  split
  · infer_instance
  rename_i hlen
  have hlen' : appData.length ≤ 32 := not_lt.mp hlen
  have hfill : ∀ (id : PacketId) (timestamp : UInt32) (signature : Buf 64),
      Assembles (advert identity appData).Result (do
        updatePacket id fun p =>
          { p with
            header := typeHeader payloadTypeAdvert
            payload := p.payload.store 0 (identity.identity.bytes ++ leBytes 4 timestamp.toNat ++
              signature.bytes ++ appData)
            payloadLen := (identity.identity.bytes ++ leBytes 4 timestamp.toNat ++
              signature.bytes ++ appData).length }
        pure (some id)) := by
    intro id timestamp signature
    refine .update fun p => ?_
    let d : Gathered := { Gathered.plain with timestamp, signature }
    have hkey : identity.identity.bytes.length = 32 := identity.identity.length_bytes
    have hall : (identity.identity.bytes ++ leBytes 4 timestamp.toNat ++ signature.bytes ++
        appData).length = 100 + appData.length := by
      simp only [List.length_append, hkey, length_leBytes, signature.length_bytes]
    have hbytes : [identity.identity.bytes, leBytes 4 timestamp.toNat].flatten ++
        (signature.bytes ++ [appData].flatten)
          = identity.identity.bytes ++ leBytes 4 timestamp.toNat ++
          signature.bytes ++ appData := by simp
    refine ⟨d, _, ⟨?_, ?_, rfl, ?_, rfl, ?_⟩⟩
    · show 0 = (0 + 16 - 1) / 16
      rfl
    · rw [← hbytes]
      refine Buf.writeAll_gap [_, _] [appData] p.payload ?_ ?_ ?_
      · simp [hkey]
      · rw [signature.length_bytes]
      · rw [List.flatten_singleton]
        show 32 + 4 + 64 + appData.length ≤ 184
        omega
    · rw [hall]
      simp only [payloadWrites, bytesWritten_append, bytesWritten_endToEnd, bytesWritten_singleton]
      simp [hkey, d, signature.length_bytes]
      omega
    · rw [hall]
      show 100 + appData.length ≤ 184
      omega
  infer_instance

/-- The packets of the constructors that seal a text. -/
theorem fillEncrypted_stores (k : Construction) (id : PacketId) (type : UInt8) {d : Gathered}
    {front : List (List UInt8)} {clear : List UInt8} {off : ℕ} {secret : Buf publicKeySize}
    {text : List UInt8} (hclear : front.flatten = clear) (hoff : off = clear.length)
    (htext : ∀ blocks mac, k.plaintext { d with blocks, mac } = text)
    (hwrites : ∀ blocks mac, k.payloadWrites { d with blocks, mac }
      = endToEnd 0 front ++ sealWrites off { d with blocks, mac })
    (hle : off + cipherMacSize + cipherBlockCount text * cipherBlockSize ≤ packetPayloadMaxLen) :
    Assembles k.Result (fillEncrypted id type clear secret text) := by
  refine .sealed id type clear fun mac blocks p hblocks => ?_
  refine ⟨{ d with blocks, mac := some mac }, _, filled_sealed (hwrites _ _) (hclear ▸ hoff) ?_ rfl
    (by rw [hclear]) ?_ rfl rfl⟩
  · rw [htext]
    exact hblocks
  · rwa [htext]

theorem datagram_stores (type : UInt8) (dest : Identity) (secret : Buf publicKeySize)
    (data : List UInt8) :
    Assembles (datagram type dest secret data).Result
      (meshCreateDatagram type dest secret data) := by
  unfold meshCreateDatagram
  split
  · infer_instance
  split
  · infer_instance
  rename_i hfits
  have hfits : meshDatagramPlaintextFits data.length = true := by simpa using hfits
  have hlen : data.length ≤ 167 := of_decide_eq_true hfits
  have hfill : ∀ id (selfId : LocalIdentity), Assembles (datagram type dest secret data).Result
      (fillEncrypted id type (identityCopyHashTo dest ++ identityCopyHashTo selfId.identity) secret
        data) := by
    intro id selfId
    refine @fillEncrypted_stores _ id type { Gathered.plain with selfId := selfId.identity }
      [identityCopyHashTo dest, identityCopyHashTo selfId.identity] _ 2 secret data (by simp) ?_
      (fun _ _ => rfl) (fun _ _ => rfl) ?_
    · simp [identityCopyHashTo_length]
    · show 2 + 2 + (data.length + 16 - 1) / 16 * 16 ≤ 184
      omega
  infer_instance

theorem anonDatagram_stores (type : UInt8) (sender : LocalIdentity) (dest : Identity)
    (secret : Buf publicKeySize) (data : List UInt8) :
    Assembles (anonDatagram type sender dest secret data).Result
      (meshCreateAnonDatagram type sender dest secret data) := by
  unfold meshCreateAnonDatagram
  split
  · infer_instance
  split
  · infer_instance
  rename_i hfits
  have hlen : data.length ≤ 136 := not_lt.mp hfits
  have hfill : ∀ id, Assembles (anonDatagram type sender dest secret data).Result
      (fillEncrypted id type (identityCopyHashTo dest ++ sender.identity.bytes) secret data) := by
    intro id
    refine @fillEncrypted_stores _ id type Gathered.plain
      [identityCopyHashTo dest, sender.identity.bytes] _ (1 + publicKeySize) secret data
      (by simp) ?_ (fun _ _ => rfl) (fun _ _ => rfl) ?_
    · rw [List.length_append, identityCopyHashTo_length, Buf.length_bytes]
    · show 1 + 32 + 2 + (data.length + 16 - 1) / 16 * 16 ≤ 184
      omega
  infer_instance

theorem groupDatagram_stores (type : UInt8) (channel : GroupChannel) (data : List UInt8) :
    Assembles (groupDatagram type channel data).Result
      (meshCreateGroupDatagram type channel data) := by
  unfold meshCreateGroupDatagram
  split
  · infer_instance
  split
  · infer_instance
  rename_i hfits
  have hlen : data.length ≤ 168 := not_lt.mp hfits
  have hfill : ∀ id, Assembles (groupDatagram type channel data).Result
      (fillEncrypted id type [channel.hash] channel.secret data) := by
    intro id
    refine @fillEncrypted_stores _ id type Gathered.plain [[channel.hash]] _ 1 channel.secret
      data rfl rfl (fun _ _ => rfl) (fun _ _ => rfl) ?_
    show 1 + 2 + (data.length + 16 - 1) / 16 * 16 ≤ 184
    omega
  infer_instance

theorem pathReturn_stores (destHash : UInt8) (secret : Buf publicKeySize) (path : List UInt8)
    (pathLen extraType : UInt8) (extra : List UInt8) :
    Assembles (pathReturn destHash secret path pathLen extraType extra).Result
      (meshCreatePathReturnByDestHash [destHash] secret path pathLen extraType extra) := by
  unfold meshCreatePathReturnByDestHash
  split
  · infer_instance
  rename_i hfits
  have hfits : meshPathReturnExtraFits pathLen extra.length = true := by simpa using hfits
  have hfill : ∀ id (selfId : LocalIdentity) (tail : List UInt8),
      (∃ random, tail = (sentExtra extraType extra random).1 ::
        (sentExtra extraType extra random).2) →
      Assembles (pathReturn destHash secret path pathLen extraType extra).Result
        (fillEncrypted id payloadTypePath
          ([destHash].take 1 ++ identityCopyHashTo selfId.identity) secret
          (pathLen :: (path.take ((hashSizeOf pathLen).toNat * (hashCountOf pathLen).toNat) ++
            tail))) := by
    rintro id selfId tail ⟨random, rfl⟩
    have hlen := @length_pathReturn_le path extra pathLen extraType hfits random
    refine @fillEncrypted_stores _ id payloadTypePath
      { Gathered.plain with selfId := selfId.identity, random }
      [[destHash], identityCopyHashTo selfId.identity] _ 2 secret
      (pathReturnText pathLen path (sentExtra extraType extra random).1
        (sentExtra extraType extra random).2) (by simp) ?_ (fun _ _ => rfl) (fun _ _ => rfl) ?_
    · simp [identityCopyHashTo_length]
    · show 2 + 2 + ((pathReturnText pathLen path _ _).length + 16 - 1) / 16 * 16 ≤ 184
      omega
  have htail : Returns (fun tail : List UInt8 => ∃ random,
      tail = (sentExtra extraType extra random).1 :: (sentExtra extraType extra random).2)
      (if extra.length > 0 then pure (extraType :: extra)
      else (fun r : Buf 4 => 0xFF :: r.bytes) <$> hook fun h => h.rngRandom 4 : M _) := by
    split
    · rename_i hsome
      have hne : extra ≠ [] := List.length_pos_iff.mp hsome
      exact ⟨fun _ _ => ⟨Buf.zero _, by rw [sentExtra, if_neg hne]; rfl⟩⟩
    · rename_i hnone
      have hnil : extra = [] := List.length_eq_zero_iff.mp (Nat.eq_zero_of_not_pos hnone)
      exact ⟨fun ctx w => ⟨(ctx.hooks w.tick).rngRandom 4, by rw [sentExtra, if_pos hnil]; rfl⟩⟩
  refine @Assembles.bind _ _ _ _ inferInstance fun o => ?_
  refine @Assembles.elim _ _ _ _ fun id => ?_
  refine @Assembles.bind _ _ _ _ inferInstance fun selfId => ?_
  exact .bind_of_returns (hfill id selfId)

theorem ackData_stores (ack : List UInt8) :
    Assembles (ackData ack).Result (meshCreateAckData ack) := by
  have hfill : ∀ id : PacketId, Assembles (ackData ack).Result
      (if ack.length > packetPayloadMaxLen then do
        dispatcherReleasePacket id
        pure none
      else do
        updatePacket id fun p =>
          { p with
            header := typeHeader payloadTypeAck
            payload := p.payload.store 0 ack
            payloadLen := ack.length }
        pure (some id)) := by
    intro id
    split
    · exact .release id
    · rename_i hlen
      exact .update fun p =>
        ⟨Gathered.plain, ack, @filled_plain _ _ [ack] _ _ _ rfl rfl rfl (by simp)
        (not_lt.mp hlen) rfl rfl⟩
  unfold meshCreateAckData
  infer_instance

theorem multiAckData_stores (ack : List UInt8) (remaining : UInt8) :
    Assembles (multiAckData ack remaining).Result (meshCreateMultiAckData ack remaining) := by
  have hfill : ∀ id : PacketId, Assembles (multiAckData ack remaining).Result
      (if ack.length > packetPayloadMaxLen - 1 then do
        dispatcherReleasePacket id
        pure none
      else do
        updatePacket id fun p =>
          { p with
            header := typeHeader payloadTypeMultipart
            payload := p.payload.store 0 (((remaining <<< 4) ||| payloadTypeAck) :: ack)
            payloadLen := 1 + ack.length }
        pure (some id)) := by
    intro id
    split
    · exact .release id
    · rename_i hlen
      have hle : ack.length ≤ 183 := not_lt.mp hlen
      refine .update fun p => ⟨Gathered.plain, ((remaining <<< 4) ||| payloadTypeAck) :: ack,
        @filled_plain _ _ [[(remaining <<< 4) ||| payloadTypeAck], ack] _ _ _ rfl rfl rfl
          (by simp) ?_
        rfl ?_⟩
      · show ack.length + 1 ≤ 184
        omega
      · exact Nat.add_comm ..
  unfold meshCreateMultiAckData
  infer_instance

/-- The constructors that copy what they are given. -/
theorem createPlain_stores {k : Construction} (type : UInt8) (data : List UInt8)
    (hwrites : k.payloadWrites Gathered.plain = endToEnd 0 [data])
    (htext : k.plaintext Gathered.plain = []) :
    Assembles k.Result (createPlain type data) := by
  unfold createPlain
  split
  · infer_instance
  rename_i hlen
  have hfill : ∀ id : PacketId, Assembles k.Result (do
      updatePacket id fun p =>
        { p with
          header := typeHeader type
          payload := p.payload.store 0 data
          payloadLen := data.length }
      pure (some id)) := fun id =>
    .update fun p =>
      ⟨Gathered.plain, data, filled_plain hwrites htext rfl (by simp) (not_lt.mp hlen) rfl
      rfl⟩
  infer_instance

theorem trace_stores (tag authCode : UInt32) (flags : UInt8) :
    Assembles (trace tag authCode flags).Result (meshCreateTrace tag authCode flags) := by
  have hfill : ∀ id : PacketId, Assembles (trace tag authCode flags).Result (do
      updatePacket id fun p =>
        { p with
          header := typeHeader payloadTypeTrace
          payload := p.payload.store 0 (leBytes 4 tag.toNat ++ leBytes 4 authCode.toNat ++ [flags])
          payloadLen := 9 }
      pure (some id)) := by
    intro id
    refine .update fun p => ⟨Gathered.plain, _, @filled_plain _ _
      [leBytes 4 tag.toNat, leBytes 4 authCode.toNat, [flags]] _ _ _ rfl rfl rfl (by simp) ?_ rfl
      ?_⟩
    · simp
      decide
    · simp
  unfold meshCreateTrace
  infer_instance

/-- **What a constructor makes is what it wrote.** -/
theorem filled (k : Construction) : Assembles k.Result k.create := by
  cases k with
  | advert identity appData => exact advert_stores identity appData
  | datagram type dest secret data => exact datagram_stores type dest secret data
  | anonDatagram type sender dest secret data =>
    exact anonDatagram_stores type sender dest secret data
  | groupDatagram type channel data => exact groupDatagram_stores type channel data
  | ackData ack => exact ackData_stores ack
  | multiAckData ack remaining => exact multiAckData_stores ack remaining
  | pathReturn destHash secret path pathLen extraType extra =>
    exact pathReturn_stores destHash secret path pathLen extraType extra
  | rawData data => exact createPlain_stores payloadTypeRawCustom data rfl rfl
  | trace tag authCode flags => exact trace_stores tag authCode flags
  | controlData data => exact createPlain_stores payloadTypeControl data rfl rfl

/-! ### What is accepted -/

/-- A constructor makes no packet of a type or a length that it does not accept. -/
theorem accepts_of_create {k : Construction} {ctx : Ctx} {w : World} {id : PacketId}
    (h : (k.create ctx w).1 = some id) : k.Accepts := by
  by_contra hno
  cases k with
  | advert identity appData =>
    change (meshCreateAdvert identity appData ctx w).1 = some id at h
    rw [meshCreateAdvert, if_pos (not_le.mp hno)] at h
    cases h
  | datagram type dest secret data =>
    change (meshCreateDatagram type dest secret data ctx w).1 = some id at h
    rw [meshCreateDatagram] at h
    split at h
    · cases h
    split at h
    · cases h
    · rename_i htype hfits
      exact hno ⟨by simpa [or_iff_not_imp_left] using htype, by simpa using hfits⟩
  | anonDatagram type sender dest secret data =>
    change (meshCreateAnonDatagram type sender dest secret data ctx w).1 = some id at h
    rw [meshCreateAnonDatagram] at h
    split at h
    · cases h
    split at h
    · cases h
    · rename_i htype hlen
      exact hno ⟨not_not.mp htype, not_lt.mp hlen⟩
  | groupDatagram type channel data =>
    change (meshCreateGroupDatagram type channel data ctx w).1 = some id at h
    rw [meshCreateGroupDatagram] at h
    split at h
    · cases h
    split at h
    · cases h
    · rename_i htype hlen
      exact hno ⟨by simpa [or_iff_not_imp_left] using htype, not_lt.mp hlen⟩
  | ackData ack =>
    change (meshCreateAckData ack ctx w).1 = some id at h
    have hlong : ack.length > packetPayloadMaxLen := not_le.mp hno
    simp only [meshCreateAckData, if_pos hlong, Prog.run_bind] at h
    cases hnew : (dispatcherObtainNewPacket ctx w).1 <;> (rw [hnew] at h; cases h)
  | multiAckData ack remaining =>
    change (meshCreateMultiAckData ack remaining ctx w).1 = some id at h
    have hlong : ack.length > packetPayloadMaxLen - 1 := not_le.mp hno
    simp only [meshCreateMultiAckData, if_pos hlong, Prog.run_bind] at h
    cases hnew : (dispatcherObtainNewPacket ctx w).1 <;> (rw [hnew] at h; cases h)
  | pathReturn destHash secret path pathLen extraType extra =>
    change (meshCreatePathReturnByDestHash [destHash] secret path pathLen extraType extra ctx w).1
      = some id at h
    rw [meshCreatePathReturnByDestHash] at h
    split at h
    · cases h
    · rename_i hfits
      have hfits : meshPathReturnExtraFits pathLen extra.length = true := by simpa using hfits
      exact hno hfits
  | rawData data =>
    change (createPlain payloadTypeRawCustom data ctx w).1 = some id at h
    rw [createPlain, if_pos (not_le.mp hno)] at h
    cases h
  | trace tag authCode flags => exact hno trivial
  | controlData data =>
    change (createPlain payloadTypeControl data ctx w).1 = some id at h
    rw [createPlain, if_pos (not_le.mp hno)] at h
    cases h

/-- With a free buffer and a cipher that works, a constructor makes the packet. -/
theorem succeeds {k : Construction} (h : k.Accepts) : Succeeds k.create := by
  cases k with
  | advert identity appData =>
    show Succeeds (meshCreateAdvert identity appData)
    rw [meshCreateAdvert, if_neg (not_lt.mpr h)]
    exact .obtain
  | datagram type dest secret data => exact meshCreateDatagram_succeeds dest secret h.1 h.2
  | anonDatagram type sender dest secret data =>
    show Succeeds (meshCreateAnonDatagram type sender dest secret data)
    rw [meshCreateAnonDatagram, if_neg (not_not.mpr h.1), if_neg (not_lt.mpr h.2)]
    exact .obtain
  | groupDatagram type channel data =>
    show Succeeds (meshCreateGroupDatagram type channel data)
    rw [meshCreateGroupDatagram, if_neg (by simp [h.1]), if_neg (not_lt.mpr h.2)]
    exact .obtain
  | ackData ack =>
    show Succeeds (meshCreateAckData ack)
    unfold meshCreateAckData
    simp only [if_neg (not_lt.mpr (show ack.length ≤ packetPayloadMaxLen from h))]
    exact .obtain
  | multiAckData ack remaining =>
    show Succeeds (meshCreateMultiAckData ack remaining)
    unfold meshCreateMultiAckData
    simp only [if_neg (not_lt.mpr (show ack.length ≤ packetPayloadMaxLen - 1 from h))]
    exact .obtain
  | pathReturn destHash secret path pathLen extraType extra =>
    show Succeeds (meshCreatePathReturnByDestHash [destHash] secret path pathLen extraType extra)
    have hfits : meshPathReturnExtraFits pathLen extra.length = true := h
    rw [meshCreatePathReturnByDestHash, if_neg (by simp [hfits])]
    exact .obtain
  | rawData data =>
    show Succeeds (createPlain payloadTypeRawCustom data)
    rw [createPlain, if_neg (not_lt.mpr h)]
    exact .obtain
  | trace tag authCode flags => exact .obtain
  | controlData data =>
    show Succeeds (createPlain payloadTypeControl data)
    rw [createPlain, if_neg (not_lt.mpr h)]
    exact .obtain

end Construction

/-- The calls of constructors that the requests of a host lead to, once they passed their
validator. -/
inductive Prepared : Construction → Prop where
  | nodeAdvert (keys : LocalIdentity) (type : UInt8) (identity : NodeIdentity)
      (profile : AdvertProfile) :
      Prepared (.advert keys (advertAppData type identity profile))
  | messageSendToNode {publicKey flood attempt payload r}
      (h : validateMessageSendToNode publicKey flood attempt payload = some r)
      (secret : Buf publicKeySize) (timestamp : UInt32) :
      Prepared (.datagram payloadTypeTxtMsg r.publicKey secret
        (textPlain timestamp r.attempt r.payload ++
          (if r.attempt > 3 then [0, r.attempt] else [])))
  | messageSendToChannel {secret payload r}
      (h : validateMessageSendToChannel secret payload = some r)
      (channel : GroupChannel) (timestamp : UInt32) {name : List UInt8}
      (hname : ¬(name.length ≥ maxMessageTxLen ∨
        r.payload.length + name.length > maxMessageTxLen)) :
      Prepared (.groupDatagram payloadTypeGrpTxt channel
        (leBytes 4 timestamp.toNat ++ [0] ++ name ++ r.payload))
  | telemetryReq (publicKey : Identity) (secret : Buf publicKeySize) (tag : UInt32) (mask : UInt8)
      (random : Buf 4) :
      Prepared (.datagram payloadTypeReq publicKey secret
        (leBytes 4 tag.toNat ++ [reqTypeGetTelemetryData, ~~~mask, 0, 0, 0] ++ random.bytes))
  | nodeTracePath (tag authCode : UInt32) (flags : UInt8) : Prepared (.trace tag authCode flags)
  | nodeBinary {publicKey payload r} (h : validateNodeBinary publicKey payload = some r)
      (secret : Buf publicKeySize) (tag : UInt32) :
      Prepared (.datagram payloadTypeReq r.publicKey secret (leBytes 4 tag.toNat ++ r.payload))
  | nodeAnonData {publicKey payload r} (h : validateNodeAnonData publicKey payload = some r)
      (sender : LocalIdentity) (secret : Buf publicKeySize) :
      Prepared (.anonDatagram payloadTypeAnonReq sender r.publicKey secret r.payload)
  | floodResponse {request payload r} (h : validateNodeBinaryResponse request payload = some r)
      (hroute : r.request.route = .flood) (secret : Buf publicKeySize) (destHash : UInt8) :
      Prepared (.pathReturn destHash secret r.request.path.bytes r.request.pathLen
        payloadTypeResponse (leBytes 4 r.request.tag.toNat ++ r.payload))
  | response {request payload r} (h : validateNodeBinaryResponse request payload = some r)
      (secret : Buf publicKeySize) :
      Prepared (.datagram payloadTypeResponse r.request.publicKey secret
        (leBytes 4 r.request.tag.toNat ++ r.payload))
  | nodeDiscover (head filter : UInt8) (tag since : UInt32) :
      Prepared (.controlData ([head, filter] ++ leBytes 4 tag.toNat ++ leBytes 4 since.toNat))
  | channelData {secret path pathLen dataType payload r}
      (h : validateChannelData secret path pathLen dataType payload = some r)
      (channel : GroupChannel) :
      Prepared (.groupDatagram payloadTypeGrpData channel
        (leBytes 2 r.dataType.toNat ++ [UInt8.ofNat r.payload.length] ++ r.payload))
  | rawData {path pathLen payload r} (h : validateRawData path pathLen payload = some r) :
      Prepared (.rawData r.payload)
  | controlData {payload data} (h : validateControlData payload = some data) :
      Prepared (.controlData data)

theorem length_of_validateChannelData {secret path : Option (List UInt8)} {pathLen : UInt8}
    {dataType : UInt16} {payload : Option (List UInt8)} {r : ChannelData}
    (h : validateChannelData secret path pathLen dataType payload = some r) :
    r.payload.length ≤ maxChannelDataPayloadLen := by
  simp only [validateChannelData, Option.bind_eq_bind, Option.bind_eq_some_iff] at h
  obtain ⟨s, -, payload, rfl, h⟩ := h
  split at h
  · cases h
  rename_i hlen
  rw [Option.bind_eq_some_iff] at h
  obtain ⟨path, -, h⟩ := h
  obtain rfl := Option.some.inj h
  exact not_lt.mp hlen

theorem length_of_validateRawData {path : Option (List UInt8)} {pathLen : UInt8}
    {payload : Option (List UInt8)} {r : RawData}
    (h : validateRawData path pathLen payload = some r) :
    r.payload.length ≤ maxRawDataPayloadLen := by
  simp only [validateRawData, Option.bind_eq_bind, Option.bind_eq_some_iff] at h
  obtain ⟨payload, rfl, h⟩ := h
  split at h
  · cases h
  rename_i hlen
  rw [Option.bind_eq_some_iff] at h
  obtain ⟨path, -, h⟩ := h
  obtain rfl := Option.some.inj h
  exact not_lt.mp fun hlong => hlen (.inr hlong)

/-- **What a validator admits, the constructor takes.** -/
theorem Prepared.accepts {k : Construction} (h : Prepared k) : k.Accepts := by
  cases h with
  | nodeAdvert keys type identity profile => exact AdvertDataBuilder.length_encodeTo_le _
  | @messageSendToNode _ _ _ _ r h secret timestamp =>
    obtain ⟨-, -, -, -, -, hlen, hattempt⟩ := of_validateMessageSendToNode h
    have hmax : r.payload.length ≤ 160 := hlen
    refine ⟨.inl rfl, decide_eq_true ?_⟩
    simp only [textPlain, List.length_append, length_leBytes, List.length_cons, List.length_nil]
    show _ ≤ 167
    split
    · rename_i hlate
      have hshort : r.payload.length ≤ 158 := not_lt.mp fun hlong => hattempt ⟨hlate, hlong⟩
      simp only [List.length_cons, List.length_nil]
      omega
    · simp only [List.length_nil]
      omega
  | @messageSendToChannel _ _ r h channel timestamp name hname =>
    have hlen : r.payload.length + name.length ≤ 160 := not_lt.mp fun hlong => hname (.inr hlong)
    refine ⟨.inl rfl, ?_⟩
    simp only [List.length_append, length_leBytes, List.length_singleton]
    show _ ≤ 168
    omega
  | telemetryReq publicKey secret tag mask random =>
    refine ⟨.inr (.inl rfl), decide_eq_true ?_⟩
    simp only [List.length_append, length_leBytes, Buf.length_bytes]
    show 4 + 5 + 4 ≤ 167
    decide
  | nodeTracePath => trivial
  | nodeBinary h secret tag =>
    obtain ⟨-, -, -, -, hfits⟩ := of_validateNodeBinary h
    exact ⟨.inr (.inl rfl), by rwa [List.length_append, length_leBytes]⟩
  | @nodeAnonData _ _ r h sender secret =>
    obtain ⟨-, -, hlen⟩ := of_validateNodeAnonData h
    have hmax : r.payload.length ≤ 136 := hlen
    exact ⟨rfl, hmax⟩
  | floodResponse h hroute secret destHash =>
    obtain ⟨-, -, -, -, -, hflood⟩ := of_validateNodeBinaryResponse h
    show meshPathReturnExtraFits _ (List.length _) = true
    rw [List.length_append, length_leBytes]
    exact (hflood hroute).2
  | response h secret =>
    obtain ⟨-, -, -, hfits, -, -⟩ := of_validateNodeBinaryResponse h
    exact ⟨.inr (.inr rfl), by rwa [List.length_append, length_leBytes]⟩
  | nodeDiscover head filter tag since =>
    show List.length _ ≤ 184
    simp only [List.length_append, length_leBytes, List.length_cons, List.length_nil]
    decide
  | @channelData _ _ _ _ _ r h channel =>
    have hlen : r.payload.length ≤ 165 := length_of_validateChannelData h
    refine ⟨.inr rfl, ?_⟩
    simp only [List.length_append, length_leBytes, List.length_singleton]
    show _ ≤ 168
    omega
  | rawData h => exact length_of_validateRawData h
  | controlData h =>
    have hlen := (Option.filter_eq_some_iff.mp h).2
    rw [Bool.and_eq_true] at hlen
    exact (of_decide_eq_true hlen.1).2

/-! ### The result -/

/-- **Constructors.** For every type and length that a constructor accepts, whatever it draws and
however far its cipher gets, its writes stay inside the payload of the packet and inside its arrays
on the stack. A packet that it makes has these writes for its payload, and their number for its
length. It makes one whenever it accepts, there is a free buffer and the cipher works, and it
accepts what the validators of the requests admit. -/
theorem constructors_stay_inside (k : Construction) :
    (k.Accepts → ∀ d, k.Sealing d →
      StaysIn packetPayloadMaxLen (k.payloadWrites d) ∧
      (∀ before : Buf packetPayloadMaxLen, (before.writeAll (k.payloadWrites d)).isSome) ∧
      ∀ array ∈ k.localWrites d, StaysIn array.1 array.2) ∧
    (∀ ctx w id, (k.create ctx w).1 = some id → k.Accepts ∧
      ∃ d bytes, k.Filled d (w.packetManager.packetBuf id).payload
        ((k.create ctx w).2.packetManager.packetBuf id) bytes) ∧
    (k.Accepts → Succeeds k.create) ∧
    (Prepared k → k.Accepts) := by
  refine ⟨?_, ?_, fun h => k.succeeds h, fun h => h.accepts⟩
  · intro h d hseal
    obtain ⟨hpayload, hlocals⟩ := Construction.staysIn h hseal
    exact ⟨hpayload, fun before => (Buf.writeAll_isSome_iff _ before).mpr hpayload, hlocals⟩
  · intro ctx w id h
    exact ⟨k.accepts_of_create h, k.filled.stores ctx w id h⟩

/-- A datagram of 167 bytes, the longest that is accepted. -/
def longestDatagram : Construction :=
  .datagram payloadTypeReq (Buf.zero _) (Buf.zero _) (List.replicate 167 0)

theorem constructors_stay_inside_longest :
    (∀ d : Gathered, d.blocks.length ≤ 11 →
      StaysIn packetPayloadMaxLen (longestDatagram.payloadWrites d)) ∧
      Succeeds longestDatagram.create := by
  have hlen : (List.replicate 167 (0 : UInt8)).length = 167 := List.length_replicate
  have haccepts : longestDatagram.Accepts := ⟨.inr (.inl rfl), by rw [hlen]; decide⟩
  have hcount : cipherBlockCount (List.replicate 167 (0 : UInt8)) = 11 := by
    rw [cipherBlockCount, hlen]
    rfl
  obtain ⟨hstays, -, hsucceeds, -⟩ := constructors_stay_inside longestDatagram
  exact ⟨fun d hblocks => (hstays haccepts d (hblocks.trans_eq hcount.symm)).1, hsucceeds haccepts⟩

end Meshcore
