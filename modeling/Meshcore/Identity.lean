import Meshcore.Effects

/-!
# Hashes, ciphers and identities

`core/meshcore_utils.c`, `core/meshcore_identity.c` and `support/meshcore_tables.c`. The ciphers
and hash functions themselves belong to the host, so every call can fail; the vendored Ed25519 and
X25519 code is in `Ctx`.

A plaintext or a ciphertext is a list of bytes whose length is the `int` that the source returns
beside the buffer, and the empty list is its 0. Where encryption fails half way the source leaves
what it wrote in a buffer that it then releases; nothing is written here.

## Main definitions

* `utilsEncryptThenMac`, `utilsMacThenDecrypt`
* `identityIsHashMatchByLen`, `identityVerify`, `localIdentityCalcSharedSecret`
* `calculateHash`, `tablesHasSeen` — the duplicate check
-/

namespace Meshcore

/-! ### Hash functions -/

/-- `meshcore_utils_sha256`: zero when the host fails. -/
def utilsSha256 (hashLen : ℕ) (msg : List UInt8) : M (Buf hashLen) :=
  (·.getD (Buf.zero hashLen)) <$> hook fun h => h.sha256 hashLen msg

/-- `meshcore_utils_sha256_two_fragments`. -/
def utilsSha256TwoFragments (hashLen : ℕ) (frag1 frag2 : List UInt8) : M (Buf hashLen) :=
  (·.getD (Buf.zero hashLen)) <$> hook fun h => h.sha256TwoFragments hashLen frag1 frag2

instance (n : ℕ) (msg : List UInt8) : Moves Asks (utilsSha256 n msg) := by
  unfold utilsSha256; infer_instance

instance (n : ℕ) (frag1 frag2 : List UInt8) :
    Moves Asks (utilsSha256TwoFragments n frag1 frag2) := by
  unfold utilsSha256TwoFragments; infer_instance

/-! ### Ciphers -/

abbrev cipherBlockSize : ℕ := 16
abbrev cipherMacSize : ℕ := 2

/-- The first block of `src`, filled up with zeros. -/
def cipherBlock (src : List UInt8) : Buf cipherBlockSize := (Buf.zero _).store 0 (src.take 16)

/-- One cipher call for each of the first `n` blocks of `src`, until one fails. -/
def cipherBlocks (cipher : Hooks → Buf cipherBlockSize → Option (Buf cipherBlockSize)) :
    ℕ → List UInt8 → M (Option (List UInt8))
  | 0, _ => pure (some [])
  | n + 1, src => do
    let block ← hook fun h => cipher h (cipherBlock src)
    block.elim (pure none) fun block => do
      let rest ← cipherBlocks cipher n (src.drop cipherBlockSize)
      pure (rest.map (block.bytes ++ ·))

/-- `meshcore_utils_decrypt`. -/
def utilsDecrypt (sharedSecret : Buf publicKeySize) (src : List UInt8) : M (List UInt8) :=
  if src.length = 0 ∨ src.length % cipherBlockSize ≠ 0 then pure []
  else
    (·.getD []) <$>
      cipherBlocks (·.aes128DecryptBlock sharedSecret) (src.length / cipherBlockSize) src

/-- `meshcore_utils_encrypt`: the whole blocks, then what is left in a block padded with zeros. -/
def utilsEncrypt (sharedSecret : Buf publicKeySize) (src : List UInt8) :
    M (Option (List UInt8)) := do
  let full := src.length / cipherBlockSize
  let dest ← cipherBlocks (·.aes128EncryptBlock sharedSecret) full src
  dest.elim (pure none) fun dest =>
    let src := src.drop (full * cipherBlockSize)
    if src.length = 0 then pure (some dest)
    else do
      let block ← hook fun h => h.aes128EncryptBlock sharedSecret (cipherBlock src)
      pure (block.map (dest ++ ·.bytes))

/-- `meshcore_utils_encrypt_then_mac`. -/
def utilsEncryptThenMac (sharedSecret : Buf publicKeySize) (src : List UInt8) :
    M (Option (List UInt8)) := do
  let enc ← utilsEncrypt sharedSecret src
  enc.elim (pure none) fun enc =>
    if src.length > 0 ∧ enc.length = 0 then pure none
    else do
      let mac ← hook fun h => h.hmacSha256 cipherMacSize sharedSecret enc
      pure (mac.map (·.bytes ++ enc))

/-- `meshcore_utils_mac_then_decrypt`. -/
def utilsMacThenDecrypt (sharedSecret : Buf publicKeySize) (src : List UInt8) :
    M (List UInt8) :=
  if src.length ≤ cipherMacSize then pure []
  else do
    let hmac ← hook fun h => h.hmacSha256 cipherMacSize sharedSecret (src.drop cipherMacSize)
    hmac.elim (pure []) fun hmac =>
      if hmac.bytes ≠ src.take cipherMacSize then pure []
      else utilsDecrypt sharedSecret (src.drop cipherMacSize)

theorem cipherBlocks_asks
    (cipher : Hooks → Buf cipherBlockSize → Option (Buf cipherBlockSize)) (n : ℕ)
    (src : List UInt8) : Moves Asks (cipherBlocks cipher n src) := by
  induction n generalizing src with
  | zero => unfold cipherBlocks; infer_instance
  | succ n ih =>
    have := ih (src.drop cipherBlockSize)
    unfold cipherBlocks
    infer_instance

attribute [instance] cipherBlocks_asks

instance (secret : Buf publicKeySize) (src : List UInt8) :
    Moves Asks (utilsDecrypt secret src) := by
  unfold utilsDecrypt; infer_instance

instance (secret : Buf publicKeySize) (src : List UInt8) :
    Moves Asks (utilsEncrypt secret src) := by
  unfold utilsEncrypt; infer_instance

instance (secret : Buf publicKeySize) (src : List UInt8) :
    Moves Asks (utilsEncryptThenMac secret src) := by
  unfold utilsEncryptThenMac; infer_instance

instance (secret : Buf publicKeySize) (src : List UInt8) :
    Moves Asks (utilsMacThenDecrypt secret src) := by
  unfold utilsMacThenDecrypt; infer_instance

/-! ### Identities -/

abbrev identityHashDefaultLen : ℕ := 1

/-- `meshcore_identity_copy_hash_by_len`: the bytes written. -/
def identityCopyHashByLen (identity : Identity) (len : ℕ) : List UInt8 :=
  if len > publicKeySize then [] else identity.slice 0 len

/-- `meshcore_identity_copy_hash_to`. -/
def identityCopyHashTo (identity : Identity) : List UInt8 :=
  identityCopyHashByLen identity identityHashDefaultLen

/-- `meshcore_identity_is_hash_match_by_len`, given the bytes at the hash pointer. -/
def identityIsHashMatchByLen (identity : Identity) (hash : List UInt8) (len : ℕ) : Bool :=
  if len > publicKeySize then false else hash.take len == identity.slice 0 len

/-- `meshcore_identity_is_hash_match`. -/
def identityIsHashMatch (identity : Identity) (hash : List UInt8) : Bool :=
  identityIsHashMatchByLen identity hash identityHashDefaultLen

/-- `meshcore_identity_matches_by_pub_key`. -/
def identityMatchesByPubKey (identity other : Identity) : Bool := identity == other

/-- `meshcore_identity_verify`. -/
def identityVerify (identity : Identity) (sig message : List UInt8) : M Bool := do
  let ctx ← Prog.env
  pure (ctx.ed25519Check sig identity message)

/-- `meshcore_local_identity_sign`. -/
def localIdentitySign (localIdentity : LocalIdentity) (message : List UInt8) : M (Buf 64) := do
  let ctx ← Prog.env
  pure (ctx.ed25519Sign localIdentity message)

/-- `meshcore_local_identity_calc_shared_secret`. -/
def localIdentityCalcSharedSecret (localIdentity : LocalIdentity) (otherPubKey : Identity) :
    M (Buf publicKeySize) := do
  let ctx ← Prog.env
  pure (ctx.calculateSharedSecret localIdentity.prvKey otherPubKey)

instance (identity : Identity) (sig message : List UInt8) :
    Moves Asks (identityVerify identity sig message) := by
  unfold identityVerify; infer_instance

instance (id : LocalIdentity) (message : List UInt8) :
    Moves Asks (localIdentitySign id message) := by
  unfold localIdentitySign; infer_instance

instance (id : LocalIdentity) (other : Identity) :
    Moves Asks (localIdentityCalcSharedSecret id other) := by
  unfold localIdentityCalcSharedSecret; infer_instance

/-! ### The duplicate check -/

/-- The bytes that `meshcore_packet_calculate_hash` hashes: the payload type, for a trace also the
path length, and the payload. -/
def Packet.hashData (packet : Packet) : List UInt8 :=
  packet.getPayloadType ::
    ((if packet.getPayloadType = payloadTypeTrace then leBytes 2 packet.pathLen.toNat else []) ++
      packet.payloadBytes)

/-- `meshcore_packet_calculate_hash`. -/
def calculateHash (packet : Packet) : M PacketHash :=
  if packet.payloadLen > packetPayloadMaxLen then pure (Buf.zero _)
  else utilsSha256 packetHashSize packet.hashData

/-- `meshcore_tables_count_dup`. -/
def Tables.countDup (tables : Tables) (packet : Packet) : Tables :=
  if packet.isRouteDirect then { tables with directDups := tables.directDups + 1 }
  else { tables with floodDups := tables.floodDups + 1 }

/-- `meshcore_tables_has_seen`: a packet hash that is not in the table is put there. -/
def tablesHasSeen (packet : Packet) : M Bool := do
  let hash ← calculateHash packet
  let tables ← Prog.gets World.tables
  if hash ∈ tables.hashes.slots then do
    Prog.modify fun w => { w with tables := w.tables.countDup packet }
    pure true
  else do
    Prog.modify fun w =>
      { w with tables := w.tables.record hash, trace := w.trace ++ [.recorded hash] }
    pure false

instance (packet : Packet) : Moves Asks (calculateHash packet) := by
  unfold calculateHash; infer_instance

theorem Tables.countDup_eq (tables : Tables) (packet : Packet) :
    ∃ direct flood, tables.countDup packet
      = { tables with directDups := direct, floodDups := flood } := by
  rw [Tables.countDup]
  split
  · exact ⟨_, tables.floodDups, rfl⟩
  · exact ⟨tables.directDups, _, rfl⟩

/-- The hash of a packet, as the host computes it at the time of the call. -/
theorem calculateHash_run (packet : Packet) (ctx : Ctx) (w : World) :
    calculateHash packet ctx w =
      if packet.payloadLen > packetPayloadMaxLen then (Buf.zero _, w)
      else ((ctx.hooks w.tick).packetHash packet.hashData, { w with tick := w.tick + 1 }) := by
  rw [calculateHash, Prog.run_ite]
  rfl

/-- The duplicate check finds the hash in the table, or puts it there. -/
theorem tablesHasSeen_run (packet : Packet) (ctx : Ctx) (w : World) :
    tablesHasSeen packet ctx w =
      let r := calculateHash packet ctx w
      if r.1 ∈ r.2.tables.hashes.slots then
        (true, { r.2 with tables := r.2.tables.countDup packet })
      else
        (false,
          { r.2 with tables := r.2.tables.record r.1, trace := r.2.trace ++ [.recorded r.1] }) := by
  simp only [tablesHasSeen, Prog.run_bind, Prog.run_gets, Prog.run_ite]
  split <;> rfl

instance {hands : FloodKey → Prop} (packet : Packet) :
    Uses (Steps hands) [] (tablesHasSeen packet) fun _ => [] where
  uses ctx w extra := by
    have hquiet : Quiet ctx w (calculateHash packet ctx w).2 := Moves.moves ctx w
    refine .head (.quiet hquiet) ?_
    rw [tablesHasSeen_run]
    dsimp only
    split
    · obtain ⟨d, f, hdup⟩ := (calculateHash packet ctx w).2.tables.countDup_eq packet
      rw [hdup]
      exact .single (.dups d f)
    · rename_i hnew
      exact .single (.record _ hnew)

/-- After the duplicate check the hash is in the table. -/
theorem mem_tablesHasSeen (packet : Packet) (ctx : Ctx) (w : World) :
    (calculateHash packet ctx w).1 ∈ (tablesHasSeen packet ctx w).2.tables.hashes.slots := by
  rw [tablesHasSeen_run]
  dsimp only
  split
  · rename_i hmem
    obtain ⟨d, f, hdup⟩ := (calculateHash packet ctx w).2.tables.countDup_eq packet
    rw [hdup]
    exact hmem
  · exact RecentRing.mem_insert_self _ _

end Meshcore
