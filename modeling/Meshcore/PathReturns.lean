import Meshcore.Channels

/-!
# Path returns

A path return tells a peer the way back: the packed length of a path, the path, and an extra of some
type, all sealed with the secret that the two share. Without an extra, four random bytes take its
place so that no two packets are the same. The peer does not know where the extra ends, since the
seal fills its last block up with zeros.

## Main definitions

* `pathReturnText` — what is sealed
* `checkedPathReturn` — the parser, with every access inside the plaintext or refused
* `TakesPathReturn` — a node that has the secret, at the end of the way

## Main results

* `checkedPathReturn_eq` — the parser stays inside the plaintext
* `path_return_round_trip`
-/

namespace Meshcore

/-! ### The record -/

/-- The bytes of a path of this packed length. -/
def pathBytesOf (pathLen : UInt8) : ℕ := (hashSizeOf pathLen).toNat * (hashCountOf pathLen).toNat

/-- The plaintext of a path return. -/
def pathReturnText (pathLen : UInt8) (path : List UInt8) (extraType : UInt8) (extra : List UInt8) :
    List UInt8 :=
  pathLen :: (path.take (pathBytesOf pathLen) ++ extraType :: extra)

/-- Four random bytes stand in for an extra. -/
def sentExtra (extraType : UInt8) (extra : List UInt8) (random : Buf 4) : UInt8 × List UInt8 :=
  if extra = [] then (0xFF, random.bytes) else (extraType, extra)

/-- The parser of path returns. An access outside the plaintext gives `none`; the length of the
extra is kept in eight bits. -/
def checkedPathReturn (data : List UInt8) : Option (Option PathReturn) :=
  if data.length < 2 then some none
  else
    (readAt data 0).bind fun pathLen =>
      let pathBytes := (hashSizeOf pathLen).toNat * (hashCountOf pathLen).toNat
      if 1 + pathBytes + 1 > data.length then some none
      else
        (sliceAt data 1 pathBytes).bind fun path =>
          (readAt data (1 + pathBytes)).bind fun extraType =>
            let extraLen := UInt8.ofNat (data.length - (2 + pathBytes))
            (sliceAt data (2 + pathBytes) extraLen.toNat).map fun extra =>
              some { pathLen, path, extraType := extraType &&& 0x0F, extra }

/-- A parsed path return, with its path cut to the length that it has. -/
def PathReturn.cut (r : PathReturn) : PathReturn :=
  { r with path := r.path.take (pathBytesOf r.pathLen) }

section

variable {pathLen extraType : UInt8} {path extra zeros data : List UInt8}

theorem length_pathReturnText (hpath : pathBytesOf pathLen ≤ path.length) :
    (pathReturnText pathLen path extraType extra).length
      = 2 + pathBytesOf pathLen + extra.length := by
  simp only [pathReturnText, List.length_cons, List.length_append, List.length_take,
    Nat.min_eq_left hpath]
  omega

/-- A plaintext is parsed whatever follows it. -/
theorem parsePathReturn_text (hpath : pathBytesOf pathLen ≤ path.length) :
    parsePathReturn (pathReturnText pathLen path extraType extra ++ zeros)
      = some ⟨pathLen, path.take (pathBytesOf pathLen) ++ extraType :: (extra ++ zeros),
        extraType &&& 0x0F, extra ++ zeros⟩ := by
  have htake : (path.take (pathBytesOf pathLen)).length = pathBytesOf pathLen :=
    List.length_take_of_le hpath
  have htext : pathReturnText pathLen path extraType extra ++ zeros
      = pathLen :: (path.take (pathBytesOf pathLen) ++ extraType :: (extra ++ zeros)) := by
    simp [pathReturnText]
  have hlen := @length_pathReturnText pathLen extraType path extra hpath
  rw [htext]
  have hdrop : (pathLen :: (path.take (pathBytesOf pathLen) ++ extraType :: (extra ++ zeros))).drop
      (2 + pathBytesOf pathLen) = extra ++ zeros := by
    rw [show 2 + pathBytesOf pathLen = (pathBytesOf pathLen + 1) + 1 by omega, List.drop_succ_cons,
      ← List.drop_drop, List.drop_left' htake]
    rfl
  have htype : (pathLen :: (path.take (pathBytesOf pathLen) ++ extraType :: (extra ++ zeros))).getD
      (1 + pathBytesOf pathLen) 0 = extraType := by
    rw [Nat.add_comm 1, List.getD_cons_succ, List.getD_append_right _ _ _ _ htake.le, htake,
      Nat.sub_self]
    rfl
  have hlong : ¬(pathLen :: (path.take (pathBytesOf pathLen) ++
      extraType :: (extra ++ zeros))).length < 2 := by
    simp only [List.length_cons, List.length_append]
    omega
  have hfits : ¬1 + pathBytesOf pathLen + 1 > (pathLen :: (path.take (pathBytesOf pathLen) ++
      extraType :: (extra ++ zeros))).length := by
    simp only [List.length_cons, List.length_append, htake]
    omega
  rw [parsePathReturn, if_neg hlong]
  change (if 1 + pathBytesOf pathLen + 1 > _ then none else some _) = _
  rw [if_neg hfits]
  change some (PathReturn.mk _ _ (List.getD _ (1 + pathBytesOf pathLen) 0 &&& 0x0F)
    (List.drop (2 + pathBytesOf pathLen) _)) = _
  rw [htype, hdrop]
  rfl

/-- The parser stays inside a plaintext of up to 256 bytes, and the length of the extra is what is
left. -/
theorem checkedPathReturn_eq (hlen : data.length ≤ 256) :
    checkedPathReturn data = some ((parsePathReturn data).map PathReturn.cut) := by
  rw [checkedPathReturn, parsePathReturn]
  split
  · rfl
  rename_i hlong
  obtain ⟨pathLen, rest, rfl⟩ : ∃ pathLen rest, data = pathLen :: rest := by
    cases data with
    | nil => exact absurd Nat.two_pos hlong
    | cons pathLen rest => exact ⟨pathLen, rest, rfl⟩
  have hfirst : readAt (pathLen :: rest) 0 = some pathLen := rfl
  rw [hfirst, Option.bind_some]
  change (if 1 + pathBytesOf pathLen + 1 > _ then some none else _)
    = some (Option.map _ (if 1 + pathBytesOf pathLen + 1 > _ then none else some _))
  split
  · rfl
  rename_i hfits
  have hinside : 2 + pathBytesOf pathLen ≤ (pathLen :: rest).length := by omega
  have hleft : (UInt8.ofNat ((pathLen :: rest).length - (2 + pathBytesOf pathLen))).toNat
      = (pathLen :: rest).length - (2 + pathBytesOf pathLen) := by
    rw [UInt8.toNat_ofNat', Nat.mod_eq_of_lt (by omega)]
  have hpath := @sliceAt_of_le (pathLen :: rest) 1 (pathBytesOf pathLen) (by omega)
  have htype : readAt (pathLen :: rest) (1 + pathBytesOf pathLen)
      = some ((pathLen :: rest).getD (1 + pathBytesOf pathLen) 0) := by
    rw [readAt, List.getD_eq_getElem _ _ (by omega), List.getElem?_eq_getElem]
  have hextra := @sliceAt_of_le (pathLen :: rest) (2 + pathBytesOf pathLen)
    (UInt8.ofNat ((pathLen :: rest).length - (2 + pathBytesOf pathLen))).toNat (by omega)
  have hall : ((pathLen :: rest).drop (2 + pathBytesOf pathLen)).take
      (UInt8.ofNat ((pathLen :: rest).length - (2 + pathBytesOf pathLen))).toNat
      = (pathLen :: rest).drop (2 + pathBytesOf pathLen) :=
    List.take_of_length_le (by rw [hleft, List.length_drop])
  rw [hall] at hextra
  change (sliceAt (pathLen :: rest) 1 (pathBytesOf pathLen)).bind (fun path =>
    (readAt (pathLen :: rest) (1 + pathBytesOf pathLen)).bind fun extraType =>
      (sliceAt (pathLen :: rest) (2 + pathBytesOf pathLen)
        (UInt8.ofNat ((pathLen :: rest).length - (2 + pathBytesOf pathLen))).toNat).map _) = _
  rw [hpath, Option.bind_some, htype, Option.bind_some, hextra]
  rfl

/-- What is decrypted is not longer than what was sealed. -/
instance (key : Buf publicKeySize) (bytes : List UInt8) :
    Returns (fun data : List UInt8 => data.length ≤ bytes.length)
      (utilsMacThenDecrypt key bytes) where
  returns ctx w := by
    rw [utilsMacThenDecrypt]
    split
    · exact Nat.zero_le _
    rw [Prog.run_bind]
    cases (hook (fun h => h.hmacSha256 cipherMacSize key (bytes.drop cipherMacSize)) ctx w).1 with
    | none => exact Nat.zero_le _
    | some hmac =>
      rw [Option.elim_some]
      split
      · exact Nat.zero_le _
      rw [utilsDecrypt]
      split
      · exact Nat.zero_le _
      rw [Prog.run_map]
      dsimp only
      generalize hblocks : (cipherBlocks _ _ _ ctx _).1 = blocks
      cases blocks with
      | none => exact Nat.zero_le _
      | some out =>
        have hdiv := Nat.div_mul_le_self (bytes.drop cipherMacSize).length cipherBlockSize
        rw [Option.getD_some, length_cipherBlocks hblocks]
        refine hdiv.trans ?_
        rw [List.length_drop]
        exact Nat.sub_le ..

end

/-! ### Making one -/

section

variable {c : Cipher} {ctx : Ctx} {w : World} {secret : Buf publicKeySize}
  {pathLen extraType : UInt8} {path extra : List UInt8} {destHash srcHash : UInt8}

/-- What a path return carries: the hashes of both ends, and the sealed text. -/
def pathReturnBytes (c : Cipher) (secret : Buf publicKeySize) (destHash srcHash pathLen : UInt8)
    (path : List UInt8) (tail : UInt8 × List UInt8) : List UInt8 :=
  destHash :: srcHash :: c.sealed secret (pathReturnText pathLen path tail.1 tail.2)

/-- The hash of a node in a packet. -/
def Identity.shortHash (identity : Identity) : UInt8 := identity.get 0

theorem identityCopyHashTo_eq (identity : Identity) :
    identityCopyHashTo identity = [Identity.shortHash identity] := by
  rw [identityCopyHashTo, identityCopyHashByLen, if_neg (by decide), Buf.slice_succ _ (by decide),
    Buf.slice_zero]
  rfl

theorem selfId_dispatcherObtainNewPacket (ctx : Ctx) (w : World) :
    (dispatcherObtainNewPacket ctx w).2.selfId = w.selfId := by
  rw [dispatcherObtainNewPacket, Prog.run_bind]
  have halloc : (allocPacket ctx w).2.selfId = w.selfId := rfl
  cases (allocPacket ctx w).1 with
  | none => exact halloc
  | some id => exact halloc

/-- The packet is made, and carries the path and the extra. -/
theorem meshCreatePathReturnByDestHash_made {held : List PacketId}
    (hfits : meshPathReturnExtraFits pathLen extra.length = true)
    (h : FromNow ctx w (Hooks.Ciphers c)) (hpool : w.PoolIntact ctx held)
    (hfree : 0 < w.packetManager.getFreeCount) :
    ∃ id random, (meshCreatePathReturnByDestHash [destHash] secret path pathLen extraType extra ctx
        w).1 = some id ∧
      Made (Load payloadTypePath (pathReturnBytes c secret destHash
        (Identity.shortHash w.selfId.identity) pathLen path (sentExtra extraType extra random))) ctx
        held w id (meshCreatePathReturnByDestHash [destHash] secret path pathLen extraType extra
          ctx w).2 := by
  obtain ⟨id, hid⟩ := Option.isSome_iff_exists.mp
    (@dispatcherObtainNewPacket_isSome ctx w _ hpool.conserves hfree)
  let w₁ := (dispatcherObtainNewPacket ctx w).2
  let random := (ctx.hooks w₁.tick).rngRandom 4
  let sent := sentExtra extraType extra random
  have hself : w₁.selfId = w.selfId := selfId_dispatcherObtainNewPacket ctx w
  have hlater : w.tick ≤ w₁.tick :=
    ((inferInstance : Moves Mute dispatcherObtainNewPacket).moves ctx w).2.2.2.2.2
  obtain ⟨w₂, hafter, hrun⟩ : ∃ w₂, w₁.tick ≤ w₂.tick ∧
      meshCreatePathReturnByDestHash [destHash] secret path pathLen extraType extra ctx w
        = fillEncrypted id payloadTypePath [destHash, Identity.shortHash w.selfId.identity] secret
          (pathReturnText pathLen path sent.1 sent.2) ctx w₂ := by
    have hgets : Prog.gets World.selfId ctx w₁ = (w.selfId, w₁) := by rw [← hself]; rfl
    rw [meshCreatePathReturnByDestHash, if_neg (by simp [hfits]), Prog.run_bind, hid,
      Option.elim_some]
    rw [Prog.run_bind_of hgets, identityCopyHashTo_eq, Prog.run_bind]
    by_cases hnone : extra = []
    · subst hnone
      exact ⟨{ w₁ with tick := w₁.tick + 1 }, Nat.le_succ _, rfl⟩
    · have hsome : extra.length > 0 := List.length_pos_iff.mpr hnone
      have hsent : sent = (extraType, extra) := if_neg hnone
      rw [if_pos hsome, hsent]
      exact ⟨w₁, le_rfl, rfl⟩
  have hsent : sent.2.length ≤ extra.length + 4 := by
    dsimp only [sent]
    rw [sentExtra]
    split
    · rw [Buf.length_bytes]
      omega
    · exact Nat.le_add_right ..
  have htext : (pathReturnText pathLen path sent.1 sent.2).length ≤ 167 :=
    length_le_of_pathReturnExtraFits hfits (by rw [List.length_cons]; omega) path
  have hsealed : ([destHash, Identity.shortHash w.selfId.identity] ++
      c.sealed secret (pathReturnText pathLen path sent.1 sent.2)).length
      ≤ packetPayloadMaxLen := by
    rw [List.length_append, Cipher.length_sealed]
    show 2 + (2 + ((pathReturnText pathLen path sent.1 sent.2).length + 16 - 1) / 16 * 16) ≤ 184
    omega
  obtain ⟨hsome, hload⟩ := @fillEncrypted_load c ctx w₂ secret _ payloadTypePath id
    [destHash, Identity.shortHash w.selfId.identity] (h.later (hlater.trans hafter)) hsealed
  rw [← hrun] at hsome hload
  exact ⟨id, random, hsome, .of_some hpool hsome hload⟩

end

/-! ### Opening one -/

/-- Until it is handed over, a packet changes nothing but the table of the packets that were
seen. -/
def Unpacks (_ : Ctx) (w w' : World) : Prop :=
  w' = { w with tables := w'.tables, tick := w'.tick, trace := w'.trace } ∧ w.tick ≤ w'.tick

instance : Composes Unpacks where
  refl _ _ := ⟨rfl, le_rfl⟩
  trans _ _ _ _ h h' := ⟨h'.1.trans (by rw [h.1]), h.2.trans h'.2⟩

instance (priority := low) Moves.unpacksOfAsks {α : Type} (m : M α) [hm : Moves Asks m] :
    Moves Unpacks m where
  moves ctx w := by
    obtain ⟨hsame, hlater⟩ := hm.moves ctx w
    exact ⟨by rw [hsame], hlater⟩

instance (packet : Packet) : Moves Unpacks (tablesHasSeen packet) where
  moves ctx w := by
    obtain ⟨hsame, hlater⟩ := (inferInstance : Moves Asks (calculateHash packet)).moves ctx w
    rw [tablesHasSeen_run]
    dsimp only
    split
    · exact ⟨by rw [hsame], hlater⟩
    · exact ⟨by rw [hsame], hlater⟩

theorem selfId_tablesHasSeen (packet : Packet) (ctx : Ctx) (w : World) :
    (tablesHasSeen packet ctx w).2.selfId = w.selfId := by
  rw [((inferInstance : Moves Unpacks (tablesHasSeen packet)).moves ctx w).1]

instance (packet : Packet) : Moves Unpacks (handOver packet) where
  moves ctx w := by
    rw [handOver, Prog.run_ite]
    split <;> exact ⟨rfl, le_rfl⟩

theorem Unpacks.mute {ctx : Ctx} {w w' : World} (h : Unpacks ctx w w') : Mute ctx w w' := by
  rw [h.1]
  exact ⟨rfl, rfl, rfl, rfl, rfl, h.2⟩

theorem Unpacks.poolIntact {ctx : Ctx} {w w' : World} {held : List PacketId} (h : Unpacks ctx w w')
    (hpool : w.PoolIntact ctx held) : w'.PoolIntact ctx held := by
  rw [h.1]
  exact ⟨hpool.conserves, hpool.poolSize, hpool.reissued⟩

/-- The host has these peers under this hash: from each slot on the next one, its secret and who it
is. -/
def Hooks.Offers (srcHash : UInt8) (peers : ℕ → Option (ℕ × Buf publicKeySize × PeerIdentity))
    (hooks : Hooks) : Prop :=
  ∀ cursor, hooks.peerNextSharedSecretByHash srcHash cursor = peers cursor

/-- From slot `cursor` on, the first of at most `n` peers whose secret opens the bytes is this
one. -/
inductive FindsPeer (c : Cipher) (bytes : List UInt8) (secret : Buf publicKeySize)
    (sender : PeerIdentity) (peers : ℕ → Option (ℕ × Buf publicKeySize × PeerIdentity)) :
    (n cursor : ℕ) → Prop where
  | found {n cursor slot} (h : peers cursor = some (slot, secret, sender)) :
      FindsPeer c bytes secret sender peers (n + 1) cursor
  | other {n cursor slot secret' sender'} (h : peers cursor = some (slot, secret', sender'))
      (hother : ¬c.Opens secret' bytes)
      (hrest : FindsPeer c bytes secret sender peers n (slot + 1)) :
      FindsPeer c bytes secret sender peers (n + 1) cursor

section

variable {c : Cipher} {ctx : Ctx} {w : World} {packet : Packet} {secret : Buf publicKeySize}
  {sender : PeerIdentity} {peers : ℕ → Option (ℕ × Buf publicKeySize × PeerIdentity)}
  {src : List UInt8} {destHash srcHash type : UInt8} {r : PathReturn}

/-- The peers are tried one after the other, until the one opens the packet that should. It is
handed over as data, or as a path return if it can be parsed. -/
theorem tryPeers_opened {n cursor : ℕ}
    (hfinds : FindsPeer c (c.sealed secret src) secret sender peers n
      cursor) (hc : FromNow ctx w (Hooks.Ciphers c))
      (hoffers : FromNow ctx w (Hooks.Offers srcHash peers))
    (hsrc : src ≠ []) :
    ∃ w' n' cursor', Asks ctx w w' ∧ tryPeers packet srcHash (c.sealed secret src) n cursor ctx w =
      (if packet.getPayloadType = payloadTypePath then
        (parsePathReturn (padded src)).elim
          (tryPeers packet srcHash (c.sealed secret src) n' cursor') fun r => do
            onRecvPath packet srcHash sender secret r
            pure true
      else do
        handOver packet
        onPeerDataRecv packet packet.getPayloadType sender secret (padded src)
        pure true) ctx w' := by
  induction hfinds generalizing w with
  | @found n cursor slot h =>
    have hanswer : hook (fun h => h.peerNextSharedSecretByHash srcHash cursor) ctx w
        = (some (slot, secret, sender), { w with tick := w.tick + 1 }) :=
      Prod.ext ((hoffers.now cursor).trans h) rfl
    have hasked : Asks ctx w { w with tick := w.tick + 1 } := ⟨rfl, Nat.le_succ _⟩
    have hasks :=
      (inferInstance : Moves Asks (utilsMacThenDecrypt secret (c.sealed secret src))).moves
      ctx { w with tick := w.tick + 1 }
    refine ⟨_, n, slot + 1, Composes.trans ctx _ _ _ hasked hasks, ?_⟩
    rw [tryPeers, Prog.run_bind_of hanswer, Option.elim_some, Prog.run_bind,
      utilsMacThenDecrypt_sealed (hc.later hasked.2) hsrc, if_neg (padded_ne_nil hsrc)]
  | @other n cursor slot secret' sender' h hother _ ih =>
    have hanswer : hook (fun h => h.peerNextSharedSecretByHash srcHash cursor) ctx w
        = (some (slot, secret', sender'), { w with tick := w.tick + 1 }) :=
      Prod.ext ((hoffers.now cursor).trans h) rfl
    have hasked : Asks ctx w { w with tick := w.tick + 1 } := ⟨rfl, Nat.le_succ _⟩
    have hasks :=
      (inferInstance : Moves Asks (utilsMacThenDecrypt secret' (c.sealed secret src))).moves
      ctx { w with tick := w.tick + 1 }
    have hall := Composes.trans ctx _ _ _ hasked hasks
    obtain ⟨w', n', cursor', hasks', hrun⟩ := ih (hc.later hall.2) (hoffers.later hall.2)
    refine ⟨w', n', cursor', Composes.trans ctx _ _ _ hall hasks', ?_⟩
    rw [tryPeers, Prog.run_bind_of hanswer, Option.elim_some, Prog.run_bind,
      utilsMacThenDecrypt_refused (hc.later hasked.2) hother, List.length_nil, if_pos rfl, hrun]

/-- A node at the end of the way of a path return that was sealed for it, that has not seen it. -/
structure TakesPathReturn (c : Cipher) (secret : Buf publicKeySize) (sender : PeerIdentity)
    (destHash srcHash : UInt8) (src : List UInt8) (got : Packet) (ctx : Ctx) (w : World) :
    Prop where
  atEnd : AtEnd got
  unseen : Unseen got ctx w
  passes : FromNow ctx w (Hooks.Passes got)
  own : identityIsHashMatch w.selfId.identity [destHash] = true
  ciphers : FromNow ctx w (Hooks.Ciphers c)
  finds : ∃ peers, FromNow ctx w (Hooks.Offers srcHash peers) ∧
    FindsPeer c (c.sealed secret src) secret sender peers ctx.peerLimit 0

/-- Such a node tries its peers on the packet, whatever the type. -/
theorem meshOnRecvPacket_tried (htype : type = payloadTypePath ∨ type = payloadTypeReq ∨
      type = payloadTypeResponse ∨ type = payloadTypeTxtMsg) (hsrc : src ≠ [])
    (hload : Load type (destHash :: srcHash :: c.sealed secret src) packet)
    (h : TakesPathReturn c secret sender destHash srcHash src packet ctx w) :
    ∃ w', Unpacks ctx w w' ∧ meshOnRecvPacket packet ctx w =
      (do
        let found ← tryPeers packet srcHash (c.sealed secret src) ctx.peerLimit 0
        meshRouteRecvPacket (if found then packet.markDoNotRetransmit else packet)) ctx w' := by
  have hlen : packet.payloadLen = 2 + (c.sealed secret src).length := by
    rw [hload.payloadLen_eq, List.length_cons, List.length_cons]
    omega
  have hsealed : cipherMacSize < (c.sealed secret src).length := by
    rw [Cipher.length_sealed, ← length_padded]
    exact Nat.lt_add_of_pos_right (Nat.pos_of_ne_zero (padded_ne_nil hsrc))
  have hlong : 0 < packet.payloadLen ∧ 1 < packet.payloadLen ∧ ¬packet.payloadLen < 2 := by omega
  have hdest : packet.payload.get 0 = destHash := hload.get_payload (Nat.zero_lt_succ _)
  have hfrom : packet.payload.get 1 = srcHash :=
    hload.get_payload (Nat.succ_lt_succ (Nat.zero_lt_succ _))
  have hbytes : packet.payload.slice 2 (packet.payloadLen - 2) = c.sealed secret src := by
    have hslice := @Load.slice_payload packet type _ hload 2 (c.sealed secret src).length
      (by rw [List.length_cons, List.length_cons]; omega)
    rw [hlen, Nat.add_sub_cancel_left, hslice]
    exact List.take_length
  have hother : type ≠ payloadTypeAck ∧ type ≠ payloadTypeTrace ∧ type ≠ payloadTypeControl := by
    rcases htype with rfl | rfl | rfl | rfl <;> decide
  have hpayload : onRecvPayload packet = onRecvPeer packet := by
    rw [onRecvPayload, hload.type_eq, if_neg hother.1, if_pos htype]
  obtain ⟨w₁, hasks, hrun⟩ := meshOnRecvPacket_delivers h.atEnd (hload.type_eq ▸ hother.2.1)
    (hload.type_eq ▸ hother.2.2) h.passes.now
  have hseen := h.unseen.after hasks
  have hunpacks : Unpacks ctx w (tablesHasSeen packet ctx w₁).2 :=
    Composes.trans ctx _ _ _ ⟨by rw [hasks.1], hasks.2⟩ (Moves.moves ctx w₁)
  have hself : (tablesHasSeen packet ctx w₁).2.selfId = w.selfId := by rw [hunpacks.1]
  refine ⟨(tablesHasSeen packet ctx w₁).2, hunpacks, ?_⟩
  rw [hrun, hpayload, onRecvPeer, if_neg hlong.2.2,
    Prog.run_bind_of (payloadByte_run hlong.1 ctx w₁),
    Prog.run_bind_of (payloadByte_run hlong.2.1 ctx w₁), hdest, hfrom, if_neg (by omega),
    Prog.run_bind, hseen, if_neg (by decide)]
  generalize (tablesHasSeen packet ctx w₁).2 = w₂ at hself
  have hgets : Prog.gets World.selfId ctx w₂ = (w.selfId, w₂) := by rw [← hself]; rfl
  have henv : (Prog.env : M Ctx) ctx w₂ = (ctx, w₂) := rfl
  rw [Prog.run_bind_of hgets, Prog.run_bind_of henv,
    Prog.run_bind_of (payloadRead_run (by omega) ctx w₂), hbytes, h.own, if_pos rfl]

/-- Such a node hands over what it parsed, and forwards the packet no further. -/
theorem meshOnRecvPacket_path (hsrc : src ≠ [])
    (hload : Load payloadTypePath (destHash :: srcHash :: c.sealed secret src) packet)
    (hparse : parsePathReturn (padded src) = some r)
    (h : TakesPathReturn c secret sender destHash srcHash src packet ctx w) :
    ∃ w', Unpacks ctx w w' ∧ meshOnRecvPacket packet ctx w =
      (do
        onRecvPath packet srcHash sender secret r
        meshRouteRecvPacket packet.markDoNotRetransmit) ctx w' := by
  obtain ⟨w₁, hunpacks, hrun⟩ := meshOnRecvPacket_tried (.inl rfl) hsrc hload h
  obtain ⟨peers, hoffers, hfinds⟩ := h.finds
  have hlater : w.tick ≤ w₁.tick := hunpacks.2
  obtain ⟨w₂, n, cursor, hasks, htry⟩ :=
    @tryPeers_opened c ctx w₁ packet secret sender peers src srcHash
    _ _ hfinds (h.ciphers.later hlater) (hoffers.later hlater) hsrc
  refine ⟨w₂, Composes.trans ctx _ _ _ hunpacks ⟨by rw [hasks.1], hasks.2⟩, ?_⟩
  rw [hrun, Prog.run_bind, htry, if_pos hload.type_eq, hparse]
  rfl

/-- Such a node hands over the data, and forwards the packet no further. -/
theorem meshOnRecvPacket_data (htype : type = payloadTypeReq ∨ type = payloadTypeResponse ∨
      type = payloadTypeTxtMsg) (hsrc : src ≠ [])
    (hload : Load type (destHash :: srcHash :: c.sealed secret src) packet)
    (h : TakesPathReturn c secret sender destHash srcHash src packet ctx w) :
    ∃ w', Unpacks ctx w w' ∧ meshOnRecvPacket packet ctx w =
      (do
        onPeerDataRecv packet type sender secret (padded src)
        meshRouteRecvPacket packet.markDoNotRetransmit) ctx w' := by
  obtain ⟨w₁, hunpacks, hrun⟩ := meshOnRecvPacket_tried (.inr htype) hsrc hload h
  obtain ⟨peers, hoffers, hfinds⟩ := h.finds
  have hlater : w.tick ≤ w₁.tick := hunpacks.2
  obtain ⟨w₂, n, cursor, hasks, htry⟩ :=
    @tryPeers_opened c ctx w₁ packet secret sender peers src srcHash
    _ _ hfinds (h.ciphers.later hlater) (hoffers.later hlater) hsrc
  have hpath : packet.getPayloadType ≠ payloadTypePath := by
    rw [hload.type_eq]
    rcases htype with rfl | rfl | rfl <;> decide
  have hover := (inferInstance : Moves Unpacks (handOver packet)).moves ctx w₂
  have hopened : Unpacks ctx w₁ w₂ := ⟨by rw [hasks.1], hasks.2⟩
  refine ⟨(handOver packet ctx w₂).2, Composes.trans ctx _ _ _ hunpacks <|
    Composes.trans ctx _ _ _ hopened hover, ?_⟩
  rw [hrun, Prog.run_bind, htry, if_neg hpath, hload.type_eq]
  rfl

/-- While the runtime is not initialised its host is told of what was parsed, and of nothing
else. -/
theorem onRecvPath_told (hinit : w.initialized = false) :
    (onRecvPath packet srcHash sender secret r ctx w).2.events = w.events ++
      [.meshOnPeerPathRecv packet sender secret r.path r.pathLen r.extraType r.extra] := by
  obtain ⟨hevents, -, -, hinit', -⟩ := (inferInstance : Moves Mute (handOver packet)).moves ctx w
  let event : Event := .meshOnPeerPathRecv packet sender secret r.path r.pathLen r.extraType r.extra
  have hasked : ∀ v : World, v.initialized = false →
      onPeerPathRecv packet sender secret r.path r.pathLen r.extraType r.extra ctx v
        = (emit event >>= fun _ => hook Hooks.meshOnPeerPathRecv) ctx v := by
    intro v hv
    rw [onPeerPathRecv, Prog.run_bind, Prog.run_gets, hv]
    rfl
  rw [onRecvPath, Prog.run_bind, Prog.run_bind, hasked _ (hinit'.trans hinit)]
  have hanswers : ∀ answer : Bool, Moves Silent (if answer ∧ packet.isRouteFlood then do
      let path ← pathRead packet 0 packet.getPathByteLen.toNat
      let rpath ← meshCreatePathReturnByDestHash [srcHash] secret path packet.pathLenField 0 []
      rpath.elim (pure ()) fun id => meshSendDirect id r.path r.pathLen 500
    else pure () : M Unit) := by
    intro answer
    have hread : Moves Silent (pathRead packet 0 packet.getPathByteLen.toNat) := by
      unfold pathRead; infer_instance
    infer_instance
  refine ((hanswers _).moves ctx _).events.trans ?_
  rw [← hevents]
  rfl

end

/-! ### The result -/

/-- **Path returns.** A path and an extra that fit are made into a packet. Whatever way it takes to
a node that has the secret, that node parses out of it the same packed length, the same path, and
the type of the extra and its bytes with zeros behind them; without an extra, the type 15 and the
four random bytes. No plaintext that comes out of a packet has the parser read outside it. -/
theorem path_return_round_trip (c : Cipher) (secret : Buf publicKeySize) {pathLen : UInt8}
    {path extra : List UInt8} (hpath : pathBytesOf pathLen ≤ path.length)
    (hfits : meshPathReturnExtraFits pathLen extra.length = true) (extraType destHash : UInt8) :
    (∀ ctx w held, w.PoolIntact ctx held → 0 < w.packetManager.getFreeCount →
      FromNow ctx w (Hooks.Ciphers c) →
      let made := meshCreatePathReturnByDestHash [destHash] secret path pathLen
        extraType extra ctx w
      ∃ id random, made.1 = some id ∧ Made (Load payloadTypePath (pathReturnBytes c secret destHash
        (Identity.shortHash w.selfId.identity) pathLen path (sentExtra extraType extra random))) ctx
        held w id made.2) ∧
    (∀ srcHash random sent, Load payloadTypePath
      (pathReturnBytes c secret destHash srcHash pathLen path
        (sentExtra extraType extra random)) sent → ∀ got, Relayed sent got → ∀ ctx w sender,
      TakesPathReturn c secret sender destHash srcHash (pathReturnText pathLen path
        (sentExtra extraType extra random).1 (sentExtra extraType extra random).2) got ctx w →
      ∃ r w', Mute ctx w w' ∧
        meshOnRecvPacket got ctx w =
          (do
            onRecvPath got srcHash sender secret r
            meshRouteRecvPacket got.markDoNotRetransmit) ctx w' ∧
        (w.initialized = false → (meshOnRecvPacket got ctx w).2.events = w.events ++
          [.meshOnPeerPathRecv got sender secret r.path r.pathLen r.extraType r.extra]) ∧
        r.pathLen = pathLen ∧
        r.path.take (pathBytesOf pathLen) = path.take (pathBytesOf pathLen) ∧
        r.extraType = (if extra = [] then 15 else extraType &&& 15) ∧
        ∃ zeros, r.extra = (if extra = [] then random.bytes else extra) ++ List.replicate zeros 0) ∧
    ∀ got : Packet, got.Encodable → ∀ key ctx w,
      let data := (utilsMacThenDecrypt key (got.payload.slice 2 (got.payloadLen - 2)) ctx w).1
      checkedPathReturn data = some ((parsePathReturn data).map PathReturn.cut) := by
  refine ⟨?_, ?_, ?_⟩
  · intro ctx w held hpool hfree h
    exact meshCreatePathReturnByDestHash_made hfits h hpool hfree
  · intro srcHash random sent hload got hrelayed ctx w sender htakes
    let tail := sentExtra extraType extra random
    let src := pathReturnText pathLen path tail.1 tail.2
    have hparse := @parsePathReturn_text pathLen tail.1 path tail.2
      (List.replicate (cipherBlockCount src * cipherBlockSize - src.length) 0) hpath
    obtain ⟨w', hunpacks, hrun⟩ := meshOnRecvPacket_path (List.cons_ne_nil _ _)
      (hrelayed.load hload) hparse htakes
    have hmute := hunpacks.mute
    refine ⟨_, w', hmute, hrun, ?_, rfl, ?_, ?_, ?_⟩
    · intro hinit
      obtain ⟨hevents, -, -, hinit', -⟩ := hmute
      rw [hrun, ← hevents, ← onRecvPath_told (hinit'.trans hinit)]
      exact ((inferInstance : Moves Silent (meshRouteRecvPacket got.markDoNotRetransmit)).moves
        ctx _).events
    · exact List.take_left' (List.length_take_of_le hpath)
    · dsimp only [tail]
      rw [sentExtra]
      split
      · show (0xFF : UInt8) &&& 15 = 15
        decide
      · rfl
    · refine ⟨cipherBlockCount src * cipherBlockSize - src.length, ?_⟩
      have htail : tail.2 = if extra = [] then random.bytes else extra := by
        dsimp only [tail]
        rw [sentExtra]
        split <;> rfl
      rw [← htail]
  · intro got henc key ctx w data
    have hle : data.length ≤ (got.payload.slice 2 (got.payloadLen - 2)).length :=
      (inferInstance : Returns (fun data : List UInt8 => data.length ≤
        (got.payload.slice 2 (got.payloadLen - 2)).length) (utilsMacThenDecrypt key _)).returns
        ctx w
    rw [Buf.length_slice] at hle
    refine checkedPathReturn_eq (hle.trans ((min_le_right _ _).trans ?_))
    decide

/-- A peer whose secret is all zeros. -/
def zeroPeer : PeerIdentity := ⟨Buf.zero _, Buf.zero _⟩

/-- A node that has that peer in its first slot. -/
def Ctx.knowingPeer : Ctx :=
  { Ctx.listening with
    peerLimit := 1
    hooks := fun n =>
      { Ctx.listening.hooks n with
        peerNextSharedSecretByHash := fun _ cursor =>
          if cursor = 0 then some (0, Buf.zero _, zeroPeer) else none } }

/-- With the key of zeros, and while it has heard nothing, it takes what that peer seals. -/
theorem takes_knowingPeer (src : List UInt8) {got : Packet} {w : World} (hend : AtEnd got)
    (hlen : got.payloadLen ≤ packetPayloadMaxLen) (htables : w.tables = .init)
    (hself : w.selfId.identity = Buf.zero _) :
    TakesPathReturn .plain (Buf.zero _) zeroPeer 0 1 src got .knowingPeer w where
  atEnd := hend
  unseen _ _ := tablesHasSeen_fresh (fun _ _ => rfl) hlen htables
  passes _ _ := rfl
  own := by rw [hself]; decide +kernel
  ciphers _ _ := ⟨fun _ _ => rfl, fun _ _ => rfl, fun _ _ => rfl⟩
  finds := ⟨fun cursor => if cursor = 0 then some (0, Buf.zero _, zeroPeer) else none,
    fun _ _ _ => rfl, .found rfl⟩

/-- A flood with a path of one hash and one byte for a node of hash 0. -/
def pathReturnPacket : Packet :=
  { Packet.init with
    header := 0x21
    payloadLen := 20
    payload := (Buf.zero _).store 0
      (pathReturnBytes .plain (Buf.zero _) 0 1 1 [9] (sentExtra 3 [7] (Buf.zero _))) }

theorem path_return_round_trip_one :
    ∃ path extra, (meshOnRecvPacket pathReturnPacket .knowingPeer .boot).2.events
        = [.meshOnPeerPathRecv pathReturnPacket zeroPeer (Buf.zero _) path 1 3 extra] ∧
      path.take 1 = [9] ∧ ∃ zeros, extra = 7 :: List.replicate zeros 0 := by
  have hload : Load payloadTypePath (pathReturnBytes .plain (Buf.zero _) 0 1 1 [9]
      (sentExtra 3 [7] (Buf.zero _))) pathReturnPacket :=
    { type_eq := by decide
      payloadBytes_eq := by decide +kernel
      payloadLen_eq := by decide +kernel
      length_le := by decide +kernel }
  have hair : OnAir pathReturnPacket pathReturnPacket := ⟨Packet.init, by decide +kernel⟩
  have htakes : TakesPathReturn .plain (Buf.zero _) zeroPeer 0 1
      (pathReturnText 1 [9] (sentExtra 3 [7] (Buf.zero _)).1 (sentExtra 3 [7] (Buf.zero _)).2)
      pathReturnPacket .knowingPeer .boot :=
    takes_knowingPeer _ (fun _ => by decide) (by decide) rfl rfl
  obtain ⟨r, w', -, -, hevents, hlen, hpath, htype, zeros, hextra⟩ :=
    (@path_return_round_trip .plain (Buf.zero _) 1 [9] [7] (by decide) (by decide) 3 0).2.1 1
      (Buf.zero _) pathReturnPacket hload pathReturnPacket
      (.heard ⟨pathReturnPacket, hair, rfl⟩) .knowingPeer .boot zeroPeer htakes
  rw [hlen, htype, hextra] at hevents
  exact ⟨r.path, _, hevents rfl, hpath, zeros, rfl⟩

end Meshcore
