import Meshcore.Codec
import Meshcore.PoolConservation
import Meshcore.Settle

/-!
# What becomes of a packet that this node makes

A packet is made in a free buffer and then sent: its route is written into it and it goes to the end
of the send queue. A packet that the send queue would refuse, because its path length is invalid,
goes back to the pool, and nobody is told.

## Main definitions

* `Load`, `Sent` — what a packet carries, and that it is on its way
* `Unsent`, `Shipped` — the send queue stays, or takes one packet

## Main results

* `shipped_of_written`, `unsent_of_written` — a packet with its route is queued, or goes back
* `meshSendFlood_shipped`, `meshSendDirect_shipped`, `sendToPeer_shipped`
-/

namespace Meshcore

/-! ### Loads -/

/-- A packet carries these bytes under this payload type. -/
structure Load (type : UInt8) (bytes : List UInt8) (packet : Packet) : Prop where
  type_eq : packet.getPayloadType = type
  payloadBytes_eq : packet.payloadBytes = bytes
  payloadLen_eq : packet.payloadLen = bytes.length
  length_le : bytes.length ≤ packetPayloadMaxLen

/-- Such a packet is on its way, as a flood or along a path. -/
structure Sent (type : UInt8) (bytes : List UInt8) (packet : Packet) : Prop extends
    Load type bytes packet where
  route : packet.getRouteType = routeTypeFlood ∨ packet.getRouteType = routeTypeDirect
  validPathLen : isValidPathLen packet.pathLenField = true

section

variable {type : UInt8} {bytes : List UInt8} {packet packet' : Packet}

/-- The route and the path are no part of the load. -/
theorem Load.congr (h : Load type bytes packet)
    (htype : packet'.getPayloadType = packet.getPayloadType)
    (hpayload : packet'.payload = packet.payload) (hlen : packet'.payloadLen = packet.payloadLen) :
    Load type bytes packet' := by
  refine ⟨htype.trans h.type_eq, ?_, hlen.trans h.payloadLen_eq, h.length_le⟩
  rw [Packet.payloadBytes, hpayload, hlen]
  exact h.payloadBytes_eq

theorem getRouteType_withRouteType (packet : Packet) {routeType : UInt8}
    (h : routeType &&& phRouteMask = routeType) :
    (packet.withRouteType routeType).getRouteType = routeType := by
  have hdistrib : ∀ a b c : UInt8, (a ||| b) &&& c = (a &&& c) ||| (b &&& c) := fun _ _ _ =>
    UInt8.toBitVec_inj.mp BitVec.and_or_distrib_right
  have hmask : ~~~phRouteMask &&& phRouteMask = (0 : UInt8) := by decide
  rw [Packet.getRouteType, Packet.withRouteType, hdistrib, h, UInt8.and_assoc, hmask,
    UInt8.and_zero, UInt8.zero_or]

/-- A packet that was just filled. -/
theorem Load.fill (p : Packet) (hbytes : bytes.length ≤ packetPayloadMaxLen) (pathLen : UInt16)
    (codes : UInt16 × UInt16) (path : Buf maxPathLen) (snrQ4 : Int8) :
    Load (madeType type) bytes
      ⟨typeHeader type, bytes.length, pathLen, codes, path, p.payload.store 0 bytes, snrQ4⟩ :=
  ⟨rfl, Buf.slice_store_self _ (by rw [Nat.zero_add]; exact hbytes), rfl, hbytes⟩

end

/-! ### The send queue -/

/-- The send queue stays. -/
def Unsent (_ : Ctx) (w w' : World) : Prop :=
  w'.packetManager.sendQueue = w.packetManager.sendQueue

instance : Composes Unsent where
  refl _ _ := rfl
  trans _ _ _ _ h h' := Eq.trans h' h

instance (priority := low) Moves.unsentOfQuiet {α : Type} (m : M α) [hm : Moves Quiet m] :
    Moves Unsent m where
  moves ctx w := by
    rw [hm.moves ctx w]
    rfl

/-- One packet goes to the end of the send queue. -/
def Shipped (Q : Packet → Prop) (w w' : World) : Prop :=
  ∃ entry, w'.packetManager.sendQueue.entries = w.packetManager.sendQueue.entries ++ [entry] ∧
    Q (w'.packetManager.packetBuf entry.packet)

theorem Shipped.after {Q : Packet → Prop} {ctx : Ctx} {w w' w'' : World} (h : Unsent ctx w w')
    (hs : Shipped Q w' w'') : Shipped Q w w'' := by
  obtain ⟨entry, hentries, hQ⟩ := hs
  exact ⟨entry, by rw [hentries, h], hQ⟩

theorem Shipped.imp {P Q : Packet → Prop} {w w' : World} (hs : Shipped P w w')
    (h : ∀ packet, P packet → Q packet) : Shipped Q w w' := by
  obtain ⟨entry, hentries, hP⟩ := hs
  exact ⟨entry, hentries, h _ hP⟩

instance (id : PacketId) (packet : Packet) : Moves Unsent (writePacket id packet) :=
  ⟨fun _ _ => rfl⟩

instance (id : PacketId) (f : Packet → Packet) : Moves Unsent (updatePacket id f) := by
  unfold updatePacket; infer_instance

instance (flag : UInt16) : Moves Unsent (setErrFlag flag) := ⟨fun _ _ => rfl⟩

instance (m : Mark) : Moves Unsent (mark m) := ⟨fun _ _ => rfl⟩

theorem PacketQueueManager.sendQueue_allocNew (manager : PacketQueueManager) :
    manager.allocNew.2.sendQueue = manager.sendQueue := by
  rw [allocNew]; split <;> rfl

theorem PacketQueueManager.sendQueue_free (manager : PacketQueueManager) (id : PacketId) :
    (manager.free id).sendQueue = manager.sendQueue := by
  rw [free]; split <;> rfl

/-- Packets go to the end of the send queue only, and those that wait there stay as they are. -/
theorem Steps.keepsQueue {hands : FloodKey → Prop} {ctx : Ctx} {h h' : List PacketId} {w w' : World}
    (hs : Steps hands ctx (h, w) (h', w')) {extra : List PacketId}
    (hc : w.packetManager.Conserves (h ++ extra)) :
    w.packetManager.sendQueue.entries <+: w'.packetManager.sendQueue.entries ∧
      ∀ entry ∈ w.packetManager.sendQueue.entries,
        w'.packetManager.packetBuf entry.packet = w.packetManager.packetBuf entry.packet := by
  refine (hs.induct (P := fun h w₁ => w₁.packetManager.Conserves (h ++ extra) ∧
    w.packetManager.sendQueue.entries <+: w₁.packetManager.sendQueue.entries ∧
      ∀ entry ∈ w.packetManager.sendQueue.entries,
        w₁.packetManager.packetBuf entry.packet = w.packetManager.packetBuf entry.packet)
    ⟨hc, List.prefix_rfl, fun _ _ => rfl⟩ ?_).2
  rintro h₁ w₁ h₂ w₂ ⟨hc₁, hqueue, hbuf⟩ hstep
  refine ⟨hstep.conserves hc₁, ?_⟩
  cases hstep with
  | quiet hq =>
    rw [hq]
    exact ⟨hqueue, hbuf⟩
  | write id packet hid =>
    refine ⟨hqueue, fun entry hentry => ?_⟩
    have hne : entry.packet ≠ id := by
      rintro rfl
      exact hc₁.not_mem_sendQueue (List.mem_append_left _ hid)
        (List.mem_map_of_mem (hqueue.subset hentry))
    exact (Function.update_of_ne hne ..).trans (hbuf entry hentry)
  | @alloc _ _ _ m halloc =>
    have hm := congrArg (·.2.packetBuf) halloc
    have hsend := congrArg (·.2.sendQueue) halloc
    simp only [PacketQueueManager.packetBuf_allocNew] at hm
    simp only [PacketQueueManager.sendQueue_allocNew] at hsend
    show w.packetManager.sendQueue.entries <+: m.sendQueue.entries ∧
      ∀ entry ∈ w.packetManager.sendQueue.entries,
        m.packetBuf entry.packet = w.packetManager.packetBuf entry.packet
    rw [← hm, ← hsend]
    exact ⟨hqueue, hbuf⟩
  | free id =>
    refine ⟨?_, fun entry hentry => by simpa using hbuf entry hentry⟩
    show _ <+: (w₁.packetManager.free id).sendQueue.entries
    rw [PacketQueueManager.sendQueue_free]
    exact hqueue
  | queueOutbound id pri scheduledFor =>
    refine ⟨?_, fun entry hentry => by simpa using hbuf entry hentry⟩
    show _ <+: (w₁.packetManager.queueOutbound id pri scheduledFor).sendQueue.entries
    rw [(hc₁.queueOutbound pri scheduledFor).2]
    exact hqueue.trans (List.prefix_append ..)
  | errFlags | handed | sent | dups | record => exact ⟨hqueue, hbuf⟩

instance : Moves Unsent allocPacket := ⟨fun _ w => w.packetManager.sendQueue_allocNew⟩

instance (id : PacketId) : Moves Unsent (modifyManager (·.free id)) :=
  ⟨fun _ w => w.packetManager.sendQueue_free id⟩

instance (packet : Packet) : Moves Unsent (tablesHasSeen packet) where
  moves ctx w := by
    have hask : Unsent ctx w (calculateHash packet ctx w).2 := Moves.moves ctx w
    rw [tablesHasSeen_run]
    dsimp only
    split <;> exact hask

instance (id : PacketId) : Moves Unsent (dispatcherReleasePacket id) := by
  unfold dispatcherReleasePacket; infer_instance

instance (f : Dispatcher → Dispatcher) : Moves Unsent (modifyDispatcher f) := ⟨fun _ _ => rfl⟩

instance (id : PacketId) : Moves Unsent (releaseOutbound id) := by
  unfold releaseOutbound; infer_instance

set_option synthInstance.maxSize 10000 in
instance (id : PacketId) (now : ℕ) : Moves Unsent (startSend id now) := by
  unfold startSend; infer_instance

instance (packet : Packet) : Moves Unsent (recordSentFlood packet) := by
  unfold recordSentFlood; infer_instance

instance : Moves Unsent dispatcherObtainNewPacket := by
  unfold dispatcherObtainNewPacket; infer_instance

instance (identity : LocalIdentity) (appData : List UInt8) :
    Moves Unsent (meshCreateAdvert identity appData) := by
  unfold meshCreateAdvert; infer_instance

instance (id : PacketId) (type : UInt8) (clear : List UInt8) (secret : Buf publicKeySize)
    (data : List UInt8) : Moves Unsent (fillEncrypted id type clear secret data) := by
  unfold fillEncrypted; infer_instance

instance (type : UInt8) (dest : Identity) (secret : Buf publicKeySize) (data : List UInt8) :
    Moves Unsent (meshCreateDatagram type dest secret data) := by
  unfold meshCreateDatagram; infer_instance

instance (type : UInt8) (sender : LocalIdentity) (dest : Identity) (secret : Buf publicKeySize)
    (data : List UInt8) :
    Moves Unsent (meshCreateAnonDatagram type sender dest secret data) := by
  unfold meshCreateAnonDatagram; infer_instance

instance (type : UInt8) (channel : GroupChannel) (data : List UInt8) :
    Moves Unsent (meshCreateGroupDatagram type channel data) := by
  unfold meshCreateGroupDatagram; infer_instance

instance (ack : List UInt8) : Moves Unsent (meshCreateAckData ack) := by
  unfold meshCreateAckData; infer_instance

instance (ack : List UInt8) (remaining : UInt8) :
    Moves Unsent (meshCreateMultiAckData ack remaining) := by
  unfold meshCreateMultiAckData; infer_instance

instance (destHash : List UInt8) (secret : Buf publicKeySize) (path : List UInt8)
    (pathLen extraType : UInt8) (extra : List UInt8) :
    Moves Unsent
      (meshCreatePathReturnByDestHash destHash secret path pathLen extraType extra) := by
  unfold meshCreatePathReturnByDestHash; infer_instance

instance (dest : Identity) (secret : Buf publicKeySize) (path : List UInt8)
    (pathLen extraType : UInt8) (extra : List UInt8) :
    Moves Unsent (meshCreatePathReturnByIdentity dest secret path pathLen extraType extra) := by
  unfold meshCreatePathReturnByIdentity; infer_instance

instance (type : UInt8) (data : List UInt8) : Moves Unsent (createPlain type data) := by
  unfold createPlain; infer_instance

instance (data : List UInt8) : Moves Unsent (meshCreateRawData data) := by
  unfold meshCreateRawData; infer_instance

instance (data : List UInt8) : Moves Unsent (meshCreateControlData data) := by
  unfold meshCreateControlData; infer_instance

instance (tag authCode : UInt32) (flags : UInt8) :
    Moves Unsent (meshCreateTrace tag authCode flags) := by
  unfold meshCreateTrace; infer_instance

/-! ### The length of a ciphertext -/

/-- The length of a text whose last block is filled up. -/
def paddedLength (n : ℕ) : ℕ := (n + (cipherBlockSize - 1)) / cipherBlockSize * cipherBlockSize

theorem paddedLength_le {n k : ℕ} (h : n ≤ 16 * k) : paddedLength n ≤ 16 * k := by
  show (n + 15) / 16 * 16 ≤ 16 * k
  omega

section

variable {ctx : Ctx} {w : World} {secret : Buf publicKeySize} {src out : List UInt8}

theorem length_cipherBlocks {cipher : Hooks → Buf cipherBlockSize → Option (Buf cipherBlockSize)}
    {n : ℕ} (h : (cipherBlocks cipher n src ctx w).1 = some out) :
    out.length = n * cipherBlockSize := by
  induction n generalizing src out w with
  | zero =>
    obtain rfl := Option.some.inj h
    rfl
  | succ n ih =>
    rw [cipherBlocks, Prog.run_bind] at h
    cases hblock : (hook (fun h => cipher h (cipherBlock src)) ctx w).1 with
    | none => simp [hblock] at h
    | some block =>
      simp only [hblock, Option.elim_some, Prog.run_bind, Prog.run_pure,
        Option.map_eq_some_iff] at h
      obtain ⟨rest, hrest, rfl⟩ := h
      rw [List.length_append, ih hrest, Buf.length_bytes, Nat.succ_mul, Nat.add_comm]

theorem length_utilsEncrypt (h : (utilsEncrypt secret src ctx w).1 = some out) :
    out.length = paddedLength src.length := by
  rw [utilsEncrypt, Prog.run_bind] at h
  cases hfull : (cipherBlocks (·.aes128EncryptBlock secret) (src.length / cipherBlockSize) src ctx
    w).1 with
  | none => simp [hfull] at h
  | some full =>
    have hlen := length_cipherBlocks hfull
    simp only [hfull, Option.elim_some, Prog.run_ite, List.length_drop, Prog.run_bind,
      Prog.run_pure] at h
    simp only [cipherBlockSize, paddedLength] at hlen h ⊢
    split at h
    · obtain rfl := Option.some.inj h
      omega
    · rw [Option.map_eq_some_iff] at h
      obtain ⟨block, -, rfl⟩ := h
      rw [List.length_append, Buf.length_bytes, hlen]
      omega

theorem length_utilsEncryptThenMac (h : (utilsEncryptThenMac secret src ctx w).1 = some out) :
    out.length = cipherMacSize + paddedLength src.length := by
  rw [utilsEncryptThenMac, Prog.run_bind] at h
  cases henc : (utilsEncrypt secret src ctx w).1 with
  | none => simp [henc] at h
  | some enc =>
    simp only [henc, Option.elim_some, Prog.run_ite, Prog.run_bind, Prog.run_pure] at h
    split at h
    · cases h
    · rw [Option.map_eq_some_iff] at h
      obtain ⟨mac, -, rfl⟩ := h
      rw [List.length_append, Buf.length_bytes, length_utilsEncrypt henc]

end

/-! ### Making a packet -/

/-- A program that makes a packet with a property, or none. -/
class Fills (P : Packet → Prop) (m : M (Option PacketId)) : Prop where
  fills : ∀ ctx w id, (m ctx w).1 = some id → P ((m ctx w).2.packetManager.packetBuf id)

/-- A packet carries something under this payload type. -/
def Loaded (type : UInt8) (packet : Packet) : Prop := ∃ bytes, Load (madeType type) bytes packet

namespace Fills

variable {P : Packet → Prop} {α : Type}

instance bind (m : M α) (f : α → M (Option PacketId)) [hf : ∀ a, Fills P (f a)] :
    Fills P (m >>= f) := ⟨fun ctx _ id h => (hf _).fills ctx _ id h⟩

/-- What follows may rely on what the first program answers. -/
theorem bind_of_returns {Q : α → Prop} {m : M α} {f : α → M (Option PacketId)} [hQ : Returns Q m]
    (hf : ∀ a, Q a → Fills P (f a)) : Fills P (m >>= f) :=
  ⟨fun ctx w id h => (hf _ (hQ.returns ctx w)).fills ctx _ id h⟩

instance none : Fills P (pure Option.none) := ⟨fun _ _ _ h => absurd h (by simp)⟩

instance ite (c : Prop) [Decidable c] (m n : M (Option PacketId)) [hm : Fills P m]
    [hn : Fills P n] : Fills P (if c then m else n) := by
  split
  · exact hm
  · exact hn

instance elim (o : Option α) (n : M (Option PacketId)) (f : α → M (Option PacketId))
    [hn : Fills P n] [hf : ∀ a, Fills P (f a)] : Fills P (o.elim n f) := by
  cases o with
  | none => exact hn
  | some a => exact hf a

theorem imp {Q : Packet → Prop} {m : M (Option PacketId)} [hm : Fills P m]
    (h : ∀ packet, P packet → Q packet) : Fills Q m :=
  ⟨fun ctx w id hid => h _ (hm.fills ctx w id hid)⟩

/-- The packet is filled last. -/
theorem update {id : PacketId} {f : Packet → Packet} (h : ∀ p, P (f p)) :
    Fills P (do
      updatePacket id f
      pure (some id)) where
  fills ctx w id' hid := by
    obtain rfl := Option.some.inj hid
    simpa [updatePacket, readPacket] using h _

end Fills

/-- A packet that was filled with so many bytes. -/
theorem Loaded.fill {type : UInt8} {bytes : List UInt8} (p : Packet) {n : ℕ} (hn : n = bytes.length)
    (hbytes : bytes.length ≤ packetPayloadMaxLen) (pathLen : UInt16) (codes : UInt16 × UInt16)
    (path : Buf maxPathLen) (snrQ4 : Int8) :
    Loaded type
      ⟨typeHeader type, n, pathLen, codes, path, p.payload.store 0 bytes, snrQ4⟩ := by
  subst hn
  exact ⟨bytes, .fill p hbytes ..⟩

theorem fillEncrypted_loaded (id : PacketId) (type : UInt8) {clear : List UInt8}
    (secret : Buf publicKeySize) {data : List UInt8}
    (hlen : clear.length + (cipherMacSize + paddedLength data.length) ≤ packetPayloadMaxLen) :
    Fills (Loaded type) (fillEncrypted id type clear secret data) where
  fills ctx w id' h := by
    rw [fillEncrypted, Prog.run_bind] at h ⊢
    cases henc : (utilsEncryptThenMac secret data ctx w).1 with
    | none => simp [henc] at h
    | some enc =>
      have hbytes := length_utilsEncryptThenMac henc
      rw [henc, Option.elim_some] at h
      refine (Fills.update (P := Loaded type) fun p => ?_).fills ctx _ id' h
      exact .fill p (by rw [List.length_append])
        (by rw [List.length_append, hbytes]; exact hlen) ..

instance (identity : LocalIdentity) (appData : List UInt8) :
    Fills (Loaded payloadTypeAdvert) (meshCreateAdvert identity appData) := by
  unfold meshCreateAdvert
  split
  · infer_instance
  · rename_i hlen
    have hfill : ∀ (id : PacketId) (timestamp : UInt32) (signature : Buf 64),
        Fills (Loaded payloadTypeAdvert) (do
          updatePacket id fun p =>
            { p with
              header := typeHeader payloadTypeAdvert
              payload := p.payload.store 0 (identity.identity.bytes ++ leBytes 4 timestamp.toNat ++
                signature.bytes ++ appData)
              payloadLen := (identity.identity.bytes ++ leBytes 4 timestamp.toNat ++
                signature.bytes ++ appData).length }
          pure (some id)) := by
      refine fun id timestamp signature => .update fun p => .fill p rfl ?_ ..
      simp only [List.length_append, Buf.length_bytes, length_leBytes,
        meshMaxAdvertDataSize] at hlen ⊢
      show 32 + 4 + 64 + _ ≤ 184
      omega
    infer_instance

theorem identityCopyHashTo_length (identity : Identity) :
    (identityCopyHashTo identity).length = 1 := by
  rw [identityCopyHashTo, identityCopyHashByLen, if_neg (by decide),
    Buf.length_slice_of_le _ (by decide)]

instance (type : UInt8) (dest : Identity) (secret : Buf publicKeySize) (data : List UInt8) :
    Fills (Loaded type) (meshCreateDatagram type dest secret data) := by
  unfold meshCreateDatagram
  split
  · infer_instance
  split
  · infer_instance
  · rename_i hfits
    have hfill : ∀ id (selfId : LocalIdentity), Fills (Loaded type) (fillEncrypted id type
        (identityCopyHashTo dest ++ identityCopyHashTo selfId.identity) secret data) := by
      intro id selfId
      have hfits : meshDatagramPlaintextFits data.length = true := by simpa using hfits
      have hdata : data.length ≤ 167 := of_decide_eq_true hfits
      have hpadded := @paddedLength_le data.length 11 (by omega)
      refine fillEncrypted_loaded id type secret ?_
      simp only [List.length_append, identityCopyHashTo_length]
      show 1 + 1 + (2 + _) ≤ 184
      omega
    infer_instance

instance (type : UInt8) (sender : LocalIdentity) (dest : Identity) (secret : Buf publicKeySize)
    (data : List UInt8) :
    Fills (Loaded type) (meshCreateAnonDatagram type sender dest secret data) := by
  unfold meshCreateAnonDatagram
  split
  · infer_instance
  split
  · infer_instance
  · rename_i hfits
    have hfill : ∀ id, Fills (Loaded type) (fillEncrypted id type
        (identityCopyHashTo dest ++ sender.identity.bytes) secret data) := by
      intro id
      have hdata : data.length ≤ 136 := not_lt.mp hfits
      have hpadded := @paddedLength_le data.length 9 (by omega)
      refine fillEncrypted_loaded id type secret ?_
      simp only [List.length_append, identityCopyHashTo_length, Buf.length_bytes]
      show 1 + 32 + (2 + _) ≤ 184
      omega
    infer_instance

instance (type : UInt8) (channel : GroupChannel) (data : List UInt8) :
    Fills (Loaded type) (meshCreateGroupDatagram type channel data) := by
  unfold meshCreateGroupDatagram
  split
  · infer_instance
  split
  · infer_instance
  · rename_i hfits
    have hfill : ∀ id,
        Fills (Loaded type) (fillEncrypted id type [channel.hash] channel.secret data) := by
      intro id
      have hdata : data.length ≤ 168 := not_lt.mp hfits
      have hpadded := @paddedLength_le data.length 11 (by omega)
      refine fillEncrypted_loaded id type channel.secret ?_
      show 1 + (2 + _) ≤ 184
      omega
    infer_instance

/-- With a path and an extra that fit, the plaintext of a path packet is short enough. -/
theorem length_le_of_pathReturnExtraFits {pathLen : UInt8} {tail : List UInt8} {extraLen : ℕ}
    (hfits : meshPathReturnExtraFits pathLen extraLen = true) (htail : tail.length ≤ extraLen + 5)
    (path : List UInt8) :
    (pathLen :: (path.take ((hashSizeOf pathLen).toNat * (hashCountOf pathLen).toNat) ++
      tail)).length ≤ 167 := by
  simp only [meshPathReturnExtraFits] at hfits
  generalize (hashSizeOf pathLen).toNat * (hashCountOf pathLen).toNat = pathBytes at hfits ⊢
  split at hfits
  · cases hfits
  · rename_i hpath
    have hpath : pathBytes ≤ 161 := not_lt.mp hpath
    have hextra : extraLen ≤ 161 - pathBytes := of_decide_eq_true hfits
    simp only [List.length_cons, List.length_append, List.length_take]
    omega

instance (destHash : List UInt8) (secret : Buf publicKeySize) (path : List UInt8)
    (pathLen extraType : UInt8) (extra : List UInt8) :
    Fills (Loaded payloadTypePath)
      (meshCreatePathReturnByDestHash destHash secret path pathLen extraType extra) := by
  unfold meshCreatePathReturnByDestHash
  split
  · infer_instance
  · rename_i hfits
    have hfits : meshPathReturnExtraFits pathLen extra.length = true := by simpa using hfits
    have hfill : ∀ id (selfId : LocalIdentity) (tail : List UInt8),
        tail.length ≤ extra.length + 5 → Fills (Loaded payloadTypePath)
          (fillEncrypted id payloadTypePath
            (destHash.take 1 ++ identityCopyHashTo selfId.identity) secret
            (pathLen :: (path.take ((hashSizeOf pathLen).toNat * (hashCountOf pathLen).toNat) ++
              tail))) := by
      intro id selfId tail htail
      have hdata := length_le_of_pathReturnExtraFits hfits htail path
      have hpadded := paddedLength_le (hdata.trans (show 167 ≤ 16 * 11 by decide))
      refine fillEncrypted_loaded id payloadTypePath secret ?_
      rw [List.length_append, identityCopyHashTo_length, List.length_take]
      show min 1 _ + 1 + (2 + _) ≤ 184
      omega
    have htail : Returns (fun tail : List UInt8 => tail.length ≤ extra.length + 5)
        (if extra.length > 0 then pure (extraType :: extra)
        else (fun r : Buf 4 => 0xFF :: r.bytes) <$> hook fun h => h.rngRandom 4 : M _) := by
      split
      · exact ⟨fun _ _ => by simp⟩
      · exact ⟨fun _ _ => by simp⟩
    refine @Fills.bind _ _ _ _ fun o => ?_
    refine @Fills.elim _ _ _ _ _ inferInstance fun id => ?_
    refine @Fills.bind _ _ _ _ fun selfId => ?_
    exact .bind_of_returns (hfill id selfId)

instance (dest : Identity) (secret : Buf publicKeySize) (path : List UInt8)
    (pathLen extraType : UInt8) (extra : List UInt8) :
    Fills (Loaded payloadTypePath)
      (meshCreatePathReturnByIdentity dest secret path pathLen extraType extra) := by
  unfold meshCreatePathReturnByIdentity; infer_instance

instance (type : UInt8) (data : List UInt8) :
    Fills (Load (madeType type) data) (createPlain type data) := by
  unfold createPlain
  split
  · infer_instance
  · rename_i hlen
    have hfill : ∀ id : PacketId, Fills (Load (madeType type) data) (do
        updatePacket id fun p =>
          { p with
            header := typeHeader type
            payload := p.payload.store 0 data
            payloadLen := data.length }
        pure (some id)) := fun id => .update fun p => .fill p (not_lt.mp hlen) ..
    infer_instance

instance (data : List UInt8) :
    Fills (Load (madeType payloadTypeRawCustom) data) (meshCreateRawData data) := by
  unfold meshCreateRawData; infer_instance

instance (data : List UInt8) :
    Fills (Load (madeType payloadTypeControl) data) (meshCreateControlData data) := by
  unfold meshCreateControlData; infer_instance

instance (data : List UInt8) : Fills (Loaded payloadTypeRawCustom) (meshCreateRawData data) :=
  .imp (P := Load (madeType payloadTypeRawCustom) data) fun _ h => ⟨data, h⟩

instance (data : List UInt8) : Fills (Loaded payloadTypeControl) (meshCreateControlData data) :=
  .imp (P := Load (madeType payloadTypeControl) data) fun _ h => ⟨data, h⟩

/-- The payload of a trace before its route. -/
def traceHead (tag authCode : UInt32) (flags : UInt8) : List UInt8 :=
  leBytes 4 tag.toNat ++ leBytes 4 authCode.toNat ++ [flags]

@[simp] theorem length_traceHead (tag authCode : UInt32) (flags : UInt8) :
    (traceHead tag authCode flags).length = 9 := rfl

instance (tag authCode : UInt32) (flags : UInt8) :
    Fills (Load payloadTypeTrace (traceHead tag authCode flags))
      (meshCreateTrace tag authCode flags) := by
  unfold meshCreateTrace
  have hfill : ∀ id : PacketId, Fills (Load payloadTypeTrace (traceHead tag authCode flags)) (do
        updatePacket id fun p =>
          { p with
            header := typeHeader payloadTypeTrace
            payload := p.payload.store 0
              (leBytes 4 tag.toNat ++ leBytes 4 authCode.toNat ++ [flags])
            payloadLen := 9 }
        pure (some id)) := by
    refine fun id => .update fun p => ?_
    have hlen : (traceHead tag authCode flags).length ≤ packetPayloadMaxLen :=
      (length_traceHead ..).trans_le (by decide)
    exact @Load.fill payloadTypeTrace (traceHead tag authCode flags) p hlen p.pathLen
      p.transportCodes p.path p.snrQ4
  infer_instance

/-! ### Sending a packet -/

/-- The packets and their queues stay. -/
def KeepsManager (_ : Ctx) (w w' : World) : Prop := w'.packetManager = w.packetManager

instance : Composes KeepsManager where
  refl _ _ := rfl
  trans _ _ _ _ h h' := Eq.trans h' h

instance (priority := low) Moves.keepsManagerOfQuiet {α : Type} (m : M α) [hm : Moves Quiet m] :
    Moves KeepsManager m where
  moves ctx w := by
    rw [hm.moves ctx w]
    rfl

theorem Shipped.before {Q : Packet → Prop} {ctx : Ctx} {w w' w'' : World} (hs : Shipped Q w w')
    (h : KeepsManager ctx w' w'') : Shipped Q w w'' := by
  rw [Shipped, h]
  exact hs

instance (m : Mark) : Moves KeepsManager (mark m) := ⟨fun _ _ => rfl⟩

instance (packet : Packet) : Moves KeepsManager (tablesHasSeen packet) where
  moves ctx w := by
    have hask : KeepsManager ctx w (calculateHash packet ctx w).2 := Moves.moves ctx w
    rw [tablesHasSeen_run]
    dsimp only
    split <;> exact hask

instance (packet : Packet) : Moves KeepsManager (recordSentFlood packet) := by
  unfold recordSentFlood; infer_instance

instance (packet : Packet) : Uses Carries [] (recordSentFlood packet) fun _ => [] := by
  unfold recordSentFlood; infer_instance

section

variable {ctx : Ctx} {w : World} {id : PacketId} {held : List PacketId} {packet : Packet}
  {Q : Packet → Prop}

/-- A packet goes to the end of the send queue, for the time that the clock and the delay say. -/
theorem dispatcherSendPacket_queues (priority : UInt8) (delayMillis : UInt32)
    (hpool : w.PoolIntact ctx (id :: held))
    (hvalid : isValidPathLen (w.packetManager.packetBuf id).pathLenField = true)
    (hlen : (w.packetManager.packetBuf id).payloadLen ≤ packetPayloadMaxLen) :
    let w' := (dispatcherSendPacket id priority delayMillis ctx w).2
    w'.packetManager.sendQueue.entries = w.packetManager.sendQueue.entries ++ [⟨id, priority,
        (dispatcherFutureMillis (toCInt delayMillis) ctx w).1 % 2 ^ 32⟩] ∧
      w'.packetManager.packetBuf = w.packetManager.packetBuf := by
  have hsend : ¬((!isValidPathLen (w.packetManager.packetBuf id).pathLenField) = true ∨
      (w.packetManager.packetBuf id).payloadLen > packetPayloadMaxLen) := by
    simp [hvalid, hlen]
  have hkeepsManager : KeepsManager ctx w (dispatcherFutureMillis (toCInt delayMillis) ctx w).2 :=
    Moves.moves ctx w
  simp only [dispatcherSendPacket, readPacket, modifyManager, Prog.run_bind, Prog.run_gets,
    Prog.run_ite, Prog.run_modify]
  rw [if_neg hsend]
  generalize (dispatcherFutureMillis (toCInt delayMillis) ctx w).1 % 2 ^ 32 = scheduledFor
  rw [KeepsManager] at hkeepsManager
  rw [hkeepsManager]
  exact ⟨(hpool.conserves.queueOutbound priority scheduledFor).2,
    PacketQueueManager.packetBuf_queueOutbound _ _ _ _⟩

theorem dispatcherSendPacket_shipped (priority : UInt8) (delayMillis : UInt32)
    (hpool : w.PoolIntact ctx (id :: held)) (hQ : Q (w.packetManager.packetBuf id))
    (hvalid : isValidPathLen (w.packetManager.packetBuf id).pathLenField = true)
    (hlen : (w.packetManager.packetBuf id).payloadLen ≤ packetPayloadMaxLen) :
    Shipped Q w (dispatcherSendPacket id priority delayMillis ctx w).2 := by
  obtain ⟨hqueue, hbuf⟩ := dispatcherSendPacket_queues priority delayMillis hpool hvalid hlen
  refine ⟨_, hqueue, ?_⟩
  rw [hbuf]
  exact hQ

/-- A packet that the queue would refuse goes back to the pool. -/
theorem dispatcherSendPacket_unsent (priority : UInt8) (delayMillis : UInt32)
    (hvalid : isValidPathLen (w.packetManager.packetBuf id).pathLenField = false) :
    Unsent ctx w (dispatcherSendPacket id priority delayMillis ctx w).2 := by
  simp only [dispatcherSendPacket, readPacket, Prog.run_bind, Prog.run_gets, Prog.run_ite]
  rw [if_pos (.inl (by simp [hvalid]))]
  exact Moves.moves ctx w

/-- The common end of the ways to send: the packet is written, its hash is recorded, and it is
queued. -/
theorem shipped_of_written {α : Type} (record : M α) [hr : Moves KeepsManager record]
    [hc : Uses Carries [] record fun _ => []] (priority : UInt8) (delayMillis : UInt32)
    (hpool : w.PoolIntact ctx (id :: held)) (hQ : Q packet)
    (hvalid : isValidPathLen packet.pathLenField = true)
    (hlen : packet.payloadLen ≤ packetPayloadMaxLen) :
    Shipped Q w ((do
      writePacket id packet
      let _ ← record
      dispatcherSendPacket id priority delayMillis) ctx w).2 := by
  have hpool' : (writePacket id packet ctx w).2.PoolIntact ctx (id :: held) :=
    ⟨hpool.conserves.write packet, hpool.poolSize, hpool.reissued⟩
  have hcarried := (hc.uses ctx (writePacket id packet ctx w).2 (id :: held)).2 hpool'
  have hkeepsManager := hr.moves ctx (writePacket id packet ctx w).2
  have hbuf : (record ctx (writePacket id packet ctx w).2).2.packetManager.packetBuf id
      = packet := by
    rw [hkeepsManager, packetBuf_writePacket]
  have hqueue : Unsent ctx w (record ctx (writePacket id packet ctx w).2).2 :=
    Composes.trans ctx w _ _ (Moves.moves ctx w)
      (show Unsent ctx _ _ from congrArg PacketQueueManager.sendQueue hkeepsManager)
  refine Shipped.after hqueue (dispatcherSendPacket_shipped priority delayMillis hcarried ?_ ?_ ?_)
  · rw [hbuf]
    exact hQ
  · rw [hbuf]
    exact hvalid
  · rw [hbuf]
    exact hlen

/-- The same for a packet that the queue would refuse. -/
theorem unsent_of_written {α : Type} (record : M α) [hr : Moves KeepsManager record]
    (priority : UInt8) (delayMillis : UInt32)
    (hvalid : isValidPathLen packet.pathLenField = false) :
    Unsent ctx w ((do
      writePacket id packet
      let _ ← record
      dispatcherSendPacket id priority delayMillis) ctx w).2 := by
  have hkeepsManager := hr.moves ctx (writePacket id packet ctx w).2
  have hqueue : Unsent ctx w (record ctx (writePacket id packet ctx w).2).2 :=
    Composes.trans ctx w _ _ (Moves.moves ctx w)
      (show Unsent ctx _ _ from congrArg PacketQueueManager.sendQueue hkeepsManager)
  refine Composes.trans ctx w _ _ hqueue (dispatcherSendPacket_unsent priority delayMillis ?_)
  rw [hkeepsManager, packetBuf_writePacket]
  exact hvalid

end

/-! ### The routes -/

section

variable {ctx : Ctx} {w : World} {id : PacketId} {held : List PacketId} {type : UInt8}
  {bytes : List UInt8}

theorem hashSize_cases {hashSize : UInt8} (h0 : hashSize ≠ 0) (h3 : hashSize ≤ 3) :
    hashSize = 1 ∨ hashSize = 2 ∨ hashSize = 3 := by
  have hle : hashSize.toNat ≤ 3 := UInt8.le_iff_toNat_le.mp h3
  have hne : hashSize.toNat ≠ 0 := fun h => h0 (UInt8.toNat_inj.mp h)
  obtain h | h | h : hashSize.toNat = 1 ∨ hashSize.toNat = 2 ∨ hashSize.toNat = 3 := by omega
  · exact .inl (UInt8.toNat_inj.mp h)
  · exact .inr (.inl (UInt8.toNat_inj.mp h))
  · exact .inr (.inr (UInt8.toNat_inj.mp h))

/-- A path that is still empty. -/
theorem toNat_pathLenField_setPathHashSizeAndCount (packet : Packet) {hashSize : UInt8}
    (h0 : hashSize ≠ 0) (h3 : hashSize ≤ 3) :
    (packet.setPathHashSizeAndCount hashSize 0).pathLenField.toNat = 64 * (hashSize.toNat - 1) := by
  have hall : ∀ s : UInt8, s = 1 ∨ s = 2 ∨ s = 3 →
      (((s.toUInt16 - 1) <<< 6) ||| ((0 : UInt8) &&& 63).toUInt16).toUInt8.toNat
        = 64 * (s.toNat - 1) := by
    rintro s (rfl | rfl | rfl) <;> decide
  exact hall _ (hashSize_cases h0 h3)

theorem isValidPathLen_setPathHashSizeAndCount (packet : Packet) {hashSize : UInt8}
    (h0 : hashSize ≠ 0) (h3 : hashSize ≤ 3) :
    isValidPathLen (packet.setPathHashSizeAndCount hashSize 0).pathLenField = true := by
  have hle : hashSize.toNat ≤ 3 := UInt8.le_iff_toNat_le.mp h3
  rw [isValidPathLen_iff, toNat_pathLenField_setPathHashSizeAndCount packet h0 h3,
    Nat.mul_mod_right, Nat.zero_mul]
  exact ⟨by omega, Nat.zero_le _⟩

/-- A flood. -/
theorem meshSendFlood_shipped (delayMillis : UInt32) {hashSize : UInt8} (h0 : hashSize ≠ 0)
    (h3 : hashSize ≤ 3) (htrace : type ≠ payloadTypeTrace) (hpool : w.PoolIntact ctx (id :: held))
    (hload : Load type bytes (w.packetManager.packetBuf id)) :
    Shipped (Sent type bytes) w (meshSendFlood id delayMillis hashSize ctx w).2 := by
  have hroute : ¬((w.packetManager.packetBuf id).getPayloadType = payloadTypeTrace ∨
      hashSize = 0 ∨ hashSize > 3) := by
    rw [hload.type_eq, not_or, not_or]
    exact ⟨htrace, h0, UInt8.not_lt.mpr h3⟩
  simp only [meshSendFlood, readPacket, Prog.run_bind, Prog.run_gets, Prog.run_ite]
  rw [if_neg hroute]
  let packet := (w.packetManager.packetBuf id).withRouteType routeTypeFlood
  have hsent : Sent type bytes (packet.setPathHashSizeAndCount hashSize 0) :=
    { hload.congr (getPayloadType_withRouteType _ (by decide)) rfl rfl with
      route := .inl (getRouteType_withRouteType _ (by decide))
      validPathLen := isValidPathLen_setPathHashSizeAndCount packet h0 h3 }
  exact shipped_of_written (recordSentFlood _) _ _ hpool hsent hsent.validPathLen
    (hsent.payloadLen_eq.trans_le hsent.length_le)

/-- A packet with the direct route and this path. -/
def Packet.along (packet : Packet) (path : List UInt8) (pathLen : UInt8) : Packet :=
  { packet.withRouteType routeTypeDirect with
    path := (copyPath packet.path (pathBuf path) pathLen).2, pathLen := pathLen.toUInt16 }

@[simp] theorem Packet.pathLenField_along (packet : Packet) (path : List UInt8) (pathLen : UInt8) :
    (packet.along path pathLen).pathLenField = pathLen := UInt8.toUInt8_toUInt16 _

theorem Load.along {packet : Packet} (h : Load type bytes packet) (path : List UInt8)
    {pathLen : UInt8} (hvalid : isValidPathLen pathLen = true) :
    Sent type bytes (packet.along path pathLen) :=
  { h.congr (getPayloadType_withRouteType packet (by decide)) rfl rfl with
    route := .inr (getRouteType_withRouteType packet (by decide))
    validPathLen := by rwa [Packet.pathLenField_along] }

theorem meshSendDirect_run (path : List UInt8) (pathLen : UInt8) (delayMillis : UInt32)
    (htrace : (w.packetManager.packetBuf id).getPayloadType ≠ payloadTypeTrace) :
    let packet := (w.packetManager.packetBuf id).along path pathLen
    meshSendDirect id path pathLen delayMillis ctx w = (do
      writePacket id packet
      let _ ← tablesHasSeen packet
      dispatcherSendPacket id (if packet.getPayloadType = payloadTypePath then 1 else 0)
        delayMillis : M Unit) ctx w := by
  have hroute : ((w.packetManager.packetBuf id).withRouteType routeTypeDirect).getPayloadType
      ≠ payloadTypeTrace := by
    rw [getPayloadType_withRouteType _ (by decide)]
    exact htrace
  simp only [meshSendDirect, readPacket, Prog.run_bind, Prog.run_gets, Prog.run_ite]
  rw [if_neg hroute]
  rfl

/-- A packet on a path that fits. -/
theorem meshSendDirect_shipped (path : List UInt8) {pathLen : UInt8} (delayMillis : UInt32)
    (hvalid : isValidPathLen pathLen = true) (htrace : type ≠ payloadTypeTrace)
    (hpool : w.PoolIntact ctx (id :: held))
    (hload : Load type bytes (w.packetManager.packetBuf id)) :
    Shipped (Sent type bytes) w (meshSendDirect id path pathLen delayMillis ctx w).2 := by
  have hsent := hload.along path hvalid
  rw [meshSendDirect_run path pathLen delayMillis (hload.type_eq ▸ htrace)]
  exact shipped_of_written (tablesHasSeen _) _ _ hpool hsent hsent.validPathLen
    (hsent.payloadLen_eq.trans_le hsent.length_le)

/-- A packet on a path that does not fit is dropped. -/
theorem meshSendDirect_unsent (path : List UInt8) {pathLen : UInt8} (delayMillis : UInt32)
    (hvalid : isValidPathLen pathLen = false) (htrace : type ≠ payloadTypeTrace)
    (hload : Load type bytes (w.packetManager.packetBuf id)) :
    Unsent ctx w (meshSendDirect id path pathLen delayMillis ctx w).2 := by
  rw [meshSendDirect_run path pathLen delayMillis (hload.type_eq ▸ htrace)]
  exact unsent_of_written (tablesHasSeen _) _ _ (by rwa [Packet.pathLenField_along])

theorem isValidPathLen_zero : isValidPathLen (0 : UInt16).toUInt8 = true := by decide

/-- A packet for the neighbours is on its way. -/
structure ZeroHop (type : UInt8) (bytes : List UInt8) (packet : Packet) : Prop extends
    Load type bytes packet where
  route : packet.getRouteType = routeTypeDirect
  pathLen_eq : packet.pathLen = 0

theorem ZeroHop.sent {packet : Packet} (h : ZeroHop type bytes packet) : Sent type bytes packet :=
  { h.toLoad with
    route := .inr h.route
    validPathLen := by
      rw [Packet.pathLenField, h.pathLen_eq]
      exact isValidPathLen_zero }

/-- A trace takes its path behind its payload. -/
theorem meshSendDirect_trace (path : List UInt8) {pathLen : UInt8} (delayMillis : UInt32)
    (hpool : w.PoolIntact ctx (id :: held))
    (hload : Load payloadTypeTrace bytes (w.packetManager.packetBuf id))
    (hlen : (bytes ++ path.take pathLen.toNat).length ≤ packetPayloadMaxLen)
    (hpath : pathLen.toNat ≤ path.length) :
    Shipped (ZeroHop payloadTypeTrace (bytes ++ path.take pathLen.toNat)) w
      (meshSendDirect id path pathLen delayMillis ctx w).2 := by
  obtain ⟨packet, hpacket⟩ : ∃ packet, packet =
      (w.packetManager.packetBuf id).withRouteType routeTypeDirect := ⟨_, rfl⟩
  have htype : packet.getPayloadType = payloadTypeTrace := by
    rw [hpacket, getPayloadType_withRouteType _ (by decide)]
    exact hload.type_eq
  have hroute : packet.getRouteType = routeTypeDirect := by
    rw [hpacket]
    exact getRouteType_withRouteType _ (by decide)
  have hnine : packet.payloadLen = bytes.length := by
    rw [hpacket]
    exact hload.payloadLen_eq
  have hbytes : packet.payload.slice 0 bytes.length = bytes := by
    rw [← hload.payloadLen_eq, hpacket]
    exact hload.payloadBytes_eq
  have htail : (path.take pathLen.toNat).length = pathLen.toNat := List.length_take_of_le hpath
  rw [List.length_append] at hlen
  have hfits : ¬packet.payloadLen + pathLen.toNat > packetPayloadMaxLen := by
    rw [hnine, ← htail]
    exact not_lt.mpr hlen
  simp only [meshSendDirect, readPacket, Prog.run_bind, Prog.run_gets, Prog.run_ite, ← hpacket]
  rw [if_pos htype, if_neg hfits]
  refine shipped_of_written (tablesHasSeen _) _ _ hpool
    ⟨⟨htype, ?_, ?_, ?_⟩, hroute, rfl⟩ isValidPathLen_zero (not_lt.mp hfits)
  · rw [Packet.payloadBytes]
    show (packet.payload.store packet.payloadLen _).slice 0 (packet.payloadLen + pathLen.toNat) = _
    rw [hnine]
    nth_rewrite 2 [← htail]
    rw [Buf.slice_zero_store _ hlen, hbytes]
  · show packet.payloadLen + pathLen.toNat = _
    rw [List.length_append, htail, hnine]
  · rw [List.length_append]
    exact hlen

/-- A packet for whoever hears it. -/
def Packet.toNeighbours (packet : Packet) : Packet :=
  { packet.withRouteType routeTypeDirect with pathLen := 0 }

theorem Load.toNeighbours {packet : Packet} (h : Load type bytes packet) :
    ZeroHop type bytes packet.toNeighbours :=
  { h.congr (getPayloadType_withRouteType packet (by decide)) rfl rfl with
    route := getRouteType_withRouteType packet (by decide)
    pathLen_eq := rfl }

theorem meshSendZeroHop_shipped (delayMillis : UInt32) (hpool : w.PoolIntact ctx (id :: held))
    (hlen : (w.packetManager.packetBuf id).payloadLen ≤ packetPayloadMaxLen) :
    Shipped (· = (w.packetManager.packetBuf id).toNeighbours) w
      (meshSendZeroHop id delayMillis ctx w).2 :=
  shipped_of_written (tablesHasSeen _) _ _ hpool rfl isValidPathLen_zero hlen

/-- The flood of a request: the host's hash size is brought into its range. -/
theorem requestSendFlood_shipped (delayMillis : UInt32) (htrace : type ≠ payloadTypeTrace)
    (hpool : w.PoolIntact ctx (id :: held))
    (hload : Load type bytes (w.packetManager.packetBuf id)) :
    Shipped (Sent type bytes) w (requestSendFlood id delayMillis ctx w).2 := by
  have hsize : (localPathHashSizeGet ctx w).1 ≠ 0 ∧ (localPathHashSizeGet ctx w).1 ≤ 3 := by
    rw [localPathHashSizeGet]
    simp only [Prog.run_bind, Prog.run_pure]
    cases (hook Hooks.nodeRuntimePolicy ctx w).1 with
    | none => decide
    | some policy => exact normalizePathHashSize_mem policy.pathHashSize
  exact @meshSendFlood_shipped ctx _ id held type bytes delayMillis _ hsize.1 hsize.2 htrace
    ⟨hpool.conserves, hpool.poolSize, hpool.reissued⟩ hload

/-! ### The way to a peer -/

/-- The path of a peer, in wire form, as `peerPathGet` makes it from the host's answers. -/
def Hooks.wirePath (h : Hooks) (publicKey : Buf publicKeySize) : Option (PeerPath × UInt8) :=
  (h.peerPathByKey publicKey).bind fun path =>
    if path.outPathLen = 0 ∧ !path.isNeighbor then none
    else
      (pathLenEncode (normalizePathHashSize path.pathHashSize) path.outPathLen).map (path, ·)

/-- The host knows a path to the peer that no packet can take. -/
def Hooks.PathUnusable (h : Hooks) (publicKey : Buf publicKeySize) : Prop :=
  ∃ path, h.wirePath publicKey = some path ∧ isValidPathLen path.2 = false

theorem sendToPeer_run (id : PacketId) (publicKey : Buf publicKeySize) (delayMillis : UInt32) :
    sendToPeer id publicKey delayMillis ctx w =
      ((ctx.hooks w.tick).wirePath publicKey).elim (requestSendFlood id delayMillis)
        (fun path => meshSendDirect id path.1.outPath.bytes path.2 delayMillis)
        ctx { w with tick := w.tick + 1 } := rfl

/-- To a peer a packet goes along the stored path, or as a flood. -/
theorem sendToPeer_shipped (publicKey : Buf publicKeySize) (delayMillis : UInt32)
    (hpath : ¬(ctx.hooks w.tick).PathUnusable publicKey) (htrace : type ≠ payloadTypeTrace)
    (hpool : w.PoolIntact ctx (id :: held))
    (hload : Load type bytes (w.packetManager.packetBuf id)) :
    Shipped (Sent type bytes) w (sendToPeer id publicKey delayMillis ctx w).2 := by
  have hpool' : { w with tick := w.tick + 1 }.PoolIntact ctx (id :: held) :=
    ⟨hpool.conserves, hpool.poolSize, hpool.reissued⟩
  rw [sendToPeer_run]
  cases hwire : (ctx.hooks w.tick).wirePath publicKey with
  | none => exact requestSendFlood_shipped delayMillis htrace hpool' hload
  | some path =>
    have hvalid : isValidPathLen path.2 = true := by
      by_contra hinvalid
      exact hpath ⟨path, hwire, by simpa using hinvalid⟩
    exact meshSendDirect_shipped _ delayMillis hvalid htrace hpool' hload

/-- A stored path that does not fit makes the packet disappear. -/
theorem sendToPeer_unsent (publicKey : Buf publicKeySize) (delayMillis : UInt32)
    (hpath : (ctx.hooks w.tick).PathUnusable publicKey) (htrace : type ≠ payloadTypeTrace)
    (hload : Load type bytes (w.packetManager.packetBuf id)) :
    Unsent ctx w (sendToPeer id publicKey delayMillis ctx w).2 := by
  obtain ⟨path, hwire, hvalid⟩ := hpath
  rw [sendToPeer_run, hwire]
  have hunsent : Unsent ctx { w with tick := w.tick + 1 } _ :=
    meshSendDirect_unsent path.1.outPath.bytes delayMillis hvalid htrace hload
  exact hunsent

end

end Meshcore
