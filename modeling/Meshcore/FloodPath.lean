import Meshcore.Codec
import Meshcore.Mesh

/-!
# The path of a flood

A relay that retransmits a flood puts its own hash at the end of the path. The capacity check is on
bytes and the count has six bits, so a path of 63 one-byte hashes passes the check and its count
comes back as 0; and the action that carries the priority also carries the delay, so a delay of more
than 24 bits can run into the priority. Everywhere else a relay does what it should, and a chain of
such relays records every hop.

## Main definitions

* `Extends` — what a relay should make of a flood packet
* `FloodRelayed` — a flood on its way through a chain of relays

## Main results

* `meshRouteRecvPacket_cases` — what `meshRouteRecvPacket` answers
* `flood_path` — when a relay extends the path, and what follows for chains
-/

namespace Meshcore

/-! ### The priority in an action -/

/-- The part of the delay above its low 24 bits adds nothing to the byte of the priority. -/
def DelayFits (pri : UInt8) (delay : UInt32) : Prop :=
  (1 + pri.toNat) ||| delay.toNat / 2 ^ 24 = 1 + pri.toNat

instance (pri : UInt8) (delay : UInt32) : Decidable (DelayFits pri delay) :=
  inferInstanceAs (Decidable (_ = _))

/-- A delay of at most 24 bits, some 4.6 hours, always fits. -/
theorem delayFits_of_lt {pri : UInt8} {delay : UInt32} (h : delay.toNat < 2 ^ 24) :
    DelayFits pri delay := by
  rw [DelayFits, Nat.div_eq_of_lt h, Nat.or_zero]

theorem toNat_shiftRight_actionRetransmitDelayed {pri : UInt8} (hpri : pri < 255)
    (delay : UInt32) :
    (actionRetransmitDelayed pri delay >>> 24).toNat
      = (1 + pri.toNat) ||| delay.toNat / 2 ^ 24 := by
  rw [actionRetransmitDelayed, UInt32.toNat_shiftRight, UInt32.toNat_or, toNat_priorityByte hpri,
    show (24 : UInt32).toNat % 32 = 24 from rfl, Nat.shiftRight_or_distrib,
    Nat.shiftRight_eq_div_pow, Nat.shiftRight_eq_div_pow, Nat.mul_div_cancel _ (by decide)]

/-- The dispatcher reads the priority back exactly when the delay fits. -/
theorem actionPriority_eq_iff {pri : UInt8} (hpri : pri < 255) (delay : UInt32) :
    actionPriority (actionRetransmitDelayed pri delay) = pri ↔ DelayFits pri delay := by
  have hlt : pri.toNat < 255 := by simpa [UInt8.lt_iff_toNat_lt] using hpri
  have hread := toNat_shiftRight_actionRetransmitDelayed hpri delay
  have hbyte : (1 + pri.toNat) ||| delay.toNat / 2 ^ 24 < 256 := by
    have := delay.toNat_lt
    exact Nat.or_lt_two_pow (n := 8) (by omega) (by omega)
  have hpos : 1 + pri.toNat ≤ (1 + pri.toNat) ||| delay.toNat / 2 ^ 24 := Nat.left_le_or
  have hval : (actionPriority (actionRetransmitDelayed pri delay)).toNat
      = ((1 + pri.toNat) ||| delay.toNat / 2 ^ 24) - 1 := by
    rw [actionPriority, UInt32.toNat_toUInt8, UInt32.toNat_sub_of_le, hread]
    · exact Nat.mod_eq_of_lt (lt_of_le_of_lt (Nat.sub_le _ _) hbyte)
    · rw [UInt32.le_iff_toNat_le, hread]
      exact le_trans (Nat.le_add_right 1 _) hpos
  rw [← UInt8.toNat_inj, hval, DelayFits]
  omega

/-! ### One relay -/

/-- What a relay should hand back for retransmission: the packet with its own hash at the end of
the path, and nothing else changed. -/
structure Extends (selfId : Identity) (packet packet' : Packet) : Prop where
  hashSize : packet'.getPathHashSize = packet.getPathHashSize
  hashCount : packet'.getPathHashCount.toNat = packet.getPathHashCount.toNat + 1
  pathBytes : packet'.pathBytes = packet.pathBytes ++ selfId.slice 0 packet.getPathHashSize.toNat
  validPathLen : isValidPathLen packet'.pathLenField = true
  header : packet'.header = packet.header
  transportCodes : packet'.transportCodes = packet.transportCodes
  payloadLen : packet'.payloadLen = packet.payloadLen
  payload : packet'.payload = packet.payload

theorem toNat_pathLenField_appendSelfToPath (selfId : Identity) (packet : Packet) :
    (appendSelfToPath selfId packet).pathLenField.toNat
      = 64 * (packet.pathLenField.toNat / 64) + (packet.pathLenField.toNat % 64 + 1) % 64 := by
  rw [appendSelfToPath, Packet.toNat_pathLenField_setPathHashCount, UInt8.toNat_add,
    Packet.getPathHashCount, toNat_hashCountOf, show (1 : UInt8).toNat = 1 from rfl]
  have hfield : ∀ path, { packet with path := path }.pathLenField = packet.pathLenField :=
    fun _ => rfl
  rw [hfield]
  omega

theorem toNat_hashCount_appendSelfToPath (selfId : Identity) (packet : Packet) :
    (appendSelfToPath selfId packet).getPathHashCount.toNat
      = (packet.getPathHashCount.toNat + 1) % 64 := by
  rw [Packet.getPathHashCount, toNat_hashCountOf, toNat_pathLenField_appendSelfToPath,
    Packet.getPathHashCount, toNat_hashCountOf]
  omega

/-- With fewer than 63 hops and room for one more, the path is extended. -/
theorem extends_appendSelfToPath (selfId : Identity) {packet : Packet}
    (hcount : packet.getPathHashCount ≠ 63)
    (hroom : (packet.getPathHashCount.toNat + 1) * packet.getPathHashSize.toNat ≤ maxPathLen)
    (hvalid : isValidPathLen packet.pathLenField = true) :
    Extends selfId packet (appendSelfToPath selfId packet) := by
  have hfield := toNat_pathLenField_appendSelfToPath selfId packet
  have hne : packet.pathLenField.toNat % 64 ≠ 63 := by
    intro h
    exact hcount (UInt8.toNat_inj.mp (by rw [Packet.getPathHashCount, toNat_hashCountOf, h]; rfl))
  have hlt := packet.pathLenField.toNat_lt
  have hmod : (appendSelfToPath selfId packet).pathLenField.toNat % 64
      = packet.pathLenField.toNat % 64 + 1 := by omega
  have hdiv : (appendSelfToPath selfId packet).pathLenField.toNat / 64
      = packet.pathLenField.toNat / 64 := by omega
  simp only [Packet.getPathHashCount, Packet.getPathHashSize, toNat_hashCountOf, toNat_hashSizeOf]
    at hroom
  have hsize : (packet.getPathHashSize).toNat = packet.pathLenField.toNat / 64 + 1 :=
    toNat_hashSizeOf _
  refine ⟨?_, ?_, ?_, ?_, rfl, rfl, rfl, rfl⟩
  · rw [← UInt8.toNat_inj, Packet.getPathHashSize, toNat_hashSizeOf, hdiv, hsize]
  · rw [toNat_hashCount_appendSelfToPath, Packet.getPathHashCount, toNat_hashCountOf]
    omega
  · have hkey : packet.getPathHashSize.toNat ≤ publicKeySize := by
      rw [hsize]
      show _ ≤ 32
      omega
    have hhash : identityCopyHashByLen selfId packet.getPathHashSize.toNat
        = selfId.slice 0 packet.getPathHashSize.toNat := by
      rw [identityCopyHashByLen, if_neg (not_lt.mpr hkey)]
    have hlen : (selfId.slice 0 packet.getPathHashSize.toNat).length
        = packet.pathLenField.toNat / 64 + 1 := by
      rw [Buf.length_slice_of_le _ (by omega), hsize]
    have hnew : (appendSelfToPath selfId packet).getPathByteLen.toNat
        = packet.getPathHashCount.toNat * packet.getPathHashSize.toNat
          + (selfId.slice 0 packet.getPathHashSize.toNat).length := by
      rw [Packet.toNat_getPathByteLen, hmod, hdiv, hlen, Packet.getPathHashCount, hsize,
        toNat_hashCountOf]
      ring
    have hold : packet.getPathByteLen.toNat
        = packet.getPathHashCount.toNat * packet.getPathHashSize.toNat := by
      rw [Packet.toNat_getPathByteLen, Packet.getPathHashCount, hsize, toNat_hashCountOf]
    rw [Packet.pathBytes, hnew, Packet.pathBytes, hold]
    show (packet.path.store _ (identityCopyHashByLen selfId _)).slice 0 _ = _
    rw [hhash]
    refine Buf.slice_zero_store _ ?_
    rw [hlen, hsize, Packet.getPathHashCount, toNat_hashCountOf]
    linarith
  · rw [isValidPathLen_iff, hdiv, hmod]
    exact ⟨(isValidPathLen_iff.mp hvalid).1, hroom⟩

/-- What a relay answers: the packet is released as it came, or it is a flood with room for one
more hop that the policy lets through, and goes out again with this node's hash. -/
theorem meshRouteRecvPacket_cases (packet : Packet) (ctx : Ctx) (w : World) :
    (meshRouteRecvPacket packet ctx w).1 = (actionRelease, packet) ∨
      packet.isRouteFlood = true ∧ packet.isMarkedDoNotRetransmit = false ∧
        (packet.getPathHashCount.toNat + 1) * packet.getPathHashSize.toNat ≤ maxPathLen ∧
        (allowPacketForward packet ctx w).1 = true ∧
        let w' := (allowPacketForward packet ctx w).2
        let packet' := appendSelfToPath w'.selfId.identity packet
        let delay := getRetransmitDelay packet' ctx w'
        meshRouteRecvPacket packet ctx w
          = ((actionRetransmitDelayed packet'.getPathHashCount delay.1, packet'), delay.2) := by
  rw [meshRouteRecvPacket]
  simp only [Prog.run_ite, Prog.run_bind, Prog.run_pure, Prog.run_gets]
  split
  · rename_i hcond
    split
    · exact .inl rfl
    · rename_i hallow
      have hroom : packet.getPathHashCount.toNat * packet.getPathHashSize.toNat
          + packet.getPathHashSize.toNat ≤ maxPathLen := by
        rw [← Nat.succ_mul]
        exact hcond.2.2
      rw [access_of hroom]
      exact .inr ⟨hcond.1, by simpa using hcond.2.1, hcond.2.2, by simpa using hallow, rfl⟩
  · exact .inl rfl

/-- A relay that retransmits a valid flood extends its path, before the 63rd hop. -/
theorem extends_of_retransmit {packet : Packet} {ctx : Ctx} {w : World}
    (hvalid : isValidPathLen packet.pathLenField = true) (hcount : packet.getPathHashCount ≠ 63)
    (hretransmit : (meshRouteRecvPacket packet ctx w).1.1 ≠ actionRelease) :
    Extends (meshRouteRecvPacket packet ctx w).2.selfId.identity packet
      (meshRouteRecvPacket packet ctx w).1.2 := by
  rcases meshRouteRecvPacket_cases packet ctx w with hrelease | ⟨-, -, hroom, -, heq⟩
  · rw [hrelease] at hretransmit
    exact absurd rfl hretransmit
  · have hself := ((inferInstance : Moves Asks (getRetransmitDelay (appendSelfToPath
      (allowPacketForward packet ctx w).2.selfId.identity packet))).moves ctx
      (allowPacketForward packet ctx w).2).1
    dsimp only at heq
    rw [heq]
    dsimp only
    rw [hself]
    exact extends_appendSelfToPath _ hcount hroom hvalid

/-- When a relay that retransmits extends the path as it should: the packet has not come over 63
hops, and the delay its policy draws for the packet it sends on fits beside the priority. -/
def Extendable (ctx : Ctx) (w : World) (packet : Packet) : Prop :=
  let w' := (allowPacketForward packet ctx w).2
  let packet' := appendSelfToPath w'.selfId.identity packet
  packet.getPathHashCount ≠ 63 ∧
    DelayFits packet'.getPathHashCount (getRetransmitDelay packet' ctx w').1

/-- A relay that retransmits a valid flood packet extends the path and sets the priority to the new
hash count, if and only if the packet is extendable. -/
theorem extends_iff {ctx : Ctx} {w : World} {packet : Packet}
    (hvalid : isValidPathLen packet.pathLenField = true)
    (hretransmit : (meshRouteRecvPacket packet ctx w).1.1 ≠ actionRelease) :
    let r := meshRouteRecvPacket packet ctx w
    (Extends r.2.selfId.identity packet r.1.2 ∧ actionPriority r.1.1 = r.1.2.getPathHashCount) ↔
      Extendable ctx w packet := by
  rcases meshRouteRecvPacket_cases packet ctx w with hrelease | ⟨-, -, hroom, -, heq⟩
  · rw [hrelease] at hretransmit
    exact absurd rfl hretransmit
  · have hself : (getRetransmitDelay (appendSelfToPath
        (allowPacketForward packet ctx w).2.selfId.identity packet) ctx
        (allowPacketForward packet ctx w).2).2.selfId
        = (allowPacketForward packet ctx w).2.selfId := by
      rw [((inferInstance : Moves Asks (getRetransmitDelay _)).moves ctx _).1]
    dsimp only at heq ⊢
    rw [heq, Extendable]
    dsimp only
    rw [actionPriority_eq_iff (Packet.getPathHashCount_lt_255 _), hself]
    refine and_congr_left fun _ => ⟨fun h hcount => ?_, fun hcount => ?_⟩
    · have hnew := h.hashCount
      rw [toNat_hashCount_appendSelfToPath, hcount] at hnew
      exact absurd hnew (by decide)
    · exact extends_appendSelfToPath _ hcount hroom hvalid

/-! ### Chains of relays -/

/-- A flood that was sent as `packet`, relayed by nodes with these hashes, each of which received
what the one before sent, and sent on by the last of them as the packet in the third place. -/
inductive FloodRelayed (packet : Packet) : List (List UInt8) → Packet → Prop where
  | sent : FloodRelayed packet [] packet
  | relayed {hashes last received ctx w} (h : FloodRelayed packet hashes last)
      (hair : OnAir last received)
      (hretransmit : (meshRouteRecvPacket received ctx w).1.1 ≠ actionRelease)
      (hextend : Extendable ctx w received) :
      FloodRelayed packet
        (hashes ++ [(meshRouteRecvPacket received ctx w).2.selfId.identity.slice 0
          received.getPathHashSize.toNat])
        (meshRouteRecvPacket received ctx w).1.2

/-- What a chain of relays makes of a flood. -/
structure RecordsHops (packet : Packet) (hashes : List (List UInt8)) (last : Packet) : Prop where
  hashSize : last.getPathHashSize = packet.getPathHashSize
  hashCount : last.getPathHashCount.toNat = packet.getPathHashCount.toNat + hashes.length
  pathBytes : last.pathBytes = packet.pathBytes ++ hashes.flatten
  capacity : (packet.getPathHashCount.toNat + hashes.length) * packet.getPathHashSize.toNat
    ≤ maxPathLen
  validPathLen : isValidPathLen last.pathLenField = true
  header : last.header = packet.header
  payloadBytes : last.payloadBytes = packet.payloadBytes

/-- A relay that extends the path adds its hop. -/
theorem RecordsHops.extend {packet last received next : Packet} {hashes : List (List UInt8)}
    {selfId : Identity} (h : RecordsHops packet hashes last) (hfields : OnAirFields last received)
    (hext : Extends selfId received next) :
    RecordsHops packet (hashes ++ [selfId.slice 0 packet.getPathHashSize.toNat]) next := by
  have hkept : received.getPathHashSize = packet.getPathHashSize := by
    rw [Packet.getPathHashSize, hfields.pathLenField]
    exact h.hashSize
  have hsize : next.getPathHashSize = packet.getPathHashSize := hext.hashSize.trans hkept
  have hcount : next.getPathHashCount.toNat
      = packet.getPathHashCount.toNat + (hashes.length + 1) := by
    rw [hext.hashCount, Packet.getPathHashCount, hfields.pathLenField, ← Nat.add_assoc]
    exact congrArg (· + 1) h.hashCount
  refine ⟨hsize, by simpa using hcount, ?_, ?_, hext.validPathLen,
    hext.header.trans (hfields.header.trans h.header), ?_⟩
  · rw [hext.pathBytes, hfields.pathBytes, h.pathBytes, hkept]
    simp
  · have hcapacity := (isValidPathLen_iff.mp hext.validPathLen).2
    rw [← toNat_hashCountOf, ← toNat_hashSizeOf] at hcapacity
    change next.getPathHashCount.toNat * next.getPathHashSize.toNat ≤ _ at hcapacity
    rw [hcount, hsize] at hcapacity
    simpa using hcapacity
  · rw [Packet.payloadBytes, hext.payload, hext.payloadLen]
    exact hfields.payloadBytes.trans h.payloadBytes

/-- A packet that was just sent has recorded no hop. -/
theorem RecordsHops.refl {packet : Packet} (hvalid : isValidPathLen packet.pathLenField = true) :
    RecordsHops packet [] packet := by
  refine ⟨rfl, rfl, by simp, ?_, hvalid, rfl, rfl⟩
  have hcapacity := (isValidPathLen_iff.mp hvalid).2
  rw [← toNat_hashCountOf, ← toNat_hashSizeOf] at hcapacity
  exact hcapacity

/-- Each relay adds its hop, and none is lost. -/
theorem FloodRelayed.recordsHops {packet last : Packet} {hashes : List (List UInt8)}
    (hvalid : isValidPathLen packet.pathLenField = true) (h : FloodRelayed packet hashes last) :
    RecordsHops packet hashes last := by
  induction h with
  | sent => exact .refl hvalid
  | @relayed hashes last received ctx w _ hair hretransmit hextend ih =>
    have hfields := hair.fields
    obtain ⟨hext, -⟩ := (extends_iff hfields.encodable.validPathLen hretransmit).mpr hextend
    have hkept : received.getPathHashSize = packet.getPathHashSize := by
      rw [Packet.getPathHashSize, hfields.pathLenField]
      exact ih.hashSize
    rw [hkept]
    exact ih.extend hfields hext

/-- **The path of a flood.** A relay that retransmits a valid packet puts its hash at the end
of the path, changes nothing else and gives it the new hash count as priority, exactly when the
packet is extendable; and along every chain of relays for which it is, each hop is recorded and the
path stays within its capacity. -/
theorem flood_path {packet : Packet} (hvalid : isValidPathLen packet.pathLenField = true) :
    (∀ ctx w, let r := meshRouteRecvPacket packet ctx w
      r.1.1 ≠ actionRelease →
        ((Extends r.2.selfId.identity packet r.1.2 ∧
          actionPriority r.1.1 = r.1.2.getPathHashCount) ↔ Extendable ctx w packet)) ∧
    ∀ (last : Packet) (hashes : List (List UInt8)), FloodRelayed packet hashes last →
      RecordsHops packet hashes last :=
  ⟨fun _ _ hretransmit => extends_iff hvalid hretransmit, fun _ _ h => h.recordsHops hvalid⟩

/-- A CHAT node that repeats for its clients. -/
def Ctx.repeating : Ctx :=
  { Ctx.silent with
    hooks := fun _ =>
      { Hooks.silent with
        nodeRuntimePolicy := some
          { pathHashSize := 1, loopDetect := .off, clientRepeat := true, disableFwd := false
            floodMax := 64, txDelayFactor := 0, directTxDelayFactor := 0 } } }

/-- An advert that came over `n` hops with one-byte hashes. -/
def floodAfter (n : UInt16) : Packet :=
  { Packet.init with header := 0x11, pathLen := n, payloadLen := 1 }

/-- A flood that came over two hops goes on with three. -/
theorem flood_path_two :
    (meshRouteRecvPacket (floodAfter 2) .repeating .boot).1.2.getPathHashCount = 3 := by
  have h := ((@flood_path (floodAfter 2) (by decide)).1 .repeating .boot (by decide +kernel)).mpr
    ⟨by decide, by decide +kernel⟩
  exact UInt8.toNat_inj.mp h.1.hashCount

/-- After 63 hops the relay retransmits the flood with an empty path. -/
theorem flood_path_wraps :
    let r := meshRouteRecvPacket (floodAfter 63) .repeating .boot
    (floodAfter 63).isRouteFlood = true ∧ isValidPathLen (floodAfter 63).pathLenField = true ∧
      r.1.1 ≠ actionRelease ∧ r.1.2.getPathHashCount = 0 ∧ r.1.2.pathBytes = [] ∧
      ¬Extends r.2.selfId.identity (floodAfter 63) r.1.2 :=
  ⟨by decide, by decide, by decide +kernel, by decide +kernel, by decide +kernel,
    fun h => absurd h.hashCount (by decide +kernel)⟩

end Meshcore
