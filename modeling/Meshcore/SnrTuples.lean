import Meshcore.FloodPath
import Meshcore.ForwardPolicy
import Meshcore.Lib.Pieces

/-!
# The SNRs of a flood

A flood with the transport codes for SNRs has room in its path for one more byte for each hop, and
whoever reads such a path takes the last byte of each tuple for an SNR. But a relay fills the whole
tuple with its hash. So what is read as the SNR of a hop is a byte of the relay's key.

## Main definitions

* `SnrFlood` — a flood that was sent with the transport codes for SNRs
* `SnrRelayed` — such a flood on its way
* `CarriesSnrs` — what should arrive

## Main results

* `snr_flood_carries_iff`
-/

namespace Meshcore

/-! ### Sent and relayed -/

/-- A flood with the transport codes for SNRs, at its start, with tuples of this size. -/
structure SnrFlood (tupleSize : UInt8) (packet : Packet) : Prop where
  isRouteFlood : packet.isRouteFlood = true
  hasSnrFlag : packet.hasSnrFlag = true
  two_le : 2 ≤ tupleSize
  le_three : tupleSize ≤ 3
  hashSize : packet.getPathHashSize = tupleSize
  hashCount : packet.getPathHashCount = 0
  validPathLen : isValidPathLen packet.pathLenField = true

/-- A relay, and the SNR that it measured. -/
structure SnrHop where
  identity : Identity
  snrQ4 : Int8

/-- A flood that was sent as `packet`, relayed by these nodes, each of which received what the one
before sent, and sent on by the last of them as the packet in the third place. -/
inductive SnrRelayed (packet : Packet) : List SnrHop → Packet → Prop where
  | sent : SnrRelayed packet [] packet
  | relayed {hops last snrQ4 got ctx w} (h : SnrRelayed packet hops last)
      (hears : Hears last snrQ4 got)
      (hretransmit : (meshRouteRecvPacket got ctx w).1.1 ≠ actionRelease) :
      SnrRelayed packet (hops ++ [⟨(meshRouteRecvPacket got ctx w).2.selfId.identity, snrQ4⟩])
        (meshRouteRecvPacket got ctx w).1.2

/-- What should arrive: for each hop a tuple of a hash and the SNR at which the relay received the
packet. The two readers find the SNRs, and the loop detector finds each relay. -/
structure CarriesSnrs (tupleSize : ℕ) (hops : List SnrHop) (got : Packet) : Prop where
  pathBytes : got.pathBytes = hops.flatMap fun hop =>
    hop.identity.slice 0 (tupleSize - 1) ++ [hop.snrQ4.toUInt8]
  forward : buildForwardPathSnrs got = some
    (hops.flatMap (·.identity.slice 0 (tupleSize - 1)), hops.map (·.snrQ4.toUInt8))
  back : extractReturnPathSnrs got = some (hops.map (·.snrQ4.toUInt8))
  counted : ∀ identity : Identity,
    (countSelf identity got.path tupleSize (tupleSize - 1) got.getPathHashCount.toNat 0).toNat
      = hops.countP fun hop =>
        hop.identity.slice 0 (tupleSize - 1) == identity.slice 0 (tupleSize - 1)

section

variable {packet sent got last : Packet} {snrQ4 : Int8} {hops : List SnrHop} {tupleSize : UInt8}

/-- Another node sees the flag. -/
theorem Hears.hasSnrFlag (h : Hears sent snrQ4 got) (hflag : sent.hasSnrFlag = true) :
    got.hasSnrFlag = true := by
  obtain ⟨parsed, hair, rfl⟩ := h
  have hcodes : parsed.hasTransportCodes = sent.hasTransportCodes := by
    rw [Packet.hasTransportCodes_eq, Packet.hasTransportCodes_eq, hair.fields.header]
  have hsent : sent.hasTransportCodes = true := by
    by_contra hno
    rw [Packet.hasSnrFlag, Bool.eq_false_iff.mpr hno] at hflag
    exact Bool.false_ne_true hflag
  have hkept : parsed.transportCodes = sent.transportCodes := by
    rw [hair.transportCodes, if_pos hsent]
  show parsed.hasSnrFlag = true
  rw [Packet.hasSnrFlag, hcodes, hkept]
  exact hflag

theorem Extends.hasSnrFlag {selfId : Identity} {packet' : Packet}
    (h : Extends selfId packet packet') (hflag : packet.hasSnrFlag = true) :
    packet'.hasSnrFlag = true := by
  rw [Packet.hasSnrFlag, Packet.hasTransportCodes_eq, h.header, h.transportCodes]
  exact hflag

/-- The hash that a relay puts at the end of a path with such tuples. -/
def SnrHop.hash (tupleSize : UInt8) (hop : SnrHop) : List UInt8 :=
  hop.identity.slice 0 tupleSize.toNat

/-- With tuples of two bytes or more the count of the hops does not come near its end. -/
theorem RecordsHops.hashCount_ne {hashes : List (List UInt8)} (h : RecordsHops packet hashes last)
    (hsent : SnrFlood tupleSize packet) : last.getPathHashCount ≠ 63 := by
  have hcapacity := h.capacity
  rw [← h.hashCount, hsent.hashSize] at hcapacity
  have htwo : 2 ≤ tupleSize.toNat := UInt8.le_iff_toNat_le.mp hsent.two_le
  have hmul := Nat.mul_le_mul_left last.getPathHashCount.toNat htwo
  intro h63
  rw [h63] at hcapacity hmul
  exact absurd (hmul.trans hcapacity) (by decide)

/-- The path is the hashes of the relays. -/
theorem SnrRelayed.recordsHops (hsent : SnrFlood tupleSize packet)
    (h : SnrRelayed packet hops last) :
    RecordsHops packet (hops.map (SnrHop.hash tupleSize)) last ∧ last.hasSnrFlag = true := by
  induction h with
  | sent => exact ⟨.refl hsent.validPathLen, hsent.hasSnrFlag⟩
  | @relayed hops last snrQ4 got ctx w _ hears hretransmit ih =>
    obtain ⟨hrecords, hflag⟩ := ih
    have hfields := hears.fields
    have hcount : got.getPathHashCount ≠ 63 := by
      rw [Packet.getPathHashCount, hfields.pathLenField]
      exact hrecords.hashCount_ne hsent
    have hext := extends_of_retransmit hfields.encodable.validPathLen hcount hretransmit
    have hnext := hrecords.extend hfields hext
    rw [hsent.hashSize] at hnext
    refine ⟨?_, hext.hasSnrFlag (hears.hasSnrFlag hflag)⟩
    rw [List.map_append]
    exact hnext

end

/-! ### What is read -/

/-- A path that was filled by these hops, each with a whole hash. -/
structure HashTuples (tupleSize : UInt8) (hops : List SnrHop) (got : Packet) : Prop where
  hasSnrFlag : got.hasSnrFlag = true
  two_le : 2 ≤ tupleSize
  le_three : tupleSize ≤ 3
  hashSize : got.getPathHashSize = tupleSize
  hashCount : got.getPathHashCount.toNat = hops.length
  pathBytes : got.pathBytes = (hops.map (SnrHop.hash tupleSize)).flatten
  capacity : hops.length * tupleSize.toNat ≤ maxPathLen

section

variable {packet sent got last : Packet} {snrQ4 : Int8} {hops : List SnrHop} {tupleSize : UInt8}

theorem SnrRelayed.hashTuples (hsent : SnrFlood tupleSize packet) (h : SnrRelayed packet hops last)
    (hears : Hears last snrQ4 got) : HashTuples tupleSize hops got := by
  obtain ⟨hrecords, hflag⟩ := h.recordsHops hsent
  have hfields := hears.fields
  have hzero : packet.getPathHashCount.toNat = 0 := by rw [hsent.hashCount]; rfl
  have hcount := hrecords.hashCount
  have hcapacity := hrecords.capacity
  rw [hzero, Nat.zero_add, List.length_map] at hcount
  rw [hzero, Nat.zero_add, List.length_map, hsent.hashSize] at hcapacity
  have hempty : packet.pathBytes = [] := by
    rw [Packet.pathBytes, Packet.toNat_getPathByteLen_eq_mul, hzero, Nat.zero_mul, Buf.slice_zero]
  refine ⟨hears.hasSnrFlag hflag, hsent.two_le, hsent.le_three, ?_, ?_, ?_, hcapacity⟩
  · rw [Packet.getPathHashSize, hfields.pathLenField]
    exact hrecords.hashSize.trans hsent.hashSize
  · rw [Packet.getPathHashCount, hfields.pathLenField]
    exact hcount
  · rw [hfields.pathBytes, hrecords.pathBytes, hempty, List.nil_append]

namespace HashTuples

theorem toNat_bounds (h : HashTuples tupleSize hops got) :
    2 ≤ tupleSize.toNat ∧ tupleSize.toNat ≤ 3 :=
  ⟨UInt8.le_iff_toNat_le.mp h.two_le, UInt8.le_iff_toNat_le.mp h.le_three⟩

/-- The tuple of a hop is the hash of the relay. -/
theorem slice_path (h : HashTuples tupleSize hops got) {i : ℕ} (hi : i < hops.length) :
    got.path.slice (i * tupleSize.toNat) tupleSize.toNat
      = hops[i].identity.slice 0 tupleSize.toNat := by
  have hbounds := h.toNat_bounds
  have hpieces : PiecesOf tupleSize.toNat (hops.map (SnrHop.hash tupleSize)) := by
    intro piece hmem
    obtain ⟨hop, -, rfl⟩ := List.mem_map.mp hmem
    exact Buf.length_slice_of_le _ (by show 0 + tupleSize.toNat ≤ 32; omega)
  have hpiece := hpieces.take_drop_flatten (i := i) (by rwa [List.length_map])
  have hend : i * tupleSize.toNat + tupleSize.toNat ≤ hops.length * tupleSize.toNat := by
    rw [← Nat.succ_mul]
    exact Nat.mul_le_mul_right _ hi
  rw [← h.pathBytes, Packet.pathBytes, Packet.toNat_getPathByteLen_eq_mul, h.hashCount, h.hashSize,
    Buf.drop_slice, Buf.take_slice, Nat.zero_add, Nat.min_eq_left (by omega), List.getElem_map]
    at hpiece
  exact hpiece

/-- Its front is a shorter hash of the relay. -/
theorem slice_path_front (h : HashTuples tupleSize hops got) {i : ℕ} (hi : i < hops.length) :
    got.path.slice (i * tupleSize.toNat) (tupleSize.toNat - 1)
      = hops[i].identity.slice 0 (tupleSize.toNat - 1) := by
  have hslice := congrArg (List.take (tupleSize.toNat - 1)) (h.slice_path hi)
  rwa [Buf.take_slice, Buf.take_slice, Nat.min_eq_left (Nat.sub_le _ 1)] at hslice

/-- Its last byte is one of the relay's key. -/
theorem get_path_last (h : HashTuples tupleSize hops got) {i : ℕ} (hi : i < hops.length) :
    got.path.get (i * tupleSize.toNat + (tupleSize.toNat - 1))
      = hops[i].identity.get (tupleSize.toNat - 1) := by
  have hbounds := h.toNat_bounds
  have hend : i * tupleSize.toNat + tupleSize.toNat ≤ 64 := by
    rw [← Nat.succ_mul]
    exact (Nat.mul_le_mul_right _ hi).trans h.capacity
  have hslice := congrArg (List.drop (tupleSize.toNat - 1)) (h.slice_path hi)
  have hone : tupleSize.toNat - (tupleSize.toNat - 1) = 0 + 1 := by omega
  rw [Buf.drop_slice, Buf.drop_slice, hone,
    Buf.slice_succ _ (by show i * tupleSize.toNat + (tupleSize.toNat - 1) < 64; omega),
    Buf.slice_succ _ (by show 0 + (tupleSize.toNat - 1) < 32; omega), Nat.zero_add] at hslice
  exact List.head_eq_of_cons_eq hslice

/-- The two readers find key bytes. -/
theorem buildForwardPathSnrs_eq (h : HashTuples tupleSize hops got) :
    buildForwardPathSnrs got = some (hops.flatMap (·.identity.slice 0 (tupleSize.toNat - 1)),
      hops.map (·.identity.get (tupleSize.toNat - 1))) := by
  have hbounds := h.toNat_bounds
  have hopen : ¬((!got.hasSnrFlag) = true ∨ tupleSize < 2 ∨ tupleSize = 4) := by
    rw [h.hasSnrFlag, UInt8.lt_iff_toNat_lt, ← UInt8.toNat_inj]
    show ¬(_ ∨ tupleSize.toNat < 2 ∨ tupleSize.toNat = 4)
    simp only [Bool.not_true, Bool.false_eq_true, false_or]
    omega
  have hhashes : (List.range hops.length).map (fun i =>
      got.path.slice (i * tupleSize.toNat) (tupleSize.toNat - 1))
      = hops.map (·.identity.slice 0 (tupleSize.toNat - 1)) :=
    List.ext_getElem (by simp) fun i hi _ => by
      simpa using h.slice_path_front (by simpa using hi)
  have hsnrs : (List.range hops.length).map (fun i =>
      got.path.get (i * tupleSize.toNat + (tupleSize.toNat - 1)))
      = hops.map (·.identity.get (tupleSize.toNat - 1)) :=
    List.ext_getElem (by simp) fun i hi _ => by
      simpa using h.get_path_last (by simpa using hi)
  rw [buildForwardPathSnrs]
  simp only [h.hashSize, h.hashCount, if_neg hopen, if_neg (not_lt.mpr h.capacity)]
  rw [List.flatMap_def, hhashes, hsnrs, List.flatMap_def]

theorem extractReturnPathSnrs_eq (h : HashTuples tupleSize hops got) :
    extractReturnPathSnrs got = some (hops.map (·.identity.get (tupleSize.toNat - 1))) := by
  have hbounds := h.toNat_bounds
  have hopen : ¬(tupleSize < 2 ∨ tupleSize = 4) := by
    rw [UInt8.lt_iff_toNat_lt, ← UInt8.toNat_inj]
    show ¬(tupleSize.toNat < 2 ∨ tupleSize.toNat = 4)
    omega
  have hsnrs : (List.range hops.length).map (fun i =>
      got.path.get (i * tupleSize.toNat + tupleSize.toNat - 1))
      = hops.map (·.identity.get (tupleSize.toNat - 1)) :=
    List.ext_getElem (by simp) fun i hi _ => by
      have hget := h.get_path_last (i := i) (by simpa using hi)
      rw [← Nat.add_sub_assoc (by omega)] at hget
      simpa using hget
  rw [extractReturnPathSnrs]
  simp only [h.hasSnrFlag, Bool.not_true, Bool.false_eq_true, h.hashSize, h.hashCount, if_false,
    if_neg hopen]
  rw [hsnrs]

end HashTuples

/-- The loop detector counts the hops with the hash that it looks for. -/
theorem toNat_countSelf {identity : Identity} {path : Buf maxPathLen} {stride hashSize off : ℕ}
    (hsize : hashSize ≤ publicKeySize) (hlen : hops.length < 256)
    (hpath : ∀ i (hi : i < hops.length),
      path.slice (off + i * stride) hashSize = hops[i].identity.slice 0 hashSize) :
    (countSelf identity path stride hashSize hops.length off).toNat
      = hops.countP fun hop => hop.identity.slice 0 hashSize == identity.slice 0 hashSize := by
  have hmap : hops.map (·.identity.slice 0 hashSize)
      = (List.range hops.length).map fun i => path.slice (off + i * stride) hashSize := by
    refine List.ext_getElem (by simp) fun i hi _ => ?_
    rw [List.length_map] at hi
    simp [hpath i hi]
  have hcount := congrArg (List.countP (· == identity.slice 0 hashSize)) hmap
  rw [List.countP_map, List.countP_map] at hcount
  rw [toNat_countSelf_range hsize hlen]
  exact hcount.symm

/-- Such a path carries the SNRs when each key happens to have the SNR where it is looked for. -/
theorem HashTuples.carriesSnrs_iff (h : HashTuples tupleSize hops got) :
    CarriesSnrs tupleSize.toNat hops got ↔
      ∀ hop ∈ hops, hop.identity.get (tupleSize.toNat - 1) = hop.snrQ4.toUInt8 := by
  have hbounds := h.toNat_bounds
  refine ⟨fun hcarries => ?_, fun hkeys => ⟨?_, ?_, ?_, fun identity => ?_⟩⟩
  · have hback := hcarries.back
    rw [h.extractReturnPathSnrs_eq] at hback
    exact List.map_inj_left.mp (Option.some.inj hback)
  · rw [h.pathBytes, List.flatMap_def]
    refine congrArg List.flatten (List.map_inj_left.mpr fun hop hmem => ?_)
    obtain ⟨n, hn⟩ : ∃ n, tupleSize.toNat = n + 1 := ⟨tupleSize.toNat - 1, by omega⟩
    rw [SnrHop.hash, ← hkeys hop hmem, hn, Nat.add_sub_cancel, Buf.slice_add, Nat.zero_add,
      Buf.slice_succ _ (by show n < 32; omega), Buf.slice_zero]
  · rw [h.buildForwardPathSnrs_eq, List.map_inj_left.mpr hkeys]
  · rw [h.extractReturnPathSnrs_eq, List.map_inj_left.mpr hkeys]
  · have hlen : hops.length < 256 := by
      rw [← h.hashCount]
      exact (Packet.toNat_getPathHashCount_lt got).trans (by decide)
    rw [h.hashCount]
    exact toNat_countSelf (by show tupleSize.toNat - 1 ≤ 32; omega) hlen fun i hi => by
      rw [Nat.zero_add]
      exact h.slice_path_front hi

end

/-! ### Sent -/

section

variable {ctx : Ctx} {w : World} {id : PacketId} {held : List PacketId} {type : UInt8}
  {bytes : List UInt8}

/-- The flood has tuples of at least two bytes. -/
theorem meshSendFloodByTransportCodes_shipped (delayMillis : UInt32) {hashSize : UInt8}
    (h0 : hashSize ≠ 0) (h3 : hashSize ≤ 3) (htrace : type ≠ payloadTypeTrace)
    (hpool : w.PoolIntact ctx (id :: held))
    (hload : Load type bytes (w.packetManager.packetBuf id)) :
    Shipped (SnrFlood (if hashSize < 3 then hashSize + 1 else 3)) w
      (meshSendFloodByTransportCodes id (snrTransportCode0, snrTransportCode1) delayMillis hashSize
        ctx w).2 := by
  have hroute : ¬((w.packetManager.packetBuf id).getPayloadType = payloadTypeTrace ∨
      hashSize = 0 ∨ hashSize > 3) := by
    rw [hload.type_eq, not_or, not_or]
    exact ⟨htrace, h0, UInt8.not_lt.mpr h3⟩
  have hraised : ∀ s : UInt8, s = 1 ∨ s = 2 ∨ s = 3 →
      meshTransportFloodHashSize s (snrTransportCode0, snrTransportCode1)
        = (if s < 3 then s + 1 else 3) ∧
      (2 : UInt8) ≤ (if s < 3 then s + 1 else 3) ∧ (if s < 3 then s + 1 else 3) ≤ (3 : UInt8) := by
    rintro s (rfl | rfl | rfl) <;> decide
  obtain ⟨htuple, htwo, hthree⟩ := hraised _ (hashSize_cases h0 h3)
  simp only [meshSendFloodByTransportCodes, readPacket, Prog.run_bind, Prog.run_gets, Prog.run_ite]
  rw [if_neg hroute, htuple]
  generalize (if hashSize < 3 then hashSize + 1 else 3 : UInt8) = tupleSize at htwo hthree
  have hpos : tupleSize ≠ 0 := by
    rintro rfl
    exact absurd htwo (by decide)
  obtain ⟨packet, hpacket⟩ : ∃ packet : Packet, packet =
      { (w.packetManager.packetBuf id).withRouteType routeTypeTransportFlood with
        transportCodes := (snrTransportCode0, snrTransportCode1) } := ⟨_, rfl⟩
  have hroute : packet.getRouteType = routeTypeTransportFlood := by
    rw [hpacket]
    exact getRouteType_withRouteType _ (by decide)
  have hfield := toNat_pathLenField_setPathHashSizeAndCount packet hpos hthree
  have hvalid := isValidPathLen_setPathHashSizeAndCount packet hpos hthree
  have hsize : (packet.setPathHashSizeAndCount tupleSize 0).getPathHashSize = tupleSize := by
    have htwo' := UInt8.le_iff_toNat_le.mp htwo
    change 2 ≤ tupleSize.toNat at htwo'
    rw [← UInt8.toNat_inj, Packet.getPathHashSize, toNat_hashSizeOf, hfield]
    omega
  have hcount : (packet.setPathHashSizeAndCount tupleSize 0).getPathHashCount = 0 := by
    rw [← UInt8.toNat_inj, Packet.getPathHashCount, toNat_hashCountOf, hfield, Nat.mul_mod_right]
    rfl
  have hflood : (packet.setPathHashSizeAndCount tupleSize 0).isRouteFlood = true := by
    show packet.isRouteFlood = true
    rw [Packet.isRouteFlood, hroute]
    decide
  have hflag : (packet.setPathHashSizeAndCount tupleSize 0).hasSnrFlag = true := by
    show packet.hasSnrFlag = true
    have hcodes : packet.transportCodes = (snrTransportCode0, snrTransportCode1) := by rw [hpacket]
    rw [Packet.hasSnrFlag, Packet.hasTransportCodes, hroute, hcodes]
    decide
  rw [← hpacket]
  exact shipped_of_written (recordSentFlood _) _ _ hpool
    ⟨hflood, hflag, htwo, hthree, hsize, hcount, hvalid⟩ hvalid (by
      rw [hpacket]
      exact hload.payloadLen_eq.trans_le hload.length_le)

end

/-! ### The result -/

/-- **The SNRs of a flood.** A flood that is sent with the transport codes for SNRs has tuples with
room for an SNR. When it arrives over any number of relays, the tuples carry the SNRs exactly when
the key of each relay has, behind the short hash, the SNR that the relay measured. -/
theorem snr_flood_carries_iff {hashSize tupleSize : UInt8} (h0 : hashSize ≠ 0) (h3 : hashSize ≤ 3)
    (htuple : tupleSize = if hashSize < 3 then hashSize + 1 else 3) :
    (∀ ctx w id held type bytes delayMillis, type ≠ payloadTypeTrace →
      w.PoolIntact ctx (id :: held) → Load type bytes (w.packetManager.packetBuf id) →
      Shipped (SnrFlood tupleSize) w (meshSendFloodByTransportCodes id
        (snrTransportCode0, snrTransportCode1) delayMillis hashSize ctx w).2) ∧
    ∀ packet hops last snrQ4 got, SnrFlood tupleSize packet → SnrRelayed packet hops last →
      Hears last snrQ4 got →
      (CarriesSnrs tupleSize.toNat hops got ↔
        ∀ hop ∈ hops, hop.identity.get (tupleSize.toNat - 1) = hop.snrQ4.toUInt8) :=
  ⟨fun _ _ _ _ _ _ delayMillis htrace hpool hload =>
      htuple ▸ meshSendFloodByTransportCodes_shipped delayMillis h0 h3 htrace hpool hload,
    fun _ _ _ _ _ hsent hrelayed hears => (hrelayed.hashTuples hsent hears).carriesSnrs_iff⟩

/-- A flood with tuples of two bytes. -/
def snrPacket : Packet :=
  { Packet.init with
    header := 0x20, pathLen := 0x40, payloadLen := 1
    transportCodes := (snrTransportCode0, snrTransportCode1) }

/-- Over a relay whose key is 0 and which measured the SNR 0. -/
theorem snr_flood_carries_iff_zero :
    CarriesSnrs 2 [⟨Buf.zero _, 0⟩] (meshRouteRecvPacket snrPacket .repeating .boot).1.2 := by
  have hsent : SnrFlood 2 snrPacket :=
    ⟨by decide, by decide, by decide, by decide, by decide, by decide, by decide⟩
  have hheard : Hears snrPacket 0 snrPacket := ⟨snrPacket, ⟨Packet.init, by decide +kernel⟩, rfl⟩
  have hretransmit : (meshRouteRecvPacket snrPacket .repeating .boot).1.1 ≠ actionRelease := by
    decide +kernel
  have hrelayed : SnrRelayed snrPacket [⟨Buf.zero _, 0⟩]
      (meshRouteRecvPacket snrPacket .repeating .boot).1.2 := by
    have hself : (meshRouteRecvPacket snrPacket .repeating .boot).2.selfId.identity
        = Buf.zero _ := by
      decide +kernel
    rw [← hself]
    exact .relayed .sent hheard hretransmit
  have hair : OnAir (meshRouteRecvPacket snrPacket .repeating .boot).1.2
      (meshRouteRecvPacket snrPacket .repeating .boot).1.2 := ⟨Packet.init, by decide +kernel⟩
  have hears : Hears (meshRouteRecvPacket snrPacket .repeating .boot).1.2 0
      (meshRouteRecvPacket snrPacket .repeating .boot).1.2 := ⟨_, hair, rfl⟩
  exact ((@snr_flood_carries_iff 1 2 (by decide) (by decide) rfl).2 _ _ _ _ _ hsent
    hrelayed hears).mpr (by decide)

/-- When that relay measured the SNR 3, it is still 0 that is read. -/
theorem snr_flood_loses_snr :
    let last := (meshRouteRecvPacket { snrPacket with snrQ4 := 3 } .repeating .boot).1.2
    SnrFlood 2 snrPacket ∧ SnrRelayed snrPacket [⟨Buf.zero _, 3⟩] last ∧ Hears last 3 last ∧
      extractReturnPathSnrs last = some [0] ∧ ¬CarriesSnrs 2 [⟨Buf.zero _, 3⟩] last := by
  intro last
  have hheard : Hears snrPacket 3 { snrPacket with snrQ4 := 3 } :=
    ⟨snrPacket, ⟨Packet.init, by decide +kernel⟩, rfl⟩
  have hretransmit : (meshRouteRecvPacket { snrPacket with snrQ4 := 3 } .repeating .boot).1.1
      ≠ actionRelease := by decide +kernel
  have hread : extractReturnPathSnrs last = some [0] := by decide +kernel
  have hrelayed : SnrRelayed snrPacket [⟨Buf.zero _, 3⟩] last := by
    have hself : (meshRouteRecvPacket { snrPacket with snrQ4 := 3 } .repeating
        .boot).2.selfId.identity = Buf.zero _ := by decide +kernel
    rw [← hself]
    exact .relayed .sent hheard hretransmit
  refine ⟨⟨by decide, by decide, by decide, by decide, by decide, by decide, by decide⟩, hrelayed,
    ⟨last, ⟨{ Packet.init with snrQ4 := 3 }, by decide +kernel⟩, rfl⟩, hread, fun hcarries => ?_⟩
  rw [hcarries.back] at hread
  exact absurd hread (by decide)

end Meshcore
