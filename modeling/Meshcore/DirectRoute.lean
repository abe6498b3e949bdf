import Meshcore.FloodPath
import Meshcore.Hearing

/-!
# Along a direct route

A direct packet names the relays that it should take, and each of them takes its own hash off the
front of the path before it sends the packet on. The hashes that are left move down one by one, in
place.

## Main definitions

* `DropsHop` — what a relay should make of a direct packet

## Main results

* `meshRemoveSelfFromPath_run`
* `meshOnRecvPacket_hop` — a direct packet that still has hops to go
* `meshOnRecvPacket_arrives` — a direct packet at the end of its route
-/

namespace Meshcore

section

variable {ctx : Ctx} {w : World} {packet received : Packet}

/-! ### The first hash goes -/

/-- The bytes from `k + sz` on move down by `sz`. -/
theorem shiftPath_run {sz : ℕ} (n k : ℕ) (path : Buf maxPathLen)
    (hlen : k + sz + n * sz ≤ received.getPathByteLen.toNat)
    (hmax : received.getPathByteLen.toNat ≤ maxPathLen) :
    ∃ path', shiftPath received sz n k path ctx w = (path', w) ∧
      path'.slice 0 (k + n * sz) = path.slice 0 k ++ path.slice (k + sz) (n * sz) := by
  induction n generalizing k path with
  | zero => exact ⟨path, rfl, by rw [Nat.zero_mul, Nat.add_zero, Buf.slice_zero, List.append_nil]⟩
  | succ n ih =>
    rw [Nat.succ_mul] at hlen
    have hread : k + sz + sz ≤ received.getPathByteLen.toNat := by omega
    have hwrite : k + sz ≤ maxPathLen := by omega
    have hpiece : (path.slice (k + sz) sz).length = sz := Buf.length_slice_of_le _ (by omega)
    have hfits : k + (path.slice (k + sz) sz).length ≤ maxPathLen := by rw [hpiece]; omega
    obtain ⟨path', hrun, hslice⟩ := ih (k + sz) (path.store k (path.slice (k + sz) sz)) (by omega)
    refine ⟨path', ?_, ?_⟩
    · rw [shiftPath, Prog.run_bind_of (access_of hread ctx w),
        Prog.run_bind_of (access_of hwrite ctx w), hrun]
    · have hmoved : (path.store k (path.slice (k + sz) sz)).slice 0 (k + sz)
          = path.slice 0 k ++ path.slice (k + sz) sz := by
        have hfront := Buf.slice_zero_store path hfits
        rwa [hpiece] at hfront
      rw [Nat.succ_mul, Nat.add_comm (n * sz), ← Nat.add_assoc, hslice, hmoved, List.append_assoc,
        Buf.slice_store_above path hfits (by rw [hpiece]; omega), ← Buf.slice_add]

/-- What a relay should make of a direct packet: the first hash is gone, and nothing else is
changed. -/
structure DropsHop (packet packet' : Packet) : Prop where
  hashSize : packet'.getPathHashSize = packet.getPathHashSize
  hashCount : packet'.getPathHashCount.toNat + 1 = packet.getPathHashCount.toNat
  pathBytes : packet'.pathBytes = packet.pathBytes.drop packet.getPathHashSize.toNat
  validPathLen : isValidPathLen packet'.pathLenField = true
  header : packet'.header = packet.header
  transportCodes : packet'.transportCodes = packet.transportCodes
  payloadLen : packet'.payloadLen = packet.payloadLen
  payload : packet'.payload = packet.payload

theorem meshRemoveSelfFromPath_run (hcount : packet.getPathHashCount ≠ 0)
    (hvalid : isValidPathLen packet.pathLenField = true) (ctx : Ctx) (w : World) :
    ∃ packet', meshRemoveSelfFromPath packet ctx w = (packet', w) ∧ DropsHop packet packet' := by
  have hpos : packet.getPathHashCount.toNat ≠ 0 := fun h => hcount (UInt8.toNat_inj.mp h)
  have hlt := packet.toNat_getPathHashCount_lt
  obtain ⟨n, hn⟩ := Nat.exists_eq_succ_of_ne_zero hpos
  rw [Nat.succ_eq_add_one] at hn
  let sz := packet.getPathHashSize.toNat
  let cut := packet.setPathHashCount (packet.getPathHashCount - 1)
  have hsize : cut.getPathHashSize = packet.getPathHashSize :=
    Packet.getPathHashSize_setPathHashCount ..
  have hless : cut.getPathHashCount.toNat = n := by
    rw [Packet.toNat_getPathHashCount_setPathHashCount, UInt8.toNat_sub_of_le, hn]
    · exact Nat.mod_eq_of_lt (by show n < 64; omega)
    · rw [UInt8.le_iff_toNat_le, hn]
      exact Nat.le_add_left ..
  have hbytes : packet.getPathByteLen.toNat = (n + 1) * sz := by
    rw [Packet.toNat_getPathByteLen_eq_mul, hn]
  have hmax : packet.getPathByteLen.toNat ≤ maxPathLen := by
    rw [Packet.toNat_getPathByteLen]
    exact (isValidPathLen_iff.mp hvalid).2
  obtain ⟨path', hrun, hslice⟩ := @shiftPath_run ctx w packet sz n 0 packet.path
    (by rw [hbytes, Nat.succ_mul]; omega) hmax
  refine ⟨{ cut with path := path' }, ?_, hsize, ?_, ?_, ?_, rfl, rfl, rfl, rfl⟩
  · have hshift : shiftPath packet cut.getPathHashSize.toNat cut.getPathHashCount.toNat 0 cut.path
        ctx w = (path', w) := by
      rw [hsize, hless]
      exact hrun
    rw [meshRemoveSelfFromPath, if_neg hcount]
    exact Prog.run_bind_of hshift _
  · show cut.getPathHashCount.toNat + 1 = _
    rw [hless, hn]
  · have hleft : { cut with path := path' }.getPathByteLen.toNat = n * sz := by
      rw [Packet.toNat_getPathByteLen_eq_mul]
      show cut.getPathHashCount.toNat * cut.getPathHashSize.toNat = n * sz
      rw [hless, hsize]
    rw [Nat.zero_add, Nat.zero_add, Buf.slice_zero, List.nil_append] at hslice
    rw [Packet.pathBytes, hleft, Packet.pathBytes, hbytes, Buf.drop_slice, Nat.zero_add,
      Nat.succ_mul, Nat.add_sub_cancel]
    exact hslice
  · rw [isValidPathLen_iff]
    have hcutSize := congrArg UInt8.toNat hsize
    rw [Packet.getPathHashSize, Packet.getPathHashSize, toNat_hashSizeOf, toNat_hashSizeOf]
      at hcutSize
    rw [Packet.getPathHashCount, toNat_hashCountOf] at hless
    have hfield : packet.pathLenField.toNat / 64 + 1 = sz := (toNat_hashSizeOf _).symm
    have hthree := (isValidPathLen_iff.mp hvalid).1
    show cut.pathLenField.toNat / 64 ≠ 3 ∧
      cut.pathLenField.toNat % 64 * (cut.pathLenField.toNat / 64 + 1) ≤ maxPathLen
    rw [hless, hcutSize, hfield]
    rw [hbytes, Nat.succ_mul] at hmax
    exact ⟨by omega, (Nat.le_add_right _ _).trans hmax⟩

/-! ### A hop -/

theorem pathRead_run {i n : ℕ} (h : i + n ≤ packet.getPathByteLen.toNat) (ctx : Ctx) (w : World) :
    pathRead packet i n ctx w = (packet.path.slice i n, w) := by
  rw [pathRead, Prog.run_bind, access_of h]
  rfl

/-- A direct packet that still has hops to go, and is no trace and not for the neighbours. -/
theorem meshOnRecvPacket_hop (hdirect : packet.isRouteDirect = true)
    (hcount : packet.getPathHashCount ≠ 0) (htrace : packet.getPayloadType ≠ payloadTypeTrace)
    (hcontrol : packet.getPayloadType = payloadTypeControl →
      packet.payload.get 0 &&& 0x80 = 0) :
    meshOnRecvPacket packet ctx w = onRecvDirectHop packet ctx w := by
  have hpos : packet.getPathHashCount > 0 := by
    have hne : packet.getPathHashCount.toNat ≠ 0 := fun h => hcount (UInt8.toNat_inj.mp h)
    rw [gt_iff_lt, UInt8.lt_iff_toNat_lt]
    exact Nat.pos_of_ne_zero hne
  have hrouted : onRecvRouted packet ctx w = onRecvDirectHop packet ctx w := by
    rw [onRecvRouted, if_pos ⟨hdirect, hpos⟩]
  rw [meshOnRecvPacket, if_neg fun h => htrace h.2]
  split
  · rename_i h
    rw [Prog.run_bind_of (payloadByte_run h.2.2 ctx w),
      if_neg (not_not.mpr (hcontrol h.2.1)), hrouted]
  · exact hrouted

/-- Only floods are noted when they are handed over. -/
theorem handOver_run (hdirect : packet.isRouteDirect = true) (ctx : Ctx) (w : World) :
    handOver packet ctx w = ((), w) := by
  rw [handOver, Packet.isRouteFlood_of_direct hdirect]
  rfl

/-- A direct packet at the end of its route, that is no trace and not for the neighbours. -/
theorem meshOnRecvPacket_arrives (hdirect : packet.isRouteDirect = true)
    (hcount : packet.getPathHashCount = 0) (htrace : packet.getPayloadType ≠ payloadTypeTrace)
    (hcontrol : packet.getPayloadType ≠ payloadTypeControl) :
    meshOnRecvPacket packet ctx w = onRecvPayload packet ctx w := by
  have hflood : packet.isRouteFlood = false := Packet.isRouteFlood_of_direct hdirect
  rw [meshOnRecvPacket, if_neg fun h => htrace h.2, if_neg fun h => hcontrol h.2.1, onRecvRouted,
    hcount, if_neg fun h => absurd h.2 (by decide), hflood]
  rfl

/-- The relay's own hash is at the front. -/
theorem isHashMatch_front {selfId : Identity} (hvalid : isValidPathLen packet.pathLenField = true)
    (hmatch : selfId.slice 0 packet.getPathHashSize.toNat
      = packet.path.slice 0 packet.getPathHashSize.toNat) :
    identityIsHashMatchByLen selfId (packet.path.slice 0 packet.getPathHashSize.toNat)
      packet.getPathHashSize.toNat = true := by
  have hthree := (isValidPathLen_iff.mp hvalid).1
  have hlt := packet.pathLenField.toNat_lt
  have hsize : packet.getPathHashSize.toNat = packet.pathLenField.toNat / 64 + 1 :=
    toNat_hashSizeOf _
  rw [identityIsHashMatchByLen, if_neg (by show ¬packet.getPathHashSize.toNat > 32; omega),
    Buf.take_slice, min_self, hmatch, beq_self_eq_true]

end

end Meshcore
