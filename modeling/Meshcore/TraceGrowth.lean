import Meshcore.Hearing

/-!
# The list that a trace carries

The code that forwards a trace counts its SNRs with the path length as a plain number; the encoder
reads the same byte as a count of hashes and their size. The two agree below 64, and a list of 63
SNRs grows to 64.

## Main definitions

* `Packet.recorded` — the SNRs, as the forwarding code counts them
* `Packet.withSnr` — the packet with the SNR that the node measured

## Main results

* `trace_stays_encodable_iff`
-/

namespace Meshcore

namespace Packet

/-- The SNRs that a trace has recorded. -/
def recorded (packet : Packet) : List UInt8 := packet.path.slice 0 packet.pathLen.toNat

/-- One more SNR is recorded. -/
def withSnr (packet : Packet) : Packet :=
  { packet with
    path := packet.path.set packet.pathLen.toNat packet.snrQ4.toUInt8,
      pathLen := packet.pathLen + 1 }

end Packet

/-! ### What a node does with a trace -/

/-- The packet is released, or sent on with one more SNR. -/
def Collects (got : Packet) (r : Action × Packet) : Prop := r.1 = actionRelease ∨ r.2 = got.withSnr

instance (got : Packet) : Returns (Collects got) (pure (actionRelease, got) : M _) :=
  ⟨fun _ _ => .inl rfl⟩

instance (got : Packet) (delay : UInt32) :
    Returns (Collects got)
      (pure (actionRetransmitDelayed 5 delay,
        { got with
          path := got.path.set got.pathLen.toNat got.snrQ4.toUInt8
          pathLen := got.pathLen + 1 }) : M _) :=
  ⟨fun _ _ => .inr rfl⟩

instance (got : Packet) (hash : List UInt8) (hashSize : ℕ) :
    Returns (Collects got) (forwardTrace got hash hashSize) := by
  unfold forwardTrace; infer_instance

instance (got : Packet) : Returns (Collects got) (onRecvTrace got) := by
  unfold onRecvTrace; infer_instance

section

variable {got out : Packet} {action : Action} {ctx : Ctx} {w : World}

/-- A trace is sent on only as a direct packet with fewer than 64 SNRs. -/
theorem meshOnRecvPacket_collects (htype : got.getPayloadType = payloadTypeTrace)
    (hout : (meshOnRecvPacket got ctx w).1 = (action, out)) (hgo : action ≠ actionRelease) :
    got.pathLen.toNat < 64 ∧ out = got.withSnr := by
  by_cases hdirect : got.isRouteDirect = true
  · rw [meshOnRecvPacket, if_pos ⟨hdirect, htype⟩] at hout
    have hcollects := (inferInstance : Returns (Collects got) (onRecvTrace got)).returns ctx w
    rw [hout] at hcollects
    refine ⟨?_, hcollects.resolve_left hgo⟩
    by_contra hlong
    rw [onRecvTrace, if_neg fun h => hlong h.1] at hout
    exact hgo (Prod.ext_iff.mp hout).1.symm
  · -- a trace that is flooded is nothing that the switch knows
    have hpayload : onRecvPayload got = pure (actionRelease, got) := by
      rw [onRecvPayload, htype]
      rfl
    rw [meshOnRecvPacket, if_neg fun h => hdirect h.1, if_neg fun h => hdirect h.1, onRecvRouted,
      if_neg fun h => hdirect h.1, hpayload, Prog.run_bind, ite_self] at hout
    exact absurd (Prod.ext_iff.mp hout).1.symm hgo

/-! ### What the next node reads -/

theorem toNat_pathLen_withSnr (hlt : got.pathLen.toNat < 64) :
    got.withSnr.pathLen.toNat = got.pathLen.toNat + 1 := by
  show (got.pathLen + 1).toNat = _
  rw [UInt16.toNat_add]
  exact Nat.mod_eq_of_lt (by show got.pathLen.toNat + 1 < 65536; omega)

theorem toNat_pathLenField_withSnr (hlt : got.pathLen.toNat < 64) :
    got.withSnr.pathLenField.toNat = got.pathLen.toNat + 1 := by
  rw [Packet.pathLenField, UInt16.toNat_toUInt8, toNat_pathLen_withSnr hlt]
  omega

theorem recorded_withSnr (hlt : got.pathLen.toNat < 64) :
    got.withSnr.recorded = got.recorded ++ [got.snrQ4.toUInt8] := by
  rw [Packet.recorded, toNat_pathLen_withSnr hlt]
  exact Buf.slice_zero_store got.path hlt

/-- Below 64 the encoder counts like the forwarding code. -/
theorem getPathByteLen_of_lt {packet : Packet} (hlt : packet.pathLenField.toNat < 64) :
    packet.getPathByteLen.toNat = packet.pathLenField.toNat := by
  rw [Packet.toNat_getPathByteLen, Nat.mod_eq_of_lt hlt, Nat.div_eq_of_lt hlt, Nat.zero_add,
    Nat.mul_one]

theorem pathBytes_withSnr (hlt : got.pathLen.toNat < 63) :
    got.withSnr.pathBytes = got.recorded ++ [got.snrQ4.toUInt8] := by
  have hfield := toNat_pathLenField_withSnr (show got.pathLen.toNat < 64 by omega)
  rw [Packet.pathBytes, getPathByteLen_of_lt (by omega), hfield, ← toNat_pathLen_withSnr (by omega)]
  exact recorded_withSnr (by omega)

/-- The next node counts what was encoded. -/
theorem Hears.recorded {snrQ4 : Int8} {next : Packet} (hlt : out.pathLenField.toNat < 64)
    (hears : Hears out snrQ4 next) :
    next.pathLen.toNat = out.pathLenField.toNat ∧ next.recorded = out.pathBytes := by
  have hlen : next.pathLen.toNat = out.pathLenField.toNat := by
    rw [hears.pathLen_eq, UInt8.toNat_toUInt16]
  have hfield : next.pathLenField.toNat = out.pathLenField.toNat := by
    rw [hears.fields.pathLenField]
  refine ⟨hlen, ?_⟩
  rw [← hears.fields.pathBytes, Packet.pathBytes, getPathByteLen_of_lt (hfield.trans_lt hlt),
    hfield, Packet.recorded, hlen]

end

/-- **A trace stays encodable.** A trace that is sent on has a valid path length, is serialised with
the SNRs recorded so far and the new one in its path, and is read by the next node as a list that is
one longer, if and only if it was received with fewer than 63 SNRs. -/
theorem trace_stays_encodable_iff {got out : Packet} {action : Action} {ctx : Ctx} {w : World}
    (htype : got.getPayloadType = payloadTypeTrace) (hlen : got.payloadLen ≤ packetPayloadMaxLen)
    (hout : (meshOnRecvPacket got ctx w).1 = (action, out)) (hgo : action ≠ actionRelease) :
    (isValidPathLen out.pathLenField = true ∧
      out.sentBytes = out.header :: (Frame.codeBytes out.header out.transportCodes ++
        out.pathLenField :: (got.recorded ++ [got.snrQ4.toUInt8] ++ got.payloadBytes)) ∧
      ∀ snrQ4 next, Hears out snrQ4 next → next.pathLen.toNat = got.pathLen.toNat + 1 ∧
        next.recorded = got.recorded ++ [got.snrQ4.toUInt8]) ↔
      got.pathLen.toNat < 63 := by
  obtain ⟨hlt, rfl⟩ := meshOnRecvPacket_collects htype hout hgo
  have hfield := toNat_pathLenField_withSnr hlt
  have hvalid : isValidPathLen got.withSnr.pathLenField = true := by
    rw [isValidPathLen_iff, hfield]
    show _ ∧ _ ≤ 64
    have hcases : got.pathLen.toNat + 1 < 64 ∨ got.pathLen.toNat + 1 = 64 := by omega
    rcases hcases with h | h
    · rw [Nat.mod_eq_of_lt h, Nat.div_eq_of_lt h]
      omega
    · rw [h]
      decide
  have henc : got.withSnr.Encodable := ⟨hvalid, hlen⟩
  have hbytes : got.withSnr.sentBytes = got.withSnr.header ::
      (Frame.codeBytes got.withSnr.header got.withSnr.transportCodes ++
        got.withSnr.pathLenField :: (got.withSnr.pathBytes ++ got.payloadBytes)) := by
    have hcodes : Frame.codeBytes got.withSnr.header (got.withSnr.toFrame henc).transportCodes
        = Frame.codeBytes got.withSnr.header got.withSnr.transportCodes := by
      rw [Frame.codeBytes, Frame.codeBytes, Packet.toFrame]
      dsimp only
      rw [Packet.hasTransportCodes_eq]
      split <;> rfl
    rw [Packet.sentBytes_eq henc, ← hcodes]
    rfl
  constructor
  · rintro ⟨-, hsent, -⟩
    by_contra hge
    have hfull : got.withSnr.pathLenField.toNat = 64 := by omega
    rw [hbytes] at hsent
    have hpath : got.withSnr.pathBytes = got.recorded ++ [got.snrQ4.toUInt8] := by
      have hrest := List.append_cancel_left (List.cons.inj hsent).2
      exact List.append_cancel_right (List.cons.inj hrest).2
    have hlen := congrArg List.length hpath
    rw [Packet.pathBytes, Packet.toNat_getPathByteLen, hfull, Buf.slice_zero,
      List.length_append] at hlen
    simp at hlen
  · intro hroom
    refine ⟨hvalid, by rw [hbytes, pathBytes_withSnr hroom], fun snrQ4 next hears => ?_⟩
    obtain ⟨hnext, hrecorded⟩ := hears.recorded (show _ < 64 by omega)
    exact ⟨hnext.trans hfield, hrecorded.trans (pathBytes_withSnr hroom)⟩

/-- A direct trace with so many SNRs and a route of 64 one-byte hashes, all those of this node. -/
def longTrace (recorded : UInt16) : Packet :=
  { Packet.init with
    header := 0x26
    pathLen := recorded
    payloadLen := 73 }

theorem trace_stays_encodable_short :
    isValidPathLen (meshOnRecvPacket (longTrace 5) .forwarding
      { World.boot with initialized := true }).1.2.pathLenField = true := by
  have hiff := @trace_stays_encodable_iff (longTrace 5) _ _ .forwarding
    { World.boot with initialized := true } (by decide) (by decide) rfl (by decide +kernel)
  exact (hiff.mpr (by decide)).1

/-- With 63 SNRs the trace is sent on with a path length byte that stands for no path. -/
theorem trace_loses_list :
    let got := longTrace 63
    let r := (meshOnRecvPacket got .forwarding { World.boot with initialized := true }).1
    r.1 ≠ actionRelease ∧ r.2.pathLenField = 64 ∧ r.2.pathBytes = [] ∧
      r.2.sentBytes ≠ r.2.header :: (Frame.codeBytes r.2.header r.2.transportCodes ++
        r.2.pathLenField :: (got.recorded ++ [got.snrQ4.toUInt8] ++ got.payloadBytes)) := by
  decide +kernel

end Meshcore
