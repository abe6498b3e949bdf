import Meshcore.Codec
import Meshcore.Runtime
import Meshcore.Settle

/-!
# Received packets are read and written where they are

The mesh reads the payload of a received packet at cursors that it moves itself, and shifts or
extends its path in place. All of it stays inside what the packet carries, with one exception: a
direct trace names the width of its hashes, and the last hash of its route may be cut off by the end
of the payload.

## Main definitions

* `Inside` — every access is inside
* `PathFits` — a packet whose path fits in its array, as that of every packet the parser accepts
* `TraceCut` — a trace whose next hash is cut off

## Main results

* `outside_meshOnRecvPacket` — what the mesh touches outside a packet
* `receive_stays_inside`
-/

namespace Meshcore

/-- Nothing outside a packet is touched. -/
def Inside (_ : Ctx) (w w' : World) : Prop := w'.outside = w.outside

instance : Composes Inside where
  refl _ _ := rfl
  trans _ _ _ _ h h' := Eq.trans h' h

instance (priority := low) Moves.insideOfKeepsCorrelation {α : Type} (m : M α)
    [hm : Moves KeepsCorrelation m] :
    Moves Inside m :=
  ⟨fun ctx w => (hm.moves ctx w).2.2.2.2.1⟩

/-! ### Answers -/

instance (e : Event) : Moves Inside (emit e) := ⟨fun _ _ => rfl⟩

instance (f : Correlation → Correlation) : Moves Inside (modifyCorrelation f) := ⟨fun _ _ => rfl⟩

instance (ackCrc : UInt32) : Moves Inside (expectedAckHandle ackCrc) := by
  unfold expectedAckHandle; infer_instance

instance (key : Buf publicKeySize) (packet : Packet) (path : List UInt8)
    (pathLenField extraType : UInt8) (extra : List UInt8) :
    Moves Inside (pendingDiscoveryHandle key packet path pathLenField extraType extra) := by
  unfold pendingDiscoveryHandle; infer_instance

instance (tag : UInt32) (flags : UInt8) (snrs : Buf maxPathLen) (snrCount hashBytes : UInt8)
    (snr : Int8) : Moves Inside (pendingTraceHandle tag flags snrs snrCount hashBytes snr) := by
  unfold pendingTraceHandle; infer_instance

instance (key : Buf publicKeySize) (timestamp : UInt32) (payload : List UInt8) :
    Moves Inside (pendingTelemetryHandle key timestamp payload) := by
  unfold pendingTelemetryHandle; infer_instance

instance (key : Buf publicKeySize) (timestamp : UInt32) (payload : List UInt8) :
    Moves Inside (pendingBinaryHandle key timestamp payload) := by
  unfold pendingBinaryHandle; infer_instance

instance (sender : PeerIdentity) (payload : List UInt8) :
    Moves Inside (onPeerResponse sender payload) := by
  unfold onPeerResponse; infer_instance

instance (packet : Packet) (type : UInt8) (sender : PeerIdentity) (secret : Buf publicKeySize)
    (data : List UInt8) :
    Moves Inside (onPeerDataRecvInternal packet type sender secret data) := by
  unfold onPeerDataRecvInternal; infer_instance

instance (fallback : Event) (handler : M Unit) [Moves Inside handler] :
    Moves Inside (whenInitialized fallback handler) := by
  unfold whenInitialized; infer_instance

instance (packet : Packet) (type : UInt8) (sender : PeerIdentity) (secret : Buf publicKeySize)
    (data : List UInt8) : Moves Inside (onPeerDataRecv packet type sender secret data) := by
  unfold onPeerDataRecv; infer_instance

instance (packet : Packet) (ackCrc : UInt32) : Moves Inside (onAckRecv packet ackCrc) := by
  unfold onAckRecv; infer_instance

set_option synthInstance.maxSize 10000 in
instance (packet : Packet) (sender : PeerIdentity) (secret : Buf publicKeySize)
    (path : List UInt8) (pathLen extraType : UInt8) (extra : List UInt8) :
    Moves Inside (onPeerPathRecv packet sender secret path pathLen extraType extra) := by
  unfold onPeerPathRecv; infer_instance

instance (packet : Packet) (tag authCode : UInt32) (flags : UInt8) (snrs : Buf maxPathLen)
    (hashes : List UInt8) :
    Moves Inside (onTraceRecv packet tag authCode flags snrs hashes) := by
  unfold onTraceRecv; infer_instance

/-! ### Accesses -/

theorem access_inside {inside : Prop} [Decidable inside] (h : inside) :
    Moves Inside (access inside) := by
  refine ⟨fun ctx w => ?_⟩
  rw [access_of h]
  exact Composes.refl ctx w

theorem payloadRead_inside {packet : Packet} {i n : ℕ} (h : i + n ≤ packet.payloadLen) :
    Moves Inside (payloadRead packet i n) := by
  have := access_inside h
  unfold payloadRead
  infer_instance

theorem payloadByte_inside {packet : Packet} {i : ℕ} (h : i < packet.payloadLen) :
    Moves Inside (payloadByte packet i) := by
  have := access_inside h
  unfold payloadByte
  infer_instance

theorem pathRead_inside {packet : Packet} {i n : ℕ} (h : i + n ≤ packet.getPathByteLen.toNat) :
    Moves Inside (pathRead packet i n) := by
  have := access_inside h
  unfold pathRead
  infer_instance

/-- The path of a packet fits in its array. -/
class PathFits (packet : Packet) : Prop where
  pathByteLen_le : packet.getPathByteLen.toNat ≤ maxPathLen

instance (packet : Packet) [hfits : PathFits packet] : PathFits packet.markDoNotRetransmit :=
  ⟨hfits.pathByteLen_le⟩

instance (packet : Packet) [hfits : PathFits packet] : PathFits (multipartInner packet) where
  pathByteLen_le := by
    have hfield : (multipartInner packet).pathLenField = packet.pathLenField :=
      UInt8.toUInt8_toUInt16 _
    have h := hfits.pathByteLen_le
    rw [Packet.toNat_getPathByteLen] at h ⊢
    rwa [hfield]

/-- What is left when the first hash of a path goes. -/
theorem toNat_pathHashCount_sub_one {packet : Packet} (hcount : packet.getPathHashCount ≠ 0) :
    (packet.setPathHashCount (packet.getPathHashCount - 1)).getPathHashCount.toNat + 1
      = packet.getPathHashCount.toNat := by
  have hpos : packet.getPathHashCount.toNat ≠ 0 := fun h => hcount (UInt8.toNat_inj.mp h)
  have hlt := packet.toNat_getPathHashCount_lt
  have hle : (1 : UInt8) ≤ packet.getPathHashCount :=
    UInt8.le_iff_toNat_le.mpr (Nat.one_le_iff_ne_zero.mpr hpos)
  rw [Packet.toNat_getPathHashCount_setPathHashCount, UInt8.toNat_sub_of_le _ _ hle,
    show (1 : UInt8).toNat = 1 from rfl]
  omega

/-- Entry after entry moves down, up to the end of the path. -/
theorem shiftPath_inside {received : Packet} {sz n k : ℕ} (path : Buf maxPathLen)
    (hend : k + n * sz + sz ≤ received.getPathByteLen.toNat) [hfits : PathFits received] :
    Moves Inside (shiftPath received sz n k path) := by
  induction n generalizing k path with
  | zero =>
    unfold shiftPath
    infer_instance
  | succ n ih =>
    rw [Nat.succ_mul] at hend
    have hread := access_inside (show k + sz + sz ≤ received.getPathByteLen.toNat by omega)
    have hwrite := access_inside
      (show k + sz ≤ maxPathLen from le_trans (by omega) hfits.pathByteLen_le)
    have hrest : Moves Inside (shiftPath received sz n (k + sz)
        (path.store k (path.slice (k + sz) sz))) := ih _ (by omega)
    unfold shiftPath
    infer_instance

instance (packet : Packet) [PathFits packet] :
    Moves Inside (meshRemoveSelfFromPath packet) := by
  unfold meshRemoveSelfFromPath
  dsimp only
  split
  · infer_instance
  · rename_i hcount
    have hshift := fun path => @shiftPath_inside packet packet.getPathHashSize.toNat
      (packet.setPathHashCount (packet.getPathHashCount - 1)).getPathHashCount.toNat 0 path
      (by
        rw [packet.toNat_getPathByteLen_eq_mul, ← toNat_pathHashCount_sub_one hcount,
          Nat.succ_mul, Nat.zero_add]) _
    rw [Packet.getPathHashSize_setPathHashCount]
    infer_instance

/-- The path is no longer than before. -/
instance (packet : Packet) [hfits : PathFits packet] :
    Returns PathFits (meshRemoveSelfFromPath packet) where
  returns ctx w := by
    rw [meshRemoveSelfFromPath]
    dsimp only
    split
    · exact hfits
    · rename_i hcount
      refine ⟨le_trans ?_ hfits.pathByteLen_le⟩
      show (packet.setPathHashCount (packet.getPathHashCount - 1)).getPathByteLen.toNat ≤ _
      rw [Packet.toNat_getPathByteLen_eq_mul, Packet.toNat_getPathByteLen_eq_mul,
        Packet.getPathHashSize_setPathHashCount, ← toNat_pathHashCount_sub_one hcount]
      exact Nat.mul_le_mul_right _ (Nat.le_succ _)

instance (packet : Packet) : Moves Inside (meshRouteRecvPacket packet) := by
  unfold meshRouteRecvPacket
  dsimp only
  split
  · rename_i hcond
    have hwrite := access_inside (show packet.getPathHashCount.toNat * packet.getPathHashSize.toNat
      + packet.getPathHashSize.toNat ≤ maxPathLen by rw [← Nat.succ_mul]; exact hcond.2.2)
    infer_instance
  · infer_instance

instance (packet : Packet) (id : PacketId) (delayMillis : UInt32) [hfits : PathFits packet] :
    Moves Inside (sendAckAlong packet id delayMillis) := by
  have := access_inside hfits.pathByteLen_le
  unfold sendAckAlong
  infer_instance

theorem routeExtraAcks_inside (packet : Packet) (n : ℕ) (delayMillis : UInt32)
    [PathFits packet] : Moves Inside (routeExtraAcks packet n delayMillis) := by
  induction n generalizing delayMillis with
  | zero => unfold routeExtraAcks; infer_instance
  | succ n ih => unfold routeExtraAcks; infer_instance

attribute [instance] routeExtraAcks_inside

instance (packet : Packet) (delayMillis : UInt32) [PathFits packet] :
    Moves Inside (meshRouteDirectRecvAcks packet delayMillis) := by
  unfold meshRouteDirectRecvAcks; infer_instance

instance (packet : { packet : Packet // PathFits packet }) : PathFits packet.val := packet.property

/-- What comes after the removal works on a path that fits. -/
instance removed_bind {α : Type} (packet : Packet) [PathFits packet] (f : Packet → M α)
    [hf : ∀ packet : { packet : Packet // PathFits packet }, Moves Inside (f packet.val)] :
    Moves Inside (meshRemoveSelfFromPath packet >>= f) :=
  .bind_of_returns (P := PathFits) fun packet hfits => hf ⟨packet, hfits⟩

/-! ### Each payload type -/

theorem le_payloadLen_of_multipartIsAck {packet : Packet} {first : UInt8}
    (hack : multipartIsAck packet first = true) : 5 ≤ packet.payloadLen := by
  simp only [multipartIsAck, Bool.and_eq_true, decide_eq_true_eq] at hack
  exact hack.2

/-- The acknowledgement in a multipart packet. -/
theorem accessInner_inside {packet : Packet} {first : UInt8}
    (hack : multipartIsAck packet first = true) [hfits : PathFits packet] :
    Moves Inside (accessInner packet) := by
  have hlen := le_payloadLen_of_multipartIsAck hack
  have hpath := access_inside hfits.pathByteLen_le
  have hpayload := access_inside
    (show 1 + (packet.payloadLen - 1) ≤ packet.payloadLen by omega)
  unfold accessInner
  infer_instance

section

variable (packet : Packet)

instance [PathFits packet] : Moves Inside (meshForwardMultipartDirect packet) := by
  unfold meshForwardMultipartDirect
  split
  · infer_instance
  · have hfirst : Moves Inside (payloadByte packet 0) := payloadByte_inside (by omega)
    refine @Moves.bind _ _ _ _ _ _ _ _ inferInstance fun first => ?_
    split
    · rename_i hack
      have hinner := accessInner_inside hack
      dsimp only
      infer_instance
    · infer_instance

set_option synthInstance.maxSize 10000 in
/-- A packet with hops to go has a first hash. -/
theorem onRecvDirectHop_inside (hcount : packet.getPathHashCount ≠ 0) [PathFits packet] :
    Moves Inside (onRecvDirectHop packet) := by
  have hhash : Moves Inside (pathRead packet 0 packet.getPathHashSize.toNat) := by
    refine pathRead_inside ?_
    rw [packet.toNat_getPathByteLen_eq_mul, ← toNat_pathHashCount_sub_one hcount, Nat.succ_mul]
    omega
  have hack :
      Moves Inside (if packet.getPayloadType = payloadTypeAck ∧ packet.payloadLen ≥ 4 then do
      let ackCrc ← payloadRead packet 0 4
      onAckRecv packet (wordAt ackCrc)
    else pure ()) := by
    split
    · rename_i hlen
      have hcrc : Moves Inside (payloadRead packet 0 4) := payloadRead_inside (by omega)
      infer_instance
    · infer_instance
  unfold onRecvDirectHop
  infer_instance

instance : Moves Inside (onRecvAck packet) := by
  unfold onRecvAck
  split
  · infer_instance
  · have hack : Moves Inside (payloadRead packet 0 4) := payloadRead_inside (by omega)
    infer_instance

set_option synthInstance.maxSize 10000 in
instance (srcHash : UInt8) (sender : PeerIdentity) (secret : Buf publicKeySize) (r : PathReturn) :
    Moves Inside (onRecvPath packet srcHash sender secret r) := by
  have hpath : Moves Inside (pathRead packet 0 packet.getPathByteLen.toNat) :=
    pathRead_inside (Nat.zero_add _).le
  unfold onRecvPath
  infer_instance

instance (srcHash : UInt8) (macAndData : List UInt8) (n cursor : ℕ) :
    Moves Inside (tryPeers packet srcHash macAndData n cursor) := by
  induction n generalizing cursor with
  | zero => unfold tryPeers; infer_instance
  | succ n ih => unfold tryPeers; infer_instance

instance : Moves Inside (onRecvPeer packet) := by
  unfold onRecvPeer
  split
  · infer_instance
  · have hdest : Moves Inside (payloadByte packet 0) := payloadByte_inside (by omega)
    have hsrc : Moves Inside (payloadByte packet 1) := payloadByte_inside (by omega)
    have hdata : Moves Inside (payloadRead packet 2 (packet.payloadLen - 2)) :=
      payloadRead_inside (by omega)
    infer_instance

set_option synthInstance.maxSize 10000 in
instance : Moves Inside (onRecvAnon packet) := by
  unfold onRecvAnon
  split
  · infer_instance
  · rename_i hlen
    have hlen : 33 ≤ packet.payloadLen := Nat.not_lt.mp hlen
    have hdest : Moves Inside (payloadByte packet 0) := payloadByte_inside (by omega)
    have hkey : Moves Inside (payloadRead packet 1 publicKeySize) :=
      payloadRead_inside (by show 1 + 32 ≤ _; omega)
    have hdata : Moves Inside (payloadRead packet (1 + publicKeySize)
        (packet.payloadLen - (1 + publicKeySize))) :=
      payloadRead_inside (by show 33 + (_ - 33) ≤ _; omega)
    infer_instance

instance (macAndData : List UInt8) (channels : List GroupChannel) :
    Moves Inside (tryChannels packet macAndData channels) := by
  induction channels with
  | nil => unfold tryChannels; infer_instance
  | cons channel channels ih => unfold tryChannels; infer_instance

instance : Moves Inside (onRecvGroup packet) := by
  unfold onRecvGroup
  split
  · infer_instance
  · have hhash : Moves Inside (payloadByte packet 0) := payloadByte_inside (by omega)
    have hdata : Moves Inside (payloadRead packet 1 (packet.payloadLen - 1)) :=
      payloadRead_inside (by omega)
    infer_instance

set_option synthInstance.maxSize 10000 in
instance : Moves Inside (onRecvAdvert packet) := by
  unfold onRecvAdvert
  dsimp only
  split
  · infer_instance
  · rename_i hlen
    have hlen : 100 ≤ packet.payloadLen := Nat.not_lt.mp hlen
    have hkey : Moves Inside (payloadRead packet 0 publicKeySize) :=
      payloadRead_inside (by show 0 + 32 ≤ _; omega)
    have htimestamp : Moves Inside (payloadRead packet publicKeySize 4) :=
      payloadRead_inside (by show 32 + 4 ≤ _; omega)
    have hsignature : Moves Inside (payloadRead packet (publicKeySize + 4) 64) :=
      payloadRead_inside (by show 32 + 4 + 64 ≤ _; omega)
    have hdata : Moves Inside (payloadRead packet (publicKeySize + 4 + 64)
        (min (packet.payloadLen - (publicKeySize + 4 + 64)) meshMaxAdvertDataSize)) :=
      payloadRead_inside (by show 100 + min (_ - 100) _ ≤ _; omega)
    infer_instance

instance : Moves Inside (onRecvRawCustom packet) := by
  unfold onRecvRawCustom; infer_instance

instance [PathFits packet] : Moves Inside (onRecvMultipart packet) := by
  unfold onRecvMultipart
  split
  · have hfirst : Moves Inside (payloadByte packet 0) := payloadByte_inside (by omega)
    refine @Moves.bind _ _ _ _ _ _ _ _ inferInstance fun first => ?_
    split
    · rename_i hack
      have hinner := accessInner_inside hack
      have hlen := le_payloadLen_of_multipartIsAck hack
      have hcrc : Moves Inside (payloadRead (multipartInner packet) 0 4) :=
        payloadRead_inside (by show 4 ≤ packet.payloadLen - 1; omega)
      dsimp only
      infer_instance
    · infer_instance
  · infer_instance

instance [PathFits packet] : Moves Inside (onRecvPayload packet) := by
  unfold onRecvPayload; infer_instance

instance [PathFits packet] : Moves Inside (onRecvRouted packet) := by
  unfold onRecvRouted
  split
  · rename_i hcond
    exact onRecvDirectHop_inside packet fun hzero => absurd (hzero ▸ hcond.2) (by decide)
  · infer_instance

end

/-! ### Traces -/

/-- A direct trace whose next hash starts in the payload and ends after it. -/
def TraceCut (packet : Packet) : Prop :=
  let pathSz := (packet.payload.get 8 &&& 0x03).toNat
  let len := packet.payloadLen - 9
  let offset := packet.pathLen.toNat * 2 ^ pathSz
  packet.isRouteDirect ∧ packet.getPayloadType = payloadTypeTrace ∧
    packet.pathLen.toNat < maxPathLen ∧ 9 ≤ packet.payloadLen ∧
    offset < len ∧ len < offset + 2 ^ pathSz

instance (packet : Packet) : Decidable (TraceCut packet) := by
  unfold TraceCut; infer_instance

set_option synthInstance.maxSize 10000 in
theorem forwardTrace_inside {packet : Packet} (hash : List UInt8) (hashSize : ℕ)
    (hlen : packet.pathLen.toNat < maxPathLen) :
    Moves Inside (forwardTrace packet hash hashSize) := by
  have hsnr := access_inside hlen
  unfold forwardTrace
  infer_instance

theorem outside_onRecvTrace {packet : Packet} (hdirect : packet.isRouteDirect = true)
    (htrace : packet.getPayloadType = payloadTypeTrace) (ctx : Ctx) (w : World) :
    (onRecvTrace packet ctx w).2.outside = (w.outside || decide (TraceCut packet)) := by
  rw [onRecvTrace]
  by_cases hcond : packet.pathLen.toNat < maxPathLen ∧ packet.payloadLen ≥ 9
  · obtain ⟨hpath, hlen⟩ := hcond
    have hread : ∀ i n, i + n ≤ 9 →
        payloadRead packet i n ctx w = (packet.payload.slice i n, w) := by
      intro i n h
      rw [payloadRead, Prog.run_bind, access_of (h.trans hlen), Prog.run_pure]
    have hflags : payloadByte packet 8 ctx w = (packet.payload.get 8, w) := by
      rw [payloadByte, Prog.run_bind, access_of (show 8 < packet.payloadLen from hlen),
        Prog.run_pure]
    rw [if_pos ⟨hpath, hlen⟩]
    simp only [Prog.run_bind, hread 0 4 (by decide), hread 4 4 (by decide), hflags, Prog.run_ite]
    split
    · rename_i hend
      have hno : ¬TraceCut packet := fun hcut => absurd hcut.2.2.2.2.1 (not_lt.mpr hend)
      rw [decide_eq_false hno, Bool.or_false]
      exact (inferInstance : Moves Inside (onTraceRecv packet _ _ _ _ _)).moves ctx w
    · rename_i hend
      have hforward := fun hash hashSize w =>
        (forwardTrace_inside hash hashSize hpath).moves ctx w
      simp only [Inside] at hforward
      have hcut : TraceCut packet ↔
          ¬9 + packet.pathLen.toNat * 2 ^ (packet.payload.get 8 &&& 3).toNat
            + 2 ^ (packet.payload.get 8 &&& 3).toNat ≤ packet.payloadLen := by
        simp only [TraceCut, hdirect, htrace, hpath, true_and, ge_iff_le] at hend ⊢
        omega
      rw [hforward, decide_eq_decide.mpr hcut, decide_not]
      rfl
  · have hno : ¬TraceCut packet := fun hcut => hcond ⟨hcut.2.2.1, hcut.2.2.2.1⟩
    rw [if_neg hcond, Prog.run_pure]
    simp [hno]

theorem outside_meshOnRecvPacket (packet : Packet) [PathFits packet] (ctx : Ctx) (w : World) :
    (meshOnRecvPacket packet ctx w).2.outside = (w.outside || decide (TraceCut packet)) := by
  simp only [meshOnRecvPacket]
  split
  · rename_i hcond
    exact outside_onRecvTrace hcond.1 hcond.2 ctx w
  · rename_i hcond
    have hno : ¬TraceCut packet := fun hcut => hcond ⟨hcut.1, hcut.2.1⟩
    have hinside : Moves Inside (if packet.isRouteDirect ∧
        packet.getPayloadType = payloadTypeControl ∧ packet.payloadLen > 0 then do
      let first ← payloadByte packet 0
      if first &&& 0x80 ≠ 0 then
        if packet.getPathHashCount = 0 then do
          onControlDataRecv packet
          pure (actionRelease, packet)
        else pure (actionRelease, packet)
      else onRecvRouted packet
    else onRecvRouted packet) := by
      split
      · rename_i hcontrol
        have hfirst : Moves Inside (payloadByte packet 0) := payloadByte_inside hcontrol.2.2
        infer_instance
      · infer_instance
    rw [decide_eq_false hno, Bool.or_false]
    exact hinside.moves ctx w

/-- The payload of a received packet is read below its length and its path below the path length,
and the path is written inside its array, if and only if no hash of a direct trace is cut off. -/
theorem receive_stays_inside {into packet : Packet} {raw : List UInt8}
    (hparse : tryParsePacket into raw = some (true, packet)) (ctx : Ctx) {w : World}
    (hinside : w.outside = false) :
    (meshOnRecvPacket packet ctx w).2.outside = false ↔ ¬TraceCut packet := by
  have hfits : PathFits packet := by
    obtain ⟨f, -, -, rfl⟩ := tryParsePacket_eq_true.mp hparse
    have hvalid := (f.onto_encodable into).validPathLen
    refine ⟨?_⟩
    rw [Packet.toNat_getPathByteLen]
    exact (isValidPathLen_iff.mp hvalid).2
  rw [outside_meshOnRecvPacket, hinside, Bool.false_or, decide_eq_false_iff_not]

/-- A direct trace with two-byte hashes, and the first of them cut off. -/
def cutTrace : List UInt8 := [0x26, 0, 1, 2, 3, 4, 5, 6, 7, 8, 1, 0xAA]

theorem receive_reads_outside :
    cutTrace.length ≤ 255 ∧
      (∃ packet, tryParsePacket Packet.init cutTrace = some (true, packet) ∧
        (meshOnRecvPacket packet .silent .boot).2.outside = true) ∧
      (runOps .silent .boot [.init, .radioRxInject (some cutTrace) 0 0 5]).outside = true :=
  ⟨by decide, ⟨_, rfl, by decide +kernel⟩, by decide +kernel⟩

/-- The same trace with its first hash. -/
theorem receive_stays_inside_whole :
    let raw := cutTrace ++ [0xBB]
    (meshOnRecvPacket ((tryParsePacket Packet.init raw).getD (false, Packet.init)).2 .silent
      .boot).2.outside = false :=
  (@receive_stays_inside Packet.init _ (cutTrace ++ [0xBB]) (by decide +kernel) .silent _ rfl).mpr
    (by decide +kernel)

end Meshcore
