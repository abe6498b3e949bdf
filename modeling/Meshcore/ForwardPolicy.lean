import Meshcore.Hearing

/-!
# The forwarding policy of a repeater

`meshcore_runtime_protocol_allow_packet_forward` for floods, on a node that is a repeater. The
policy says how many hops a flood may have made and how often it may have passed this node before.
The loop detector steps through the path by whole entries and compares the hash in each with this
node's own.

## Main definitions

* `Packet.pathEntries`, `Packet.timesOnPath` — the entries of a path, and how many are this node's
* `RuntimePolicy.Forwards` — what the policy allows
* `scanSelf` — the scan of the loop detector, with checked reads of the path bytes

## Main results

* `toNat_countSelf_range` — what the scan counts
* `allowPacketForward_repeater` — a repeater forwards what its policy allows
-/

namespace Meshcore

/-! ### The rule -/

/-- The entries of a path, each of the full width. -/
def Packet.pathEntries (packet : Packet) : List (List UInt8) :=
  (List.range packet.getPathHashCount.toNat).map fun i =>
    (packet.pathBytes.drop (i * packet.getPathHashSize.toNat)).take packet.getPathHashSize.toNat

/-- How many bytes of an entry are a hash. With the SNR flag the last one is not. -/
def Packet.hashWidth (packet : Packet) : ℕ :=
  if packet.hasSnrFlag then packet.getPathHashSize.toNat - 1 else packet.getPathHashSize.toNat

/-- How many entries of the path are the hash of `identity`. -/
def Packet.timesOnPath (packet : Packet) (identity : Identity) : ℕ :=
  packet.pathEntries.countP fun entry =>
    entry.take packet.hashWidth == identity.slice 0 packet.hashWidth

/-- How often a node may be on the path, in a mode that detects loops. -/
def loopLimit : LoopDetect → (hashWidth : ℕ) → ℕ
  | .minimal, 1 => 4
  | .minimal, 2 => 2
  | .moderate, 1 => 2
  | _, _ => 1

/-- What the policy allows a node with this identity. No entry of one byte is a hash when it is an
SNR. -/
def RuntimePolicy.Forwards (policy : RuntimePolicy) (identity : Identity)
    (packet : Packet) : Prop :=
  policy.disableFwd = false ∧ packet.getPathHashCount < policy.floodMax ∧
    (policy.loopDetect = .off ∨ packet.hasSnrFlag = true ∧ packet.getPathHashSize = 1 ∨
      packet.timesOnPath identity < loopLimit policy.loopDetect packet.hashWidth)

instance (policy : RuntimePolicy) (identity : Identity) (packet : Packet) :
    Decidable (policy.Forwards identity packet) := inferInstanceAs (Decidable (_ ∧ _ ∧ _))

/-! ### The scan -/

/-- The loop of `meshcore_runtime_packet_is_looped` over the path bytes: `none` is a read behind
them. -/
def scanSelf (identity : Identity) (path : List UInt8) (stride hashSize : ℕ) :
    ℕ → (off : ℕ) → Option UInt8
  | 0, _ => some 0
  | hashCount + 1, off => do
    let hash ← sliceAt path off hashSize
    let selfCount ← scanSelf identity path stride hashSize hashCount (off + stride)
    pure ((if identityIsHashMatchByLen identity hash hashSize then 1 else 0) + selfCount)

section

variable {identity : Identity} {path : Buf maxPathLen} {packet : Packet} {stride hashSize n off : ℕ}

/-- The scan stays inside bytes that hold all its entries. -/
theorem scanSelf_eq {len : ℕ} (hlen : len ≤ maxPathLen) (hsize : hashSize ≤ stride)
    (h : off + n * stride ≤ len) :
    scanSelf identity (path.slice 0 len) stride hashSize n off
      = some (countSelf identity path stride hashSize n off) := by
  induction n generalizing off with
  | zero => rfl
  | succ n ih =>
    rw [Nat.succ_mul] at h
    have hread : sliceAt (path.slice 0 len) off hashSize = some (path.slice off hashSize) := by
      rw [sliceAt_of_le (by rw [Buf.length_slice_of_le _ (by omega)]; omega), Buf.drop_slice,
        Buf.take_slice, Nat.zero_add, Nat.min_eq_left (by omega)]
    rw [scanSelf, hread, Option.bind_eq_bind, Option.bind_some, ih (by omega)]
    rfl

/-- The scan counts the entries whose first bytes are the hash. -/
theorem toNat_countSelf_range (hsize : hashSize ≤ publicKeySize) (hn : n < 256) :
    (countSelf identity path stride hashSize n off).toNat
      = (List.range n).countP fun i =>
          path.slice (off + i * stride) hashSize == identity.slice 0 hashSize := by
  induction n generalizing off with
  | zero => rfl
  | succ n ih =>
    have hshift : ∀ i, off + (i + 1) * stride = off + stride + i * stride := by
      intro i
      rw [Nat.succ_mul]
      omega
    have hmatch : identityIsHashMatchByLen identity (path.slice off hashSize) hashSize
        = (path.slice off hashSize == identity.slice 0 hashSize) := by
      rw [identityIsHashMatchByLen, if_neg (not_lt.mpr hsize), Buf.take_slice, min_self]
    have hrest := @ih (off + stride) (Nat.lt_of_succ_lt hn)
    have hle := List.countP_le_length (l := List.range n)
      (p := fun i => path.slice (off + stride + i * stride) hashSize == identity.slice 0 hashSize)
    rw [List.length_range] at hle
    rw [countSelf, hmatch, UInt8.toNat_add, hrest, List.range_succ_eq_map, List.countP_cons,
      List.countP_map]
    simp only [Function.comp_def, hshift, Nat.zero_mul, Nat.add_zero]
    split
    · rw [show (1 : UInt8).toNat = 1 from rfl, Nat.mod_eq_of_lt (by omega), Nat.add_comm]
    · rw [show (0 : UInt8).toNat = 0 from rfl, Nat.mod_eq_of_lt (by omega), Nat.add_comm]

/-- The scan finds the entries of the path. -/
theorem toNat_countSelf_path (hvalid : isValidPathLen packet.pathLenField = true) :
    (countSelf identity packet.path packet.getPathHashSize.toNat packet.hashWidth
      packet.getPathHashCount.toNat 0).toNat = packet.timesOnPath identity := by
  have hlen := (isValidPathLen_iff.mp hvalid).2
  rw [← Packet.toNat_getPathByteLen] at hlen
  have hsmall : packet.getPathHashSize.toNat ≤ 4 := by
    have hbyte := packet.pathLenField.toNat_lt
    rw [Packet.getPathHashSize, toNat_hashSizeOf]
    omega
  have hwidth : packet.hashWidth ≤ packet.getPathHashSize.toNat := by
    rw [Packet.hashWidth]
    split <;> omega
  have hcount := packet.toNat_getPathHashCount_lt
  have hkey : packet.hashWidth ≤ publicKeySize := by
    show packet.hashWidth ≤ 32
    omega
  rw [toNat_countSelf_range hkey (by omega), Packet.timesOnPath, Packet.pathEntries,
    List.countP_map]
  refine List.countP_congr fun i hi => ?_
  have hentry : i * packet.getPathHashSize.toNat + packet.getPathHashSize.toNat
      ≤ packet.getPathByteLen.toNat := by
    rw [Packet.toNat_getPathByteLen_eq_mul, ← Nat.succ_mul]
    exact Nat.mul_le_mul_right _ (List.mem_range.mp hi)
  have htake : ((packet.pathBytes.drop (i * packet.getPathHashSize.toNat)).take
      packet.getPathHashSize.toNat).take packet.hashWidth
        = packet.path.slice (i * packet.getPathHashSize.toNat) packet.hashWidth := by
    rw [Packet.pathBytes, Buf.drop_slice, Buf.take_slice, Buf.take_slice, Nat.zero_add,
      Nat.min_eq_left (by omega)]
  rw [Function.comp_apply, htake, Nat.zero_add]

/-- The tables have the limits. -/
theorem toNat_loopDetectMaximums {mode : LoopDetect} {hashWidth : ℕ} (h0 : hashWidth ≠ 0)
    (h3 : hashWidth ≤ 3) (hmode : mode ≠ .off) :
    ((loopDetectMaximums mode).getD hashWidth 0).toNat = loopLimit mode hashWidth := by
  have hcases : hashWidth = 1 ∨ hashWidth = 2 ∨ hashWidth = 3 := by omega
  cases mode with
  | off => exact absurd rfl hmode
  | minimal | moderate | strict => rcases hcases with rfl | rfl | rfl <;> rfl

variable {ctx : Ctx} {w : World} {self : NodeIdentity}

/-- The loop detector of a node that knows its identity. -/
theorem packetIsLooped_run {mode : LoopDetect} (hself : (ctx.hooks w.tick).Is self)
    (hvalid : isValidPathLen packet.pathLenField = true) (hmode : mode ≠ .off) :
    (packetIsLooped packet (loopDetectMaximums mode) ctx w).1 = true ↔
      ¬(packet.hasSnrFlag = true ∧ packet.getPathHashSize = 1) ∧
        loopLimit mode packet.hashWidth ≤ packet.timesOnPath self.publicKey := by
  have hrc : (ctx.hooks w.tick).nodeIdentity.1 = 0 := congrArg Prod.fst hself
  have hkey : (ctx.hooks w.tick).nodeIdentity.2 = self := congrArg Prod.snd hself
  have hfour := (isValidPathLen_iff.mp hvalid).1
  have hbyte := packet.pathLenField.toNat_lt
  have hsize : packet.getPathHashSize.toNat = packet.pathLenField.toNat / 64 + 1 :=
    toNat_hashSizeOf _
  have hone : packet.getPathHashSize = 1 ↔ packet.getPathHashSize.toNat = 1 :=
    UInt8.toNat_inj.symm
  have htwo : packet.getPathHashSize < 2 ↔ packet.getPathHashSize.toNat < 2 :=
    UInt8.lt_iff_toNat_lt
  have hthree : ∀ x : UInt8, x > 3 ↔ x.toNat > 3 := fun x => UInt8.lt_iff_toNat_lt
  have hzero : ∀ x : UInt8, x = 0 ↔ x.toNat = 0 := fun x => UInt8.toNat_inj.symm
  have hwidth : (if packet.hasSnrFlag then packet.getPathHashSize - 1
      else packet.getPathHashSize).toNat = packet.hashWidth := by
    have hle : (1 : UInt8) ≤ packet.getPathHashSize := by
      rw [UInt8.le_iff_toNat_le, hsize]
      exact Nat.le_add_left ..
    rw [Packet.hashWidth]
    split
    · exact UInt8.toNat_sub_of_le _ _ hle
    · rfl
  rw [packetIsLooped, Prog.run_bind, syncLocalIdentity_run hrc, hkey, Prog.run_bind, Prog.run_gets]
  simp only [Prog.run_pure, ne_eq, not_true_eq_false, if_false]
  split
  · rename_i hshort
    refine iff_of_false Bool.false_ne_true fun h => h.1 ⟨hshort.1, hone.mpr ?_⟩
    have := htwo.mp hshort.2
    omega
  · rename_i hlong
    have hopen : ¬(packet.hasSnrFlag = true ∧ packet.getPathHashSize = 1) := by
      rintro ⟨hflag, hsize1⟩
      exact hlong ⟨hflag, htwo.mpr (by rw [hone.mp hsize1]; decide)⟩
    have hw : packet.hashWidth ≠ 0 ∧ packet.hashWidth ≤ 3 := by
      rw [hone] at hopen
      by_cases hflag : packet.hasSnrFlag = true
      · have hval : packet.hashWidth = packet.getPathHashSize.toNat - 1 := if_pos hflag
        have hmore : packet.getPathHashSize.toNat ≠ 1 := fun h => hopen ⟨hflag, h⟩
        omega
      · have hval : packet.hashWidth = packet.getPathHashSize.toNat := if_neg hflag
        omega
    rw [if_neg (by rw [hzero, hzero, hthree, hthree, hwidth]; omega), hwidth, decide_eq_true_iff,
      ge_iff_le, UInt8.le_iff_toNat_le, toNat_countSelf_path hvalid,
      toNat_loopDetectMaximums hw.1 hw.2 hmode]
    exact (and_iff_right hopen).symm

/-- **The forwarding policy.** A repeater forwards a flood when forwarding is not disabled, the
flood has not come too far, and, where loops are detected, this node is not on its path too often.
The scan for loops stays inside the path bytes. -/
theorem allowPacketForward_repeater {policy : RuntimePolicy}
    (hpolicy : (ctx.hooks w.tick).nodeRuntimePolicy = some policy)
    (hrole : (ctx.hooks (w.tick + 1)).HasRole .repeater) (hself : (ctx.hooks (w.tick + 2)).Is self)
    (hflood : packet.isRouteFlood = true) (hvalid : isValidPathLen packet.pathLenField = true) :
    ((allowPacketForward packet ctx w).1 = true ↔ policy.Forwards self.publicKey packet) ∧
      scanSelf self.publicKey packet.pathBytes packet.getPathHashSize.toNat packet.hashWidth
          packet.getPathHashCount.toNat 0
        = some (countSelf self.publicKey packet.path packet.getPathHashSize.toNat packet.hashWidth
            packet.getPathHashCount.toNat 0) := by
  constructor
  · have hasked : hook Hooks.nodeRuntimePolicy ctx w
        = (some policy, { w with tick := w.tick + 1 }) := by
      rw [← hpolicy]
      rfl
    have hrepeater := hrole.localRoleIs_run (w := { w with tick := w.tick + 1 })
    rw [allowPacketForward, Prog.run_bind_of hasked, Option.elim_some, Prog.run_bind_of hrepeater,
      if_pos rfl, RuntimePolicy.Forwards]
    cases hdisable : policy.disableFwd with
    | true => exact iff_of_false Bool.false_ne_true fun h => Bool.false_ne_true h.1.symm
    | false =>
      rw [if_neg Bool.false_ne_true, if_pos hflood]
      by_cases hfar : packet.getPathHashCount ≥ policy.floodMax
      · rw [if_pos hfar]
        exact iff_of_false Bool.false_ne_true fun h => absurd hfar (UInt8.not_le.mpr h.2.1)
      · have hnear : packet.getPathHashCount < policy.floodMax := UInt8.not_le.mp hfar
        rw [if_neg hfar]
        by_cases hoff : policy.loopDetect = .off
        · rw [if_pos hoff]
          exact iff_of_true rfl ⟨rfl, hnear, .inl hoff⟩
        · have hlooped := packetIsLooped_run (w := { w with tick := w.tick + 2 }) hself hvalid hoff
          rw [if_neg hoff, Prog.run_map, Bool.not_eq_true', ← Bool.not_eq_true, hlooped,
            not_and_or, not_not, not_le]
          exact ⟨fun h => ⟨rfl, hnear, .inr h⟩, fun h => h.2.2.resolve_left hoff⟩
  · refine scanSelf_eq ?_ ?_ ?_
    · rw [Packet.toNat_getPathByteLen]
      exact (isValidPathLen_iff.mp hvalid).2
    · rw [Packet.hashWidth]
      split <;> omega
    · rw [Nat.zero_add, Packet.toNat_getPathByteLen_eq_mul]

end

/-- A repeater whose key starts with the bytes 1 and 2, and that detects loops strictly. -/
def NodeIdentity.repeater : NodeIdentity :=
  { Hooks.silent.nodeIdentity.2 with role := .repeater, publicKey := (Buf.zero _).store 0 [1, 2] }

def RuntimePolicy.strict : RuntimePolicy where
  pathHashSize := 3
  loopDetect := .strict
  clientRepeat := false
  disableFwd := false
  floodMax := 8
  txDelayFactor := 0
  directTxDelayFactor := 0

def Ctx.detecting : Ctx :=
  { Ctx.silent with
    hooks := fun _ =>
      { Hooks.silent with nodeIdentity := (0, .repeater), nodeRuntimePolicy := some .strict } }

/-- A flood with SNRs that made these hops. -/
def snrFloodAlong (hops : List UInt8) : Packet :=
  { Packet.init with
    transportCodes := (snrTransportCode0, snrTransportCode1)
    pathLen := UInt16.ofNat (128 + hops.length / 3)
    path := (Buf.zero _).store 0 hops }

/-- That repeater forwards the flood of others and drops the one that it was on already, whatever
the SNR. -/
theorem allowPacketForward_repeater_snr :
    (allowPacketForward (snrFloodAlong [1, 3, 2, 2, 1, 2]) .detecting .boot).1 = true ∧
      (allowPacketForward (snrFloodAlong [1, 3, 2, 1, 2, 9]) .detecting .boot).1 ≠ true := by
  have hrole : (Ctx.detecting.hooks 1).HasRole .repeater := ⟨.repeater, rfl, rfl⟩
  constructor
  · exact (@allowPacketForward_repeater (snrFloodAlong [1, 3, 2, 2, 1, 2]) .detecting
      .boot .repeater .strict rfl hrole rfl (by decide) (by decide)).1.mpr (by decide +kernel)
  · exact mt (@allowPacketForward_repeater (snrFloodAlong [1, 3, 2, 1, 2, 9]) .detecting
      .boot .repeater .strict rfl hrole rfl (by decide) (by decide)).1.mp (by decide +kernel)

end Meshcore
