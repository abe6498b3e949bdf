import Meshcore.AdvertData
import Meshcore.Identity

/-!
# Local identity and forwarding policy

`runtime/meshcore_runtime_policy.c`, and the helpers of `runtime/meshcore.c` that read the local
identity, the policy and a peer's path from the host.

## Main definitions

* `pathLenDecode`, `pathLenEncode` — the packed path length, between the host and the wire
* `peerPathGet` — a peer's stored path, in wire form
* `allowPacketForward`, `getRetransmitDelay`, `getDirectRetransmitDelay` — what `runtime_ops` gives
  the mesh
-/

namespace Meshcore

/-! ### Path lengths -/

/-- `meshcore_runtime_path_len_decode`: the path bytes and the hash size. -/
def pathLenDecode (pathLenField : UInt8) : Option (ℕ × UInt8) :=
  let pathHashSize := (pathLenField >>> 6) + 1
  let hopCount := pathLenField &&& 0x3F
  if pathHashSize = 4 then none
  else
    let pathBytes := pathHashSize.toNat * hopCount.toNat
    if pathBytes > maxPathLen then none else some (pathBytes, pathHashSize)

/-- The runtime's decoder takes the path lengths that a packet may have. -/
theorem pathLenDecode_eq_some {pathLen : UInt8} {decoded : ℕ × UInt8} :
    pathLenDecode pathLen = some decoded ↔ isValidPathLen pathLen = true ∧
      decoded = ((hashSizeOf pathLen).toNat * (hashCountOf pathLen).toNat, hashSizeOf pathLen) := by
  show (if hashSizeOf pathLen = 4 then none
    else if (hashSizeOf pathLen).toNat * (hashCountOf pathLen).toNat > maxPathLen then none
    else some ((hashSizeOf pathLen).toNat * (hashCountOf pathLen).toNat, hashSizeOf pathLen))
      = some decoded ↔ _
  rw [isValidPathLen, Nat.mul_comm (hashCountOf pathLen).toNat]
  generalize (hashSizeOf pathLen).toNat * (hashCountOf pathLen).toNat = pathBytes
  split
  · simp
  split
  · rename_i hlong
    simp [not_le.mpr hlong]
  · rename_i hfits
    simp [not_lt.mp hfits, eq_comm]

/-- `meshcore_runtime_path_len_encode`. -/
def pathLenEncode (pathHashSize pathByteLen : UInt8) : Option UInt8 :=
  if pathHashSize = 0 ∨ pathHashSize > 3 then none
  else if pathByteLen = 0 then some ((pathHashSize - 1) <<< 6)
  else if pathByteLen % pathHashSize ≠ 0 then none
  else
    let hopCount := pathByteLen / pathHashSize
    if hopCount > 63 then none else some (((pathHashSize - 1) <<< 6) ||| hopCount)

abbrev pathHashSizeDefault : UInt8 := 1

/-- `meshcore_runtime_normalize_path_hash_size`. -/
def normalizePathHashSize (pathHashSize : UInt8) : UInt8 :=
  if pathHashSize = 0 ∨ pathHashSize > 3 then pathHashSizeDefault else pathHashSize

/-- A path hash size that was normalised is one that the wire format can hold. -/
theorem normalizePathHashSize_mem (s : UInt8) :
    normalizePathHashSize s ≠ 0 ∧ normalizePathHashSize s ≤ 3 := by
  rw [normalizePathHashSize]
  split
  · decide
  · rename_i h
    rw [not_or, UInt8.not_lt] at h
    exact h

/-- `meshcore_runtime_local_path_hash_size_get`. -/
def localPathHashSizeGet : M UInt8 := do
  let policy ← hook Hooks.nodeRuntimePolicy
  pure (policy.elim pathHashSizeDefault fun p => normalizePathHashSize p.pathHashSize)

/-! ### The local identity -/

/-- `meshcore_runtime_sync_local_identity`. -/
def syncLocalIdentity : M ℤ := do
  let identity ← hook Hooks.nodeIdentity
  if identity.1 ≠ 0 then pure identity.1
  else do
    setSelfId ⟨identity.2.publicKey, identity.2.privateKey⟩
    pure 0

/-- `meshcore_runtime_local_identity_get`. -/
def localIdentityGet : M (Option NodeIdentity) := do
  let identity ← hook Hooks.nodeIdentity
  pure (if identity.1 = 0 then some identity.2 else none)

/-- `meshcore_runtime_local_role_is`. -/
def localRoleIs (role : Role) : M Bool := do
  let identity ← localIdentityGet
  pure (identity.any (·.role = role))

/-- `meshcore_runtime_peer_path_get`: the stored path and its wire path length. -/
def peerPathGet (publicKey : Buf publicKeySize) : M (Option (PeerPath × UInt8)) := do
  let path ← hook fun h => h.peerPathByKey publicKey
  pure <| path.bind fun path =>
    if path.outPathLen = 0 ∧ !path.isNeighbor then none
    else
      (pathLenEncode (normalizePathHashSize path.pathHashSize) path.outPathLen).map (path, ·)

theorem syncLocalIdentity_run {ctx : Ctx} {w : World}
    (h : (ctx.hooks w.tick).nodeIdentity.1 = 0) :
    syncLocalIdentity ctx w =
      (0, { w with
        selfId := ⟨(ctx.hooks w.tick).nodeIdentity.2.publicKey,
          (ctx.hooks w.tick).nodeIdentity.2.privateKey⟩
        tick := w.tick + 1 }) := by
  rw [syncLocalIdentity, Prog.run_bind]
  exact if_neg (not_not.mpr h) ▸ rfl

instance : Moves Asks localPathHashSizeGet := by unfold localPathHashSizeGet; infer_instance

instance : Moves Quiet syncLocalIdentity := by unfold syncLocalIdentity; infer_instance

instance : Moves Asks localIdentityGet := by unfold localIdentityGet; infer_instance

instance (role : Role) : Moves Asks (localRoleIs role) := by unfold localRoleIs; infer_instance

instance (key : Buf publicKeySize) : Moves Asks (peerPathGet key) := by
  unfold peerPathGet; infer_instance

/-! ### SNR records along a path -/

/-- `meshcore_runtime_extract_return_path_snrs`: the last byte of every path tuple. -/
def extractReturnPathSnrs (packet : Packet) : Option (List UInt8) :=
  if !packet.hasSnrFlag then none
  else
    let tupleSize := packet.getPathHashSize
    if tupleSize < 2 ∨ tupleSize = 4 then none
    else
      let hops := packet.getPathHashCount.toNat
      some ((List.range hops).map fun i =>
        packet.path.get (i * tupleSize.toNat + tupleSize.toNat - 1))

/-- `meshcore_runtime_append_snr_with_trunc`, for an array of `maxPathLen`. -/
def appendSnrWithTrunc (snrs : List UInt8) (snrQ4 : Int8) : List UInt8 :=
  if snrs.length ≥ maxPathLen then snrs else snrs ++ [snrQ4.toUInt8]

/-! ### Forwarding -/

/-- The tables `loop_detect_max_*`, indexed by the hash size. -/
def loopDetectMaxMinimal : List UInt8 := [0, 4, 2, 1]
def loopDetectMaxModerate : List UInt8 := [0, 2, 1, 1]
def loopDetectMaxStrict : List UInt8 := [0, 1, 1, 1]

/-- How many of the next `hashCount` entries of a path, `stride` bytes apart, are the hash of
`identity`. -/
def countSelf (identity : Identity) (path : Buf maxPathLen) (stride hashSize : ℕ) :
    ℕ → (off : ℕ) → UInt8
  | 0, _ => 0
  | hashCount + 1, off =>
    (if identityIsHashMatchByLen identity (path.slice off hashSize) hashSize then 1 else 0) +
      countSelf identity path stride hashSize hashCount (off + stride)

/-- `meshcore_runtime_packet_is_looped`. With the SNR flag each path entry ends with an SNR byte,
which is no part of the hash. -/
def packetIsLooped (packet : Packet) (maxCounters : List UInt8) : M Bool := do
  let rc ← syncLocalIdentity
  let selfId ← Prog.gets World.selfId
  pure <|
    if rc ≠ 0 then false
    else
      let stride := packet.getPathHashSize
      if packet.hasSnrFlag ∧ stride < 2 then false
      else
        let hashSize := if packet.hasSnrFlag then stride - 1 else stride
        if hashSize = 0 ∨ hashSize > 3 ∨ stride = 0 ∨ stride > 3 then false
        else
          let selfCount := countSelf selfId.identity packet.path stride.toNat hashSize.toNat
            packet.getPathHashCount.toNat 0
          decide (selfCount ≥ maxCounters.getD hashSize.toNat 0)

/-- `meshcore_runtime_client_repeat_active`. -/
def clientRepeatActive (policy : RuntimePolicy) : M Bool :=
  if policy.clientRepeat then localRoleIs .chat else pure false

/-- The table `allow_packet_forward` picks for a loop detection mode. -/
def loopDetectMaximums : LoopDetect → List UInt8
  | .minimal => loopDetectMaxMinimal
  | .moderate => loopDetectMaxModerate
  | _ => loopDetectMaxStrict

/-- `meshcore_runtime_protocol_allow_packet_forward`. -/
def allowPacketForward (packet : Packet) : M Bool := do
  let policy ← hook Hooks.nodeRuntimePolicy
  policy.elim (pure false) fun policy => do
    let isRepeater ← localRoleIs .repeater
    if isRepeater then
      if policy.disableFwd then pure false
      else if packet.isRouteFlood then
        if packet.getPathHashCount ≥ policy.floodMax then pure false
        else if policy.loopDetect = .off then pure true
        else (!·) <$> packetIsLooped packet (loopDetectMaximums policy.loopDetect)
      else pure true
    else clientRepeatActive policy

/-! ### Retransmission delays -/

/-- The conversion of a `float` to `uint32_t`. -/
def floatToUInt32 (x : ℚ) : UInt32 := UInt32.ofNat x.floor.toNat

/-- `meshcore_runtime_packet_airtime`. -/
def packetAirtime (packet : Packet) : M UInt32 := hook fun h => h.radioAirtime packet.getRawLength

/-- `meshcore_runtime_randomized_delay`. -/
def randomizedDelay (airtime : UInt32) (factor : ℚ) : M UInt32 := do
  let ctx ← Prog.env
  let t := floatToUInt32 (ctx.roundFloat (ctx.roundFloat airtime.toNat * factor))
  rngNextInt 0 (5 * t + 1)

/-- `meshcore_runtime_protocol_get_retransmit_delay`. -/
def getRetransmitDelay (packet : Packet) : M UInt32 := do
  let policy ← hook Hooks.nodeRuntimePolicy
  policy.elim (pure 0) fun policy => do
    let airtime ← packetAirtime packet
    let isRepeater ← localRoleIs .repeater
    if isRepeater then randomizedDelay airtime policy.txDelayFactor
    else do
      let active ← clientRepeatActive policy
      if active then randomizedDelay airtime (1 / 2)
      else do
        let t := (airtime * 52 / 50) / 2
        let n ← rngNextInt 0 5
        pure (n * t)

/-- `meshcore_runtime_protocol_get_direct_retransmit_delay`. -/
def getDirectRetransmitDelay (packet : Packet) : M UInt32 := do
  let policy ← hook Hooks.nodeRuntimePolicy
  policy.elim (pure 0) fun policy => do
    let airtime ← packetAirtime packet
    let isRepeater ← localRoleIs .repeater
    if isRepeater then randomizedDelay airtime policy.directTxDelayFactor
    else do
      let active ← clientRepeatActive policy
      let ctx ← Prog.env
      if active then randomizedDelay airtime (ctx.roundFloat (1 / 5)) else pure 0

instance (packet : Packet) (maxCounters : List UInt8) :
    Moves Quiet (packetIsLooped packet maxCounters) := by
  unfold packetIsLooped; infer_instance

instance (policy : RuntimePolicy) : Moves Asks (clientRepeatActive policy) := by
  unfold clientRepeatActive; infer_instance

instance (packet : Packet) : Moves Quiet (allowPacketForward packet) := by
  unfold allowPacketForward; infer_instance

instance (packet : Packet) : Moves Asks (packetAirtime packet) := by
  unfold packetAirtime; infer_instance

instance (airtime : UInt32) (factor : ℚ) : Moves Asks (randomizedDelay airtime factor) := by
  unfold randomizedDelay; infer_instance

set_option synthInstance.maxSize 10000 in
instance (packet : Packet) : Moves Asks (getRetransmitDelay packet) := by
  unfold getRetransmitDelay; infer_instance

set_option synthInstance.maxSize 10000 in
instance (packet : Packet) : Moves Asks (getDirectRetransmitDelay packet) := by
  unfold getDirectRetransmitDelay; infer_instance

end Meshcore
