import Meshcore.Hearing
import Meshcore.Lib.Pieces
import Meshcore.LostRequests

/-!
# A trace along a route

A trace carries its route behind its payload and the SNRs that its relays measured where other
packets carry their path. A relay finds its own hash at the place in the route that the number of
SNRs points to, whatever the size of the hashes, so after the last relay there are as many SNRs as
hops. The node that asked splits them in the middle of the route.

## Main definitions

* `TraceAt` — a trace with the SNRs it has collected
* `TraceRelayed` — a trace on its way along its route

## Main results

* `trace_round_trip`
-/

namespace Meshcore

/-! ### The trace on its way -/

/-- A trace with this payload that has collected these SNRs. -/
structure TraceAt (bytes : List UInt8) (snrs : List Int8) (packet : Packet) : Prop extends
    Load payloadTypeTrace bytes packet where
  route : packet.getRouteType = routeTypeDirect
  pathLen_eq : packet.pathLen.toNat = snrs.length
  path_eq : packet.path.slice 0 snrs.length = snrs.map Int8.toUInt8

section

variable {bytes : List UInt8} {snrs : List Int8} {packet sent got : Packet} {snrQ4 : Int8}

theorem ZeroHop.traceAt (h : ZeroHop payloadTypeTrace bytes packet) : TraceAt bytes [] packet :=
  ⟨h.toLoad, h.route, by rw [h.pathLen_eq]; rfl, Buf.slice_zero _ _⟩

theorem TraceAt.toNat_pathLenField (h : TraceAt bytes snrs packet) (hlt : snrs.length < 64) :
    packet.pathLenField.toNat = snrs.length := by
  rw [Packet.pathLenField, UInt16.toNat_toUInt8, h.pathLen_eq, Nat.mod_eq_of_lt (by omega)]

/-- Another node sees what was collected. -/
theorem TraceAt.heard (h : TraceAt bytes snrs sent) (hlt : snrs.length < 64)
    (hears : Hears sent snrQ4 got) : TraceAt bytes snrs got := by
  have hfield := h.toNat_pathLenField hlt
  have hlen : ∀ packet : Packet, packet.pathLenField = sent.pathLenField →
      packet.getPathByteLen.toNat = snrs.length := by
    intro packet hpacket
    rw [Packet.toNat_getPathByteLen, hpacket, hfield, Nat.mod_eq_of_lt hlt, Nat.div_eq_of_lt hlt,
      Nat.zero_add, Nat.mul_one]
  refine ⟨hears.load h.toLoad, hears.getRouteType_eq.trans h.route, ?_, ?_⟩
  · rw [hears.pathLen_eq, UInt8.toNat_toUInt16, hfield]
  · have hpath := hears.fields.pathBytes
    rw [Packet.pathBytes, Packet.pathBytes, hlen got hears.fields.pathLenField,
      hlen sent rfl] at hpath
    rw [hpath, h.path_eq]

/-- A relay notes the SNR that it measured. -/
theorem TraceAt.collect (h : TraceAt bytes snrs packet) (hlt : snrs.length < 64) :
    TraceAt bytes (snrs ++ [snrQ4])
      { packet with
        path := packet.path.set packet.pathLen.toNat snrQ4.toUInt8,
          pathLen := packet.pathLen + 1 } :=
  { h.toLoad.congr rfl rfl rfl with
    route := h.route
    pathLen_eq := by
      show (packet.pathLen + 1).toNat = _
      rw [UInt16.toNat_add, h.pathLen_eq, List.length_append]
      exact Nat.mod_eq_of_lt (by show snrs.length + 1 < 65536; omega)
    path_eq := by
      show (packet.path.store packet.pathLen.toNat [snrQ4.toUInt8]).slice 0 _ = _
      rw [h.pathLen_eq, List.length_append, List.map_append, ← h.path_eq]
      exact Buf.slice_zero_store _ hlt }

end

/-! ### At a node -/

/-- The bytes of a trace with this route. -/
def traceData (tag authCode : UInt32) (flags : UInt8) (hashes : List UInt8) : List UInt8 :=
  traceHead tag authCode flags ++ hashes

/-- The size of the hashes in the route of a trace. -/
def traceHashSize (flags : UInt8) : ℕ := 2 ^ (flags &&& 0x03).toNat

/-- The hash that a trace names for a position of its route. -/
def traceHashAt (flags : UInt8) (hashes : List UInt8) (i : ℕ) : List UInt8 :=
  (hashes.drop (i * traceHashSize flags)).take (traceHashSize flags)

section

variable {tag authCode : UInt32} {flags : UInt8} {hashes : List UInt8} {snrs : List Int8}
  {packet got last : Packet} {snrQ4 : Int8} {ctx : Ctx} {w : World}

/-- A trace, read as a node does. -/
theorem traceData_read
    (hload : Load payloadTypeTrace (traceData tag authCode flags hashes) packet) :
    packet.payloadLen = 9 + hashes.length ∧ wordAt (packet.payload.slice 0 4) = tag ∧
      wordAt (packet.payload.slice 4 4) = authCode ∧ packet.payload.get 8 = flags ∧
      ∀ off len, off + len ≤ hashes.length →
        packet.payload.slice (9 + off) len = (hashes.drop off).take len := by
  have hlen : (traceData tag authCode flags hashes).length = 9 + hashes.length := by
    rw [traceData, List.length_append, length_traceHead]
  have hslice : ∀ off, off + 4 ≤ 9 → packet.payload.slice off 4
      = ((traceData tag authCode flags hashes).drop off).take 4 :=
    fun off hoff => hload.slice_payload (by omega)
  refine ⟨hload.payloadLen_eq.trans hlen, ?_, ?_, hload.get_payload (by omega), ?_⟩
  · rw [hslice 0 (by decide)]
    exact wordAt_leBytes tag []
  · rw [hslice 4 (by decide)]
    exact wordAt_leBytes authCode []
  · intro off len hle
    rw [hload.slice_payload (by omega), traceData, ← List.drop_drop,
      List.drop_left' (length_traceHead ..)]

/-- What a node does with a trace, up to the question whether the route is at its end. -/
theorem meshOnRecvPacket_trace (h : TraceAt (traceData tag authCode flags hashes) snrs got)
    (hlt : snrs.length < 64) :
    meshOnRecvPacket got ctx w =
      (if snrs.length * traceHashSize flags ≥ hashes.length then do
        onTraceRecv got tag authCode flags got.path hashes
        pure (actionRelease, got)
      else do
        let hash ← payloadRead got (9 + snrs.length * traceHashSize flags) (traceHashSize flags)
        forwardTrace got hash (traceHashSize flags)) ctx w := by
  obtain ⟨hlen, htag, hauth, hflags, hroute⟩ := traceData_read h.toLoad
  have hdirect := isRouteDirect_of_getRouteType h.route
  have hopen : got.pathLen.toNat < maxPathLen ∧ got.payloadLen ≥ 9 := by
    rw [h.pathLen_eq, hlen]
    exact ⟨hlt, Nat.le_add_right ..⟩
  have hall : got.payload.slice 9 (got.payloadLen - 9) = hashes := by
    have hslice := hroute 0 hashes.length (by omega)
    rw [hlen, Nat.add_sub_cancel_left]
    simpa using hslice
  rw [meshOnRecvPacket, if_pos ⟨hdirect, h.type_eq⟩, onRecvTrace, if_pos hopen,
    Prog.run_bind_of (payloadRead_run (by omega) ctx w),
    Prog.run_bind_of (payloadRead_run (by omega) ctx w),
    Prog.run_bind_of (payloadByte_run (by omega) ctx w)]
  simp only [hflags, htag, hauth, hall, h.pathLen_eq]
  rw [hlen, Nat.add_sub_cancel_left]
  rfl

/-- A relay that finds its own hash sends the trace on, with the SNR that it measured. -/
theorem meshOnRecvPacket_trace_relay
    (h : TraceAt (traceData tag authCode flags hashes) snrs got) (hlt : snrs.length < 64)
    (hroom : (snrs.length + 1) * traceHashSize flags ≤ hashes.length)
    (hmatch : w.selfId.identity.slice 0 (traceHashSize flags)
      = traceHashAt flags hashes snrs.length)
    (hallow : (allowPacketForward got ctx w).1 = true)
    (hnew : (tablesHasSeen got ctx (allowPacketForward got ctx w).2).1 = false) :
    ∃ delay, (meshOnRecvPacket got ctx w).1 = (actionRetransmitDelayed 5 delay,
      { got with
        path := got.path.set got.pathLen.toNat got.snrQ4.toUInt8,
          pathLen := got.pathLen + 1 }) := by
  obtain ⟨hlen, -, -, -, hroute⟩ := traceData_read h.toLoad
  have hpos : 0 < traceHashSize flags := Nat.two_pow_pos _
  rw [Nat.add_mul, Nat.one_mul] at hroom
  have hgo : ¬snrs.length * traceHashSize flags ≥ hashes.length := by omega
  have hhash := hroute _ _ hroom
  have hsize : ¬traceHashSize flags > publicKeySize := by
    have hbits : (flags &&& 0x03).toNat ≤ 3 := by
      rw [UInt8.toNat_and]
      exact Nat.and_le_right
    have hpow : 2 ^ (flags &&& 0x03).toNat ≤ 2 ^ 3 := Nat.pow_le_pow_right two_pos hbits
    show ¬2 ^ (flags &&& 0x03).toNat > 32
    omega
  have hmine : identityIsHashMatchByLen w.selfId.identity
      (got.payload.slice (9 + snrs.length * traceHashSize flags) (traceHashSize flags))
      (traceHashSize flags) = true := by
    rw [identityIsHashMatchByLen, if_neg hsize, hhash, ← traceHashAt, hmatch, traceHashAt,
      List.take_take, min_self, beq_self_eq_true]
  rw [meshOnRecvPacket_trace h hlt, if_neg hgo, Prog.run_bind_of (payloadRead_run (by omega) ctx w),
    forwardTrace, Prog.run_bind, Prog.run_gets]
  simp only [hmine, Bool.not_true, Bool.false_eq_true, if_false]
  rw [Prog.run_bind, hallow]
  simp only [Bool.not_true, Bool.false_eq_true, if_false]
  rw [Prog.run_bind, hnew]
  simp only [Bool.false_eq_true, if_false]
  rw [Prog.run_bind]
  exact ⟨_, rfl⟩

end

/-! ### The route of a request -/

namespace NodeTracePath

/-- The hops of a trace request. -/
def hops (request : NodeTracePath) : ℕ := request.path.length / request.pathHashSize.toNat

/-- The bytes that are sent of each hash. -/
def sentSize (request : NodeTracePath) : ℕ := min request.pathHashSize.toNat 2

/-- The hash that a request lists for a hop, as it is sent. -/
def listedHash (request : NodeTracePath) (i : ℕ) : List UInt8 :=
  (request.path.drop (i * request.pathHashSize.toNat)).take request.sentSize

/-- The flags that are sent, which say the size of the hashes. -/
def flags (request : NodeTracePath) : UInt8 := if request.pathHashSize = 1 then 0 else 1

/-- What the check of a request admits. -/
structure WellFormed (request : NodeTracePath) : Prop where
  size : request.pathHashSize = 1 ∨ request.pathHashSize = 2 ∨ request.pathHashSize = 3
  length_path : request.path.length = request.hops * request.pathHashSize.toNat
  odd : request.hops % 2 = 1
  length_le : request.path.length ≤ maxPathLen

end NodeTracePath

section

variable {request : NodeTracePath}

theorem wellFormed_of_validateNodeTrace {path : List UInt8} {pathLen pathHashSize : UInt8}
    (hlen : pathLen.toNat ≤ path.length)
    (h : validateNodeTrace (some path) pathLen pathHashSize = some request) :
    request.WellFormed := by
  have hle := of_validateNodeTrace h
  simp only [validateNodeTrace, Option.bind_eq_bind, Option.bind_some] at h
  split at h
  · cases h
  rename_i hsize
  split at h
  · cases h
  rename_i hodd
  obtain rfl := Option.some.inj h
  simp only [not_or, not_not, UInt8.not_lt] at hsize
  obtain ⟨-, -, hpos, hmax, hdvd⟩ := hsize
  have hpath : (path.take pathLen.toNat).length = pathLen.toNat := List.length_take_of_le hlen
  have hhops : (path.take pathLen.toNat).length / pathHashSize.toNat
      = (pathLen / pathHashSize).toNat := by rw [hpath, UInt8.toNat_div]
  have hdvd' : pathLen.toNat % pathHashSize.toNat = 0 := by
    rw [← UInt8.toNat_mod, hdvd]
    rfl
  refine ⟨hashSize_cases hpos hmax, ?_, ?_, hle⟩
  · show (path.take pathLen.toNat).length = (path.take pathLen.toNat).length / _ * _
    rw [hpath, Nat.div_mul_cancel (Nat.dvd_of_mod_eq_zero hdvd')]
  · show (path.take pathLen.toNat).length / pathHashSize.toNat % 2 = 1
    rw [hhops]
    have hne : (pathLen / pathHashSize).toNat % 2 ≠ 0 := fun h0 =>
      hodd (UInt8.toNat_inj.mp (by rw [UInt8.toNat_mod]; exact h0))
    omega

theorem NodeTracePath.WellFormed.traceHashSize_flags (h : request.WellFormed) :
    traceHashSize request.flags = request.sentSize := by
  rw [NodeTracePath.flags, NodeTracePath.sentSize]
  rcases h.size with hsize | hsize | hsize <;> (rw [hsize]; decide)

theorem NodeTracePath.WellFormed.length_listedHash (h : request.WellFormed) {i : ℕ}
    (hi : i < request.hops) : (request.listedHash i).length = request.sentSize := by
  have hle : i * request.pathHashSize.toNat + request.pathHashSize.toNat ≤ request.path.length := by
    rw [h.length_path, ← Nat.succ_mul]
    exact Nat.mul_le_mul_right _ hi
  rw [NodeTracePath.listedHash, List.length_take, List.length_drop]
  have hmin : request.sentSize ≤ request.pathHashSize.toNat := Nat.min_le_left ..
  omega

/-- The route that is sent lists the hashes one after the other. -/
theorem NodeTracePath.WellFormed.traceHashes_eq (h : request.WellFormed) :
    traceHashes request = (List.range request.hops).flatMap request.listedHash := by
  have hcut : request.pathHashSize ≠ 3 →
      request.sentSize = request.pathHashSize.toNat := by
    intro hne
    rw [NodeTracePath.sentSize]
    rcases h.size with hsize | hsize | hsize
    · rw [hsize]; rfl
    · rw [hsize]; rfl
    · exact absurd hsize hne
  rw [traceHashes]
  split
  · rename_i hthree
    have hsent : request.sentSize = 2 := by rw [NodeTracePath.sentSize, hthree]; rfl
    have hbytes : request.pathHashSize.toNat = 3 := by rw [hthree]; rfl
    rw [NodeTracePath.hops, hbytes]
    refine congrArg (List.flatMap · _) (funext fun i => ?_)
    rw [NodeTracePath.listedHash, hsent, hbytes]
  · rename_i hne
    have hall : ∀ n, n ≤ request.hops → (List.range n).flatMap request.listedHash
        = request.path.take (n * request.pathHashSize.toNat) := by
      intro n
      induction n with
      | zero => intro; rw [Nat.zero_mul, List.take_zero]; rfl
      | succ n ih =>
        intro hn
        rw [List.range_succ, List.flatMap_append, List.flatMap_singleton, ih (by omega),
          NodeTracePath.listedHash, hcut hne, Nat.succ_mul, List.take_add]
    rw [hall _ le_rfl, ← h.length_path, List.take_length]

theorem NodeTracePath.WellFormed.length_traceHashes (h : request.WellFormed) :
    (traceHashes request).length = request.hops * request.sentSize := by
  rw [h.traceHashes_eq, PiecesOf.length_flatMap_range fun i hi => h.length_listedHash hi]

theorem NodeTracePath.WellFormed.traceHashAt_eq (h : request.WellFormed) {i : ℕ}
    (hi : i < request.hops) :
    traceHashAt request.flags (traceHashes request) i = request.listedHash i := by
  rw [traceHashAt, h.traceHashSize_flags, h.traceHashes_eq,
    PiecesOf.take_drop_flatMap_range (fun i hi => h.length_listedHash hi) hi]

/-- An odd number of hops is below 64. -/
theorem NodeTracePath.WellFormed.hops_lt (h : request.WellFormed) : request.hops < 64 := by
  have hle : request.hops * request.pathHashSize.toNat ≤ 64 := h.length_path ▸ h.length_le
  have hpos : 1 ≤ request.pathHashSize.toNat := by
    rcases h.size with hsize | hsize | hsize <;> (rw [hsize]; decide)
  have hmul : request.hops * 1 ≤ request.hops * request.pathHashSize.toNat :=
    Nat.mul_le_mul_left _ hpos
  have hodd := h.odd
  omega

end

/-! ### From hop to hop -/

/-- A node takes up a trace at this position of its route: the hash that is listed there is its own,
it agrees to forward the trace, and it has not seen it at this position. -/
structure TakesUp (request : NodeTracePath) (i : ℕ) (got : Packet) (ctx : Ctx) (w : World) :
    Prop where
  listed : i < request.hops
  hash : w.selfId.identity.slice 0 request.sentSize = request.listedHash i
  allow : (allowPacketForward got ctx w).1 = true
  unseen : (tablesHasSeen got ctx (allowPacketForward got ctx w).2).1 = false

/-- A trace for a request that was sent as `packet`, on which relays noted these SNRs, each of which
took up what the one before sent, and sent on by the last of them as the packet in the third
place. -/
inductive TraceRelayed (request : NodeTracePath) (packet : Packet) : List Int8 → Packet → Prop where
  | sent : TraceRelayed request packet [] packet
  | relayed {snrs last snrQ4 got ctx w} (h : TraceRelayed request packet snrs last)
      (hears : Hears last snrQ4 got) (htakes : TakesUp request snrs.length got ctx w) :
      TraceRelayed request packet (snrs ++ [snrQ4]) (meshOnRecvPacket got ctx w).1.2

section

variable {request : NodeTracePath} {tag authCode : UInt32} {packet last got : Packet}
  {snrs : List Int8} {snrQ4 : Int8} {ctx : Ctx} {w : World}

/-- The relay at the next position sends the trace on with one more SNR. -/
theorem TraceAt.relay (hr : request.WellFormed)
    (h : TraceAt (traceData tag authCode request.flags (traceHashes request)) snrs last)
    (hears : Hears last snrQ4 got) (htakes : TakesUp request snrs.length got ctx w) :
    (∃ delay, (meshOnRecvPacket got ctx w).1.1 = actionRetransmitDelayed 5 delay) ∧
      TraceAt (traceData tag authCode request.flags (traceHashes request)) (snrs ++ [snrQ4])
        (meshOnRecvPacket got ctx w).1.2 := by
  have hlt : snrs.length < 64 := htakes.listed.trans hr.hops_lt
  have hroom : (snrs.length + 1) * traceHashSize request.flags ≤ (traceHashes request).length := by
    rw [hr.length_traceHashes, hr.traceHashSize_flags]
    exact Nat.mul_le_mul_right _ htakes.listed
  have hmatch : w.selfId.identity.slice 0 (traceHashSize request.flags)
      = traceHashAt request.flags (traceHashes request) snrs.length := by
    rw [hr.traceHashSize_flags, htakes.hash, hr.traceHashAt_eq htakes.listed]
  obtain ⟨delay, hrun⟩ := meshOnRecvPacket_trace_relay (h.heard hlt hears) hlt hroom hmatch
    htakes.allow htakes.unseen
  rw [hrun, ← hears.snrQ4_eq]
  exact ⟨⟨delay, rfl⟩, (h.heard hlt hears).collect hlt⟩

theorem TraceRelayed.traceAt (hr : request.WellFormed)
    (hsent : ZeroHop payloadTypeTrace
      (traceData tag authCode request.flags (traceHashes request)) packet)
    (h : TraceRelayed request packet snrs last) :
    TraceAt (traceData tag authCode request.flags (traceHashes request)) snrs last := by
  induction h with
  | sent => exact hsent.traceAt
  | relayed _ hears htakes ih => exact (ih.relay hr hears htakes).2

/-- What the host is told of a trace. -/
def traceEvent (tag : UInt32) (snrs : List Int8) (snrQ4 : Int8) (timestamp : UInt32) : Event :=
  .tracePath 1 tag ((snrs.take ((snrs.length + 1) / 2)).map Int8.toUInt8)
    ((snrs.drop ((snrs.length + 1) / 2)).map Int8.toUInt8 ++ [snrQ4.toUInt8]) snrQ4 timestamp

/-- The node that waits for this tag splits the SNRs in the middle of the route. -/
theorem pendingTraceHandle_run {pathSnrs : Buf maxPathLen} {flags hashBytes snrCount : UInt8}
    (hvalid : w.correlation.pendingTrace.valid = true)
    (htag : w.correlation.pendingTrace.tag = tag)
    (hsize : (1 : UInt8) <<< (flags &&& 3) ≠ 0 ∧ (1 : UInt8) <<< (flags &&& 3) ≠ 4)
    (hpos : hashBytes ≠ 0) (hdvd : hashBytes % (1 <<< (flags &&& 3)) = 0)
    (hcount : snrCount = hashBytes / (1 <<< (flags &&& 3))) (hodd : snrs.length % 2 = 1)
    (hlen : snrCount.toNat = snrs.length) (hlt : snrs.length < 64)
    (hsnrs : pathSnrs.slice 0 snrs.length = snrs.map Int8.toUInt8) :
    pendingTraceHandle tag flags pathSnrs snrCount hashBytes snrQ4 ctx w =
      (true, { w with
        tick := (timestampNowSeconds ctx w).2.tick
        events := w.events ++ [traceEvent tag snrs snrQ4 (timestampNowSeconds ctx w).1]
        correlation := { w.correlation with pendingTrace := .zero } }) := by
  obtain ⟨n, hn⟩ : ∃ n, snrs.length = 2 * n + 1 := ⟨snrs.length / 2, by omega⟩
  have hmine :
      ¬((!w.correlation.pendingTrace.valid) = true ∨ w.correlation.pendingTrace.tag ≠ tag) := by
    rw [hvalid, htag]
    simp
  have hshape : ¬((1 : UInt8) <<< (flags &&& 3) = 0 ∨ (1 : UInt8) <<< (flags &&& 3) = 4 ∨
      hashBytes = 0 ∨ hashBytes % (1 <<< (flags &&& 3)) ≠ 0) := by
    rw [not_or, not_or, not_or, not_not]
    exact ⟨hsize.1, hsize.2, hpos, hdvd⟩
  have hsplit : ¬(snrCount ≠ hashBytes / (1 <<< (flags &&& 3)) ∨
      hashBytes / (1 <<< (flags &&& 3)) % 2 = 0) := by
    rw [← hcount, not_or, not_not]
    refine ⟨rfl, fun heven => ?_⟩
    have heven' := congrArg UInt8.toNat heven
    rw [UInt8.toNat_mod, hlen] at heven'
    change snrs.length % 2 = 0 at heven'
    omega
  have hforward : ((snrCount - 1) / 2).toNat = n := by
    have hone : (1 : UInt8) ≤ snrCount := by
      rw [UInt8.le_iff_toNat_le, hlen, hn]
      exact Nat.le_add_left ..
    rw [UInt8.toNat_div, UInt8.toNat_sub_of_le _ _ hone, hlen, hn]
    show (2 * n + 1 - 1) / 2 = n
    omega
  have hmiddle : (snrs.length + 1) / 2 = n + 1 := by omega
  have hout : pathSnrs.slice 0 (n + 1) = (snrs.take (n + 1)).map Int8.toUInt8 := by
    rw [List.map_take, ← hsnrs, Buf.take_slice, Nat.min_eq_left (by omega)]
  have hback : pathSnrs.slice (n + 1) n = (snrs.drop (n + 1)).map Int8.toUInt8 := by
    rw [List.map_drop, ← hsnrs, Buf.drop_slice, Nat.zero_add]
    congr 1
    omega
  have hnext : appendSnrWithTrunc (pathSnrs.slice 0 n) (pathSnrs.get n).toInt8
      = (snrs.take (n + 1)).map Int8.toUInt8 := by
    have hroom : ¬(pathSnrs.slice 0 n).length ≥ maxPathLen := by
      rw [Buf.length_slice_of_le _ (by show 0 + n ≤ 64; omega)]
      show ¬n ≥ 64
      omega
    have hlast : pathSnrs.slice n 1 = [pathSnrs.get n] := by
      rw [Buf.slice_succ _ (by show n < 64; omega), Buf.slice_zero]
    rw [appendSnrWithTrunc, if_neg hroom, ← hout, Buf.slice_add, Nat.zero_add, hlast]
    rfl
  have hreply : appendSnrWithTrunc (pathSnrs.slice (n + 1) n) snrQ4
      = (snrs.drop (n + 1)).map Int8.toUInt8 ++ [snrQ4.toUInt8] := by
    have hroom : ¬(pathSnrs.slice (n + 1) n).length ≥ maxPathLen := by
      rw [Buf.length_slice_of_le _ (by show n + 1 + n ≤ 64; omega)]
      show ¬n ≥ 64
      omega
    rw [appendSnrWithTrunc, if_neg hroom, hback]
  have hasks := ((inferInstance : Moves Asks timestampNowSeconds).moves ctx w).1
  rw [pendingTraceHandle, Prog.run_bind, Prog.run_gets]
  simp only [if_neg hmine, if_neg hshape, if_neg hsplit]
  rw [← hcount, hforward, hnext, hreply, Prog.run_bind, traceEvent, hmiddle]
  generalize timestampNowSeconds ctx w = answer at hasks
  rw [hasks]
  rfl

/-- After the last relay the trace is an answer. -/
theorem meshOnRecvPacket_trace_end (hr : request.WellFormed) (hall : snrs.length = request.hops)
    (h : TraceAt (traceData tag authCode request.flags (traceHashes request)) snrs last)
    (hears : Hears last snrQ4 got) (hinit : w.initialized = true)
    (hvalid : w.correlation.pendingTrace.valid = true)
    (htag : w.correlation.pendingTrace.tag = tag) :
    meshOnRecvPacket got ctx w = ((actionRelease, got), { w with
      tick := (timestampNowSeconds ctx w).2.tick
      events := w.events ++ [traceEvent tag snrs snrQ4 (timestampNowSeconds ctx w).1]
      correlation := { w.correlation with pendingTrace := .zero } }) := by
  have hlt : snrs.length < 64 := hall ▸ hr.hops_lt
  have hgot := h.heard hlt hears
  have hlen := hr.length_traceHashes
  have hend : snrs.length * traceHashSize request.flags ≥ (traceHashes request).length := by
    rw [hlen, hr.traceHashSize_flags, hall]
  have hbytes : (UInt8.ofNat (traceHashes request).length).toNat
      = request.hops * request.sentSize := by
    have hle := length_traceHashes_le hr.length_le
    rw [UInt8.toNat_ofNat', Nat.mod_eq_of_lt (by omega), hlen]
  have hsize : ((1 : UInt8) <<< (request.flags &&& 3)).toNat = request.sentSize := by
    rw [NodeTracePath.flags, NodeTracePath.sentSize]
    rcases hr.size with hsize | hsize | hsize <;> (rw [hsize]; decide)
  have hmost : 0 < request.sentSize ∧ request.sentSize ≤ 2 := by
    rw [NodeTracePath.sentSize]
    rcases hr.size with hsize | hsize | hsize <;> (rw [hsize]; decide)
  have hcount : got.getPathHashCount.toNat = request.hops := by
    rw [Packet.getPathHashCount, toNat_hashCountOf, hgot.toNat_pathLenField hlt, hall,
      Nat.mod_eq_of_lt hr.hops_lt]
  have hodd := hr.odd
  have hhandle := @pendingTraceHandle_run tag snrs snrQ4 ctx w got.path request.flags
    (UInt8.ofNat (traceHashes request).length) got.getPathHashCount hvalid htag
    ⟨fun h0 => by rw [h0] at hsize; exact hmost.1.ne hsize,
      fun h4 => by rw [h4] at hsize; exact absurd (hsize ▸ hmost.2) (by decide)⟩
    (fun h0 => by
      rw [h0] at hbytes
      exact (Nat.mul_pos (by omega) hmost.1).ne hbytes)
    (UInt8.toNat_inj.mp (by rw [UInt8.toNat_mod, hbytes, hsize, Nat.mul_mod_left]; rfl))
    (UInt8.toNat_inj.mp (by
      rw [UInt8.toNat_div, hbytes, hsize, hcount, Nat.mul_div_cancel _ hmost.1]))
    (hall ▸ hodd) (hcount.trans hall.symm) hlt hgot.path_eq
  rw [meshOnRecvPacket_trace hgot hlt, if_pos hend, Prog.run_bind, onTraceRecv,
    whenInitialized_run hinit, Prog.run_bind, hears.snrQ4_eq, hhandle]
  rfl

end

/-! ### The request -/

section

variable {request : NodeTracePath} {ctx : Ctx} {w : World} {held : List PacketId}

/-- With a free buffer, a trace is made. -/
theorem meshCreateTrace_made (tag authCode : UInt32) (flags : UInt8) (hpool : w.PoolIntact ctx held)
    (hfree : 0 < w.packetManager.getFreeCount) :
    ∃ id, (meshCreateTrace tag authCode flags ctx w).1 = some id ∧
      Made (Load payloadTypeTrace (traceHead tag authCode flags)) ctx held w id
        (meshCreateTrace tag authCode flags ctx w).2 := by
  obtain ⟨id, hid⟩ := Option.isSome_iff_exists.mp
    (dispatcherObtainNewPacket_isSome hpool.conserves hfree)
  refine Made.of_isSome hpool ?_
  rw [meshCreateTrace, Prog.run_bind, hid]
  rfl

/-- The route goes out behind the head of the trace, and the answer is awaited. -/
theorem executeNodeTracePath_shipped (hr : request.WellFormed) (tag : UInt32)
    (hroom : w.HasRoom ctx) :
    let w' := (executeNodeTracePath request tag ctx w).2
    ∃ sentTag authCode, TagIs tag sentTag ∧ w'.correlation.pendingTrace.valid = true ∧
      w'.correlation.pendingTrace.tag = sentTag ∧
      Shipped (ZeroHop payloadTypeTrace
        (traceData sentTag authCode request.flags (traceHashes request))) w w' := by
  have hle := length_traceHashes_le hr.length_le
  have hfits : ¬((traceHashes request).length > packetPayloadMaxLen - 9 ∨
      (traceHashes request).length > maxPathLen) := by
    show ¬(_ > 175 ∨ _ > 64)
    omega
  have hof : (UInt8.ofNat (traceHashes request).length).toNat = (traceHashes request).length := by
    rw [UInt8.toNat_ofNat', Nat.mod_eq_of_lt (by omega)]
  have htag : TagIs tag (requestTagOf tag ctx w).1 := by
    intro hasked
    rw [requestTagOf, if_neg hasked]
    rfl
  rw [executeNodeTracePath, if_neg hfits, Prog.run_bind, Prog.run_bind]
  have hidle₁ := (inferInstance : Moves Idle (requestTagOf tag)).moves ctx w
  generalize (requestTagOf tag ctx w).1 = sentTag at htag
  generalize (requestTagOf tag ctx w).2 = w₁ at hidle₁
  have hidle : Idle ctx w (clockMillisGet ctx w₁).2 :=
    Composes.trans ctx _ _ _ hidle₁ ((inferInstance : Moves Idle clockMillisGet).moves ctx w₁)
  generalize (clockMillisGet ctx w₁).1 = millis
  generalize (clockMillisGet ctx w₁).2 = w₂ at hidle
  have hroom₂ := hidle.hasRoom hroom
  obtain ⟨id, hid, hmade⟩ := meshCreateTrace_made sentTag (UInt32.ofNat (millis % 2 ^ 24))
    request.flags hroom₂.pool hroom₂.free
  rw [← NodeTracePath.flags, withRequestPacket_run hid, Prog.run_bind]
  generalize (meshCreateTrace _ _ _ ctx w₂).2 = w₃ at hmade
  have hnotes := (inferInstance : Moves Notes (pendingTraceRegister sentTag)).moves ctx w₃
  have hpending : (pendingTraceRegister sentTag ctx w₃).2.correlation.pendingTrace.valid = true ∧
      (pendingTraceRegister sentTag ctx w₃).2.correlation.pendingTrace.tag = sentTag := ⟨rfl, rfl⟩
  have hmade' := hmade.notes hnotes
  generalize (pendingTraceRegister sentTag ctx w₃).2 = w₄ at hmade' hpending
  have hmute := (inferInstance : Moves Mute (meshSendDirect id (traceHashes request)
    (UInt8.ofNat (traceHashes request).length) 0)).moves ctx w₄
  refine ⟨sentTag, UInt32.ofNat (millis % 2 ^ 24), htag, ?_, ?_, ?_⟩
  · rw [hmute.2.1]
    exact hpending.1
  · rw [hmute.2.1]
    exact hpending.2
  · have hlen : (traceHead sentTag (UInt32.ofNat (millis % 2 ^ 24)) request.flags ++
        (traceHashes request).take (UInt8.ofNat (traceHashes request).length).toNat).length
          ≤ packetPayloadMaxLen := by
      rw [List.length_append, length_traceHead, hof, List.take_length]
      show 9 + _ ≤ 184
      omega
    have hship := meshSendDirect_trace (traceHashes request) 0 hmade'.pool hmade'.packet hlen hof.le
    rw [hof, List.take_length] at hship
    exact (hship.after hmade'.unsent).after hidle.unsent

end

/-! ### The result -/

/-- **A trace along a route.** The route of an accepted request goes out, and the answer is awaited.
A relay that takes up the trace at the next position retransmits it. After the last position the
node that asked publishes one event, with the SNRs of the first half of the route and the middle,
those of the second half and its own, and waits no longer. -/
theorem trace_round_trip {path : List UInt8} {pathLen pathHashSize : UInt8}
    {request : NodeTracePath} (hlen : pathLen.toNat ≤ path.length)
    (hr : validateNodeTrace (some path) pathLen pathHashSize = some request) (tag : UInt32) :
    (∀ ctx w, w.HasRoom ctx →
      let w' := (executeNodeTracePath request tag ctx w).2
      ∃ sentTag authCode, TagIs tag sentTag ∧ w'.correlation.pendingTrace.valid = true ∧
        w'.correlation.pendingTrace.tag = sentTag ∧
        Shipped (ZeroHop payloadTypeTrace
          (traceData sentTag authCode request.flags (traceHashes request))) w w') ∧
    ∀ sentTag authCode packet, ZeroHop payloadTypeTrace
        (traceData sentTag authCode request.flags (traceHashes request)) packet →
      ∀ snrs last, TraceRelayed request packet snrs last → ∀ snrQ4 got, Hears last snrQ4 got →
        (∀ ctx w, TakesUp request snrs.length got ctx w →
          ∃ delay, (meshOnRecvPacket got ctx w).1.1 = actionRetransmitDelayed 5 delay) ∧
        (snrs.length = request.hops → ∀ ctx (w : World), w.initialized = true →
          w.correlation.pendingTrace.valid = true → w.correlation.pendingTrace.tag = sentTag →
          meshOnRecvPacket got ctx w = ((actionRelease, got), { w with
            tick := (timestampNowSeconds ctx w).2.tick
            events := w.events ++ [traceEvent sentTag snrs snrQ4 (timestampNowSeconds ctx w).1]
            correlation := { w.correlation with pendingTrace := .zero } })) := by
  have hwell := wellFormed_of_validateNodeTrace hlen hr
  refine ⟨fun ctx w hroom => executeNodeTracePath_shipped hwell tag hroom, ?_⟩
  intro sentTag authCode packet hsent snrs last hrelayed snrQ4 got hears
  have hat := hrelayed.traceAt hwell hsent
  exact ⟨fun ctx w htakes => (hat.relay hwell hears htakes).1,
    fun hall ctx w hinit hvalid htag =>
      meshOnRecvPacket_trace_end hwell hall hat hears hinit hvalid htag⟩

/-- A route over two nodes and back to the first, with hashes of two bytes. -/
def tracedRoute : NodeTracePath := ⟨[7, 0, 9, 0, 7, 0], 2⟩

/-- The packet of its trace. -/
def tracePacket : Packet :=
  { Packet.init with
    header := 0x26, payloadLen := 15
    payload := (Buf.zero _).store 0 (traceData 7 0 1 tracedRoute.path) }

/-- What a relay with this key sends on of a trace that it hears with this SNR. -/
def tracedBy (key : UInt8) (snrQ4 : Int8) (packet : Packet) : Packet :=
  (meshOnRecvPacket { packet with snrQ4 } .forwarding (.keyed key)).1.2

/-- The SNRs of the first two nodes are told as the way out, that of the third and the own one as
the way back. -/
theorem trace_round_trip_three :
    let w : World := { World.boot with
      initialized := true, correlation := { Correlation.zero with
        pendingTrace := { Pending.zero with valid := true, tag := 7 } } }
    let last := tracedBy 7 6 (tracedBy 9 5 (tracedBy 7 3 tracePacket))
    (meshOnRecvPacket { last with snrQ4 := 4 } .silent w).2.events
      = [.tracePath 1 7 [3, 5] [6, 4] 4 1] := by
  intro w last
  have hsent : ZeroHop payloadTypeTrace (traceData 7 0 1 tracedRoute.path) tracePacket :=
    ⟨⟨by decide, by decide, by decide +kernel, by decide⟩, by decide, by decide⟩
  have hvalidated : validateNodeTrace (some tracedRoute.path) 6 2 = some tracedRoute := rfl
  have hfirst : TraceRelayed tracedRoute tracePacket [3] (tracedBy 7 3 tracePacket) :=
    .relayed .sent ⟨tracePacket, ⟨Packet.init, by decide +kernel⟩, rfl⟩
      ⟨by decide, by decide +kernel, by decide +kernel, by decide +kernel⟩
  have hsecond : TraceRelayed tracedRoute tracePacket [3, 5]
      (tracedBy 9 5 (tracedBy 7 3 tracePacket)) :=
    .relayed hfirst ⟨tracedBy 7 3 tracePacket,
      ⟨{ Packet.init with snrQ4 := 3 }, by decide +kernel⟩, rfl⟩
      ⟨by decide, by decide +kernel, by decide +kernel, by decide +kernel⟩
  have hthird : TraceRelayed tracedRoute tracePacket [3, 5, 6] last :=
    .relayed hsecond ⟨tracedBy 9 5 (tracedBy 7 3 tracePacket),
      ⟨{ Packet.init with snrQ4 := 5 }, by decide +kernel⟩, rfl⟩
      ⟨by decide, by decide +kernel, by decide +kernel, by decide +kernel⟩
  have hair : OnAir last last := ⟨{ Packet.init with snrQ4 := 6 }, by decide +kernel⟩
  have hrun := ((trace_round_trip (by decide) hvalidated 7).2 7 0 tracePacket hsent [3, 5, 6] last
    hthird 4 { last with snrQ4 := 4 } ⟨last, hair, rfl⟩).2 rfl .silent w rfl rfl rfl
  rw [hrun]
  decide +kernel

end Meshcore
