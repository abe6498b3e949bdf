import Meshcore.AckRelay
import Meshcore.LostRequests

/-!
# Routes to a peer

The host keeps a path to each peer: so many bytes, of hashes of one size. Three pieces of code look
at it with limits of their own. The encoder takes up to 63 hashes, whatever their size; the copy
takes up to 64 bytes; and the queue drops a packet whose path has more than 64 bytes. So a path that
the host stores is followed, or not, according to which limit it meets first.

## Main definitions

* `PeerPath.Usable` — a path that is known, whole and not too long
* `Routed` — a packet takes the stored path, or is a flood
* `PeerPath.Overlong`, `PeerPath.Brimful` — the paths on which the limits disagree

## Main results

* `peer_path_followed_iff`
-/

namespace Meshcore

/-! ### Stored paths -/

namespace PeerPath

/-- The size of a hash, brought into its range. -/
def hashSize (path : PeerPath) : UInt8 := normalizePathHashSize path.pathHashSize

/-- The path is known, a whole number of hashes, and not longer than a packet's. -/
structure Usable (path : PeerPath) : Prop where
  known : path.outPathLen ≠ 0 ∨ path.isNeighbor = true
  whole : path.hashSize.toNat ∣ path.outPathLen.toNat
  fits : path.outPathLen.toNat ≤ maxPathLen

/-- The path has few enough hashes for the encoder and too many bytes for a packet. -/
def Overlong (path : PeerPath) : Prop :=
  path.hashSize.toNat ∣ path.outPathLen.toNat ∧ maxPathLen < path.outPathLen.toNat ∧
    path.outPathLen.toNat ≤ 63 * path.hashSize.toNat

/-- The path fills a packet's with one more hash than the encoder takes. -/
def Brimful (path : PeerPath) : Prop := path.hashSize = 1 ∧ path.outPathLen.toNat = maxPathLen

/-- The wire form of the path length, when the path is known and the encoder takes it. -/
def wireLen (path : PeerPath) : Option UInt8 :=
  if path.outPathLen = 0 ∧ !path.isNeighbor then none
  else pathLenEncode path.hashSize path.outPathLen

end PeerPath

/-- Packed length of `hops` hashes of one size. -/
theorem toNat_packed {size hops : UInt8} (h0 : size ≠ 0) (h3 : size ≤ 3) (hhops : hops.toNat ≤ 63) :
    (((size - 1) <<< 6) ||| hops).toNat = 64 * (size.toNat - 1) + hops.toNat := by
  have hsize : ((size - 1) <<< 6).toNat = 64 * (size.toNat - 1) := by
    rcases hashSize_cases h0 h3 with rfl | rfl | rfl <;> decide
  rw [UInt8.toNat_or, hsize]
  exact (Nat.two_pow_add_eq_or_of_lt (i := 6) (by omega) _).symm

/-- The encoder takes whole numbers of hashes up to 63. -/
theorem pathLenEncode_eq_some {size len wire : UInt8} (h0 : size ≠ 0) (h3 : size ≤ 3) :
    pathLenEncode size len = some wire ↔ size.toNat ∣ len.toNat ∧ len.toNat ≤ 63 * size.toNat ∧
      wire.toNat = 64 * (size.toNat - 1) + len.toNat / size.toNat := by
  have hpos : 0 < size.toNat := by
    rw [Nat.pos_iff_ne_zero]
    exact fun h => h0 (UInt8.toNat_inj.mp h)
  rw [pathLenEncode, if_neg (not_or.mpr ⟨h0, UInt8.not_lt.mpr h3⟩)]
  split
  · rename_i hzero
    subst hzero
    have hpacked := @toNat_packed size 0 h0 h3 (Nat.zero_le _)
    rw [UInt8.or_zero] at hpacked
    rw [Option.some_inj, ← UInt8.toNat_inj, hpacked]
    show _ ↔ _ ∣ 0 ∧ 0 ≤ _ ∧ wire.toNat = _ + 0 / _
    simp [eq_comm]
  have hmod : len % size = 0 ↔ size.toNat ∣ len.toNat := by
    rw [← UInt8.toNat_inj, UInt8.toNat_mod, Nat.dvd_iff_mod_eq_zero]
    rfl
  split
  · rename_i hrest
    simp [hmod.not.mp hrest]
  rename_i hwhole
  obtain ⟨hops, hlen⟩ : size.toNat ∣ len.toNat := hmod.mp (not_not.mp hwhole)
  have hdiv : (len / size).toNat = hops := by
    rw [UInt8.toNat_div, hlen, Nat.mul_div_cancel_left _ hpos]
  have hmany : len / size > 63 ↔ ¬len.toNat ≤ 63 * size.toNat := by
    rw [gt_iff_lt, UInt8.lt_iff_toNat_lt, hdiv, hlen, Nat.mul_comm,
      Nat.mul_le_mul_right_iff hpos, not_le]
    rfl
  dsimp only
  split
  · rename_i hlong
    simp [hmany.mp hlong]
  · rename_i hfew
    have hle : len.toNat ≤ 63 * size.toNat := not_not.mp (hmany.not.mp hfew)
    have hhops : (len / size).toNat ≤ 63 := by
      rw [hdiv]
      rw [hlen, Nat.mul_comm] at hle
      exact Nat.le_of_mul_le_mul_right hle hpos
    rw [Option.some_inj, ← UInt8.toNat_inj, toNat_packed h0 h3 hhops, UInt8.toNat_div]
    simp [hmod.mp (not_not.mp hwhole), hle, eq_comm]

namespace PeerPath

variable {path : PeerPath} {wire : UInt8}

theorem hashSize_mem (path : PeerPath) : path.hashSize ≠ 0 ∧ path.hashSize ≤ 3 :=
  normalizePathHashSize_mem path.pathHashSize

theorem hashSize_pos (path : PeerPath) : 0 < path.hashSize.toNat :=
  Nat.pos_iff_ne_zero.mpr fun h => path.hashSize_mem.1 (UInt8.toNat_inj.mp h)

theorem wireLen_eq_some : path.wireLen = some wire ↔
    (path.outPathLen ≠ 0 ∨ path.isNeighbor = true) ∧ path.hashSize.toNat ∣ path.outPathLen.toNat ∧
      path.outPathLen.toNat ≤ 63 * path.hashSize.toNat ∧
      wire.toNat
        = 64 * (path.hashSize.toNat - 1) + path.outPathLen.toNat / path.hashSize.toNat := by
  rw [← pathLenEncode_eq_some path.hashSize_mem.1 path.hashSize_mem.2, wireLen]
  split
  · rename_i hunknown
    have hnone : ¬(path.outPathLen ≠ 0 ∨ path.isNeighbor = true) := by
      simpa [or_iff_not_imp_left] using hunknown
    simp only [hnone, false_and, reduceCtorEq]
  · rename_i hknown
    have hor : path.outPathLen ≠ 0 ∨ path.isNeighbor = true := by
      simpa [or_iff_not_imp_left] using hknown
    simp [hor]

/-- The fields of the wire form. -/
theorem fields_of_wireLen (h : path.wireLen = some wire) :
    hashSizeOf wire = path.hashSize ∧
      wire.toNat % 64 * (wire.toNat / 64 + 1) = path.outPathLen.toNat := by
  obtain ⟨-, ⟨hops, hlen⟩, hfew, hwire⟩ := wireLen_eq_some.mp h
  have hpos := path.hashSize_pos
  rw [hlen, Nat.mul_div_cancel_left _ hpos] at hwire
  have hhops : hops ≤ 63 := by
    rw [hlen, Nat.mul_comm] at hfew
    exact Nat.le_of_mul_le_mul_right hfew hpos
  have hmod : wire.toNat % 64 = hops := by omega
  have hdiv : wire.toNat / 64 + 1 = path.hashSize.toNat := by omega
  refine ⟨?_, ?_⟩
  · rw [← UInt8.toNat_inj, toNat_hashSizeOf, hdiv]
  · rw [hmod, hdiv, hlen, Nat.mul_comm]

/-- The queue takes it when it has at most 64 bytes. -/
theorem isValidPathLen_of_wireLen (h : path.wireLen = some wire) :
    isValidPathLen wire = true ↔ path.outPathLen.toNat ≤ maxPathLen := by
  obtain ⟨hsize, hbytes⟩ := fields_of_wireLen h
  have hthree : wire.toNat / 64 ≠ 3 := by
    have hle := UInt8.le_iff_toNat_le.mp path.hashSize_mem.2
    rw [← hsize, toNat_hashSizeOf] at hle
    change _ ≤ 3 at hle
    omega
  rw [isValidPathLen_iff, hbytes]
  exact and_iff_right hthree

theorem Brimful.usable (h : path.Brimful) : path.Usable where
  known := by
    refine .inl fun hzero => ?_
    have hlen := h.2
    rw [hzero] at hlen
    exact absurd hlen (by decide)
  whole := by
    rw [h.1]
    exact one_dvd _
  fits := h.2.le

theorem exists_wireLen (hknown : path.outPathLen ≠ 0 ∨ path.isNeighbor = true)
    (hwhole : path.hashSize.toNat ∣ path.outPathLen.toNat)
    (hfew : path.outPathLen.toNat ≤ 63 * path.hashSize.toNat) :
    ∃ wire, path.wireLen = some wire := by
  have hsize : path.hashSize.toNat ≤ 3 := UInt8.le_iff_toNat_le.mp path.hashSize_mem.2
  have hhops : path.outPathLen.toNat / path.hashSize.toNat ≤ 63 :=
    Nat.div_le_of_le_mul (hfew.trans_eq (Nat.mul_comm ..))
  refine ⟨UInt8.ofNat
    (64 * (path.hashSize.toNat - 1) + path.outPathLen.toNat / path.hashSize.toNat),
    wireLen_eq_some.mpr ⟨hknown, hwhole, hfew, ?_⟩⟩
  rw [UInt8.toNat_ofNat', Nat.mod_eq_of_lt (by omega)]

/-- The encoder takes a path when the path is usable and not brimful, and when it is overlong. -/
theorem isSome_wireLen :
    path.wireLen.isSome ↔ (path.Usable ∧ ¬path.Brimful) ∨ path.Overlong := by
  have hone : path.hashSize = 1 ↔ path.hashSize.toNat = 1 := by
    rw [← UInt8.toNat_inj]
    rfl
  constructor
  · intro hsome
    obtain ⟨wire, hwire⟩ := Option.isSome_iff_exists.mp hsome
    obtain ⟨hknown, hwhole, hfew, -⟩ := wireLen_eq_some.mp hwire
    by_cases hfits : path.outPathLen.toNat ≤ maxPathLen
    · refine .inl ⟨⟨hknown, hwhole, hfits⟩, fun hbrim => ?_⟩
      rw [hbrim.2, hone.mp hbrim.1] at hfew
      exact absurd hfew (by decide)
    · exact .inr ⟨hwhole, not_le.mp hfits, hfew⟩
  · rintro (⟨husable, hbrim⟩ | ⟨hwhole, hlong, hfew⟩)
    · have hfew : path.outPathLen.toNat ≤ 63 * path.hashSize.toNat := by
        have hfits : path.outPathLen.toNat ≤ 64 := husable.fits
        have hpos := path.hashSize_pos
        by_contra hmany
        -- Only a size of one leaves room for 64 bytes beyond 63 hashes.
        exact hbrim ⟨hone.mpr (by omega), show path.outPathLen.toNat = 64 by omega⟩
      exact Option.isSome_iff_exists.mpr (exists_wireLen husable.known husable.whole hfew)
    · refine Option.isSome_iff_exists.mpr (exists_wireLen (.inl fun hzero => ?_) hwhole hfew)
      rw [hzero] at hlong
      exact absurd hlong (by decide)

end PeerPath

/-! ### Packets on their way to a peer -/

/-- The hash size of this node, as `localPathHashSizeGet` makes it from the host's answer. -/
def Hooks.localPathHashSize (h : Hooks) : UInt8 :=
  h.nodeRuntimePolicy.elim pathHashSizeDefault fun p => normalizePathHashSize p.pathHashSize

/-- A packet goes along the stored path: with its bytes and its hash size. -/
structure Follows (path : PeerPath) (packet : Packet) : Prop where
  route : packet.getRouteType = routeTypeDirect
  hashSize : packet.getPathHashSize = path.hashSize
  pathBytes : packet.pathBytes = path.outPath.slice 0 path.outPathLen.toNat

/-- A packet starts as a flood with this hash size. -/
structure Floods (hashSize : UInt8) (packet : Packet) : Prop where
  route : packet.getRouteType = routeTypeFlood
  hashSize : packet.getPathHashSize = hashSize
  hashCount : packet.getPathHashCount = 0

/-- A packet follows the stored path when that is usable, and is a flood otherwise. -/
inductive Routed (stored : Option PeerPath) (hashSize : UInt8) (packet : Packet) : Prop where
  | direct {path : PeerPath} (hstored : stored = some path) (husable : path.Usable)
      (hfollows : Follows path packet)
  | flood (hunusable : ∀ path, stored = some path → ¬path.Usable) (hfloods : Floods hashSize packet)

/-- The limits agree on the stored path. -/
def Agreed (stored : Option PeerPath) : Prop :=
  ∀ path, stored = some path → ¬path.Overlong ∧ ¬path.Brimful

/-- At least one packet and at most `n` go to the end of the send queue, all with the property. -/
def ShippedUpTo (n : ℕ) (Q : Packet → Prop) (w w' : World) : Prop :=
  ∃ entries : List QueueEntry, entries ≠ [] ∧ entries.length ≤ n ∧
    w'.packetManager.sendQueue.entries = w.packetManager.sendQueue.entries ++ entries ∧
    ∀ entry ∈ entries, Q (w'.packetManager.packetBuf entry.packet)

section

variable {n : ℕ} {P Q : Packet → Prop} {ctx : Ctx} {w w' w'' : World}

theorem Shipped.and (hP : Shipped P w w') (hQ : Shipped Q w w') :
    Shipped (fun packet => P packet ∧ Q packet) w w' := by
  obtain ⟨entry, hentries, hp⟩ := hP
  obtain ⟨entry', hentries', hq⟩ := hQ
  obtain rfl := List.singleton_inj.mp (List.append_cancel_left (hentries.symm.trans hentries'))
  exact ⟨entry, hentries, hp, hq⟩

theorem Shipped.upTo (h : Shipped Q w w') (hn : 1 ≤ n) : ShippedUpTo n Q w w' := by
  obtain ⟨entry, hentries, hQ⟩ := h
  exact ⟨[entry], List.cons_ne_nil _ _, hn, hentries, List.forall_mem_singleton.mpr hQ⟩

theorem ShippedUpTo.imp (h : ShippedUpTo n P w w') (hPQ : ∀ packet, P packet → Q packet) :
    ShippedUpTo n Q w w' := by
  obtain ⟨entries, hne, hlen, hentries, hP⟩ := h
  exact ⟨entries, hne, hlen, hentries, fun entry hentry => hPQ _ (hP entry hentry)⟩

theorem ShippedUpTo.after (h : Unsent ctx w w') (hs : ShippedUpTo n Q w' w'') :
    ShippedUpTo n Q w w'' := by
  obtain ⟨entries, hne, hlen, hentries, hQ⟩ := hs
  exact ⟨entries, hne, hlen, by rw [hentries, h], hQ⟩

theorem ShippedUpTo.before (hs : ShippedUpTo n Q w w') (h : KeepsManager ctx w' w'') :
    ShippedUpTo n Q w w'' := by
  rw [ShippedUpTo, h]
  exact hs

/-- Nothing is shipped while the send queue stays. -/
theorem ShippedUpTo.not_unsent (hs : ShippedUpTo n Q w w') : ¬Unsent ctx w w' := by
  obtain ⟨entries, hne, -, hentries, -⟩ := hs
  intro hunsent
  rw [hunsent] at hentries
  exact hne (List.self_eq_append_right.mp hentries)

/-- A packet cannot have two properties that exclude each other. -/
theorem ShippedUpTo.not_of_disjoint (hs : ShippedUpTo n P w w')
    (hPQ : ∀ packet, P packet → ¬Q packet) : ¬ShippedUpTo n Q w w' := by
  obtain ⟨entries, hne, -, hentries, hP⟩ := hs
  rintro ⟨entries', -, -, hentries', hQ⟩
  obtain rfl := List.append_cancel_left (hentries.symm.trans hentries')
  obtain ⟨entry, hentry⟩ := List.exists_mem_of_ne_nil _ hne
  exact hPQ _ (hP entry hentry) (hQ entry hentry)

/-- What becomes of the packets for a peer: the encoder takes no path, or takes one that the queue
takes, or one that the queue does not. -/
inductive Sending (n : ℕ) (stored : Option PeerPath) (hashSize : UInt8) (ctx : Ctx) (w w' : World) :
    Prop where
  | flooded (hnone : stored.bind PeerPath.wireLen = none)
      (hshipped : ShippedUpTo n (Floods hashSize) w w')
  | followed {path : PeerPath} {wire : UInt8} (hstored : stored = some path)
      (hwire : path.wireLen = some wire) (hvalid : isValidPathLen wire = true)
      (hshipped : ShippedUpTo n (Follows path) w w')
  | dropped {path : PeerPath} {wire : UInt8} (hstored : stored = some path)
      (hwire : path.wireLen = some wire) (hvalid : isValidPathLen wire = false)
      (hunsent : Unsent ctx w w')

/-- The packets are routed as the stored path says exactly when the limits agree on that. -/
theorem Sending.routed_iff {stored : Option PeerPath} {hashSize : UInt8}
    (h : Sending n stored hashSize ctx w w') :
    ShippedUpTo n (Routed stored hashSize) w w' ↔ Agreed stored := by
  cases h with
  | flooded hnone hshipped =>
    have hrefused : ∀ path, stored = some path → ¬path.wireLen.isSome := by
      rintro path rfl
      rw [Option.bind_some] at hnone
      simp [hnone]
    refine ⟨fun hs path hstored => ⟨fun hlong => ?_, fun hbrim => ?_⟩, fun hagreed => ?_⟩
    · exact hrefused path hstored (PeerPath.isSome_wireLen.mpr (.inr hlong))
    · refine hshipped.not_of_disjoint (fun packet hfloods hrouted => ?_) hs
      cases hrouted with
      | direct _ _ hfollows => exact absurd (hfloods.route.symm.trans hfollows.route) (by decide)
      | flood hunusable => exact hunusable path hstored hbrim.usable
    · refine hshipped.imp fun packet hfloods => .flood (fun path hstored husable => ?_) hfloods
      exact hrefused path hstored
        (PeerPath.isSome_wireLen.mpr (.inl ⟨husable, (hagreed path hstored).2⟩))
  | @followed path wire hstored hwire hvalid hshipped =>
    have hfits := (PeerPath.isValidPathLen_of_wireLen hwire).mp hvalid
    have hlong : ¬path.Overlong := fun hlong => (not_le.mpr hlong.2.1) hfits
    obtain ⟨husable, hbrim⟩ :=
      (PeerPath.isSome_wireLen.mp (Option.isSome_of_mem hwire)).resolve_right hlong
    refine iff_of_true (hshipped.imp fun packet hfollows => .direct hstored husable hfollows) ?_
    rintro path' hstored'
    obtain rfl := Option.some.inj (hstored.symm.trans hstored')
    exact ⟨hlong, hbrim⟩
  | @dropped path wire hstored hwire hvalid hunsent =>
    refine iff_of_false (fun hs => hs.not_unsent hunsent) fun hagreed => ?_
    obtain ⟨-, hwhole, hfew, -⟩ := PeerPath.wireLen_eq_some.mp hwire
    refine (hagreed path hstored).1 ⟨hwhole, not_le.mp fun hfits => ?_, hfew⟩
    rw [(PeerPath.isValidPathLen_of_wireLen hwire).mpr hfits] at hvalid
    cases hvalid

end

/-! ### One packet -/

section

variable {ctx : Ctx} {w : World} {id : PacketId} {held : List PacketId} {type : UInt8}
  {bytes : List UInt8} {path : PeerPath} {wire : UInt8}

theorem localPathHashSizeGet_run (ctx : Ctx) (w : World) :
    localPathHashSizeGet ctx w
      = ((ctx.hooks w.tick).localPathHashSize, { w with tick := w.tick + 1 }) :=
  rfl

theorem Hooks.localPathHashSize_mem (h : Hooks) :
    h.localPathHashSize ≠ 0 ∧ h.localPathHashSize ≤ 3 := by
  rw [Hooks.localPathHashSize]
  cases h.nodeRuntimePolicy with
  | none => decide
  | some policy => exact normalizePathHashSize_mem policy.pathHashSize

theorem floods_setPathHashSizeAndCount (packet : Packet) {hashSize : UInt8} (h0 : hashSize ≠ 0)
    (h3 : hashSize ≤ 3) :
    Floods hashSize ((packet.withRouteType routeTypeFlood).setPathHashSizeAndCount hashSize 0) := by
  have hle : hashSize.toNat ≤ 3 := UInt8.le_iff_toNat_le.mp h3
  have hpos : hashSize.toNat ≠ 0 := fun h => h0 (UInt8.toNat_inj.mp h)
  have hfield := toNat_pathLenField_setPathHashSizeAndCount (packet.withRouteType routeTypeFlood)
    h0 h3
  refine ⟨getRouteType_withRouteType packet (by decide), ?_, ?_⟩
  · rw [← UInt8.toNat_inj, Packet.getPathHashSize, toNat_hashSizeOf, hfield]
    omega
  · rw [← UInt8.toNat_inj, Packet.getPathHashCount, toNat_hashCountOf, hfield]
    exact Nat.mul_mod_right ..

theorem meshSendFlood_floods (delayMillis : UInt32) {hashSize : UInt8} (h0 : hashSize ≠ 0)
    (h3 : hashSize ≤ 3) (htrace : type ≠ payloadTypeTrace) (hpool : w.PoolIntact ctx (id :: held))
    (hload : Load type bytes (w.packetManager.packetBuf id)) :
    Shipped (Floods hashSize) w (meshSendFlood id delayMillis hashSize ctx w).2 := by
  have hroute : ¬((w.packetManager.packetBuf id).getPayloadType = payloadTypeTrace ∨
      hashSize = 0 ∨ hashSize > 3) := by
    rw [hload.type_eq, not_or, not_or]
    exact ⟨htrace, h0, UInt8.not_lt.mpr h3⟩
  simp only [meshSendFlood, readPacket, Prog.run_bind, Prog.run_gets, Prog.run_ite]
  rw [if_neg hroute]
  exact shipped_of_written (recordSentFlood _) _ _ hpool (floods_setPathHashSizeAndCount _ h0 h3)
    (isValidPathLen_setPathHashSizeAndCount _ h0 h3) (hload.payloadLen_eq.trans_le hload.length_le)

theorem follows_along (packet : Packet) (hwire : path.wireLen = some wire)
    (hvalid : isValidPathLen wire = true) :
    Follows path (packet.along path.outPath.bytes wire) := by
  obtain ⟨hsize, hbytes⟩ := PeerPath.fields_of_wireLen hwire
  have hfield : (packet.along path.outPath.bytes wire).pathLenField = wire :=
    Packet.pathLenField_along ..
  let stored : Packet := { Packet.init with path := path.outPath, pathLen := wire.toUInt16 }
  have hstored : stored.pathLenField = wire := UInt8.toUInt8_toUInt16 _
  have hcopied : pathBuf path.outPath.bytes = path.outPath := Buf.store_bytes _ _
  refine ⟨getRouteType_withRouteType packet (by decide), ?_, ?_⟩
  · rw [Packet.getPathHashSize, hfield, hsize]
  · have hsame : (packet.along path.outPath.bytes wire).pathBytes = stored.pathBytes := by
      refine pathBytes_of_copyPath (by rwa [hstored]) (hfield.trans hstored.symm) (?_ :
        _ = (copyPath packet.path stored.path stored.pathLenField).2)
      rw [hstored]
      show (copyPath packet.path (pathBuf path.outPath.bytes) wire).2
          = (copyPath packet.path path.outPath wire).2
      rw [hcopied]
    rw [hsame, Packet.pathBytes, Packet.toNat_getPathByteLen, hstored, hbytes]

theorem meshSendDirect_follows (delayMillis : UInt32) (hwire : path.wireLen = some wire)
    (hvalid : isValidPathLen wire = true) (htrace : type ≠ payloadTypeTrace)
    (hpool : w.PoolIntact ctx (id :: held))
    (hload : Load type bytes (w.packetManager.packetBuf id)) :
    Shipped (Follows path) w (meshSendDirect id path.outPath.bytes wire delayMillis ctx w).2 := by
  rw [meshSendDirect_run path.outPath.bytes wire delayMillis (hload.type_eq ▸ htrace)]
  exact shipped_of_written (tablesHasSeen _) _ _ hpool (follows_along _ hwire hvalid)
    (by rwa [Packet.pathLenField_along]) (hload.payloadLen_eq.trans_le hload.length_le)

/-- What the encoder makes of the stored path. -/
theorem Hooks.wirePath_cases (h : Hooks) (publicKey : Buf publicKeySize) :
    ((h.peerPathByKey publicKey).bind PeerPath.wireLen = none ∧ h.wirePath publicKey = none) ∨
      ∃ path wire, h.peerPathByKey publicKey = some path ∧ path.wireLen = some wire ∧
        h.wirePath publicKey = some (path, wire) := by
  have hpath : h.wirePath publicKey =
      (h.peerPathByKey publicKey).bind fun path => path.wireLen.map (path, ·) := by
    rw [Hooks.wirePath]
    congr 1
    funext path
    rw [PeerPath.wireLen]
    split <;> rfl
  rw [hpath]
  cases hstored : h.peerPathByKey publicKey with
  | none => exact .inl ⟨rfl, rfl⟩
  | some path =>
    cases hwire : path.wireLen with
    | none => exact .inl ⟨hwire, by simp [hwire]⟩
    | some wire => exact .inr ⟨path, wire, rfl, hwire, by simp [hwire]⟩

/-- The way to a peer: the stored path is asked for first. -/
theorem sendToPeer_sending (publicKey : Buf publicKeySize) (delayMillis : UInt32)
    (htrace : type ≠ payloadTypeTrace) (hpool : w.PoolIntact ctx (id :: held))
    (hload : Load type bytes (w.packetManager.packetBuf id)) :
    let w' := (sendToPeer id publicKey delayMillis ctx w).2
    ∃ h ∈ answers ctx w w', ∃ h' ∈ answers ctx w w',
      Sending 1 (h.peerPathByKey publicKey) h'.localPathHashSize ctx w w' := by
  intro w'
  let asked : World := { w with tick := w.tick + 1 }
  let h := ctx.hooks w.tick
  have hpool' : asked.PoolIntact ctx (id :: held) :=
    ⟨hpool.conserves, hpool.poolSize, hpool.reissued⟩
  have hrun : w' = ((h.wirePath publicKey).elim (requestSendFlood id delayMillis)
      (fun path => meshSendDirect id path.1.outPath.bytes path.2 delayMillis) ctx asked).2 := rfl
  rcases h.wirePath_cases publicKey with ⟨hnone, hpath⟩ | ⟨path, wire, hstored, hwire, hpath⟩
  · rw [hpath] at hrun
    let h' := ctx.hooks (w.tick + 1)
    have hsize := h'.localPathHashSize_mem
    have hsent : w' = (meshSendFlood id delayMillis h'.localPathHashSize ctx
        { w with tick := w.tick + 2 }).2 := hrun
    have hlater : w.tick + 2 ≤ w'.tick := by
      rw [hsent]
      exact ((inferInstance : Moves Mute (meshSendFlood id delayMillis h'.localPathHashSize)).moves
        ctx { w with tick := w.tick + 2 }).2.2.2.2.2
    have hshipped : Shipped (Floods h'.localPathHashSize) { w with tick := w.tick + 2 } w' := by
      rw [hsent]
      have hpool₂ : { w with tick := w.tick + 2 }.PoolIntact ctx (id :: held) :=
        ⟨hpool.conserves, hpool.poolSize, hpool.reissued⟩
      exact meshSendFlood_floods delayMillis hsize.1 hsize.2 htrace hpool₂ hload
    exact ⟨h, mem_answers le_rfl (by omega), h', mem_answers (Nat.le_succ _) (by omega),
      .flooded hnone (Shipped.upTo hshipped le_rfl)⟩
  · rw [hpath] at hrun
    have hlater : asked.tick ≤ w'.tick := by
      rw [hrun]
      have hmute : Moves Mute (meshSendDirect id path.outPath.bytes wire delayMillis) :=
        inferInstance
      exact (hmute.moves ctx asked).2.2.2.2.2
    have hmem : h ∈ answers ctx w w' := mem_answers le_rfl (Nat.lt_of_succ_le hlater)
    refine ⟨h, hmem, h, hmem, ?_⟩
    cases hvalid : isValidPathLen wire with
    | true =>
      have hshipped : Shipped (Follows path) asked w' := by
        rw [hrun]
        exact meshSendDirect_follows delayMillis hwire hvalid htrace hpool' hload
      exact .followed hstored hwire hvalid (Shipped.upTo hshipped le_rfl)
    | false =>
      have hunsent : Unsent ctx asked w' := by
        rw [hrun]
        exact meshSendDirect_unsent path.outPath.bytes delayMillis hvalid htrace hload
      exact .dropped hstored hwire hvalid hunsent

end

/-! ### Requests -/

/-- Between two states packets for the peer were sent, at most `n`, by the answers that the host
gave. -/
def SentTo (n : ℕ) (publicKey : Buf publicKeySize) (ctx : Ctx) (w w' : World) : Prop :=
  ∃ h ∈ answers ctx w w', ∃ h' ∈ answers ctx w w',
    Sending n (h.peerPathByKey publicKey) h'.localPathHashSize ctx w w'

/-- Nothing was sent, and the host was told so. -/
def Reported (ctx : Ctx) (w w' : World) : Prop :=
  Unsent ctx w w' ∧ ∃ es type code, w'.events = w.events ++ es ∧ Event.requestError type code ∈ es

/-- The host has an identity and its cipher works, so that packets can be made. -/
def Hooks.MakesPackets (h : Hooks) : Prop := h.nodeIdentity.1 = 0 ∧ h.CipherWorks

/-- Nothing was sent, and the host was told so, since by one of its own answers no packet could be
made. -/
def Unmade (ctx : Ctx) (w w' : World) : Prop :=
  Reported ctx w w' ∧ ∃ h ∈ answers ctx w w', ¬h.MakesPackets

section

variable {n : ℕ} {publicKey : Buf publicKeySize} {ctx : Ctx} {w w' w'' : World}

theorem Sending.after {stored : Option PeerPath} {hashSize : UInt8} (h : Unsent ctx w w')
    (hs : Sending n stored hashSize ctx w' w'') : Sending n stored hashSize ctx w w'' := by
  cases hs with
  | flooded hnone hshipped => exact .flooded hnone (hshipped.after h)
  | followed hstored hwire hvalid hshipped =>
    exact .followed hstored hwire hvalid (hshipped.after h)
  | dropped hstored hwire hvalid hunsent =>
    exact .dropped hstored hwire hvalid (Composes.trans ctx w w' w'' h hunsent)

theorem SentTo.after (h : Unsent ctx w w') (htick : w.tick ≤ w'.tick)
    (hs : SentTo n publicKey ctx w' w'') : SentTo n publicKey ctx w w'' := by
  have hmono : answers ctx w' w'' ⊆ answers ctx w w'' := answers_mono htick le_rfl
  obtain ⟨h₁, hmem₁, h₂, hmem₂, hsending⟩ := hs
  exact ⟨h₁, hmono hmem₁, h₂, hmono hmem₂, hsending.after h⟩

end

/-- A program that sends the packet in its hands to the peer. -/
class Heads (P : Packet → Prop) (publicKey : Buf publicKeySize) (id : PacketId) (m : M Unit) :
    Prop where
  heads : ∀ ctx w, w.PoolIntact ctx [id] → P (w.packetManager.packetBuf id) →
    SentTo 1 publicKey ctx w (m ctx w).2

/-- A program that makes a packet and sends it to the peer, or reports that it could not make
one. -/
class Directed (publicKey : Buf publicKeySize) (m : M Unit) : Prop where
  directed : ∀ ctx w, w.HasRoom ctx →
    Unmade ctx w (m ctx w).2 ∨ SentTo 1 publicKey ctx w (m ctx w).2

section

variable {publicKey : Buf publicKeySize} {α : Type}

instance {type : UInt8} [ht : Floodable type] (id : PacketId) (delayMillis : UInt32) :
    Heads (Loaded type) publicKey id (sendToPeer id publicKey delayMillis) where
  heads ctx w hpool := by
    rintro ⟨bytes, hload⟩
    exact sendToPeer_sending publicKey delayMillis ht.ne_trace hpool hload

instance Heads.bind {P : Packet → Prop} {id : PacketId} (m : M α) (f : α → M Unit)
    [hm : Moves Notes m] [hf : ∀ a, Heads P publicKey id (f a)] :
    Heads P publicKey id (m >>= f) where
  heads ctx w hpool hP := by
    obtain ⟨hnotes, htick⟩ := hm.moves ctx w
    have hunsent : Unsent ctx w (m ctx w).2 := by rw [Unsent, hnotes]
    refine SentTo.after hunsent htick ((hf (m ctx w).1).heads ctx _ ?_ ?_)
    · rw [hnotes]
      exact ⟨hpool.conserves, hpool.poolSize, hpool.reissued⟩
    · rw [hnotes]
      exact hP

theorem Unmade.after {ctx : Ctx} {w w' w'' : World} (h : Idle ctx w w') (hu : Unmade ctx w' w'') :
    Unmade ctx w w'' := by
  obtain ⟨⟨hunsent, es, type, code, hevents, hmem⟩, h₁, hanswer, hnot⟩ := hu
  refine ⟨⟨Composes.trans ctx w w' w'' h.unsent hunsent, es, type, code, ?_, hmem⟩, h₁,
    answers_mono h.2 le_rfl hanswer, hnot⟩
  rw [hevents, h.1]

theorem reported_of_failure {ctx : Ctx} {w w' : World} (hunsent : Unsent ctx w w')
    (hevents : w'.events = w.events) (type : RequestType) {code : ℤ}
    (hcode : code = eNOBUFS ∨ code = eAGAIN) :
    Reported ctx w (requestLogTransientFailure type code ctx w').2 := by
  rw [requestLogTransientFailure_run type hcode]
  exact ⟨hunsent, _, type, code, congrArg (· ++ _) hevents, List.mem_singleton_self _⟩

theorem unmade_of_failure {ctx : Ctx} {w w' : World} (hunsent : Unsent ctx w w')
    (hevents : w'.events = w.events) (type : RequestType) {code : ℤ}
    (hcode : code = eNOBUFS ∨ code = eAGAIN) (hnot : ∃ h ∈ answers ctx w w', ¬h.MakesPackets) :
    Unmade ctx w (requestLogTransientFailure type code ctx w').2 := by
  refine ⟨reported_of_failure hunsent hevents type hcode, ?_⟩
  rw [requestLogTransientFailure_run type hcode]
  exact hnot

instance Directed.bind (m : M α) (f : α → M Unit) [hm : Moves Idle m]
    [hf : ∀ a, Directed publicKey (f a)] : Directed publicKey (m >>= f) where
  directed ctx w hroom := by
    have hidle := hm.moves ctx w
    exact ((hf (m ctx w).1).directed ctx _ (hidle.hasRoom hroom)).imp (Unmade.after hidle)
      (SentTo.after hidle.unsent hidle.2)

instance (type : RequestType) (m : M Unit) [hm : Directed publicKey m] :
    Directed publicKey (withLocalIdentity type m) where
  directed ctx w hroom := by
    have hidle : Idle ctx w (syncLocalIdentity ctx w).2 := Moves.moves ctx w
    have hlater := tick_lt_syncLocalIdentity ctx w
    simp only [withLocalIdentity, Prog.run_bind, Prog.run_ite, syncLocalIdentity_eq ctx w]
    split
    · rename_i hunknown
      exact .inl (unmade_of_failure hidle.unsent (by rw [hidle.1]) type (.inr rfl)
        ⟨_, mem_answers le_rfl hlater, fun hmakes => hunknown hmakes.1⟩)
    · exact (hm.directed ctx _ (hidle.hasRoom hroom)).imp (Unmade.after hidle)
        (SentTo.after hidle.unsent hidle.2)

/-- What follows may rely on what the first program answers. -/
theorem Directed.bind_of_returns {P : α → Prop} {m : M α} {f : α → M Unit} [hP : Returns P m]
    [hm : Moves Idle m] (hf : ∀ a, P a → Directed publicKey (f a)) :
    Directed publicKey (m >>= f) where
  directed ctx w hroom := by
    have hidle := hm.moves ctx w
    exact ((hf _ (hP.returns ctx w)).directed ctx _ (hidle.hasRoom hroom)).imp (Unmade.after hidle)
      (SentTo.after hidle.unsent hidle.2)

theorem withRequestPacket_directed {P : Packet → Prop} (type : RequestType)
    (packet : M (Option PacketId)) (send : PacketId → M Unit)
    [hu : Uses Carries [] packet Option.toList] [hP : Fills P packet] [hq : Moves Unsent packet]
    [hm : Moves Mute packet] [hs : ∀ id, Heads P publicKey id (send id)]
    (hsucceeds : Succeeds packet) : Directed publicKey (withRequestPacket type packet send) where
  directed ctx w hroom := by
    have hmute := hm.moves ctx w
    cases hid : (packet ctx w).1 with
    | none =>
      have hnot : ∃ h ∈ answers ctx w (packet ctx w).2, ¬h.MakesPackets := by
        by_contra hall
        have hworks : ∀ h ∈ answers ctx w (packet ctx w).2, h.CipherWorks :=
          fun h hmem => (not_not.mp fun hnot => hall ⟨h, hmem, hnot⟩ : h.MakesPackets).2
        have hsome := hsucceeds.succeeds ctx w hroom hworks
        rw [hid] at hsome
        cases hsome
      rw [withRequestPacket, Prog.run_bind, hid, Option.elim_none]
      exact .inl (unmade_of_failure (hq.moves ctx w) hmute.1 type (.inl rfl) hnot)
    | some id =>
      have hmade := Made.of_some hroom.pool hid (hP.fills ctx w id hid)
      rw [withRequestPacket_run hid]
      exact .inr
        (SentTo.after hmade.unsent hmute.2.2.2.2.2 ((hs id).heads ctx _ hmade.pool hmade.packet))

end

/-- The peer that a request goes to along a stored path, if one is known. -/
def Op.peer : Op → Option (Buf publicKeySize)
  | .messageSendToNode publicKey false _ _ => publicKey
  | .nodeTelemetryRequest publicKey _ _ | .nodeBinaryRequestWithTag publicKey _ _
  | .nodeAnonDataSend publicKey _ => publicKey
  | .nodeBinaryResponse (some event) _ =>
    if event.route = .flood then none else some event.publicKey
  | _ => none

theorem executeMessageSendToNode_directed {publicKey : Option (Buf publicKeySize)} {attempt : UInt8}
    {payload : Option (List UInt8)} {r : MessageSendToNode}
    (h : validateMessageSendToNode publicKey false attempt payload = some r) :
    Directed r.publicKey (executeMessageSendToNode r) := by
  obtain ⟨-, -, hflood, -, -, -, hattempt⟩ := of_validateMessageSendToNode h
  have hsend : ∀ (ack timestamp : UInt32) (secret : Buf publicKeySize), Directed r.publicKey
      (withRequestPacket .messageSendToNode
        (meshCreateDatagram payloadTypeTxtMsg r.publicKey secret
          (textPlain timestamp r.attempt r.payload ++
            (if r.attempt > 3 then [0, r.attempt] else []))) fun id => do
        expectedAckRegister ack (keyPrefixOf r.publicKey) r.attempt
        if r.flood then requestSendFlood id 0 else sendToPeer id r.publicKey 0) := by
    intro ack timestamp secret
    simp only [hflood, Bool.false_eq_true, if_false]
    exact withRequestPacket_directed (P := Loaded payloadTypeTxtMsg) _ _ _
      (meshCreateDatagram_succeeds r.publicKey secret (.inl rfl) (textPlain_fits h timestamp))
  rw [executeMessageSendToNode, if_neg hattempt]
  infer_instance

theorem executeNodeTelemetry_directed (r : NodeTelemetry) (tag : UInt32) :
    Directed r.publicKey (executeNodeTelemetry r tag) := by
  have hsend : ∀ (tag : UInt32) (data : List UInt8), meshDatagramPlaintextFits data.length = true →
      Directed r.publicKey (do
        let secret ← selfSharedSecret r.publicKey
        withRequestPacket .nodeTelemetry
          (meshCreateDatagram payloadTypeReq r.publicKey secret data) fun id => do
            pendingTelemetryRegister tag r.publicKey r.permissionMask
            sendToPeer id r.publicKey 0) := by
    intro tag data hfits
    have hmade : ∀ secret, Directed r.publicKey (withRequestPacket .nodeTelemetry
        (meshCreateDatagram payloadTypeReq r.publicKey secret data) fun id => do
          pendingTelemetryRegister tag r.publicKey r.permissionMask
          sendToPeer id r.publicKey 0) := fun secret =>
      withRequestPacket_directed (P := Loaded payloadTypeReq) .nodeTelemetry _ _
        (meshCreateDatagram_succeeds r.publicKey secret (.inr (.inl rfl)) hfits)
    infer_instance
  have hdata := fun tag => Directed.bind_of_returns (m := telemetryReqData tag r.permissionMask)
    (hsend tag)
  unfold executeNodeTelemetry
  infer_instance

theorem executeNodeBinary_directed {publicKey : Option (Buf publicKeySize)}
    {payload : Option (List UInt8)} {r : NodePayload}
    (h : validateNodeBinary publicKey payload = some r) (tag : UInt32) :
    Directed r.publicKey (executeNodeBinary r tag) := by
  obtain ⟨-, -, -, -, hfits⟩ := of_validateNodeBinary h
  have hsend : ∀ (tag : UInt32) (secret : Buf publicKeySize),
      Directed r.publicKey (withRequestPacket .nodeBinary
        (meshCreateDatagram payloadTypeReq r.publicKey secret (leBytes 4 tag.toNat ++ r.payload))
        fun id => do
          pendingBinaryRegister tag r.publicKey
          sendToPeer id r.publicKey 0) := fun tag secret =>
    withRequestPacket_directed (P := Loaded payloadTypeReq) _ _ _
      (meshCreateDatagram_succeeds r.publicKey secret (.inr (.inl rfl))
        (by rwa [List.length_append, length_leBytes]))
  unfold executeNodeBinary
  infer_instance

theorem executeNodeAnonData_directed {publicKey : Option (Buf publicKeySize)}
    {payload : Option (List UInt8)} {r : NodePayload}
    (h : validateNodeAnonData publicKey payload = some r) :
    Directed r.publicKey (executeNodeAnonData r) := by
  obtain ⟨-, -, hfits⟩ := of_validateNodeAnonData h
  have hsend : ∀ (sender : LocalIdentity) (secret : Buf publicKeySize),
      Directed r.publicKey (withRequestPacket .nodeAnonData
        (meshCreateAnonDatagram payloadTypeAnonReq sender r.publicKey secret r.payload)
        fun id => sendToPeer id r.publicKey 0) := fun sender secret =>
    withRequestPacket_directed (P := Loaded payloadTypeAnonReq) _ _ _
      (meshCreateAnonDatagram_succeeds sender r.publicKey secret hfits)
  unfold executeNodeAnonData
  infer_instance

theorem executeNodeBinaryResponse_directed {request : Option BinaryRequestEvent}
    {payload : Option (List UInt8)} {r : NodeBinaryResponse}
    (h : validateNodeBinaryResponse request payload = some r) (hroute : r.request.route ≠ .flood) :
    Directed r.request.publicKey (executeNodeBinaryResponse r) := by
  obtain ⟨-, -, -, hfits, -, -⟩ := of_validateNodeBinaryResponse h
  have hsend : ∀ secret : Buf publicKeySize,
      Directed r.request.publicKey (withRequestPacket .nodeBinaryResponse
        (meshCreateDatagram payloadTypeResponse r.request.publicKey secret
          (leBytes 4 r.request.tag.toNat ++ r.payload))
        fun id => sendToPeer id r.request.publicKey runtimeServerResponseDelayMs) := fun secret =>
    withRequestPacket_directed (P := Loaded payloadTypeResponse) _ _ _
      (meshCreateDatagram_succeeds r.request.publicKey secret (.inr (.inr rfl))
        (by rwa [List.length_append, length_leBytes]))
  unfold executeNodeBinaryResponse
  simp only [if_neg hroute]
  infer_instance

section

variable {publicKey : Buf publicKeySize} {ctx : Ctx} {w : World} {α : Type} {record : Option α}

theorem request_directed {execute : α → M Unit} (hw : Reachable ctx w)
    (h : (request record (fun r => requestExecuteNow (execute r)) ctx w).1 = 0)
    (hd : ∀ r, record = some r → Directed publicKey (execute r)) :
    ∃ w', (Unmade ctx w w' ∨ SentTo 1 publicKey ctx w w') ∧
      (request record (fun r => requestExecuteNow (execute r)) ctx w).2
        = (timerSyncNow ctx w').2 := by
  obtain ⟨r, hr, hinit, hfree, hrun⟩ := request_executed h
  exact ⟨_, (hd r hr).directed ctx w ⟨hw.poolIntact hinit, hfree⟩, hrun⟩

theorem requestWithTag_directed {requestTag : Option UInt32} {execute : α → UInt32 → M Unit}
    (hw : Reachable ctx w) (h : (requestWithTag record requestTag execute ctx w).1.1 = 0)
    (hd : ∀ r tag, record = some r → Directed publicKey (execute r tag)) :
    ∃ w', (Unmade ctx w w' ∨ SentTo 1 publicKey ctx w w') ∧
      (requestWithTag record requestTag execute ctx w).2 = (timerSyncNow ctx w').2 := by
  obtain ⟨r, tag, w', hr, hidle, hinit, hfree, hrun⟩ := requestWithTag_executed h
  have hroom : w.HasRoom ctx := by
    rw [hidle.1] at hinit hfree
    exact ⟨hw.poolIntact hinit, hfree⟩
  exact ⟨_, ((hd r tag hr).directed ctx w' (hidle.hasRoom hroom)).imp (Unmade.after hidle)
    (SentTo.after hidle.unsent hidle.2), hrun⟩

end

theorem not_reported_of_all {ctx : Ctx} {w w' : World}
    (h : w'.events.all (fun e => match e with | .requestError .. => false | _ => true) = true) :
    ¬Reported ctx w w' := by
  rintro ⟨-, es, type, code, hes, hmem⟩
  rw [hes, List.all_eq_true] at h
  exact absurd (h _ (List.mem_append_right _ hmem)) (by simp)

/-- What becomes of an accepted request to a peer, before the timer is synchronised. -/
theorem Op.directed {op : Op} {publicKey : Buf publicKeySize} (hop : op.peer = some publicKey)
    {ctx : Ctx} {w : World} (hw : Reachable ctx w) (h : (op.run ctx w).1 = 0) :
    ∃ w', (Unmade ctx w w' ∨ SentTo 1 publicKey ctx w w') ∧
      op.next ctx w = (timerSyncNow ctx w').2 := by
  cases op with
  | messageSendToNode publicKey' flood attempt payload =>
    cases flood with
    | true => cases hop
    | false =>
      refine request_directed hw h fun r hr => ?_
      obtain ⟨hkey, -⟩ := of_validateMessageSendToNode hr
      obtain rfl := Option.some.inj (hkey.symm.trans hop)
      exact executeMessageSendToNode_directed hr
  | nodeTelemetryRequest publicKey' mask requestTag =>
    refine requestWithTag_directed hw h fun r tag hr => ?_
    obtain ⟨hkey, -⟩ := of_validateNodeTelemetry hr
    obtain rfl := Option.some.inj (hkey.symm.trans hop)
    exact executeNodeTelemetry_directed r tag
  | nodeBinaryRequestWithTag publicKey' payload tag =>
    refine request_directed hw h fun r hr => ?_
    obtain ⟨hkey, -⟩ := of_validateNodeBinary hr
    obtain rfl := Option.some.inj (hkey.symm.trans hop)
    exact executeNodeBinary_directed hr tag
  | nodeAnonDataSend publicKey' payload =>
    refine request_directed hw h fun r hr => ?_
    obtain ⟨hkey, -⟩ := of_validateNodeAnonData hr
    obtain rfl := Option.some.inj (hkey.symm.trans hop)
    exact executeNodeAnonData_directed hr
  | nodeBinaryResponse event payload =>
    refine request_directed hw h fun r hr => ?_
    obtain ⟨rfl, -⟩ := of_validateNodeBinaryResponse hr
    simp only [Op.peer] at hop
    split at hop
    · cases hop
    · rename_i hroute
      obtain rfl := Option.some.inj hop
      exact executeNodeBinaryResponse_directed hr hroute
  | _ => cases hop

/-! ### Replies -/

section

variable {n : ℕ} {Q : Packet → Prop} {ctx : Ctx} {w w' w'' : World} {held : List PacketId}
  {path : PeerPath} {wire : UInt8} {ack : List UInt8}

/-- One more packet may be shipped after the others, which wait unchanged. -/
theorem ShippedUpTo.snoc {hands : FloodKey → Prop} {h h' : List PacketId}
    (hs : ShippedUpTo n Q w w') (hsteps : Steps hands ctx (h, w') (h', w''))
    {extra : List PacketId} (hc : w'.packetManager.Conserves (h ++ extra))
    (hnext : Unsent ctx w' w'' ∨ Shipped Q w' w'') :
    ShippedUpTo (n + 1) Q w w'' := by
  obtain ⟨entries, hne, hlen, hentries, hQ⟩ := hs
  have hkept : ∀ entry ∈ entries, Q (w''.packetManager.packetBuf entry.packet) := by
    intro entry hentry
    have hmem : entry ∈ w'.packetManager.sendQueue.entries := by
      rw [hentries]
      exact List.mem_append_right _ hentry
    rw [(hsteps.keepsQueue hc).2 entry hmem]
    exact hQ entry hentry
  rcases hnext with hunsent | ⟨last, hlast, hQlast⟩
  · exact ⟨entries, hne, hlen.trans (Nat.le_succ n), by rw [hunsent, hentries], hkept⟩
  · refine ⟨entries ++ [last], by simp, ?_, ?_, ?_⟩
    · rw [List.length_append]
      exact Nat.succ_le_succ hlen
    · rw [hlast, hentries, List.append_assoc]
    · intro entry hentry
      rcases List.mem_append.mp hentry with hentry | hentry
      · exact hkept entry hentry
      · obtain rfl := List.mem_singleton.mp hentry
        exact hQlast

theorem meshCreateMultiAckData_isSome (hack : ack.length ≤ packetPayloadMaxLen - 1)
    (remaining : UInt8) (hpool : w.PoolIntact ctx held) (hfree : 0 < w.packetManager.getFreeCount) :
    (meshCreateMultiAckData ack remaining ctx w).1.isSome := by
  obtain ⟨id, hid⟩ := Option.isSome_iff_exists.mp
    (dispatcherObtainNewPacket_isSome hpool.conserves hfree)
  rw [meshCreateMultiAckData, Prog.run_bind, hid, Option.elim_some, if_neg (not_lt.mpr hack)]
  rfl

/-- The acknowledgement that goes first when the host asks for extra ones, and the delay of the
next. -/
def sendFirstAck (path : PeerPath) (wire : UInt8) (ack : List UInt8) (extraAcks : UInt8) :
    M UInt32 :=
  if extraAcks > 0 then do
    let packet ← meshCreateMultiAckData ack 1
    packet.elim (pure runtimeTxtAckDelayMs) fun id => do
      meshSendDirect id path.outPath.bytes wire runtimeTxtAckDelayMs
      pure (runtimeTxtAckDelayMs + 300)
  else pure runtimeTxtAckDelayMs

/-- The acknowledgement that goes last. -/
def sendLastAck (path : PeerPath) (wire : UInt8) (ack : List UInt8) (delayMs : UInt32) :
    M Unit := do
  let packet ← meshCreateAckData ack
  packet.elim (pure ()) fun id => meshSendDirect id path.outPath.bytes wire delayMs

instance {hands : FloodKey → Prop} (extraAcks : UInt8) :
    Uses (Steps hands) [] (sendFirstAck path wire ack extraAcks) fun _ => [] := by
  unfold sendFirstAck; infer_instance

instance {hands : FloodKey → Prop} (delayMs : UInt32) :
    Uses (Steps hands) [] (sendLastAck path wire ack delayMs) fun _ => [] := by
  unfold sendLastAck; infer_instance

/-- What is sent when a packet could be made: it follows the path, or is dropped. -/
def Goes (path : PeerPath) (valid : Bool) (ctx : Ctx) (w w' : World) : Prop :=
  if valid then Shipped (Follows path) w w' else Unsent ctx w w'

theorem Made.goes {type : UInt8} {bytes : List UInt8} {id : PacketId}
    (h : Made (Packed type bytes) ctx held w id w') (hwire : path.wireLen = some wire)
    (htrace : type ≠ payloadTypeTrace) (delayMs : UInt32) :
    Goes path (isValidPathLen wire) ctx w
      (meshSendDirect id path.outPath.bytes wire delayMs ctx w').2 := by
  rw [Goes]
  split
  · rename_i hvalid
    exact (meshSendDirect_follows delayMs hwire hvalid htrace h.pool h.packet.toLoad).after h.unsent
  · rename_i hvalid
    exact Composes.trans ctx _ _ _ h.unsent
      (meshSendDirect_unsent _ delayMs (by simpa using hvalid) htrace h.packet.toLoad)

theorem sendFirstAck_goes (extraAcks : UInt8) (hwire : path.wireLen = some wire)
    (hack : ack.length ≤ packetPayloadMaxLen - 1) (hpool : w.PoolIntact ctx held)
    (hfree : 0 < w.packetManager.getFreeCount) :
    let w' := (sendFirstAck path wire ack extraAcks ctx w).2
    w' = w ∨ Goes path (isValidPathLen wire) ctx w w' := by
  intro w'
  by_cases hextra : extraAcks > 0
  · obtain ⟨id, hid, hmade⟩ :=
      Made.of_isSome (P := Packed payloadTypeMultipart (multiAckHead 1 :: ack))
      hpool (meshCreateMultiAckData_isSome hack 1 hpool hfree)
    have hrun : w' = (meshSendDirect id path.outPath.bytes wire runtimeTxtAckDelayMs ctx
        (meshCreateMultiAckData ack 1 ctx w).2).2 := by
      show (sendFirstAck path wire ack extraAcks ctx w).2 = _
      rw [sendFirstAck, if_pos hextra, Prog.run_bind, hid]
      rfl
    rw [hrun]
    exact .inr (hmade.goes hwire (by decide) _)
  · refine .inl ?_
    show (sendFirstAck path wire ack extraAcks ctx w).2 = w
    rw [sendFirstAck, if_neg hextra]
    rfl

theorem sendLastAck_goes (delayMs : UInt32) (hwire : path.wireLen = some wire)
    (hack : ack.length ≤ packetPayloadMaxLen) (hpool : w.PoolIntact ctx held) :
    let w' := (sendLastAck path wire ack delayMs ctx w).2
    (Unsent ctx w w' ∨ Goes path (isValidPathLen wire) ctx w w') ∧
      (0 < w.packetManager.getFreeCount → Goes path (isValidPathLen wire) ctx w w') := by
  intro w'
  have hmade : (meshCreateAckData ack ctx w).1.isSome →
      Goes path (isValidPathLen wire) ctx w w' := by
    intro hsome
    obtain ⟨id, hid, hmade⟩ := Made.of_isSome (P := Packed payloadTypeAck ack) hpool hsome
    have hrun : w' = (meshSendDirect id path.outPath.bytes wire delayMs ctx
        (meshCreateAckData ack ctx w).2).2 := by
      show (sendLastAck path wire ack delayMs ctx w).2 = _
      rw [sendLastAck, Prog.run_bind, hid]
      rfl
    rw [hrun]
    exact hmade.goes hwire (by decide) delayMs
  refine ⟨?_, fun hfree => hmade (meshCreateAckData_isSome hack hpool hfree)⟩
  cases hid : (meshCreateAckData ack ctx w).1 with
  | some id => exact .inr (hmade (by rw [hid]; rfl))
  | none =>
    refine .inl ?_
    have hrun : w' = (meshCreateAckData ack ctx w).2 := by
      show (sendLastAck path wire ack delayMs ctx w).2 = _
      rw [sendLastAck, Prog.run_bind, hid]
      rfl
    rw [hrun]
    exact Moves.moves ctx w

theorem sendAckDirect_run (peer : PeerIdentity) (ack : List UInt8) (ctx : Ctx) (w : World) :
    sendAckDirect peer ack ctx w =
      ((ctx.hooks w.tick).wirePath peer.publicKey).elim
        (do
          let packet ← meshCreateAckData ack
          packet.elim (pure ()) fun id => do
            let hashSize ← localPathHashSizeGet
            meshSendFlood id runtimeTxtAckDelayMs hashSize : M Unit)
        (fun path => do
          let extraAcks ← hook Hooks.extraAckTransmitCount
          let delayMs ← sendFirstAck path.1 path.2 ack extraAcks
          sendLastAck path.1 path.2 ack delayMs)
        ctx { w with tick := w.tick + 1 } := rfl

/-- Both acknowledgements along a path. -/
theorem sendAcks_sending {stored : Option PeerPath} (hashSize extraAcks : UInt8)
    (hstored : stored = some path) (hwire : path.wireLen = some wire)
    (hack : ack.length ≤ packetPayloadMaxLen - 1) (hpool : w.PoolIntact ctx held)
    (hfree : 0 < w.packetManager.getFreeCount) :
    Sending 2 stored hashSize ctx w ((do
      let delayMs ← sendFirstAck path wire ack extraAcks
      sendLastAck path wire ack delayMs : M Unit) ctx w).2 := by
  let first := sendFirstAck path wire ack extraAcks
  have hack' : ack.length ≤ packetPayloadMaxLen := hack.trans (Nat.sub_le ..)
  have hpool₁ := ((inferInstance : Uses Carries [] first fun _ => []).uses ctx w held).2 hpool
  have hfirst := sendFirstAck_goes extraAcks hwire hack hpool hfree
  change (first ctx w).2 = w ∨ _ at hfirst
  rw [Prog.run_bind]
  change Sending 2 stored hashSize ctx w
    (sendLastAck path wire ack (first ctx w).1 ctx (first ctx w).2).2
  generalize (first ctx w).1 = delayMs
  generalize (first ctx w).2 = w₁ at hpool₁ hfirst
  obtain ⟨hlast, hlastFree⟩ := sendLastAck_goes delayMs hwire hack' hpool₁
  have hsteps := (inferInstance : Uses (Steps fun _ => False) [] (sendLastAck path wire ack delayMs)
    fun _ => []).uses ctx w₁ held
  simp only [Goes] at hfirst hlast hlastFree
  generalize (sendLastAck path wire ack delayMs ctx w₁).2 = w₂ at *
  cases hvalid : isValidPathLen wire with
  | true =>
    simp only [hvalid, if_true] at hfirst hlast hlastFree
    refine .followed hstored hwire hvalid ?_
    rcases hfirst with rfl | hfirst
    · exact (hlastFree hfree).upTo one_le_two
    · exact (hfirst.upTo le_rfl).snoc hsteps hpool₁.conserves hlast
  | false =>
    simp only [hvalid, Bool.false_eq_true, if_false, or_self] at hfirst hlast
    refine .dropped hstored hwire hvalid (Composes.trans ctx w w₁ w₂ ?_ hlast)
    rcases hfirst with rfl | hfirst
    · exact rfl
    · exact hfirst

theorem sendAckDirect_sentTo (peer : PeerIdentity) (hack : ack.length ≤ packetPayloadMaxLen - 1)
    (hpool : w.PoolIntact ctx held) (hfree : 0 < w.packetManager.getFreeCount) :
    SentTo 2 peer.publicKey ctx w (sendAckDirect peer ack ctx w).2 := by
  let h := ctx.hooks w.tick
  let asked : World := { w with tick := w.tick + 1 }
  have hasked : asked.PoolIntact ctx held := ⟨hpool.conserves, hpool.poolSize, hpool.reissued⟩
  have hack' : ack.length ≤ packetPayloadMaxLen := hack.trans (Nat.sub_le ..)
  rw [sendAckDirect_run]
  rcases h.wirePath_cases peer.publicKey with ⟨hnone, hpath⟩ | ⟨path, wire, hstored, hwire, hpath⟩
  · rw [show (ctx.hooks w.tick).wirePath peer.publicKey = none from hpath, Option.elim_none]
    obtain ⟨id, hid, hmade⟩ := Made.of_isSome (P := Packed payloadTypeAck ack) hasked
      (meshCreateAckData_isSome hack' hasked hfree)
    rw [Prog.run_bind, hid, Option.elim_some, Prog.run_bind, localPathHashSizeGet_run]
    have hlater := ((inferInstance : Moves Mute (meshCreateAckData ack)).moves ctx asked).2.2.2.2.2
    change Made _ ctx held asked id (meshCreateAckData ack ctx asked).2 at hmade
    generalize (meshCreateAckData ack ctx asked).2 = w₁ at hmade hlater
    let h' := ctx.hooks w₁.tick
    let w₂ : World := { w₁ with tick := w₁.tick + 1 }
    have hsize := h'.localPathHashSize_mem
    have hpool₂ : w₂.PoolIntact ctx (id :: held) :=
      ⟨hmade.pool.conserves, hmade.pool.poolSize, hmade.pool.reissued⟩
    have hshipped := meshSendFlood_floods runtimeTxtAckDelayMs hsize.1 hsize.2 (by decide) hpool₂
      hmade.packet.toLoad
    have hend := ((inferInstance : Moves Mute (meshSendFlood id runtimeTxtAckDelayMs
      h'.localPathHashSize)).moves ctx w₂).2.2.2.2.2
    have hunsent : Unsent ctx w w₁ := hmade.unsent
    change w.tick + 1 ≤ w₁.tick at hlater
    refine ⟨h, mem_answers le_rfl ?_, h', mem_answers ?_ ?_, .flooded hnone ?_⟩
    · exact (Nat.lt_of_succ_le hlater).trans_le ((Nat.le_succ _).trans hend)
    · exact (Nat.le_succ _).trans hlater
    · exact Nat.lt_of_succ_le hend
    · exact (hshipped.after hunsent).upTo one_le_two
  · rw [show (ctx.hooks w.tick).wirePath peer.publicKey = some (path, wire) from hpath,
      Option.elim_some, Prog.run_bind]
    let w₁ : World := { w with tick := w.tick + 2 }
    have hpool₁ : w₁.PoolIntact ctx held := ⟨hpool.conserves, hpool.poolSize, hpool.reissued⟩
    have hsending := sendAcks_sending h.localPathHashSize
      (ctx.hooks (w.tick + 1)).extraAckTransmitCount hstored hwire hack hpool₁ hfree
    have hmute : Moves Mute (do
        let delayMs ← sendFirstAck path wire ack (ctx.hooks (w.tick + 1)).extraAckTransmitCount
        sendLastAck path wire ack delayMs : M Unit) := by
      unfold sendFirstAck sendLastAck
      infer_instance
    have hend := (hmute.moves ctx w₁).2.2.2.2.2
    have hmem : h ∈ answers ctx w _ :=
      mem_answers le_rfl ((Nat.lt_add_of_pos_right two_pos : w.tick < w₁.tick).trans_le hend)
    have hunsent : Unsent ctx w w₁ := rfl
    exact ⟨h, hmem, h, hmem, hsending.after hunsent⟩

theorem handleTelemetryRequest_sentTo {peer : PeerIdentity} {secret : Buf publicKeySize}
    {packet : Packet} {tag : UInt32} {mask : UInt8} {telemetry : ℕ × Buf maxTelemetryPayloadLen}
    (hroute : packet.isRouteFlood = false)
    (htelemetry : (ctx.hooks w.tick).telemetryNode (keyPrefixOf peer.publicKey) mask
      = some telemetry)
    (hlen : telemetry.1 ≤ maxTelemetryPayloadLen) (hpool : w.PoolIntact ctx held)
    (hfree : 0 < w.packetManager.getFreeCount)
    (hcipher : ∀ h ∈ answers ctx w (handleTelemetryRequest peer secret packet tag mask ctx w).2,
      h.CipherWorks) :
    SentTo 1 peer.publicKey ctx w (handleTelemetryRequest peer secret packet tag mask ctx w).2 := by
  let asked : World := { w with tick := w.tick + 1 }
  let response := leBytes 4 tag.toNat ++ telemetry.2.slice 0 telemetry.1
  let create := meshCreateDatagram payloadTypeResponse peer.publicKey secret response
  have hasked : asked.PoolIntact ctx held := ⟨hpool.conserves, hpool.poolSize, hpool.reissued⟩
  have hunsent : Unsent ctx w asked := rfl
  have hanswer : hook (fun h => h.telemetryNode (keyPrefixOf peer.publicKey) mask) ctx w
      = (some telemetry, asked) := Prod.ext htelemetry rfl
  have hrun : handleTelemetryRequest peer secret packet tag mask ctx w =
      (create >>= fun reply => reply.elim (pure ()) fun id =>
        sendToPeer id peer.publicKey runtimeServerResponseDelayMs) ctx asked := by
    rw [handleTelemetryRequest, Prog.run_bind_of hanswer, Option.elim_some,
      if_neg (not_lt.mpr hlen)]
    simp only [hroute, Bool.false_eq_true, if_false]
    rfl
  have hfits : meshDatagramPlaintextFits response.length = true := by
    refine decide_eq_true ?_
    have hmax : telemetry.1 ≤ 163 := hlen
    rw [List.length_append, length_leBytes, Buf.length_slice]
    show 4 + min telemetry.1 (163 - 0) ≤ 167
    omega
  have hmade := (inferInstance : Moves Mute create).moves ctx asked
  rw [hrun, Prog.run_bind] at hcipher ⊢
  have hrest : Moves Mute ((create ctx asked).1.elim (pure ()) fun id =>
        sendToPeer id peer.publicKey runtimeServerResponseDelayMs) := inferInstance
  have hsome : (create ctx asked).1.isSome :=
    meshCreateDatagram_isSome (.inr (.inr rfl)) hfits hasked.conserves hfree fun h hmem =>
      hcipher h (answers_mono (Nat.le_succ w.tick)
        (hrest.moves ctx (create ctx asked).2).2.2.2.2.2 hmem)
  obtain ⟨id, hid, hmade'⟩ := Made.of_isSome (P := Loaded payloadTypeResponse) hasked hsome
  obtain ⟨bytes, hload⟩ := hmade'.packet
  rw [hid, Option.elim_some]
  have hsent := sendToPeer_sending peer.publicKey runtimeServerResponseDelayMs (by decide)
    hmade'.pool hload
  exact SentTo.after (Composes.trans ctx _ _ _ hunsent hmade'.unsent)
    ((Nat.le_succ w.tick).trans hmade.2.2.2.2.2) hsent

end

/-! ### The result -/

/-- At most `n` packets for the peer were queued as the host's answers say, exactly when the limits
agree on the stored path that it answered. -/
def RoutedWhenAgreed (n : ℕ) (publicKey : Buf publicKeySize) (ctx : Ctx) (w w' : World) : Prop :=
  ∃ h ∈ answers ctx w w', ∃ h' ∈ answers ctx w w',
    (ShippedUpTo n (Routed (h.peerPathByKey publicKey) h'.localPathHashSize) w w' ↔
      Agreed (h.peerPathByKey publicKey))

theorem SentTo.routedWhenAgreed {n : ℕ} {publicKey : Buf publicKeySize} {ctx : Ctx} {w w' : World}
    (h : SentTo n publicKey ctx w w') : RoutedWhenAgreed n publicKey ctx w w' := by
  obtain ⟨h₁, hmem₁, h₂, hmem₂, hsending⟩ := h
  exact ⟨h₁, hmem₁, h₂, hmem₂, hsending.routed_iff⟩

instance (nowMs : ℕ) (deadline : Option ℕ) : Moves KeepsManager (setTimer nowMs deadline) :=
  ⟨fun _ _ => rfl⟩

instance : Moves KeepsManager timerSyncNow := by unfold timerSyncNow timerSync; infer_instance

/-- The timer makes no difference to what was sent. -/
theorem SentTo.timerSyncNow {n : ℕ} {publicKey : Buf publicKeySize} {ctx : Ctx} {w w' : World}
    (h : SentTo n publicKey ctx w w') :
    SentTo n publicKey ctx w (Meshcore.timerSyncNow ctx w').2 := by
  have hkeepsManager : KeepsManager ctx w' (Meshcore.timerSyncNow ctx w').2 := Moves.moves ctx w'
  have hlater : KeepsCorrelation ctx w' (Meshcore.timerSyncNow ctx w').2 := Moves.moves ctx w'
  have hmono : answers ctx w w' ⊆ answers ctx w (Meshcore.timerSyncNow ctx w').2 :=
    answers_mono le_rfl hlater.2.2.2.2.2
  obtain ⟨h₁, hmem₁, h₂, hmem₂, hsending⟩ := h
  refine ⟨h₁, hmono hmem₁, h₂, hmono hmem₂, ?_⟩
  cases hsending with
  | flooded hnone hshipped => exact .flooded hnone (hshipped.before hkeepsManager)
  | followed hstored hwire hvalid hshipped =>
    exact .followed hstored hwire hvalid (hshipped.before hkeepsManager)
  | dropped hstored hwire hvalid hunsent =>
    refine .dropped hstored hwire hvalid ?_
    rw [Unsent, hkeepsManager]
    exact hunsent

theorem Unmade.timerSyncNow {ctx : Ctx} {w w' : World} (h : Unmade ctx w w') :
    Unmade ctx w (Meshcore.timerSyncNow ctx w').2 := by
  obtain ⟨hqueue, es', hes', -⟩ : Unreported ctx w' (Meshcore.timerSyncNow ctx w').2 :=
    Moves.moves ctx w'
  have hlater : KeepsCorrelation ctx w' (Meshcore.timerSyncNow ctx w').2 := Moves.moves ctx w'
  obtain ⟨⟨hunsent, es, type, code, hes, hmem⟩, h₁, hanswer, hnot⟩ := h
  refine ⟨⟨Eq.trans hqueue hunsent, es ++ es', type, code, ?_, List.mem_append_left _ hmem⟩, h₁,
    answers_mono le_rfl hlater.2.2.2.2.2 hanswer, hnot⟩
  rw [hes', hes, List.append_assoc]

/-- **Routes to a peer.** The packet of an accepted request to a peer is queued to go the way that
the stored path says, exactly when that path is neither overlong nor brimful. Only when the host has
no identity, or its cipher fails, there is no packet, and then that is reported. The same is true of
the reply with telemetry and of the acknowledgements of a direct packet, when there is a buffer for
them. -/
theorem peer_path_followed_iff (ctx : Ctx) (w : World) :
    (∀ op publicKey, Op.peer op = some publicKey → Reachable ctx w → (op.run ctx w).1 = 0 →
      Unmade ctx w (op.next ctx w) ∨ RoutedWhenAgreed 1 publicKey ctx w (op.next ctx w)) ∧
    ∀ held, w.PoolIntact ctx held → 0 < w.packetManager.getFreeCount →
      (∀ peer secret packet tag mask telemetry, packet.isRouteFlood = false →
        (ctx.hooks w.tick).telemetryNode (keyPrefixOf peer.publicKey) mask = some telemetry →
        telemetry.1 ≤ maxTelemetryPayloadLen →
        let w' := (handleTelemetryRequest peer secret packet tag mask ctx w).2
        (∀ h ∈ answers ctx w w', h.CipherWorks) → RoutedWhenAgreed 1 peer.publicKey ctx w w') ∧
      ∀ peer ack, ack.length ≤ packetPayloadMaxLen - 1 →
        RoutedWhenAgreed 2 peer.publicKey ctx w (sendAckDirect peer ack ctx w).2 := by
  refine ⟨?_, ?_⟩
  · intro op publicKey hop hw h
    obtain ⟨w', hdone, hnext⟩ := Op.directed hop hw h
    rw [hnext]
    exact hdone.imp Unmade.timerSyncNow fun hsent => hsent.timerSyncNow.routedWhenAgreed
  · intro held hpool hfree
    refine ⟨?_, ?_⟩
    · intro peer secret packet tag mask telemetry hroute htelemetry hlen w' hcipher
      exact (handleTelemetryRequest_sentTo hroute htelemetry hlen hpool hfree
        hcipher).routedWhenAgreed
    · intro peer ack hack
      exact (sendAckDirect_sentTo peer hack hpool hfree).routedWhenAgreed

/-- A host that has this path to every peer, and whose cipher works. -/
def Ctx.storing (path : PeerPath) : Ctx :=
  { Ctx.silent with
    hooks := fun _ =>
      { Hooks.silent with
        peerPathByKey := fun _ => some path
        aes128EncryptBlock := fun _ block => some block
        hmacSha256 := fun n _ _ => some (Buf.zero n) } }

/-- A text along a path of one hash. -/
theorem peer_path_followed_one :
    let path : PeerPath := ⟨1, false, (Buf.zero _).store 0 [0x42], 1⟩
    let ctx := Ctx.storing path
    let op := Op.messageSendToNode (some (Buf.zero _)) false 0 (some [0x41])
    let w := runOps ctx .boot [.init]
    ShippedUpTo 1 (Routed (some path) 1) w (op.next ctx w) := by
  intro path ctx op w
  rcases (peer_path_followed_iff ctx w).1 op (Buf.zero _) rfl ⟨[.init], rfl⟩ (by decide +kernel)
    with hunmade | ⟨_, ⟨_, -, -, rfl⟩, _, ⟨_, -, -, rfl⟩, hrouted⟩
  · exact absurd hunmade.1 (not_reported_of_all (by decide +kernel))
  · refine hrouted.mpr fun path' hpath => ?_
    obtain rfl : path = path' := Option.some.inj hpath
    exact ⟨fun hlong => absurd hlong.2.1 (by decide), fun hbrim => absurd hbrim.2 (by decide)⟩

/-- A path of 33 hashes of two bytes each passes the encoder, and then the queue drops the text:
nothing is queued, and nothing is reported. A path of 64 hashes of one byte is usable, and the text
is a flood. -/
theorem peer_path_not_followed :
    let op := Op.messageSendToNode (some (Buf.zero _)) false 0 (some [0x41])
    let before := fun path => runOps (Ctx.storing path) .boot [.init]
    let after := fun path => op.next (Ctx.storing path) (before path)
    let long : PeerPath := ⟨66, false, Buf.zero _, 2⟩
    let full : PeerPath := ⟨64, false, Buf.zero _, 1⟩
    (∀ path, Reachable (Ctx.storing path) (before path)) ∧
      ((op.run (Ctx.storing long) (before long)).1 = 0 ∧
        ¬Reported (Ctx.storing long) (before long) (after long) ∧
        ¬ShippedUpTo 1 (Routed (some long) 1) (before long) (after long)) ∧
      ((op.run (Ctx.storing full) (before full)).1 = 0 ∧
        ShippedUpTo 1 (·.getRouteType = routeTypeFlood) (before full) (after full) ∧
        ¬ShippedUpTo 1 (Routed (some full) 1) (before full) (after full)) := by
  intro op before after long full
  refine ⟨fun path => ⟨[.init], rfl⟩,
    ⟨by decide +kernel, not_reported_of_all (by decide +kernel), ?_⟩, by decide +kernel, ?_⟩
  · intro hs
    have hqueue : Unsent (Ctx.storing long) (before long) (after long) := by
      rw [Unsent]
      decide +kernel
    exact hs.not_unsent hqueue
  · have hempty : (before full).packetManager.sendQueue.entries = [] := by decide +kernel
    have hone : (after full).packetManager.sendQueue.entries.length = 1 := by decide +kernel
    have hflood : ∀ entry ∈ (after full).packetManager.sendQueue.entries,
        ((after full).packetManager.packetBuf entry.packet).getRouteType = routeTypeFlood := by
      decide +kernel
    have hs : ShippedUpTo 1 (·.getRouteType = routeTypeFlood) (before full) (after full) := by
      refine ⟨(after full).packetManager.sendQueue.entries, ?_, hone.le, ?_, hflood⟩
      · exact List.ne_nil_of_length_pos (by rw [hone]; exact one_pos)
      · rw [hempty, List.nil_append]
    refine ⟨hs, hs.not_of_disjoint fun packet hroute hrouted => ?_⟩
    have husable : full.Usable := ⟨.inl (by decide), by decide, by decide⟩
    cases hrouted with
    | direct _ _ hfollows => exact absurd (hroute.symm.trans hfollows.route) (by decide)
    | flood hunusable => exact hunusable full rfl husable

end Meshcore
