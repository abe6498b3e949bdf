import Meshcore.ResponseCarriers
import Meshcore.Datagrams
import Meshcore.Duplicates

/-!
# The way of a response

A request that was flooded is answered by a path return, whose path is the one the request came by
and whose extra is the response. Another request is answered by a datagram. Both are addressed and
sealed alike, and both have room for as much as is left of the payload.

## Main definitions

* `responseCarrier` — the type of the packet of a response, and what is sealed in it
* `ResponseFits` — the response has room there

## Main results

* `meshOnRecvPacket_response` — what a CHAT node does with a response, whatever way it came
-/

namespace Meshcore

/-- The packet of a response: without a way back a datagram, and else a path return with that way in
front. -/
def responseCarrier (wayBack : Option (UInt8 × List UInt8)) (response : List UInt8) :
    UInt8 × List UInt8 :=
  wayBack.elim (payloadTypeResponse, response) fun way =>
    (payloadTypePath, pathReturnText way.1 way.2 payloadTypeResponse response)

/-- A response of this length has room in its packet. -/
def ResponseFits (wayBack : Option (UInt8 × List UInt8)) (len : ℕ) : Prop :=
  wayBack.elim (meshDatagramPlaintextFits len = true) fun way =>
    meshPathReturnExtraFits way.1 len = true

instance (wayBack : Option (UInt8 × List UInt8)) (len : ℕ) : Decidable (ResponseFits wayBack len) :=
  match wayBack with
  | none => inferInstanceAs (Decidable (meshDatagramPlaintextFits len = true))
  | some way => inferInstanceAs (Decidable (meshPathReturnExtraFits way.1 len = true))

/-- What the host of a node is told of a path that it looked for. -/
def discoveredPath (sender : PeerIdentity) (packet : Packet) (tag timestamp : UInt32)
    (pathHashSize : UInt8) (outPath : List UInt8) : PeerPathEvent where
  tag
  keyPrefix := keyPrefixOf sender.publicKey
  timestamp
  lastSeenSnr := packet.snrQ4
  pathHashSize
  outPath
  outPathSnr := []
  returnPathSnr := []

/-- What becomes of a path return once the runtime has it: if the runtime wants an answer and the
packet was a flood, the path of the packet goes back along the path in it. -/
def reciprocate (packet : Packet) (srcHash : UInt8) (secret : Buf publicKeySize) (path : List UInt8)
    (pathLen : UInt8) (answer : Bool) : M Unit :=
  if answer ∧ packet.isRouteFlood then do
    let path' ← pathRead packet 0 packet.getPathByteLen.toNat
    let rpath ← meshCreatePathReturnByDestHash [srcHash] secret path' packet.pathLenField 0 []
    rpath.elim (pure ()) fun id => meshSendDirect id path pathLen 500
  else pure ()

section

variable {c : Cipher} {ctx : Ctx} {w : World} {secret : Buf publicKeySize}
  {sender : PeerIdentity} {destHash srcHash pathLen extraType : UInt8} {got : Packet}
  {path extra response : List UInt8} {wayBack : Option (UInt8 × List UInt8)}

theorem Mute.keepsCorrelation {w' : World} (h : Mute ctx w w') : KeepsCorrelation ctx w w' := by
  obtain ⟨hevents, hrest⟩ := h
  exact ⟨⟨[], by rw [hevents, List.append_nil], by simp⟩, hrest⟩

/-- Nothing becomes of a packet that is marked. -/
instance (packet : Packet) :
    Moves KeepsCorrelation (meshRouteRecvPacket packet.markDoNotRetransmit) where
  moves ctx w := by
    rw [meshRouteRecvPacket_marked]
    exact Composes.refl ctx w

/-! ### Making it -/

/-- Behind any path there is room for 97 bytes. -/
theorem pathReturnExtraFits_of_valid {n : ℕ} (hvalid : isValidPathLen pathLen = true)
    (hn : n ≤ 97) : meshPathReturnExtraFits pathLen n = true := by
  have hmax := (isValidPathLen_iff.mp hvalid).2
  have hbytes : pathBytesOf pathLen ≤ 64 := by
    rw [pathBytesOf, toNat_hashSizeOf, toNat_hashCountOf, Nat.mul_comm]
    exact hmax
  have hfits : ¬pathBytesOf pathLen > meshMaxCombinedPath - 5 := by
    show ¬_ > 161
    omega
  have hroom : n ≤ meshMaxCombinedPath - 5 - pathBytesOf pathLen := by
    show n ≤ 161 - _
    omega
  rw [meshPathReturnExtraFits]
  exact (if_neg hfits).trans (decide_eq_true hroom)

/-- A path return with an extra is made, and carries it. -/
theorem meshCreatePathReturnByIdentity_made {held : List PacketId} (dest : Identity)
    (hextra : extra ≠ []) (hfits : meshPathReturnExtraFits pathLen extra.length = true)
    (h : FromNow ctx w (Hooks.Ciphers c)) (hpool : w.PoolIntact ctx held)
    (hfree : 0 < w.packetManager.getFreeCount) :
    let made := meshCreatePathReturnByIdentity dest secret path pathLen extraType extra ctx w
    ∃ id, made.1 = some id ∧
      Made (Load payloadTypePath (datagramBytes c secret (Identity.shortHash dest)
        (Identity.shortHash w.selfId.identity) (pathReturnText pathLen path extraType extra))) ctx
        held w id made.2 := by
  intro made
  obtain ⟨id, random, hid, hmade⟩ := @meshCreatePathReturnByDestHash_made c ctx w secret pathLen
    extraType path extra (Identity.shortHash dest) held hfits h hpool hfree
  rw [sentExtra, if_neg hextra, ← identityCopyHashTo_eq] at hmade
  rw [← identityCopyHashTo_eq] at hid
  exact ⟨id, hid, hmade⟩

/-! ### Being answered -/

instance (packet : Packet) (path : List UInt8) (answer : Bool) :
    Moves KeepsCorrelation (reciprocate packet srcHash secret path pathLen answer) := by
  have hread : Moves KeepsCorrelation (pathRead packet 0 packet.getPathByteLen.toNat) :=
    ⟨fun ctx v => by
    rw [pathRead_run (Nat.zero_add _).le]
    exact Composes.refl ctx v⟩
  unfold reciprocate
  infer_instance

/-- A path return goes to the runtime, which says whether it wants an answer. -/
theorem meshOnRecvPacket_pathReturn (hpath : pathBytesOf pathLen ≤ path.length)
    (hload : Load payloadTypePath (datagramBytes c secret destHash srcHash
      (pathReturnText pathLen path extraType extra)) got)
    (htakes : TakesPathReturn c secret sender destHash srcHash
      (pathReturnText pathLen path extraType extra) got ctx w) :
    ∃ w' zeros, Unpacks ctx w w' ∧
      let rest := extraType :: (extra ++ List.replicate zeros 0)
      let taken := onPeerPathRecv got sender secret (path.take (pathBytesOf pathLen) ++ rest)
        pathLen (extraType &&& 0x0F) (extra ++ List.replicate zeros 0) ctx w'
      (meshOnRecvPacket got ctx w).2 = (reciprocate got srcHash secret
        (path.take (pathBytesOf pathLen) ++ rest) pathLen taken.1 ctx taken.2).2 := by
  let src := pathReturnText pathLen path extraType extra
  let zeros := cipherBlockCount src * cipherBlockSize - src.length
  have hparse := @parsePathReturn_text pathLen extraType path extra (List.replicate zeros 0) hpath
  obtain ⟨w₁, hunpacks, hrun⟩ := meshOnRecvPacket_path (List.cons_ne_nil _ _) hload hparse htakes
  have hover := (inferInstance : Moves Unpacks (handOver got)).moves ctx w₁
  refine ⟨(handOver got ctx w₁).2, zeros, Composes.trans ctx _ _ _ hunpacks hover, ?_⟩
  rw [hrun, Prog.run_bind, meshRouteRecvPacket_marked]
  rfl

/-- As the extra of a path return, a response that no path discovery waits for is for the
handlers. -/
theorem meshOnRecvPacket_extra (hpath : pathBytesOf pathLen ≤ path.length)
    (hload : Load payloadTypePath (datagramBytes c secret destHash srcHash
      (pathReturnText pathLen path payloadTypeResponse response)) got)
    (htakes : TakesPathReturn c secret sender destHash srcHash
      (pathReturnText pathLen path payloadTypeResponse response) got ctx w)
    (hlen : 4 ≤ response.length) (hinit : w.initialized = true)
    (hrole : FromNow ctx w (Hooks.HasRole .chat))
    (hdiscovery : ¬w.correlation.pendingDiscovery.Awaits sender.publicKey response) :
    ∃ timestamp zeros, Concluded w (meshOnRecvPacket got ctx w).2
      (w.correlation.respond sender.publicKey (response ++ List.replicate zeros 0) timestamp) := by
  obtain ⟨w', zeros, hunpacks, hrun⟩ := meshOnRecvPacket_pathReturn hpath hload htakes
  have hmute := hunpacks.mute
  have hcorrelation : w'.correlation = w.correlation := hmute.2.1
  have hinit' : w'.initialized = true := hmute.2.2.2.1.trans hinit
  obtain ⟨timestamp, h⟩ := @onPeerPathRecv_concluded ctx w' .chat got sender secret
    (path.take (pathBytesOf pathLen) ++ payloadTypeResponse :: (response ++ List.replicate zeros 0))
    pathLen (response ++ List.replicate zeros 0) (hrole.later hmute.2.2.2.2.2) fun hawaits => by
      rw [hcorrelation, Pending.Awaits, wordAt_append_zeros] at hawaits
      exact hdiscovery hawaits
  rw [if_pos ⟨hinit', rfl, by rw [List.length_append]; omega⟩, hcorrelation] at h
  have hrest : ∀ rest answer v,
      KeepsCorrelation ctx v (reciprocate got srcHash secret rest pathLen answer ctx v).2 :=
    fun _ _ => Moves.moves ctx
  rw [hrun]
  exact ⟨timestamp, zeros, (h.before (hrest _ _ _)).after (Mute.keepsCorrelation hmute)⟩

/-- A path discovery that waits for it takes a response, and with it the path. -/
theorem onPeerPathRecv_discovered {decoded : ℕ × UInt8} (packet : Packet)
    (hinit : w.initialized = true) (hdecode : pathLenDecode pathLen = some decoded)
    (hlen : 4 ≤ extra.length)
    (hawaits : w.correlation.pendingDiscovery.Awaits sender.publicKey extra) :
    ∃ timestamp, onPeerPathRecv packet sender secret path pathLen payloadTypeResponse extra ctx w
      = (true, { w with
          tick := (timestampNowSeconds ctx w).2.tick
          events := w.events ++ [.peerPathPublish (discoveredPath sender packet (wordAt extra)
            timestamp decoded.2 (path.take decoded.1)) true]
          correlation := { w.correlation with pendingDiscovery := .zero } }) := by
  obtain ⟨hvalid, htag, hkey⟩ := hawaits
  have htime : Asks ctx w (timestampNowSeconds ctx w).2 := Moves.moves ctx w
  have hgets : Prog.gets World.initialized ctx w = (true, w) := by rw [← hinit]; rfl
  have hcorrelation : Prog.gets World.correlation ctx w = (w.correlation, w) := rfl
  refine ⟨(timestampNowSeconds ctx w).1, ?_⟩
  have hhandle : pendingDiscoveryHandle sender.publicKey packet path pathLen
      payloadTypeResponse extra ctx w = (true, { w with
          tick := (timestampNowSeconds ctx w).2.tick
          events := w.events ++ [.peerPathPublish (discoveredPath sender packet (wordAt extra)
            (timestampNowSeconds ctx w).1 decoded.2 (path.take decoded.1)) true]
          correlation := { w.correlation with pendingDiscovery := .zero } }) := by
    rw [pendingDiscoveryHandle, Prog.run_bind_of hcorrelation,
      if_neg (by simp [hvalid, hkey]), hdecode, Option.elim_some, if_neg (not_lt.mpr hlen),
      if_neg (not_not.mpr htag), Prog.run_bind, htag]
    conv_lhs => rw [htime.1]
    rfl
  rw [onPeerPathRecv, Prog.run_bind_of hgets, Bool.not_true, if_neg Bool.false_ne_true,
    Prog.run_bind_of hhandle, if_pos rfl]
  rfl

/-- As the extra of a path return, a response that a path discovery waits for makes the node tell
the path, and want an answer. -/
theorem meshOnRecvPacket_reciprocates (hpath : pathBytesOf pathLen ≤ path.length)
    (hvalid : isValidPathLen pathLen = true)
    (hload : Load payloadTypePath (datagramBytes c secret destHash srcHash
      (pathReturnText pathLen path payloadTypeResponse response)) got)
    (htakes : TakesPathReturn c secret sender destHash srcHash
      (pathReturnText pathLen path payloadTypeResponse response) got ctx w)
    (hlen : 4 ≤ response.length) (hinit : w.initialized = true)
    (hawaits : w.correlation.pendingDiscovery.Awaits sender.publicKey response) :
    ∃ w' timestamp rest, w.tick ≤ w'.tick ∧
      w' = { w with
        tables := w'.tables
        tick := w'.tick
        trace := w'.trace
        events := w.events ++ [.peerPathPublish (discoveredPath sender got (wordAt response)
          timestamp (hashSizeOf pathLen) (path.take (pathBytesOf pathLen))) true]
        correlation := { w.correlation with pendingDiscovery := .zero } } ∧
      (meshOnRecvPacket got ctx w).2 = (reciprocate got srcHash secret
        (path.take (pathBytesOf pathLen) ++ rest) pathLen true ctx w').2 := by
  obtain ⟨w', zeros, hunpacks, hall⟩ := meshOnRecvPacket_pathReturn hpath hload htakes
  obtain ⟨tables, tick, trace, rfl⟩ : ∃ tables tick trace,
      w' = { w with tables := tables, tick := tick, trace := trace } := ⟨_, _, _, hunpacks.1⟩
  have htype : payloadTypeResponse &&& 0x0F = payloadTypeResponse := by decide
  have htake : (path.take (pathBytesOf pathLen)).length = pathBytesOf pathLen :=
    List.length_take_of_le hpath
  have hawaits' : w.correlation.pendingDiscovery.Awaits sender.publicKey
      (response ++ List.replicate zeros 0) := by
    rw [Pending.Awaits, wordAt_append_zeros]
    exact hawaits
  obtain ⟨timestamp, hrun⟩ := @onPeerPathRecv_discovered ctx
    { w with tables := tables, tick := tick, trace := trace } secret sender pathLen
    (path.take (pathBytesOf pathLen) ++ payloadTypeResponse :: (response ++ List.replicate zeros 0))
    (response ++ List.replicate zeros 0) (pathBytesOf pathLen, hashSizeOf pathLen) got hinit
    (pathLenDecode_eq_some.mpr ⟨hvalid, rfl⟩) (by rw [List.length_append]; omega) hawaits'
  rw [List.take_left' htake, wordAt_append_zeros] at hrun
  dsimp only at hall
  rw [htype, hrun] at hall
  refine ⟨_, timestamp, _, ?_, ?_, hall⟩
  · exact hunpacks.2.trans ((inferInstance : Moves Asks timestampNowSeconds).moves ctx _).2
  · rfl

/-- The path is told, and nothing else; and the node looks for it no longer. -/
theorem meshOnRecvPacket_discovered (hpath : pathBytesOf pathLen ≤ path.length)
    (hvalid : isValidPathLen pathLen = true)
    (hload : Load payloadTypePath (datagramBytes c secret destHash srcHash
      (pathReturnText pathLen path payloadTypeResponse response)) got)
    (htakes : TakesPathReturn c secret sender destHash srcHash
      (pathReturnText pathLen path payloadTypeResponse response) got ctx w)
    (hlen : 4 ≤ response.length) (hinit : w.initialized = true)
    (hawaits : w.correlation.pendingDiscovery.Awaits sender.publicKey response) :
    (∃ timestamp, (meshOnRecvPacket got ctx w).2.events.filter Event.isCorrelated
        = w.events.filter Event.isCorrelated ++ [.peerPathPublish (discoveredPath sender got
            (wordAt response) timestamp (hashSizeOf pathLen)
            (path.take (pathBytesOf pathLen))) true]) ∧
      (meshOnRecvPacket got ctx w).2.correlation
        = { w.correlation with pendingDiscovery := .zero } := by
  obtain ⟨w', timestamp, rest, -, htold, hrun⟩ := meshOnRecvPacket_reciprocates hpath hvalid hload
    htakes hlen hinit hawaits
  have hrest : ∀ v, KeepsCorrelation ctx v (reciprocate got srcHash secret
      (path.take (pathBytesOf pathLen) ++ rest) pathLen true ctx v).2 := Moves.moves ctx
  rw [hrun]
  refine ⟨⟨timestamp, ?_⟩, ?_⟩
  · rw [(hrest _).filter_events, htold, List.filter_append]
    rfl
  · rw [(hrest _).2.1, htold]

/-- As a datagram, a response is for the handlers. -/
theorem meshOnRecvPacket_answer
    (hload : Load payloadTypeResponse (datagramBytes c secret destHash srcHash response) got)
    (htakes : TakesPathReturn c secret sender destHash srcHash response got ctx w)
    (hlen : 4 ≤ response.length) (hinit : w.initialized = true) :
    ∃ timestamp zeros, Concluded w (meshOnRecvPacket got ctx w).2
      (w.correlation.respond sender.publicKey (response ++ List.replicate zeros 0) timestamp) := by
  obtain ⟨w', hunpacks, hrun⟩ := meshOnRecvPacket_data (.inr (.inl rfl))
    (List.ne_nil_of_length_pos (by omega)) hload htakes
  have hmute := hunpacks.mute
  have hcorrelation : w'.correlation = w.correlation := hmute.2.1
  have hinit' : w'.initialized = true := hmute.2.2.2.1.trans hinit
  have hrest : ∀ v, KeepsCorrelation ctx v (meshRouteRecvPacket got.markDoNotRetransmit ctx v).2 :=
    Moves.moves ctx
  obtain ⟨timestamp, h⟩ := onPeerDataRecv_concluded got sender secret (padded response) ctx w'
  rw [if_pos ⟨hinit', by rw [padded, List.length_append]; omega⟩, hcorrelation, padded] at h
  rw [hrun, Prog.run_bind]
  exact ⟨timestamp, _, (h.before (hrest _)).after (Mute.keepsCorrelation hmute)⟩

/-- Whatever way it came, a response is for the handlers of a CHAT node, unless it came as an extra
and a path discovery waits for it. -/
theorem meshOnRecvPacket_response
    (hpath : ∀ way ∈ wayBack, pathBytesOf way.1 ≤ way.2.length)
    (hload : Load (responseCarrier wayBack response).1
      (datagramBytes c secret destHash srcHash (responseCarrier wayBack response).2) got)
    (htakes : TakesPathReturn c secret sender destHash srcHash
      (responseCarrier wayBack response).2 got ctx w)
    (hlen : 4 ≤ response.length) (hinit : w.initialized = true)
    (hrole : FromNow ctx w (Hooks.HasRole .chat))
    (hdiscovery : wayBack.isSome → ¬w.correlation.pendingDiscovery.Awaits
      sender.publicKey response) :
    ∃ timestamp zeros, Concluded w (meshOnRecvPacket got ctx w).2
      (w.correlation.respond sender.publicKey (response ++ List.replicate zeros 0) timestamp) := by
  cases wayBack with
  | none => exact meshOnRecvPacket_answer hload htakes hlen hinit
  | some way =>
    exact meshOnRecvPacket_extra (hpath way rfl) hload htakes hlen hinit hrole (hdiscovery rfl)

end

end Meshcore
