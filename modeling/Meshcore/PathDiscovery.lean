import Meshcore.LearntRoute
import Meshcore.PeerRoutes
import Meshcore.Telemetry

/-!
# Path discovery

A node that looks for the path to a peer floods a request for telemetry, and notes its tag. The
answer comes with the path that the flood has collected. The node tells its host of that path. If
the answer was a flood too, the node sends the path of the answer back, along the path that it was
told of; and a path that came directly is answered by nobody.

## Main results

* `reciprocate_shipped`, `reciprocate_unsent` — when a path goes back
* `unsent_of_direct` — a path that came directly makes no node send anything
* `path_discovery_agreement`
-/

namespace Meshcore

section

variable {c : Cipher} {ctx : Ctx} {w w' : World} {secret publicKey : Buf publicKeySize}
  {identity : NodeIdentity} {tag : UInt32} {sender : PeerIdentity} {P Q : Packet → Prop}
  {destHash srcHash pathLen hashSize type : UInt8} {packet flood last got sent : Packet}
  {path rest bytes response : List UInt8} {held : List PacketId} {id : PacketId} {snrQ4 : Int8}
  {relays : List Identity}

/-! ### Looking for a path -/

/-- The flood of a request starts with the hash size of the node. -/
theorem requestSendFlood_floods (delayMillis : UInt32) (htrace : type ≠ payloadTypeTrace)
    (hpool : w.PoolIntact ctx (id :: held))
    (hload : Load type bytes (w.packetManager.packetBuf id)) :
    Shipped (fun packet => Sent type bytes packet ∧
      Floods (ctx.hooks w.tick).localPathHashSize packet) w
      (requestSendFlood id delayMillis ctx w).2 := by
  have hsize := (ctx.hooks w.tick).localPathHashSize_mem
  have hpool' : { w with tick := w.tick + 1 }.PoolIntact ctx (id :: held) :=
    ⟨hpool.conserves, hpool.poolSize, hpool.reissued⟩
  have hfloods : Shipped (Floods (ctx.hooks w.tick).localPathHashSize) w
      (requestSendFlood id delayMillis ctx w).2 :=
    meshSendFlood_floods delayMillis hsize.1 hsize.2 htrace hpool' hload
  exact (requestSendFlood_shipped delayMillis htrace hpool hload).and hfloods

/-- A discovery is flooded with the hash size of the node, which then waits for the tag. -/
theorem executeNodeDiscoverPath_shipped (publicKey : Buf publicKeySize) (tag : UInt32)
    (hroom : w.HasRoom ctx) (hc : FromNow ctx w (Hooks.Ciphers c))
    (hself : FromNow ctx w (Hooks.Is identity)) :
    ∃ sentTag random, (tag ≠ 0 → sentTag = tag) ∧
      Shipped (fun packet => Sent payloadTypeReq (datagramBytes c
          (ctx.calculateSharedSecret identity.privateKey publicKey) (Identity.shortHash publicKey)
          (Identity.shortHash identity.publicKey)
          (telemetryRequestData sentTag telemPermBase random))
          packet ∧ ∃ n, w.tick ≤ n ∧ Floods (ctx.hooks n).localPathHashSize packet) w
        (executeNodeDiscoverPath publicKey tag ctx w).2 ∧
      ∀ payload, (executeNodeDiscoverPath publicKey tag ctx w).2.correlation.pendingDiscovery.Awaits
        publicKey (taggedData sentTag payload) := by
  obtain ⟨sentTag, random, w', htag, hshipped, hnoted⟩ := @telemetryRequest_shipped c ctx w identity
    (fun bytes packet => Sent payloadTypeReq bytes packet ∧
      ∃ n, w.tick ≤ n ∧ Floods (ctx.hooks n).localPathHashSize packet)
    .nodeDiscoverPath tag telemPermBase publicKey
    (fun tag => pendingDiscoveryRegister tag publicKey) _
    (fun id => requestSendFlood id 0) _ hroom hc hself fun v id bytes hlater hpool hload =>
      (requestSendFlood_floods 0 (by decide) hpool hload).imp fun _ h => ⟨h.1, v.tick, hlater, h.2⟩
  refine ⟨sentTag, random, htag, hshipped, fun payload => ?_⟩
  rw [executeNodeDiscoverPath, hnoted]
  exact ⟨rfl, (wordAt_taggedData sentTag payload).symm, rfl⟩

/-! ### Being looked for -/

theorem Via.reaches (h : Via sent relays last) (hears : Hears last snrQ4 got) :
    Relayed sent got := by
  induction h generalizing snrQ4 got with
  | sent => exact .heard hears
  | relayed _ hheard hresent ih => exact .relayed (ih hheard) hresent hears

/-! ### Having found it -/

theorem Buf.slice_store_append {n : ℕ} (b : Buf n) (xs ys : List UInt8) (hlen : xs.length ≤ n) :
    (b.store 0 (xs ++ ys)).slice 0 xs.length = xs := by
  show (((b.bytes.take 0 ++ (xs ++ ys) ++ b.bytes.drop _).take n).drop 0).take xs.length = xs
  rw [List.take_zero, List.nil_append, List.drop_zero, List.take_take, Nat.min_eq_left hlen,
    List.append_assoc, List.take_left' rfl]

/-- Only the hashes of a path are sent. -/
theorem Packet.along_append (packet : Packet) (rest : List UInt8)
    (hlen : path.length = pathBytesOf pathLen) :
    packet.along (path ++ rest) pathLen = packet.along path pathLen := by
  have hcomm : (hashCountOf pathLen).toNat * (hashSizeOf pathLen).toNat = path.length :=
    (Nat.mul_comm ..).trans hlen.symm
  have hcopy : copyPath packet.path (pathBuf (path ++ rest)) pathLen
      = copyPath packet.path (pathBuf path) pathLen := by
    rw [copyPath, copyPath, writePath, writePath, hcomm]
    by_cases hmax : path.length > maxPathLen
    · rw [if_pos hmax, if_pos hmax]
    · have hslice := Buf.slice_store_append (Buf.zero maxPathLen) path [] (not_lt.mp hmax)
      rw [List.append_nil] at hslice
      rw [if_neg hmax, if_neg hmax, pathBuf, pathBuf,
        Buf.slice_store_append (Buf.zero maxPathLen) path rest (not_lt.mp hmax), hslice]
  rw [Packet.along, Packet.along, hcopy]

/-- Without a free buffer no packet is made. -/
theorem meshCreatePathReturnByDestHash_none (dest : List UInt8) (extraType : UInt8)
    (extra : List UInt8) (hpool : w.PoolIntact ctx held)
    (hfull : w.packetManager.getFreeCount = 0) :
    (meshCreatePathReturnByDestHash dest secret path pathLen extraType extra ctx w).1 = none := by
  have halloc : (allocPacket ctx w).1 = none := by
    rw [PacketQueueManager.getFreeCount, if_neg hpool.conserves.ready] at hfull
    have hempty : ¬0 < w.packetManager.unused.entries.length := by
      rw [show w.packetManager.unused.entries.length = 0 from hfull]
      exact lt_irrefl 0
    simp only [allocPacket, takePacket, Prog.run_bind, Prog.run_pure]
    rw [PacketQueueManager.allocNew, if_neg hpool.conserves.ready]
    simp [PacketQueue.removeByIdx, hempty]
  have hobtain : (dispatcherObtainNewPacket ctx w).1 = none := by
    rw [dispatcherObtainNewPacket, Prog.run_bind, halloc]
    rfl
  rw [meshCreatePathReturnByDestHash]
  split
  · rfl
  · rw [Prog.run_bind, hobtain]
    rfl

/-- The path of the answer goes back along the path that was found. -/
theorem reciprocate_shipped {learnt : Packet} (rest : List UInt8)
    (hvalid : isValidPathLen learnt.pathLenField = true) (hsize : learnt.getPathHashSize = hashSize)
    (hcount : learnt.getPathHashCount.toNat = relays.length)
    (hbytes : learnt.pathBytes = routeBytes hashSize relays) (hflood : got.isRouteFlood = true)
    (hgot : isValidPathLen got.pathLenField = true) (hc : FromNow ctx w (Hooks.Ciphers c))
    (hpool : w.PoolIntact ctx held) (hfree : 0 < w.packetManager.getFreeCount) :
    ∃ random : Buf 4, Shipped (GoesAlong payloadTypePath (datagramBytes c secret srcHash
        (Identity.shortHash w.selfId.identity)
        (pathReturnText got.pathLenField got.pathBytes 0xFF random.bytes)) hashSize relays) w
      (reciprocate got srcHash secret (learnt.pathBytes ++ rest) learnt.pathLenField true
        ctx w).2 := by
  obtain ⟨id, random, hid, hmade⟩ := @meshCreatePathReturnByDestHash_made c ctx w secret
    got.pathLenField 0 got.pathBytes [] srcHash held
    (pathReturnExtraFits_of_valid hgot (Nat.zero_le _)) hc hpool hfree
  refine ⟨random, ?_⟩
  have hplain : Plain payloadTypePath (datagramBytes c secret srcHash
      (Identity.shortHash w.selfId.identity)
      (pathReturnText got.pathLenField got.pathBytes 0xFF random.bytes)) :=
    ⟨by decide, by decide, by decide, fun h => absurd h (by decide)⟩
  have hlen : learnt.pathBytes.length = pathBytesOf learnt.pathLenField := by
    have hmax : learnt.getPathByteLen.toNat ≤ maxPathLen := by
      rw [Packet.toNat_getPathByteLen]
      exact (isValidPathLen_iff.mp hvalid).2
    rw [Packet.pathBytes, Buf.length_slice_of_le _ (by omega), Packet.toNat_getPathByteLen_eq_mul]
    exact Nat.mul_comm ..
  have hroute := onRoute_along hmade.packet hvalid hsize hcount hbytes
  rw [reciprocate, if_pos ⟨rfl, hflood⟩, Prog.run_bind_of (pathRead_run (Nat.zero_add _).le ctx w),
    Prog.run_bind, ← Packet.pathBytes, hid, Option.elim_some,
    meshSendDirect_run _ _ _ (hmade.packet.type_eq ▸ hplain.trace), Packet.along_append _ rest hlen]
  exact (shipped_of_written (tablesHasSeen _) _ _ hmade.pool (hroute.goesAlong hplain)
    hroute.validPathLen (hroute.payloadLen_eq.trans_le hroute.length_le)).after hmade.unsent

/-- Without a free buffer, or when the packet was no flood, nothing goes back. -/
theorem reciprocate_unsent (path : List UInt8) (hpool : w.PoolIntact ctx held)
    (hnot : ¬(got.isRouteFlood = true ∧ 0 < w.packetManager.getFreeCount)) :
    Unsent ctx w (reciprocate got srcHash secret path pathLen true ctx w).2 := by
  rw [reciprocate]
  split
  · rename_i hflood
    have hfull : w.packetManager.getFreeCount = 0 := by
      by_contra hfree
      exact hnot ⟨hflood.2, Nat.pos_of_ne_zero hfree⟩
    rw [Prog.run_bind_of (pathRead_run (Nat.zero_add _).le ctx w), Prog.run_bind,
      meshCreatePathReturnByDestHash_none _ _ _ hpool hfull]
    have hcreate : ∀ path', Unsent ctx w (meshCreatePathReturnByDestHash [srcHash] secret path'
        got.pathLenField 0 [] ctx w).2 := fun _ => Moves.moves ctx w
    exact hcreate _
  · rfl

/-! ### The end of it -/

instance (packet : Packet) : Moves Unsent (handOver packet) := by unfold handOver; infer_instance

instance (packet : Packet) (path : List UInt8) :
    Moves Unsent (reciprocate packet srcHash secret path pathLen false) := by
  unfold reciprocate
  rw [if_neg fun h => Bool.false_ne_true h.1]
  infer_instance

set_option synthInstance.maxSize 10000 in
/-- Nobody answers a path that came directly. -/
theorem unsent_of_direct (hdirect : packet.isRouteDirect = true)
    (htype : packet.getPayloadType = payloadTypePath) : Moves Unsent (meshOnRecvPacket packet) := by
  have hflood : packet.isRouteFlood = false := Packet.isRouteFlood_of_direct hdirect
  have hpath : ∀ srcHash sender secret r,
      Moves Unsent (onRecvPath packet srcHash sender secret r) := by
    intro srcHash sender secret r
    simp only [onRecvPath, hflood, Bool.false_eq_true, and_false, if_false]
    infer_instance
  have htry : ∀ srcHash macAndData n cursor,
      Moves Unsent (tryPeers packet srcHash macAndData n cursor) := by
    intro srcHash macAndData n
    induction n with
    | zero => exact fun cursor => inferInstanceAs (Moves Unsent (pure false))
    | succ n ih =>
      intro cursor
      simp only [tryPeers, if_pos htype]
      infer_instance
  have hpeer : Moves Unsent (onRecvPeer packet) := by unfold onRecvPeer; infer_instance
  have hack : packet.getPayloadType ≠ payloadTypeAck := by rw [htype]; decide
  have hhop : Moves Unsent (onRecvDirectHop packet) := by
    have hmultipart : packet.getPayloadType ≠ payloadTypeMultipart := by rw [htype]; decide
    simp only [onRecvDirectHop, if_neg hack, if_neg hmultipart, if_neg fun h => hack (And.left h)]
    infer_instance
  have hpayload : Moves Unsent (onRecvPayload packet) := by
    rw [onRecvPayload]
    simp only [if_neg hack, if_pos (Or.inl htype)]
    exact hpeer
  have hrouted : Moves Unsent (onRecvRouted packet) := by unfold onRecvRouted; infer_instance
  rw [meshOnRecvPacket, if_neg fun h => absurd (htype.symm.trans h.2) (by decide),
    if_neg fun h => absurd (htype.symm.trans h.2.1) (by decide)]
  exact hrouted

/-- A node that waits for the answer tells its host of the path, once, and sends back the path that
the answer came by if that was a flood. -/
theorem meshOnRecvPacket_discovery {learnt : Packet}
    (hvalid : isValidPathLen learnt.pathLenField = true) (hsize : learnt.getPathHashSize = hashSize)
    (hcount : learnt.getPathHashCount.toNat = relays.length)
    (hbytes : learnt.pathBytes = routeBytes hashSize relays)
    (hgot : isValidPathLen got.pathLenField = true)
    (hload : Load payloadTypePath (datagramBytes c secret destHash srcHash (pathReturnText
      learnt.pathLenField learnt.path.bytes payloadTypeResponse response)) got)
    (htakes : TakesPathReturn c secret sender destHash srcHash (pathReturnText
      learnt.pathLenField learnt.path.bytes payloadTypeResponse response) got ctx w)
    (hlen : 4 ≤ response.length) (hinit : w.initialized = true)
    (hawaits : w.correlation.pendingDiscovery.Awaits sender.publicKey response)
    (hpool : w.PoolIntact ctx held) :
    let w' := (meshOnRecvPacket got ctx w).2
    (∃ timestamp, w'.events.filter Event.isCorrelated = w.events.filter Event.isCorrelated ++
      [.peerPathPublish (discoveredPath sender got (wordAt response) timestamp hashSize
        (routeBytes hashSize relays)) true]) ∧
      w'.correlation = { w.correlation with pendingDiscovery := .zero } ∧
      (got.isRouteFlood = true ∧ 0 < w.packetManager.getFreeCount →
        ∃ random : Buf 4, Shipped (GoesAlong payloadTypePath (datagramBytes c secret srcHash
          (Identity.shortHash w.selfId.identity)
          (pathReturnText got.pathLenField got.pathBytes 0xFF random.bytes)) hashSize relays)
          w w') ∧
      (¬(got.isRouteFlood = true ∧ 0 < w.packetManager.getFreeCount) → Unsent ctx w w') := by
  intro w'
  have hmax := (isValidPathLen_iff.mp hvalid).2
  have hall : pathBytesOf learnt.pathLenField = learnt.getPathByteLen.toNat := by
    rw [Packet.toNat_getPathByteLen_eq_mul]
    exact Nat.mul_comm ..
  have hpath : pathBytesOf learnt.pathLenField ≤ learnt.path.bytes.length := by
    rw [hall, Packet.toNat_getPathByteLen, Buf.length_bytes]
    exact hmax
  have htake : learnt.path.bytes.take (pathBytesOf learnt.pathLenField) = learnt.pathBytes := by
    rw [hall]
    rfl
  obtain ⟨htold, hcorrelation⟩ := meshOnRecvPacket_discovered hpath hvalid hload htakes hlen
    hinit hawaits
  obtain ⟨w₁, timestamp, rest, hlater, hfound, hrun⟩ :=
    meshOnRecvPacket_reciprocates hpath hvalid hload htakes hlen hinit hawaits
  rw [htake, ← Packet.getPathHashSize, hsize, hbytes] at htold
  rw [htake] at hrun
  have hmanager : w₁.packetManager = w.packetManager := by rw [hfound]
  have hself : w₁.selfId = w.selfId := by rw [hfound]
  have hunsent : Unsent ctx w w₁ := by rw [Unsent, hmanager]
  have hpool₁ : w₁.PoolIntact ctx held := by
    rw [hfound]
    exact ⟨hpool.conserves, hpool.poolSize, hpool.reissued⟩
  refine ⟨htold, hcorrelation, ?_, ?_⟩
  · rintro ⟨hflood, hfree⟩
    obtain ⟨random, hshipped⟩ := @reciprocate_shipped c ctx w₁ secret srcHash hashSize
      got held relays learnt rest hvalid hsize hcount hbytes hflood hgot
      (htakes.ciphers.later hlater) hpool₁ (by rwa [hmanager])
    rw [← hrun, hself] at hshipped
    exact ⟨random, hshipped.after hunsent⟩
  · intro hnot
    have hrest := @reciprocate_unsent ctx w₁ secret srcHash learnt.pathLenField got held
      (learnt.pathBytes ++ rest) hpool₁ (by rwa [hmanager])
    rw [← hrun] at hrest
    exact Composes.trans ctx _ _ _ hunsent hrest

end

/-! ### The result -/

/-- **Path discovery.** A discovery is flooded with the hash size of the node, which waits for its
tag. However it is relayed, by up to 63 nodes, the peer answers with the path over them if the
answer fits. Whatever way the answer takes, the node tells its host of one path, with the tag, the
prefix of the key, its own hash size and the hashes of the relays in order, and waits no longer; and
it sends at most one packet, which goes along these relays and has the path that the answer came by:
one if the answer came as a flood and there is a free buffer, and else none. Where a path arrives
without having been flooded, the node that takes it sends nothing. -/
theorem path_discovery_agreement (c : Cipher) :
    (∀ publicKey tag ctx w identity, w.HasRoom ctx → FromNow ctx w (Hooks.Ciphers c) →
      FromNow ctx w (Hooks.Is identity) →
      ∃ sentTag random, (tag ≠ 0 → sentTag = tag) ∧
        Shipped (fun packet => Sent payloadTypeReq (datagramBytes c
            (ctx.calculateSharedSecret identity.privateKey publicKey) (Identity.shortHash publicKey)
            (Identity.shortHash identity.publicKey)
            (telemetryRequestData sentTag telemPermBase random)) packet ∧
          ∃ n, w.tick ≤ n ∧ Floods (ctx.hooks n).localPathHashSize packet) w
          (executeNodeDiscoverPath publicKey tag ctx w).2 ∧
        ∀ payload,
          (executeNodeDiscoverPath publicKey tag ctx w).2.correlation.pendingDiscovery.Awaits
          publicKey (taggedData sentTag payload)) ∧
    (∀ tag random secret destHash srcHash flood hashSize relays last snrQ4 learnt,
      Sent payloadTypeReq (datagramBytes c secret destHash srcHash
        (telemetryRequestData tag telemPermBase random)) flood → Floods hashSize flood →
        Via flood relays last → Hears last snrQ4 learnt → relays.length ≤ 63 →
          ∀ telemetry, telemetry.1 ≤ maxTelemetryPayloadLen →
            let text := pathReturnText learnt.pathLenField learnt.path.bytes payloadTypeResponse
              (telemetryResponse tag telemetry)
            (∀ ctx w sender role held, TakesPathReturn c secret sender destHash srcHash
              (telemetryRequestData tag telemPermBase random) learnt ctx w → w.initialized = true →
                FromNow ctx w (Hooks.HasRole role) → role.answersTelemetry = true →
                  (FromNow ctx w fun h =>
                    h.telemetryNode (keyPrefixOf sender.publicKey) telemPermBase = some telemetry) →
                    meshPathReturnExtraFits learnt.pathLenField (4 + telemetry.1) = true →
                      w.PoolIntact ctx held → 0 < w.packetManager.getFreeCount →
                        Shipped (Sent payloadTypePath (datagramBytes c secret
                          (Identity.shortHash sender.publicKey)
                          (Identity.shortHash w.selfId.identity) text)) w
                          (meshOnRecvPacket learnt ctx w).2) ∧
            ∀ secret' destHash' srcHash' reply,
              Sent payloadTypePath (datagramBytes c secret' destHash' srcHash' text) reply →
                ∀ got, Relayed reply got → ∀ ctx w target held,
                  TakesPathReturn c secret' target destHash' srcHash' text got ctx w →
                    w.initialized = true → w.correlation.pendingDiscovery.Awaits target.publicKey
                      (telemetryResponse tag telemetry) → w.PoolIntact ctx held →
                        let w' := (meshOnRecvPacket got ctx w).2
                        (∃ timestamp, w'.events.filter Event.isCorrelated
                          = w.events.filter Event.isCorrelated ++ [.peerPathPublish (discoveredPath
                            target got tag timestamp hashSize (routeBytes hashSize relays)) true]) ∧
                        w'.correlation = { w.correlation with pendingDiscovery := .zero } ∧
                        (got.isRouteFlood = true ∧ 0 < w.packetManager.getFreeCount →
                          ∃ random : Buf 4, Shipped (GoesAlong payloadTypePath (datagramBytes c
                            secret' srcHash' (Identity.shortHash w.selfId.identity) (pathReturnText
                              got.pathLenField got.pathBytes 0xFF random.bytes)) hashSize relays)
                            w w') ∧
                        (¬(got.isRouteFlood = true ∧ 0 < w.packetManager.getFreeCount) →
                          Unsent ctx w w')) ∧
    ∀ got, got.isRouteDirect = true → got.getPayloadType = payloadTypePath →
      ∀ ctx w, Unsent ctx w (meshOnRecvPacket got ctx w).2 := by
  refine ⟨fun publicKey tag ctx w identity hroom hc hself =>
    executeNodeDiscoverPath_shipped publicKey tag hroom hc hself, ?_,
    fun got hdirect htype => (unsent_of_direct hdirect htype).moves⟩
  intro tag random secret destHash srcHash flood hashSize relays last snrQ4 learnt hsent
    hfloods hvia hears hrelays telemetry hlen text
  have hflood : flood.isRouteFlood = true := by
    rw [Packet.isRouteFlood, hfloods.route]
    rfl
  have hreaches := hvia.reaches hears
  have hlearnt : learnt.isRouteFlood = true := by
    rw [Packet.isRouteFlood, hreaches.getRouteType_eq]
    exact hflood
  have hway : wayBackOf learnt = some (learnt.pathLenField, learnt.path.bytes) := if_pos hlearnt
  obtain ⟨hsize, hcount, hbytes⟩ := hvia.learns hflood hsent.validPathLen hfloods.hashCount
    hears hrelays
  rw [hfloods.hashSize] at hsize hbytes
  constructor
  · intro ctx w sender role held htakes hinit hrole hanswers hhost hfits hpool hfree
    have hiff := meshOnRecvPacket_telemetryRequest_iff hsent hreaches htakes hinit (by
      decide) hrole hanswers
      (fun n hn => ⟨hhost n hn, fun hdirect => absurd hlearnt (Bool.eq_false_iff.mp hdirect)⟩)
      hlen hpool hfree
    rw [hway] at hiff
    exact hiff.mpr hfits
  · intro secret' destHash' srcHash' reply hreply got hrelayed ctx w target held htakes hinit
      hawaits hpool
    have hall := meshOnRecvPacket_discovery hears.fields.encodable.validPathLen hsize hcount hbytes
      hrelayed.encodable.validPathLen (hrelayed.load hreply.toLoad) htakes
      (by rw [length_telemetryResponse hlen]; exact Nat.le_add_right ..) hinit hawaits hpool
    rwa [telemetryResponse, wordAt_taggedData] at hall

/-- A flood that looks for the node of hash 0, behind a relay. -/
def searchPacket : Packet := relayedBy 7 telemetryPacket

/-- The answer, which is a flood too. -/
def foundPacket : Packet :=
  datagramPacket 0x21 (pathReturnText 1 searchPacket.path.bytes payloadTypeResponse
    (telemetryResponse 7 (5, Buf.zero _)))

/-- The node that waits for it. -/
def World.searching : World :=
  { Op.next .knowingPeer .boot .init with
    correlation := { World.boot.correlation with
      pendingDiscovery := { valid := true, tag := 7, keyPrefix := keyPrefixOf (Buf.zero _)
                            permissionMask := 0, expiresAtMs := 10000 } } }

/-- The answer goes out with the way over the relay. Behind another relay the host is told of the
first, and over that one goes the way over the other. -/
theorem path_discovery_agreement_relayed :
    let answer := pathReturnText 1 searchPacket.path.bytes payloadTypeResponse
      (telemetryResponse 7 (5, Buf.zero _))
    let got := relayedBy 9 foundPacket
    let w' := (meshOnRecvPacket got .knowingPeer .searching).2
    Shipped (Sent payloadTypePath (datagramBytes .plain (Buf.zero _) 0 0 answer)) (.measuring 5)
        (meshOnRecvPacket searchPacket (.measuring 5) (.measuring 5)).2 ∧
      (∃ timestamp, w'.events.filter Event.isCorrelated
        = [.peerPathPublish (discoveredPath zeroPeer got 7 timestamp 1 [7]) true]) ∧
      ∃ random : Buf 4, Shipped (GoesAlong payloadTypePath (datagramBytes .plain (Buf.zero _) 1 0
        (pathReturnText 1 [9] 0xFF random.bytes)) 1 [(World.keyed 7).selfId.identity])
        .searching w' := by
  intro answer got w'
  have hrequest : Sent payloadTypeReq (datagramBytes .plain (Buf.zero _) 0 1
      (telemetryRequestData 7 telemPermBase (Buf.zero _))) telemetryPacket :=
    sent_datagramPacket (by decide) (.inl (by decide)) (by decide +kernel)
  have hfound : Sent payloadTypePath (datagramBytes .plain (Buf.zero _) 0 1 answer) foundPacket :=
    sent_datagramPacket (by decide) (.inl (by decide)) (by decide +kernel)
  have hvia : Via telemetryPacket [(World.keyed 7).selfId.identity] searchPacket :=
    (show (meshOnRecvPacket telemetryPacket .forwarding (.keyed 7)).2.selfId.identity
      = (World.keyed 7).selfId.identity by decide +kernel) ▸
        .relayed .sent ⟨telemetryPacket, ⟨Packet.init, by decide +kernel⟩, rfl⟩ (by decide +kernel)
  have hears : Hears searchPacket 0 searchPacket :=
    ⟨searchPacket, ⟨Packet.init, by decide +kernel⟩, rfl⟩
  have hrelayed : Relayed foundPacket got :=
    .relayed (.heard ⟨foundPacket, ⟨Packet.init, by decide +kernel⟩, rfl⟩)
      (show (meshOnRecvPacket foundPacket .forwarding (.keyed 9)).1.1 ≠ actionRelease by
        decide +kernel)
      ⟨got, ⟨Packet.init, by decide +kernel⟩, rfl⟩
  obtain ⟨hanswers, hfinds⟩ := (path_discovery_agreement .plain).2.1 7 (Buf.zero _) (Buf.zero _) 0 1
    telemetryPacket 1 _ searchPacket 0 searchPacket hrequest
    ⟨by decide, by decide, by decide⟩ hvia hears (by decide) (5, Buf.zero _) (by decide)
  constructor
  · have htakes : TakesPathReturn .plain (Buf.zero _) zeroPeer 0 1
        (telemetryRequestData 7 telemPermBase (Buf.zero _)) searchPacket (.measuring 5)
        (.measuring 5) :=
      takes_measuring _ (fun h => absurd h (by decide +kernel)) (by decide +kernel)
    exact hanswers (.measuring 5) (.measuring 5) zeroPeer .chat [] htakes rfl
      (fun _ _ => ⟨_, rfl, rfl⟩) rfl (fun _ _ => rfl) (by decide +kernel) poolIntact_measuring
      (by decide +kernel)
  · have htakes : TakesPathReturn .plain (Buf.zero _) zeroPeer 0 1 answer got .knowingPeer
        .searching :=
      takes_knowingPeer _ (fun h => absurd h (by decide +kernel)) (by decide +kernel) rfl
        (by decide +kernel)
    have hpool : (Op.next .knowingPeer .boot .init).PoolIntact .knowingPeer [] :=
      Reachable.poolIntact ⟨[.init], rfl⟩ (by decide +kernel)
    obtain ⟨htold, -, hback, -⟩ := hfinds (Buf.zero _) 0 1 foundPacket hfound got hrelayed
      .knowingPeer .searching zeroPeer [] htakes rfl ⟨rfl, by decide +kernel, rfl⟩
      ⟨hpool.conserves, hpool.poolSize, hpool.reissued⟩
    have hown : Identity.shortHash World.searching.selfId.identity = 0 := by decide +kernel
    have hfield : got.pathLenField = 1 := by decide +kernel
    have hpath : got.pathBytes = [9] := by decide +kernel
    have hsends := hback ⟨by decide +kernel, by decide +kernel⟩
    rw [hown, hfield, hpath] at hsends
    exact ⟨htold, hsends⟩

end Meshcore
