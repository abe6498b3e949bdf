import Meshcore.Duplicates
import Meshcore.PathDiscovery
import Meshcore.Transmission
import Meshcore.Relaying

/-!
# The frames of a flood

A flood goes to the radio because the node sends it, or because the node retransmits a copy that it
received. Both leave a mark in the trace, and each mark lets one packet into the send queue; a
packet leaves the queue with one frame. So a node hands no more frames of a flood to the radio than
it has sent and retransmitted it, whatever is queued in between and however often the node is
restarted.

A node has a mark of a flood, apart from that of its own sending, only if a frame of it came in. And
a flood that it sends records no hops yet, so that each hop in a frame stands for a retransmission.

## Main definitions

* `Packet.flood`, `frameFlood` — the flood that a packet or a frame belongs to
* `Packet.hops`, `frameHops` — the same with the number of hops that it records
* `World.Accounted` — the account of a node
* `Feeds` — what lets no packet of a flood into the send queue without a mark, or with hops

## Main results

* the instances of `Uses Feeds`, up to `meshOnRecvPacket`
* `Op.feeds` — the requests
-/

set_option synthInstance.maxSize 10000

namespace Meshcore

/-! ### Floods -/

/-- The flood that a packet belongs to. -/
def Packet.flood (packet : Packet) : Option FloodKey :=
  if packet.isRouteFlood then some packet.floodKey else none

/-- The flood that a frame belongs to. -/
def frameFlood (raw : List UInt8) : Option FloodKey :=
  (tryParsePacket Packet.init raw).bind fun parsed => if parsed.1 then parsed.2.flood else none

/-- The flood that a packet belongs to, and how many hops it records. -/
def Packet.hops (packet : Packet) : Option (FloodKey × ℕ) :=
  packet.flood.map fun k => (k, packet.getPathHashCount.toNat)

/-- The same for a frame. -/
def frameHops (raw : List UInt8) : Option (FloodKey × ℕ) :=
  (tryParsePacket Packet.init raw).bind fun parsed => if parsed.1 then parsed.2.hops else none

/-- The frame that the radio gets. -/
def Event.frame : Event → Option (List UInt8)
  | .radioPacketSend raw => some raw
  | _ => none

/-- The flood that a mark lets out. -/
def grant : Mark → Option FloodKey
  | .sent k | .retransmit k => some k
  | _ => none

/-- The frames that the radio got. -/
def World.frames (w : World) : List (List UInt8) := w.events.filterMap Event.frame

/-- The floods they belong to. -/
def World.flooded (w : World) : List FloodKey := w.frames.filterMap frameFlood

/-- What there is of the packets that wait in the send queue. -/
def World.queued {α : Type} (w : World) (f : Packet → Option α) : List α :=
  w.packetManager.sendQueue.entries.filterMap fun entry =>
    f (w.packetManager.packetBuf entry.packet)

/-- The floods that were let out. -/
def World.granted (w : World) : List FloodKey := w.trace.filterMap grant

/-- A node has taken up this flood, handed it over or retransmitted it. -/
def World.Knows (w : World) (k : FloodKey) : Prop :=
  .received k ∈ w.trace ∨ .handed k ∈ w.trace ∨ .retransmit k ∈ w.trace

/-- The account of a node that has had frames of floods with `heard` only: it knows no others, none
wait, and no more frames went to the radio than were let out. -/
structure World.Accounted (heard : FloodKey → Prop) (w : World) : Prop where
  frames : ∀ k, w.flooded.count k + (w.queued Packet.flood).count k ≤ w.granted.count k
  known : ∀ k, w.Knows k → heard k
  waiting : ∀ id ∈ w.packetManager.rxQueue.ids, ∀ k, (w.packetManager.packetBuf id).flood = some k →
    heard k

/-- Only as many packets of a flood go into the send queue as marks let out, and those that are new
there record no hops. The trace goes on. -/
structure Fed (w w' : World) : Prop where
  trace : w.trace <+: w'.trace
  floods : ∀ k, (w'.queued Packet.flood).count k + w.granted.count k
    ≤ (w.queued Packet.flood).count k + w'.granted.count k
  hops : ∀ x ∈ w'.queued Packet.hops, x.2 = 0 ∨ x ∈ w.queued Packet.hops

/-- The pool stays intact, and the send queue is fed. -/
def Feeds (ctx : Ctx) (a b : List PacketId × World) : Prop :=
  a.2.PoolIntact ctx a.1 → b.2.PoolIntact ctx b.1 ∧ Fed a.2 b.2

instance : Composes Feeds where
  refl _ _ h := ⟨h, List.prefix_rfl, fun _ => le_rfl, fun _ => .inr⟩
  trans _ _ _ _ h h' hp := by
    obtain ⟨hp₁, hfed⟩ := h hp
    obtain ⟨hp₂, hfed'⟩ := h' hp₁
    refine ⟨hp₂, hfed.trace.trans hfed'.trace, fun k => ?_, fun x hx => ?_⟩
    · have := hfed.floods k
      have := hfed'.floods k
      omega
    · exact (hfed'.hops x hx).elim .inl (hfed.hops x)

section

variable {ctx : Ctx} {w w' : World} {packet got : Packet} {raw : List UInt8} {k : FloodKey}
  {h h' held : List PacketId} {id : PacketId} {hands : FloodKey → Prop}

/-! ### On the wire -/

/-- A frame belongs to the flood of every packet that is parsed from it. -/
theorem flood_of_parsed {into : Packet} (hparse : tryParsePacket into raw = some (true, got)) :
    frameFlood raw = got.flood := by
  obtain ⟨f, hbytes, hversion, rfl⟩ := tryParsePacket_eq_true.mp hparse
  have hinit := tryParsePacket_eq_true.mpr ⟨f, hbytes, hversion, (rfl : f.onto Packet.init = _)⟩
  have hsame : (f.onto Packet.init).flood = (f.onto into).flood := by
    have hbytes₁ := f.onto_payloadBytes Packet.init
    have hbytes₂ := f.onto_payloadBytes into
    rw [Packet.flood, Packet.flood, Packet.floodKey, Packet.floodKey, hbytes₁, hbytes₂]
    rfl
  rw [frameFlood, hinit, Option.bind_some, if_pos rfl, hsame]

/-- The same with the hops. -/
theorem hops_of_parsed {into : Packet} (hparse : tryParsePacket into raw = some (true, got)) :
    frameHops raw = got.hops := by
  have hflood := flood_of_parsed hparse
  obtain ⟨f, hbytes, hversion, rfl⟩ := tryParsePacket_eq_true.mp hparse
  have hinit := tryParsePacket_eq_true.mpr ⟨f, hbytes, hversion, (rfl : f.onto Packet.init = _)⟩
  rw [frameFlood, hinit, Option.bind_some, if_pos rfl] at hflood
  rw [frameHops, hinit, Option.bind_some, if_pos rfl, Packet.hops, hflood, Packet.hops,
    Packet.getPathHashCount, Packet.getPathHashCount, Frame.onto_pathLenField,
    Frame.onto_pathLenField]

/-- A frame that is written for a packet belongs to no other flood than the packet. -/
theorem flood_of_sentBytes (h : frameFlood packet.sentBytes = some k) : packet.flood = some k := by
  rw [frameFlood, Option.bind_eq_some_iff] at h
  obtain ⟨⟨ok, parsed⟩, hparse, hk⟩ := h
  cases ok with
  | false => cases hk
  | true =>
    have hair : OnAir packet parsed := ⟨_, hparse⟩
    have hfields := hair.fields
    have hroute : parsed.isRouteFlood = packet.isRouteFlood := by
      rw [Packet.isRouteFlood, Packet.isRouteFlood, Packet.getRouteType, Packet.getRouteType,
        hfields.header]
    have htype : parsed.getPayloadType = packet.getPayloadType := by
      rw [Packet.getPayloadType, Packet.getPayloadType, hfields.header]
    rw [if_pos rfl, Packet.flood, Packet.floodKey, hroute, htype, hfields.payloadBytes] at hk
    exact hk

/-- And it records no other hops. -/
theorem hops_of_sentBytes {x : FloodKey × ℕ} (h : frameHops packet.sentBytes = some x) :
    packet.hops = some x := by
  have hflood : frameFlood packet.sentBytes = some x.1 := by
    rw [frameHops, Option.bind_eq_some_iff] at h
    obtain ⟨⟨ok, parsed⟩, hparse, hx⟩ := h
    cases ok with
    | false => cases hx
    | true =>
      rw [if_pos rfl, Packet.hops, Option.map_eq_some_iff] at hx
      obtain ⟨k, hk, rfl⟩ := hx
      rw [frameFlood, hparse, Option.bind_some, if_pos rfl, hk]
  rw [Packet.hops, flood_of_sentBytes hflood, Option.map_some]
  rw [frameHops, Option.bind_eq_some_iff] at h
  obtain ⟨⟨ok, parsed⟩, hparse, hx⟩ := h
  cases ok with
  | false => cases hx
  | true =>
    have hair : OnAir packet parsed := ⟨_, hparse⟩
    rw [if_pos rfl, Packet.hops, Option.map_eq_some_iff] at hx
    obtain ⟨k, -, rfl⟩ := hx
    show some (k, (hashCountOf packet.pathLenField).toNat)
        = some (k, (hashCountOf parsed.pathLenField).toNat)
    rw [hair.fields.pathLenField]

/-! ### What feeds -/

/-- A queue that stays, with the packets in it. -/
theorem queued_congr {α : Type} (f : Packet → Option α)
    (hqueue : w'.packetManager.sendQueue.entries = w.packetManager.sendQueue.entries)
    (hbuf : ∀ entry ∈ w.packetManager.sendQueue.entries,
      w'.packetManager.packetBuf entry.packet = w.packetManager.packetBuf entry.packet) :
    w'.queued f = w.queued f := by
  rw [World.queued, World.queued, hqueue]
  exact List.filterMap_congr fun entry hentry => by rw [hbuf entry hentry]

theorem count_granted_le (htrace : w.trace <+: w'.trace) (k : FloodKey) :
    w.granted.count k ≤ w'.granted.count k := by
  obtain ⟨new, hnew⟩ := htrace
  rw [World.granted, World.granted, ← hnew, List.filterMap_append, List.count_append]
  exact Nat.le_add_right _ _

/-- The effects of the mesh and of the requests go on with the trace. -/
theorem Steps.trace_prefix (hs : Steps hands ctx (h, w) (h', w')) : w.trace <+: w'.trace := by
  refine hs.induct (P := fun _ w₁ => w.trace <+: w₁.trace) List.prefix_rfl ?_
  intro h₁ w₁ h₂ w₂ htrace hstep
  cases hstep with
  | quiet hq =>
    rw [hq]
    exact htrace
  | handed | sent | record => exact htrace.trans (List.prefix_append ..)
  | write | errFlags | dups | alloc | free | queueOutbound => exact htrace

/-- They keep the pool. -/
theorem Steps.poolIntact (hs : Steps hands ctx (h, w) (h', w')) (hp : w.PoolIntact ctx h) :
    w'.PoolIntact ctx h' := by
  have hframed := hs.framed
  refine ⟨?_, hframed.2.1.trans hp.poolSize, (hs.reissued hp.conserves).trans hp.reissued⟩
  rw [hframed.outbound]
  exact hs.conserves hp.conserves

end

/-- What leaves the send queue alone. -/
instance (priority := low) Uses.feedsOfUnsent {α : Type} {h : List PacketId}
    {h' : α → List PacketId} (m : M α) [hm : Uses (Steps fun _ => True) h m h']
    [hu : Moves Unsent m] : Uses Feeds h m h' where
  uses ctx w extra hp := by
    have hs := hm.uses ctx w extra
    have hstays : Unsent ctx w (m ctx w).2 := hu.moves ctx w
    have hkept := hs.keepsQueue hp.conserves
    have hqueue : ∀ {β : Type} (f : Packet → Option β),
        (m ctx w).2.queued f = w.queued f := fun f =>
      queued_congr f (congrArg PacketQueue.entries hstays) hkept.2
    refine ⟨hs.poolIntact hp, hs.trace_prefix, fun k => ?_,
      fun x hx => .inr (hqueue Packet.hops ▸ hx)⟩
    have hgranted := count_granted_le hs.trace_prefix k
    show ((m ctx w).2.queued _).count k + w.granted.count k
      ≤ (w.queued _).count k + (m ctx w).2.granted.count k
    rw [hqueue]
    omega

/-! ### Sending -/

instance (id : PacketId) (priority : UInt8) (delayMillis : UInt32) :
    Moves KeepsInbound (dispatcherSendPacket id priority delayMillis) := by
  unfold dispatcherSendPacket; infer_instance

section

variable {ctx : Ctx} {w : World} {held : List PacketId} {id : PacketId} {n : ℕ}

/-- A packet that is sent is the only new one in the send queue, if it is not too long. -/
theorem queued_dispatcherSendPacket (priority : UInt8) (delayMillis : UInt32)
    (hp : w.PoolIntact ctx (id :: held)) :
    let w' := (dispatcherSendPacket id priority delayMillis ctx w).2
    (∀ {α : Type} (f : Packet → Option α), w'.queued f = w.queued f) ∨
      (w.packetManager.packetBuf id).payloadLen ≤ packetPayloadMaxLen ∧
        ∀ {α : Type} (f : Packet → Option α),
          w'.queued f = w.queued f ++ (f (w.packetManager.packetBuf id)).toList := by
  intro w'
  obtain ⟨-, -, -, hbuf⟩ := (Moves.moves ctx w : KeepsInbound ctx w w')
  by_cases hrefused : (!isValidPathLen (w.packetManager.packetBuf id).pathLenField) = true ∨
      (w.packetManager.packetBuf id).payloadLen > packetPayloadMaxLen
  · have hqueue : Unsent ctx w w' := by
      simp only [w', dispatcherSendPacket, readPacket, Prog.run_bind, Prog.run_gets, Prog.run_ite]
      rw [if_pos hrefused]
      exact Moves.moves ctx w
    exact .inl fun f => queued_congr f (congrArg PacketQueue.entries hqueue) fun _ _ => by rw [hbuf]
  · rw [not_or, Bool.not_eq_true, Bool.not_eq_false', not_lt] at hrefused
    obtain ⟨hvalid, hlen⟩ := hrefused
    have hqueue := (dispatcherSendPacket_queues priority delayMillis hp hvalid hlen).1
    refine .inr ⟨hlen, fun f => ?_⟩
    rw [World.queued, hqueue, hbuf, List.filterMap_append, World.queued]
    cases hf : f (w.packetManager.packetBuf id) <;> simp [hf]

/-- A packet that is written, recorded and sent needs a mark if it is a flood. -/
theorem feeds_of_written {α : Type} (id : PacketId) (packet : Packet) (record : M α)
    [hr : Moves KeepsManager record] [hc : Uses Carries [] record fun _ => []] (priority : UInt8)
    (delayMillis : UInt32)
    (hmarks : ∀ ctx w, w.trace <+: (record ctx w).2.trace ∧
      (packet.payloadLen ≤ packetPayloadMaxLen → ∀ k, packet.flood = some k →
        w.granted.count k + 1 ≤ (record ctx w).2.granted.count k ∧ packet.getPathHashCount = 0)) :
    Uses Feeds [id] (do
      writePacket id packet
      let _ ← record
      dispatcherSendPacket id priority delayMillis) fun _ => [] where
  uses ctx w extra hp := by
    let written := (writePacket id packet ctx w).2
    let recorded := (record ctx written).2
    have hwritten : written.PoolIntact ctx (id :: extra) :=
      ⟨hp.conserves.write packet, hp.poolSize, hp.reissued⟩
    have hcarried : recorded.PoolIntact ctx (id :: extra) :=
      (hc.uses ctx written (id :: extra)).2 hwritten
    have hkeepsManager : KeepsManager ctx written recorded := hr.moves ctx written
    obtain ⟨htrace, hgranted⟩ := hmarks ctx written
    obtain ⟨hsent, -⟩ := (Moves.moves ctx recorded : KeepsInbound ctx recorded
      (dispatcherSendPacket id priority delayMillis ctx recorded).2)
    have hsend : Uses Carries [id] (dispatcherSendPacket id priority delayMillis) fun _ => [] :=
      inferInstance
    -- Writing a packet in hand changes none of those that wait.
    have hqueue : ∀ {β : Type} (f : Packet → Option β), recorded.queued f = w.queued f := by
      refine fun f => queued_congr f (by rw [hkeepsManager]; rfl) fun entry hentry => ?_
      have hne : entry.packet ≠ id := by
        rintro rfl
        exact hp.conserves.not_mem_sendQueue (List.mem_cons_self ..) (List.mem_map_of_mem hentry)
      rw [hkeepsManager]
      exact Function.update_of_ne hne ..
    have hbuf : recorded.packetManager.packetBuf id = packet := by
      rw [hkeepsManager]
      exact packetBuf_writePacket ..
    have hmono : ∀ k, w.granted.count k ≤ recorded.granted.count k := count_granted_le htrace
    obtain ⟨w', hw'⟩ :
        ∃ w', (dispatcherSendPacket id priority delayMillis ctx recorded).2 = w' := ⟨_, rfl⟩
    have hsame : w'.granted = recorded.granted := by
      rw [← hw', World.granted, World.granted, hsent]
    have hfed : Fed w w' := by
      have hqueued := queued_dispatcherSendPacket priority delayMillis hcarried
      rw [hw', hbuf] at hqueued
      refine ⟨by rw [← hw', hsent]; exact htrace, fun k => ?_, fun x hx => ?_⟩
      · rw [hsame]
        have hle := hmono k
        rcases hqueued with hstays | ⟨hlen, hnew⟩
        · rw [hstays, hqueue]
          omega
        · rw [hnew, hqueue, List.count_append]
          cases hflood : packet.flood with
          | none => simpa using hle
          | some k' =>
            by_cases hk : k' = k
            · subst hk
              have hone := (hgranted hlen k' hflood).1
              simp only [Option.toList_some, List.count_singleton_self]
              exact Nat.add_assoc .. ▸ Nat.add_le_add_left (by rw [Nat.add_comm]; exact hone) _
            · simpa [hk] using hle
      · rcases hqueued with hstays | ⟨hlen, hnew⟩
        · exact .inr (by rwa [hstays, hqueue] at hx)
        · rw [hnew, hqueue, List.mem_append] at hx
          refine hx.symm.imp_left fun hx => ?_
          rw [Option.mem_toList, Packet.hops, Option.map_eq_some_iff] at hx
          obtain ⟨k, hk, rfl⟩ := hx
          rw [(hgranted hlen k hk).2]
          rfl
    exact ⟨(hsend.uses ctx recorded extra).2 hcarried, hw' ▸ hfed⟩

end

/-- A flood is marked when it is sent. -/
theorem sendFloodPacket_feeds (id : PacketId) {packet : Packet} (delayMillis : UInt32)
    (hnone : packet.getPathHashCount = 0) :
    Uses Feeds [id] (sendFloodPacket id packet delayMillis) fun _ => [] := by
  refine feeds_of_written id packet (recordSentFlood packet) _ delayMillis fun ctx w => ?_
  have hseen : w.trace <+: (tablesHasSeen packet ctx w).2.trace :=
    Steps.trace_prefix ((inferInstance : Uses (Steps fun _ => True) [] (tablesHasSeen packet)
      fun _ => []).uses ctx w [])
  simp only [recordSentFlood, Prog.run_bind, Prog.run_ite, Prog.run_pure]
  split
  · rename_i hlong
    exact ⟨hseen, fun hlen => absurd hlen (not_le.mpr hlong)⟩
  · refine ⟨hseen.trans (List.prefix_append ..), fun _ k hflood => ⟨?_, hnone⟩⟩
    have hkey : packet.floodKey = k := by
      rw [Packet.flood] at hflood
      split at hflood
      · exact Option.some.inj hflood
      · cases hflood
    have hgranted := count_granted_le hseen k
    simp only [mark, Prog.run_modify, World.granted, List.filterMap_append,
      List.count_append] at hgranted ⊢
    rw [hkey]
    simp [grant]
    omega

/-- A path that is set to no hops records none. -/
theorem getPathHashCount_setPathHashSizeAndCount (packet : Packet) (hashSize : UInt8) :
    (packet.setPathHashSizeAndCount hashSize 0).getPathHashCount = 0 := by
  have hfield : (packet.setPathHashSizeAndCount hashSize 0).pathLenField.toNat
      = (hashSize - 1).toNat * 64 % 256 := by
    simp [Packet.setPathHashSizeAndCount, Packet.pathLenField, Nat.shiftLeft_eq]
  refine UInt8.toNat.inj ?_
  rw [Packet.getPathHashCount, toNat_hashCountOf, hfield]
  show _ = 0
  omega

instance (id : PacketId) (delayMillis : UInt32) (pathHashSize : UInt8) :
    Uses Feeds [id] (meshSendFlood id delayMillis pathHashSize) fun _ => [] := by
  unfold meshSendFlood
  refine @Uses.bind _ _ _ _ _ _ _ _ _ _ _ inferInstance fun packet => ?_
  have hsend := sendFloodPacket_feeds id delayMillis
    (getPathHashCount_setPathHashSizeAndCount (packet.withRouteType routeTypeFlood) pathHashSize)
  dsimp only
  infer_instance

instance (id : PacketId) (codes : UInt16 × UInt16) (delayMillis : UInt32) (pathHashSize : UInt8) :
    Uses Feeds [id] (meshSendFloodByTransportCodes id codes delayMillis pathHashSize)
      fun _ => [] := by
  unfold meshSendFloodByTransportCodes
  refine @Uses.bind _ _ _ _ _ _ _ _ _ _ _ inferInstance fun packet => ?_
  have hsend := sendFloodPacket_feeds id delayMillis (getPathHashCount_setPathHashSizeAndCount
    { packet.withRouteType routeTypeTransportFlood with transportCodes := codes }
    (meshTransportFloodHashSize pathHashSize codes))
  dsimp only
  infer_instance

/-- A packet that is sent along a path is no flood. -/
theorem feeds_of_direct {α : Type} (id : PacketId) {packet : Packet} (record : M α)
    [Moves KeepsManager record] [Uses Carries [] record fun _ => []]
    [hs : Uses (Steps fun _ => True) [] record fun _ => []] (priority : UInt8)
    (delayMillis : UInt32) (hdirect : packet.isRouteFlood = false) :
    Uses Feeds [id] (do
      writePacket id packet
      let _ ← record
      dispatcherSendPacket id priority delayMillis) fun _ => [] := by
  refine feeds_of_written id packet record priority delayMillis fun ctx w =>
    ⟨Steps.trace_prefix (hs.uses ctx w []), fun _ k hflood => ?_⟩
  rw [Packet.flood, hdirect] at hflood
  cases hflood

theorem isRouteFlood_withRouteType_direct (packet : Packet) :
    (packet.withRouteType routeTypeDirect).isRouteFlood = false :=
  Packet.isRouteFlood_of_direct
    (isRouteDirect_of_getRouteType (getRouteType_withRouteType packet (by decide)))

instance (id : PacketId) (path : List UInt8) (pathLen : UInt8) (delayMillis : UInt32) :
    Uses Feeds [id] (meshSendDirect id path pathLen delayMillis) fun _ => [] := by
  have hsend : ∀ (sent : Packet) (priority : UInt8), sent.isRouteFlood = false → Uses Feeds [id] (do
      writePacket id sent
      let _ ← tablesHasSeen sent
      dispatcherSendPacket id priority delayMillis) fun _ => [] :=
    fun sent priority hdirect => feeds_of_direct id (tablesHasSeen sent) priority
      delayMillis hdirect
  unfold meshSendDirect
  refine @Uses.bind _ _ _ _ _ _ _ _ _ _ _ inferInstance fun packet => ?_
  have hdirect := isRouteFlood_withRouteType_direct packet
  dsimp only
  split
  · split
    · infer_instance
    · exact hsend _ 5 hdirect
  · exact hsend _ _ hdirect

instance (id : PacketId) (delayMillis : UInt32) :
    Uses Feeds [id] (meshSendZeroHop id delayMillis) fun _ => [] := by
  unfold meshSendZeroHop
  refine @Uses.bind _ _ _ _ _ _ _ _ _ _ _ inferInstance fun packet => ?_
  exact feeds_of_direct id (tablesHasSeen _) 0 delayMillis
    (isRouteFlood_withRouteType_direct packet)

/-! ### The mesh -/

instance (packet : Packet) (id : PacketId) (delayMillis : UInt32) :
    Uses Feeds [id] (sendAckAlong packet id delayMillis) fun _ => [] := by
  have hsend : ∀ ack : Packet, Uses Feeds [id] (do
      writePacket id { ack.withRouteType routeTypeDirect with
        path := (copyPath ack.path packet.path packet.pathLenField).2
        pathLen := (copyPath ack.path packet.path packet.pathLenField).1.toUInt16 }
      let _ ← (pure () : M Unit)
      dispatcherSendPacket id 0 delayMillis) fun _ => [] := fun ack =>
    feeds_of_direct id (pure ()) 0 delayMillis (isRouteFlood_withRouteType_direct ack)
  have hall : Uses Feeds [id] (do
      access (packet.getPathByteLen.toNat ≤ maxPathLen)
      let ack ← readPacket id
      writePacket id { ack.withRouteType routeTypeDirect with
        path := (copyPath ack.path packet.path packet.pathLenField).2
        pathLen := (copyPath ack.path packet.path packet.pathLenField).1.toUInt16 }
      let _ ← (pure () : M Unit)
      dispatcherSendPacket id 0 delayMillis) fun _ => [] := inferInstance
  exact hall

theorem routeExtraAcks_feeds (packet : Packet) (extra : ℕ) (delayMillis : UInt32) :
    Uses Feeds [] (routeExtraAcks packet extra delayMillis) fun _ => [] := by
  induction extra generalizing delayMillis with
  | zero => unfold routeExtraAcks; infer_instance
  | succ extra ih => unfold routeExtraAcks; infer_instance

attribute [instance] routeExtraAcks_feeds

instance (packet : Packet) (delayMillis : UInt32) :
    Uses Feeds [] (meshRouteDirectRecvAcks packet delayMillis) fun _ => [] := by
  unfold meshRouteDirectRecvAcks; infer_instance

instance (packet : Packet) : Uses Feeds [] (meshForwardMultipartDirect packet) fun _ => [] := by
  unfold meshForwardMultipartDirect; infer_instance

instance (packet : Packet) (hash : List UInt8) (hashSize : ℕ) :
    Uses Feeds [] (forwardTrace packet hash hashSize) fun _ => [] := by
  unfold forwardTrace; infer_instance

instance (packet : Packet) : Uses Feeds [] (onRecvTrace packet) fun _ => [] := by
  unfold onRecvTrace; infer_instance

instance (packet : Packet) : Uses Feeds [] (onRecvDirectHop packet) fun _ => [] := by
  unfold onRecvDirectHop; infer_instance

instance (peer : PeerIdentity) (ack : List UInt8) :
    Uses Feeds [] (sendAckDirect peer ack) fun _ => [] := by
  unfold sendAckDirect; infer_instance

instance (peer : PeerIdentity) (secret : Buf publicKeySize) (packet : Packet)
    (ack : List UInt8) :
    Uses Feeds [] (sendAckOrPathReturn peer secret packet ack) fun _ => [] := by
  unfold sendAckOrPathReturn; infer_instance

instance (peer : PeerIdentity) (secret : Buf publicKeySize) (packet : Packet) (flags : UInt8)
    (data : List UInt8) (textEnd : ℕ) :
    Uses Feeds [] (handleTextFollowUp peer secret packet flags data textEnd) fun _ => [] := by
  unfold handleTextFollowUp; infer_instance

instance (peer : PeerIdentity) (secret : Buf publicKeySize) (packet : Packet) :
    Uses Feeds [] (handleDiscoverPathRequest peer secret packet) fun _ => [] := by
  unfold handleDiscoverPathRequest; infer_instance

instance (id : PacketId) (key : Buf publicKeySize) (delayMillis : UInt32) :
    Uses Feeds [id] (sendToPeer id key delayMillis) fun _ => [] := by
  unfold sendToPeer; infer_instance

instance (peer : PeerIdentity) (secret : Buf publicKeySize) (packet : Packet) (tag : UInt32)
    (mask : UInt8) :
    Uses Feeds [] (handleTelemetryRequest peer secret packet tag mask) fun _ => [] := by
  unfold handleTelemetryRequest; infer_instance

instance (sender : PeerIdentity) (secret : Buf publicKeySize) (packet : Packet)
    (timestamp : UInt32) (flags : UInt8) (data : List UInt8) (textOff : ℕ) :
    Uses Feeds [] (publishText sender secret packet timestamp flags data textOff) fun _ => [] := by
  unfold publishText; infer_instance

instance (sender : PeerIdentity) (secret : Buf publicKeySize) (packet : Packet)
    (timestamp : UInt32) (data : List UInt8) :
    Uses Feeds [] (onPeerText sender secret packet timestamp data) fun _ => [] := by
  unfold onPeerText; infer_instance

instance (sender : PeerIdentity) (secret : Buf publicKeySize) (packet : Packet)
    (timestamp : UInt32) (data : List UInt8) :
    Uses Feeds [] (onPeerReq sender secret packet timestamp data) fun _ => [] := by
  unfold onPeerReq; infer_instance

instance (packet : Packet) (type : UInt8) (sender : PeerIdentity) (secret : Buf publicKeySize)
    (data : List UInt8) :
    Uses Feeds [] (onPeerDataRecvInternal packet type sender secret data) fun _ => [] := by
  unfold onPeerDataRecvInternal; infer_instance

instance (packet : Packet) (type : UInt8) (sender : PeerIdentity) (secret : Buf publicKeySize)
    (data : List UInt8) :
    Uses Feeds [] (onPeerDataRecv packet type sender secret data) fun _ => [] := by
  unfold onPeerDataRecv whenInitialized; infer_instance

instance (packet : Packet) : Uses Feeds [] (handleControlDiscoverRequest packet) fun _ => [] := by
  unfold handleControlDiscoverRequest; infer_instance

instance (packet : Packet) : Uses Feeds [] (onControlDataRecv packet) fun _ => [] := by
  unfold onControlDataRecv whenInitialized; infer_instance

instance (packet : Packet) : Uses Feeds [] (onRecvAck packet) fun _ => [] := by
  unfold onRecvAck; infer_instance

instance (packet : Packet) (srcHash : UInt8) (sender : PeerIdentity)
    (secret : Buf publicKeySize) (r : PathReturn) :
    Uses Feeds [] (onRecvPath packet srcHash sender secret r) fun _ => [] := by
  unfold onRecvPath; infer_instance

theorem tryPeers_feeds (packet : Packet) (srcHash : UInt8) (macAndData : List UInt8)
    (n cursor : ℕ) :
    Uses Feeds [] (tryPeers packet srcHash macAndData n cursor) fun _ => [] := by
  induction n generalizing cursor with
  | zero => unfold tryPeers; infer_instance
  | succ n ih => unfold tryPeers; infer_instance

attribute [instance] tryPeers_feeds

instance (packet : Packet) : Uses Feeds [] (onRecvPeer packet) fun _ => [] := by
  unfold onRecvPeer; infer_instance

instance (packet : Packet) : Uses Feeds [] (onRecvAnon packet) fun _ => [] := by
  unfold onRecvAnon; infer_instance

theorem tryChannels_feeds (packet : Packet) (macAndData : List UInt8)
    (channels : List GroupChannel) :
    Uses Feeds [] (tryChannels packet macAndData channels) fun _ => [] := by
  induction channels with
  | nil => unfold tryChannels; infer_instance
  | cons channel channels ih => unfold tryChannels; infer_instance

attribute [instance] tryChannels_feeds

instance (packet : Packet) : Uses Feeds [] (onRecvGroup packet) fun _ => [] := by
  unfold onRecvGroup; infer_instance

instance (packet : Packet) : Uses Feeds [] (onRecvAdvert packet) fun _ => [] := by
  unfold onRecvAdvert; infer_instance

instance (packet : Packet) : Uses Feeds [] (onRecvRawCustom packet) fun _ => [] := by
  unfold onRecvRawCustom; infer_instance

instance (packet : Packet) : Uses Feeds [] (onRecvMultipart packet) fun _ => [] := by
  unfold onRecvMultipart; infer_instance

instance (packet : Packet) : Uses Feeds [] (onRecvPayload packet) fun _ => [] := by
  unfold onRecvPayload; infer_instance

instance (packet : Packet) : Uses Feeds [] (onRecvRouted packet) fun _ => [] := by
  unfold onRecvRouted; infer_instance

instance (packet : Packet) : Uses Feeds [] (meshOnRecvPacket packet) fun _ => [] := by
  unfold meshOnRecvPacket; infer_instance

/-! ### Requests -/

instance (id : PacketId) (delayMillis : UInt32) :
    Uses Feeds [id] (requestSendFlood id delayMillis) fun _ => [] := by
  unfold requestSendFlood; infer_instance

instance (type : RequestType) (packet : M (Option PacketId)) (send : PacketId → M Unit)
    [Uses Feeds [] packet Option.toList] [∀ id, Uses Feeds [id] (send id) fun _ => []] :
    Uses Feeds [] (withRequestPacket type packet send) fun _ => [] := by
  unfold withRequestPacket; infer_instance

instance (type : RequestType) (execute : M Unit) [Uses Feeds [] execute fun _ => []] :
    Uses Feeds [] (withLocalIdentity type execute) fun _ => [] := by
  unfold withLocalIdentity; infer_instance

instance (flood : Bool) : Uses Feeds [] (executeNodeAdvert flood) fun _ => [] := by
  unfold executeNodeAdvert; infer_instance

instance (raw : List UInt8) : Uses Feeds [] (executeNodePeerAdvert raw) fun _ => [] := by
  unfold executeNodePeerAdvert; infer_instance

instance (request : MessageSendToNode) :
    Uses Feeds [] (executeMessageSendToNode request) fun _ => [] := by
  unfold executeMessageSendToNode; infer_instance

instance (request : MessageSendToChannel) :
    Uses Feeds [] (executeMessageSendToChannel request) fun _ => [] := by
  unfold executeMessageSendToChannel; infer_instance

instance (key : Buf publicKeySize) (tag : UInt32) :
    Uses Feeds [] (executeNodeDiscoverPath key tag) fun _ => [] := by
  unfold executeNodeDiscoverPath; infer_instance

instance (request : NodeTracePath) (tag : UInt32) :
    Uses Feeds [] (executeNodeTracePath request tag) fun _ => [] := by
  unfold executeNodeTracePath; infer_instance

instance (request : NodeTelemetry) (tag : UInt32) :
    Uses Feeds [] (executeNodeTelemetry request tag) fun _ => [] := by
  unfold executeNodeTelemetry; infer_instance

instance (request : NodePayload) (tag : UInt32) :
    Uses Feeds [] (executeNodeBinary request tag) fun _ => [] := by
  unfold executeNodeBinary; infer_instance

instance (request : NodePayload) : Uses Feeds [] (executeNodeAnonData request) fun _ => [] := by
  unfold executeNodeAnonData; infer_instance

instance (r : NodeBinaryResponse) : Uses Feeds [] (executeNodeBinaryResponse r) fun _ => [] := by
  unfold executeNodeBinaryResponse; infer_instance

instance (filter : UInt8) (prefixOnly : Bool) (since tag : UInt32) :
    Uses Feeds [] (executeNodeDiscover filter prefixOnly since tag) fun _ => [] := by
  unfold executeNodeDiscover; infer_instance

instance (request : ChannelData) : Uses Feeds [] (executeChannelData request) fun _ => [] := by
  unfold executeChannelData; infer_instance

instance (request : RawData) : Uses Feeds [] (executeRawData request) fun _ => [] := by
  unfold executeRawData; infer_instance

instance (payload : List UInt8) : Uses Feeds [] (executeControlData payload) fun _ => [] := by
  unfold executeControlData; infer_instance

/-- The same with nothing in hand. -/
def FeedsNow (ctx : Ctx) (w w' : World) : Prop := Feeds ctx ([], w) ([], w')

instance : Composes FeedsNow where
  refl ctx w := Composes.refl ctx ([], w)
  trans ctx w w' w'' h h' := Composes.trans ctx ([], w) ([], w') ([], w'') h h'

section

variable {α : Type}

instance (priority := low) Moves.feedsNowOfUses (m : M α) [hm : Uses Feeds [] m fun _ => []] :
    Moves FeedsNow m := ⟨fun ctx w => hm.uses ctx w []⟩

/-- What leaves the queues and the packets alone. -/
instance (priority := low) Moves.feedsNowOfKeepsInbound (m : M α) [hk : Moves KeepsPool m]
    [ha : Moves KeepsInbound m] [hu : Moves Unsent m] : Moves FeedsNow m where
  moves ctx w hp := by
    obtain ⟨htrace, -, -, hbuf⟩ := ha.moves ctx w
    have hqueue := hu.moves ctx w
    have hstays : ∀ {β : Type} (f : Packet → Option β),
        (m ctx w).2.queued f = w.queued f := fun f =>
      queued_congr f (congrArg PacketQueue.entries hqueue) fun _ _ => by rw [hbuf]
    refine ⟨hk.moves ctx w hp, htrace ▸ List.prefix_rfl, fun k => ?_,
      fun x hx => .inr (hstays Packet.hops ▸ hx)⟩
    show ((m ctx w).2.queued _).count k + w.granted.count k
      ≤ (w.queued _).count k + (m ctx w).2.granted.count k
    rw [hstays, World.granted, World.granted, htrace]

instance (nowMs : ℕ) (deadline : Option ℕ) : Moves Unsent (setTimer nowMs deadline) :=
  ⟨fun _ _ => rfl⟩

instance (nowMs : ℕ) : Moves Unsent (timerSync nowMs) := by
  unfold timerSync runtimeNextDeadlineGet; infer_instance

instance : Moves Unsent timerSyncNow := by unfold timerSyncNow; infer_instance

instance (body : M ℤ) [Moves FeedsNow body] : Moves FeedsNow (whenReady body) := by
  unfold whenReady; infer_instance

instance (execute : M Unit) [Moves FeedsNow execute] :
    Moves FeedsNow (requestExecuteNow execute) := by
  unfold requestExecuteNow; infer_instance

instance (record : Option α) (execute : α → M ℤ) [∀ a, Moves FeedsNow (execute a)] :
    Moves FeedsNow (request record execute) := by
  unfold request; infer_instance

instance (record : Option α) (requestTag : Option UInt32) (execute : α → UInt32 → M Unit)
    [∀ a tag, Moves FeedsNow (execute a tag)] :
    Moves FeedsNow (requestWithTag record requestTag execute) := by
  unfold requestWithTag; infer_instance

end

/-- A request lets one packet of a flood into the send queue for each mark. -/
theorem Op.feeds {op : Op} (hop : op.isRequest = true) : Moves FeedsNow op.run := by
  cases op with
  | init | deinit | timerFired | radioRxInject | radioTxDone => cases hop
  | nodeAdvertRequest => unfold Op.run Op.call meshcoreNodeAdvertRequest; infer_instance
  | nodePeerAdvertRequest => unfold Op.run Op.call meshcoreNodePeerAdvertRequest; infer_instance
  | messageSendToNode => unfold Op.run Op.call meshcoreMessageSendToNode; infer_instance
  | messageSendToChannel => unfold Op.run Op.call meshcoreMessageSendToChannel; infer_instance
  | channelDataSend => unfold Op.run Op.call meshcoreChannelDataSend; infer_instance
  | nodeDiscoverPathRequest => unfold Op.run Op.call meshcoreNodeDiscoverPathRequest; infer_instance
  | nodeTraceRequest => unfold Op.run Op.call meshcoreNodeTraceRequest; infer_instance
  | nodeTracePathRequest => unfold Op.run Op.call meshcoreNodeTracePathRequest; infer_instance
  | nodeTelemetryRequest => unfold Op.run Op.call meshcoreNodeTelemetryRequest; infer_instance
  | nodeBinaryRequestWithTag =>
    unfold Op.run Op.call meshcoreNodeBinaryRequestWithTag; infer_instance
  | nodeAnonDataSend => unfold Op.run Op.call meshcoreNodeAnonDataSend; infer_instance
  | nodeBinaryResponse => unfold Op.run Op.call meshcoreNodeBinaryResponse; infer_instance
  | nodeDiscoverRequest => unfold Op.run Op.call meshcoreNodeDiscoverRequest; infer_instance
  | rawDataSend => unfold Op.run Op.call meshcoreRawDataSend; infer_instance
  | controlDataSend => unfold Op.run Op.call meshcoreControlDataSend; infer_instance

end Meshcore
