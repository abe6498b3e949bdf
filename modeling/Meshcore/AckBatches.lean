import Meshcore.AckRelay
import Meshcore.Duplicates

/-!
# One batch for one acknowledgement

The duplicate check of a relay is on the acknowledgement inside a packet, so copies of one layout
count as one. But a multipart packet leaves its own header on what is inside it, and the payload
type of that header is hashed with the code: the two layouts have two hashes, and a relay that hears
both answers both.

## Main definitions

* `AckRun` — frames with one acknowledgement reach a relay while it remembers them

## Main results

* `ack_batches` — while all frames have one layout, there is one batch
* `ack_batches_two_layouts` — a plain frame and a multipart frame make two
-/

namespace Meshcore

/-! ### The table -/

/-- The duplicate table stays. -/
def Remembers (_ : Ctx) (w w' : World) : Prop := w'.tables = w.tables

instance : Composes Remembers where
  refl _ _ := rfl
  trans _ _ _ _ h h' := Eq.trans h' h

instance (priority := low) Moves.remembersOfQuiet {α : Type} (m : M α) [hm : Moves Quiet m] :
    Moves Remembers m where
  moves ctx w := by
    rw [hm.moves ctx w]
    rfl

instance (id : PacketId) (packet : Packet) : Moves Remembers (writePacket id packet) :=
  ⟨fun _ _ => rfl⟩

instance (id : PacketId) (f : Packet → Packet) : Moves Remembers (updatePacket id f) := by
  unfold updatePacket; infer_instance

instance (f : PacketQueueManager → PacketQueueManager) : Moves Remembers (modifyManager f) :=
  ⟨fun _ _ => rfl⟩

instance : Moves Remembers allocPacket := ⟨fun _ _ => rfl⟩

instance (flag : UInt16) : Moves Remembers (setErrFlag flag) := ⟨fun _ _ => rfl⟩

instance : Moves Remembers dispatcherObtainNewPacket := by
  unfold dispatcherObtainNewPacket; infer_instance

instance (id : PacketId) : Moves Remembers (dispatcherReleasePacket id) := by
  unfold dispatcherReleasePacket; infer_instance

instance (id : PacketId) (priority : UInt8) (delayMillis : UInt32) :
    Moves Remembers (dispatcherSendPacket id priority delayMillis) := by
  unfold dispatcherSendPacket; infer_instance

instance (ack : List UInt8) : Moves Remembers (meshCreateAckData ack) := by
  unfold meshCreateAckData; infer_instance

instance (ack : List UInt8) (remaining : UInt8) :
    Moves Remembers (meshCreateMultiAckData ack remaining) := by
  unfold meshCreateMultiAckData; infer_instance

instance (packet : Packet) (id : PacketId) (delayMillis : UInt32) :
    Moves Remembers (sendAckAlong packet id delayMillis) := by
  unfold sendAckAlong; infer_instance

theorem routeExtraAcks_remembers (packet : Packet) (extra : ℕ) (delayMillis : UInt32) :
    Moves Remembers (routeExtraAcks packet extra delayMillis) := by
  induction extra generalizing delayMillis with
  | zero => unfold routeExtraAcks; infer_instance
  | succ extra ih => unfold routeExtraAcks; infer_instance

attribute [instance] routeExtraAcks_remembers

instance (packet : Packet) (delayMillis : UInt32) :
    Moves Remembers (meshRouteDirectRecvAcks packet delayMillis) := by
  unfold meshRouteDirectRecvAcks; infer_instance

/-- The hash under which the table knows an acknowledgement that came in this layout. -/
def ackHash (sha : List UInt8 → PacketHash) (type : UInt8) (ack : List UInt8) : PacketHash :=
  sha (type :: ack)

section

variable {ctx : Ctx} {sha : List UInt8 → PacketHash} [hsha : FixedHash ctx sha] {w : World}
  {ack : List UInt8} {got : Packet}

variable (ctx sha) in
theorem CarriesAck.hash (h : CarriesAck ack got) (w : World) :
    (calculateHash (ackInside got) ctx w).1 = ackHash sha got.getPayloadType ack := by
  obtain ⟨hbytes, hlen, hheader, -⟩ := h.inside
  have htype : (ackInside got).getPayloadType = got.getPayloadType := by
    rw [Packet.getPayloadType, hheader]
    rfl
  have hshort : ¬(ackInside got).payloadLen > packetPayloadMaxLen := by
    rw [hlen]
    exact not_lt.mpr h.length_le
  rw [calculateHash_run, if_neg hshort, hsha.packetHash_eq, Packet.hashData, htype,
    if_neg h.ne_trace, hbytes]
  rfl

variable (ctx sha w) in
/-- A relay does not forward what it remembers, and remembers what it forwards. -/
theorem forwardsAck_remembers (h : CarriesAck ack got) :
    (ackHash sha got.getPayloadType ack ∈ w.tables.hashes.slots →
      (forwardsAck got ctx w).1 = false ∧
        ackHash sha got.getPayloadType ack ∈ (forwardsAck got ctx w).2.tables.hashes.slots) ∧
    ((forwardsAck got ctx w).1 = true →
      ackHash sha got.getPayloadType ack ∈ (forwardsAck got ctx w).2.tables.hashes.slots) := by
  have htold := (inferInstance : Moves Tells (tellAck got)).moves ctx w
  rw [forwardsAck]
  simp only [Prog.run_bind, Prog.run_ite, Prog.run_pure]
  generalize (tellAck got ctx w).2 = told at *
  have hallowed := (inferInstance : Moves Quiet (allowPacketForward got)).moves ctx told
  have htables : (allowPacketForward got ctx told).2.tables = w.tables := by rw [hallowed, htold.1]
  generalize (allowPacketForward got ctx told).2 = allowed at *
  cases (allowPacketForward got ctx told).1 with
  | false => exact ⟨fun hmem => ⟨rfl, htables ▸ hmem⟩, fun h => absurd h Bool.false_ne_true⟩
  | true =>
    have hhash := h.hash ctx sha allowed
    have hafter := mem_tablesHasSeen (ackInside got) ctx allowed
    rw [hhash] at hafter
    refine ⟨fun hmem => ⟨?_, hafter⟩, fun _ => hafter⟩
    have hasked := (inferInstance : Moves Asks (calculateHash (ackInside got))).moves ctx allowed
    have hseen : (tablesHasSeen (ackInside got) ctx allowed).1 = true := by
      have hmem' : ackHash sha got.getPayloadType ack
          ∈ (calculateHash (ackInside got) ctx allowed).2.tables.hashes.slots := by
        rw [hasked.1]
        exact htables ▸ hmem
      rw [tablesHasSeen_run]
      dsimp only
      rw [hhash, if_pos hmem']
    simp only [Bool.not_true, Bool.false_eq_true, if_false, hseen]

/-- How many packets a node queues for a packet. -/
def queuedFor (got : Packet) (ctx : Ctx) (w : World) : ℕ :=
  (meshOnRecvPacket got ctx w).2.packetManager.sendQueue.entries.length
    - w.packetManager.sendQueue.entries.length

variable (sha) in
/-- What a relay remembers it does not answer, and it remembers what it answers. -/
theorem queuedFor_remembers {held : List PacketId} {now : ℕ} (h : CarriesAck ack got)
    (hcount : got.getPathHashCount ≠ 0)
    (hmatch : w.selfId.identity.slice 0 got.getPathHashSize.toNat
      = got.path.slice 0 got.getPathHashSize.toNat)
    (hpool : w.PoolIntact ctx held) (hclock : w.millisOverride = some now) :
    let hash := ackHash sha got.getPayloadType ack
    let w' := (meshOnRecvPacket got ctx w).2
    (hash ∈ w.tables.hashes.slots → queuedFor got ctx w = 0 ∧ hash ∈ w'.tables.hashes.slots) ∧
    (queuedFor got ctx w ≠ 0 → hash ∈ w'.tables.hashes.slots) ∧
    (queuedFor got ctx w ≠ 0 → ∃ n, w.tick ≤ n ∧ n < w'.tick ∧
      queuedFor got ctx w ≤ (ctx.hooks n).extraAckTransmitCount.toNat + 1) := by
  obtain ⟨packet, delayMillis, -, -, hrun⟩ := @meshOnRecvPacket_ack ctx w got ack h hcount hmatch
  obtain ⟨-, hunsent, htaken⟩ := meshOnRecvPacket_takesOn h hcount hmatch hpool hclock
  obtain ⟨hknown, hforwards⟩ := forwardsAck_remembers ctx sha w h
  have hzero : (forwardsAck got ctx w).1 = false → queuedFor got ctx w = 0 := by
    intro hfalse
    rw [queuedFor, hunsent hfalse, Nat.sub_self]
  have htrue : queuedFor got ctx w ≠ 0 → (forwardsAck got ctx w).1 = true := by
    intro hne
    by_contra hfalse
    exact hne (hzero (by simpa using hfalse))
  refine ⟨fun hmem => ?_, fun hne => ?_, fun hne => ?_⟩
  · obtain ⟨hfalse, hafter⟩ := hknown hmem
    refine ⟨hzero hfalse, ?_⟩
    rw [hrun, hfalse]
    exact hafter
  · have htables := (inferInstance : Moves Remembers (meshRouteDirectRecvAcks packet
      delayMillis)).moves ctx (forwardsAck got ctx w).2
    rw [Remembers] at htables
    rw [hrun, htrue hne, if_pos rfl, htables]
    exact hforwards (htrue hne)
  · obtain ⟨copies, plain, draws, hbatch⟩ := htaken (htrue hne)
    obtain ⟨n, hfirst, hlast, hn⟩ := hbatch.length_draws
    have hle := hbatch.length_le
    have hplain : plain.toList.length ≤ 1 := by cases plain <;> simp
    refine ⟨n, hfirst, hlast, ?_⟩
    rw [queuedFor, hbatch.queue_eq, List.length_append, List.length_append]
    omega

end

/-! ### Runs -/

/-- A frame that a relay heard: the payload type, how many packets the relay queued for it, and the
host's answers meanwhile, from one number up to another. -/
structure AckFrame where
  type : UInt8
  queued : ℕ
  first : ℕ
  last : ℕ

/-- What a relay makes of a frame in this state. -/
def ackFrame (got : Packet) (ctx : Ctx) (w : World) : AckFrame :=
  ⟨got.getPayloadType, queuedFor got ctx w, w.tick, (meshOnRecvPacket got ctx w).2.tick⟩

/-- Frames with one acknowledgement reach a relay that their path names next. In between anything
may happen that leaves in the table what the relay remembers of the acknowledgement. -/
inductive AckRun (ctx : Ctx) (sha : List UInt8 → PacketHash) (ack : List UInt8) :
    World → List AckFrame → World → Prop where
  | start {w} : AckRun ctx sha ack w [] w
  | other {w frames w' w''} (h : AckRun ctx sha ack w frames w')
      (hkept : ∀ type, ackHash sha type ack ∈ w'.tables.hashes.slots →
        ackHash sha type ack ∈ w''.tables.hashes.slots) :
      AckRun ctx sha ack w frames w''
  | frame {w frames w' got held now} (h : AckRun ctx sha ack w frames w')
      (hcarries : CarriesAck ack got) (hcount : got.getPathHashCount ≠ 0)
      (hmatch : w'.selfId.identity.slice 0 got.getPathHashSize.toNat
        = got.path.slice 0 got.getPathHashSize.toNat)
      (hpool : w'.PoolIntact ctx held) (hclock : w'.millisOverride = some now) :
      AckRun ctx sha ack w (frames ++ [ackFrame got ctx w'])
        (meshOnRecvPacket got ctx w').2

/-- The frames that a batch was queued for. -/
def batches (frames : List AckFrame) : List AckFrame := frames.filter fun f => decide (f.queued ≠ 0)

section

variable {ctx : Ctx} {sha : List UInt8 → PacketHash} [hsha : FixedHash ctx sha] {w w' : World}
  {ack : List UInt8} {frames : List AckFrame}

/-- While all frames have one layout, a batch is in the table, and there is one at most. -/
theorem AckRun.batches_le (h : AckRun ctx sha ack w frames w') {type : UInt8}
    (htype : ∀ f ∈ frames, f.type = type) :
    (batches frames ≠ [] → ackHash sha type ack ∈ w'.tables.hashes.slots) ∧
      (batches frames).length ≤ 1 := by
  induction h with
  | start => exact ⟨fun h => absurd rfl h, Nat.zero_le _⟩
  | other h hkept ih =>
    obtain ⟨hmem, hle⟩ := ih htype
    exact ⟨fun hne => hkept type (hmem hne), hle⟩
  | @frame frames w' got held now h hcarries hcount hmatch hpool hclock ih =>
    obtain ⟨hmem, hle⟩ := ih fun f hf => htype f (List.mem_append_left _ hf)
    obtain rfl := htype _ (List.mem_append_right _ (List.mem_singleton_self _))
    obtain ⟨hknown, hanswers, -⟩ :=
      queuedFor_remembers sha hcarries hcount hmatch hpool hclock
    have hsplit : batches (frames ++ [ackFrame got ctx w'])
        = batches frames ++ batches [ackFrame got ctx w'] :=
      List.filter_append ..
    by_cases hnone : batches frames = []
    · rw [hsplit, hnone, List.nil_append]
      refine ⟨fun hne => hanswers fun hzero => hne ?_, List.length_filter_le ..⟩
      simp [batches, ackFrame, hzero]
    · obtain ⟨hzero, hafter⟩ := hknown (hmem hnone)
      have hempty : batches [ackFrame got ctx w'] = [] := by
        simp [batches, ackFrame, hzero]
      rw [hsplit, hempty, List.append_nil]
      exact ⟨fun _ => hafter, hle⟩

/-- No batch is larger than the number of extra copies that the host asked for when it was queued,
and one. -/
theorem AckRun.queued_le (h : AckRun ctx sha ack w frames w') :
    ∀ f ∈ batches frames, ∃ n, f.first ≤ n ∧ n < f.last ∧
      f.queued ≤ (ctx.hooks n).extraAckTransmitCount.toNat + 1 := by
  induction h with
  | start => nofun
  | other h hkept ih => exact ih
  | frame h hcarries hcount hmatch hpool hclock ih =>
    intro f hf
    rw [batches, List.filter_append] at hf
    rcases List.mem_append.mp hf with hf | hf
    · exact ih f hf
    · obtain ⟨hmem, hne⟩ := List.mem_filter.mp hf
      obtain rfl := List.mem_singleton.mp hmem
      exact (queuedFor_remembers sha hcarries hcount hmatch hpool hclock).2.2
        (of_decide_eq_true hne)

/-- **A relay answers one acknowledgement once, while it comes in one layout.** The batch is what
the host asks for in that call, and one packet more. -/
theorem ack_batches (h : AckRun ctx sha ack w frames w')
    (hlayout : ∀ f ∈ frames, ∀ g ∈ frames, f.type = g.type) :
    (batches frames).length ≤ 1 ∧
      ∀ f ∈ batches frames, ∃ n, f.first ≤ n ∧ n < f.last ∧
        f.queued ≤ (ctx.hooks n).extraAckTransmitCount.toNat + 1 := by
  refine ⟨?_, h.queued_le⟩
  cases frames with
  | nil => exact Nat.zero_le _
  | cons f frames => exact (h.batches_le fun g hg => hlayout g hg f (List.mem_cons_self ..)).2

end

/-- A hash that tells the payload types apart. -/
def typeHash (data : List UInt8) : PacketHash := (Buf.zero packetHashSize).set 0 (data.headD 0)

/-- A CHAT node that repeats for its clients and has that hash. -/
def Ctx.telling : Ctx :=
  { Ctx.forwarding with
    hooks := fun n =>
      { Ctx.forwarding.hooks n with
        sha256 := fun n data => some ((Buf.zero n).set 0 (data.headD 0)) } }

instance : FixedHash .telling typeHash := ⟨fun _ _ => rfl⟩

/-- The acknowledgement of `ackPacket` in the other layout. -/
def multiAckPacket : Packet :=
  { ackPacket with
    header := 0x2A, payloadLen := 5, payload := (Buf.zero _).store 0 [0x13, 1, 2, 3, 4] }

theorem ackPacket_carries : CarriesAck [1, 2, 3, 4] ackPacket :=
  ⟨by decide, by decide, by decide, by decide, .inl ⟨by decide, by decide, by decide, by decide⟩⟩

theorem multiAckPacket_carries : CarriesAck [1, 2, 3, 4] multiAckPacket :=
  ⟨by decide, by decide, by decide, by decide,
    .inr ⟨0x13, by decide, by decide, by decide, by decide, by decide⟩⟩

/-- A relay that has just started, inside one of its entry points. -/
def World.relaying : World := { Op.next .telling .boot .init with millisOverride := some 0 }

theorem poolIntact_relaying : World.relaying.PoolIntact .telling [] :=
  have h : (Op.next .telling .boot .init).PoolIntact .telling [] :=
    Reachable.poolIntact ⟨[.init], rfl⟩ (by decide +kernel)
  ⟨h.conserves, h.poolSize, h.reissued⟩

/-- The relay after the plain acknowledgement. -/
def World.relayed : World := (meshOnRecvPacket ackPacket .telling .relaying).2

theorem poolIntact_relayed : World.relayed.PoolIntact .telling [] :=
  ((inferInstance : Uses Carries [] (meshOnRecvPacket ackPacket) fun _ => []).uses
    .telling .relaying []).2 poolIntact_relaying

theorem millisOverride_relayed : World.relayed.millisOverride = some 0 := by decide +kernel

theorem ackRun_plain : AckRun .telling typeHash [1, 2, 3, 4] .relaying
    [ackFrame ackPacket .telling .relaying] .relayed :=
  .frame .start ackPacket_carries (by decide) (by decide +kernel) poolIntact_relaying rfl

/-- The same acknowledgement comes twice in one layout. -/
theorem ack_batches_twice :
    let frames := [ackFrame ackPacket .telling .relaying, ackFrame ackPacket .telling .relayed]
    frames.map (·.queued) = [1, 0] ∧ (batches frames).length ≤ 1 ∧
      ∀ f ∈ batches frames, ∃ n, f.first ≤ n ∧ n < f.last ∧
        f.queued ≤ (Ctx.telling.hooks n).extraAckTransmitCount.toNat + 1 :=
  ⟨by decide +kernel, ack_batches
    (ackRun_plain.frame ackPacket_carries (by decide) (by decide +kernel) poolIntact_relayed
      millisOverride_relayed) (by decide +kernel)⟩

/-- It comes as a plain acknowledgement and then in a multipart packet. The relay still remembers
the first frame, and queues a second batch. -/
theorem ack_batches_two_layouts :
    FixedHash .telling typeHash ∧ ∃ frames w,
      AckRun .telling typeHash [1, 2, 3, 4] .relaying frames w ∧
      multiAckPacket.pathBytes = ackPacket.pathBytes ∧
      ackHash typeHash payloadTypeAck [1, 2, 3, 4] ∈ w.tables.hashes.slots ∧
      ¬(batches frames).length ≤ 1 := by
  refine ⟨inferInstance, _, _, .frame ackRun_plain multiAckPacket_carries (by decide)
    (by decide +kernel) poolIntact_relayed millisOverride_relayed, by decide, by decide +kernel,
    by decide +kernel⟩

end Meshcore
