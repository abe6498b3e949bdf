import Meshcore.DirectRoute
import Meshcore.Outcomes
import Meshcore.PoolConservation
import Meshcore.Relaying

/-!
# Acknowledgements along a direct route

A relay does not send an acknowledgement on as it came. It unpacks the code and packs it again: into
as many multipart copies as the host asks for, and then into a plain acknowledgement, each with what
is left of the path. So the code changes between two layouts from hop to hop.

## Main definitions

* `CarriesAck` — a direct packet with an acknowledgement, in one layout or the other
* `AckRelayed` — an acknowledgement on its way along a route

## Main results

* `ack_relay`
-/

namespace Meshcore

/-! ### Making the packets -/

/-- A packet that was just made, and has no route yet. -/
structure Packed (type : UInt8) (bytes : List UInt8) (packet : Packet) : Prop extends
    Load type bytes packet where
  header : packet.header = typeHeader type

instance (ack : List UInt8) : Fills (Packed payloadTypeAck ack) (meshCreateAckData ack) := by
  unfold meshCreateAckData
  have hfill : ∀ id, Fills (Packed payloadTypeAck ack)
      (if ack.length > packetPayloadMaxLen then do
        dispatcherReleasePacket id
        pure none
      else do
        updatePacket id fun p =>
          { p with
            header := typeHeader payloadTypeAck
            payload := p.payload.store 0 ack
            payloadLen := ack.length }
        pure (some id)) := by
    intro id
    split
    · infer_instance
    · rename_i hlen
      exact .update fun p => ⟨@Load.fill payloadTypeAck ack p (not_lt.mp hlen) p.pathLen
        p.transportCodes p.path p.snrQ4, rfl⟩
  infer_instance

/-- The byte before the code in a multipart acknowledgement. -/
def multiAckHead (remaining : UInt8) : UInt8 := (remaining <<< 4) ||| payloadTypeAck

instance (ack : List UInt8) (remaining : UInt8) :
    Fills (Packed payloadTypeMultipart (multiAckHead remaining :: ack))
      (meshCreateMultiAckData ack remaining) := by
  unfold meshCreateMultiAckData
  have hfill : ∀ id, Fills (Packed payloadTypeMultipart (multiAckHead remaining :: ack))
      (if ack.length > packetPayloadMaxLen - 1 then do
        dispatcherReleasePacket id
        pure none
      else do
        updatePacket id fun p =>
          { p with
            header := typeHeader payloadTypeMultipart
            payload := p.payload.store 0 (((remaining <<< 4) ||| payloadTypeAck) :: ack)
            payloadLen := 1 + ack.length }
        pure (some id)) := by
    intro id
    split
    · infer_instance
    · rename_i hlen
      have hfits : (multiAckHead remaining :: ack).length ≤ packetPayloadMaxLen := by
        rw [List.length_cons]
        show ack.length + 1 ≤ 184
        change ¬ack.length > 183 at hlen
        omega
      refine .update fun p => ?_
      rw [Nat.add_comm]
      exact ⟨@Load.fill payloadTypeMultipart (multiAckHead remaining :: ack) p hfits p.pathLen
        p.transportCodes p.path p.snrQ4, rfl⟩
  infer_instance

/-! ### Queueing them -/

/-- A packet with this load that goes along the path of another one. -/
structure Alongside (type : UInt8) (bytes : List UInt8) (along packet : Packet) : Prop extends
    Load type bytes packet where
  header : packet.header = (typeHeader type &&& ~~~phRouteMask) ||| routeTypeDirect
  pathLenField : packet.pathLenField = along.pathLenField
  pathBytes : packet.pathBytes = along.pathBytes

/-- The time for which a packet is queued. -/
def scheduledAt (ctx : Ctx) (now : ℕ) (delayMillis : UInt32) : ℕ :=
  ((now + toCInt delayMillis) % 2 ^ ctx.ulongBits).toNat % 2 ^ 32

section

variable {ctx : Ctx} {w : World} {held : List PacketId} {id : PacketId} {now : ℕ} {type : UInt8}
  {bytes : List UInt8} {along : Packet}

theorem dispatcherFutureMillis_run (hclock : w.millisOverride = some now) (delayMillis : UInt32) :
    (dispatcherFutureMillis (toCInt delayMillis) ctx w).1 % 2 ^ 32
      = scheduledAt ctx now delayMillis := by
  simp only [dispatcherFutureMillis, Prog.run_bind, Prog.run_env, Prog.run_pure,
    clockMillisGet_of_override hclock]
  rfl

/-- A path that is copied is the same path. -/
theorem pathBytes_of_copyPath {packet : Packet} {dest : Buf maxPathLen}
    (hvalid : isValidPathLen along.pathLenField = true)
    (hfield : packet.pathLenField = along.pathLenField)
    (hpath : packet.path = (copyPath dest along.path along.pathLenField).2) :
    packet.pathBytes = along.pathBytes := by
  have hmax := (isValidPathLen_iff.mp hvalid).2
  have hcount : (hashCountOf along.pathLenField).toNat * (hashSizeOf along.pathLenField).toNat
      = along.getPathByteLen.toNat := (Packet.toNat_getPathByteLen_eq_mul along).symm
  have hfits : along.getPathByteLen.toNat ≤ maxPathLen := by
    rw [Packet.toNat_getPathByteLen]
    exact hmax
  have hlen : packet.getPathByteLen.toNat
      = (along.path.slice 0 along.getPathByteLen.toNat).length := by
    rw [Buf.length_slice_of_le _ (by rwa [Nat.zero_add]), Packet.toNat_getPathByteLen, hfield,
      Packet.toNat_getPathByteLen]
  rw [Packet.pathBytes, hlen, hpath, copyPath, writePath]
  simp only [hcount, if_neg (not_lt.mpr hfits)]
  exact Buf.slice_store_self _ (by
    rwa [Buf.length_slice_of_le _ (by rwa [Nat.zero_add]), Nat.zero_add])

/-- One acknowledgement goes to the end of the send queue. -/
theorem sendAckAlong_queues (delayMillis : UInt32) (hpool : w.PoolIntact ctx (id :: held))
    (hload : Packed type bytes (w.packetManager.packetBuf id))
    (hclock : w.millisOverride = some now) (hvalid : isValidPathLen along.pathLenField = true) :
    let w' := (sendAckAlong along id delayMillis ctx w).2
    w'.packetManager.sendQueue.entries
        = w.packetManager.sendQueue.entries ++ [⟨id, 0, scheduledAt ctx now delayMillis⟩] ∧
      Alongside type bytes along (w'.packetManager.packetBuf id) := by
  have hfits : along.getPathByteLen.toNat ≤ maxPathLen := by
    rw [Packet.toNat_getPathByteLen]
    exact (isValidPathLen_iff.mp hvalid).2
  obtain ⟨buf, hbuf⟩ : ∃ buf, buf = w.packetManager.packetBuf id := ⟨_, rfl⟩
  rw [← hbuf] at hload
  let copied := copyPath buf.path along.path along.pathLenField
  let packet : Packet :=
    { buf.withRouteType routeTypeDirect with path := copied.2, pathLen := copied.1.toUInt16 }
  have hfield : packet.pathLenField = along.pathLenField := UInt8.toUInt8_toUInt16 _
  have halong : Alongside type bytes along packet :=
    { hload.congr (getPayloadType_withRouteType buf (by decide)) rfl rfl with
      header := by rw [← hload.header]; rfl
      pathLenField := hfield
      pathBytes := pathBytes_of_copyPath hvalid hfield rfl }
  let w₁ := (writePacket id packet ctx w).2
  have hwritten : w₁.packetManager.packetBuf id = packet := packetBuf_writePacket id packet ctx w
  have hpool₁ : w₁.PoolIntact ctx (id :: held) :=
    ⟨hpool.conserves.write packet, hpool.poolSize, hpool.reissued⟩
  obtain ⟨hqueue, hsame⟩ := dispatcherSendPacket_queues 0 delayMillis hpool₁
    (by rw [hwritten, hfield]; exact hvalid)
    (by rw [hwritten]; exact halong.payloadLen_eq.trans_le halong.length_le)
  have hrun : sendAckAlong along id delayMillis ctx w
      = dispatcherSendPacket id 0 delayMillis ctx w₁ := by
    rw [sendAckAlong, Prog.run_bind_of (access_of hfits ctx w), Prog.run_bind]
    simp only [w₁, packet, copied, hbuf]
    rfl
  rw [hrun]
  refine ⟨?_, ?_⟩
  · rw [hqueue, dispatcherFutureMillis_run (by exact hclock)]
    rfl
  · rw [hsame, hwritten]
    exact halong

end

/-! ### A batch -/

/-- The delay of an acknowledgement after these delays were drawn for those before it. -/
def delayAfter (delayMillis : UInt32) (draws : List UInt32) : UInt32 :=
  draws.foldl (fun delayMillis draw => delayMillis + (draw + 300)) delayMillis

/-- A delay that is drawn for a packet. -/
def Drawn (packet : Packet) (ctx : Ctx) (draw : UInt32) : Prop :=
  ∃ w, draw = (getDirectRetransmitDelay packet ctx w).1

/-- What the loop over the extra copies queues. -/
structure ExtraAcks (packet : Packet) (ctx : Ctx) (now : ℕ) (delayMillis : UInt32) (extra : ℕ)
    (w w' : World) (copies : List QueueEntry) (draws : List UInt32) : Prop where
  queue_eq : w'.packetManager.sendQueue.entries = w.packetManager.sendQueue.entries ++ copies
  length_le : copies.length ≤ extra
  length_draws : draws.length = extra
  drawn : ∀ draw ∈ draws, Drawn packet ctx draw
  load : ∀ entry ∈ copies, ∃ remaining,
    Alongside payloadTypeMultipart (multiAckHead remaining :: packet.payloadBytes) packet
      (w'.packetManager.packetBuf entry.packet)
  scheduled : ∀ entry ∈ copies, ∃ k,
    entry.scheduledFor = scheduledAt ctx now (delayAfter delayMillis (draws.take k))

section

variable {ctx : Ctx} {w w' w'' : World} {held : List PacketId} {now extra : ℕ} {packet : Packet}
  {delayMillis draw : UInt32} {copies : List QueueEntry} {draws : List UInt32}

/-- The copies after the first draw. -/
theorem ExtraAcks.after (h : ExtraAcks packet ctx now (delayMillis + (draw + 300)) extra w' w''
    copies draws) (hdraw : Drawn packet ctx draw)
    (hqueue : w'.packetManager.sendQueue = w.packetManager.sendQueue) :
    ExtraAcks packet ctx now delayMillis (extra + 1) w w'' copies (draw :: draws) where
  queue_eq := by rw [h.queue_eq, hqueue]
  length_le := h.length_le.trans (Nat.le_succ _)
  length_draws := congrArg Nat.succ h.length_draws
  drawn := List.forall_mem_cons.mpr ⟨hdraw, h.drawn⟩
  load := h.load
  scheduled entry hentry := by
    obtain ⟨k, hk⟩ := h.scheduled entry hentry
    exact ⟨k + 1, hk⟩

/-- A copy was queued before them. -/
theorem ExtraAcks.cons {entry : QueueEntry} (remaining : UInt8)
    (h : ExtraAcks packet ctx now (delayMillis + (draw + 300)) extra w' w'' copies draws)
    (hdraw : Drawn packet ctx draw)
    (hqueue : w'.packetManager.sendQueue.entries = w.packetManager.sendQueue.entries ++ [entry])
    (hload : Alongside payloadTypeMultipart (multiAckHead remaining :: packet.payloadBytes) packet
      (w''.packetManager.packetBuf entry.packet))
    (htime : entry.scheduledFor = scheduledAt ctx now (delayMillis + (draw + 300))) :
    ExtraAcks packet ctx now delayMillis (extra + 1) w w'' (entry :: copies) (draw :: draws) where
  queue_eq := by rw [h.queue_eq, hqueue, List.append_assoc, List.singleton_append]
  length_le := Nat.succ_le_succ h.length_le
  length_draws := congrArg Nat.succ h.length_draws
  drawn := List.forall_mem_cons.mpr ⟨hdraw, h.drawn⟩
  load := List.forall_mem_cons.mpr ⟨⟨remaining, hload⟩, h.load⟩
  scheduled := by
    refine List.forall_mem_cons.mpr ⟨⟨1, htime⟩, fun entry hentry => ?_⟩
    obtain ⟨k, hk⟩ := h.scheduled entry hentry
    exact ⟨k + 1, hk⟩

/-- The packet path leaves the clock alone. -/
theorem millisOverride_of_uses {α : Type} (h h' : List PacketId) (m : M α)
    [hu : Uses (Steps fun _ => False) h m fun _ => h'] (ctx : Ctx) (w : World) :
    (m ctx w).2.millisOverride = w.millisOverride := by
  rw [(hu.uses ctx w []).framed.1]

theorem routeExtraAcks_queues (extra : ℕ) (delayMillis : UInt32) (hpool : w.PoolIntact ctx held)
    (hclock : w.millisOverride = some now) (hvalid : isValidPathLen packet.pathLenField = true) :
    let r := routeExtraAcks packet extra delayMillis ctx w
    ∃ copies draws, r.1 = delayAfter delayMillis draws ∧
      ExtraAcks packet ctx now delayMillis extra w r.2 copies draws := by
  induction extra generalizing delayMillis w with
  | zero =>
    exact ⟨[], [], rfl, by simp [routeExtraAcks], le_rfl, rfl, by simp, by simp, by simp⟩
  | succ extra ih =>
    have hasks := (inferInstance : Moves Asks (getDirectRetransmitDelay packet)).moves ctx w
    have hdraw : Drawn packet ctx (getDirectRetransmitDelay packet ctx w).1 := ⟨w, rfl⟩
    rw [routeExtraAcks, Prog.run_bind]
    generalize (getDirectRetransmitDelay packet ctx w).1 = draw at hdraw
    generalize (getDirectRetransmitDelay packet ctx w).2 = w₁ at hasks
    have hpool₁ : w₁.PoolIntact ctx held := by
      rw [hasks.1]
      exact ⟨hpool.conserves, hpool.poolSize, hpool.reissued⟩
    have hclock₁ : w₁.millisOverride = some now := by rw [hasks.1]; exact hclock
    have hqueue₁ : w₁.packetManager.sendQueue = w.packetManager.sendQueue := by rw [hasks.1]
    let create := meshCreateMultiAckData packet.payloadBytes (UInt8.ofNat (extra + 1))
    have hmute := (inferInstance : Moves Mute create).moves ctx w₁
    have hunsent := (inferInstance : Moves Unsent create).moves ctx w₁
    have hclock₂ : (create ctx w₁).2.millisOverride = some now := hmute.2.2.1.trans hclock₁
    rw [Prog.run_bind]
    cases hid : (create ctx w₁).1 with
    | none =>
      have hpool₂ : (create ctx w₁).2.PoolIntact ctx held := by
        have hcarries := ((inferInstance : Uses Carries [] create Option.toList).uses ctx w₁ held).2
          hpool₁
        rwa [hid] at hcarries
      obtain ⟨copies, draws, hdelay, hacks⟩ := ih (delayMillis + (draw + 300)) hpool₂ hclock₂
      rw [Option.elim_none]
      exact ⟨copies, draw :: draws, hdelay, hacks.after hdraw (hunsent.trans hqueue₁)⟩
    | some id =>
      have hsome : (create ctx w₁).1.isSome := by rw [hid]; rfl
      obtain ⟨id', hid', hmade⟩ := Made.of_isSome
        (P := Packed payloadTypeMultipart
          (multiAckHead (UInt8.ofNat (extra + 1)) :: packet.payloadBytes))
        hpool₁ hsome
      obtain rfl := Option.some.inj (hid.symm.trans hid')
      rw [Option.elim_some, Prog.run_bind]
      change Made _ ctx held w₁ id (create ctx w₁).2 at hmade
      generalize (create ctx w₁).2 = w₂ at hmade hclock₂ hunsent
      obtain ⟨hqueue₃, hload₃⟩ := sendAckAlong_queues (delayMillis + (draw + 300)) hmade.pool
        hmade.packet hclock₂ hvalid
      let send := sendAckAlong packet id (delayMillis + (draw + 300))
      have hpool₃ := ((inferInstance : Uses Carries [id] send fun _ => []).uses ctx w₂ held).2
        hmade.pool
      have hclock₃ := (millisOverride_of_uses [id] [] send ctx w₂).trans hclock₂
      generalize (sendAckAlong packet id (delayMillis + (draw + 300)) ctx w₂).2 = w₃ at *
      obtain ⟨copies, draws, hdelay, hacks⟩ := ih (delayMillis + (draw + 300)) hpool₃ hclock₃
      have hsteps := (inferInstance : Uses (Steps fun _ => False) [] (routeExtraAcks packet extra
        (delayMillis + (draw + 300))) fun _ => []).uses ctx w₃ []
      let entry : QueueEntry := ⟨id, 0, scheduledAt ctx now (delayMillis + (draw + 300))⟩
      have hbuf := (hsteps.keepsQueue hpool₃.conserves).2 entry (by rw [hqueue₃]; simp [entry])
      refine ⟨entry :: copies, draw :: draws, hdelay,
        hacks.cons (UInt8.ofNat (extra + 1)) hdraw ?_ ?_ rfl⟩
      · rw [hqueue₃, hunsent, hqueue₁]
      · rw [hbuf]
        exact hload₃

/-! ### How long they wait -/

theorem toCInt_modEq (x : UInt32) : toCInt x ≡ x.toNat [ZMOD 2 ^ 32] := by
  have hint : toCInt x = Int.bmod x.toNat (2 ^ 32) := x.toBitVec.toInt_eq_toNat_bmod
  rw [hint]
  exact (Int.modEq_iff_dvd.mpr Int.dvd_bmod_sub_self).symm

theorem scheduledAt_modEq (ctx : Ctx) (now : ℕ) (delayMillis : UInt32) :
    (scheduledAt ctx now delayMillis : ℤ) ≡ now + delayMillis.toNat [ZMOD 2 ^ 32] := by
  have hbits : (2 : ℤ) ^ 32 ∣ 2 ^ ctx.ulongBits := by
    rcases ctx.ulongBits_eq with h | h
    · rw [h]
    · rw [h]
      decide
  have hnonneg : 0 ≤ (now + toCInt delayMillis) % 2 ^ ctx.ulongBits :=
    Int.emod_nonneg _ (by positivity)
  calc (scheduledAt ctx now delayMillis : ℤ)
      = (now + toCInt delayMillis) % 2 ^ ctx.ulongBits % 2 ^ 32 := by
        rw [scheduledAt, Int.natCast_mod, Int.toNat_of_nonneg hnonneg]
        rfl
    _ ≡ (now + toCInt delayMillis) % 2 ^ ctx.ulongBits [ZMOD 2 ^ 32] := Int.mod_modEq _ _
    _ ≡ now + toCInt delayMillis [ZMOD 2 ^ 32] := (Int.mod_modEq _ _).of_dvd hbits
    _ ≡ now + delayMillis.toNat [ZMOD 2 ^ 32] := (toCInt_modEq _).add_left _

/-- What a relay adds to the delay for the copies after these draws. -/
def delaySum (draws : List UInt32) : ℕ := (draws.map fun draw => draw.toNat + 300).sum

theorem delayAfter_modEq (delayMillis : UInt32) (draws : List UInt32) :
    ((delayAfter delayMillis draws).toNat : ℤ) ≡ delayMillis.toNat + delaySum draws
      [ZMOD 2 ^ 32] := by
  induction draws generalizing delayMillis with
  | nil => exact congrArg (· % (2 : ℤ) ^ 32) (add_zero _).symm
  | cons draw draws ih =>
    have hstep : ((delayMillis + (draw + 300)).toNat : ℤ)
        ≡ delayMillis.toNat + (draw.toNat + 300) [ZMOD 2 ^ 32] := by
      rw [UInt32.toNat_add, UInt32.toNat_add, Nat.add_mod_mod, Int.natCast_mod]
      exact Int.mod_modEq _ _
    calc ((delayAfter delayMillis (draw :: draws)).toNat : ℤ)
        ≡ (delayMillis + (draw + 300)).toNat + delaySum draws [ZMOD 2 ^ 32] := ih _
      _ ≡ delayMillis.toNat + (draw.toNat + 300) + delaySum draws [ZMOD 2 ^ 32] :=
        hstep.add_right _
      _ = delayMillis.toNat + delaySum (draw :: draws) := by
        rw [delaySum, delaySum, List.map_cons, List.sum_cons]
        push_cast
        ring

/-- The copies are due no later than the acknowledgement that comes last, while the delays between
them are no half circle of the clock. -/
theorem ahead_scheduledAt_nonneg (ctx : Ctx) (now : ℕ) (delayMillis : UInt32)
    {draws : List UInt32} (k : ℕ) (hsum : delaySum draws < 2 ^ 31) :
    0 ≤ ahead 32 (scheduledAt ctx now (delayAfter delayMillis (draws.take k)))
      (scheduledAt ctx now (delayAfter delayMillis draws)) := by
  have hsplit : delaySum draws = delaySum (draws.take k) + delaySum (draws.drop k) := by
    rw [delaySum, delaySum, delaySum, ← List.sum_append, ← List.map_append, List.take_append_drop]
  have hlater : delayAfter delayMillis draws
      = delayAfter (delayAfter delayMillis (draws.take k)) (draws.drop k) := by
    rw [delayAfter, delayAfter, delayAfter, ← List.foldl_append, List.take_append_drop]
  generalize delayAfter delayMillis (draws.take k) = first at hlater
  have hgap : (scheduledAt ctx now (delayAfter delayMillis draws) : ℤ)
      ≡ scheduledAt ctx now first + delaySum (draws.drop k) [ZMOD 2 ^ 32] := by
    rw [hlater]
    calc (scheduledAt ctx now (delayAfter first (draws.drop k)) : ℤ)
        ≡ now + (delayAfter first (draws.drop k)).toNat [ZMOD 2 ^ 32] := scheduledAt_modEq ..
      _ ≡ now + (first.toNat + delaySum (draws.drop k)) [ZMOD 2 ^ 32] :=
        (delayAfter_modEq ..).add_left _
      _ = now + first.toNat + delaySum (draws.drop k) := (add_assoc ..).symm
      _ ≡ scheduledAt ctx now first + delaySum (draws.drop k) [ZMOD 2 ^ 32] :=
        (scheduledAt_modEq ..).symm.add_right _
  have hahead : ahead 32 (scheduledAt ctx now first)
      (scheduledAt ctx now (delayAfter delayMillis draws)) = delaySum (draws.drop k) := by
    rw [ahead_eq_iff (by decide)]
    refine ⟨by omega, by omega, ?_⟩
    have hdvd := Int.modEq_iff_dvd.mp hgap.symm
    rwa [← sub_sub] at hdvd
  rw [hahead]
  exact Int.natCast_nonneg _

/-! ### A batch -/

/-- What a relay queues for one acknowledgement: some multipart copies and then a plain one, which
all go where `packet` goes. -/
structure AckBatch (packet : Packet) (ctx : Ctx) (w w' : World) (copies : List QueueEntry)
    (plain : Option QueueEntry) (draws : List UInt32) : Prop where
  queue_eq : w'.packetManager.sendQueue.entries
    = w.packetManager.sendQueue.entries ++ (copies ++ plain.toList)
  length_le : copies.length ≤ draws.length
  length_draws : ∃ n, w.tick ≤ n ∧ n < w'.tick ∧
    draws.length = (ctx.hooks n).extraAckTransmitCount.toNat
  drawn : ∀ draw ∈ draws, Drawn packet ctx draw
  load_copy : ∀ entry ∈ copies, ∃ remaining,
    Alongside payloadTypeMultipart (multiAckHead remaining :: packet.payloadBytes) packet
      (w'.packetManager.packetBuf entry.packet)
  load_plain : ∀ entry ∈ plain, Alongside payloadTypeAck packet.payloadBytes packet
    (w'.packetManager.packetBuf entry.packet)
  ordered : delaySum draws < 2 ^ 31 → ∀ copy ∈ copies, ∀ entry ∈ plain,
    0 ≤ ahead 32 copy.scheduledFor entry.scheduledFor
  last : copies.length < w.packetManager.getFreeCount → plain.isSome

/-- What a packet takes to the send queue it takes from the free buffers. -/
theorem getFreeCount_of_steps {hands : FloodKey → Prop}
    (hs : Steps hands ctx ([], w) ([], w')) (hpool : w.PoolIntact ctx held)
    (hpool' : w'.PoolIntact ctx held)
    (hqueue : w'.packetManager.sendQueue.entries = w.packetManager.sendQueue.entries ++ copies) :
    w'.packetManager.getFreeCount + copies.length = w.packetManager.getFreeCount := by
  have hlen := hpool.conserves.length_eq
  have hlen' := hpool'.conserves.length_eq
  rw [hs.framed.outbound, hs.framed.2.2, hpool'.poolSize, hqueue, List.length_append] at hlen'
  rw [hpool.poolSize] at hlen
  rw [PacketQueueManager.getFreeCount, PacketQueueManager.getFreeCount,
    if_neg hpool.conserves.ready, if_neg hpool'.conserves.ready, PacketQueue.count,
    PacketQueue.count]
  omega

theorem meshCreateAckData_isSome {ack : List UInt8} (hack : ack.length ≤ packetPayloadMaxLen)
    (hpool : w.PoolIntact ctx held) (hfree : 0 < w.packetManager.getFreeCount) :
    (meshCreateAckData ack ctx w).1.isSome := by
  obtain ⟨id, hid⟩ := Option.isSome_iff_exists.mp
    (dispatcherObtainNewPacket_isSome hpool.conserves hfree)
  rw [meshCreateAckData, Prog.run_bind, hid, Option.elim_some, if_neg (not_lt.mpr hack)]
  rfl

/-- The acknowledgement that comes last. -/
def sendPlainAck (packet : Packet) (delayMillis : UInt32) : M Unit := do
  let a2 ← meshCreateAckData packet.payloadBytes
  a2.elim (pure ()) fun id => sendAckAlong packet id delayMillis

instance (packet : Packet) (delayMillis : UInt32) :
    Uses (Steps fun _ => False) [] (sendPlainAck packet delayMillis) fun _ => [] := by
  unfold sendPlainAck; infer_instance

theorem sendPlainAck_queues (delayMillis : UInt32) (hpool : w.PoolIntact ctx held)
    (hclock : w.millisOverride = some now) (hvalid : isValidPathLen packet.pathLenField = true)
    (hack : packet.payloadBytes.length ≤ packetPayloadMaxLen) :
    let w' := (sendPlainAck packet delayMillis ctx w).2
    ∃ plain : Option QueueEntry,
      w'.packetManager.sendQueue.entries
        = w.packetManager.sendQueue.entries ++ plain.toList ∧
      (∀ entry ∈ plain, entry.scheduledFor = scheduledAt ctx now delayMillis ∧
        Alongside payloadTypeAck packet.payloadBytes packet
          (w'.packetManager.packetBuf entry.packet)) ∧
      (0 < w.packetManager.getFreeCount → plain.isSome) := by
  let create := meshCreateAckData packet.payloadBytes
  have hunsent := (inferInstance : Moves Unsent create).moves ctx w
  have hclock₁ := ((inferInstance : Moves Mute create).moves ctx w).2.2.1.trans hclock
  rw [sendPlainAck, Prog.run_bind]
  cases hid : (create ctx w).1 with
  | none =>
    rw [Option.elim_none]
    refine ⟨none, ?_, nofun, fun hfree => ?_⟩
    · rw [Option.toList_none, List.append_nil]
      exact congrArg PacketQueue.entries hunsent
    · have hsome := meshCreateAckData_isSome hack hpool hfree
      rw [hid] at hsome
      exact absurd hsome (by decide)
  | some id =>
    have hsome : (create ctx w).1.isSome := by rw [hid]; rfl
    obtain ⟨id', hid', hmade⟩ := Made.of_isSome
      (P := Packed payloadTypeAck packet.payloadBytes) hpool hsome
    obtain rfl := Option.some.inj (hid.symm.trans hid')
    obtain ⟨hqueue, hload⟩ := sendAckAlong_queues delayMillis hmade.pool hmade.packet hclock₁ hvalid
    rw [Option.elim_some]
    refine ⟨some ⟨id, 0, scheduledAt ctx now delayMillis⟩, ?_, ?_, fun _ => rfl⟩
    · rw [hqueue, hunsent, Option.toList_some]
    · intro entry hentry
      obtain rfl := Option.mem_some_iff.mp hentry
      exact ⟨rfl, hload⟩

theorem meshRouteDirectRecvAcks_queues (delayMillis : UInt32) (hpool : w.PoolIntact ctx held)
    (hclock : w.millisOverride = some now) (hvalid : isValidPathLen packet.pathLenField = true)
    (hmark : packet.isMarkedDoNotRetransmit = false)
    (hack : packet.payloadBytes.length ≤ packetPayloadMaxLen) :
    ∃ copies plain draws, AckBatch packet ctx w
      (meshRouteDirectRecvAcks packet delayMillis ctx w).2 copies plain draws := by
  let asked : World := { w with tick := w.tick + 1 }
  let extra := (ctx.hooks w.tick).extraAckTransmitCount.toNat
  let loop := routeExtraAcks packet extra delayMillis
  have hasked : asked.PoolIntact ctx held := ⟨hpool.conserves, hpool.poolSize, hpool.reissued⟩
  obtain ⟨copies, draws, hdelay, hacks⟩ :=
    routeExtraAcks_queues extra delayMillis hasked hclock hvalid
  have hsteps := (inferInstance : Uses (Steps fun _ => False) [] loop fun _ => []).uses ctx asked []
  have hpool₁ := ((inferInstance : Uses Carries [] loop fun _ => []).uses ctx asked held).2 hasked
  have hclock₁ := (millisOverride_of_uses [] [] loop ctx asked).trans hclock
  have hrun : meshRouteDirectRecvAcks packet delayMillis ctx w
      = sendPlainAck packet (delayAfter delayMillis draws) ctx (loop ctx asked).2 := by
    rw [← hdelay, meshRouteDirectRecvAcks, hmark]
    rfl
  have hplainSilent : Moves Silent (sendPlainAck packet (delayAfter delayMillis draws)) := by
    unfold sendPlainAck
    infer_instance
  have hsilent : Silent ctx asked (sendPlainAck packet (delayAfter delayMillis draws) ctx
      (loop ctx asked).2).2 :=
    Composes.trans ctx _ _ _ (Moves.moves (R := Silent) (m := loop) ctx asked) (Moves.moves ctx _)
  rw [hrun]
  change ExtraAcks packet ctx now delayMillis extra asked (loop ctx asked).2 copies draws at hacks
  generalize (loop ctx asked).2 = w₁ at *
  have hfree := getFreeCount_of_steps hsteps hasked hpool₁ hacks.queue_eq
  have hkept := (((inferInstance : Uses (Steps fun _ => False) [] (sendPlainAck packet
    (delayAfter delayMillis draws)) fun _ => []).uses ctx w₁ []).keepsQueue hpool₁.conserves).2
  obtain ⟨plain, hqueue, hplain, hlast⟩ := sendPlainAck_queues (delayAfter delayMillis draws) hpool₁
    hclock₁ hvalid hack
  refine ⟨copies, plain, draws, ⟨?_, hacks.length_le.trans_eq hacks.length_draws.symm,
    ⟨_, le_rfl, hsilent.tick_le, hacks.length_draws⟩, hacks.drawn, fun entry hentry => ?_,
    fun entry hentry => (hplain entry hentry).2, ?_, fun hroom => ?_⟩⟩
  · rw [hqueue, hacks.queue_eq, List.append_assoc]
  · rw [hkept entry (by rw [hacks.queue_eq]; exact List.mem_append_right _ hentry)]
    exact hacks.load entry hentry
  · intro hsum copy hcopy entry hentry
    obtain ⟨k, hk⟩ := hacks.scheduled copy hcopy
    rw [hk, (hplain entry hentry).1]
    exact ahead_scheduledAt_nonneg ctx now delayMillis k hsum
  · change copies.length < asked.packetManager.getFreeCount at hroom
    exact hlast (by omega)

end

/-! ### An acknowledgement on its way -/

/-- A direct packet with this acknowledgement, in one layout or the other, as it is when the parser
has let it through. -/
structure CarriesAck (ack : List UInt8) (packet : Packet) : Prop where
  direct : packet.isRouteDirect = true
  version : verOf packet.header = 0
  validPathLen : isValidPathLen packet.pathLenField = true
  long : 4 ≤ ack.length
  layout : Load payloadTypeAck ack packet ∨
    ∃ first, first &&& 0x0F = payloadTypeAck ∧ Load payloadTypeMultipart (first :: ack) packet

/-- The acknowledgement in a packet, with the packet's header and path. -/
def ackInside (packet : Packet) : Packet :=
  if packet.getPayloadType = payloadTypeMultipart then multipartInner packet else packet

/-- `onRecvDirectHop` tells the host of a plain acknowledgement, wherever it goes. -/
def tellAck (packet : Packet) : M Unit :=
  if packet.getPayloadType = payloadTypeAck ∧ packet.payloadLen ≥ 4 then do
    let ackCrc ← payloadRead packet 0 4
    onAckRecv packet (wordAt ackCrc)
  else pure ()

/-- Whether a relay takes an acknowledgement on: the host allows it, and the relay has not seen
the acknowledgement. -/
def forwardsAck (packet : Packet) : M Bool := do
  tellAck packet
  let allow ← allowPacketForward packet
  if !allow then pure false
  else do
    let seen ← tablesHasSeen (ackInside packet)
    pure !seen

/-- Only the request correlation, the position in the host's answers, the events and the record of
accesses change, and no answer is taken back. -/
def Tells (_ : Ctx) (w w' : World) : Prop :=
  w' = { w with
    correlation := w'.correlation, tick := w'.tick, events := w'.events, outside := w'.outside } ∧
    w.tick ≤ w'.tick

instance : Composes Tells where
  refl _ _ := ⟨rfl, le_rfl⟩
  trans _ w w' w'' h h' := by
    refine ⟨?_, h.2.trans h'.2⟩
    rw [h'.1, h.1]

instance (priority := low) Moves.tellsOfAsks {α : Type} (m : M α) [hm : Moves Asks m] :
    Moves Tells m where
  moves ctx w := by
    obtain ⟨hasks, htick⟩ := hm.moves ctx w
    exact ⟨by rw [hasks], htick⟩

instance (e : Event) : Moves Tells (emit e) := ⟨fun _ _ => ⟨rfl, le_rfl⟩⟩

instance (inside : Prop) [Decidable inside] : Moves Tells (access inside) :=
  ⟨fun _ _ => ⟨rfl, le_rfl⟩⟩

instance (f : Correlation → Correlation) : Moves Tells (modifyCorrelation f) :=
  ⟨fun _ _ => ⟨rfl, le_rfl⟩⟩

instance (ackCrc : UInt32) : Moves Tells (expectedAckHandle ackCrc) := by
  unfold expectedAckHandle; infer_instance

instance (fallback : Event) (handler : M Unit) [Moves Tells handler] :
    Moves Tells (whenInitialized fallback handler) := by
  unfold whenInitialized; infer_instance

instance (packet : Packet) (ackCrc : UInt32) : Moves Tells (onAckRecv packet ackCrc) := by
  unfold onAckRecv; infer_instance

instance (packet : Packet) (i n : ℕ) : Moves Tells (payloadRead packet i n) := by
  unfold payloadRead; infer_instance

instance (packet : Packet) : Moves Tells (tellAck packet) := by
  unfold tellAck; infer_instance

instance {hands : FloodKey → Prop} (packet : Packet) :
    Uses (Steps hands) [] (forwardsAck packet) fun _ => [] := by
  unfold forwardsAck tellAck; infer_instance

instance (packet : Packet) : Moves KeepsManager (forwardsAck packet) := by
  unfold forwardsAck tellAck; infer_instance

theorem tick_le_forwardsAck (packet : Packet) (ctx : Ctx) (w : World) :
    w.tick ≤ (forwardsAck packet ctx w).2.tick := by
  have htold : Tells ctx w (tellAck packet ctx w).2 := Moves.moves ctx w
  have hrest : Moves Mute (do
      let allow ← allowPacketForward packet
      if !allow then pure false
      else do
        let seen ← tablesHasSeen (ackInside packet)
        pure !seen) := inferInstance
  rw [forwardsAck, Prog.run_bind]
  exact htold.2.trans (hrest.moves ctx (tellAck packet ctx w).2).2.2.2.2.2

section

variable {ctx : Ctx} {w w' : World} {packet got : Packet} {ack : List UInt8}

/-- What is inside an acknowledgement packet. -/
theorem CarriesAck.inside (h : CarriesAck ack packet) :
    (ackInside packet).payloadBytes = ack ∧ (ackInside packet).payloadLen = ack.length ∧
      (ackInside packet).header = packet.header ∧
      (ackInside packet).pathLenField = packet.pathLenField ∧
      (ackInside packet).pathBytes = packet.pathBytes := by
  rcases h.layout with hplain | ⟨first, -, hmulti⟩
  · rw [ackInside, hplain.type_eq, if_neg (by decide)]
    exact ⟨hplain.payloadBytes_eq, hplain.payloadLen_eq, rfl, rfl, rfl⟩
  · have hfield : (multipartInner packet).pathLenField = packet.pathLenField :=
      UInt8.toUInt8_toUInt16 _
    rw [ackInside, hmulti.type_eq, if_pos rfl]
    refine ⟨?_, ?_, rfl, hfield, pathBytes_of_copyPath h.validPathLen hfield rfl⟩
    · rw [payloadBytes_multipartInner (hmulti.payloadLen_eq.trans_le hmulti.length_le),
        hmulti.payloadBytes_eq, List.drop_one, List.tail_cons]
    · show packet.payloadLen - 1 = _
      rw [hmulti.payloadLen_eq, List.length_cons, Nat.add_sub_cancel]

theorem CarriesAck.length_le (h : CarriesAck ack packet) : ack.length ≤ packetPayloadMaxLen := by
  rcases h.layout with hplain | ⟨first, -, hmulti⟩
  · exact hplain.length_le
  · exact (Nat.le_succ _).trans hmulti.length_le

theorem CarriesAck.type_cases (h : CarriesAck ack packet) :
    packet.getPayloadType = payloadTypeAck ∨ packet.getPayloadType = payloadTypeMultipart := by
  rcases h.layout with hplain | ⟨first, -, hmulti⟩
  · exact .inl hplain.type_eq
  · exact .inr hmulti.type_eq

theorem CarriesAck.ne_trace (h : CarriesAck ack packet) :
    packet.getPayloadType ≠ payloadTypeTrace := by
  rcases h.type_cases with htype | htype <;> (rw [htype]; decide)

theorem CarriesAck.ne_control (h : CarriesAck ack packet) :
    packet.getPayloadType ≠ payloadTypeControl := by
  rcases h.type_cases with htype | htype <;> (rw [htype]; decide)

/-- What a relay does with an acknowledgement once the host has allowed it. -/
theorem onRecvDirectHop_ack (h : CarriesAck ack got) (hcount : got.getPathHashCount ≠ 0)
    (hmatch : w.selfId.identity.slice 0 got.getPathHashSize.toNat
      = got.path.slice 0 got.getPathHashSize.toNat) :
    onRecvDirectHop got ctx w = (do
      tellAck got
      let allow ← allowPacketForward got
      if !allow then pure (actionRelease, got)
      else if got.getPayloadType = payloadTypeMultipart then do
        meshForwardMultipartDirect got
        pure (actionRelease, got)
      else do
        let seen ← tablesHasSeen got
        if seen then pure (actionRelease, got)
        else do
          let packet ← meshRemoveSelfFromPath got
          meshRouteDirectRecvAcks packet 0
          pure (actionRelease, packet) : M (Action × Packet)) ctx w := by
  have htold : (tellAck got ctx w).2.selfId = w.selfId := by
    rw [((inferInstance : Moves Tells (tellAck got)).moves ctx w).1]
  have hpos : got.getPathHashCount.toNat ≠ 0 := fun h => hcount (UInt8.toNat_inj.mp h)
  have hread : 0 + got.getPathHashSize.toNat ≤ got.getPathByteLen.toNat := by
    rw [Packet.toNat_getPathByteLen_eq_mul, Nat.zero_add]
    exact Nat.le_mul_of_pos_left _ (Nat.pos_of_ne_zero hpos)
  have hfront := isHashMatch_front h.validPathLen (htold ▸ hmatch)
  change (tellAck got >>= fun _ => _) ctx w = _
  rw [Prog.run_bind, Prog.run_bind, Prog.run_gets, Prog.run_bind_of (pathRead_run hread ctx _),
    hfront]
  rcases h.type_cases with htype | htype
  · rw [htype]
    rfl
  · rw [htype]
    rfl

theorem accessInner_run (hvalid : isValidPathLen got.pathLenField = true)
    (hlen : 0 < got.payloadLen) (ctx : Ctx) (w : World) : accessInner got ctx w = ((), w) := by
  have hread : got.getPathByteLen.toNat ≤ maxPathLen := by
    rw [Packet.toNat_getPathByteLen]
    exact (isValidPathLen_iff.mp hvalid).2
  rw [accessInner, Prog.run_bind_of (access_of hread ctx w), access_of (by omega)]

theorem multipartIsAck_of {first : UInt8} (hfirst : first &&& 0x0F = payloadTypeAck)
    (hlen : 5 ≤ got.payloadLen) : multipartIsAck got first = true := by
  rw [multipartIsAck, hfirst, beq_self_eq_true, Bool.true_and, decide_eq_true_iff]
  exact hlen

/-- A multipart acknowledgement is unpacked before the duplicate check. -/
theorem meshForwardMultipartDirect_run (h : CarriesAck ack got) {first : UInt8}
    (hfirst : first &&& 0x0F = payloadTypeAck)
    (hmulti : Load payloadTypeMultipart (first :: ack) got)
    (hcount : (multipartInner got).getPathHashCount ≠ 0)
    (hvalid : isValidPathLen (multipartInner got).pathLenField = true) :
    let seen := tablesHasSeen (multipartInner got) ctx w
    ∃ packet delayMillis, DropsHop (multipartInner got) packet ∧
      (meshForwardMultipartDirect got ctx w).2
        = if seen.1 then seen.2 else (meshRouteDirectRecvAcks packet delayMillis ctx seen.2).2 := by
  have hlen : got.payloadLen = ack.length + 1 := hmulti.payloadLen_eq
  have hlong := h.long
  have hbyte : got.payload.get 0 = first := hmulti.get_payload (Nat.succ_pos _)
  have hfive : 5 ≤ got.payloadLen := by omega
  have hisAck := multipartIsAck_of hfirst hfive
  obtain ⟨packet, hremove, hdrops⟩ :=
    meshRemoveSelfFromPath_run hcount hvalid ctx (tablesHasSeen (multipartInner got) ctx w).2
  refine ⟨packet, ((first >>> 4).toUInt32 + 1) * 300, hdrops, ?_⟩
  rw [meshForwardMultipartDirect, if_neg (by omega),
    Prog.run_bind_of (payloadByte_run (by omega) ctx w), hbyte, if_pos hisAck,
    Prog.run_bind_of (accessInner_run h.validPathLen (by omega) ctx w), Prog.run_bind]
  cases (tablesHasSeen (multipartInner got) ctx w).1 with
  | true => rfl
  | false =>
    change ((meshRemoveSelfFromPath (multipartInner got) >>= _) ctx _).2 = _
    rw [Prog.run_bind_of hremove]
    rfl

/-- The checks of a relay are those that `onRecvDirectHop` makes, and nothing is queued before. -/
theorem meshOnRecvPacket_ack (h : CarriesAck ack got) (hcount : got.getPathHashCount ≠ 0)
    (hmatch : w.selfId.identity.slice 0 got.getPathHashSize.toNat
      = got.path.slice 0 got.getPathHashSize.toNat) :
    let checked := forwardsAck got ctx w
    let r := meshOnRecvPacket got ctx w
    ∃ packet delayMillis, DropsHop (ackInside got) packet ∧ r.1.1 = actionRelease ∧
      r.2 = if checked.1 then (meshRouteDirectRecvAcks packet delayMillis ctx checked.2).2
        else checked.2 := by
  obtain ⟨-, -, -, hfield, -⟩ := h.inside
  have hcountInside : (ackInside got).getPathHashCount ≠ 0 := by
    rw [Packet.getPathHashCount, hfield]
    exact hcount
  have hremove := meshRemoveSelfFromPath_run hcountInside (hfield ▸ h.validPathLen) ctx
  dsimp only
  rw [meshOnRecvPacket_hop h.direct hcount h.ne_trace fun htype => absurd htype h.ne_control,
    onRecvDirectHop_ack h hcount hmatch, forwardsAck]
  simp only [Prog.run_bind, Prog.run_ite, Prog.run_pure]
  generalize (tellAck got ctx w).2 = told
  generalize (allowPacketForward got ctx told).2 = allowed
  cases (allowPacketForward got ctx told).1 with
  | false =>
    obtain ⟨packet, -, hdrops⟩ := hremove allowed
    exact ⟨packet, 0, hdrops, rfl, rfl⟩
  | true =>
    simp only [Bool.not_true, Bool.false_eq_true, if_false]
    rcases h.layout with hplain | ⟨first, hfirst, hmulti⟩
    · have hinside : ackInside got = got := by rw [ackInside, hplain.type_eq]; rfl
      rw [hinside] at hremove ⊢
      obtain ⟨packet, hrun, hdrops⟩ := hremove (tablesHasSeen got ctx allowed).2
      refine ⟨packet, 0, hdrops, ?_⟩
      rw [hplain.type_eq, if_neg (by decide), hrun]
      cases (tablesHasSeen got ctx allowed).1 <;> exact ⟨rfl, rfl⟩
    · have hinside : ackInside got = multipartInner got := by rw [ackInside, hmulti.type_eq]; rfl
      rw [hinside] at hfield hcountInside ⊢
      obtain ⟨packet, delayMillis, hdrops, htakes⟩ := @meshForwardMultipartDirect_run ctx allowed
        got ack h first hfirst hmulti hcountInside (hfield ▸ h.validPathLen)
      refine ⟨packet, delayMillis, hdrops, ?_⟩
      rw [hmulti.type_eq, if_pos rfl, htakes]
      cases (tablesHasSeen (multipartInner got) ctx allowed).1 <;> exact ⟨rfl, rfl⟩

/-- A packet that takes an acknowledgement on: the first hash of its path is gone. -/
structure Onward (ack : List UInt8) (got packet : Packet) : Prop extends CarriesAck ack packet where
  hashSize : packet.getPathHashSize = got.getPathHashSize
  hashCount : packet.getPathHashCount.toNat + 1 = got.getPathHashCount.toNat
  pathBytes : packet.pathBytes = got.pathBytes.drop got.getPathHashSize.toNat

theorem multiAckHead_and (remaining : UInt8) :
    multiAckHead remaining &&& 0x0F = payloadTypeAck := by
  have hdistrib : ∀ a b c : UInt8, (a ||| b) &&& c = (a &&& c) ||| (b &&& c) := fun _ _ _ =>
    UInt8.toBitVec_inj.mp BitVec.and_or_distrib_right
  have hshift : (remaining <<< 4) &&& 0x0F = 0 := by
    rw [← UInt8.toNat_inj, UInt8.toNat_and, UInt8.toNat_shiftLeft]
    show (remaining.toNat <<< 4) % 2 ^ 8 &&& (2 ^ 4 - 1) = 0
    rw [Nat.and_two_pow_sub_one_eq_mod, Nat.shiftLeft_eq]
    omega
  rw [multiAckHead, hdistrib, hshift]
  rfl

/-- What goes along with the rest of the path goes on. -/
theorem Alongside.onward {type : UInt8} {bytes : List UInt8} {along packet : Packet}
    (h : Alongside type bytes along packet) (hdrops : DropsHop (ackInside got) along)
    (hcarries : CarriesAck ack got) (htype : type = payloadTypeAck ∨ type = payloadTypeMultipart)
    (hlayout : Load payloadTypeAck ack packet ∨
      ∃ first, first &&& 0x0F = payloadTypeAck ∧ Load payloadTypeMultipart (first :: ack) packet) :
    Onward ack got packet := by
  obtain ⟨-, -, -, hfield, hpath⟩ := hcarries.inside
  have hsize : (ackInside got).getPathHashSize = got.getPathHashSize := congrArg hashSizeOf hfield
  have hcount : (ackInside got).getPathHashCount = got.getPathHashCount :=
    congrArg hashCountOf hfield
  have hroute : packet.getRouteType = routeTypeDirect := by
    rcases htype with rfl | rfl <;> (rw [Packet.getRouteType, h.header]; decide)
  have hversion : verOf packet.header = 0 := by
    rcases htype with rfl | rfl <;> (rw [h.header]; decide)
  refine ⟨⟨isRouteDirect_of_getRouteType hroute, hversion, ?_, hcarries.long, hlayout⟩, ?_, ?_, ?_⟩
  · rw [h.pathLenField]
    exact hdrops.validPathLen
  · rw [← hsize, ← hdrops.hashSize]
    exact congrArg hashSizeOf h.pathLenField
  · rw [← hcount, ← hdrops.hashCount]
    exact congrArg (fun field => (hashCountOf field).toNat + 1) h.pathLenField
  · rw [h.pathBytes, hdrops.pathBytes, hsize, hpath]

/-- What a relay queues for an acknowledgement: multipart copies and then a plain one, with the same
code and what is left of the path, the copies due no later than the plain one, which is missing only
when no buffer is left for it. The copies wait for the delays that the host draws. -/
structure AckTakenOn (ack : List UInt8) (got : Packet) (ctx : Ctx) (w w' : World)
    (copies : List QueueEntry) (plain : Option QueueEntry) (draws : List UInt32) : Prop where
  queue_eq : w'.packetManager.sendQueue.entries
    = w.packetManager.sendQueue.entries ++ (copies ++ plain.toList)
  length_le : copies.length ≤ draws.length
  length_draws : ∃ n, w.tick ≤ n ∧ n < w'.tick ∧
    draws.length = (ctx.hooks n).extraAckTransmitCount.toNat
  drawn : ∀ draw ∈ draws, ∃ packet, Drawn packet ctx draw
  onward_copy : ∀ entry ∈ copies, Onward ack got (w'.packetManager.packetBuf entry.packet) ∧
    (w'.packetManager.packetBuf entry.packet).getPayloadType = payloadTypeMultipart
  onward_plain : ∀ entry ∈ plain, Onward ack got (w'.packetManager.packetBuf entry.packet) ∧
    (w'.packetManager.packetBuf entry.packet).getPayloadType = payloadTypeAck
  ordered : delaySum draws < 2 ^ 31 → ∀ copy ∈ copies, ∀ entry ∈ plain,
    0 ≤ ahead 32 copy.scheduledFor entry.scheduledFor
  last : copies.length < w.packetManager.getFreeCount → plain.isSome

theorem CarriesAck.isMarkedDoNotRetransmit {inner : Packet} (h : CarriesAck ack packet)
    (hheader : inner.header = packet.header) : inner.isMarkedDoNotRetransmit = false := by
  rw [Packet.isMarkedDoNotRetransmit, hheader, beq_eq_false_iff_ne]
  intro hmark
  rcases h.type_cases with htype | htype <;>
    (rw [Packet.getPayloadType, hmark] at htype; exact absurd htype (by decide))

/-- A relay whose hash is the first of the path queues a batch when it takes the acknowledgement on,
and otherwise nothing; the packet that it heard is released. -/
theorem meshOnRecvPacket_takesOn {held : List PacketId} {now : ℕ} (h : CarriesAck ack got)
    (hcount : got.getPathHashCount ≠ 0)
    (hmatch : w.selfId.identity.slice 0 got.getPathHashSize.toNat
      = got.path.slice 0 got.getPathHashSize.toNat)
    (hpool : w.PoolIntact ctx held) (hclock : w.millisOverride = some now) :
    let r := meshOnRecvPacket got ctx w
    r.1.1 = actionRelease ∧ ((forwardsAck got ctx w).1 = false → Unsent ctx w r.2) ∧
      ((forwardsAck got ctx w).1 = true →
        ∃ copies plain draws, AckTakenOn ack got ctx w r.2 copies plain draws) := by
  obtain ⟨packet, delayMillis, hdrops, hrelease, hrun⟩ :=
    @meshOnRecvPacket_ack ctx w got ack h hcount hmatch
  have hkeepsManager := (inferInstance : Moves KeepsManager (forwardsAck got)).moves ctx w
  have hpool' := ((inferInstance : Uses Carries [] (forwardsAck got) fun _ => []).uses ctx w held).2
    hpool
  have hclock' := (millisOverride_of_uses [] [] (forwardsAck got) ctx w).trans hclock
  obtain ⟨hbytes, hlen, hheader, -, -⟩ := h.inside
  have hack : packet.payloadBytes = ack := by
    rw [Packet.payloadBytes, hdrops.payloadLen, hdrops.payload]
    exact hbytes
  have hmark := h.isMarkedDoNotRetransmit (hdrops.header.trans hheader)
  dsimp only
  rw [hrun]
  refine ⟨hrelease, fun hchecked => ?_, fun hchecked => ?_⟩
  · rw [hchecked]
    exact congrArg PacketQueueManager.sendQueue hkeepsManager
  · rw [hchecked, if_pos rfl]
    obtain ⟨copies, plain, draws, hbatch⟩ :=
      meshRouteDirectRecvAcks_queues delayMillis hpool' hclock'
      hdrops.validPathLen hmark (by rw [hack]; exact h.length_le)
    obtain ⟨n, hfirst, hlast, hdraws⟩ := hbatch.length_draws
    refine ⟨copies, plain, draws, ⟨?_, hbatch.length_le,
      ⟨n, (tick_le_forwardsAck got ctx w).trans hfirst, hlast, hdraws⟩,
      fun draw hdraw => ⟨packet, hbatch.drawn draw hdraw⟩, fun entry hentry => ?_,
      fun entry hentry => ?_, hbatch.ordered, ?_⟩⟩
    · rw [hbatch.queue_eq, hkeepsManager]
    · obtain ⟨remaining, hload⟩ := hbatch.load_copy entry hentry
      rw [hack] at hload
      exact ⟨hload.onward hdrops h (.inr rfl) (.inr ⟨_, multiAckHead_and remaining, hload.toLoad⟩),
        hload.type_eq⟩
    · have hload := hbatch.load_plain entry hentry
      rw [hack] at hload
      exact ⟨hload.onward hdrops h (.inl rfl) (.inl hload.toLoad), hload.type_eq⟩
    · rw [← hkeepsManager]
      exact hbatch.last

/-! ### Along the route -/

/-- A node that hears the acknowledgement hears it as it was sent. -/
theorem CarriesAck.heard {sent : Packet} {snrQ4 : Int8} (h : CarriesAck ack sent)
    (hears : Hears sent snrQ4 got) : CarriesAck ack got where
  direct := by
    rw [Packet.isRouteDirect, hears.getRouteType_eq]
    exact h.direct
  version := by
    rw [hears.fields.header]
    exact h.version
  validPathLen := hears.fields.encodable.validPathLen
  long := h.long
  layout := h.layout.imp hears.load fun ⟨first, hfirst, hload⟩ => ⟨first, hfirst, hears.load hload⟩

theorem CarriesAck.exists_hears (h : CarriesAck ack packet) (snrQ4 : Int8) :
    ∃ got, Hears packet snrQ4 got := by
  have hlen : packet.payloadLen ≤ packetPayloadMaxLen := by
    rcases h.layout with hplain | ⟨first, -, hmulti⟩
    · exact hplain.payloadLen_eq.trans_le hplain.length_le
    · exact hmulti.payloadLen_eq.trans_le hmulti.length_le
  obtain ⟨parsed, hair⟩ := exists_onAir ⟨h.validPathLen, hlen⟩ h.version
  exact ⟨_, parsed, hair, rfl⟩

end

/-- A relay with its host, its state and the buffers that are in hand. -/
structure Relay where
  ctx : Ctx
  world : World
  held : List PacketId
  now : ℕ
  pool : world.PoolIntact ctx held
  clock : world.millisOverride = some now

/-- The state of a relay after it has handled a packet. -/
def Relay.after (relay : Relay) (got : Packet) : World :=
  (meshOnRecvPacket got relay.ctx relay.world).2

/-- The packets that a relay queues for a packet. -/
def Relay.queues (relay : Relay) (got : Packet) : List Packet :=
  ((relay.after got).packetManager.sendQueue.entries.drop
    relay.world.packetManager.sendQueue.entries.length).map
      fun entry => (relay.after got).packetManager.packetBuf entry.packet

/-- The relay's hash in a path. -/
def Relay.hash (relay : Relay) (hashSize : ℕ) : List UInt8 :=
  relay.world.selfId.identity.slice 0 hashSize

/-- The relay takes every packet with this acknowledgement on, and it has a free buffer. -/
structure Relay.Willing (relay : Relay) (ack : List UInt8) : Prop where
  forwards : ∀ got, CarriesAck ack got → (forwardsAck got relay.ctx relay.world).1 = true
  free : 0 < relay.world.packetManager.getFreeCount

/-- What is sent as `sent` arrives as `arrives` behind these relays, when each of them sends on one
of the packets that it queues. -/
inductive AckRelayed : List Relay → Packet → Packet → Prop where
  | sent {sent} : AckRelayed [] sent sent
  | relayed {relay relays sent snrQ4 got next arrives} (hears : Hears sent snrQ4 got)
      (hqueued : next ∈ relay.queues got) (hrest : AckRelayed relays next arrives) :
      AckRelayed (relay :: relays) sent arrives

section

variable {relay : Relay} {relays : List Relay} {ack : List UInt8} {got sent arrives : Packet}
  {snrQ4 : Int8}

theorem Relay.queues_eq {entries : List QueueEntry}
    (h : (relay.after got).packetManager.sendQueue.entries
      = relay.world.packetManager.sendQueue.entries ++ entries) :
    relay.queues got = entries.map fun entry => (relay.after got).packetManager.packetBuf
      entry.packet := by
  rw [Relay.queues, h, List.drop_left]

/-- What the relay queues goes on along the path, and a willing relay queues something. -/
theorem Relay.queues_onward (hcarries : CarriesAck ack got) (hcount : got.getPathHashCount ≠ 0)
    (hmatch : relay.hash got.getPathHashSize.toNat = got.path.slice 0 got.getPathHashSize.toNat) :
    (∀ next ∈ relay.queues got, Onward ack got next) ∧
      (relay.Willing ack → ∃ next, next ∈ relay.queues got) := by
  obtain ⟨-, hrefused, htaken⟩ :=
    meshOnRecvPacket_takesOn hcarries hcount hmatch relay.pool relay.clock
  cases hchecked : (forwardsAck got relay.ctx relay.world).1 with
  | false =>
    have hqueue := congrArg PacketQueue.entries (hrefused hchecked)
    have hnone : relay.queues got = [] := Relay.queues_eq (hqueue.trans (List.append_nil _).symm)
    refine ⟨by rw [hnone]; nofun, fun hwilling => ?_⟩
    rw [hwilling.forwards got hcarries] at hchecked
    exact absurd hchecked (by decide)
  | true =>
    obtain ⟨copies, plain, draws, hbatch⟩ := htaken hchecked
    rw [Relay.queues_eq hbatch.queue_eq]
    refine ⟨fun next hnext => ?_, fun hwilling => ?_⟩
    · obtain ⟨entry, hentry, rfl⟩ := List.mem_map.mp hnext
      rcases List.mem_append.mp hentry with hcopy | hplain
      · exact (hbatch.onward_copy entry hcopy).1
      · exact (hbatch.onward_plain entry (Option.mem_toList.mp hplain)).1
    · cases copies with
      | cons entry copies => exact ⟨_, List.mem_cons_self ..⟩
      | nil =>
        obtain ⟨entry, rfl⟩ := Option.isSome_iff_exists.mp (hbatch.last hwilling.free)
        exact ⟨_, List.mem_cons_self ..⟩

theorem Packet.getPathHashSize_pos (packet : Packet) : 0 < packet.getPathHashSize.toNat := by
  rw [Packet.getPathHashSize, toNat_hashSizeOf]
  exact Nat.succ_pos _

theorem Relay.length_hash (relay : Relay) (packet : Packet) :
    (relay.hash packet.getPathHashSize.toNat).length = packet.getPathHashSize.toNat := by
  have hsize : packet.getPathHashSize.toNat = packet.pathLenField.toNat / 64 + 1 :=
    toNat_hashSizeOf _
  have hlt := packet.pathLenField.toNat_lt
  exact Buf.length_slice_of_le _ (by show 0 + packet.getPathHashSize.toNat ≤ 32; omega)

theorem CarriesAck.length_pathBytes (h : CarriesAck ack got) : got.pathBytes.length
    = got.getPathHashCount.toNat * got.getPathHashSize.toNat := by
  have hmax := (isValidPathLen_iff.mp h.validPathLen).2
  rw [Packet.pathBytes, Buf.length_slice_of_le _
    (by rwa [Nat.zero_add, Packet.toNat_getPathByteLen]), Packet.toNat_getPathByteLen_eq_mul]

/-- Behind the relays that the path names, every packet that arrives carries the acknowledgement,
and some packet arrives when they are willing. -/
theorem ackRelayed_carries (h : CarriesAck ack sent)
    (hpath : sent.pathBytes = relays.flatMap fun relay => relay.hash sent.getPathHashSize.toNat) :
    (∀ arrives, AckRelayed relays sent arrives →
      CarriesAck ack arrives ∧ arrives.getPathHashCount = 0) ∧
    ((∀ relay ∈ relays, relay.Willing ack) → ∃ arrives, AckRelayed relays sent arrives) := by
  induction relays generalizing sent with
  | nil =>
    have hlen := h.length_pathBytes
    rw [hpath, List.flatMap_nil, List.length_nil, eq_comm, Nat.mul_eq_zero] at hlen
    have hcount := hlen.resolve_right sent.getPathHashSize_pos.ne'
    refine ⟨fun arrives harrives => ?_, fun _ => ⟨sent, .sent⟩⟩
    cases harrives
    exact ⟨h, UInt8.toNat_inj.mp hcount⟩
  | cons relay relays ih =>
    rw [List.flatMap_cons] at hpath
    have hhash := relay.length_hash sent
    -- what the relay does with the packet in whichever way it hears it
    have hhop : ∀ {snrQ4 got}, Hears sent snrQ4 got →
        (∀ next ∈ relay.queues got, CarriesAck ack next ∧
          next.pathBytes = relays.flatMap fun relay => relay.hash next.getPathHashSize.toNat) ∧
        (relay.Willing ack → ∃ next, next ∈ relay.queues got) := by
      intro snrQ4 got hears
      have hgot := h.heard hears
      have hsize : got.getPathHashSize = sent.getPathHashSize :=
        congrArg hashSizeOf hears.fields.pathLenField
      have hbytes : got.pathBytes = relay.hash got.getPathHashSize.toNat ++
          relays.flatMap fun relay => relay.hash got.getPathHashSize.toNat := by
        rw [hears.fields.pathBytes, hpath, hsize]
      rw [← hsize] at hhash
      have hlen := hgot.length_pathBytes
      have hcount : got.getPathHashCount ≠ 0 := by
        intro hzero
        rw [hzero, hbytes, List.length_append, hhash] at hlen
        have hpos := got.getPathHashSize_pos
        simp at hlen
        omega
      have hmatch : relay.hash got.getPathHashSize.toNat
          = got.path.slice 0 got.getPathHashSize.toNat := by
        have hpos : got.getPathHashCount.toNat ≠ 0 := fun h => hcount (UInt8.toNat_inj.mp h)
        have hle : got.getPathHashSize.toNat ≤ got.getPathByteLen.toNat := by
          rw [Packet.toNat_getPathByteLen_eq_mul]
          exact Nat.le_mul_of_pos_left _ (Nat.pos_of_ne_zero hpos)
        have htake := congrArg (List.take got.getPathHashSize.toNat) hbytes
        rw [List.take_left' hhash, Packet.pathBytes, Buf.take_slice, Nat.min_eq_left hle] at htake
        exact htake.symm
      obtain ⟨honward, hsome⟩ := Relay.queues_onward hgot hcount hmatch
      refine ⟨fun next hnext => ⟨(honward next hnext).toCarriesAck, ?_⟩, hsome⟩
      rw [(honward next hnext).pathBytes, (honward next hnext).hashSize, hbytes,
        List.drop_left' hhash]
    refine ⟨fun arrives harrives => ?_, fun hwilling => ?_⟩
    · cases harrives with
      | relayed hears hqueued hrest =>
        obtain ⟨hnext, hrestPath⟩ := (hhop hears).1 _ hqueued
        exact (ih hnext hrestPath).1 arrives hrest
    · obtain ⟨got, hears⟩ := h.exists_hears 0
      obtain ⟨next, hqueued⟩ := (hhop hears).2 (hwilling relay (List.mem_cons_self ..))
      obtain ⟨hnext, hrestPath⟩ := (hhop hears).1 next hqueued
      obtain ⟨arrives, hrest⟩ := (ih hnext hrestPath).2 fun relay hrelay =>
        hwilling relay (List.mem_cons_of_mem _ hrelay)
      exact ⟨arrives, .relayed hears hqueued hrest⟩

/-! ### At its destination -/

section

variable {ctx : Ctx} {w : World}

/-- The host, or the correlation of an initialised runtime, is told of the code. -/
theorem meshOnRecvPacket_ackArrives (h : CarriesAck ack got) (hcount : got.getPathHashCount = 0)
    (hunseen : (tablesHasSeen (ackInside got) ctx w).1 = false) :
    (meshOnRecvPacket got ctx w).2 = (onAckRecv (ackInside got) (wordAt ack) ctx
      (tablesHasSeen (ackInside got) ctx w).2).2 := by
  have hflood := Packet.isRouteFlood_of_direct h.direct
  have hword : wordAt (ack.take 4) = wordAt ack := by rw [wordAt, List.take_take]; rfl
  have hlong := h.long
  rw [meshOnRecvPacket_arrives h.direct hcount h.ne_trace h.ne_control, onRecvPayload]
  rcases h.layout with hplain | ⟨first, hfirst, hmulti⟩
  · have hinside : ackInside got = got := by rw [ackInside, hplain.type_eq]; rfl
    have hlen : got.payloadLen = ack.length := hplain.payloadLen_eq
    have hcode : got.payload.slice 0 4 = ack.take 4 := hplain.slice_payload (by omega)
    rw [hinside] at hunseen ⊢
    rw [hplain.type_eq, if_pos rfl, onRecvAck, if_neg (by omega),
      Prog.run_bind_of (payloadRead_run (by omega) ctx w), hcode, hword, Prog.run_bind, hunseen]
    change ((handOver got >>= _) ctx _).2 = _
    rw [Prog.run_bind_of (handOver_run h.direct ctx _)]
    simp only [meshRouteRecvPacket, hflood]
    rfl
  · have hinside : ackInside got = multipartInner got := by rw [ackInside, hmulti.type_eq]; rfl
    have hlen : got.payloadLen = ack.length + 1 := hmulti.payloadLen_eq
    have hfive : 5 ≤ got.payloadLen := by omega
    have hbyte : got.payload.get 0 = first := hmulti.get_payload (Nat.succ_pos _)
    obtain ⟨hbytes, hinner, -⟩ := h.inside
    rw [hinside] at hunseen hbytes hinner ⊢
    have hcode : (multipartInner got).payload.slice 0 4 = ack.take 4 := by
      rw [← hbytes, Packet.payloadBytes, hinner, Buf.take_slice, Nat.min_eq_left hlong]
    have hshort : ¬((false : Bool) = true ∨ (multipartInner got).payloadLen < 4) := by
      rw [hinner]
      exact fun h => h.elim (by decide) (by omega)
    have hread : 0 + 4 ≤ (multipartInner got).payloadLen := by omega
    rw [hmulti.type_eq]
    change (onRecvMultipart got ctx w).2 = _
    rw [onRecvMultipart, if_pos (by omega), Prog.run_bind_of (payloadByte_run (by omega) ctx w),
      hbyte, if_pos (multipartIsAck_of hfirst hfive),
      Prog.run_bind_of (accessInner_run h.validPathLen (by omega) ctx w), Prog.run_bind, hunseen,
      if_neg hshort]
    rw [Prog.run_bind_of (handOver_run h.direct ctx _),
      Prog.run_bind_of (payloadRead_run hread ctx _), hcode, hword]
    rfl

end

end

/-- **A relay preserves an acknowledgement.** Whatever layout it comes in, everything that the relay
queues for it carries the same code along the rest of the path. So behind the relays that the path
names, whichever of their packets are sent on, the destination is told of the original code; and
when they are willing, something arrives. -/
theorem ack_relay :
    (∀ {ack got ctx w held now}, CarriesAck ack got → got.getPathHashCount ≠ 0 →
      w.selfId.identity.slice 0 got.getPathHashSize.toNat
        = got.path.slice 0 got.getPathHashSize.toNat →
      w.PoolIntact ctx held → w.millisOverride = some now →
      let r := meshOnRecvPacket got ctx w
      r.1.1 = actionRelease ∧ ((forwardsAck got ctx w).1 = false → Unsent ctx w r.2) ∧
        ((forwardsAck got ctx w).1 = true →
          ∃ copies plain draws, AckTakenOn ack got ctx w r.2 copies plain draws)) ∧
    ∀ {ack sent} {relays : List Relay}, CarriesAck ack sent →
      sent.pathBytes = (relays.flatMap fun relay => relay.hash sent.getPathHashSize.toNat) →
      ((∀ relay ∈ relays, relay.Willing ack) → ∃ arrives, AckRelayed relays sent arrives) ∧
      ∀ arrives, AckRelayed relays sent arrives → ∀ snrQ4 got ctx w, Hears arrives snrQ4 got →
        (tablesHasSeen (ackInside got) ctx w).1 = false →
        (meshOnRecvPacket got ctx w).2 = (onAckRecv (ackInside got) (wordAt ack) ctx
          (tablesHasSeen (ackInside got) ctx w).2).2 := by
  refine ⟨meshOnRecvPacket_takesOn, fun h hpath => ?_⟩
  obtain ⟨hcarries, harrives⟩ := ackRelayed_carries h hpath
  refine ⟨harrives, fun arrives hrelayed snrQ4 got ctx w hears hunseen => ?_⟩
  obtain ⟨harrived, hcount⟩ := hcarries arrives hrelayed
  have hgot : got.getPathHashCount = 0 :=
    (congrArg hashCountOf hears.fields.pathLenField).trans hcount
  exact meshOnRecvPacket_ackArrives (harrived.heard hears) hgot hunseen

/-- A host that allows everything makes a relay forward what it has not seen. -/
theorem forwardsAck_of {ctx : Ctx} {w : World} {got : Packet}
    (hallow : ∀ v, (allowPacketForward got ctx v).1 = true)
    (hunseen : ∀ v : World, v.tables = w.tables → (tablesHasSeen (ackInside got) ctx v).1 = false) :
    (forwardsAck got ctx w).1 = true := by
  have htold := (inferInstance : Moves Tells (tellAck got)).moves ctx w
  rw [forwardsAck, Prog.run_bind, Prog.run_bind, hallow]
  generalize (tellAck got ctx w).2 = told at htold
  have hallowed := (inferInstance : Moves Quiet (allowPacketForward got)).moves ctx told
  have hnew := hunseen (allowPacketForward got ctx told).2 (by rw [hallowed, htold.1])
  rw [Bool.not_true, if_neg (by decide), Prog.run_bind, hnew]
  rfl

/-- A relay with free buffers that has seen nothing yet. -/
def Relay.fresh : Relay where
  ctx := .forwarding
  world := { Op.next .forwarding .boot .init with millisOverride := some 0 }
  held := []
  now := 0
  pool :=
    have h : (Op.next .forwarding .boot .init).PoolIntact .forwarding [] :=
      Reachable.poolIntact ⟨[.init], rfl⟩ (by decide +kernel)
    ⟨h.conserves, h.poolSize, h.reissued⟩
  clock := rfl

theorem Relay.fresh_willing (ack : List UInt8) : Relay.fresh.Willing ack where
  free := by decide +kernel
  forwards got h := by
    obtain ⟨-, hlen, -⟩ := h.inside
    exact forwardsAck_of (fun _ => rfl) fun v hv =>
      tablesHasSeen_fresh (fun _ _ => rfl) (hlen.trans_le h.length_le) (hv.trans rfl)

/-- A packet with an acknowledgement for one hop. -/
def ackPacket : Packet :=
  { Packet.init with
    header := 0x0E, payloadLen := 4, payload := (Buf.zero _).store 0 [1, 2, 3, 4], pathLen := 1 }

theorem ack_relay_one :
    (∃ copies plain draws, AckTakenOn [1, 2, 3, 4] ackPacket .forwarding Relay.fresh.world
      (Relay.fresh.after ackPacket) copies plain draws) ∧
    ∃ arrives got, AckRelayed [.fresh] ackPacket arrives ∧ Hears arrives 0 got ∧
      (meshOnRecvPacket got .forwarding .boot).2.events
        = [.meshOnAckRecv (ackInside got) 0x04030201] := by
  have hcarries : CarriesAck [1, 2, 3, 4] ackPacket :=
    ⟨by decide, by decide, by decide, by decide, .inl ⟨by decide, by decide, by decide, by decide⟩⟩
  have hwilling := Relay.fresh_willing [1, 2, 3, 4]
  obtain ⟨hrelay, hroute⟩ := ack_relay
  have hpath : ackPacket.pathBytes
      = [Relay.fresh].flatMap fun relay => relay.hash ackPacket.getPathHashSize.toNat := by
    decide +kernel
  refine ⟨(hrelay hcarries (by decide) (by decide +kernel) Relay.fresh.pool Relay.fresh.clock).2.2
    (hwilling.forwards _ hcarries), ?_⟩
  obtain ⟨hsome, hall⟩ := hroute hcarries hpath
  obtain ⟨arrives, hrelayed⟩ := hsome (List.forall_mem_singleton.mpr hwilling)
  have harrived := ((ackRelayed_carries hcarries hpath).1 arrives hrelayed).1
  obtain ⟨got, hears⟩ := harrived.exists_hears 0
  obtain ⟨-, hlen, -⟩ := (harrived.heard hears).inside
  have hunseen : (tablesHasSeen (ackInside got) .forwarding .boot).1 = false :=
    tablesHasSeen_fresh (fun _ _ => rfl) (hlen.trans_le (by decide)) rfl
  refine ⟨arrives, got, hrelayed, hears, ?_⟩
  rw [hall arrives hrelayed 0 got .forwarding .boot hears hunseen]
  obtain ⟨hevents, -, -, hinit, -⟩ :=
    (inferInstance : Moves Mute (tablesHasSeen (ackInside got))).moves .forwarding .boot
  generalize (tablesHasSeen (ackInside got) .forwarding .boot).2 = seen at *
  rw [onAckRecv, whenInitialized, Prog.run_bind, Prog.run_gets, hinit]
  show seen.events ++ [.meshOnAckRecv _ (wordAt [1, 2, 3, 4])] = _
  rw [hevents]
  rfl

end Meshcore
