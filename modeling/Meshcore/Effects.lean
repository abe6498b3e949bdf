import Mathlib.Logic.Relation
import Meshcore.Platform

/-!
# What the packet path can change

Most of the runtime asks the host, publishes an event or updates the request correlation, and
touches no packet buffer: it is `Quiet`. The rest allocates buffers, fills them, records packet
hashes and hands the buffers to a queue. `Step` lists these effects on the state and on the buffers
that the running code has in hand, and `Steps` is any number of them. Only a buffer in hand is
written.

Every function of the mesh and of the runtime gets an instance, `Moves Quiet` or `Uses (Steps
allow)`, in the module that defines it. The properties of whole runs are then derived from the list
of effects, not from the functions.

## Main definitions

* `Asks`, `Quiet` — nothing changes, or nothing on the packet path
* `Step`, `Steps` — the effects on the state and the buffers in hand, for code that hands over the
  payloads `hands` admits

## Main results

* `Steps.conserves` — no effect loses or duplicates a buffer
* `Steps.framed` — what no effect changes
* `Steps.untouched` — a buffer that waits in the receive queue keeps its packet
-/

namespace Meshcore

/-- Only the local identity, the request correlation, the unique clock, the position in the host's
answers, the events and the record of accesses change. -/
def Quiet (_ : Ctx) (w w' : World) : Prop :=
  w' = { w with
    selfId := w'.selfId, rtcLastUnique := w'.rtcLastUnique, correlation := w'.correlation,
    tick := w'.tick, events := w'.events, outside := w'.outside }

instance : Composes Quiet where
  refl _ _ := rfl
  trans _ w w' w'' h h' := by
    rw [Quiet] at *
    rw [h', h]

/-- Questions to the host: nothing but the position in its answers changes, which moves on. -/
def Asks (_ : Ctx) (w w' : World) : Prop := w' = { w with tick := w'.tick } ∧ w.tick ≤ w'.tick

instance : Composes Asks where
  refl _ _ := ⟨rfl, le_rfl⟩
  trans _ w w' w'' h h' := by
    refine ⟨?_, h.2.trans h'.2⟩
    rw [h'.1, h.1]

instance (priority := low) Moves.quietOfAsks {α : Type} (m : M α) [hm : Moves Asks m] :
    Moves Quiet m where
  moves ctx w := by
    rw [(hm.moves ctx w).1]
    rfl

/-! ### The primitives -/

instance {α : Type} (f : Hooks → α) : Moves Asks (hook f) := ⟨fun _ _ => ⟨rfl, Nat.le_succ _⟩⟩

instance (id : PacketId) : Moves Asks (readPacket id) := ⟨fun _ _ => ⟨rfl, le_rfl⟩⟩

instance : Moves Asks clockMillisGet := by unfold clockMillisGet; infer_instance

instance : Moves Asks clockRtcGetCurrentTime := by unfold clockRtcGetCurrentTime; infer_instance

instance : Moves Asks timestampNowSeconds := by unfold timestampNowSeconds; infer_instance

instance (min max : UInt32) : Moves Asks (rngNextInt min max) := by
  unfold rngNextInt; infer_instance

instance (e : Event) : Moves Quiet (emit e) := ⟨fun _ _ => rfl⟩

instance (id : LocalIdentity) : Moves Quiet (setSelfId id) := ⟨fun _ _ => rfl⟩

instance (v : UInt32) : Moves Quiet (setRtcLastUnique v) := ⟨fun _ _ => rfl⟩

instance (inside : Prop) [Decidable inside] : Moves Quiet (access inside) := ⟨fun _ _ => rfl⟩

instance (f : Correlation → Correlation) : Moves Quiet (modifyCorrelation f) := ⟨fun _ _ => rfl⟩

instance : Moves Quiet clockRtcGetCurrentTimeUnique := by
  unfold clockRtcGetCurrentTimeUnique; infer_instance

/-! ### Effects on the packet path -/

/-- The packet hash of some bytes, zero when the host fails. -/
def Hooks.packetHash (hooks : Hooks) (data : List UInt8) : PacketHash :=
  (hooks.sha256 packetHashSize data).getD (Buf.zero _)

/-- One effect on the buffers in hand and the state. -/
inductive Step (ctx : Ctx) (hands : FloodKey → Prop) :
    List PacketId × World → List PacketId × World → Prop where
  | quiet {h w w'} (hq : Quiet ctx w w') : Step ctx hands (h, w) (h, w')
  | write {h w} (id : PacketId) (packet : Packet) (hid : id ∈ h) :
      Step ctx hands (h, w) (h, { w with packetManager := w.packetManager.write id packet })
  | errFlags {h w} (e : UInt16) :
      Step ctx hands (h, w) (h, { w with dispatcher := { w.dispatcher with errFlags := e } })
  | handed {h w} (k : FloodKey) (hk : hands k) :
      Step ctx hands (h, w) (h, { w with trace := w.trace ++ [.handed k] })
  | sent {h w} (k : FloodKey) (n : ℕ) (hk : k.1 ≠ payloadTypeMultipart)
      (hmem : (ctx.hooks n).packetHash (k.1 :: k.2) ∈ w.tables.hashes.slots) :
      Step ctx hands (h, w) (h, { w with trace := w.trace ++ [.sent k] })
  | dups {h w} (direct flood : UInt32) :
      Step ctx hands (h, w)
        (h, { w with tables := { w.tables with directDups := direct, floodDups := flood } })
  | record {h w} (hash : PacketHash) (hnew : hash ∉ w.tables.hashes.slots) :
      Step ctx hands (h, w)
        (h, { w with tables := w.tables.record hash, trace := w.trace ++ [.recorded hash] })
  | alloc {h w id m} (halloc : w.packetManager.allocNew = (some id, m)) :
      Step ctx hands (h, w) (id :: h,
        { w with
          packetManager := m
          reissued := w.reissued || World.inUse { w with packetManager := m } id })
  | free {h w} (id : PacketId) :
      Step ctx hands (id :: h, w) (h, { w with packetManager := w.packetManager.free id })
  | queueOutbound {h w} (id : PacketId) (pri : UInt8) (scheduledFor : ℕ) :
      Step ctx hands (id :: h, w)
        (h, { w with packetManager := w.packetManager.queueOutbound id pri scheduledFor })

/-- Any number of effects. -/
def Steps (hands : FloodKey → Prop) (ctx : Ctx) :
    List PacketId × World → List PacketId × World → Prop :=
  Relation.ReflTransGen (Step ctx hands)

instance (hands : FloodKey → Prop) : Composes (Steps hands) where
  refl _ _ := .refl
  trans _ _ _ _ h h' := h.trans h'

/-- What is quiet uses nothing. -/
instance (priority := low) Uses.ofQuiet {hands : FloodKey → Prop} {α : Type} (m : M α)
    [hm : Moves Quiet m] : Uses (Steps hands) [] m fun _ => [] where
  uses ctx w _ := .single (.quiet (hm.moves ctx w))

/-! ### The primitives of the packet path -/

section

variable {hands : FloodKey → Prop}

instance (id : PacketId) (packet : Packet) :
    Uses (Steps hands) [id] (writePacket id packet) fun _ => [id] :=
  ⟨fun _ _ _ => .single (.write id packet (List.mem_cons_self ..))⟩

instance (id : PacketId) (f : Packet → Packet) :
    Uses (Steps hands) [id] (updatePacket id f) fun _ => [id] := by
  unfold updatePacket; infer_instance

instance (flag : UInt16) : Uses (Steps hands) [] (setErrFlag flag) fun _ => [] :=
  ⟨fun _ _ _ => .single (.errFlags _)⟩

/-- Allocation gives a buffer, or changes nothing. -/
instance : Uses (Steps hands) [] allocPacket Option.toList where
  uses _ w extra := by
    cases halloc : w.packetManager.allocNew with
    | mk o m =>
      cases o with
      | some id =>
        simp only [allocPacket, takePacket, Prog.run_bind, Prog.run_modify, Prog.run_pure, halloc,
          Option.toList_some, Option.any_some]
        exact .single (.alloc halloc)
      | none =>
        have hm : m = w.packetManager := by
          rw [PacketQueueManager.allocNew] at halloc
          split at halloc
          · exact (congrArg Prod.snd halloc).symm
          · simp only [PacketQueue.removeByIdx] at halloc
            split at halloc
            · exact absurd (congrArg Prod.fst halloc) (by simp)
            · exact (congrArg Prod.snd halloc).symm
        simp only [allocPacket, takePacket, Prog.run_bind, Prog.run_modify, Prog.run_pure, halloc,
          Option.toList_none, hm, Option.any_none, Bool.or_false]
        exact .refl

instance (id : PacketId) :
    Uses (Steps hands) [id] (modifyManager (·.free id)) fun _ => [] :=
  ⟨fun _ _ _ => .single (.free id)⟩

instance (id : PacketId) (pri : UInt8) (scheduledFor : ℕ) :
    Uses (Steps hands) [id] (modifyManager (·.queueOutbound id pri scheduledFor)) fun _ => [] :=
  ⟨fun _ _ _ => .single (.queueOutbound id pri scheduledFor)⟩

end

/-! ### What the effects keep -/

section

variable {hands : FloodKey → Prop} {ctx : Ctx} {h h' : List PacketId} {w w' : World}

/-- Any property of the state and the buffers in hand that every effect keeps. -/
theorem Steps.induct {P : List PacketId → World → Prop} (hs : Steps hands ctx (h, w) (h', w'))
    (h0 : P h w)
    (hstep : ∀ {h w h' w'}, P h w → Step ctx hands (h, w) (h', w') → P h' w') : P h' w' := by
  generalize hb : (h', w') = b at hs
  induction hs generalizing h' w' with
  | refl =>
    obtain ⟨rfl, rfl⟩ := Prod.mk.inj hb
    exact h0
  | @tail b _ _ hlast ih =>
    subst hb
    exact hstep (ih rfl) hlast

/-- No effect loses or duplicates a buffer. -/
theorem Step.conserves (hs : Step ctx hands (h, w) (h', w')) {extra : List PacketId}
    (hc : w.packetManager.Conserves (h ++ extra)) : w'.packetManager.Conserves (h' ++ extra) := by
  cases hs with
  | quiet hq =>
    rw [hq]
    exact hc
  | write id packet => exact hc.write packet
  | errFlags | handed | sent | dups | record => exact hc
  | alloc halloc =>
    rcases hc.allocNew with hnone | ⟨id, m, hsome, hm, -⟩
    · rw [halloc] at hnone
      exact absurd (congrArg Prod.fst hnone) (by simp)
    · rw [halloc] at hsome
      obtain ⟨hid, rfl⟩ := Prod.mk.inj hsome
      obtain rfl := Option.some.inj hid
      exact hm
  | free id => exact hc.free
  | queueOutbound id pri scheduledFor => exact (hc.queueOutbound pri scheduledFor).1

theorem Steps.conserves (hs : Steps hands ctx (h, w) (h', w')) {extra : List PacketId}
    (hc : w.packetManager.Conserves (h ++ extra)) : w'.packetManager.Conserves (h' ++ extra) :=
  hs.induct (P := fun h w => w.packetManager.Conserves (h ++ extra)) hc
    fun hc hstep => hstep.conserves hc

/-- No allocation gives out a buffer that is in use, as long as what is in flight is accounted
for. -/
theorem Step.reissued (hs : Step ctx hands (h, w) (h', w'))
    (hc : w.packetManager.Conserves (h ++ w.dispatcher.outbound.toList)) :
    w'.reissued = w.reissued := by
  cases hs with
  | quiet hq => rw [hq]
  | @alloc _ _ id m halloc =>
    rcases hc.allocNew with hnone | ⟨id', m', hsome, hm, -⟩
    · rw [halloc] at hnone
      exact absurd (congrArg Prod.fst hnone) (by simp)
    · rw [halloc] at hsome
      obtain ⟨hid, rfl⟩ := Prod.mk.inj hsome
      obtain rfl := Option.some.inj hid
      have hfresh : World.inUse { w with packetManager := m } id = false := by
        have hnodup := hm.nodup
        simp only [List.nodup_append, List.mem_append, List.mem_cons, World.inUse] at hnodup ⊢
        grind
      simp [hfresh]
  | _ => rfl

/-- Everything but the packet path, the quiet part of the state, the error flags and the ghosts is
as before, and so are the size of the pool and the receive queue. -/
def Framed (w w' : World) : Prop :=
  w' = { w with
    packetManager := w'.packetManager, tables := w'.tables, selfId := w'.selfId,
    dispatcher := { w.dispatcher with errFlags := w'.dispatcher.errFlags },
    rtcLastUnique := w'.rtcLastUnique, correlation := w'.correlation, tick := w'.tick,
    events := w'.events, trace := w'.trace, reissued := w'.reissued, outside := w'.outside } ∧
  w'.packetManager.poolSize = w.packetManager.poolSize ∧
  w'.packetManager.rxQueue = w.packetManager.rxQueue

theorem Framed.refl : Framed w w := ⟨rfl, rfl, rfl⟩

theorem Framed.trans {w'' : World} (h : Framed w w') (h' : Framed w' w'') : Framed w w'' := by
  refine ⟨?_, h'.2.1.trans h.2.1, h'.2.2.trans h.2.2⟩
  rw [h'.1, h.1]

theorem Step.framed (hs : Step ctx hands (h, w) (h', w')) : Framed w w' := by
  cases hs with
  | quiet hq =>
    rw [Quiet] at hq
    rw [hq]
    exact ⟨rfl, rfl, rfl⟩
  | alloc halloc =>
    have hsize := congrArg (·.2.poolSize) halloc
    have hrx := congrArg (·.2.rxQueue) halloc
    simp only [PacketQueueManager.poolSize_allocNew, PacketQueueManager.rxQueue_allocNew]
      at hsize hrx
    exact ⟨rfl, hsize.symm, hrx.symm⟩
  | free id => exact ⟨rfl, by simp, by simp⟩
  | queueOutbound id pri scheduledFor => exact ⟨rfl, by simp, by simp⟩
  | write | errFlags | handed | sent | dups | record => exact ⟨rfl, rfl, rfl⟩

/-- What no effect changes. -/
theorem Steps.framed (hs : Steps hands ctx (h, w) (h', w')) : Framed w w' :=
  hs.induct (P := fun _ => Framed w) .refl fun hw hstep => hw.trans hstep.framed

theorem Framed.outbound (h : Framed w w') :
    w'.dispatcher.outbound = w.dispatcher.outbound := by rw [h.1]

theorem Steps.reissued (hs : Steps hands ctx (h, w) (h', w'))
    (hc : w.packetManager.Conserves (h ++ w.dispatcher.outbound.toList)) :
    w'.reissued = w.reissued := by
  refine (hs.induct (P := fun h₁ w₁ => Framed w w₁ ∧
    w₁.packetManager.Conserves (h₁ ++ w₁.dispatcher.outbound.toList) ∧ w₁.reissued = w.reissued)
    ⟨.refl, hc, rfl⟩ ?_).2.2
  rintro h₁ w₁ h₂ w₂ ⟨hframed, hc₁, hsame⟩ hstep
  refine ⟨hframed.trans hstep.framed, ?_, (hstep.reissued hc₁).trans hsame⟩
  rw [hstep.framed.outbound]
  exact hstep.conserves hc₁

/-- A buffer that waits in the receive queue keeps its packet. -/
theorem Steps.untouched (hs : Steps hands ctx (h, w) (h', w')) {extra : List PacketId}
    (hc : w.packetManager.Conserves (h ++ extra)) {id : PacketId}
    (hid : id ∈ w.packetManager.rxQueue.ids) :
    w'.packetManager.packetBuf id = w.packetManager.packetBuf id := by
  refine (hs.induct (P := fun h w₁ => w₁.packetManager.Conserves (h ++ extra) ∧
    w₁.packetManager.rxQueue = w.packetManager.rxQueue ∧
      w₁.packetManager.packetBuf id = w.packetManager.packetBuf id) ⟨hc, rfl, rfl⟩ ?_).2.2
  rintro h₁ w₁ h₂ w₂ ⟨hc₁, hrx, hbuf⟩ hstep
  refine ⟨hstep.conserves hc₁, hstep.framed.2.2.trans hrx, ?_⟩
  cases hstep with
  | quiet hq =>
    rw [hq]
    exact hbuf
  | write id' packet hid' =>
    have hne : id ≠ id' := by
      rintro rfl
      rw [← hrx] at hid
      exact hc₁.not_mem_rxQueue (List.mem_append_left _ hid') hid
    exact (Function.update_of_ne hne ..).trans hbuf
  | alloc halloc =>
    have hm := congrArg (·.2.packetBuf) halloc
    simp only [PacketQueueManager.packetBuf_allocNew] at hm
    rw [← hm]
    exact hbuf
  | free id' => simpa using hbuf
  | queueOutbound id' pri scheduledFor => simpa using hbuf
  | errFlags | handed | sent | dups | record => exact hbuf

end

end Meshcore
