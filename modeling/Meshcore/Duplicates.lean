import Meshcore.Codec
import Meshcore.PoolConservation

/-!
# Every flood at most once

The ghost trace of a run is the log of a duplicate filter: a packet hash is recorded only when it is
new, the payload of a flood is handed to the role logic only right after its hash was recorded, and
its retransmission is queued only right after that. The duplicate check sits in the branch of each
payload type, so each branch is shown to keep to that order; the general facts about filters then
bound what happens to the copies of one flood, however they are ordered, routed and delayed.

The only assumption is that the host's hash is a fixed function. A packet that waits in the receive
queue was parsed, so its payload length is one that the hash covers.

## Main definitions

* `floodHash` — the hash that the copies of a flood share
* `World.Filtering` — the trace is the log of a filter
* `Settles` — what a branch of the mesh does with a flood packet

## Main results

* `Reachable.filtering` — every run is a run of the filter
* `flood_at_most_once`, with both halves of the claim about copies
-/

namespace Meshcore

/-- The bytes whose hash the copies of a flood share. In a multipart packet that is the packet
inside. -/
def dedupData (k : FloodKey) : List UInt8 :=
  k.1 :: (if k.1 = payloadTypeMultipart then k.2.drop 1 else k.2)

def floodHash (sha : List UInt8 → PacketHash) (k : FloodKey) : PacketHash := sha (dedupData k)

/-- The host's packet hash is always the same function. -/
class FixedHash (ctx : Ctx) (sha : List UInt8 → PacketHash) : Prop where
  packetHash_eq : ∀ n data, (ctx.hooks n).packetHash data = sha data

/-- The trace is the log of a filter that remembers what the table has. -/
def World.Filtering (sha : List UInt8 → PacketHash) (w : World) : Prop :=
  Filtered (floodHash sha) Tables.init.hashes w.trace w.tables.hashes

section

variable {ctx : Ctx} {sha : List UInt8 → PacketHash} [hsha : FixedHash ctx sha] {w w' : World}

omit hsha in
theorem Quiet.filtering (hq : Quiet ctx w w') (hf : w.Filtering sha) : w'.Filtering sha := by
  rw [hq]
  exact hf

/-! ### The effects of the mesh and of the requests -/

theorem Step.filtering {h h' : List PacketId} (hs : Step ctx (fun _ => False) (h, w) (h', w'))
    (hf : w.Filtering sha) : w'.Filtering sha := by
  cases hs with
  | quiet hq => exact hq.filtering hf
  | handed k hk => exact hk.elim
  | sent k n hk hmem =>
    rw [hsha.packetHash_eq] at hmem
    refine .snoc hf ⟨?_, rfl⟩
    rwa [floodHash, dedupData, if_neg hk]
  | record hash hnew => exact .snoc hf ⟨hnew, rfl⟩
  | write | errFlags | dups | alloc | free | queueOutbound => exact hf

theorem Steps.filtering {h h' : List PacketId} (hs : Steps (fun _ => False) ctx (h, w) (h', w'))
    (hf : w.Filtering sha) : w'.Filtering sha :=
  hs.induct (P := fun _ w => w.Filtering sha) hf fun hf hstep => hstep.filtering hf

/-- What is not seen was recorded just now. -/
theorem getLast?_tablesHasSeen (sha : List UInt8 → PacketHash) [hsha : FixedHash ctx sha]
    {packet : Packet} (hlen : packet.payloadLen ≤ packetPayloadMaxLen)
    (hnew : (tablesHasSeen packet ctx w).1 = false) :
    (tablesHasSeen packet ctx w).2.trace.getLast? = some (.recorded (sha packet.hashData)) := by
  have hhash : (calculateHash packet ctx w).1 = sha packet.hashData := by
    rw [calculateHash_run, if_neg (not_lt.mpr hlen), hsha.packetHash_eq]
  rw [tablesHasSeen_run] at hnew ⊢
  dsimp only at hnew ⊢
  split at hnew
  · simp at hnew
  · rw [if_neg ‹_›, List.getLast?_concat, hhash]

end

/-! ### What is hashed -/

theorem hashData_eq_dedupData {packet : Packet} (htrace : packet.getPayloadType ≠ payloadTypeTrace)
    (hmulti : packet.getPayloadType ≠ payloadTypeMultipart) :
    packet.hashData = dedupData packet.floodKey := by
  rw [Packet.hashData, if_neg htrace, dedupData, Packet.floodKey, if_neg hmulti, List.nil_append]

theorem hashData_multipartInner {packet : Packet}
    (hmulti : packet.getPayloadType = payloadTypeMultipart)
    (hlen : packet.payloadLen ≤ packetPayloadMaxLen) :
    (multipartInner packet).hashData = dedupData packet.floodKey := by
  have htype : (multipartInner packet).getPayloadType = payloadTypeMultipart := hmulti
  rw [Packet.hashData, htype, if_neg (by decide), dedupData, Packet.floodKey, hmulti, if_pos rfl,
    payloadBytes_multipartInner hlen, List.nil_append]

/-! ### A flood packet in the mesh -/

/-- How far a flood packet has come: nothing is known, or its hash is what was recorded last, or its
payload may also have been handed over since. -/
inductive Stage where
  | any | fresh | accepted

/-- What a stage says about the end of the trace. -/
def Stage.EndsWith (sha : List UInt8 → PacketHash) (packet : Packet) : Stage → Option Mark → Prop
  | .any, _ => True
  | .fresh, m => m = some (.recorded (floodHash sha packet.floodKey))
  | .accepted, m =>
    m = some (.recorded (floodHash sha packet.floodKey)) ∨ m = some (.handed packet.floodKey)

/-- The state at a stage. -/
def Stage.Holds (sha : List UInt8 → PacketHash) (packet : Packet) (stage : Stage) (w : World) :
    Prop :=
  w.Filtering sha ∧ stage.EndsWith sha packet w.trace.getLast?

/-- A branch of the mesh that, from a stage on, keeps to the order of the filter and retransmits an
accepted packet only. -/
class Settles (sha : List UInt8 → PacketHash) (packet : Packet) (stage : Stage)
    (m : M (Action × Packet)) : Prop where
  settles : ∀ ctx w, FixedHash ctx sha → stage.Holds sha packet w →
    (m ctx w).2.Filtering sha ∧
      ((m ctx w).1.1 ≠ actionRelease → Stage.accepted.Holds sha packet (m ctx w).2)

/-- The packet at hand is a flood. -/
class IsFlood (packet : Packet) : Prop where
  isRouteFlood : packet.isRouteFlood = true

/-- The duplicate check of `packet'` is that of `packet`. -/
class ChecksAs (packet packet' : Packet) : Prop where
  payloadLen_le : packet'.payloadLen ≤ packetPayloadMaxLen
  hashData_eq : packet'.hashData = dedupData packet.floodKey

namespace Settles

variable {sha : List UInt8 → PacketHash} {packet : Packet} {stage : Stage} {α : Type}

instance release (packet' : Packet) :
    Settles sha packet stage (pure (actionRelease, packet')) :=
  ⟨fun _ _ _ h => ⟨h.1, fun hne => absurd rfl hne⟩⟩

instance ite (c : Prop) [Decidable c] (m n : M (Action × Packet))
    [hm : Settles sha packet stage m] [hn : Settles sha packet stage n] :
    Settles sha packet stage (if c then m else n) := by
  split
  · exact hm
  · exact hn

instance bind (m : M α) (f : α → M (Action × Packet)) [hm : Moves Quiet m]
    [hf : ∀ a, Settles sha packet stage (f a)] : Settles sha packet stage (m >>= f) where
  settles ctx w hsha h := by
    have hquiet := hm.moves ctx w
    refine (hf _).settles ctx _ hsha ⟨hquiet.filtering h.1, ?_⟩
    rw [hquiet]
    exact h.2

/-- The payload is handed over. -/
instance handOver [hflood : IsFlood packet] (f : Unit → M (Action × Packet))
    [hf : Settles sha packet .accepted (f ())] :
    Settles sha packet .fresh (handOver packet >>= f) where
  settles ctx w hsha h := by
    rw [Prog.run_bind, Meshcore.handOver, if_pos hflood.isRouteFlood]
    exact hf.settles ctx _ hsha ⟨.snoc h.1 ⟨h.2, rfl⟩, .inr (List.getLast?_concat ..)⟩

/-- An accepted packet may be retransmitted. -/
instance routeAccepted (packet' : Packet) :
    Settles sha packet .accepted (meshRouteRecvPacket packet') where
  settles ctx w _ h := by
    have hquiet := (inferInstance : Moves Quiet (meshRouteRecvPacket packet')).moves ctx w
    refine ⟨hquiet.filtering h.1, fun _ => ⟨hquiet.filtering h.1, ?_⟩⟩
    rw [hquiet]
    exact h.2

instance routeFresh (packet' : Packet) :
    Settles sha packet .fresh (meshRouteRecvPacket packet') :=
  ⟨fun ctx w hsha h => (routeAccepted packet').settles ctx w hsha ⟨h.1, .inl h.2⟩⟩

/-- After the duplicate check of `packet'`, which has the hash of `packet`. -/
instance afterSeen (packet' packet'' : Packet) [hc : ChecksAs packet packet']
    (f : M (Action × Packet)) [hf : Settles sha packet .fresh f] :
    Settles sha packet .any (do
      let seen ← tablesHasSeen packet'
      if seen then pure (actionRelease, packet'') else f) where
  settles ctx w hsha h := by
    have hs := (inferInstance : Uses (Steps fun _ => False) [] (tablesHasSeen packet')
      fun _ => []).uses ctx w []
    have hfilter := hs.filtering h.1
    rw [Prog.run_bind]
    cases hseen : (tablesHasSeen packet' ctx w).1 with
    | true => exact ⟨hfilter, fun hne => absurd rfl hne⟩
    | false =>
      refine hf.settles ctx _ hsha ⟨hfilter, ?_⟩
      rw [Stage.EndsWith, getLast?_tablesHasSeen sha hc.payloadLen_le hseen, hc.hashData_eq]
      rfl

end Settles

/-! ### Each payload type -/

/-- A packet that is marked stays. -/
theorem meshRouteRecvPacket_marked (packet : Packet) (ctx : Ctx) (w : World) :
    meshRouteRecvPacket packet.markDoNotRetransmit ctx w
      = ((actionRelease, packet.markDoNotRetransmit), w) := by
  have hroute : packet.markDoNotRetransmit.getRouteType = routeTypeTransportDirect := by
    show (0xFF : UInt8) &&& phRouteMask = _
    decide
  have hmark : packet.markDoNotRetransmit.isRouteFlood = false := by
    rw [Packet.isRouteFlood, hroute]
    rfl
  simp only [meshRouteRecvPacket, hmark, Bool.false_eq_true, false_and, if_false, Prog.run_pure]

section

variable {sha : List UInt8 → PacketHash} {packet : Packet} [hflood : IsFlood packet]

include hflood in
theorem isRouteDirect_eq_false : packet.isRouteDirect = false := by
  have h := hflood.isRouteFlood
  rw [Packet.isRouteFlood, Bool.or_eq_true, beq_iff_eq, beq_iff_eq] at h
  rw [Packet.isRouteDirect]
  rcases h with h | h <;> rw [h] <;> rfl

/-- The handler of a payload that was handed over. -/
theorem filtering_handOver {α : Type} {m : M α} [hm : Uses (Steps fun _ => False) [] m fun _ => []]
    (ctx : Ctx) {w : World} [FixedHash ctx sha] (h : Stage.fresh.Holds sha packet w) :
    ((do handOver packet; m) ctx w).2.Filtering sha := by
  rw [Prog.run_bind, handOver, if_pos hflood.isRouteFlood]
  exact (hm.uses ctx _ []).filtering (.snoc h.1 ⟨h.2, rfl⟩)

omit hflood in
theorem Stage.Holds.quiet {ctx : Ctx} {w w' : World} {stage : Stage}
    (h : stage.Holds sha packet w) (hq : Quiet ctx w w') : stage.Holds sha packet w' := by
  refine ⟨hq.filtering h.1, ?_⟩
  rw [hq]
  exact h.2

/-- The search for the sender hands the payload over at most once, and leaves a packet that nobody
opened as it was. -/
theorem tryPeers_stage (ctx : Ctx) [FixedHash ctx sha] (srcHash : UInt8)
    (macAndData : List UInt8) (n cursor : ℕ) {w : World} (h : Stage.fresh.Holds sha packet w) :
    let r := tryPeers packet srcHash macAndData n cursor ctx w
    r.2.Filtering sha ∧ (r.1 = false → Stage.fresh.Holds sha packet r.2) := by
  induction n generalizing cursor w with
  | zero => exact ⟨h.1, fun _ => h⟩
  | succ n ih =>
    have hask := (inferInstance : Moves Quiet
      (hook fun h => h.peerNextSharedSecretByHash srcHash cursor)).moves ctx w
    rw [tryPeers, Prog.run_bind]
    cases (hook (fun h => h.peerNextSharedSecretByHash srcHash cursor) ctx w).1 with
    | none => exact ⟨(h.quiet hask).1, fun _ => h.quiet hask⟩
    | some candidate =>
      have hdecrypt := (inferInstance : Moves Quiet
        (utilsMacThenDecrypt candidate.2.1 macAndData)).moves ctx
          (hook (fun h => h.peerNextSharedSecretByHash srcHash cursor) ctx w).2
      have h' := (h.quiet hask).quiet hdecrypt
      simp only [Option.elim_some, Prog.run_bind, Prog.run_ite]
      split
      · exact ih _ h'
      · split
        · cases hparse : parsePathReturn _ with
          | none => exact ih _ h'
          | some r =>
            have hpath := filtering_handOver (m := do
              let answer ← onPeerPathRecv packet candidate.2.2 candidate.2.1 r.path r.pathLen
                r.extraType r.extra
              if answer ∧ packet.isRouteFlood then do
                let path ← pathRead packet 0 packet.getPathByteLen.toNat
                let rpath ← meshCreatePathReturnByDestHash [srcHash] candidate.2.1 path
                  packet.pathLenField 0 []
                rpath.elim (pure ()) fun id => meshSendDirect id r.path r.pathLen 500
              else pure ()) ctx h'
            exact ⟨hpath, by simp⟩
        · have hdata := fun data => filtering_handOver
            (m := onPeerDataRecv packet packet.getPayloadType candidate.2.2 candidate.2.1 data)
            ctx h'
          exact ⟨hdata _, by simp⟩

section

variable [ChecksAs packet packet]

theorem onRecvAck_settles : Settles sha packet .any (onRecvAck packet) := by
  unfold onRecvAck
  infer_instance

set_option synthInstance.maxSize 10000 in
theorem onRecvAnon_settles : Settles sha packet .any (onRecvAnon packet) := by
  unfold onRecvAnon
  infer_instance

theorem onRecvAdvert_settles : Settles sha packet .any (onRecvAdvert packet) := by
  unfold onRecvAdvert
  infer_instance

theorem onRecvPeer_settles : Settles sha packet .any (onRecvPeer packet) := by
  have hfound : ∀ (c : Prop) [Decidable c] (srcHash : UInt8) (bytes : List UInt8) (n : ℕ),
      Settles sha packet .fresh (do
        let found ← (if c then tryPeers packet srcHash bytes n 0 else pure false)
        meshRouteRecvPacket (if found then packet.markDoNotRetransmit else packet)) := by
    refine fun c _ srcHash bytes n => ⟨fun ctx w hsha h => ?_⟩
    rw [Prog.run_bind, Prog.run_ite]
    by_cases hc : c
    · obtain ⟨hfilter, hnone⟩ := tryPeers_stage ctx srcHash bytes n 0 h
      rw [if_pos hc]
      cases hr : (tryPeers packet srcHash bytes n 0 ctx w).1 with
      | false => exact (Settles.routeFresh packet).settles ctx _ hsha (hnone hr)
      | true =>
        simp only [if_true, meshRouteRecvPacket_marked]
        exact ⟨hfilter, fun hne => absurd rfl hne⟩
    · rw [if_neg hc]
      exact (Settles.routeFresh packet).settles ctx w hsha h
  unfold onRecvPeer
  infer_instance

theorem onRecvGroup_settles : Settles sha packet .any (onRecvGroup packet) := by
  have hchannels : ∀ (bytes : List UInt8) (channels : List GroupChannel),
      Settles sha packet .fresh (do
        tryChannels packet bytes channels
        meshRouteRecvPacket packet) := by
    intro bytes channels
    induction channels with
    | nil => exact Settles.routeFresh packet
    | cons channel channels ih =>
      have htail : Settles sha packet .fresh (do
          let data ← utilsMacThenDecrypt channel.secret bytes
          if data.length = 0 then do
            tryChannels packet bytes channels
            meshRouteRecvPacket packet
          else do
            handOver packet
            onGroupDataRecv packet packet.getPayloadType channel data
            meshRouteRecvPacket packet) := inferInstance
      refine ⟨fun ctx w hsha h => ?_⟩
      have hsettles := htail.settles ctx w hsha h
      simp only [tryChannels, Prog.run_bind, Prog.run_ite] at hsettles ⊢
      split at hsettles <;> simp_all
  unfold onRecvGroup
  infer_instance

end

theorem onRecvRawCustom_settles : Settles sha packet .any (onRecvRawCustom packet) := by
  unfold onRecvRawCustom
  rw [isRouteDirect_eq_false, if_pos (by rfl)]
  infer_instance

omit hflood in
theorem ChecksAs.self (hlen : packet.payloadLen ≤ packetPayloadMaxLen)
    (htrace : packet.getPayloadType ≠ payloadTypeTrace)
    (hmulti : packet.getPayloadType ≠ payloadTypeMultipart) : ChecksAs packet packet :=
  ⟨hlen, hashData_eq_dedupData htrace hmulti⟩

variable (hlen : packet.payloadLen ≤ packetPayloadMaxLen)

include hlen in
theorem onRecvMultipart_settles (hmulti : packet.getPayloadType = payloadTypeMultipart) :
    Settles sha packet .any (onRecvMultipart packet) := by
  have : ChecksAs packet (multipartInner packet) :=
    ⟨(Nat.sub_le _ _).trans hlen, hashData_multipartInner hmulti hlen⟩
  unfold onRecvMultipart
  simp only [ite_or]
  infer_instance

include hlen in
theorem onRecvPayload_settles : Settles sha packet .any (onRecvPayload packet) := by
  have hself : ∀ {type : UInt8}, packet.getPayloadType = type → type ≠ payloadTypeTrace →
      type ≠ payloadTypeMultipart → ChecksAs packet packet := by
    rintro _ rfl
    exact ChecksAs.self hlen
  unfold onRecvPayload
  dsimp only
  split
  case isTrue h =>
    have := hself h (by decide) (by decide)
    exact onRecvAck_settles
  split
  case isTrue h =>
    have : ChecksAs packet packet := by
      rcases h with h | h | h | h <;> exact hself h (by decide) (by decide)
    exact onRecvPeer_settles
  split
  case isTrue h =>
    have := hself h (by decide) (by decide)
    exact onRecvAnon_settles
  split
  case isTrue h =>
    have : ChecksAs packet packet := by
      rcases h with h | h <;> exact hself h (by decide) (by decide)
    exact onRecvGroup_settles
  split
  case isTrue h =>
    have := hself h (by decide) (by decide)
    exact onRecvAdvert_settles
  split
  case isTrue => exact onRecvRawCustom_settles
  split
  case isTrue h => exact onRecvMultipart_settles hlen h
  infer_instance

include hlen in
/-- A flood packet in the mesh keeps to the order of the filter. -/
theorem meshOnRecvPacket_settles : Settles sha packet .any (meshOnRecvPacket packet) := by
  have := @onRecvPayload_settles sha packet _ hlen
  unfold meshOnRecvPacket onRecvRouted
  simp only [isRouteDirect_eq_false, Bool.false_eq_true, false_and, if_false]
  infer_instance

end

/-! ### The dispatcher -/

/-- Neither the trace nor the table nor the receive queue changes, nor what is in a buffer. -/
def KeepsInbound (_ : Ctx) (w w' : World) : Prop :=
  w'.trace = w.trace ∧ w'.tables = w.tables ∧
    w'.packetManager.rxQueue = w.packetManager.rxQueue ∧
    w'.packetManager.packetBuf = w.packetManager.packetBuf

instance : Composes KeepsInbound where
  refl _ _ := ⟨rfl, rfl, rfl, rfl⟩
  trans _ _ _ _ h h' :=
    ⟨h'.1.trans h.1, h'.2.1.trans h.2.1, h'.2.2.1.trans h.2.2.1, h'.2.2.2.trans h.2.2.2⟩

instance (priority := low) Moves.keepsInboundOfQuiet {α : Type} (m : M α) [hm : Moves Quiet m] :
    Moves KeepsInbound m where
  moves ctx w := by
    have h := hm.moves ctx w
    rw [Quiet] at h
    rw [h]
    exact ⟨rfl, rfl, rfl, rfl⟩

instance (priority := low) Moves.keepsInboundOfTiming {α : Type} (m : M α) [hm : Moves Timing m] :
    Moves KeepsInbound m where
  moves ctx w := by
    have h := hm.moves ctx w
    rw [Timing] at h
    rw [h]
    exact ⟨rfl, rfl, rfl, rfl⟩

instance (f : Dispatcher → Dispatcher) : Moves KeepsInbound (modifyDispatcher f) :=
  ⟨fun _ _ => ⟨rfl, rfl, rfl, rfl⟩⟩

instance (id : PacketId) : Moves KeepsInbound (modifyManager (·.free id)) :=
  ⟨fun _ w => ⟨rfl, rfl, w.packetManager.rxQueue_free id, w.packetManager.packetBuf_free id⟩⟩

instance (id : PacketId) (pri : UInt8) (scheduledFor : ℕ) :
    Moves KeepsInbound (modifyManager (·.queueOutbound id pri scheduledFor)) :=
  ⟨fun _ _ => ⟨rfl, rfl, PacketQueueManager.rxQueue_queueOutbound ..,
    PacketQueueManager.packetBuf_queueOutbound ..⟩⟩

instance : Moves KeepsInbound allocPacket :=
  ⟨fun _ w => ⟨rfl, rfl, w.packetManager.rxQueue_allocNew, w.packetManager.packetBuf_allocNew⟩⟩

instance (now : ℕ) : Moves KeepsInbound (takePacket (·.getNextOutbound now)) :=
  ⟨fun _ _ => ⟨rfl, rfl, PacketQueueManager.rxQueue_getNextOutbound ..,
    PacketQueueManager.packetBuf_getNextOutbound ..⟩⟩

instance (a : World → Bool) (b : World → ℕ) (c : World → Dispatcher) (d : World → LocalIdentity)
    (e : World → UInt32) (f : World → Correlation) (g : World → Option ℕ)
    (h : World → Option (ℕ × Option ℕ)) (i : World → ℕ) (j : World → List Event)
    (k : World → Bool) :
    Moves KeepsInbound (Prog.modify fun w =>
      ⟨a w, b w, w.packetManager, w.tables, c w, d w, e w, f w, g w, h w, i w, j w, w.trace, k w,
        w.outside⟩) :=
  ⟨fun _ _ => ⟨rfl, rfl, rfl, rfl⟩⟩

instance (id : PacketId) (action : Action) : Moves KeepsInbound (dispatcherSettle id action) := by
  unfold dispatcherSettle; infer_instance

instance (id : PacketId) : Moves KeepsInbound (releaseOutbound id) := by
  unfold releaseOutbound dispatcherReleasePacket; infer_instance

set_option synthInstance.maxSize 10000 in
instance (success : Bool) : Moves KeepsInbound (dispatcherTxDone success) := by
  unfold dispatcherTxDone; infer_instance

set_option synthInstance.maxSize 10000 in
instance (id : PacketId) (now : ℕ) : Moves KeepsInbound (startSend id now) := by
  unfold startSend; infer_instance

instance (now : ℕ) : Moves KeepsInbound (sendNext now) := by unfold sendNext; infer_instance

set_option synthInstance.maxSize 10000 in
instance : Moves KeepsInbound dispatcherCheckSend := by unfold dispatcherCheckSend; infer_instance

instance : Moves KeepsInbound expireOutbound := by unfold expireOutbound; infer_instance

instance (now : ℕ) : Moves KeepsInbound (timerSync now) := by
  unfold timerSync runtimeNextDeadlineGet setTimer; infer_instance

instance : Moves KeepsInbound timerSyncNow := by unfold timerSyncNow; infer_instance

instance : Moves KeepsInbound dispatcherInit := by unfold dispatcherInit; infer_instance

set_option synthInstance.maxSize 10000 in
instance : Moves KeepsInbound runtimeStart := by
  unfold runtimeStart runtimeStateReset; infer_instance

/-! ### Received packets -/

/-- The trace is the log of a filter, and what waits in the receive queue has a length that the
packet hash covers. -/
structure World.FiltersFloods (sha : List UInt8 → PacketHash) (w : World) : Prop where
  filtering : w.Filtering sha
  rxLen : ∀ id ∈ w.packetManager.rxQueue.ids,
    (w.packetManager.packetBuf id).payloadLen ≤ packetPayloadMaxLen

/-- The same, while the buffers `held` are in hand. -/
structure World.Guarded (ctx : Ctx) (sha : List UInt8 → PacketHash) (held : List PacketId)
    (w : World) : Prop where
  pool : w.PoolIntact ctx held
  floods : w.FiltersFloods sha

section

variable {ctx : Ctx} {sha : List UInt8 → PacketHash} {w w' : World} {held : List PacketId}
  {id : PacketId}

theorem KeepsInbound.filtersFloods (h : KeepsInbound ctx w w') (hf : w.FiltersFloods sha) :
    w'.FiltersFloods sha := by
  obtain ⟨htrace, htables, hrx, hbuf⟩ := h
  refine ⟨?_, ?_⟩
  · rw [World.Filtering, htrace, htables]
    exact hf.filtering
  · rw [hrx, hbuf]
    exact hf.rxLen

/-- A program that changes nothing for the filter. -/
theorem World.Guarded.run {α : Type} (m : M α) [hm : Uses Carries [] m fun _ => []]
    [ha : Moves KeepsInbound m] (h : w.Guarded ctx sha held) : (m ctx w).2.Guarded ctx sha held :=
  ⟨(hm.uses ctx w held).2 h.pool, (ha.moves ctx w).filtersFloods h.floods⟩

/-- A buffer in hand is written. -/
theorem World.Guarded.write (h : w.Guarded ctx sha (id :: held)) (packet : Packet) :
    (writePacket id packet ctx w).2.Guarded ctx sha (id :: held) := by
  refine ⟨⟨h.pool.conserves.write packet, h.pool.poolSize, h.pool.reissued⟩, h.floods.filtering,
    fun id' hid' => ?_⟩
  have hne : id' ≠ id := by
    rintro rfl
    exact h.pool.conserves.not_mem_rxQueue (List.mem_cons_self ..) hid'
  show (Function.update w.packetManager.packetBuf id packet id').payloadLen ≤ _
  rw [Function.update_of_ne hne]
  exact h.floods.rxLen id' hid'

/-- A buffer that was just allocated is in hand. -/
theorem World.Guarded.alloc (h : w.Guarded ctx sha [])
    (hid : (allocPacket ctx w).1 = some id) : (allocPacket ctx w).2.Guarded ctx sha [id] := by
  have hpool := ((inferInstance : Uses Carries [] allocPacket Option.toList).uses ctx w []).2 h.pool
  rw [hid] at hpool
  exact ⟨hpool, KeepsInbound.filtersFloods (Moves.moves (m := allocPacket) ctx w) h.floods⟩

/-- What waits in the receive queue has a length that the hash covers. -/
theorem World.Guarded.queueInbound (h : w.Guarded ctx sha held)
    (hlen : (w.packetManager.packetBuf id).payloadLen ≤ packetPayloadMaxLen) (scheduledFor : ℕ) :
    (modifyManager (·.queueInbound id scheduledFor) ctx w).2.FiltersFloods sha := by
  refine ⟨h.floods.filtering, fun id' hid' => ?_⟩
  show ((w.packetManager.queueInbound id scheduledFor).packetBuf id').payloadLen ≤ _
  rw [PacketQueueManager.packetBuf_queueInbound]
  rcases PacketQueueManager.mem_rxQueue_queueInbound _ _ _ hid' with hold | rfl
  · exact h.floods.rxLen id' hold
  · exact hlen

/-- A step of the dispatcher's loop that only the pool and the filter see. -/
theorem World.Guarded.keep {α : Type} (m : M α) [hm : Moves KeepsPool m] [ha : Moves KeepsInbound m]
    (h : w.Guarded ctx sha []) : (m ctx w).2.Guarded ctx sha [] :=
  ⟨hm.moves ctx w h.pool, (ha.moves ctx w).filtersFloods h.floods⟩

variable (ctx) [hsha : FixedHash ctx sha]

/-- The mesh on a packet that was just taken up: the filter's order is kept, and a flood is
retransmitted only when it was accepted. -/
theorem meshOnRecvPacket_filters {packet : Packet} (hf : w.Filtering sha)
    (hlen : packet.payloadLen ≤ packetPayloadMaxLen) :
    let r := meshOnRecvPacket packet ctx w
    r.2.Filtering sha ∧ (packet.isRouteFlood = true → r.1.1 ≠ actionRelease →
      Stage.accepted.Holds sha packet r.2) := by
  by_cases hflood : packet.isRouteFlood = true
  · have : IsFlood packet := ⟨hflood⟩
    obtain ⟨hfilter, haccepted⟩ :=
      (meshOnRecvPacket_settles hlen).settles ctx w hsha ⟨hf, trivial⟩
    exact ⟨hfilter, fun _ => haccepted⟩
  · have : HandsOver (fun _ => False) packet := ⟨fun h => hflood h⟩
    have hs := (inferInstance : Uses (Steps fun _ => False) [] (meshOnRecvPacket packet)
      fun _ => []).uses ctx w []
    exact ⟨hs.filtering hf, fun h => absurd h hflood⟩

theorem meshOnRecvPacket_guarded {packet : Packet} (h : w.Guarded ctx sha held)
    (hlen : packet.payloadLen ≤ packetPayloadMaxLen) :
    (meshOnRecvPacket packet ctx w).2.Guarded ctx sha held := by
  have hs := (inferInstance : Uses (Steps fun _ => True) [] (meshOnRecvPacket packet)
    fun _ => []).uses ctx w held
  have hpool := ((inferInstance : Uses Carries [] (meshOnRecvPacket packet)
    fun _ => []).uses ctx w held).2 h.pool
  refine ⟨hpool, (meshOnRecvPacket_filters ctx h.floods.filtering hlen).1, fun id hid => ?_⟩
  rw [hs.framed.2.2] at hid
  rw [hs.untouched h.pool.conserves hid]
  exact h.floods.rxLen id hid

theorem dispatcherProcessRecvPacket_filters (h : w.Guarded ctx sha [id])
    (hlen : (w.packetManager.packetBuf id).payloadLen ≤ packetPayloadMaxLen) :
    (dispatcherProcessRecvPacket id ctx w).2.FiltersFloods sha := by
  let packet := w.packetManager.packetBuf id
  let w₁ := ((if packet.isRouteFlood then mark (.received packet.floodKey) else pure ()) ctx w).2
  have h₁ : w₁.Guarded ctx sha [id] := by
    simp only [w₁, Prog.run_ite]
    split
    · exact ⟨⟨h.pool.conserves, h.pool.poolSize, h.pool.reissued⟩,
        .snoc h.floods.filtering rfl, h.floods.rxLen⟩
    · exact h
  let r := meshOnRecvPacket packet ctx w₁
  have hmesh := (meshOnRecvPacket_filters ctx h₁.floods.filtering hlen).2
  have hwrite := (meshOnRecvPacket_guarded ctx h₁ hlen).write r.1.2
  let w₂ := (writePacket id r.1.2 ctx r.2).2
  -- the retransmission comes right after what the mesh recorded
  have h₃ : ((if packet.isRouteFlood ∧ r.1.1 ≠ actionRelease then
      mark (.retransmit packet.floodKey) else pure ()) ctx w₂).2.FiltersFloods sha := by
    rw [Prog.run_ite]
    split
    · rename_i hcond
      exact ⟨.snoc hwrite.floods.filtering ⟨(hmesh hcond.1 hcond.2).2, rfl⟩, hwrite.floods.rxLen⟩
    · exact hwrite.floods
  exact KeepsInbound.filtersFloods (Moves.moves (m := dispatcherSettle id r.1.1) ctx _) h₃

/-- A received packet, processed now or queued. -/
theorem dispatcherReceivePacket_filters (packet : Packet) (score : ℚ) (airTime : UInt32)
    (h : w.Guarded ctx sha [id])
    (hlen : (w.packetManager.packetBuf id).payloadLen ≤ packetPayloadMaxLen) :
    (dispatcherReceivePacket id packet score airTime ctx w).2.FiltersFloods sha := by
  have hrun : ∀ {α : Type} (m : M α) [Uses Carries [] m fun _ => []] [Moves KeepsInbound m],
      (m ctx w).2.Guarded ctx sha [id] ∧
        ((m ctx w).2.packetManager.packetBuf id).payloadLen ≤ packetPayloadMaxLen := by
    intro α m _ ha
    refine ⟨h.run m, ?_⟩
    rw [(ha.moves ctx w).2.2.2]
    exact hlen
  rw [dispatcherReceivePacket]
  split
  · have h₁ := hrun (do
      modifyDispatcher fun d => { d with nRecvFlood := d.nRecvFlood + 1 }
      hook fun h => h.rxDelayCalc score airTime)
    simp only [Prog.run_bind, Prog.run_ite]
    split
    · exact dispatcherProcessRecvPacket_filters ctx h₁.1 h₁.2
    · have h₂ := hrun (do
        modifyDispatcher fun d => { d with nRecvFlood := d.nRecvFlood + 1 }
        let delay ← hook fun h => h.rxDelayCalc score airTime
        dispatcherFutureMillis (min delay maxRxDelayMillis))
      exact h₂.1.queueInbound h₂.2 _
  · have h₁ := hrun (modifyDispatcher fun d => { d with nRecvDirect := d.nRecvDirect + 1 })
    exact dispatcherProcessRecvPacket_filters ctx h₁.1 h₁.2

/-- A frame that parses has a payload length that the hash covers. -/
theorem payloadLen_of_tryParsePacket {into : Packet} {raw : List UInt8}
    (h : ((tryParsePacket into raw).getD (false, into)).1 = true) :
    ((tryParsePacket into raw).getD (false, into)).2.payloadLen ≤ packetPayloadMaxLen := by
  cases hparse : tryParsePacket into raw with
  | none => simp [hparse] at h
  | some parsed =>
    obtain ⟨ok, got⟩ := parsed
    obtain rfl : ok = true := by simpa [hparse] using h
    obtain ⟨f, -, -, rfl⟩ := tryParsePacket_eq_true.mp hparse
    exact (f.onto_encodable into).payloadLen_le

theorem dispatcherReceiveParsed_filters (packet : Packet) (rawLength : ℕ) (snr : ℚ)
    (h : w.Guarded ctx sha [id])
    (hlen : (w.packetManager.packetBuf id).payloadLen ≤ packetPayloadMaxLen) :
    (dispatcherReceiveParsed id packet rawLength snr ctx w).2.FiltersFloods sha := by
  let report : M Unit := do
    let score ← radioPacketScore snr rawLength
    let airTime ← hook fun h => h.radioAirtime rawLength
    let ctx ← Prog.env
    modifyDispatcher fun d =>
      { d with rxAirTime := (d.rxAirTime + airTime.toNat) % 2 ^ ctx.ulongBits }
    emit (.logRx packet packet.getRawLength score)
  have hcarries : Uses Carries [] report fun _ => [] := by
    unfold report radioPacketScore; infer_instance
  have hkeepsInbound : Moves KeepsInbound report := by
    unfold report radioPacketScore; infer_instance
  have hbuf : ((report ctx w).2.packetManager.packetBuf id).payloadLen ≤ packetPayloadMaxLen := by
    rw [(hkeepsInbound.moves ctx w).2.2.2]
    exact hlen
  exact dispatcherReceivePacket_filters ctx packet _ _ (h.run report) hbuf

theorem dispatcherReceiveRaw_filters (raw : List UInt8) (rssiDbm : Int16) (snrQ4 : Int8)
    (h : w.Guarded ctx sha []) :
    (dispatcherReceiveRaw raw rssiDbm snrQ4 ctx w).2.FiltersFloods sha := by
  rw [dispatcherReceiveRaw]
  split
  · exact h.floods
  have h₁ := h.run (emit (.logRxRaw (snrQ4.toInt / 4) rssiDbm raw))
  simp only [Prog.run_bind]
  cases hid : (allocPacket ctx (emit (.logRxRaw (snrQ4.toInt / 4) rssiDbm raw) ctx w).2).1 with
  | none =>
    have hkeepsInbound := (inferInstance : Moves KeepsInbound (do
      let _ ← allocPacket
      setErrFlag errEventFull
      pure eNOBUFS)).moves ctx (emit (.logRxRaw (snrQ4.toInt / 4) rssiDbm raw) ctx w).2
    exact hkeepsInbound.filtersFloods h₁.floods
  | some id =>
    have h₂ := h₁.alloc hid
    simp only [Option.elim_some, Prog.run_bind, Prog.run_ite]
    split
    · exact KeepsInbound.filtersFloods (Moves.moves (m := modifyManager (·.free id)) ctx _)
        (h₂.write _).floods
    · rename_i hok
      refine dispatcherReceiveParsed_filters ctx _ _ _ ((h₂.write _).write _) ?_
      rw [packetBuf_writePacket]
      exact payloadLen_of_tryParsePacket (by simpa using hok)

theorem takeInbound_filters (h : w.Guarded ctx sha []) :
    (takeInbound ctx w).2.FiltersFloods sha := by
  have h₁ := h.run clockMillisGet
  rw [takeInbound, Prog.run_bind]
  generalize (clockMillisGet ctx w).1 % 2 ^ 32 = now
  generalize (clockMillisGet ctx w).2 = w₁ at h₁
  have hpool := ((inferInstance : Uses Carries [] (takePacket (·.getNextInbound now))
    Option.toList).uses ctx w₁ []).2 h₁.pool
  have hlen : ∀ id, (takePacket (·.getNextInbound now) ctx w₁).1 = some id ∨
      id ∈ (takePacket (·.getNextInbound now) ctx w₁).2.packetManager.rxQueue.ids →
      ((takePacket (·.getNextInbound now) ctx w₁).2.packetManager.packetBuf id).payloadLen
        ≤ packetPayloadMaxLen := by
    intro id hid
    show ((w₁.packetManager.getNextInbound now).2.packetBuf id).payloadLen ≤ _
    rw [PacketQueueManager.packetBuf_getNextInbound]
    exact h₁.floods.rxLen id (PacketQueueManager.mem_rxQueue_of_getNextInbound _ _ hid)
  have hfloods : (takePacket (·.getNextInbound now) ctx w₁).2.FiltersFloods sha :=
    ⟨h₁.floods.filtering, fun id hid => hlen id (.inr hid)⟩
  rw [Prog.run_bind]
  cases hid : (takePacket (·.getNextInbound now) ctx w₁).1 with
  | none => exact hfloods
  | some id =>
    rw [hid] at hpool
    exact dispatcherProcessRecvPacket_filters ctx ⟨hpool, hfloods⟩ (hlen id (.inl hid))

theorem dispatcherLoop_filters (h : w.Guarded ctx sha []) :
    (dispatcherLoop ctx w).2.FiltersFloods sha := by
  have h₁ := h.keep (do
    floorCalibrate
    let interval ← hook Hooks.agcResetInterval
    trackRecvMode
    expireOutbound)
  rw [dispatcherLoop]
  simp only [Prog.run_bind, Prog.run_ite]
  split
  · exact h₁.floods
  · have h₂ := fun interval => takeInbound_filters ctx (h₁.keep (agcReset interval))
    exact KeepsInbound.filtersFloods (Moves.moves (m := dispatcherCheckSend) ctx _) (h₂ _)

/-! ### Entry points -/

end

/-- The pool stays intact and the trace the log of a filter. -/
def KeepsGuard (sha : List UInt8 → PacketHash) (ctx : Ctx) (w w' : World) : Prop :=
  FixedHash ctx sha → w.Guarded ctx sha [] → w'.Guarded ctx sha []

section

variable {sha : List UInt8 → PacketHash}

instance : Composes (KeepsGuard sha) where
  refl _ _ _ := id
  trans _ _ _ _ h h' hsha := h' hsha ∘ h hsha

instance (priority := low) Moves.keepsGuard {α : Type} (m : M α) [Moves KeepsPool m]
    [Moves KeepsInbound m] : Moves (KeepsGuard sha) m :=
  ⟨fun _ _ _ h => h.keep m⟩

instance : Moves (KeepsGuard sha) dispatcherLoop :=
  ⟨fun ctx w _ h => ⟨Moves.moves (R := KeepsPool) (m := dispatcherLoop) ctx w h.pool,
    dispatcherLoop_filters ctx h⟩⟩

instance (raw : List UInt8) (rssiDbm : Int16) (snrQ4 : Int8) :
    Moves (KeepsGuard sha) (dispatcherReceiveRaw raw rssiDbm snrQ4) :=
  ⟨fun ctx w _ h =>
    ⟨Moves.moves (R := KeepsPool) (m := dispatcherReceiveRaw raw rssiDbm snrQ4) ctx w h.pool,
      dispatcherReceiveRaw_filters ctx raw rssiDbm snrQ4 h⟩⟩

set_option synthInstance.maxSize 10000 in
instance {α : Type} (now : UInt32) (body : M α) [Moves (KeepsGuard sha) body] :
    Moves (KeepsGuard sha) (atTime now body) := by
  unfold atTime clockMillisOverrideSet clockMillisOverrideClear; infer_instance

instance (body : M ℤ) [Moves (KeepsGuard sha) body] :
    Moves (KeepsGuard sha) (whenReady body) := by
  unfold whenReady; infer_instance

instance (now : UInt32) : Moves (KeepsGuard sha) (meshcoreTimerFired now) := by
  unfold meshcoreTimerFired; infer_instance

instance (data : Option (List UInt8)) (rssiDbm : Int16) (snrQ4 : Int8) (now : UInt32) :
    Moves (KeepsGuard sha) (meshcoreRadioRxInject data rssiDbm snrQ4 now) := by
  unfold meshcoreRadioRxInject; infer_instance

instance (now : UInt32) (success : Bool) :
    Moves (KeepsGuard sha) (meshcoreRadioTxDone now success) := by
  unfold meshcoreRadioTxDone; infer_instance

end

section

variable {ctx : Ctx} {sha : List UInt8 → PacketHash} [hsha : FixedHash ctx sha] {w : World}

theorem Requests.filtersFloods {m : M ℤ} (hm : Requests m) (h : w.Guarded ctx sha []) :
    (m ctx w).2.FiltersFloods sha := by
  obtain ⟨w', hs, hw'⟩ := hm.requests ctx w
  have hf : w'.FiltersFloods sha := by
    refine ⟨hs.filtering h.floods.filtering, fun id hid => ?_⟩
    rw [hs.framed.2.2] at hid
    rw [hs.untouched h.pool.conserves hid]
    exact h.floods.rxLen id hid
  rcases hw' with hw' | hw' <;> rw [hw']
  · exact hf
  · exact KeepsInbound.filtersFloods (Moves.moves (m := timerSyncNow) ctx w') hf

omit hsha in
/-- The memory of the filter is emptied with the table. -/
theorem filtersFloods_runtimeEnd (ctx : Ctx) (hf : w.FiltersFloods sha) :
    (runtimeEnd ctx w).2.FiltersFloods sha :=
  ⟨.snoc hf.filtering rfl, fun _ hid => absurd hid List.not_mem_nil⟩

omit hsha in
theorem filtersFloods_runtimeBegin (ctx : Ctx) (hf : w.FiltersFloods sha) :
    (runtimeBegin ctx w).2.FiltersFloods sha := by
  have hprepare : ({ w with
      packetManager := .prepare ctx.maxPoolSize ctx.poolSize } : World).FiltersFloods sha := by
    refine ⟨hf.filtering, fun id hid => ?_⟩
    rw [PacketQueueManager.ids_rxQueue_prepare] at hid
    exact absurd hid List.not_mem_nil
  simp only [runtimeBegin, modifyManager, Prog.run_bind, Prog.run_env, Prog.run_modify,
    Prog.run_gets, Prog.run_ite, Prog.run_pure]
  split
  · exact hprepare
  · refine KeepsInbound.filtersFloods (Moves.moves (m := runtimeStart) ctx _) ?_
    refine KeepsInbound.filtersFloods (Moves.moves (m := dispatcherInit) ctx _) ?_
    exact ⟨.snoc hprepare.filtering rfl, hprepare.rxLen⟩

omit hsha in
theorem filtersFloods_meshcoreInit (ctx : Ctx) (hf : w.FiltersFloods sha) :
    (meshcoreInit ctx w).2.FiltersFloods sha := by
  have hbegin := filtersFloods_runtimeBegin ctx (filtersFloods_runtimeEnd ctx hf)
  simp only [meshcoreInit, Prog.run_bind, Prog.run_gets, Prog.run_ite, Prog.run_pure]
  split
  · exact hf
  · split
    · exact filtersFloods_runtimeEnd ctx hbegin
    · exact hbegin

theorem Op.filtersFloods (op : Op) (hr : Reachable ctx w) (hf : w.FiltersFloods sha) :
    (op.next ctx w).FiltersFloods sha := by
  cases hinit : w.initialized with
  | false =>
    by_cases hne : op = .init
    · subst hne
      exact filtersFloods_meshcoreInit ctx hf
    · rw [op.next_of_not_initialized hinit hne]
      exact hf
  | true =>
    have h : w.Guarded ctx sha [] := ⟨hr.poolIntact hinit, hf⟩
    rcases op.cases_request with rfl | rfl | ⟨now, rfl⟩ | ⟨data, rssi, snr, now, rfl⟩ |
      ⟨now, success, rfl⟩ | hreq
    · exact filtersFloods_meshcoreInit ctx hf
    · rw [Op.next_deinit hinit]
      exact filtersFloods_runtimeEnd ctx hf
    · exact (Moves.moves (R := KeepsGuard sha) (m := meshcoreTimerFired now) ctx w hsha h).floods
    · exact (Moves.moves (R := KeepsGuard sha)
        (m := meshcoreRadioRxInject data rssi snr now) ctx w hsha h).floods
    · exact (Moves.moves (R := KeepsGuard sha)
        (m := meshcoreRadioTxDone now success) ctx w hsha h).floods
    · exact hreq.filtersFloods h

/-- **Every run is a run of the filter.** -/
theorem Reachable.filtersFloods (h : Reachable ctx w) : w.FiltersFloods sha :=
  h.induct (P := World.FiltersFloods sha) ⟨.nil, fun _ hid => absurd hid List.not_mem_nil⟩
    fun _ op hr hf => op.filtersFloods hr hf

end

/-! ### At most once -/

/-- **Every flood at most once.** The host's packet hash is a fixed function that is never zero.
From the reception of the first copy of a flood on, for as long as fewer than 160 other packet
hashes are recorded and the table is not emptied, its payload is handed to the role logic at most
once and at most one retransmission of it is queued. And when this node itself floods a packet its
hash is in the table: from its record on, under the same conditions, no copy that is received is
handed over or retransmitted. -/
theorem flood_at_most_once {ctx : Ctx} {sha : List UInt8 → PacketHash}
    (hsha : ∀ n data, (ctx.hooks n).sha256 packetHashSize data = some (sha data))
    (hnonzero : ∀ data, sha data ≠ Buf.zero _) {w : World} (h : Reachable ctx w) (k : FloodKey) :
    (∀ a part b, w.trace = a ++ .received k :: (part ++ b) → .cleared ∉ part →
      FilterMark.others (floodHash sha k) part < tablesMaxPacketHashes →
        part.count (.handed k) ≤ 1 ∧ part.count (.retransmit k) ≤ 1) ∧
    ∀ t rest, w.trace = t ++ .sent k :: rest →
      ∃ a mid, t = a ++ .recorded (floodHash sha k) :: mid ∧ .cleared ∉ mid ∧
        ∀ part b, rest = part ++ b → .cleared ∉ part →
          FilterMark.others (floodHash sha k) (mid ++ part) < tablesMaxPacketHashes →
            .handed k ∉ part ∧ .retransmit k ∉ part := by
  have : FixedHash ctx sha := ⟨fun n data => by rw [Hooks.packetHash, hsha, Option.getD_some]⟩
  have hfilter : w.Filtering sha := h.filtersFloods.filtering
  rw [World.Filtering] at hfilter
  constructor
  · rintro a part b htrace hclear hfew
    rw [htrace] at hfilter
    exact ⟨hfilter.count_le_one (.inl rfl) hclear hfew, hfilter.count_le_one (.inr rfl) hclear hfew⟩
  · rintro t rest htrace
    rw [htrace] at hfilter
    obtain ⟨r₁, r₂, h₁, hmem, -⟩ := hfilter.admits
    have hstart : floodHash sha k ∉ Tables.init.hashes.slots := fun hzero =>
      hnonzero _ (List.eq_of_mem_replicate hzero)
    obtain ⟨a, mid, rfl, hmid⟩ := h₁.mem_slots hmem hstart
    refine ⟨a, mid, rfl, hmid, ?_⟩
    rintro part b rfl hclear hfew
    have hsent : Filtered (floodHash sha) Tables.init.hashes
        (a ++ .recorded (floodHash sha k) :: (mid ++ .sent k :: (part ++ b))) w.tables.hashes := by
      simpa using hfilter
    have hclear' : FilterMark.cleared ∉ mid ++ part := by simp [hmid, hclear]
    exact ⟨hsent.not_mem_of_sent (.inl rfl) hclear' hfew,
      hsent.not_mem_of_sent (.inr rfl) hclear' hfew⟩

/-- A host with a hash function. -/
def Ctx.hashing : Ctx :=
  { Ctx.silent with
    hooks := fun _ =>
      { Hooks.silent with sha256 := fun n _ => some ⟨List.replicate n 1, List.length_replicate⟩ } }

/-- The flood of an acknowledgement that comes over `hops` one-byte hops. -/
def ackFlood (hops : ℕ) : List UInt8 :=
  [0x0D, UInt8.ofNat hops] ++ List.replicate hops 7 ++ [1, 2, 3, 4]

/-- Two copies that came over different ways. -/
theorem flood_at_most_once_two_ways :
    let w := runOps .hashing .boot
      [.init, .radioRxInject (some (ackFlood 0)) 0 0 5, .radioRxInject (some (ackFlood 2)) 0 0 6]
    (w.trace.drop 3).count (.handed (payloadTypeAck, [1, 2, 3, 4])) ≤ 1 :=
  ((@flood_at_most_once .hashing (fun _ => ⟨List.replicate 8 1, rfl⟩) (fun _ _ => rfl)
    (fun _ => by decide) _ ⟨[.init, .radioRxInject (some (ackFlood 0)) 0 0 5,
      .radioRxInject (some (ackFlood 2)) 0 0 6], rfl⟩ (payloadTypeAck, [1, 2, 3, 4])).1
    [.cleared, .cleared] _ [] (by decide +kernel) (by decide +kernel) (by decide +kernel)).1

end Meshcore
