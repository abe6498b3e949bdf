import Meshcore.Duplicates
import Meshcore.FloodPath
import Meshcore.ForwardPolicy

/-!
# Priority and delay of a retransmission

The mesh answers the dispatcher with one word: the priority, plus one, in the high byte, and the
delay of the policy below it. The dispatcher takes it apart again, and reads 24 bits of delay. The
macro that builds the word puts no bound on the delay, and neither does the policy, so from `2 ^ 24`
milliseconds on the packet is queued for another time, and perhaps with another priority.

## Main definitions

* `relayPriority`, `relayDelay` — what the mesh chooses for a packet that it sends on
* `Relays` — the mesh decided to retransmit

## Main results

* `relays_meshOnRecvPacket` — the mesh releases a packet, or relays it with these values
* `retransmission_kept_iff` — when the dispatcher queues it with the same
-/

namespace Meshcore

/-! ### What the mesh decides -/

/-- The priority of a packet that goes on as `next`. -/
def relayPriority (packet next : Packet) : UInt8 :=
  if packet.isRouteFlood then next.getPathHashCount
  else if packet.getPayloadType = payloadTypeTrace then 5
  else 0

/-- The policy is asked for the delay of what goes on. -/
def relayDelay (packet next : Packet) : M UInt32 :=
  if packet.isRouteFlood then getRetransmitDelay next else getDirectRetransmitDelay next

/-- The mesh decided to retransmit `packet`, with `delay` as the last answer of the policy. -/
structure Relays (ctx : Ctx) (packet : Packet) (r : (Action × Packet) × World) (delay : UInt32) :
    Prop where
  asked : ∃ w, relayDelay packet r.1.2 ctx w = (delay, r.2)
  action : r.1.1 = actionRetransmitDelayed (relayPriority packet r.1.2) delay

/-- A handler of `packet` that releases it or relays it. -/
class Decides (packet : Packet) (m : M (Action × Packet)) : Prop where
  decides : ∀ ctx w, (m ctx w).1.1 = actionRelease ∨ ∃ delay, Relays ctx packet (m ctx w) delay

namespace Decides

variable {packet : Packet}

instance bind {α : Type} (m : M α) (f : α → M (Action × Packet)) [hf : ∀ a, Decides packet (f a)] :
    Decides packet (m >>= f) where
  decides ctx w := (hf (m ctx w).1).decides ctx (m ctx w).2

instance ite (c : Prop) [Decidable c] (m n : M (Action × Packet)) [hm : Decides packet m]
    [hn : Decides packet n] : Decides packet (if c then m else n) := by
  split
  · exact hm
  · exact hn

instance release (packet' : Packet) : Decides packet (pure (actionRelease, packet')) :=
  ⟨fun _ _ => .inl rfl⟩

end Decides

section

variable (packet : Packet)

instance : Decides packet (meshRouteRecvPacket packet) where
  decides ctx w := by
    rcases meshRouteRecvPacket_cases packet ctx w with hrelease | ⟨hflood, -, -, -, hrelay⟩
    · exact .inl (congrArg Prod.fst hrelease)
    · let w' := (allowPacketForward packet ctx w).2
      let next := appendSelfToPath w'.selfId.identity packet
      change meshRouteRecvPacket packet ctx w
        = ((actionRetransmitDelayed next.getPathHashCount (getRetransmitDelay next ctx w').1, next),
          (getRetransmitDelay next ctx w').2) at hrelay
      rw [hrelay]
      refine .inr ⟨(getRetransmitDelay next ctx w').1, ⟨w', ?_⟩, ?_⟩
      · rw [relayDelay, if_pos hflood]
      · rw [relayPriority, if_pos hflood]

/-- A packet that was delivered goes no further. -/
instance : Decides packet (meshRouteRecvPacket packet.markDoNotRetransmit) where
  decides ctx w := by
    rw [meshRouteRecvPacket_marked]
    exact .inl rfl

instance (found : Bool) :
    Decides packet
      (meshRouteRecvPacket (if found then packet.markDoNotRetransmit else packet)) := by
  cases found with
  | false => exact inferInstanceAs (Decides packet (meshRouteRecvPacket packet))
  | true => exact inferInstanceAs (Decides packet (meshRouteRecvPacket packet.markDoNotRetransmit))

/-- The end of a handler for direct packets. -/
theorem relays_direct (hdirect : packet.isRouteDirect = true) (next : Packet) {pri : UInt8}
    (hpri : (if packet.getPayloadType = payloadTypeTrace then 5 else 0) = pri) :
    Decides packet (do
      let delay ← getDirectRetransmitDelay next
      pure (actionRetransmitDelayed pri delay, next)) where
  decides ctx w := by
    have hflood := Packet.isRouteFlood_of_direct hdirect
    refine .inr ⟨(getDirectRetransmitDelay next ctx w).1, ⟨w, ?_⟩, ?_⟩
    · rw [relayDelay, hflood]
      rfl
    · rw [relayPriority, hflood, ← hpri]
      rfl

theorem onRecvTrace_decides (hdirect : packet.isRouteDirect = true)
    (htrace : packet.getPayloadType = payloadTypeTrace) : Decides packet (onRecvTrace packet) := by
  have := fun next => relays_direct packet hdirect next (if_pos htrace)
  have : ∀ hash hashSize, Decides packet (forwardTrace packet hash hashSize) := by
    intro hash hashSize
    unfold forwardTrace
    infer_instance
  unfold onRecvTrace
  infer_instance

set_option synthInstance.maxSize 10000 in
theorem onRecvDirectHop_decides (hdirect : packet.isRouteDirect = true)
    (htrace : packet.getPayloadType ≠ payloadTypeTrace) :
    Decides packet (onRecvDirectHop packet) := by
  have := fun next => relays_direct packet hdirect next (if_neg htrace)
  unfold onRecvDirectHop
  infer_instance

set_option synthInstance.maxSize 10000 in
instance : Decides packet (onRecvPayload packet) := by
  unfold onRecvPayload onRecvAck onRecvPeer onRecvAnon onRecvGroup onRecvAdvert onRecvRawCustom
    onRecvMultipart
  infer_instance

/-- A packet that is no direct trace gets no priority of a trace. -/
theorem onRecvRouted_decides
    (htrace : packet.isRouteDirect = true → packet.getPayloadType ≠ payloadTypeTrace) :
    Decides packet (onRecvRouted packet) := by
  rw [onRecvRouted]
  split
  · rename_i hhop
    exact onRecvDirectHop_decides packet hhop.1 (htrace hhop.1)
  · infer_instance

/-- The mesh releases a packet, or relays it with the priority and the delay that are its own. -/
theorem relays_meshOnRecvPacket : Decides packet (meshOnRecvPacket packet) := by
  rw [meshOnRecvPacket]
  split
  · rename_i htrace
    exact onRecvTrace_decides packet htrace.1 htrace.2
  · rename_i htrace
    have := onRecvRouted_decides packet fun hdirect htype => htrace ⟨hdirect, htype⟩
    infer_instance

end

/-! ### What the dispatcher makes of it -/

theorem relayPriority_lt (packet next : Packet) : relayPriority packet next < 255 := by
  rw [relayPriority]
  split
  · exact next.getPathHashCount_lt_255
  · split <;> decide

/-- The dispatcher reads the low 24 bits of the delay. -/
theorem toNat_and_actionRetransmitDelayed {pri : UInt8} (hpri : pri < 255) (delay : UInt32) :
    (actionRetransmitDelayed pri delay &&& 0x00FFFFFF).toNat = delay.toNat % 2 ^ 24 := by
  rw [UInt32.toNat_and, show (0x00FFFFFF : UInt32).toNat = 2 ^ 24 - 1 from rfl,
    Nat.and_two_pow_sub_one_eq_mod, actionRetransmitDelayed, UInt32.toNat_or,
    Nat.or_mod_two_pow, toNat_priorityByte hpri, Nat.mul_mod_left, Nat.zero_or]

/-- A time that is some milliseconds away, and the same taken modulo 24 bits. -/
theorem scheduled_eq_iff {bits : ℕ} (hbits : bits = 32 ∨ bits = 64) (now : ℕ) (delay : UInt32) :
    ((now + (delay.toNat % 2 ^ 24 : ℕ) : ℤ) % 2 ^ bits).toNat % 2 ^ 32
        = (now + delay.toNat) % 2 ^ 32 ↔ delay.toNat < 2 ^ 24 := by
  have hlt := delay.toNat_lt
  rcases hbits with rfl | rfl <;> omega

/-- What an entry of the send queue should say of a packet that is relayed. -/
def Keeps (entry : QueueEntry) (pri : UInt8) (now : ℕ) (delay : UInt32) : Prop :=
  entry.priority = pri ∧ entry.scheduledFor = (now + delay.toNat) % 2 ^ 32

/-- The state in which the mesh is shown a packet. -/
def World.takenUp (packet : Packet) (w : World) : World :=
  if packet.isRouteFlood then { w with trace := w.trace ++ [.received packet.floodKey] } else w

/-- What the dispatcher does with a packet that goes on: it is queued, and nothing else. -/
theorem dispatcherSettle_queues {ctx : Ctx} {w : World} {id : PacketId} {action : Action}
    (hrelease : action ≠ actionRelease) (hhold : action ≠ actionManualHold)
    (hpool : w.PoolIntact ctx [id]) :
    let w' := (dispatcherSettle id action ctx w).2
    w'.packetManager.packetBuf id = w.packetManager.packetBuf id ∧
      w'.packetManager.sendQueue.entries = w.packetManager.sendQueue.entries ++
        [⟨id, actionPriority action,
          (((clockMillisGet ctx w).1 + ((action &&& 0x00FFFFFF).toNat : ℤ)) % 2 ^
            ctx.ulongBits).toNat % 2 ^ 32⟩] := by
  have hasks := (inferInstance : Moves Asks
    (dispatcherFutureMillis (action &&& 0x00FFFFFF).toNat)).moves ctx w
  have hsame : (dispatcherFutureMillis (action &&& 0x00FFFFFF).toNat ctx w).2.packetManager
      = w.packetManager := by rw [hasks.1]
  have hc := hpool.conserves.queueOutbound (actionPriority action)
    ((dispatcherFutureMillis (action &&& 0x00FFFFFF).toNat ctx w).1 % 2 ^ 32)
  dsimp only
  rw [dispatcherSettle, if_neg hrelease, if_neg hhold]
  simp only [modifyManager, Prog.run_bind, Prog.run_modify, hsame]
  exact ⟨by rw [PacketQueueManager.packetBuf_queueOutbound], hc.2⟩

/-- **The priority and the delay of a retransmission.** The mesh releases a packet that was
received, or decides to relay it with a priority and a delay of its own. What it decides to relay is
never taken for a packet to release or to hold: it ends up at the end of the send queue, as the mesh
left it. And the entry there has that priority and is due after that delay if and only if the delay
is shorter than `2 ^ 24` milliseconds. -/
theorem retransmission_kept_iff {ctx : Ctx} {w : World} {id : PacketId}
    (hpool : w.PoolIntact ctx [id]) :
    let packet := w.packetManager.packetBuf id
    let r := meshOnRecvPacket packet ctx (w.takenUp packet)
    let w' := (dispatcherProcessRecvPacket id ctx w).2
    (r.1.1 = actionRelease ∨ ∃ delay, Relays ctx packet r delay) ∧
      ∀ delay, Relays ctx packet r delay →
        r.1.1 ≠ actionRelease ∧ r.1.1 ≠ actionManualHold ∧ w'.packetManager.packetBuf id = r.1.2 ∧
          ∃ entry, w'.packetManager.sendQueue.entries
              = r.2.packetManager.sendQueue.entries ++ [entry] ∧ entry.packet = id ∧
            (Keeps entry (relayPriority packet r.1.2) (clockMillisGet ctx r.2).1 delay ↔
              delay.toNat < 2 ^ 24) := by
  obtain ⟨packet, hpacket⟩ : ∃ packet, packet = w.packetManager.packetBuf id := ⟨_, rfl⟩
  obtain ⟨r, hr⟩ : ∃ r, r = meshOnRecvPacket packet ctx (w.takenUp packet) := ⟨_, rfl⟩
  dsimp only
  rw [← hpacket, ← hr]
  refine ⟨hr ▸ (relays_meshOnRecvPacket packet).decides ctx _, fun delay hrelays => ?_⟩
  have hpri := relayPriority_lt packet r.1.2
  have hword := two_pow_le_actionRetransmitDelayed hpri delay
  rw [← hrelays.action] at hword
  have hrelease : r.1.1 ≠ actionRelease := by
    intro h
    rw [h] at hword
    exact absurd hword (by decide)
  have hhold : r.1.1 ≠ actionManualHold := by
    intro h
    rw [h] at hword
    exact absurd hword (by decide)
  -- the buffer stays in the dispatcher's hand while the mesh looks at the packet
  have htaken : (w.takenUp packet).PoolIntact ctx [id] := by
    rw [World.takenUp]
    split
    · exact ⟨hpool.conserves, hpool.poolSize, hpool.reissued⟩
    · exact hpool
  have hmesh : r.2.PoolIntact ctx [id] := by
    rw [hr]
    exact ((inferInstance : Uses Carries [] (meshOnRecvPacket packet)
      fun _ => []).uses ctx (w.takenUp packet) [id]).2 htaken
  let w₂ := ((if packet.isRouteFlood ∧ r.1.1 ≠ actionRelease then
    mark (.retransmit packet.floodKey) else pure ()) ctx (writePacket id r.1.2 ctx r.2).2).2
  have hw₂ : w₂.PoolIntact ctx [id] ∧ w₂.packetManager = r.2.packetManager.write id r.1.2 ∧
      w₂.millisOverride = r.2.millisOverride ∧ w₂.tick = r.2.tick := by
    simp only [w₂, Prog.run_ite]
    split <;>
      exact ⟨⟨hmesh.conserves.write r.1.2, hmesh.poolSize, hmesh.reissued⟩, rfl, rfl, rfl⟩
  have hrun : dispatcherProcessRecvPacket id ctx w = dispatcherSettle id r.1.1 ctx w₂ := by
    have htake :
        (if packet.isRouteFlood then mark (.received packet.floodKey) else pure () : M Unit)
        ctx w = ((), w.takenUp packet) := by
      rw [Prog.run_ite, World.takenUp]
      split <;> rfl
    have hread : readPacket id ctx w = (packet, w) := by
      rw [hpacket]
      rfl
    rw [dispatcherProcessRecvPacket, Prog.run_bind_of hread, Prog.run_bind_of htake, Prog.run_bind,
      ← hr]
    rfl
  have hclock : (clockMillisGet ctx w₂).1 = (clockMillisGet ctx r.2).1 := by
    simp only [clockMillisGet, Prog.run_bind, Prog.run_gets, Prog.run_env, hw₂.2.2.1]
    cases r.2.millisOverride with
    | none => simp [hook, hw₂.2.2.2]
    | some now => rfl
  obtain ⟨hbuf, hqueue⟩ := dispatcherSettle_queues hrelease hhold hw₂.1
  rw [← hrun, hw₂.2.1] at hbuf hqueue
  refine ⟨hrelease, hhold, hbuf.trans (by simp [PacketQueueManager.write]), _, hqueue, rfl, ?_⟩
  rw [hrelays.action, hclock, toNat_and_actionRetransmitDelayed hpri, Keeps,
    actionPriority_eq_iff hpri, scheduled_eq_iff ctx.ulongBits_eq]
  exact ⟨And.right, fun hlt => ⟨delayFits_of_lt hlt, hlt⟩⟩

/-- A repeater whose policy stretches the air time of 100 ms by `factor`. -/
def Ctx.delaying (factor : ℚ) : Ctx :=
  { Ctx.silent with
    hooks := fun _ =>
      { Hooks.silent with
        nodeIdentity := (0, .repeater)
        nodeRuntimePolicy := some { RuntimePolicy.strict with txDelayFactor := factor }
        sha256 := fun size _ => some ((Buf.zero size).set 0 1)
        radioAirtime := fun _ => 100
        rngRandom := fun size => (Buf.zero size).set 3 1 } }

/-- An acknowledgement that came over two hops. -/
def relayedAck : Packet := { floodAfter 2 with header := 0x0D, payloadLen := 4 }

/-- A node that has just started has this packet in hand, at the time 1000. -/
def World.handed (ctx : Ctx) (packet : Packet) : World :=
  { (writePacket 0 packet ctx (allocPacket ctx (Op.next ctx .boot .init)).2).2 with
    millisOverride := some 1000 }

theorem poolIntact_handed {ctx : Ctx} (packet : Packet)
    (hready : (Op.next ctx .boot .init).initialized = true)
    (hfirst : (allocPacket ctx (Op.next ctx .boot .init)).1 = some 0) :
    (World.handed ctx packet).PoolIntact ctx [0] := by
  have hstart : (Op.next ctx .boot .init).PoolIntact ctx [] :=
    Reachable.poolIntact ⟨[.init], rfl⟩ hready
  have halloc : (allocPacket ctx (Op.next ctx .boot .init)).2.PoolIntact ctx
      ((allocPacket ctx (Op.next ctx .boot .init)).1.toList ++ []) :=
    ((inferInstance : Uses Carries [] allocPacket Option.toList).uses ctx _ []).2 hstart
  rw [hfirst] at halloc
  exact ⟨halloc.conserves.write packet, halloc.poolSize, halloc.reissued⟩

/-- The repeater draws a delay that depends on the factor only. -/
theorem relayDelay_delaying (factor : ℚ) (next : Packet) (w : World) :
    (relayDelay relayedAck next (.delaying factor) w).1
      = (randomizedDelay 100 factor (.delaying factor) .boot).1 := by
  have hrun : (getRetransmitDelay next (.delaying factor) w).1
      = (randomizedDelay 100 factor (.delaying factor) { w with tick := w.tick + 3 }).1 := rfl
  rw [relayDelay, if_pos (by decide), hrun]
  simp only [randomizedDelay, rngNextInt, Prog.run_bind, Prog.run_env, Prog.run_ite, Prog.run_pure]
  split <;> rfl

theorem relays_delaying {factor : ℚ} {w : World}
    (hgoes : (meshOnRecvPacket relayedAck (.delaying factor) w).1.1 ≠ actionRelease) :
    Relays (.delaying factor) relayedAck (meshOnRecvPacket relayedAck (.delaying factor) w)
      (randomizedDelay 100 factor (.delaying factor) .boot).1 := by
  obtain ⟨delay, hrelays⟩ :=
    ((relays_meshOnRecvPacket relayedAck).decides (.delaying factor) w).resolve_left hgoes
  obtain ⟨w', hasked⟩ := hrelays.asked
  rw [← relayDelay_delaying factor _ w', hasked]
  exact hrelays

/-- A delay of 125 ms is kept. -/
theorem retransmission_kept_short :
    ∃ before entry, (dispatcherProcessRecvPacket 0 (.delaying (1 / 2))
        (.handed (.delaying (1 / 2)) relayedAck)).2.packetManager.sendQueue.entries
          = before ++ [entry] ∧
      Keeps entry 3 1000 125 := by
  have hdelay : (randomizedDelay 100 (1 / 2) (.delaying (1 / 2)) .boot).1 = 125 := by decide +kernel
  obtain ⟨-, -, -, entry, hqueue, -, hkeeps⟩ := (@retransmission_kept_iff (.delaying (1 / 2))
    (.handed (.delaying (1 / 2)) relayedAck) 0
    (poolIntact_handed _ (by decide +kernel) (by decide +kernel))).2 125
      (hdelay ▸ relays_delaying (by decide +kernel))
  have hkept := hkeeps.mpr (by decide)
  exact ⟨_, entry, hqueue, hkept.1.trans (by decide +kernel), hkept.2.trans (by decide +kernel)⟩

/-- A delay of `2 ^ 24` milliseconds is lost, and the priority goes from 3 to 4. -/
theorem retransmission_not_kept :
    let r := meshOnRecvPacket relayedAck (.delaying 40000)
      ((World.handed (.delaying 40000) relayedAck).takenUp relayedAck)
    Relays (.delaying 40000) relayedAck r 0x1000000 ∧ relayPriority relayedAck r.1.2 = 3 ∧
      (dispatcherProcessRecvPacket 0 (.delaying 40000)
        (.handed (.delaying 40000) relayedAck)).2.packetManager.sendQueue.entries
          = [⟨0, 4, 1000⟩] := by
  have hdelay : (randomizedDelay 100 40000 (.delaying 40000) .boot).1 = 0x1000000 := by
    decide +kernel
  exact ⟨hdelay ▸ relays_delaying (by decide +kernel), by decide +kernel, by decide +kernel⟩

end Meshcore
