import Meshcore.DirectRoute

/-!
# From relay to relay

A packet that is sent reaches a node over any number of relays, each of which has what it makes of
the packet retransmitted. A relay changes the path and nothing else, whatever the packet carries, so
what arrives carries what was sent.

## Main definitions

* `Carried` — what the mesh makes of a packet that it does not release
* `Relayed` — from the packet that is sent to a packet that is received
* `AtEnd` — this node is not on the way of the packet but at its end

## Main results

* `Relayed.load`
* `meshOnRecvPacket_delivers`
-/

namespace Meshcore

/-! ### What a relay keeps -/

/-- The mesh changes the path of a packet at most. -/
structure SameLoad (packet packet' : Packet) : Prop where
  header : packet'.header = packet.header
  payloadLen : packet'.payloadLen = packet.payloadLen
  payload : packet'.payload = packet.payload

/-- A packet is released, or it carries what it did. -/
def Carried (packet : Packet) (r : Action × Packet) : Prop :=
  r.1 = actionRelease ∨ SameLoad packet r.2

theorem SameLoad.refl (packet : Packet) : SameLoad packet packet := ⟨rfl, rfl, rfl⟩

instance (packet packet' : Packet) : Returns (Carried packet)
    (pure (actionRelease, packet') : M _) :=
  ⟨fun _ _ => .inl rfl⟩

theorem SameLoad.returns {packet packet' : Packet} (h : SameLoad packet packet') (action : Action) :
    Returns (Carried packet) (pure (action, packet') : M _) := ⟨fun _ _ => .inr h⟩

instance (packet : Packet) : Returns (Carried packet) (meshRouteRecvPacket packet) := by
  have happend : ∀ (selfId : Identity) (action : Action), Returns (Carried packet)
      (pure (action, appendSelfToPath selfId packet) : M _) := fun selfId action =>
    have h : SameLoad packet (appendSelfToPath selfId packet) := ⟨rfl, rfl, rfl⟩
    h.returns action
  unfold meshRouteRecvPacket
  infer_instance

/-- A packet that was for this node goes no further. -/
instance (packet packet' : Packet) :
    Returns (Carried packet) (meshRouteRecvPacket packet'.markDoNotRetransmit) where
  returns ctx w := by
    have hmarked : packet'.markDoNotRetransmit.isMarkedDoNotRetransmit = true := rfl
    rw [meshRouteRecvPacket, hmarked, if_neg (by simp)]
    exact .inl rfl

instance (packet : Packet) (found : Bool) : Returns (Carried packet)
    (meshRouteRecvPacket (if found then packet.markDoNotRetransmit else packet)) := by
  cases found
  · exact (inferInstance : Returns (Carried packet) (meshRouteRecvPacket packet))
  · exact (inferInstance : Returns (Carried packet)
      (meshRouteRecvPacket packet.markDoNotRetransmit))

instance (packet : Packet) : Returns (SameLoad packet) (meshRemoveSelfFromPath packet) where
  returns ctx w := by
    rw [meshRemoveSelfFromPath]
    split
    · exact .refl packet
    · exact ⟨rfl, rfl, rfl⟩

instance (packet : Packet) (hash : List UInt8) (hashSize : ℕ) :
    Returns (Carried packet) (forwardTrace packet hash hashSize) := by
  have hcollect : SameLoad packet { packet with
      path := packet.path.set packet.pathLen.toNat packet.snrQ4.toUInt8
      pathLen := packet.pathLen + 1 } := ⟨rfl, rfl, rfl⟩
  have hpure := hcollect.returns
  unfold forwardTrace
  infer_instance

instance (packet : Packet) : Returns (Carried packet) (onRecvTrace packet) := by
  unfold onRecvTrace; infer_instance

set_option synthInstance.maxSize 10000 in
instance (packet : Packet) : Returns (Carried packet) (onRecvDirectHop packet) := by
  have hforward : Returns (Carried packet) (do
      let packet ← meshRemoveSelfFromPath packet
      let delay ← getDirectRetransmitDelay packet
      pure (actionRetransmitDelayed 0 delay, packet)) :=
    .bind_of_returns (Q := SameLoad packet) fun _ h =>
      have hpure := h.returns
      inferInstance
  unfold onRecvDirectHop
  infer_instance

instance (packet : Packet) : Returns (Carried packet) (onRecvAck packet) := by
  unfold onRecvAck; infer_instance

instance (packet : Packet) : Returns (Carried packet) (onRecvPeer packet) := by
  unfold onRecvPeer; infer_instance

set_option synthInstance.maxSize 10000 in
instance (packet : Packet) : Returns (Carried packet) (onRecvAnon packet) := by
  unfold onRecvAnon; infer_instance

instance (packet : Packet) : Returns (Carried packet) (onRecvGroup packet) := by
  unfold onRecvGroup; infer_instance

set_option synthInstance.maxSize 10000 in
instance (packet : Packet) : Returns (Carried packet) (onRecvAdvert packet) := by
  unfold onRecvAdvert; infer_instance

instance (packet : Packet) : Returns (Carried packet) (onRecvRawCustom packet) := by
  unfold onRecvRawCustom; infer_instance

instance (packet : Packet) : Returns (Carried packet) (onRecvMultipart packet) := by
  unfold onRecvMultipart; infer_instance

instance (packet : Packet) : Returns (Carried packet) (onRecvPayload packet) := by
  unfold onRecvPayload; infer_instance

instance (packet : Packet) : Returns (Carried packet) (onRecvRouted packet) := by
  unfold onRecvRouted; infer_instance

instance (packet : Packet) : Returns (Carried packet) (meshOnRecvPacket packet) := by
  unfold meshOnRecvPacket; infer_instance

/-! ### The way of a packet -/

/-- A packet that was sent reaches a node, at once or over relays each of which had what it made of
the packet retransmitted. -/
inductive Relayed (sent : Packet) : Packet → Prop where
  | heard {snrQ4 got} (hears : Hears sent snrQ4 got) : Relayed sent got
  | relayed {got snrQ4 got' ctx w} (h : Relayed sent got)
      (hresent : (meshOnRecvPacket got ctx w).1.1 ≠ actionRelease)
      (hears : Hears (meshOnRecvPacket got ctx w).1.2 snrQ4 got') : Relayed sent got'

section

variable {sent got packet : Packet} {type : UInt8} {bytes : List UInt8} {ctx : Ctx} {w : World}

theorem SameLoad.load {packet' : Packet} (h : SameLoad packet packet')
    (hload : Load type bytes packet) : Load type bytes packet' :=
  hload.congr (by rw [Packet.getPayloadType, h.header]; rfl) h.payload h.payloadLen

theorem sameLoad_of_resent (h : (meshOnRecvPacket got ctx w).1.1 ≠ actionRelease) :
    SameLoad got (meshOnRecvPacket got ctx w).1.2 :=
  ((inferInstance : Returns (Carried got) (meshOnRecvPacket got)).returns ctx w).resolve_left h

/-- What was sent arrives, whatever way it takes. -/
theorem Relayed.load (h : Relayed sent got) (hload : Load type bytes sent) :
    Load type bytes got := by
  induction h with
  | heard hears => exact hears.load hload
  | relayed _ hresent hears ih => exact hears.load ((sameLoad_of_resent hresent).load ih)

theorem Relayed.encodable (h : Relayed sent got) : got.Encodable := by
  cases h with
  | heard hears => exact hears.fields.encodable
  | relayed _ _ hears => exact hears.fields.encodable

/-- A relay does not turn a flood into anything else, nor a direct packet. -/
theorem Relayed.getRouteType_eq (h : Relayed sent got) : got.getRouteType = sent.getRouteType := by
  induction h with
  | heard hears => exact hears.getRouteType_eq
  | @relayed got' _ _ ctx w _ hresent hears ih =>
    rw [hears.getRouteType_eq, Packet.getRouteType, (sameLoad_of_resent hresent).header]
    exact ih

/-! ### At the end of its way -/

/-- No event goes out, the clock stays, and no answer of the host is taken back. -/
structure Silent (_ : Ctx) (w w' : World) : Prop where
  events : w'.events = w.events
  clock : w'.millisOverride = w.millisOverride
  tick_le : w.tick ≤ w'.tick

instance : Composes Silent where
  refl _ _ := ⟨rfl, rfl, le_rfl⟩
  trans _ _ _ _ h h' :=
    ⟨h'.events.trans h.events, h'.clock.trans h.clock, h.tick_le.trans h'.tick_le⟩

instance (priority := low) Moves.silentOfMute {α : Type} (m : M α) [hm : Moves Mute m] :
    Moves Silent m where
  moves ctx w :=
    have hmute := hm.moves ctx w
    ⟨hmute.1, hmute.2.2.1, hmute.2.2.2.2.2⟩

instance (inside : Prop) [Decidable inside] : Moves Silent (access inside) :=
  ⟨fun _ _ => ⟨rfl, rfl, le_rfl⟩⟩

/-- Nobody is told that a packet goes on. -/
instance (packet : Packet) : Moves Silent (meshRouteRecvPacket packet) := by
  unfold meshRouteRecvPacket; infer_instance

instance (packet : Packet) (i n : ℕ) : Moves Silent (payloadRead packet i n) := by
  unfold payloadRead; infer_instance

instance (packet : Packet) (i : ℕ) : Moves Silent (payloadByte packet i) := by
  unfold payloadByte; infer_instance

instance (packet : Packet) : Moves Silent (accessInner packet) := by
  unfold accessInner; infer_instance

instance (packet : Packet) (id : PacketId) (delayMillis : UInt32) :
    Moves Silent (sendAckAlong packet id delayMillis) := by
  unfold sendAckAlong; infer_instance

theorem routeExtraAcks_silent (packet : Packet) (n : ℕ) (delayMillis : UInt32) :
    Moves Silent (routeExtraAcks packet n delayMillis) := by
  induction n generalizing delayMillis with
  | zero => unfold routeExtraAcks; infer_instance
  | succ n ih => unfold routeExtraAcks; infer_instance

attribute [instance] routeExtraAcks_silent

instance (packet : Packet) (delayMillis : UInt32) :
    Moves Silent (meshRouteDirectRecvAcks packet delayMillis) := by
  unfold meshRouteDirectRecvAcks; infer_instance

/-- This node is no relay of the packet: it is a flood, or a direct packet without further hops. -/
def AtEnd (packet : Packet) : Prop := packet.isRouteDirect = true → packet.getPathHashCount = 0

/-- The host lets this flood pass. -/
def Hooks.Passes (packet : Packet) (hooks : Hooks) : Prop :=
  hooks.filterRecvFloodPacket packet = false

/-- At the end of its way the payload of a packet is looked at, be it a flood or not. -/
theorem meshOnRecvPacket_delivers (hend : AtEnd packet)
    (htrace : packet.getPayloadType ≠ payloadTypeTrace)
    (hcontrol : packet.getPayloadType ≠ payloadTypeControl)
    (hpasses : (ctx.hooks w.tick).Passes packet) :
    ∃ w', Asks ctx w w' ∧ meshOnRecvPacket packet ctx w = onRecvPayload packet ctx w' := by
  by_cases hdirect : packet.isRouteDirect = true
  · exact ⟨w, Composes.refl ctx w, meshOnRecvPacket_arrives hdirect (hend hdirect) htrace hcontrol⟩
  · have hfilter : ((if packet.isRouteFlood then hook fun h => h.filterRecvFloodPacket packet
        else pure false : M Bool) ctx w).1 = false := by
      split
      · exact hpasses
      · rfl
    refine ⟨_, (inferInstance : Moves Asks (if packet.isRouteFlood then
      hook fun h => h.filterRecvFloodPacket packet else pure false : M Bool)).moves ctx w, ?_⟩
    rw [meshOnRecvPacket, if_neg fun h => hdirect h.1, if_neg fun h => hdirect h.1, onRecvRouted,
      if_neg fun h => hdirect h.1, Prog.run_bind, hfilter]
    rfl

/-- No hash that the host may compute for this packet is in the table. -/
def Unseen (packet : Packet) (ctx : Ctx) (w : World) : Prop :=
  ∀ n, w.tick ≤ n → (tablesHasSeen packet ctx { w with tick := n }).1 = false

theorem Unseen.after {w' : World} (h : Unseen packet ctx w) (hasks : Asks ctx w w') :
    (tablesHasSeen packet ctx w').1 = false := by
  rw [hasks.1]
  exact h _ hasks.2

end

end Meshcore
