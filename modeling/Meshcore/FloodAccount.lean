import Meshcore.FloodFrames
import Meshcore.LearntRoute

/-!
# The account of a flood

What lets a packet of a flood into the send queue is marked, so the account holds while the mesh and
the requests run. The dispatcher adds a mark when it takes up a packet, and one when it retransmits
it; the frame that goes to the radio is that of the packet that leaves the queue. The account is
kept by every call, whatever the node hears, if only floods from `heard` are heard. So is the bound
on the hops that a flood records: with each retransmission it may record one more.

## Main definitions

* `World.Spread` — the bound on the hops
* `World.Booked` — the account and the bound, with buffers in hand
* `Accounts` — what keeps both, and the trace goes on

## Main results

* `Op.keepsAccount` — every call keeps the account
-/

set_option synthInstance.maxSize 10000

namespace Meshcore

/-! ### What the radio does not get -/

/-- No frame goes to the radio. -/
def KeepsFrames (_ : Ctx) (w w' : World) : Prop := w'.frames = w.frames

instance : Composes KeepsFrames where
  refl _ _ := rfl
  trans _ _ _ _ h h' := Eq.trans h' h

/-- The frames are events of the air. -/
theorem filterMap_frame_filter_isAir (events : List Event) :
    (events.filter Event.isAir).filterMap Event.frame = events.filterMap Event.frame := by
  rw [List.filterMap_filter]
  refine List.filterMap_congr fun e _ => ?_
  cases e <;> rfl

theorem frames_congr {w w' : World} (h : w'.air = w.air) : w'.frames = w.frames := by
  rw [World.frames, World.frames, ← filterMap_frame_filter_isAir,
    ← filterMap_frame_filter_isAir w.events]
  exact congrArg (List.filterMap Event.frame) h

instance (priority := low) Moves.keepsFramesOfKeepsAir {α : Type} (m : M α)
    [hm : Moves KeepsAir m] :
    Moves KeepsFrames m := ⟨fun ctx w => frames_congr (hm.moves ctx w).air⟩

theorem keepsFrames_emit {e : Event} (he : e.frame = none) : Moves KeepsFrames (emit e) where
  moves _ w := by
    show (w.events ++ [e]).filterMap Event.frame = w.events.filterMap Event.frame
    simp [he]

instance (packet : Packet) (n : ℕ) : Moves KeepsFrames (emit (.logTx packet n)) :=
  keepsFrames_emit rfl

instance (packet : Packet) (n : ℕ) : Moves KeepsFrames (emit (.logTxFail packet n)) :=
  keepsFrames_emit rfl

instance (f : Dispatcher → Dispatcher) : Moves KeepsFrames (modifyDispatcher f) := ⟨fun _ _ => rfl⟩

instance (packet : Packet) : Moves KeepsFrames (countSent packet) := by
  unfold countSent; infer_instance

instance (id : PacketId) : Moves KeepsFrames (releaseOutbound id) := by
  unfold releaseOutbound dispatcherReleasePacket; infer_instance

instance (success : Bool) : Moves KeepsFrames (dispatcherTxDone success) := by
  unfold dispatcherTxDone; infer_instance

instance : Moves KeepsFrames expireOutbound := by unfold expireOutbound; infer_instance

/-! ### What the send queue does not get -/

instance (priority := low) Moves.unsentOfTiming {α : Type} (m : M α) [hm : Moves Timing m] :
    Moves Unsent m where
  moves ctx w := by
    rw [hm.moves ctx w]
    rfl

instance (success : Bool) : Moves Unsent (dispatcherTxDone success) := by
  unfold dispatcherTxDone countSent; infer_instance

instance : Moves Unsent expireOutbound := by unfold expireOutbound; infer_instance

instance (a : World → Bool) (b : World → ℕ) (c : World → Tables) (d : World → Dispatcher)
    (e : World → LocalIdentity) (f : World → UInt32) (g : World → Correlation)
    (h : World → Option ℕ) (i : World → Option (ℕ × Option ℕ)) (j : World → ℕ)
    (k : World → List Event) (l : World → List Mark) (m n : World → Bool) :
    Moves Unsent (Prog.modify fun w =>
      ⟨a w, b w, w.packetManager, c w, d w, e w, f w, g w, h w, i w, j w, k w, l w, m w, n w⟩) :=
  ⟨fun _ _ => rfl⟩

/-! ### The account -/

/-- A flood records no more hops than it was retransmitted, at other nodes and at this one. -/
def World.Within (others : FloodKey → ℕ) (w : World) (x : FloodKey × ℕ) : Prop :=
  x.2 ≤ others x.1 + w.trace.count (.retransmit x.1)

/-- This holds of all floods that the node has. -/
structure World.Spread (others : FloodKey → ℕ) (w : World) : Prop where
  sent : ∀ x ∈ w.frames.filterMap frameHops, w.Within others x
  queued : ∀ x ∈ w.queued Packet.hops, w.Within others x
  waiting : ∀ id ∈ w.packetManager.rxQueue.ids, ∀ x, (w.packetManager.packetBuf id).hops = some x →
    w.Within others x

/-- A packet may come in. -/
structure World.Admits (heard : FloodKey → Prop) (others : FloodKey → ℕ) (w : World)
    (packet : Packet) :
    Prop where
  floods : ∀ k, packet.flood = some k → heard k
  hops : ∀ x, packet.hops = some x → w.Within others x

section

variable {heard heard' : FloodKey → Prop} {others : FloodKey → ℕ} {ctx : Ctx} {w w' : World}
  {k : FloodKey} {packet packet' : Packet}

theorem World.Within.later {x : FloodKey × ℕ} (h : w.Within others x)
    (htrace : w.trace <+: w'.trace) :
    w'.Within others x :=
  Nat.le_trans h (Nat.add_le_add_left (htrace.sublist.count_le _) _)

theorem World.Admits.later (h : w.Admits heard others packet) (htrace : w.trace <+: w'.trace) :
    w'.Admits heard others packet := ⟨h.floods, fun x hx => (h.hops x hx).later htrace⟩

theorem World.Accounted.mono (ha : w.Accounted heard) (hle : ∀ k, heard k → heard' k) :
    w.Accounted heard' :=
  ⟨ha.frames, fun k hk => hle k (ha.known k hk), fun id hid k hk => hle k (ha.waiting id hid k hk)⟩

theorem World.Spread.mono {others' : FloodKey → ℕ} (hs : w.Spread others)
    (hle : ∀ k, others k ≤ others' k) :
    w.Spread others' := by
  have hmore : ∀ x, w.Within others x → w.Within others' x := fun x hx =>
    Nat.le_trans hx (Nat.add_le_add_right (hle x.1) _)
  exact ⟨fun x hx => hmore x (hs.sent x hx), fun x hx => hmore x (hs.queued x hx),
    fun id hid x hx => hmore x (hs.waiting id hid x hx)⟩

theorem World.accounted_boot (heard : FloodKey → Prop) : World.boot.Accounted heard :=
  ⟨fun _ => le_rfl, fun _ hk => by simp [World.Knows, World.boot] at hk,
    fun _ hid => absurd hid List.not_mem_nil⟩

theorem World.spread_boot (others : FloodKey → ℕ) : World.boot.Spread others :=
  ⟨fun _ hx => absurd hx List.not_mem_nil, fun _ hx => absurd hx List.not_mem_nil,
    fun _ hid => absurd hid List.not_mem_nil⟩

/-- What a node has not sent itself, it has heard. -/
theorem World.Accounted.sent_or_heard (ha : w.Accounted heard) (hk : k ∈ w.flooded) :
    .sent k ∈ w.trace ∨ heard k := by
  have hone : 0 < w.flooded.count k := List.count_pos_iff.mpr hk
  have hframes := ha.frames k
  obtain ⟨m, hm, hgrant⟩ :=
    List.mem_filterMap.mp (List.count_pos_iff.mp (by omega : 0 < w.granted.count k))
  cases m with
  | sent k' =>
    obtain rfl := Option.some.inj hgrant
    exact .inl hm
  | retransmit k' =>
    obtain rfl := Option.some.inj hgrant
    exact .inr (ha.known k' (.inr (.inr hm)))
  | _ => cases hgrant

/-- The receive queue waits. -/
structure Waits (w w' : World) : Prop where
  rxQueue : w'.packetManager.rxQueue = w.packetManager.rxQueue
  packetBuf : ∀ id ∈ w.packetManager.rxQueue.ids,
    w'.packetManager.packetBuf id = w.packetManager.packetBuf id

/-- No packet records more than 63 hops. -/
theorem within_of_hops (w : World) {x : FloodKey × ℕ} (hx : packet.hops = some x) :
    w.Within (fun _ => 63) x := by
  rw [Packet.hops, Option.map_eq_some_iff] at hx
  obtain ⟨k, -, rfl⟩ := hx
  have hlt := packet.toNat_getPathHashCount_lt
  show packet.getPathHashCount.toNat ≤ 63 + _
  omega

theorem within_of_frameHops (w : World) {raw : List UInt8} {x : FloodKey × ℕ}
    (hx : frameHops raw = some x) :
    w.Within (fun _ => 63) x := by
  rw [frameHops, Option.bind_eq_some_iff] at hx
  obtain ⟨⟨ok, got⟩, -, hx⟩ := hx
  cases ok with
  | false => cases hx
  | true => exact within_of_hops w hx

theorem World.spread_all (w : World) : w.Spread fun _ => 63 where
  sent x hx := by
    obtain ⟨raw, -, hraw⟩ := List.mem_filterMap.mp hx
    exact within_of_frameHops w hraw
  queued x hx := by
    obtain ⟨entry, -, hentry⟩ := List.mem_filterMap.mp hx
    exact within_of_hops w hentry
  waiting _ _ _ hx := within_of_hops w hx

theorem admits_all (w : World) (packet : Packet) : w.Admits (fun _ => True) (fun _ => 63) packet :=
  ⟨fun _ _ => trivial, fun _ hx => within_of_hops w hx⟩

/-- What feeds the queue and hears nothing new keeps the account. -/
theorem World.Accounted.of_fed (ha : w.Accounted heard) (hfed : Fed w w')
    (hframes : w'.frames = w.frames) (hknown : ∀ k, w'.Knows k → w.Knows k ∨ heard k)
    (hwaits : Waits w w') : w'.Accounted heard where
  frames k := by
    have hcount := hfed.floods k
    have hold := ha.frames k
    rw [World.flooded, hframes]
    rw [World.flooded] at hold
    omega
  known k hk := (hknown k hk).elim (ha.known k) id
  waiting id hid k hk := by
    rw [hwaits.rxQueue] at hid
    rw [hwaits.packetBuf id hid] at hk
    exact ha.waiting id hid k hk

/-- And no flood records more hops. -/
theorem World.Spread.of_fed (hs : w.Spread others) (hfed : Fed w w')
    (hframes : w'.frames = w.frames) (hwaits : Waits w w') : w'.Spread others where
  sent x hx := (hs.sent x (hframes ▸ hx)).later hfed.trace
  queued x hx := by
    rcases hfed.hops x hx with hzero | hold
    · show x.2 ≤ _
      rw [hzero]
      exact Nat.zero_le _
    · exact (hs.queued x hold).later hfed.trace
  waiting id hid x hx := by
    rw [hwaits.rxQueue] at hid
    rw [hwaits.packetBuf id hid] at hx
    exact (hs.waiting id hid x hx).later hfed.trace

/-- A queue that stays is fed. -/
theorem fed_of_queued (hqueue : ∀ {α : Type} (f : Packet → Option α), w'.queued f = w.queued f)
    (htrace : w.trace <+: w'.trace) : Fed w w' where
  trace := htrace
  floods k := by
    rw [hqueue]
    exact Nat.add_le_add_left (count_granted_le htrace k) _
  hops x hx := .inr (hqueue Packet.hops ▸ hx)

/-- What the dispatcher does besides. -/
theorem fed_of_keepsInbound (hkeepsInbound : KeepsInbound ctx w w') (hunsent : Unsent ctx w w') :
    Fed w w' ∧ (∀ k, w'.Knows k → w.Knows k) ∧ Waits w w' := by
  obtain ⟨htrace, -, hrx, hbuf⟩ := hkeepsInbound
  refine ⟨fed_of_queued (fun f => queued_congr f (congrArg PacketQueue.entries hunsent)
    fun _ _ => by rw [hbuf]) (htrace ▸ List.prefix_rfl), fun k hk => ?_, hrx,
    fun _ _ => by rw [hbuf]⟩
  rw [World.Knows, htrace] at hk
  exact hk

theorem World.Accounted.of_keepsInbound (ha : w.Accounted heard)
    (hkeepsInbound : KeepsInbound ctx w w') (hunsent : Unsent ctx w w')
    (hkeepsFrames : KeepsFrames ctx w w') : w'.Accounted heard := by
  obtain ⟨hfed, hknown, hwaits⟩ := fed_of_keepsInbound hkeepsInbound hunsent
  exact ha.of_fed hfed hkeepsFrames (fun k hk => .inl (hknown k hk)) hwaits

theorem World.Spread.of_keepsInbound (hs : w.Spread others) (hkeepsInbound : KeepsInbound ctx w w')
    (hunsent : Unsent ctx w w') (hkeepsFrames : KeepsFrames ctx w w') : w'.Spread others := by
  obtain ⟨hfed, -, hwaits⟩ := fed_of_keepsInbound hkeepsInbound hunsent
  exact hs.of_fed hfed hkeepsFrames hwaits

/-- The effects of the mesh and of the requests let the node know what it hands over. -/
theorem Steps.knows {h h' : List PacketId} (hs : Steps heard ctx (h, w) (h', w'))
    (hk : w'.Knows k) :
    w.Knows k ∨ heard k := by
  refine hs.induct (P := fun _ w₁ => w₁.Knows k → w.Knows k ∨ heard k) .inl ?_ hk
  intro h₁ w₁ h₂ w₂ hold hstep hk
  cases hstep with
  | quiet hq =>
    rw [hq] at hk
    exact hold hk
  | handed k' hk' =>
    simp only [World.Knows, List.mem_append, List.mem_singleton] at hk
    simp only [World.Knows] at hold
    by_cases heq : k = k'
    · subst heq
      exact .inr hk'
    · refine hold ?_
      simpa [heq] using hk
  | sent | record => exact hold (by simpa [World.Knows] using hk)
  | write | errFlags | dups | alloc | free | queueOutbound => exact hold hk

end

/-! ### Buffers in hand -/

/-- The pool is intact with these buffers in hand, and the account and the bound are kept. -/
structure World.Booked (ctx : Ctx) (heard : FloodKey → Prop) (others : FloodKey → ℕ)
    (held : List PacketId) (w : World) : Prop where
  pool : w.PoolIntact ctx held
  account : w.Accounted heard
  spread : w.Spread others

/-- From one state to the next the trace goes on and the books are kept. -/
structure KeepsBooks (ctx : Ctx) (heard : FloodKey → Prop) (others : FloodKey → ℕ)
    (held held' : List PacketId) (w w' : World) : Prop where
  trace : w.trace <+: w'.trace
  booked : w.Booked ctx heard others held → w'.Booked ctx heard others held'

section

variable {heard : FloodKey → Prop} {others : FloodKey → ℕ} {ctx : Ctx} {w w' w'' : World}
  {held held' held'' : List PacketId} {id : PacketId} {packet : Packet}

theorem KeepsBooks.trans (h : KeepsBooks ctx heard others held held' w w')
    (h' : KeepsBooks ctx heard others held' held'' w' w'') :
    KeepsBooks ctx heard others held held'' w w'' :=
  ⟨h.trace.trans h'.trace, h'.booked ∘ h.booked⟩

/-- What only the pool sees. -/
theorem KeepsBooks.of_pool {α : Type} (m : M α) [ha : Moves KeepsInbound m] [hu : Moves Unsent m]
    [hh : Moves KeepsFrames m] (hpool : w.PoolIntact ctx held → (m ctx w).2.PoolIntact ctx held') :
    KeepsBooks ctx heard others held held' w (m ctx w).2 where
  trace := by rw [(ha.moves ctx w).1]
  booked h := ⟨hpool h.pool,
    h.account.of_keepsInbound (ha.moves ctx w) (hu.moves ctx w) (hh.moves ctx w),
    h.spread.of_keepsInbound (ha.moves ctx w) (hu.moves ctx w) (hh.moves ctx w)⟩

theorem KeepsBooks.of_keepsInbound {α : Type} (m : M α) [hc : Uses Carries [] m fun _ => []]
    [Moves KeepsInbound m] [Moves Unsent m] [Moves KeepsFrames m] :
    KeepsBooks ctx heard others held held w (m ctx w).2 :=
  .of_pool m (hc.uses ctx w held).2

/-- A buffer in hand is written. -/
theorem World.Booked.write (h : w.Booked ctx heard others (id :: held)) (packet : Packet) :
    (writePacket id packet ctx w).2.Booked ctx heard others (id :: held) := by
  have hne : ∀ id' ∈ w.packetManager.sendQueue.ids ++ w.packetManager.rxQueue.ids, id' ≠ id := by
    rintro id' hid' rfl
    rcases List.mem_append.mp hid' with hid' | hid'
    · exact h.pool.conserves.not_mem_sendQueue (List.mem_cons_self ..) hid'
    · exact h.pool.conserves.not_mem_rxQueue (List.mem_cons_self ..) hid'
  have hfed : Fed w (writePacket id packet ctx w).2 :=
    fed_of_queued (fun f => queued_congr f rfl fun entry hentry =>
      Function.update_of_ne (hne _ (List.mem_append_left _ (List.mem_map_of_mem hentry))) ..)
        List.prefix_rfl
  have hwaits : Waits w (writePacket id packet ctx w).2 :=
    ⟨rfl, fun id' hid' => Function.update_of_ne (hne _ (List.mem_append_right _ hid')) ..⟩
  exact ⟨⟨h.pool.conserves.write packet, h.pool.poolSize, h.pool.reissued⟩,
    h.account.of_fed hfed rfl (fun _ => .inl) hwaits, h.spread.of_fed hfed rfl hwaits⟩

/-- The mesh on a packet that was heard. -/
theorem meshOnRecvPacket_keeps (hheard : ∀ k, packet.flood = some k → heard k) :
    KeepsBooks ctx heard others held held w (meshOnRecvPacket packet ctx w).2 := by
  have : HandsOver heard packet := ⟨fun hflood => hheard _ (if_pos hflood)⟩
  have hs := (inferInstance : Uses (Steps heard) [] (meshOnRecvPacket packet) fun _ => []).uses
    ctx w held
  refine ⟨hs.trace_prefix, fun h => ?_⟩
  have hfeeds := (inferInstance : Uses Feeds [] (meshOnRecvPacket packet) fun _ => []).uses
    ctx w held
  obtain ⟨hpool, hfed⟩ := hfeeds h.pool
  have hkeepsFrames := Moves.moves (R := KeepsFrames) (m := meshOnRecvPacket packet) ctx w
  have hwaits : Waits w (meshOnRecvPacket packet ctx w).2 :=
    ⟨hs.framed.2.2, fun _ => hs.untouched h.pool.conserves⟩
  exact ⟨hpool, h.account.of_fed hfed hkeepsFrames (fun _ => hs.knows) hwaits,
    h.spread.of_fed hfed hkeepsFrames hwaits⟩

/-- The dispatcher marks a flood that it takes up. -/
theorem World.Booked.markReceived (h : w.Booked ctx heard others held)
    (hheard : ∀ k, packet.flood = some k → heard k) :
    ((if packet.isRouteFlood then mark (.received packet.floodKey) else pure ()) ctx w).2.Booked ctx
      heard others held := by
  rw [Prog.run_ite]
  split
  case isFalse => exact h
  rename_i hflood
  have hfed : Fed w (mark (.received packet.floodKey) ctx w).2 :=
    fed_of_queued (fun _ => rfl) (List.prefix_append ..)
  have hwaits : Waits w (mark (.received packet.floodKey) ctx w).2 := ⟨rfl, fun _ _ => rfl⟩
  refine ⟨⟨h.pool.conserves, h.pool.poolSize, h.pool.reissued⟩,
    h.account.of_fed hfed rfl (fun k hk => ?_) hwaits, h.spread.of_fed hfed rfl hwaits⟩
  by_cases heq : k = packet.floodKey
  · subst heq
    exact .inr (hheard _ (if_pos hflood))
  · refine .inl ?_
    simpa [World.Knows, mark, heq] using hk

/-- What the mesh makes of a packet that it does not release: the same load, and one more hop at
most. -/
structure HopsOn (packet packet' : Packet) : Prop where
  flood : packet'.flood = packet.flood
  hops : ∀ k n, packet'.hops = some (k, n + 1) → ∃ n', packet.hops = some (k, n') ∧ n ≤ n'

theorem hopsOn_meshOnRecvPacket (packet : Packet) (ctx : Ctx) (w : World) :
    (meshOnRecvPacket packet ctx w).1.1 = actionRelease ∨
      HopsOn packet (meshOnRecvPacket packet ctx w).1.2 := by
  refine or_iff_not_imp_left.mpr fun hne => ?_
  have hload : SameLoad packet (meshOnRecvPacket packet ctx w).1.2 :=
    ((inferInstance : Returns (Carried packet) (meshOnRecvPacket packet)).returns ctx
      w).resolve_left hne
  have hflood : (meshOnRecvPacket packet ctx w).1.2.flood = packet.flood := by
    rw [Packet.flood, Packet.flood, Packet.floodKey, Packet.floodKey, Packet.isRouteFlood,
      Packet.isRouteFlood, Packet.getRouteType, Packet.getRouteType, Packet.getPayloadType,
      Packet.getPayloadType, Packet.payloadBytes, Packet.payloadBytes, hload.header,
      hload.payloadLen, hload.payload]
  refine ⟨hflood, fun k n hn => ?_⟩
  rw [Packet.hops, Option.map_eq_some_iff] at hn
  obtain ⟨k', hk, heq⟩ := hn
  obtain ⟨rfl, hn⟩ := Prod.mk.inj heq
  rw [hflood] at hk
  refine ⟨packet.getPathHashCount.toNat, by rw [Packet.hops, hk]; rfl, ?_⟩
  have hroute : packet.isRouteFlood = true := by
    by_contra hno
    rw [Packet.flood, if_neg hno] at hk
    cases hk
  obtain ⟨-, happends⟩ :=
    ((appends_meshOnRecvPacket packet hroute).appends ctx w).resolve_left hne
  rw [happends, toNat_hashCount_appendSelfToPath] at hn
  omega

/-- A flood that goes on is marked again, and waits in the send queue. -/
theorem World.Booked.settle {packet' : Packet} {action : Action}
    (h : w.Booked ctx heard others [id]) (hheard : w.Admits heard others packet)
    (hbuf : w.packetManager.packetBuf id = packet')
    (hgoes : action = actionRelease ∨ HopsOn packet packet') (hne : action ≠ actionManualHold) :
    let w' := (dispatcherSettle id action ctx ((if packet.isRouteFlood ∧ action ≠ actionRelease then
      mark (.retransmit packet.floodKey) else pure ()) ctx w).2).2
    w'.Accounted heard ∧ w'.Spread others := by
  by_cases hrelease : action = actionRelease
  · subst hrelease
    simp only [ne_eq, not_true_eq_false, and_false, if_false, Prog.run_pure]
    have hunsent : Moves Unsent (dispatcherSettle id actionRelease) := by
      unfold dispatcherSettle
      rw [if_pos rfl]
      infer_instance
    have hkeepsInbound :=
      Moves.moves (R := KeepsInbound) (m := dispatcherSettle id actionRelease) ctx w
    have hkeepsFrames :=
      Moves.moves (R := KeepsFrames) (m := dispatcherSettle id actionRelease) ctx w
    exact ⟨h.account.of_keepsInbound hkeepsInbound (hunsent.moves ctx w) hkeepsFrames,
      h.spread.of_keepsInbound hkeepsInbound (hunsent.moves ctx w) hkeepsFrames⟩
  have hgoes := hgoes.resolve_left hrelease
  obtain ⟨w₁, hw₁⟩ : ∃ w₁, ((if packet.isRouteFlood ∧ action ≠ actionRelease then
      mark (.retransmit packet.floodKey) else pure () : M Unit) ctx w).2 = w₁ := ⟨_, rfl⟩
  have hmarked : w₁ = { w with trace := w₁.trace } ∧
      w₁.trace = w.trace ++ (packet.flood.map FilterMark.retransmit).toList := by
    rw [← hw₁, Prog.run_ite]
    by_cases hroute : packet.isRouteFlood = true
    · have hkey : packet.flood = some packet.floodKey := if_pos hroute
      rw [if_pos ⟨hroute, hrelease⟩, hkey]
      exact ⟨rfl, rfl⟩
    · have hkey : packet.flood = none := if_neg hroute
      rw [if_neg fun hcond => hroute hcond.1, hkey]
      exact ⟨rfl, by simp⟩
  rw [hw₁]
  obtain ⟨hsame, hmarks⟩ := hmarked
  obtain ⟨htrace, -, hrx, hbufs⟩ := Moves.moves (R := KeepsInbound)
    (m := dispatcherSettle id action) ctx w₁
  have hkeepsFrames : (dispatcherSettle id action ctx w₁).2.frames = w₁.frames :=
    Moves.moves (R := KeepsFrames) (m := dispatcherSettle id action) ctx w₁
  have hqueue : ∀ {α : Type} (f : Packet → Option α),
      (dispatcherSettle id action ctx w₁).2.queued f = w.queued f ++ (f packet').toList := by
    intro α f
    have hentries := (h.pool.conserves.queueOutbound (actionPriority action)
      ((dispatcherFutureMillis (action &&& 0x00FFFFFF).toNat ctx w₁).1 % 2 ^ 32)).2
    have hsettle : (dispatcherSettle id action ctx w₁).2.packetManager
        = w.packetManager.queueOutbound id (actionPriority action)
          ((dispatcherFutureMillis (action &&& 0x00FFFFFF).toNat ctx w₁).1 % 2 ^ 32) := by
      rw [dispatcherSettle, if_neg hrelease, if_neg hne, Prog.run_bind]
      show (dispatcherFutureMillis _ ctx w₁).2.packetManager.queueOutbound _ _ _ = _
      rw [((inferInstance : Moves Asks (dispatcherFutureMillis (action &&& 0x00FFFFFF).toNat)).moves
        ctx w₁).1, hsame]
    rw [World.queued, hbufs, hsettle, hentries, List.filterMap_append, hsame]
    cases hf : f packet' <;> simp [hbuf, hf, World.queued]
  obtain ⟨w', hw'⟩ : ∃ w', (dispatcherSettle id action ctx w₁).2 = w' := ⟨_, rfl⟩
  rw [hw'] at htrace hrx hbufs hkeepsFrames hqueue ⊢
  rw [hmarks] at htrace
  have hprefix : w.trace <+: w'.trace := htrace ▸ List.prefix_append ..
  have hwaits : Waits w w' := ⟨by rw [hrx, hsame], fun _ _ => by rw [hbufs, hsame]⟩
  have hframes : w'.frames = w.frames := by rw [hkeepsFrames, hsame]; rfl
  refine ⟨⟨fun k => ?_, fun k hk => ?_, fun id' hid' => ?_⟩, ⟨fun x hx => ?_, fun x hx => ?_, ?_⟩⟩
  · have hold := h.account.frames k
    have hgranted : w'.granted = w.granted ++ packet.flood.toList := by
      rw [World.granted, htrace, List.filterMap_append, World.granted]
      cases packet.flood <;> rfl
    rw [World.flooded, hframes, ← World.flooded, hqueue, hgoes.flood, hgranted, List.count_append,
      List.count_append]
    omega
  · by_cases hkey : packet.flood = some k
    · exact hheard.floods k hkey
    · refine h.account.known k ?_
      rw [World.Knows, htrace] at hk
      cases hflood : packet.flood with
      | none => simpa [hflood, World.Knows] using hk
      | some k' =>
        have hne : k ≠ k' := fun h => hkey (h ▸ hflood)
        simpa [hflood, World.Knows, hne] using hk
  · rw [hwaits.rxQueue] at hid'
    rw [hwaits.packetBuf id' hid']
    exact h.account.waiting id' hid'
  · exact (h.spread.sent x (hframes ▸ hx)).later hprefix
  · rw [hqueue, List.mem_append] at hx
    rcases hx with hx | hx
    · exact (h.spread.queued x hx).later hprefix
    · -- The new hop stands for the retransmission that was just marked.
      obtain ⟨k, n⟩ := x
      rw [Option.mem_toList] at hx
      cases n with
      | zero => exact Nat.zero_le _
      | succ n =>
        obtain ⟨n', hn', hle⟩ := hgoes.hops k n hx
        have hbound : n' ≤ others k + w.trace.count (.retransmit k) := hheard.hops _ hn'
        have hflood : packet.flood = some k := by
          rw [Packet.hops, Option.map_eq_some_iff] at hn'
          obtain ⟨k', hk', heq⟩ := hn'
          rw [hk', (Prod.mk.inj heq).1]
        have hcount : w'.trace.count (.retransmit k) = w.trace.count (.retransmit k) + 1 := by
          rw [htrace, hflood]
          simp
        show n + 1 ≤ others k + w'.trace.count (.retransmit k)
        omega
  · intro id' hid'
    rw [hwaits.rxQueue] at hid'
    rw [hwaits.packetBuf id' hid']
    exact fun x hx => (h.spread.waiting id' hid' x hx).later hprefix

/-- A packet that was heard is processed. -/
theorem dispatcherProcessRecvPacket_keeps
    (hheard : w.Admits heard others (w.packetManager.packetBuf id)) :
    KeepsBooks ctx heard others [id] [] w (dispatcherProcessRecvPacket id ctx w).2 := by
  obtain ⟨packet, hpacket⟩ : ∃ packet, w.packetManager.packetBuf id = packet := ⟨_, rfl⟩
  rw [hpacket] at hheard
  obtain ⟨w₁, hw₁⟩ : ∃ w₁, ((if packet.isRouteFlood then mark (.received packet.floodKey)
    else pure () : M Unit) ctx w).2 = w₁ := ⟨_, rfl⟩
  obtain ⟨action, packet', w₂, hmesh⟩ : ∃ action packet' w₂,
    meshOnRecvPacket packet ctx w₁ = ((action, packet'), w₂) := ⟨_, _, _, rfl⟩
  obtain ⟨w₃, hw₃⟩ : ∃ w₃, (writePacket id packet' ctx w₂).2 = w₃ := ⟨_, rfl⟩
  have hrun : (dispatcherProcessRecvPacket id ctx w).2 = (dispatcherSettle id action ctx
      ((if packet.isRouteFlood ∧ action ≠ actionRelease then mark (.retransmit packet.floodKey)
        else pure ()) ctx w₃).2).2 := by
    simp only [dispatcherProcessRecvPacket, readPacket, Prog.run_bind, Prog.run_gets, hpacket, hw₁,
      hmesh, hw₃]
  have hkeeps : KeepsBooks ctx heard others [id] [id] w₁ (meshOnRecvPacket packet ctx w₁).2 :=
    meshOnRecvPacket_keeps hheard.floods
  have hgoes := hopsOn_meshOnRecvPacket packet ctx w₁
  have hverdict := (inferInstance : Returns Verdict (meshOnRecvPacket packet)).returns ctx w₁
  rw [hmesh] at hkeeps hgoes hverdict
  have hmark : w.trace <+: w₁.trace := by
    rw [← hw₁, Prog.run_ite]
    split
    · exact List.prefix_append ..
    · exact List.prefix_rfl
  have hwrite : w₂.trace = w₃.trace := by rw [← hw₃]; rfl
  have hbefore : w.trace <+: w₃.trace := hwrite ▸ hmark.trans hkeeps.trace
  refine ⟨?_, fun h => ?_⟩
  · refine hbefore.trans ?_
    rw [hrun, (Moves.moves (R := KeepsInbound) (m := dispatcherSettle id action) ctx _).1,
      Prog.run_ite]
    split
    · exact List.prefix_append ..
    · exact List.prefix_rfl
  · have h₁ : w₁.Booked ctx heard others [id] := hw₁ ▸ h.markReceived hheard.floods
    have h₃ : w₃.Booked ctx heard others [id] := hw₃ ▸ (hkeeps.booked h₁).write packet'
    have hpool := ((inferInstance : Uses Carries [id] (dispatcherProcessRecvPacket id)
      fun _ => []).uses ctx w []).2 h.pool
    obtain ⟨haccount, hspread⟩ := h₃.settle (hheard.later hbefore)
      (by rw [← hw₃]; exact packetBuf_writePacket ..) hgoes hverdict.ne_hold
    rw [← hrun] at haccount hspread
    exact ⟨hpool, haccount, hspread⟩

/-! ### Receiving -/

theorem PacketQueueManager.sendQueue_queueInbound (manager : PacketQueueManager) (id : PacketId)
    (scheduledFor : ℕ) : (manager.queueInbound id scheduledFor).sendQueue = manager.sendQueue := by
  rw [queueInbound]
  split
  · rfl
  · dsimp only
    split
    · exact manager.sendQueue_free id
    · rfl

/-- A packet that was heard may wait. -/
theorem queueInbound_keeps (scheduledFor : ℕ)
    (hheard : w.Admits heard others (w.packetManager.packetBuf id)) :
    KeepsBooks ctx heard others [id] [] w
      (modifyManager (·.queueInbound id scheduledFor) ctx w).2 where
  trace := List.prefix_rfl
  booked h := by
    have hbuf : (w.packetManager.queueInbound id scheduledFor).packetBuf
        = w.packetManager.packetBuf :=
      PacketQueueManager.packetBuf_queueInbound ..
    have hsend : (w.packetManager.queueInbound id scheduledFor).sendQueue
        = w.packetManager.sendQueue :=
      PacketQueueManager.sendQueue_queueInbound ..
    have hqueue : ∀ {α : Type} (f : Packet → Option α),
        (modifyManager (·.queueInbound id scheduledFor) ctx w).2.queued f = w.queued f := fun f =>
      queued_congr f (congrArg PacketQueue.entries hsend) fun _ _ => congrFun hbuf _
    have hwaits : ∀ id' ∈ (w.packetManager.queueInbound id scheduledFor).rxQueue.ids,
        w.Admits heard others ((w.packetManager.queueInbound id scheduledFor).packetBuf id') := by
      intro id' hid'
      rw [hbuf]
      rcases PacketQueueManager.mem_rxQueue_queueInbound _ _ _ hid' with hold | rfl
      · exact ⟨h.account.waiting id' hold, h.spread.waiting id' hold⟩
      · exact hheard
    exact ⟨((inferInstance : Uses Carries [id] (modifyManager (·.queueInbound id scheduledFor))
      fun _ => []).uses ctx w []).2 h.pool,
      ⟨fun k => hqueue Packet.flood ▸ h.account.frames k, h.account.known,
        fun id' hid' => (hwaits id' hid').floods⟩,
      ⟨h.spread.sent, fun x hx => h.spread.queued x (hqueue Packet.hops ▸ hx),
        fun id' hid' => (hwaits id' hid').hops⟩⟩

/-- What leaves the trace and the packets alone admits the same packets. -/
theorem World.Admits.keepsInbound {α : Type}
    (hheard : w.Admits heard others (w.packetManager.packetBuf id))
    (m : M α) [ha : Moves KeepsInbound m] :
    (m ctx w).2.Admits heard others ((m ctx w).2.packetManager.packetBuf id) := by
  obtain ⟨htrace, -, -, hbuf⟩ := ha.moves ctx w
  rw [hbuf]
  exact hheard.later (htrace ▸ List.prefix_rfl)

/-- A received packet, processed now or queued. -/
theorem dispatcherReceivePacket_keeps (packet : Packet) (score : ℚ) (airTime : UInt32)
    (hheard : w.Admits heard others (w.packetManager.packetBuf id)) :
    KeepsBooks ctx heard others [id]
      [] w (dispatcherReceivePacket id packet score airTime ctx w).2 := by
  rw [dispatcherReceivePacket]
  split
  · let asked : M ℤ := do
      modifyDispatcher fun d => { d with nRecvFlood := d.nRecvFlood + 1 }
      hook fun h => h.rxDelayCalc score airTime
    simp only [Prog.run_bind, Prog.run_ite]
    split
    · exact (KeepsBooks.of_keepsInbound asked).trans
        (dispatcherProcessRecvPacket_keeps (hheard.keepsInbound asked))
    · let delayed : M ℤ := do
        let delay ← asked
        dispatcherFutureMillis (min delay maxRxDelayMillis)
      exact (KeepsBooks.of_keepsInbound delayed).trans
        (queueInbound_keeps _ (hheard.keepsInbound delayed))
  · let counted : M Unit := modifyDispatcher fun d => { d with nRecvDirect := d.nRecvDirect + 1 }
    exact (KeepsBooks.of_keepsInbound counted).trans
      (dispatcherProcessRecvPacket_keeps (hheard.keepsInbound counted))

theorem dispatcherReceiveParsed_keeps (packet : Packet) (rawLength : ℕ) (snr : ℚ)
    (hheard : w.Admits heard others (w.packetManager.packetBuf id)) :
    KeepsBooks ctx heard others [id]
      [] w (dispatcherReceiveParsed id packet rawLength snr ctx w).2 := by
  let report : M Unit := do
    let score ← radioPacketScore snr rawLength
    let airTime ← hook fun h => h.radioAirtime rawLength
    let ctx ← Prog.env
    modifyDispatcher fun d =>
      { d with rxAirTime := (d.rxAirTime + airTime.toNat) % 2 ^ ctx.ulongBits }
    emit (.logRx packet packet.getRawLength score)
  have hcarries : Uses Carries [] report fun _ => [] := by
    unfold report radioPacketScore; infer_instance
  have hkeepsInbound : Moves KeepsInbound report := by
    unfold report radioPacketScore; infer_instance
  have hunsent : Moves Unsent report := by unfold report radioPacketScore; infer_instance
  have hkeepsFrames : Moves KeepsFrames report := by unfold report radioPacketScore; infer_instance
  exact (KeepsBooks.of_keepsInbound report).trans
    (dispatcherReceivePacket_keeps packet _ _ (hheard.keepsInbound report))

/-- A frame may come in. -/
structure World.Allows (heard : FloodKey → Prop) (others : FloodKey → ℕ) (w : World)
    (raw : List UInt8) :
    Prop where
  floods : ∀ k, frameFlood raw = some k → heard k
  hops : ∀ x, frameHops raw = some x → w.Within others x

/-- A frame is received of a flood that was heard. -/
theorem dispatcherReceiveRaw_keeps {raw : List UInt8} (rssiDbm : Int16) (snrQ4 : Int8)
    (hheard : w.Allows heard others raw) :
    KeepsBooks ctx heard others [] [] w (dispatcherReceiveRaw raw rssiDbm snrQ4 ctx w).2 := by
  rw [dispatcherReceiveRaw]
  split
  · exact ⟨List.prefix_rfl, id⟩
  let logged : M Unit := emit (.logRxRaw (snrQ4.toInt / 4) rssiDbm raw)
  have halloc := ((inferInstance : Uses Carries [] allocPacket Option.toList).uses ctx
    (logged ctx w).2 []).2
  simp only [Prog.run_bind]
  refine (KeepsBooks.of_keepsInbound logged).trans ?_
  cases hid : (allocPacket ctx (logged ctx w).2).1 with
  | none =>
    rw [hid] at halloc
    exact (KeepsBooks.of_pool allocPacket halloc).trans (KeepsBooks.of_keepsInbound (do
      setErrFlag errEventFull
      pure eNOBUFS))
  | some id =>
    rw [hid] at halloc
    have hhand : KeepsBooks ctx heard others [] [id]
        (logged ctx w).2 (allocPacket ctx (logged ctx w).2).2 :=
      .of_pool allocPacket halloc
    have hwrite : ∀ (packet : Packet) w, KeepsBooks ctx heard others [id] [id] w
        (writePacket id packet ctx w).2 :=
      fun packet w => ⟨List.prefix_rfl, fun h => h.write packet⟩
    simp only [Option.elim_some, Prog.run_bind, Prog.run_ite]
    refine hhand.trans ?_
    split
    · have hfree : Uses Carries [id] (modifyManager (·.free id)) fun _ => [] := inferInstance
      exact (hwrite _ _).trans
        (KeepsBooks.of_pool (modifyManager (·.free id)) (hfree.uses ctx _ []).2)
    · rename_i hok
      refine ((hwrite _ _).trans (hwrite _ _)).trans (dispatcherReceiveParsed_keeps _ _ _ ?_)
      rw [packetBuf_writePacket]
      generalize hinto : (readPacket id ctx (allocPacket ctx (logged ctx w).2).2).1 = into at hok ⊢
      cases hparse : tryParsePacket into raw with
      | none => simp [hparse] at hok
      | some parsed =>
        obtain ⟨ok, got⟩ := parsed
        obtain rfl : ok = true := by simpa [hparse] using hok
        refine ⟨fun k hk => hheard.floods k ?_, fun x hx => hheard.hops x ?_⟩
        · rw [flood_of_parsed hparse]
          exact hk
        · rw [hops_of_parsed hparse]
          exact hx

theorem PacketQueueManager.sendQueue_getNextInbound (manager : PacketQueueManager) (now : ℕ) :
    (manager.getNextInbound now).2.sendQueue = manager.sendQueue := by
  rw [getNextInbound]; split <;> rfl

/-- What waited comes out with a flood that was heard. -/
theorem takeInbound_keeps : KeepsBooks ctx heard others [] [] w (takeInbound ctx w).2 := by
  rw [takeInbound, Prog.run_bind]
  refine (KeepsBooks.of_keepsInbound clockMillisGet).trans ?_
  generalize (clockMillisGet ctx w).1 % 2 ^ 32 = now
  generalize (clockMillisGet ctx w).2 = w₁
  let taken := (takePacket (·.getNextInbound now) ctx w₁).2
  have hpool := ((inferInstance : Uses Carries [] (takePacket (·.getNextInbound now))
    Option.toList).uses ctx w₁ []).2
  have hbuf : taken.packetManager.packetBuf = w₁.packetManager.packetBuf :=
    PacketQueueManager.packetBuf_getNextInbound ..
  have hqueue : ∀ {α : Type} (f : Packet → Option α), taken.queued f = w₁.queued f := fun f =>
    queued_congr f (congrArg PacketQueue.entries (PacketQueueManager.sendQueue_getNextInbound ..))
      fun _ _ => congrFun hbuf _
  have hwaited : w₁.Booked ctx heard others [] → ∀ id,
      (takePacket (·.getNextInbound now) ctx w₁).1 = some id ∨
      id ∈ taken.packetManager.rxQueue.ids →
        taken.Admits heard others (taken.packetManager.packetBuf id) := by
    intro h id hid
    have hmem := PacketQueueManager.mem_rxQueue_of_getNextInbound _ _ hid
    rw [hbuf]
    exact ⟨h.account.waiting id hmem, h.spread.waiting id hmem⟩
  have hbooks : ∀ held, taken.PoolIntact ctx held → w₁.Booked ctx heard others [] →
      taken.Booked ctx heard others held := fun held hp h =>
    ⟨hp, ⟨fun k => hqueue Packet.flood ▸ h.account.frames k, h.account.known,
        fun id hid => (hwaited h id (.inr hid)).floods⟩,
      ⟨h.spread.sent, fun x hx => h.spread.queued x (hqueue Packet.hops ▸ hx),
        fun id hid => (hwaited h id (.inr hid)).hops⟩⟩
  rw [Prog.run_bind]
  cases hid : (takePacket (·.getNextInbound now) ctx w₁).1 with
  | none =>
    rw [hid] at hpool
    exact ⟨List.prefix_rfl, fun h => hbooks _ (hpool h.pool) h⟩
  | some id =>
    rw [hid] at hpool
    -- Whatever is heard, the trace goes on.
    have htrace : KeepsBooks ctx (fun _ => True) (fun _ => 63) [id] [] taken
        (dispatcherProcessRecvPacket id ctx taken).2 :=
      dispatcherProcessRecvPacket_keeps (admits_all ..)
    exact ⟨htrace.trace, fun h => (dispatcherProcessRecvPacket_keeps
      (hwaited h id (.inl hid))).booked (hbooks _ (hpool h.pool) h)⟩

/-! ### Transmitting -/

/-- The frame is that of the packet that leaves the queue. -/
theorem startSend_frames (ctx : Ctx) (w : World) (id : PacketId) (now : ℕ) :
    (startSend id now ctx w).2.frames = w.frames ∨
      (startSend id now ctx w).2.frames
        = w.frames ++ [(w.packetManager.packetBuf id).sentBytes] := by
  let packet := w.packetManager.packetBuf id
  let raw := packet.writeTo (Buf.zero maxTransUnitLen)
  simp only [startSend, readPacket, Prog.run_bind, Prog.run_gets, Prog.run_ite]
  split
  · exact .inl (Moves.moves (R := KeepsFrames) (m := releaseOutbound id) ctx w)
  · right
    let started : World :=
      { w with
        tick := w.tick + 1 + 1
        dispatcher := { w.dispatcher with outboundStart := now }
        events := w.events ++ [.radioPacketSend packet.sentBytes] }
    have hstarted : started.frames = w.frames ++ [packet.sentBytes] := by
      simp [started, World.frames, Event.frame]
    split
    · have hfail := Moves.moves (R := KeepsFrames) (m := do
        emit (.logTxFail packet packet.getRawLength)
        releaseOutbound id) ctx started
      exact Eq.trans hfail hstarted
    · have hexpiry := Moves.moves (R := KeepsFrames) (m := do
        let outboundExpiry ← dispatcherFutureMillis
          (toCInt ((ctx.hooks w.tick).radioAirtime raw.1 * 3 / 2))
        modifyDispatcher fun d => { d with outboundExpiry }) ctx started
      exact Eq.trans hexpiry hstarted

end

/-- The account and the bound are kept, whatever is in flight. -/
def Balances (heard : FloodKey → Prop) (others : FloodKey → ℕ) (_ : Ctx) (w w' : World) : Prop :=
  (w.Accounted heard → w'.Accounted heard) ∧ (w.Spread others → w'.Spread others)

/-- A packet leaves the send queue, with one frame at most. -/
structure Leaves (id : PacketId) (w w' : World) : Prop where
  trace : w'.trace = w.trace
  rxQueue : w'.packetManager.rxQueue = w.packetManager.rxQueue
  packetBuf : w'.packetManager.packetBuf = w.packetManager.packetBuf
  queued : ∀ {α : Type} (f : Packet → Option α),
    (w.queued f).Perm (w'.queued f ++ (f (w.packetManager.packetBuf id)).toList)
  frames : w'.frames = w.frames ∨ w'.frames = w.frames ++ [(w.packetManager.packetBuf id).sentBytes]

section

variable {heard : FloodKey → Prop} {others : FloodKey → ℕ} {w w' : World} {id : PacketId}

instance : Composes (Balances heard others) where
  refl _ _ := ⟨fun ha => ha, fun hs => hs⟩
  trans _ _ _ _ h h' := ⟨h'.1 ∘ h.1, h'.2 ∘ h.2⟩

instance (priority := low) Moves.balances {α : Type} (m : M α) [ha : Moves KeepsInbound m]
    [hu : Moves Unsent m] [hh : Moves KeepsFrames m] : Moves (Balances heard others) m where
  moves ctx w :=
    ⟨fun h => h.of_keepsInbound (ha.moves ctx w) (hu.moves ctx w) (hh.moves ctx w),
      fun h => h.of_keepsInbound (ha.moves ctx w) (hu.moves ctx w) (hh.moves ctx w)⟩

theorem World.Accounted.send (ha : w.Accounted heard) (hleaves : Leaves id w w') :
    w'.Accounted heard where
  frames k := by
    have hold := ha.frames k
    have hcount := (hleaves.queued Packet.flood).count_eq k
    have hgranted : w'.granted = w.granted := by rw [World.granted, World.granted, hleaves.trace]
    have hflooded : w'.flooded.count k
        ≤ w.flooded.count k + (w.packetManager.packetBuf id).flood.toList.count k := by
      rcases hleaves.frames with h | h
      · rw [World.flooded, World.flooded, h]
        exact Nat.le_add_right ..
      · rw [World.flooded, World.flooded, h, List.filterMap_append, List.count_append]
        refine Nat.add_le_add_left ?_ _
        cases hk : frameFlood (w.packetManager.packetBuf id).sentBytes with
        | none => simp [hk]
        | some k' => simp [hk, flood_of_sentBytes hk]
    rw [List.count_append] at hcount
    rw [hgranted]
    omega
  known k hk := ha.known k (by rwa [World.Knows, hleaves.trace] at hk)
  waiting id' hid' := by
    rw [hleaves.rxQueue] at hid'
    rw [hleaves.packetBuf]
    exact ha.waiting id' hid'

theorem World.Spread.send (hs : w.Spread others) (hleaves : Leaves id w w') : w'.Spread others := by
  have hsame : ∀ {x}, w.Within others x → w'.Within others x := fun hx =>
    hx.later (hleaves.trace ▸ List.prefix_rfl)
  have hqueued : ∀ x, x ∈ w'.queued Packet.hops ∨ (w.packetManager.packetBuf id).hops = some x →
      x ∈ w.queued Packet.hops := fun x hx =>
    (hleaves.queued Packet.hops).mem_iff.mpr
      (List.mem_append.mpr (hx.imp_right fun hx => Option.mem_toList.mpr hx))
  refine ⟨fun x hx => hsame ?_, fun x hx => hsame (hs.queued x (hqueued x (.inl hx))),
    fun id' hid' x hx => ?_⟩
  · rcases hleaves.frames with h | h
    · exact hs.sent x (h ▸ hx)
    · rw [h, List.filterMap_append, List.mem_append] at hx
      refine hx.elim (hs.sent x) fun hx => hs.queued x (hqueued x (.inr (hops_of_sentBytes ?_)))
      simpa using hx
  · rw [hleaves.rxQueue] at hid'
    rw [hleaves.packetBuf] at hx
    exact hsame (hs.waiting id' hid' x hx)

theorem PacketQueueManager.getNextOutbound_eq (manager : PacketQueueManager) (now : ℕ) :
    manager.getNextOutbound now = (none, manager) ∨
      ∃ l e r, manager.sendQueue.entries = l ++ e :: r ∧
        manager.getNextOutbound now = (some e.packet,
          { manager with sendQueue := { manager.sendQueue with entries := l ++ r } }) := by
  rw [getNextOutbound]
  split
  · exact .inl rfl
  · rcases manager.sendQueue.get_eq now with hnone | ⟨l, e, r, hsplit, -, hget⟩
    · exact .inl (by rw [hnone])
    · exact .inr ⟨l, e, r, hsplit, by rw [hget]⟩

instance (now : ℕ) : Moves (Balances heard others) (sendNext now) where
  moves ctx w := by
    simp only [sendNext, takePacket, modifyDispatcher, Prog.run_bind, Prog.run_modify]
    rcases w.packetManager.getNextOutbound_eq (now % 2 ^ 32) with hget | ⟨l, e, r, hsplit, hget⟩
    · rw [hget]
      exact ⟨fun ha => ⟨ha.frames, ha.known, ha.waiting⟩,
        fun hs => ⟨hs.sent, hs.queued, hs.waiting⟩⟩
    rw [hget]
    obtain ⟨taken, htaken⟩ : ∃ taken : World, taken =
        { w with
          packetManager := { w.packetManager with
            sendQueue := { w.packetManager.sendQueue with entries := l ++ r } }
          dispatcher := { w.dispatcher with outbound := some e.packet } } := ⟨_, rfl⟩
    show Balances heard others ctx w (startSend e.packet now ctx _).2
    rw [← htaken]
    obtain ⟨htrace, -, hrx, hbuf⟩ :=
      Moves.moves (R := KeepsInbound) (m := startSend e.packet now) ctx taken
    have hunsent := Moves.moves (R := Unsent) (m := startSend e.packet now) ctx taken
    have hqueue : ∀ {α : Type} (f : Packet → Option α),
        (startSend e.packet now ctx taken).2.queued f = taken.queued f := fun f =>
      queued_congr f (congrArg PacketQueue.entries hunsent) fun _ _ => by rw [hbuf]
    have hframes := startSend_frames ctx taken e.packet now
    obtain ⟨htrace', hrx', hbuf', hframes'⟩ : taken.trace = w.trace ∧
        taken.packetManager.rxQueue = w.packetManager.rxQueue ∧
        taken.packetManager.packetBuf = w.packetManager.packetBuf ∧ taken.frames = w.frames := by
      rw [htaken]
      exact ⟨rfl, rfl, rfl, rfl⟩
    have hleft : ∀ {α : Type} (f : Packet → Option α), taken.queued f
        = (l ++ r).filterMap fun entry => f (w.packetManager.packetBuf entry.packet) := fun f => by
      rw [htaken]
      rfl
    rw [hframes', hbuf'] at hframes
    have hleaves : Leaves e.packet w (startSend e.packet now ctx taken).2 := by
      refine ⟨htrace.trans htrace', hrx.trans hrx', hbuf.trans hbuf', fun f => ?_, hframes⟩
      have hold : w.queued f = (l ++ e :: r).filterMap fun entry =>
          f (w.packetManager.packetBuf entry.packet) := by rw [World.queued, hsplit]
      have hperm : (l ++ e :: r).Perm ((l ++ r) ++ [e]) :=
        List.perm_middle.trans (List.perm_append_singleton e (l ++ r)).symm
      rw [hqueue, hleft, hold]
      refine (hperm.filterMap _).trans ?_
      rw [List.filterMap_append]
      refine (List.Perm.refl _).append ?_
      cases hk : f (w.packetManager.packetBuf e.packet) <;> simp [hk]
    exact ⟨fun ha => ha.send hleaves, fun hs => hs.send hleaves⟩

instance (now : ℕ) : Moves Unsent (channelBusy now) := by unfold channelBusy; infer_instance

instance : Moves (Balances heard others) dispatcherCheckSend := by
  unfold dispatcherCheckSend; infer_instance

end

/-! ### The loop -/

/-- The trace goes on, and the books are kept. -/
def Accounts (heard : FloodKey → Prop) (others : FloodKey → ℕ) (ctx : Ctx) (w w' : World) : Prop :=
  KeepsBooks ctx heard others [] [] w w'

section

variable {heard : FloodKey → Prop} {others : FloodKey → ℕ}

instance : Composes (Accounts heard others) where
  refl _ _ := ⟨List.prefix_rfl, id⟩
  trans _ _ _ _ h h' := KeepsBooks.trans h h'

instance (priority := low) Moves.accounts {α : Type} (m : M α) [hk : Moves KeepsPool m]
    [Moves KeepsInbound m] [Moves Unsent m] [Moves KeepsFrames m] :
    Moves (Accounts heard others) m :=
  ⟨fun ctx w => .of_pool m (hk.moves ctx w)⟩

instance : Moves (Accounts heard others) takeInbound := ⟨fun _ _ => takeInbound_keeps⟩

instance : Moves (Accounts heard others) dispatcherLoop where
  moves ctx w := by
    have hpool : KeepsPool ctx w (dispatcherLoop ctx w).2 := Moves.moves ctx w
    let before : M (ℤ × Bool) := do
      floorCalibrate
      let interval ← hook Hooks.agcResetInterval
      trackRecvMode
      let idle ← expireOutbound
      pure (interval, idle)
    have hbefore : Accounts heard others ctx w (before ctx w).2 := Moves.moves ctx w
    have hrun : dispatcherLoop ctx w = (if !(before ctx w).1.2 then pure () else do
      agcReset (before ctx w).1.1
      takeInbound
      dispatcherCheckSend : M Unit) ctx (before ctx w).2 := rfl
    rw [hrun] at hpool ⊢
    split at hpool
    · rename_i hbusy
      rw [if_pos hbusy]
      exact hbefore
    · rename_i hidle
      rw [if_neg hidle]
      let receive : M Unit := do
        agcReset (before ctx w).1.1
        takeInbound
      have htaken : Accounts heard others ctx w (receive ctx (before ctx w).2).2 :=
        Composes.trans ctx w _ _ hbefore (Moves.moves ctx _)
      have hsend : (do
          agcReset (before ctx w).1.1
          takeInbound
          dispatcherCheckSend : M Unit) ctx (before ctx w).2
            = dispatcherCheckSend ctx (receive ctx (before ctx w).2).2 := rfl
      rw [hsend] at hpool ⊢
      generalize (receive ctx (before ctx w).2).2 = w₁ at htaken hpool ⊢
      have hsends := Moves.moves (R := Balances heard others) (m := dispatcherCheckSend) ctx w₁
      refine ⟨htaken.trace.trans ?_, fun h => ⟨hpool h.pool, ?_, ?_⟩⟩
      · rw [(Moves.moves (R := KeepsInbound) (m := dispatcherCheckSend) ctx w₁).1]
      · exact hsends.1 (htaken.booked h).account
      · exact hsends.2 (htaken.booked h).spread

/-! ### Entry points -/

instance {α : Type} (now : UInt32) (body : M α) [Moves (Accounts heard others) body] :
    Moves (Accounts heard others) (atTime now body) := by
  unfold atTime clockMillisOverrideSet clockMillisOverrideClear; infer_instance

instance (body : M ℤ) [Moves (Accounts heard others) body] :
    Moves (Accounts heard others) (whenReady body) := by
  unfold whenReady; infer_instance

instance (now : UInt32) : Moves (Accounts heard others) (meshcoreTimerFired now) := by
  unfold meshcoreTimerFired; infer_instance

instance (now : UInt32) (success : Bool) :
    Moves (Accounts heard others) (meshcoreRadioTxDone now success) := by
  unfold meshcoreRadioTxDone; infer_instance

/-- The frame that the host hands over, if it does. -/
def Op.hears : Op → Option (List UInt8)
  | .radioRxInject data .. => data
  | _ => none

/-- The books are kept if this frame may come in. -/
def Listens (raw : List UInt8) (heard : FloodKey → Prop) (others : FloodKey → ℕ) (ctx : Ctx)
    (w w' : World) : Prop :=
  w.Allows heard others raw → Accounts heard others ctx w w'

variable {raw : List UInt8}

theorem World.Allows.later {w w' : World} (h : w.Allows heard others raw)
    (htrace : w.trace <+: w'.trace) :
    w'.Allows heard others raw := ⟨h.floods, fun x hx => (h.hops x hx).later htrace⟩

instance : Composes (Listens raw heard others) where
  refl ctx w _ := Composes.refl ctx w
  trans ctx w w' w'' h h' ha := Composes.trans ctx w w' w'' (h ha) (h' (ha.later (h ha).trace))

instance (priority := low) Moves.listens {α : Type} (m : M α)
    [hm : Moves (Accounts heard others) m] :
    Moves (Listens raw heard others) m := ⟨fun ctx w _ => hm.moves ctx w⟩

instance (rssiDbm : Int16) (snrQ4 : Int8) :
    Moves (Listens raw heard others) (dispatcherReceiveRaw raw rssiDbm snrQ4) :=
  ⟨fun _ _ => dispatcherReceiveRaw_keeps rssiDbm snrQ4⟩

theorem meshcoreRadioRxInject_accounts {ctx : Ctx} {w : World} {data : Option (List UInt8)}
    (rssiDbm : Int16) (snrQ4 : Int8) (now : UInt32)
    (hheard : ∀ raw, data = some raw → w.Allows heard others raw) :
    Accounts heard others ctx w (meshcoreRadioRxInject data rssiDbm snrQ4 now ctx w).2 := by
  cases data with
  | none =>
    have hm : Moves (Accounts heard others) (meshcoreRadioRxInject none rssiDbm snrQ4 now) := by
      unfold meshcoreRadioRxInject
      dsimp only [Option.elim_none]
      infer_instance
    exact hm.moves ctx w
  | some raw =>
    have hm : Moves (Listens raw heard others)
        (meshcoreRadioRxInject (some raw) rssiDbm snrQ4 now) := by
      unfold meshcoreRadioRxInject whenReady atTime clockMillisOverrideSet clockMillisOverrideClear
      dsimp only [Option.elim_some]
      infer_instance
    exact hm.moves ctx w (hheard raw rfl)

end

section

variable {heard : FloodKey → Prop} {others : FloodKey → ℕ} {ctx : Ctx} {w : World} {op : Op}

/-- A request hears nothing. -/
theorem Op.accounts_of_isRequest (hop : op.isRequest = true) :
    Accounts heard others ctx w (op.next ctx w) := by
  have hrequests : Requests op.run := by
    cases op with
    | init | deinit | timerFired | radioRxInject | radioTxDone => cases hop
    | _ => unfold Op.run Op.call; infer_instance
  have hchatter : Moves Chatter op.run := by
    cases op with
    | init | deinit | timerFired | radioRxInject | radioTxDone => cases hop
    | _ => unfold Op.run Op.call; infer_instance
  have hframes : (op.next ctx w).frames = w.frames :=
    frames_congr (air_of_adds (hchatter.moves ctx w))
  have hfeeds : FeedsNow ctx w (op.next ctx w) := (Op.feeds hop).moves ctx w
  obtain ⟨w₁, hs, hrun⟩ := hrequests.requests ctx w
  have hkeepsInbound : KeepsInbound ctx w₁ (op.next ctx w) := by
    rcases hrun with hrun | hrun
    · rw [Op.next, hrun]
      exact Composes.refl ctx w₁
    · rw [Op.next, hrun]
      exact Moves.moves (R := KeepsInbound) (m := timerSyncNow) ctx w₁
  obtain ⟨htrace, -, hrx, hbuf⟩ := hkeepsInbound
  refine ⟨htrace ▸ hs.trace_prefix, fun h => ?_⟩
  obtain ⟨hpool, hfed⟩ := hfeeds h.pool
  have hwaits : Waits w (op.next ctx w) :=
    ⟨hrx.trans hs.framed.2.2, fun id hid => by rw [hbuf]; exact hs.untouched h.pool.conserves hid⟩
  refine ⟨hpool, h.account.of_fed hfed hframes (fun k hk => ?_) hwaits,
    h.spread.of_fed hfed hframes hwaits⟩
  rw [World.Knows, htrace] at hk
  exact (hs.knows hk).imp_right False.elim

end

/-! ### Lives of the library -/

theorem PacketQueueManager.entries_sendQueue_prepareFrom {manager : PacketQueueManager}
    (hsend : manager.sendQueue.entries = []) (n : ℕ) :
    (manager.prepareFrom n).sendQueue.entries = [] := by
  induction n generalizing manager with
  | zero => exact hsend
  | succ n ih =>
    rw [prepareFrom]
    dsimp only
    split
    · rfl
    · exact ih hsend

theorem PacketQueueManager.entries_sendQueue_prepare (maxPoolSize poolSize : ℕ) :
    (prepare maxPoolSize poolSize).sendQueue.entries = [] := by
  rw [prepare]
  split
  · rfl
  · split
    · rfl
    · dsimp only
      split
      · rfl
      · refine entries_sendQueue_prepareFrom ?_ _
        rw [PacketQueue.init]
        split <;> rfl

instance : Moves Unsent dispatcherInit := by unfold dispatcherInit; infer_instance

instance : Moves Unsent runtimeStart := by unfold runtimeStart runtimeStateReset; infer_instance

instance : Moves KeepsFrames dispatcherInit := by unfold dispatcherInit; infer_instance

instance : Moves KeepsFrames (emit .radioBegin) := keepsFrames_emit rfl

instance : Moves KeepsFrames dispatcherBegin := by unfold dispatcherBegin; infer_instance

instance : Moves KeepsFrames syncLocalIdentity where
  moves ctx w :=
    frames_congr (air_of_adds (Moves.moves (R := Chatter) (m := syncLocalIdentity) ctx w))

instance : Moves KeepsFrames runtimeStart := by
  unfold runtimeStart runtimeStateReset; infer_instance

section

variable {heard : FloodKey → Prop} {others : FloodKey → ℕ} {ctx : Ctx} {w w' : World}

/-- A node that starts afresh has no packets. -/
structure StartsEmpty (w w' : World) : Prop where
  frames : w'.frames = w.frames
  trace : ∃ marks, w'.trace = w.trace ++ marks ∧ ∀ m ∈ marks, m = .cleared
  sendQueue : w'.packetManager.sendQueue.entries = []
  rxQueue : w'.packetManager.rxQueue.ids = []

theorem World.Accounted.startsEmpty (ha : w.Accounted heard) (hfresh : StartsEmpty w w') :
    w'.Accounted heard := by
  obtain ⟨marks, htrace, hmarks⟩ := hfresh.trace
  have hgranted : w'.granted = w.granted := by
    have hnone : marks.filterMap grant = [] :=
      List.filterMap_eq_nil_iff.mpr fun m hm => by rw [hmarks m hm]; rfl
    rw [World.granted, htrace, List.filterMap_append, hnone, List.append_nil, World.granted]
  refine ⟨fun k => ?_, fun k hk => ha.known k ?_, fun id hid => ?_⟩
  · have hold := ha.frames k
    have hqueue : w'.queued Packet.flood = [] := by
      rw [World.queued, hfresh.sendQueue, List.filterMap_nil]
    rw [World.flooded, hfresh.frames, hqueue, hgranted, List.count_nil, ← World.flooded]
    omega
  · have hmem : ∀ m : Mark, m ≠ .cleared → (m ∈ w'.trace ↔ m ∈ w.trace) := fun m hm => by
      rw [htrace, List.mem_append]
      exact or_iff_left fun h => hm (hmarks m h)
    simpa [World.Knows, hmem] using hk
  · rw [hfresh.rxQueue] at hid
    exact absurd hid List.not_mem_nil

theorem World.Spread.startsEmpty (hs : w.Spread others) (hfresh : StartsEmpty w w') :
    w'.Spread others where
  sent x hx := by
    obtain ⟨marks, htrace, -⟩ := hfresh.trace
    exact (hs.sent x (hfresh.frames ▸ hx)).later ⟨marks, htrace.symm⟩
  queued x hx := by
    rw [World.queued, hfresh.sendQueue] at hx
    exact absurd hx List.not_mem_nil
  waiting id hid := by
    rw [hfresh.rxQueue] at hid
    exact absurd hid List.not_mem_nil

/-- The trace goes on, and the account and the bound are kept. -/
structure KeepsAccount (heard : FloodKey → Prop) (others : FloodKey → ℕ) (w w' : World) : Prop where
  trace : w.trace <+: w'.trace
  keeps : w.Accounted heard → w.Spread others → w'.Accounted heard ∧ w'.Spread others

theorem KeepsAccount.trans {w'' : World} (h : KeepsAccount heard others w w')
    (h' : KeepsAccount heard others w' w'') :
    KeepsAccount heard others w w'' where
  trace := h.trace.trans h'.trace
  keeps ha hs := h'.keeps (h.keeps ha hs).1 (h.keeps ha hs).2

theorem StartsEmpty.keepsAccount (hfresh : StartsEmpty w w') : KeepsAccount heard others w w' where
  trace := by
    obtain ⟨marks, htrace, -⟩ := hfresh.trace
    exact ⟨marks, htrace.symm⟩
  keeps ha hs := ⟨ha.startsEmpty hfresh, hs.startsEmpty hfresh⟩

theorem keepsAccount_runtimeEnd (ctx : Ctx) (w : World) :
    KeepsAccount heard others w (runtimeEnd ctx w).2 :=
  StartsEmpty.keepsAccount ⟨rfl, ⟨[.cleared], rfl, by simp⟩, rfl, rfl⟩

theorem keepsAccount_runtimeBegin (ctx : Ctx) (w : World) :
    KeepsAccount heard others w (runtimeBegin ctx w).2 := by
  have hsend := PacketQueueManager.entries_sendQueue_prepare ctx.maxPoolSize ctx.poolSize
  have hrx := PacketQueueManager.ids_rxQueue_prepare ctx.maxPoolSize ctx.poolSize
  simp only [runtimeBegin, modifyManager, Prog.run_bind, Prog.run_env, Prog.run_modify,
    Prog.run_gets, Prog.run_ite, Prog.run_pure]
  split
  · exact StartsEmpty.keepsAccount ⟨rfl, ⟨[], by simp, by simp⟩, hsend, hrx⟩
  · let start : M ℤ := do
      dispatcherInit
      runtimeStart
    let prepared : World :=
      { w with
        packetManager := .prepare ctx.maxPoolSize ctx.poolSize
        tables := .init
        selfId := ⟨Buf.zero _, Buf.zero _⟩
        trace := w.trace ++ [.cleared] }
    have hprepared : KeepsAccount heard others w prepared :=
      StartsEmpty.keepsAccount ⟨rfl, ⟨[.cleared], rfl, by simp⟩, hsend, hrx⟩
    have hkeepsInbound := Moves.moves (R := KeepsInbound) (m := start) ctx prepared
    have hunsent := Moves.moves (R := Unsent) (m := start) ctx prepared
    have hkeepsFrames := Moves.moves (R := KeepsFrames) (m := start) ctx prepared
    have hstart : KeepsAccount heard others prepared (start ctx prepared).2 :=
      ⟨hkeepsInbound.1 ▸ List.prefix_rfl, fun ha hs =>
        ⟨ha.of_keepsInbound hkeepsInbound hunsent hkeepsFrames,
          hs.of_keepsInbound hkeepsInbound hunsent hkeepsFrames⟩⟩
    exact hprepared.trans hstart

theorem keepsAccount_meshcoreInit (ctx : Ctx) (w : World) :
    KeepsAccount heard others w (meshcoreInit ctx w).2 := by
  have hbegin : KeepsAccount heard others w (runtimeBegin ctx (runtimeEnd ctx w).2).2 :=
    (keepsAccount_runtimeEnd ctx w).trans (keepsAccount_runtimeBegin ctx _)
  simp only [meshcoreInit, Prog.run_bind, Prog.run_gets, Prog.run_ite, Prog.run_pure]
  split
  · exact ⟨List.prefix_rfl, fun ha hs => ⟨ha, hs⟩⟩
  · split
    · exact hbegin.trans (keepsAccount_runtimeEnd ctx _)
    · exact hbegin

/-- **Every call keeps the account** and the bound, if the frame that the node hears may come in. -/
theorem Op.keepsAccount {op : Op} (hr : Reachable ctx w)
    (hheard : ∀ raw, op.hears = some raw → w.Allows heard others raw) :
    KeepsAccount heard others w (op.next ctx w) := by
  cases hinit : w.initialized with
  | false =>
    by_cases hne : op = .init
    · subst hne
      exact keepsAccount_meshcoreInit ctx w
    · rw [op.next_of_not_initialized hinit hne]
      exact ⟨List.prefix_rfl, fun ha hs => ⟨ha, hs⟩⟩
  | true =>
    have hkeep : Accounts heard others ctx w (op.next ctx w) →
        KeepsAccount heard others w (op.next ctx w) :=
      fun h => ⟨h.trace, fun ha hs =>
        have hbooked := h.booked ⟨hr.poolIntact hinit, ha, hs⟩
        ⟨hbooked.account, hbooked.spread⟩⟩
    cases op with
    | init => exact keepsAccount_meshcoreInit ctx w
    | deinit =>
      rw [Op.next_deinit hinit]
      exact keepsAccount_runtimeEnd ctx w
    | timerFired now => exact hkeep (Moves.moves (m := meshcoreTimerFired now) ctx w)
    | radioRxInject data rssi snr now =>
      exact hkeep (meshcoreRadioRxInject_accounts rssi snr now hheard)
    | radioTxDone now success =>
      exact hkeep (Moves.moves (m := meshcoreRadioTxDone now success) ctx w)
    | _ => exact hkeep (Op.accounts_of_isRequest rfl)

/-- The account alone is kept whatever the hops. -/
theorem World.Accounted.next {op : Op} (ha : w.Accounted heard) (hr : Reachable ctx w)
    (hheard : ∀ raw, op.hears = some raw → ∀ k, frameFlood raw = some k → heard k) :
    (op.next ctx w).Accounted heard := by
  have h : KeepsAccount heard (fun _ => 63) w (op.next ctx w) :=
    op.keepsAccount hr fun raw hraw => ⟨hheard raw hraw, fun _ hx => within_of_frameHops w hx⟩
  exact (h.keeps ha w.spread_all).1

/-- Calls only add to the trace. -/
theorem Reachable.trace_prefix_next (hr : Reachable ctx w) (op : Op) :
    w.trace <+: (op.next ctx w).trace := by
  have h : KeepsAccount (fun _ => True) (fun _ => 63) w (op.next ctx w) :=
    op.keepsAccount hr fun _ _ => ⟨fun _ _ => trivial, fun _ hx => within_of_frameHops w hx⟩
  exact h.trace

end

end Meshcore
