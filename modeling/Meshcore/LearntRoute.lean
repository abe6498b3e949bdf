import Meshcore.AckRelay
import Meshcore.Relaying
import Meshcore.Retransmit

/-!
# The path of a flood as a route

A flood collects the hashes of the relays that it comes over, and a direct packet that is sent with
these hashes is for the same relays, one after the other. Each of them finds its own hash at the
front, takes it off and sends on what is left, until at the end of the way none is left and the
packet is looked at like any other. On the way out the hashes are put at the end of the path, one
stride after the other, and on the way back they are taken off the front by moving down what
follows.

## Main definitions

* `Via` — a packet on its way over relays, and who they are
* `OnRoute` — a direct packet, the relays that it has before it and what it carries
* `TakesHop` — a relay that agrees to send it on

## Main results

* `Via.onRoute` — at each relay the route is one hop shorter
* `flood_path_is_route` — the path of a flood, and what follows for packets that are sent along it
-/

namespace Meshcore

/-- A packet that was sent as `sent`, over relays with these identities, each of which heard what
the one before sent and had what it made of it retransmitted, and sent on by the last of them as the
packet in the third place. -/
inductive Via (sent : Packet) : List Identity → Packet → Prop where
  | sent : Via sent [] sent
  | relayed {relays last snrQ4 got ctx w} (h : Via sent relays last) (hears : Hears last snrQ4 got)
      (hresent : (meshOnRecvPacket got ctx w).1.1 ≠ actionRelease) :
      Via sent (relays ++ [(meshOnRecvPacket got ctx w).2.selfId.identity])
        (meshOnRecvPacket got ctx w).1.2

/-- The bytes of a path over these relays, with `hashSize` bytes for each. -/
def routeBytes (hashSize : UInt8) (relays : List Identity) : List UInt8 :=
  (relays.map fun relay => relay.slice 0 hashSize.toNat).flatten

/-! ### The way out -/

/-- A handler of `packet` that releases it or puts the node's own hash at the end of its path. -/
class Appends (packet : Packet) (m : M (Action × Packet)) : Prop where
  appends : ∀ ctx w, (m ctx w).1.1 = actionRelease ∨
    (packet.getPathHashCount.toNat + 1) * packet.getPathHashSize.toNat ≤ maxPathLen ∧
      (m ctx w).1.2 = appendSelfToPath (m ctx w).2.selfId.identity packet

namespace Appends

variable {packet : Packet}

instance bind {α : Type} (m : M α) (f : α → M (Action × Packet)) [hf : ∀ a, Appends packet (f a)] :
    Appends packet (m >>= f) where
  appends ctx w := (hf (m ctx w).1).appends ctx (m ctx w).2

instance ite (c : Prop) [Decidable c] (m n : M (Action × Packet)) [hm : Appends packet m]
    [hn : Appends packet n] : Appends packet (if c then m else n) := by
  split
  · exact hm
  · exact hn

instance release (packet' : Packet) : Appends packet (pure (actionRelease, packet')) :=
  ⟨fun _ _ => .inl rfl⟩

end Appends

section

variable (packet : Packet)

instance : Appends packet (meshRouteRecvPacket packet) where
  appends ctx w := by
    rcases meshRouteRecvPacket_cases packet ctx w with hrelease | ⟨-, -, hroom, -, hrelay⟩
    · exact .inl (congrArg Prod.fst hrelease)
    · dsimp only at hrelay
      rw [hrelay]
      refine .inr ⟨hroom, ?_⟩
      rw [((inferInstance : Moves Asks (getRetransmitDelay _)).moves ctx _).1]

instance : Appends packet (meshRouteRecvPacket packet.markDoNotRetransmit) where
  appends ctx w := by
    rw [meshRouteRecvPacket_marked]
    exact .inl rfl

instance (found : Bool) :
    Appends packet
      (meshRouteRecvPacket (if found then packet.markDoNotRetransmit else packet)) := by
  cases found with
  | false => exact inferInstanceAs (Appends packet (meshRouteRecvPacket packet))
  | true => exact inferInstanceAs (Appends packet (meshRouteRecvPacket packet.markDoNotRetransmit))

set_option synthInstance.maxSize 10000 in
instance : Appends packet (onRecvPayload packet) := by
  unfold onRecvPayload onRecvAck onRecvPeer onRecvAnon onRecvGroup onRecvAdvert onRecvRawCustom
    onRecvMultipart
  infer_instance

/-- A relay of a flood puts its own hash at the end of the path. -/
theorem appends_meshOnRecvPacket (hflood : packet.isRouteFlood = true) :
    Appends packet (meshOnRecvPacket packet) := by
  have hdirect : ¬packet.isRouteDirect = true := by
    intro h
    rw [Packet.isRouteFlood_of_direct h] at hflood
    exact Bool.false_ne_true hflood
  rw [meshOnRecvPacket, if_neg fun h => hdirect h.1, if_neg fun h => hdirect h.1, onRecvRouted,
    if_neg fun h => hdirect h.1]
  infer_instance

end

section

variable {flood sent last got next packet : Packet} {relays route : List Identity}
  {relay : Identity} {snrQ4 : Int8} {type : UInt8} {bytes : List UInt8} {hashSize : UInt8}
  {ctx : Ctx} {w : World}

/-- Over up to 63 relays a flood collects the hashes of all of them. -/
theorem Via.recordsHops (h : Via flood relays last) (hflood : flood.isRouteFlood = true)
    (hvalid : isValidPathLen flood.pathLenField = true) (hnone : flood.getPathHashCount = 0)
    (hlen : relays.length ≤ 63) :
    RecordsHops flood (relays.map fun relay => relay.slice 0 flood.getPathHashSize.toNat) last := by
  induction h with
  | sent => exact .refl hvalid
  | @relayed relays last snrQ4 got ctx w _ hears hresent ih =>
    rw [List.length_append, List.length_singleton] at hlen
    have hrecords := ih (by omega)
    have hfields := hears.fields
    have hgot : got.isRouteFlood = true := by
      rw [Packet.isRouteFlood, hears.getRouteType_eq, Packet.getRouteType, hrecords.header]
      exact hflood
    obtain ⟨hroom, happends⟩ :=
      ((appends_meshOnRecvPacket got hgot).appends ctx w).resolve_left hresent
    have hcount : got.getPathHashCount.toNat = relays.length := by
      rw [Packet.getPathHashCount, hfields.pathLenField]
      have hall := hrecords.hashCount
      rw [hnone, List.length_map] at hall
      exact hall.trans (Nat.zero_add _)
    have hmore : got.getPathHashCount ≠ 63 := by
      intro h63
      rw [h63] at hcount
      exact absurd hcount (by show (63 : ℕ) ≠ _; omega)
    rw [List.map_append, List.map_singleton, happends]
    exact hrecords.extend hfields
      (extends_appendSelfToPath _ hmore hroom hfields.encodable.validPathLen)

/-- Whoever hears it then has the path over these relays. -/
theorem Via.learns {learnt : Packet} (hvia : Via flood relays last)
    (hflood : flood.isRouteFlood = true) (hvalid : isValidPathLen flood.pathLenField = true)
    (hnone : flood.getPathHashCount = 0) (hears : Hears last snrQ4 learnt)
    (hlen : relays.length ≤ 63) :
    learnt.getPathHashSize = flood.getPathHashSize ∧
      learnt.getPathHashCount.toNat = relays.length ∧
        learnt.pathBytes = routeBytes flood.getPathHashSize relays := by
  have hrecords := hvia.recordsHops hflood hvalid hnone hlen
  have hfields := hears.fields
  refine ⟨?_, ?_, ?_⟩
  · rw [Packet.getPathHashSize, hfields.pathLenField]
    exact hrecords.hashSize
  · have hall := hrecords.hashCount
    rw [hnone, List.length_map] at hall
    rw [Packet.getPathHashCount, hfields.pathLenField]
    exact hall.trans (Nat.zero_add _)
  · have hempty : flood.pathBytes = [] := by
      rw [Packet.pathBytes, Packet.toNat_getPathByteLen_eq_mul, hnone]
      exact (congrArg _ (Nat.zero_mul _)).trans (Buf.slice_zero ..)
    rw [hfields.pathBytes, hrecords.pathBytes, hempty, List.nil_append, routeBytes]

/-! ### The way back -/

/-- A direct packet that has these relays before it. -/
structure OnRoute (type : UInt8) (bytes : List UInt8) (hashSize : UInt8) (route : List Identity)
    (packet : Packet) : Prop extends Load type bytes packet where
  direct : packet.getRouteType = routeTypeDirect
  hashSize_eq : packet.getPathHashSize = hashSize
  hashCount : packet.getPathHashCount.toNat = route.length
  pathBytes : packet.pathBytes = routeBytes hashSize route
  validPathLen : isValidPathLen packet.pathLenField = true

/-- The packets that a relay sends on as they are, but for their path: no acknowledgement, no trace
and nothing for the neighbours. -/
structure Plain (type : UInt8) (bytes : List UInt8) : Prop where
  ack : type ≠ payloadTypeAck
  multipart : type ≠ payloadTypeMultipart
  trace : type ≠ payloadTypeTrace
  control : type = payloadTypeControl → ∀ first ∈ bytes.head?, first &&& 0x80 = 0

/-- A node with this identity agrees to send on a direct packet that it has not seen before. -/
structure TakesHop (relay : Identity) (got : Packet) (ctx : Ctx) (w : World) : Prop where
  identity : w.selfId.identity = relay
  allow : (allowPacketForward got ctx w).1 = true
  unseen : (tablesHasSeen got ctx (allowPacketForward got ctx w).2).1 = false

theorem OnRoute.hears (h : OnRoute type bytes hashSize route last) (hears : Hears last snrQ4 got) :
    OnRoute type bytes hashSize route got where
  toLoad := hears.load h.toLoad
  direct := hears.getRouteType_eq.trans h.direct
  hashSize_eq := by
    rw [Packet.getPathHashSize, hears.fields.pathLenField]
    exact h.hashSize_eq
  hashCount := by
    rw [Packet.getPathHashCount, hears.fields.pathLenField]
    exact h.hashCount
  pathBytes := hears.fields.pathBytes.trans h.pathBytes
  validPathLen := hears.fields.encodable.validPathLen

theorem OnRoute.isRouteDirect (h : OnRoute type bytes hashSize route got) :
    got.isRouteDirect = true := isRouteDirect_of_getRouteType h.direct

theorem OnRoute.length_hash (h : OnRoute type bytes hashSize route got) (relay : Identity) :
    (relay.slice 0 hashSize.toNat).length = hashSize.toNat := by
  have hbyte := got.pathLenField.toNat_lt
  have hfield := congrArg UInt8.toNat h.hashSize_eq
  rw [Packet.getPathHashSize, toNat_hashSizeOf] at hfield
  exact Buf.length_slice_of_le _ (by show 0 + hashSize.toNat ≤ 32; omega)

/-- The relay at the front is gone. -/
theorem OnRoute.dropsHop (h : OnRoute type bytes hashSize (relay :: route) got)
    (hdrops : DropsHop got next) : OnRoute type bytes hashSize route next where
  toLoad := h.toLoad.congr (by rw [Packet.getPayloadType, hdrops.header]; rfl) hdrops.payload
    hdrops.payloadLen
  direct := by
    rw [Packet.getRouteType, hdrops.header]
    exact h.direct
  hashSize_eq := hdrops.hashSize.trans h.hashSize_eq
  hashCount := by
    have hall := hdrops.hashCount
    rw [h.hashCount, List.length_cons] at hall
    omega
  pathBytes := by
    rw [hdrops.pathBytes, h.pathBytes, h.hashSize_eq, routeBytes, List.map_cons, List.flatten_cons,
      List.drop_left' (h.length_hash relay)]
    rfl
  validPathLen := hdrops.validPathLen

theorem OnRoute.hashCount_ne_zero (h : OnRoute type bytes hashSize (relay :: route) got) :
    got.getPathHashCount ≠ 0 := by
  intro hzero
  have hcount := h.hashCount
  rw [hzero] at hcount
  exact absurd hcount (Nat.succ_ne_zero _).symm

/-- Such a packet is neither a trace nor for the neighbours. -/
theorem meshOnRecvPacket_plain (hload : Load type bytes packet) (hplain : Plain type bytes) :
    meshOnRecvPacket packet ctx w = onRecvRouted packet ctx w := by
  rw [meshOnRecvPacket, if_neg fun h => hplain.trace (hload.type_eq.symm.trans h.2)]
  split
  · rename_i hcontrol
    have hlen : 0 < bytes.length := by
      rw [← hload.payloadLen_eq]
      exact hcontrol.2.2
    have hfirst := hplain.control (hload.type_eq.symm.trans hcontrol.2.1) (bytes.getD 0 0)
      (by rw [List.head?_eq_getElem?, List.getD_eq_getElem?_getD,
        List.getElem?_eq_getElem hlen]; rfl)
    rw [Prog.run_bind_of (payloadByte_run hcontrol.2.2 ctx w), hload.get_payload hlen,
      if_neg (not_not.mpr hfirst)]
  · rfl

set_option synthInstance.maxSize 10000 in
/-- A relay that sends on a direct packet has taken the first hash off. -/
theorem dropsHop_of_resent (hcount : packet.getPathHashCount ≠ 0)
    (hvalid : isValidPathLen packet.pathLenField = true) :
    Returns (fun r => r.1 = actionRelease ∨ DropsHop packet r.2) (onRecvDirectHop packet) := by
  have hremove : Returns (DropsHop packet) (meshRemoveSelfFromPath packet) := ⟨fun ctx w => by
    obtain ⟨next, hrun, hdrops⟩ := meshRemoveSelfFromPath_run hcount hvalid ctx w
    rw [hrun]
    exact hdrops⟩
  have hrelease : ∀ packet', Returns (fun r => r.1 = actionRelease ∨ DropsHop packet r.2)
      (pure (actionRelease, packet') : M _) := fun _ => ⟨fun _ _ => .inl rfl⟩
  have hforward : Returns (fun r => r.1 = actionRelease ∨ DropsHop packet r.2) (do
      let packet ← meshRemoveSelfFromPath packet
      let delay ← getDirectRetransmitDelay packet
      pure (actionRetransmitDelayed 0 delay, packet)) :=
    .bind_of_returns (Q := DropsHop packet) fun next hdrops =>
      have hpure : ∀ delay, Returns (fun r => r.1 = actionRelease ∨ DropsHop packet r.2)
          (pure (actionRetransmitDelayed 0 delay, next) : M _) := fun _ => ⟨fun _ _ => .inr hdrops⟩
      inferInstance
  unfold onRecvDirectHop
  infer_instance

/-- A direct packet with hops to go is one for the relay at the front. -/
theorem OnRoute.meshOnRecvPacket_eq (h : OnRoute type bytes hashSize (relay :: route) got)
    (hplain : Plain type bytes) : meshOnRecvPacket got ctx w = onRecvDirectHop got ctx w := by
  have hpos : got.getPathHashCount > 0 := by
    rw [gt_iff_lt, UInt8.lt_iff_toNat_lt, h.hashCount]
    exact Nat.succ_pos _
  rw [meshOnRecvPacket_plain h.toLoad hplain, onRecvRouted, if_pos ⟨h.isRouteDirect, hpos⟩]

theorem OnRoute.resent (h : OnRoute type bytes hashSize (relay :: route) got)
    (hplain : Plain type bytes) (hresent : (meshOnRecvPacket got ctx w).1.1 ≠ actionRelease) :
    DropsHop got (meshOnRecvPacket got ctx w).1.2 := by
  rw [h.meshOnRecvPacket_eq hplain] at hresent ⊢
  exact ((dropsHop_of_resent h.hashCount_ne_zero h.validPathLen).returns ctx w).resolve_left hresent

/-- The relay at the front finds its own hash there, and sends the packet on. -/
theorem OnRoute.taken (h : OnRoute type bytes hashSize (relay :: route) got)
    (hplain : Plain type bytes) (htakes : TakesHop relay got ctx w) :
    ∃ delay, (meshOnRecvPacket got ctx w).1.1 = actionRetransmitDelayed 0 delay := by
  have hcount := h.hashCount_ne_zero
  have hsize : got.getPathHashSize.toNat ≤ got.getPathByteLen.toNat := by
    rw [Packet.toNat_getPathByteLen_eq_mul, h.hashCount, List.length_cons, Nat.succ_mul]
    exact Nat.le_add_left ..
  have hthree := (isValidPathLen_iff.mp h.validPathLen).1
  have hfront : w.selfId.identity.slice 0 got.getPathHashSize.toNat
      = got.path.slice 0 got.getPathHashSize.toNat := by
    have hbytes := congrArg (List.take got.getPathHashSize.toNat) h.pathBytes
    rw [Packet.pathBytes, Buf.take_slice, Nat.min_eq_left hsize, routeBytes, List.map_cons,
      List.flatten_cons, h.hashSize_eq, List.take_left' (h.length_hash relay)] at hbytes
    rw [htakes.identity, h.hashSize_eq, hbytes]
  have hmine := isHashMatch_front h.validPathLen hfront
  obtain ⟨next, hremove, -⟩ := meshRemoveSelfFromPath_run hcount h.validPathLen ctx
    (tablesHasSeen got ctx (allowPacketForward got ctx w).2).2
  have hack : got.getPayloadType ≠ payloadTypeAck := h.type_eq ▸ hplain.ack
  have hmultipart : got.getPayloadType ≠ payloadTypeMultipart := h.type_eq ▸ hplain.multipart
  rw [h.meshOnRecvPacket_eq hplain, onRecvDirectHop, if_neg fun h => hack h.1, Prog.run_bind,
    Prog.run_pure, Prog.run_bind, Prog.run_gets, Prog.run_bind_of (pathRead_run (by omega) ctx w)]
  simp only [hmine, Bool.not_true, Bool.false_eq_true, if_false]
  rw [Prog.run_bind, htakes.allow]
  simp only [Bool.not_true, Bool.false_eq_true, if_false]
  rw [if_neg hmultipart, Prog.run_bind, htakes.unseen]
  simp only [Bool.false_eq_true, if_false]
  rw [if_neg hack, Prog.run_bind_of hremove, Prog.run_bind]
  exact ⟨_, rfl⟩

/-- At the end of the route the packet is looked at like any other. -/
theorem OnRoute.arrived (h : OnRoute type bytes hashSize [] got) (hplain : Plain type bytes) :
    meshOnRecvPacket got ctx w = onRecvPayload got ctx w := by
  have hzero : got.getPathHashCount = 0 := UInt8.toNat_inj.mp h.hashCount
  have hflood : got.isRouteFlood = false := Packet.isRouteFlood_of_direct h.isRouteDirect
  rw [meshOnRecvPacket_plain h.toLoad hplain, onRecvRouted, hzero,
    if_neg fun h => absurd h.2 (by decide), hflood]
  rfl

/-- After each relay the route is one hop shorter. -/
theorem Via.onRoute {before : List Identity} (h : Via sent before last) (hplain : Plain type bytes)
    (hsent : OnRoute type bytes hashSize relays sent) (hlen : before.length ≤ relays.length) :
    OnRoute type bytes hashSize (relays.drop before.length) last := by
  induction h with
  | sent => exact hsent
  | @relayed before last snrQ4 got ctx w _ hears hresent ih =>
    rw [List.length_append, List.length_singleton] at hlen ⊢
    have hgot := (ih (by omega)).hears hears
    rw [List.drop_eq_getElem_cons hlen] at hgot
    exact hgot.dropsHop (hgot.resent hplain hresent)

/-! ### Both ways -/

/-- A packet that was sent on its way over these relays: each of them in turn takes it when it
agrees to, and takes off its hash and nothing else, and where it comes to then it is looked at like
any other packet, with no hash left. -/
structure GoesAlong (type : UInt8) (bytes : List UInt8) (hashSize : UInt8) (relays : List Identity)
    (sent : Packet) : Prop where
  hop : ∀ {before relay after last snrQ4 got}, relays = before ++ relay :: after →
    Via sent before last → Hears last snrQ4 got →
      OnRoute type bytes hashSize (relay :: after) got ∧
        ∀ ctx w, TakesHop relay got ctx w →
          (∃ delay, (meshOnRecvPacket got ctx w).1.1 = actionRetransmitDelayed 0 delay) ∧
            (meshOnRecvPacket got ctx w).1.1 ≠ actionRelease ∧
              DropsHop got (meshOnRecvPacket got ctx w).1.2
  arrival : ∀ {last snrQ4 got}, Via sent relays last → Hears last snrQ4 got →
    OnRoute type bytes hashSize [] got ∧
      ∀ ctx w, meshOnRecvPacket got ctx w = onRecvPayload got ctx w

theorem OnRoute.goesAlong (h : OnRoute type bytes hashSize relays sent)
    (hplain : Plain type bytes) :
    GoesAlong type bytes hashSize relays sent where
  hop := by
    rintro before relay after last snrQ4 got rfl hvia hears
    have hroute := hvia.onRoute hplain h (by simp)
    rw [List.drop_left] at hroute
    have hgot := hroute.hears hears
    refine ⟨hgot, fun ctx w htakes => ?_⟩
    obtain ⟨delay, htaken⟩ := hgot.taken hplain htakes
    have hresent : (meshOnRecvPacket got ctx w).1.1 ≠ actionRelease := by
      intro hrelease
      have hword := two_pow_le_actionRetransmitDelayed (show (0 : UInt8) < 255 by decide) delay
      rw [← htaken, hrelease] at hword
      exact absurd hword (by decide)
    exact ⟨⟨delay, htaken⟩, hresent, hgot.resent hplain hresent⟩
  arrival := by
    intro last snrQ4 got hvia hears
    have hroute := hvia.onRoute hplain h le_rfl
    rw [List.drop_length] at hroute
    have hgot := hroute.hears hears
    exact ⟨hgot, fun ctx w => hgot.arrived hplain⟩

/-- A packet that is sent with a path has the relays of the path before it. -/
theorem onRoute_along {learnt : Packet} (hload : Load type bytes packet)
    (hvalid : isValidPathLen learnt.pathLenField = true) (hsize : learnt.getPathHashSize = hashSize)
    (hcount : learnt.getPathHashCount.toNat = relays.length)
    (hbytes : learnt.pathBytes = routeBytes hashSize relays) :
    OnRoute type bytes hashSize relays (packet.along learnt.pathBytes learnt.pathLenField) := by
  have hfield := Packet.pathLenField_along packet learnt.pathBytes learnt.pathLenField
  have hsent := hload.along learnt.pathBytes hvalid
  -- the path that is sent, in a packet of its own
  let stored : Packet :=
    { Packet.init with path := pathBuf learnt.pathBytes, pathLen := learnt.pathLenField.toUInt16 }
  have hstored : stored.pathLenField = learnt.pathLenField := UInt8.toUInt8_toUInt16 _
  have hmax : learnt.getPathByteLen.toNat ≤ maxPathLen := by
    rw [Packet.toNat_getPathByteLen]
    exact (isValidPathLen_iff.mp hvalid).2
  have hlen : stored.getPathByteLen.toNat = learnt.pathBytes.length := by
    rw [Packet.pathBytes, Buf.length_slice_of_le _ (by omega), Packet.toNat_getPathByteLen, hstored,
      Packet.toNat_getPathByteLen]
  refine ⟨hsent.toLoad, getRouteType_withRouteType packet (by decide), ?_, ?_, ?_,
    hsent.validPathLen⟩
  · rw [Packet.getPathHashSize, hfield]
    exact hsize
  · rw [Packet.getPathHashCount, hfield]
    exact hcount
  · have hvalidStored : isValidPathLen stored.pathLenField = true := by rwa [hstored]
    rw [← hbytes, pathBytes_of_copyPath hvalidStored (hfield.trans hstored.symm)
      (by rw [hstored]; rfl), Packet.pathBytes, hlen]
    refine Buf.slice_store_self _ ?_
    rw [Packet.pathBytes, Buf.length_slice_of_le _ (by omega)]
    omega

/-- **The path of a flood is a route.** A flood that was relayed by up to 63 nodes carries their
hashes, in order. Any packet that is sent with this path, and that is no acknowledgement, no trace
and not for the neighbours, goes along it: each of the relays in turn takes it, unless it has seen
it or does not agree, and takes off its own hash and nothing else; and behind the last of them it
comes with no hash left and is looked at as a packet for the node that it reaches. -/
theorem flood_path_is_route {learnt : Packet} (hflood : flood.isRouteFlood = true)
    (hvalid : isValidPathLen flood.pathLenField = true) (hnone : flood.getPathHashCount = 0)
    (hvia : Via flood relays last) (hears : Hears last snrQ4 learnt) (hlen : relays.length ≤ 63) :
    (learnt.getPathHashSize = flood.getPathHashSize ∧
      learnt.getPathHashCount.toNat = relays.length ∧
        learnt.pathBytes = routeBytes flood.getPathHashSize relays) ∧
      ∀ {type bytes id held ctx} {w : World} (delayMillis : UInt32), Plain type bytes →
        w.PoolIntact ctx (id :: held) → Load type bytes (w.packetManager.packetBuf id) →
          Shipped (GoesAlong type bytes flood.getPathHashSize relays) w
            (meshSendDirect id learnt.pathBytes learnt.pathLenField delayMillis ctx w).2 := by
  obtain ⟨hsize, hcount, hbytes⟩ := hvia.learns hflood hvalid hnone hears hlen
  have hlearnt := hears.fields.encodable.validPathLen
  refine ⟨⟨hsize, hcount, hbytes⟩, ?_⟩
  intro type bytes id held ctx w delayMillis hplain hpool hload
  have hroute := onRoute_along hload hlearnt hsize hcount hbytes
  rw [meshSendDirect_run _ _ _ (hload.type_eq ▸ hplain.trace)]
  exact shipped_of_written (tablesHasSeen _) _ _ hpool (hroute.goesAlong hplain) hroute.validPathLen
    (hroute.payloadLen_eq.trans_le hroute.length_le)

end

/-- An acknowledgement that is flooded with one-byte hashes. -/
def floodedAck : Packet := { floodAfter 0 with header := 0x0D, payloadLen := 4 }

/-- What a relay with this key makes of a packet. -/
def relayedBy (key : UInt8) (packet : Packet) : Packet :=
  (meshOnRecvPacket packet .forwarding (.keyed key)).1.2

/-- The acknowledgement behind two relays. -/
def floodedAckOn : Packet := relayedBy 9 (relayedBy 7 floodedAck)

/-- A raw packet of one byte. -/
def rawPacket : Packet := { Packet.init with header := 0x3E, payloadLen := 1 }

/-- The path that the acknowledgement has behind the two relays takes the raw packet over both. -/
theorem flood_path_is_route_two :
    floodedAckOn.pathBytes = [7, 9] ∧
      Shipped (GoesAlong payloadTypeRawCustom [0] 1
          [(World.keyed 7).selfId.identity, (World.keyed 9).selfId.identity])
        (.handed .forwarding rawPacket)
        (meshSendDirect 0 floodedAckOn.pathBytes floodedAckOn.pathLenField 0 .forwarding
          (.handed .forwarding rawPacket)).2 := by
  have hheard : Hears floodedAck 0 floodedAck := ⟨floodedAck, ⟨Packet.init, by decide +kernel⟩, rfl⟩
  have hfirst : Via floodedAck [(World.keyed 7).selfId.identity] (relayedBy 7 floodedAck) :=
    (show (meshOnRecvPacket floodedAck .forwarding (.keyed 7)).2.selfId.identity
      = (World.keyed 7).selfId.identity by decide +kernel) ▸
        .relayed .sent hheard (by decide +kernel)
  have hheard₁ : Hears (relayedBy 7 floodedAck) 0 (relayedBy 7 floodedAck) :=
    ⟨relayedBy 7 floodedAck, ⟨Packet.init, by decide +kernel⟩, rfl⟩
  have hsecond : Via floodedAck
      [(World.keyed 7).selfId.identity, (World.keyed 9).selfId.identity] floodedAckOn :=
    (show (meshOnRecvPacket (relayedBy 7 floodedAck) .forwarding (.keyed 9)).2.selfId.identity
      = (World.keyed 9).selfId.identity by decide +kernel) ▸
        .relayed hfirst hheard₁ (by decide +kernel)
  have hears : Hears floodedAckOn 0 floodedAckOn :=
    ⟨floodedAckOn, ⟨Packet.init, by decide +kernel⟩, rfl⟩
  exact ⟨by decide +kernel,
    (flood_path_is_route rfl (by decide) (by decide) hsecond hears (by decide)).2 0
      ⟨by decide, by decide, by decide, by decide⟩
      (poolIntact_handed rawPacket (by decide +kernel) (by decide +kernel))
      ⟨by decide +kernel, by decide +kernel, by decide +kernel, by decide⟩⟩

end Meshcore
