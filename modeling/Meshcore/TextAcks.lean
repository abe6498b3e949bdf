import Meshcore.AckTable
import Meshcore.Texts

/-!
# Texts and their acknowledgements

The code of a text comes back by itself, as a flood or along the path that the peer keeps, where the
relays make packets of their own of it; or it comes back as the extra of a path return, with zeros
behind it. The sender looks the first four bytes up in its table. The first copy in time ends the
registration, and then the table has nothing for the other copies. The table has room for eight
codes: the ninth text takes the place of the first, whose code is not known any longer when it comes
back.

## Main definitions

* `AckReaches`, `TakesAck` — an acknowledgement on its way, and a node at the end of that
* `LooksUp`, `Spares` — a code is looked up, and nothing becomes of its registrations
* `AckCopies` — copies of a code come in, and something else goes on between them

## Main results

* `Acknowledges.looksUp` — whatever way a code takes, it is looked up
* `ackCopies_once` — one copy is told
* `text_ack_agreement`
-/

namespace Meshcore

/-- An acknowledgement that was sent reaches a node: over relays that have it retransmitted, or over
the relays of its path, each of which sends on a packet that it queues for it. -/
inductive AckReaches (reply : Packet) : Packet → Prop where
  | relayed {got} (h : Relayed reply got) : AckReaches reply got
  | routed {relays arrives snrQ4 got} (hdirect : reply.isRouteDirect = true)
      (htype : reply.getPayloadType = payloadTypeAck ∨ reply.getPayloadType = payloadTypeMultipart)
      (hpath : reply.pathBytes
        = relays.flatMap fun relay => relay.hash reply.getPathHashSize.toNat)
      (hrelayed : AckRelayed relays reply arrives) (hears : Hears arrives snrQ4 got) :
      AckReaches reply got

/-- A CHAT node at the end of the way of an acknowledgement. If that is the extra of a path return
that the node has not seen, the node has the key. -/
structure TakesAck (c : Cipher) (secret : Buf publicKeySize) (sender : PeerIdentity)
    (destHash srcHash : UInt8) (got : Packet) (ctx : Ctx) (w : World) : Prop where
  initialized : w.initialized = true
  atEnd : AtEnd got
  passes : FromNow ctx w (Hooks.Passes got)
  chat : FromNow ctx w (Hooks.HasRole .chat)
  opens : Unseen got ctx w → ∀ src,
    Load payloadTypePath (datagramBytes c secret destHash srcHash src) got →
      TakesPathReturn c secret sender destHash srcHash src got ctx w

/-- Every hash that the host may compute for this packet is in the table. -/
def Seen (packet : Packet) (ctx : Ctx) (w : World) : Prop :=
  ∀ n, w.tick ≤ n → (tablesHasSeen packet ctx { w with tick := n }).1 = true

/-- Between these states the code is looked up in the table, and nothing else becomes of the
table. -/
def LooksUp (code : UInt32) (ctx : Ctx) (w w' : World) : Prop :=
  ∃ v, KeepsCorrelation ctx w v ∧ KeepsCorrelation ctx (expectedAckHandle code ctx v).2 w'

/-- Nowhere between these states has the time of the registration been reached. -/
def Registration.Lasts (r : Registration) (ctx : Ctx) (w w' : World) : Prop :=
  ∀ v : World, v.millisOverride = w.millisOverride → w.tick ≤ v.tick → v.tick ≤ w'.tick →
    timeReached ctx.ulongBits (clockMillisGet ctx v).1 r.expiresAtMs = false

/-- Between these states the registrations with this code stay, and none is added. -/
def Spares (code : UInt32) (w w' : World) : Prop :=
  ∀ i r, r.tag = code →
    (w'.correlation.slot (.ack i) = some r ↔ w.correlation.slot (.ack i) = some r)

/-- A packet that a node takes brings this code. -/
def BringsCode (c : Cipher) (code : UInt32) (got : Packet) (ctx : Ctx) (w : World) : Prop :=
  ∃ secret sender destHash srcHash ack reply, 4 ≤ ack.length ∧ wordAt ack = code ∧
    Acknowledges c secret destHash srcHash ack reply ∧ AckReaches reply got ∧
      TakesAck c secret sender destHash srcHash got ctx w

/-- What the host is told of answers between two states. -/
def toldBetween (w w' : World) : List Event :=
  (w'.events.filter Event.isCorrelated).drop (w.events.filter Event.isCorrelated).length

/-- Copies of a code come in, and what is done between them spares it. The host is told these
answers by the copies. -/
inductive AckCopies (c : Cipher) (code : UInt32) (ctx : Ctx) : List Event → World →
    World → Prop where
  | none {w} : AckCopies c code ctx [] w w
  | copy {told w w' got} (h : AckCopies c code ctx told w w')
      (hbrings : BringsCode c code got ctx w') :
      AckCopies c code ctx (told ++ toldBetween w' (meshOnRecvPacket got ctx w').2) w
        (meshOnRecvPacket got ctx w').2
  | other {told w w' w''} (h : AckCopies c code ctx told w w') (hspares : Spares code w' w'') :
      AckCopies c code ctx told w w''

section

variable {c : Cipher} {ctx : Ctx} {w w' : World} {secret : Buf publicKeySize} {code : UInt32}
  {ack : List UInt8} {sender : PeerIdentity} {destHash srcHash : UInt8} {got reply packet : Packet}
  {snrQ4 : Int8} {path : List UInt8} {pathLen : UInt8}

/-! ### On its way -/

/-- What a node hears has the version 0. -/
theorem Hears.version (h : Hears reply snrQ4 got) : verOf reply.header = 0 := by
  have hheader := h.fields.header
  obtain ⟨parsed, ⟨into, hparse⟩, rfl⟩ := h
  obtain ⟨f, -, hversion, rfl⟩ := tryParsePacket_eq_true.mp hparse
  rw [← hheader]
  exact hversion

theorem Relayed.version (h : Relayed reply got) : verOf got.header = 0 := by
  cases h with
  | heard hears =>
    rw [hears.fields.header]
    exact hears.version
  | relayed _ _ hears =>
    rw [hears.fields.header]
    exact hears.version

/-- A multipart packet is for one node only. -/
theorem carriesAck_of_multi {first : UInt8} (hlong : 4 ≤ ack.length)
    (hfirst : first &&& 0x0F = payloadTypeAck) (hdirect : reply.getRouteType = routeTypeDirect)
    (hload : Load payloadTypeMultipart (first :: ack) reply) (h : Relayed reply got) :
    CarriesAck ack got where
  direct := isRouteDirect_of_getRouteType (h.getRouteType_eq.trans hdirect)
  version := h.version
  validPathLen := h.encodable.validPathLen
  long := hlong
  layout := .inr ⟨first, hfirst, h.load hload⟩

/-- What is sent along a path carries the acknowledgement, if anybody hears it. -/
theorem Acknowledges.carriesAck (h : Acknowledges c secret destHash srcHash ack reply)
    (hlong : 4 ≤ ack.length) (hdirect : reply.isRouteDirect = true)
    (htype : reply.getPayloadType = payloadTypeAck ∨ reply.getPayloadType = payloadTypeMultipart)
    (hears : Hears reply snrQ4 got) : CarriesAck ack reply := by
  cases h with
  | plain hsent => exact ⟨hdirect, hears.version, hsent.validPathLen, hlong, .inl hsent.toLoad⟩
  | multi hsent =>
    exact ⟨hdirect, hears.version, hsent.validPathLen, hlong,
      .inr ⟨_, multiAckHead_and 1, hsent.toLoad⟩⟩
  | pathReturn _ hsent =>
    rw [hsent.type_eq] at htype
    exact absurd htype (by decide)

/-- Behind the relays of its path the acknowledgement arrives. -/
theorem Acknowledges.arrives {relays : List Relay} {arrives : Packet}
    (h : Acknowledges c secret destHash srcHash ack reply) (hlong : 4 ≤ ack.length)
    (hdirect : reply.isRouteDirect = true)
    (htype : reply.getPayloadType = payloadTypeAck ∨ reply.getPayloadType = payloadTypeMultipart)
    (hpath : reply.pathBytes = relays.flatMap fun relay => relay.hash reply.getPathHashSize.toNat)
    (hrelayed : AckRelayed relays reply arrives) (hears : Hears arrives snrQ4 got) :
    CarriesAck ack got ∧ got.getPathHashCount = 0 := by
  obtain ⟨snrQ4', first, hfirst⟩ : ∃ snrQ4' first, Hears reply snrQ4' first := by
    cases hrelayed with
    | sent => exact ⟨_, _, hears⟩
    | relayed hheard => exact ⟨_, _, hheard⟩
  obtain ⟨hcarries, hcount⟩ :=
    (ackRelayed_carries (h.carriesAck hlong hdirect htype hfirst) hpath).1 arrives hrelayed
  exact ⟨hcarries.heard hears, (congrArg hashCountOf hears.fields.pathLenField).trans hcount⟩

/-! ### At its end -/

/-- Whether a packet is taken on says nothing to the host. -/
instance (packet : Packet) : Moves KeepsCorrelation (meshRouteRecvPacket packet) where
  moves ctx w := by
    simp only [meshRouteRecvPacket]
    split
    · rename_i hroute
      have hroom : packet.getPathHashCount.toNat * packet.getPathHashSize.toNat
          + packet.getPathHashSize.toNat ≤ maxPathLen := by
        rw [← Nat.succ_mul]
        exact hroute.2.2
      have hallow : KeepsCorrelation ctx w (allowPacketForward packet ctx w).2 := Moves.moves ctx w
      rw [Prog.run_bind, Prog.run_ite]
      split
      · exact hallow
      · rw [Prog.run_bind, Prog.run_bind_of (access_of hroom ctx _)]
        have hrest : ∀ v : World, KeepsCorrelation ctx v ((getRetransmitDelay
            (appendSelfToPath v.selfId.identity packet) >>= fun delay =>
              pure (actionRetransmitDelayed
                (appendSelfToPath v.selfId.identity packet).getPathHashCount
                delay, appendSelfToPath v.selfId.identity packet) : M (Action × Packet)) ctx v).2 :=
          fun v => Moves.moves ctx v
        exact Composes.trans ctx _ _ _ hallow (hrest _)
    · exact Composes.refl ctx w

/-- An initialised runtime looks the code up. -/
theorem onAckRecv_run (hinit : w.initialized = true) (packet : Packet) (code : UInt32) :
    (onAckRecv packet code ctx w).2 = (expectedAckHandle code ctx w).2 := by
  rw [onAckRecv, whenInitialized_run hinit]
  rfl

/-- A host that always computes the same hash has seen a packet or not. -/
theorem unseen_or_seen (sha : List UInt8 → PacketHash) [hsha : FixedHash ctx sha] (packet : Packet)
    (w : World) : Unseen packet ctx w ∨ Seen packet ctx w := by
  have hsame : ∀ n, (tablesHasSeen packet ctx { w with tick := n }).1
      = (tablesHasSeen packet ctx w).1 := by
    intro n
    have hhash : (calculateHash packet ctx { w with tick := n }).1
        = (calculateHash packet ctx w).1 := by
      rw [calculateHash_run, calculateHash_run]
      split
      · rfl
      · exact (hsha.packetHash_eq n _).trans (hsha.packetHash_eq w.tick _).symm
    have htables : ∀ v, (calculateHash packet ctx v).2.tables = v.tables := by
      intro v
      rw [((inferInstance : Moves Asks (calculateHash packet)).moves ctx v).1]
    rw [tablesHasSeen_run, tablesHasSeen_run]
    dsimp only
    rw [hhash, htables, htables]
    split <;> rfl
  cases hseen : (tablesHasSeen packet ctx w).1 with
  | false => exact .inl fun n _ => (hsame n).trans hseen
  | true => exact .inr fun n _ => (hsame n).trans hseen

theorem Seen.after (h : Seen packet ctx w) (hasks : Asks ctx w w') :
    (tablesHasSeen packet ctx w').1 = true := by
  rw [hasks.1]
  exact h _ hasks.2

/-- A packet that was seen is released. -/
theorem meshOnRecvPacket_seen (htype : got.getPayloadType = payloadTypeAck ∨
      got.getPayloadType = payloadTypeMultipart ∨ got.getPayloadType = payloadTypePath)
    (hvalid : isValidPathLen got.pathLenField = true) (hend : AtEnd got)
    (hpasses : FromNow ctx w (Hooks.Passes got)) (hseen : Seen (ackInside got) ctx w) :
    KeepsCorrelation ctx w (meshOnRecvPacket got ctx w).2 := by
  have hother : got.getPayloadType ≠ payloadTypeTrace ∧
      got.getPayloadType ≠ payloadTypeControl := by
    rcases htype with htype | htype | htype <;> (rw [htype]; decide)
  obtain ⟨w₁, hasks, hrun⟩ := meshOnRecvPacket_delivers hend hother.1 hother.2 hpasses.now
  have hread := hseen.after hasks
  refine Composes.trans ctx _ _ _ (Mute.keepsCorrelation hasks.mute) ?_
  have hchecked : KeepsCorrelation ctx w₁ (tablesHasSeen (ackInside got) ctx w₁).2 :=
    Moves.moves ctx w₁
  have hnothing : KeepsCorrelation ctx w₁ w₁ := Composes.refl ctx w₁
  rw [hrun, onRecvPayload]
  rcases htype with htype | htype | htype
  · have hinside : ackInside got = got := by rw [ackInside, htype]; rfl
    rw [hinside] at hread hchecked
    rw [htype, if_pos rfl, onRecvAck, Prog.run_ite]
    split
    · exact hnothing
    · rw [Prog.run_bind_of (payloadRead_run (by omega) ctx w₁), Prog.run_bind, hread]
      exact hchecked
  · have hinside : ackInside got = multipartInner got := by rw [ackInside, htype]; rfl
    rw [hinside] at hread hchecked
    rw [htype]
    change KeepsCorrelation ctx w₁ (onRecvMultipart got ctx w₁).2
    rw [onRecvMultipart, Prog.run_ite]
    split
    · rw [Prog.run_bind_of (payloadByte_run (by omega) ctx w₁), Prog.run_ite]
      split
      · rw [Prog.run_bind_of (accessInner_run hvalid (by omega) ctx w₁), Prog.run_bind, hread,
          if_pos (.inl rfl)]
        exact hchecked
      · exact hnothing
    · exact hnothing
  · have hinside : ackInside got = got := by rw [ackInside, htype]; rfl
    rw [hinside] at hread hchecked
    rw [htype]
    change KeepsCorrelation ctx w₁ (onRecvPeer got ctx w₁).2
    rw [onRecvPeer, Prog.run_ite]
    split
    · exact hnothing
    · rw [Prog.run_bind_of (payloadByte_run (by omega) ctx w₁),
        Prog.run_bind_of (payloadByte_run (by omega) ctx w₁), Prog.run_ite]
      split
      · exact hnothing
      · rw [Prog.run_bind, hread]
        exact hchecked

theorem LooksUp.of_onAckRecv {v : World} (h : KeepsCorrelation ctx w v)
    (hinit : w.initialized = true)
    (hrest : KeepsCorrelation ctx (onAckRecv packet code ctx v).2 w') : LooksUp code ctx w w' :=
  ⟨v, h, by rwa [onAckRecv_run (h.2.2.2.1.trans hinit)] at hrest⟩

/-- By itself, be it a flood or not. -/
theorem meshOnRecvPacket_plainAck (hload : Load payloadTypeAck ack got) (hlong : 4 ≤ ack.length)
    (hend : AtEnd got) (hunseen : Unseen got ctx w) (hpasses : FromNow ctx w (Hooks.Passes got))
    (hinit : w.initialized = true) :
    LooksUp (wordAt ack) ctx w (meshOnRecvPacket got ctx w).2 := by
  have hword : wordAt (ack.take 4) = wordAt ack := by rw [wordAt, List.take_take]; rfl
  have hlen : got.payloadLen = ack.length := hload.payloadLen_eq
  have hcode : got.payload.slice 0 4 = ack.take 4 := hload.slice_payload (by omega)
  obtain ⟨w₁, hasks, hrun⟩ := meshOnRecvPacket_delivers hend (hload.type_eq ▸ by decide)
    (hload.type_eq ▸ by decide) hpasses.now
  have hseen := hunseen.after hasks
  have hread : KeepsCorrelation ctx w₁ (tablesHasSeen got ctx w₁).2 := Moves.moves ctx w₁
  have hover : KeepsCorrelation ctx (tablesHasSeen got ctx w₁).2
      (handOver got ctx (tablesHasSeen got ctx w₁).2).2 := Moves.moves ctx _
  have hbefore : KeepsCorrelation ctx w (handOver got ctx (tablesHasSeen got ctx w₁).2).2 :=
    Composes.trans ctx _ _ _ (Mute.keepsCorrelation hasks.mute)
      (Composes.trans ctx _ _ _ hread hover)
  have hroute : ∀ v, KeepsCorrelation ctx v (meshRouteRecvPacket got ctx v).2 := Moves.moves ctx
  rw [hrun, onRecvPayload, hload.type_eq, if_pos rfl, onRecvAck, if_neg (by omega),
    Prog.run_bind_of (payloadRead_run (by omega) ctx w₁), hcode, hword, Prog.run_bind, hseen,
    if_neg Bool.false_ne_true, Prog.run_bind, Prog.run_bind]
  exact .of_onAckRecv hbefore hinit (hroute _)

/-- As the extra of a path return. -/
theorem meshOnRecvPacket_ackExtra (hpath : pathBytesOf pathLen ≤ path.length)
    (hload : Load payloadTypePath (datagramBytes c secret destHash srcHash
      (pathReturnText pathLen path payloadTypeAck ack)) got)
    (htakes : TakesPathReturn c secret sender destHash srcHash
      (pathReturnText pathLen path payloadTypeAck ack) got ctx w)
    (hlong : 4 ≤ ack.length) (hinit : w.initialized = true)
    (hchat : FromNow ctx w (Hooks.HasRole .chat)) :
    LooksUp (wordAt ack) ctx w (meshOnRecvPacket got ctx w).2 := by
  obtain ⟨w₁, zeros, hunpacks, hrun⟩ := meshOnRecvPacket_pathReturn hpath hload htakes
  have htype : payloadTypeAck &&& 0x0F = payloadTypeAck := by decide
  have hmute := hunpacks.mute
  let path' := path.take (pathBytesOf pathLen) ++ payloadTypeAck :: (ack ++ List.replicate zeros 0)
  let extra := ack ++ List.replicate zeros 0
  let asked : World := { w₁ with tick := w₁.tick + 1 }
  have hgets : Prog.gets World.initialized ctx w₁ = (true, w₁) := by
    rw [← hmute.2.2.2.1.trans hinit]
    rfl
  have hdiscovery : pendingDiscoveryHandle sender.publicKey got path' pathLen payloadTypeAck
      extra ctx w₁ = (false, w₁) := by
    have hcorrelation : Prog.gets World.correlation ctx w₁ = (w₁.correlation, w₁) := rfl
    rw [pendingDiscoveryHandle, Prog.run_bind_of hcorrelation, if_pos (Or.inr (Or.inl (by decide)))]
    rfl
  have hrole : localRoleIs .chat ctx w₁ = (true, asked) :=
    (hchat _ hmute.2.2.2.2.2).localRoleIs_run
  have hextra : extra.length ≥ 4 := by
    rw [List.length_append]
    omega
  have htaken : (onPeerPathRecv got sender secret path' pathLen payloadTypeAck extra ctx w₁)
      = (do
          peerPathPublish got sender path' pathLen payloadTypeAck extra
          localRoleIs .chat : M Bool) ctx (expectedAckHandle (wordAt ack) ctx asked).2 := by
    rw [onPeerPathRecv, Prog.run_bind_of hgets, Bool.not_true, if_neg Bool.false_ne_true,
      Prog.run_bind_of hdiscovery, if_neg Bool.false_ne_true, Prog.run_bind_of hrole,
      if_pos ⟨rfl, rfl, hextra⟩, wordAt_append_zeros]
    rfl
  have hasked : KeepsCorrelation ctx w asked :=
    Composes.trans ctx _ _ _ (Mute.keepsCorrelation hmute)
      (Mute.keepsCorrelation ⟨rfl, rfl, rfl, rfl, rfl, Nat.le_succ _⟩)
  have hpublish : ∀ v, KeepsCorrelation ctx v ((do
      peerPathPublish got sender path' pathLen payloadTypeAck extra
      localRoleIs .chat : M Bool) ctx v).2 := Moves.moves ctx
  have hreturn : ∀ answer v,
      KeepsCorrelation ctx v (reciprocate got srcHash secret path' pathLen answer ctx v).2 :=
    fun _ => Moves.moves ctx
  refine ⟨asked, hasked, ?_⟩
  dsimp only at hrun
  rw [htype] at hrun
  rw [hrun, htaken]
  exact Composes.trans ctx _ _ _ (hpublish _) (hreturn _ _)

/-- **Whatever way it takes**, the code of an acknowledgement is looked up where it arrives
first. -/
theorem Acknowledges.looksUp (h : Acknowledges c secret destHash srcHash ack reply)
    (hlong : 4 ≤ ack.length) (hreaches : AckReaches reply got)
    (htakes : TakesAck c secret sender destHash srcHash got ctx w)
    (hnew : Unseen (ackInside got) ctx w) :
    LooksUp (wordAt ack) ctx w (meshOnRecvPacket got ctx w).2 := by
  -- A packet that carries the acknowledgement for this node only.
  have hcarried : CarriesAck ack got → got.getPathHashCount = 0 →
      LooksUp (wordAt ack) ctx w (meshOnRecvPacket got ctx w).2 := by
    intro hcarries hcount
    have hunseen : (tablesHasSeen (ackInside got) ctx w).1 = false := hnew _ le_rfl
    have hread : KeepsCorrelation ctx w (tablesHasSeen (ackInside got) ctx w).2 := Moves.moves ctx w
    rw [meshOnRecvPacket_ackArrives hcarries hcount hunseen]
    exact .of_onAckRecv hread htakes.initialized (Composes.refl ctx _)
  cases hreaches with
  | routed hdirect htype hpath hrelayed hears =>
    obtain ⟨hcarries, hcount⟩ := h.arrives hlong hdirect htype hpath hrelayed hears
    exact hcarried hcarries hcount
  | relayed hrelayed =>
    cases h with
    | plain hsent =>
      have hload := hrelayed.load hsent.toLoad
      have hinside : ackInside got = got := by rw [ackInside, hload.type_eq]; rfl
      exact meshOnRecvPacket_plainAck hload hlong htakes.atEnd (hinside ▸ hnew) htakes.passes
        htakes.initialized
    | multi hsent hroute =>
      have hcarries := carriesAck_of_multi hlong (multiAckHead_and 1) hroute hsent.toLoad hrelayed
      exact hcarried hcarries (htakes.atEnd hcarries.direct)
    | pathReturn hpath hsent =>
      have hload := hrelayed.load hsent.toLoad
      have hinside : ackInside got = got := by rw [ackInside, hload.type_eq]; rfl
      exact meshOnRecvPacket_ackExtra hpath hload (htakes.opens (hinside ▸ hnew) _ hload) hlong
        htakes.initialized htakes.chat

/-- An acknowledgement that the node has seen is released. -/
theorem Acknowledges.keepsCorrelation (h : Acknowledges c secret destHash srcHash ack reply)
    (hlong : 4 ≤ ack.length) (hreaches : AckReaches reply got)
    (htakes : TakesAck c secret sender destHash srcHash got ctx w)
    (hseen : Seen (ackInside got) ctx w) :
    KeepsCorrelation ctx w (meshOnRecvPacket got ctx w).2 := by
  cases hreaches with
  | routed hdirect htype hpath hrelayed hears =>
    obtain ⟨hcarries, -⟩ := h.arrives hlong hdirect htype hpath hrelayed hears
    have htype' := hcarries.type_cases
    exact meshOnRecvPacket_seen (by tauto) hcarries.validPathLen htakes.atEnd htakes.passes hseen
  | relayed hrelayed =>
    have hvalid := hrelayed.encodable.validPathLen
    cases h with
    | plain hsent =>
      exact meshOnRecvPacket_seen (.inl (hrelayed.load hsent.toLoad).type_eq) hvalid htakes.atEnd
        htakes.passes hseen
    | multi hsent =>
      exact meshOnRecvPacket_seen (.inr (.inl (hrelayed.load hsent.toLoad).type_eq)) hvalid
        htakes.atEnd htakes.passes hseen
    | pathReturn _ hsent =>
      exact meshOnRecvPacket_seen (.inr (.inr (hrelayed.load hsent.toLoad).type_eq)) hvalid
        htakes.atEnd htakes.passes hseen

/-! ### In the table -/

theorem expectedAckHandle_fst (code : UInt32) (ctx : Ctx) (w : World) :
    (expectedAckHandle code ctx w).1
      = (ExpectedAck.handle ctx.ulongBits (clockMillisGet ctx w).1 code
      w.correlation.expectedAcks).2.isSome := by
  obtain ⟨-, hcorrelation, -⟩ := (inferInstance : Moves Mute clockMillisGet).moves ctx w
  have htold : ∀ (found : Option (List UInt8 × UInt8)) (v : World),
      ((found.elim (pure false) fun found => do
        emit (.messageAck found.1 found.2)
        pure true : M Bool) ctx v).1 = found.isSome := by
    rintro (_ | found) v <;> rfl
  rw [← hcorrelation]
  exact htold _ _

/-- What is kept unless its time has been reached is not new. -/
theorem KeptUnlessReached.eq_some {ulongBits nowMs : ℕ} {before after : Option Registration}
    {r : Registration} (h : KeptUnlessReached ulongBits nowMs before after) (hr : after = some r) :
    before = some r := by
  rcases h with hsame | ⟨hgone, -⟩
  · rwa [← hsame]
  · rw [hgone] at hr
    cases hr

/-- A code that nobody waits for makes no difference. -/
theorem expectedAckHandle_unexpected (h : w.correlation.Unexpected code) :
    (expectedAckHandle code ctx w).2.events = w.events ∧
      (expectedAckHandle code ctx w).2.correlation.Unexpected code := by
  obtain ⟨hevents, -⟩ := (inferInstance : Moves Mute clockMillisGet).moves ctx w
  rcases expectedAckHandle_cases code ctx w with ⟨hrun, hkept⟩ | ⟨i, r, hopen, htag, -⟩
  · rw [hrun]
    exact ⟨hevents, fun i r hr => h i r ((hkept (.ack i)).eq_some hr)⟩
  · exact absurd htag (h i r hopen)

/-- A code that one registration waits for in time ends it, and the host is told so. -/
theorem expectedAckHandle_expected {r : Registration} (h : w.correlation.Expects r)
    (hnot : timeReached ctx.ulongBits (clockMillisGet ctx w).1 r.expiresAtMs = false) :
    (expectedAckHandle r.tag ctx w).2.events = w.events ++ [.messageAck r.keyPrefix r.attempt] ∧
      (expectedAckHandle r.tag ctx w).2.correlation.Unexpected r.tag := by
  obtain ⟨i, hi⟩ := h
  obtain ⟨hopen, -⟩ := (hi i r).mpr ⟨rfl, rfl⟩
  rcases expectedAckHandle_cases r.tag ctx w with
    ⟨hrun, -⟩ | ⟨j, r', hopen', htag, -, hrun, hfree, hkept⟩
  · have hnone : (ExpectedAck.handle ctx.ulongBits (clockMillisGet ctx w).1 r.tag
        w.correlation.expectedAcks).2 = none := by
      rw [← Option.isNone_iff_eq_none, ← Option.not_isSome, ← expectedAckHandle_fst, hrun]
      rfl
    rw [Correlation.handle_eq_none hnone hopen rfl] at hnot
    cases hnot
  · obtain ⟨rfl, rfl⟩ := (hi j r').mp ⟨hopen', htag⟩
    rw [hrun]
    refine ⟨rfl, fun k r'' hr htag' => ?_⟩
    by_cases hk : k = j
    · rw [hk] at hr
      exact Option.some_ne_none _ (hr.symm.trans hfree)
    · have hbefore := (hkept (.ack k) fun heq => hk (Slot.ack.inj heq)).eq_some hr
      exact hk ((hi k r'').mp ⟨hbefore, htag'⟩).1

/-! ### Copies -/

/-- What goes on without the code leaves it expected. -/
theorem Correlation.Expects.spared {r : Registration} (h : w.correlation.Expects r)
    (hspares : Spares r.tag w w') : w'.correlation.Expects r := by
  obtain ⟨i, hi⟩ := h
  refine ⟨i, fun j r' => ?_⟩
  rw [← hi j r']
  exact and_congr_left (hspares j r')

theorem Correlation.Unexpected.spared (h : w.correlation.Unexpected code)
    (hspares : Spares code w w') :
    w'.correlation.Unexpected code :=
  fun i r hr htag => h i r ((hspares i r htag).mp hr) htag

/-- A code is looked up in the table that was there. -/
theorem LooksUp.exists_handle (h : LooksUp code ctx w w') :
    ∃ v : World, v.correlation = w.correlation ∧
    v.millisOverride = w.millisOverride ∧ w.tick ≤ v.tick ∧ v.tick ≤ w'.tick ∧
    w'.correlation = (expectedAckHandle code ctx v).2.correlation ∧
    ∀ told, (expectedAckHandle code ctx v).2.events = v.events ++ told →
      w'.events.filter Event.isCorrelated
        = w.events.filter Event.isCorrelated ++ told.filter Event.isCorrelated := by
  obtain ⟨v, hbefore, hafter⟩ := h
  have hticks : v.tick ≤ (expectedAckHandle code ctx v).2.tick := by
    have hread := (inferInstance : Moves Asks clockMillisGet).moves ctx v
    rcases expectedAckHandle_cases code ctx v with ⟨hrun, -⟩ | ⟨_, _, -, -, -, hrun, -⟩ <;>
      (rw [hrun]; exact hread.2)
  refine ⟨v, hbefore.2.1, hbefore.2.2.1, hbefore.2.2.2.2.2,
    hticks.trans hafter.2.2.2.2.2, hafter.2.1, fun told htold => ?_⟩
  rw [hafter.filter_events, htold, List.filter_append, hbefore.filter_events]

theorem toldBetween_eq {told : List Event} (h : w'.events.filter Event.isCorrelated
    = w.events.filter Event.isCorrelated ++ told) : toldBetween w w' = told := by
  rw [toldBetween, h, List.drop_left]

/-- The first copy in time ends the registration, and the host is told so. -/
theorem LooksUp.told_expected {r : Registration} (h : LooksUp r.tag ctx w w')
    (hexpects : w.correlation.Expects r) (hlasts : r.Lasts ctx w w') :
    toldBetween w w' = [.messageAck r.keyPrefix r.attempt] ∧ w'.correlation.Unexpected r.tag := by
  obtain ⟨v, hcorrelation, hclock, hlater, hearlier, hend, htold⟩ := h.exists_handle
  rw [← hcorrelation] at hexpects
  obtain ⟨hevents, hunexpected⟩ :=
    expectedAckHandle_expected hexpects (hlasts v hclock hlater hearlier)
  refine ⟨toldBetween_eq (htold _ hevents), ?_⟩
  rwa [hend]

/-- To any other copy the table has no answer. -/
theorem LooksUp.told_unexpected (h : LooksUp code ctx w w')
    (hunexpected : w.correlation.Unexpected code) :
    toldBetween w w' = [] ∧ w'.correlation.Unexpected code := by
  obtain ⟨v, hcorrelation, -, -, -, hend, htold⟩ := h.exists_handle
  rw [← hcorrelation] at hunexpected
  obtain ⟨hevents, hunexpected'⟩ := @expectedAckHandle_unexpected ctx v code hunexpected
  refine ⟨toldBetween_eq (htold [] (hevents.trans (List.append_nil _).symm)), ?_⟩
  rwa [hend]

theorem BringsCode.looksUp (h : BringsCode c code got ctx w) (hnew : Unseen (ackInside got) ctx w) :
    LooksUp code ctx w (meshOnRecvPacket got ctx w).2 := by
  obtain ⟨secret, sender, destHash, srcHash, ack, reply, hlong, rfl, hack, hreaches, htakes⟩ := h
  exact hack.looksUp hlong hreaches htakes hnew

/-- To a code that nobody waits for the table has no answer, be the packet seen or not. -/
theorem BringsCode.told_unexpected (h : BringsCode c code got ctx w) (sha : List UInt8 → PacketHash)
    [FixedHash ctx sha] (hunexpected : w.correlation.Unexpected code) :
    toldBetween w (meshOnRecvPacket got ctx w).2 = [] ∧
      (meshOnRecvPacket got ctx w).2.correlation.Unexpected code := by
  have hread : Unseen (ackInside got) ctx w ∨ Seen (ackInside got) ctx w := unseen_or_seen sha _ w
  rcases hread with hnew | hseen
  · exact (h.looksUp hnew).told_unexpected hunexpected
  · obtain ⟨secret, sender, destHash, srcHash, ack, reply, hlong, -, hack, hreaches, htakes⟩ := h
    have helse := hack.keepsCorrelation hlong hreaches htakes hseen
    refine ⟨toldBetween_eq (helse.filter_events.trans (List.append_nil _).symm), ?_⟩
    rwa [helse.2.1]

/-- The host is told nothing by copies of a code that nobody waits for. -/
theorem AckCopies.told_eq_nil {told : List Event} (h : AckCopies c code ctx told w w')
    (sha : List UInt8 → PacketHash) [FixedHash ctx sha]
    (hunexpected : w.correlation.Unexpected code) :
    told = [] ∧ w'.correlation.Unexpected code := by
  induction h with
  | none => exact ⟨rfl, hunexpected⟩
  | copy _ hbrings ih =>
    obtain ⟨rfl, hunexpected'⟩ := ih hunexpected
    obtain ⟨hnothing, hafter⟩ := hbrings.told_unexpected sha hunexpected'
    exact ⟨hnothing, hafter⟩
  | other _ hspares ih =>
    obtain ⟨rfl, hunexpected'⟩ := ih hunexpected
    exact ⟨rfl, hunexpected'.spared hspares⟩

/-- **One answer.** Whatever came before, the first copy in time is told to the host and frees the
slot, and no copy after it is told. -/
theorem ackCopies_once {r : Registration} (sha : List UInt8 → PacketHash) [FixedHash ctx sha]
    (hexpects : w.correlation.Expects r) (hspares : Spares r.tag w w')
    (hbrings : BringsCode c r.tag got ctx w') (hnew : Unseen (ackInside got) ctx w')
    (hlasts : r.Lasts ctx w' (meshOnRecvPacket got ctx w').2) :
    toldBetween w' (meshOnRecvPacket got ctx w').2 = [.messageAck r.keyPrefix r.attempt] ∧
      ∀ told w'', AckCopies c r.tag ctx told (meshOnRecvPacket got ctx w').2 w'' →
        told = [] ∧ w''.correlation.Unexpected r.tag := by
  obtain ⟨htold, hunexpected⟩ := (hbrings.looksUp hnew).told_expected
    (hexpects.spared hspares) hlasts
  exact ⟨htold, fun told w'' hcopies => hcopies.told_eq_nil sha hunexpected⟩

end

/-! ### The result -/

/-- A direct packet with an acknowledgement of the code 1, that has no hops to go. -/
def firstAck : Packet :=
  { Packet.init with
    header := 0x0E, payloadLen := 6
    payload := (Buf.zero _).store 0 [1, 0, 0, 0, 0, 9] }

/-- A CHAT node that waits for that code. -/
def World.expecting : World :=
  { World.boot with
    initialized := true
    correlation := World.boot.correlation.expectedAckRegister 32 0 1 (keyPrefixOf (Buf.zero _)) 2 }

/-- A host that hashes data to their first bytes, behind the head of a text, and has sixteen
buffers. -/
def Ctx.texting : Ctx :=
  { Ctx.listening with
    maxPoolSize := 16
    poolSize := 16
    hooks := fun n =>
      { Ctx.listening.hooks n with
        sha256 := fun n data => some ((Buf.zero n).store 0 data)
        sha256TwoFragments := fun n frag1 _ => some ((Buf.zero n).store 0 (frag1.drop 5)) } }

end Meshcore
