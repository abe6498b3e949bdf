import Meshcore.Lib.CursorSearch
import Meshcore.PathReturns
import Meshcore.Retransmit

/-!
# Packets for one node

A packet to a peer names the receiver and the sender by one byte each, so several peers may be
meant. The host offers them slot by slot, and the first one whose secret opens the packet is taken
for the sender. An anonymous request carries the key of its sender, and is tried with that alone.
What was opened is handed over once and the packet is marked, and a packet that is marked is not
relayed; a packet that nobody's secret opens goes on like any other flood. Only a packet that has no
room for a MAC and some text is dropped before all that.

## Main definitions

* `Delivery`, `deliver` — what a packet brings, and its way to the role logic
* `Disposed` — the packet is delivered and released, or routed
* `SearchedPeer`, `TriedKey` — what becomes of a packet to a peer, and of an anonymous request

## Main results

* `tryPeers_eq` — the candidate loop is a search through a cursor
* `addressed_delivered_or_routed` — what becomes of a new flood for one node
-/

namespace Meshcore

/-! ### The candidate loop -/

/-- A peer that the host offers: its slot, the secret shared with it, and who it is. -/
abbrev Candidate : Type := ℕ × Buf publicKeySize × PeerIdentity

/-- What comes out of a packet: a path, or the data of another type. -/
inductive Delivery where
  | data (data : List UInt8)
  | path (r : PathReturn)

/-- What a plaintext brings. A path has to be well-formed. -/
def Delivery.ofPlain (packet : Packet) (data : List UInt8) : Option Delivery :=
  if data.length = 0 then none
  else if packet.getPayloadType = payloadTypePath then (parsePathReturn data).map .path
  else some (.data data)

/-- The next peer with this hash, from slot `cursor` on. -/
def offer (srcHash : UInt8) (cursor : ℕ) : M (Option Candidate) :=
  hook fun h => h.peerNextSharedSecretByHash srcHash cursor

/-- The secret of a peer is tried. -/
def tryOpen (packet : Packet) (macAndData : List UInt8) (candidate : Candidate) :
    M (Option Delivery) := do
  let data ← utilsMacThenDecrypt candidate.2.1 macAndData
  pure (Delivery.ofPlain packet data)

/-- What was opened goes to the role logic, as coming from this peer. -/
def deliver (packet : Packet) (srcHash : UInt8) (candidate : Candidate) : Delivery → M Unit
  | .data data => do
    handOver packet
    onPeerDataRecv packet packet.getPayloadType candidate.2.2 candidate.2.1 data
  | .path r => onRecvPath packet srcHash candidate.2.2 candidate.2.1 r

/-- The loop searches for the peer and delivers to it. -/
theorem tryPeers_eq (packet : Packet) (srcHash : UInt8) (macAndData : List UInt8) (n cursor : ℕ)
    (ctx : Ctx) (w : World) :
    tryPeers packet srcHash macAndData n cursor ctx w =
      (do
        let found ← CursorSearch.run (offer srcHash) (tryOpen packet macAndData) n cursor
        found.elim (pure false) fun found => do
          deliver packet srcHash found.1 found.2
          pure true) ctx w := by
  induction n generalizing cursor w with
  | zero => rfl
  | succ n ih =>
    have hoffer : hook (fun h => h.peerNextSharedSecretByHash srcHash cursor)
        = offer srcHash cursor :=
      rfl
    rw [tryPeers, hoffer, CursorSearch.run, Prog.run_bind, Prog.run_bind, Prog.run_bind]
    cases (offer srcHash cursor ctx w).1 with
    | none => rfl
    | some candidate =>
      rw [Option.elim_some, Option.elim_some, tryOpen, Prog.run_bind, Prog.run_bind, Prog.run_bind,
        Prog.run_pure, Delivery.ofPlain]
      -- the plaintext is refused, or is what there is to deliver
      split
      · rw [ih]
        rfl
      split
      · cases parsePathReturn (utilsMacThenDecrypt candidate.2.1 macAndData ctx
          (offer srcHash cursor ctx w).2).1 with
        | none =>
          rw [Option.elim_none, ih]
          rfl
        | some r => rfl
      · rfl

/-- The loop, when the search ends: what it did before was to ask. -/
theorem tryPeers_of_ends {packet : Packet} {srcHash : UInt8} {macAndData : List UInt8} {ctx : Ctx}
    {w w' : World} {refused : List Candidate} {found : Option (Candidate × Delivery)} {n : ℕ}
    (h : CursorSearch.Ends (offer srcHash) (tryOpen packet macAndData) ctx 0 w refused found w')
    (hn : refused.length < n) :
    tryPeers packet srcHash macAndData n 0 ctx w = found.elim (false, w') fun found =>
      (true, (deliver packet srcHash found.1 found.2 ctx w').2) := by
  rw [tryPeers_eq, Prog.run_bind_of (h.run_eq hn)]
  cases found <;> rfl

instance (srcHash : UInt8) (cursor : ℕ) : Moves Asks (offer srcHash cursor) := by
  unfold offer; infer_instance

instance (packet : Packet) (macAndData : List UInt8) (candidate : Candidate) :
    Moves Asks (tryOpen packet macAndData candidate) := by
  unfold tryOpen; infer_instance

/-- The host offers peers from the cursor on, out of a table with `bound` slots. -/
def Hooks.Slotted (srcHash : UInt8) (bound : ℕ) (hooks : Hooks) : Prop :=
  ∀ cursor candidate, hooks.peerNextSharedSecretByHash srcHash cursor = some candidate →
    cursor ≤ candidate.1 ∧ candidate.1 < bound

/-- The search ends with such a host, whatever it offers and whatever the secrets open. -/
theorem exists_ends_of_slotted (packet : Packet) {srcHash : UInt8} (macAndData : List UInt8)
    {bound : ℕ} {ctx : Ctx} {w : World} (h : FromNow ctx w (Hooks.Slotted srcHash bound)) :
    ∃ refused found w', CursorSearch.Ends (offer srcHash) (tryOpen packet macAndData)
      ctx 0 w refused
        found w' ∧ Asks ctx w w' ∧ refused.length ≤ bound ∧
      (CursorSearch.slots refused found).Pairwise (· < ·) := by
  have hbounded : CursorSearch.Bounded (offer srcHash) (tryOpen packet macAndData) ctx (Asks ctx w)
      bound := by
    refine ⟨fun cursor v hv => ?_, fun candidate v hv => ?_, fun cursor v candidate hv hsome => ?_⟩
    · exact Composes.trans ctx _ _ _ hv (Moves.moves ctx v)
    · exact Composes.trans ctx _ _ _ hv (Moves.moves ctx v)
    · exact h v.tick hv.2 cursor candidate hsome
  obtain ⟨refused, found, w', hends, hasks, hlen, hsorted, -⟩ :=
    CursorSearch.exists_ends hbounded 0 (Composes.refl ctx w)
  exact ⟨refused, found, w', hends, hasks, hlen, hsorted⟩

/-! ### What becomes of the packet -/

/-- Up to `w'` nobody was told anything. A packet that brings nothing is routed from there on like
any other flood; what it brings is handed over there, once, and the packet is released. -/
def Disposed (packet : Packet) (ctx : Ctx) (w w' : World) (delivery : Option (M Unit)) : Prop :=
  Mute ctx w w' ∧ meshOnRecvPacket packet ctx w =
    delivery.elim (meshRouteRecvPacket packet ctx w') fun delivery =>
      ((actionRelease, packet.markDoNotRetransmit), (delivery ctx w').2)

/-- A flood that this node has not seen and that its host lets pass. -/
structure NewFlood (packet : Packet) (ctx : Ctx) (w : World) : Prop where
  isFlood : packet.isRouteFlood = true
  unseen : Unseen packet ctx w
  passes : (ctx.hooks w.tick).Passes packet

/-- The types of packets to a peer. -/
def peerTypes : List UInt8 :=
  [payloadTypePath, payloadTypeReq, payloadTypeResponse, payloadTypeTxtMsg]

/-- The MAC and the text of a packet to a peer. -/
def Packet.peerText (packet : Packet) : List UInt8 := packet.payload.slice 2 (packet.payloadLen - 2)

/-- The sender of an anonymous request. -/
def Packet.anonSender (packet : Packet) : Identity :=
  (Buf.zero _).store 0 (packet.payload.slice 1 publicKeySize)

/-- The MAC and the text of an anonymous request. -/
def Packet.anonText (packet : Packet) : List UInt8 :=
  packet.payload.slice (1 + publicKeySize) (packet.payloadLen - (1 + publicKeySize))

/-- What an anonymous request brings goes to the role logic. -/
def deliverAnon (packet : Packet) (secret : Buf publicKeySize) (data : List UInt8) : M Unit := do
  handOver packet
  emit (.meshOnAnonDataRecv packet secret packet.anonSender data)

/-- The host is asked for peers, if the packet is for this node: those that were refused come before
the one that was found, in the order of the slots. To that one the packet is delivered. -/
def SearchedPeer (packet : Packet) (bound : ℕ) (ctx : Ctx) (w : World) : Prop :=
  ∃ w₁ refused found w₂, Mute ctx w w₁ ∧
    (if identityIsHashMatch w.selfId.identity [packet.payload.get 0] then
      CursorSearch.Ends (offer (packet.payload.get 1)) (tryOpen packet packet.peerText) ctx 0 w₁
          refused found w₂ ∧
        refused.length ≤ bound ∧ (CursorSearch.slots refused found).Pairwise (· < ·)
    else found = none) ∧
    Disposed packet ctx w w₂
      (found.map fun found => deliver packet (packet.payload.get 1) found.1 found.2)

/-- The key in the packet is tried, if the packet is for this node. What it opens is delivered. -/
def TriedKey (packet : Packet) (ctx : Ctx) (w : World) : Prop :=
  let secret := ctx.calculateSharedSecret w.selfId.prvKey packet.anonSender
  ∃ w₁ data w₂, Mute ctx w w₁ ∧
    (if identityIsHashMatch w.selfId.identity [packet.payload.get 0] then
      utilsMacThenDecrypt secret packet.anonText ctx w₁ = (data, w₂)
    else data = []) ∧
    Disposed packet ctx w w₂ (if data = [] then none else some (deliverAnon packet secret data))

/-- The bytes that come before the MAC. -/
def Packet.addressLen (packet : Packet) : ℕ :=
  if packet.getPayloadType = payloadTypeAnonReq then 1 + publicKeySize else 2

section

variable {packet : Packet} {ctx : Ctx} {w : World}

/-- The payload of a new flood is looked at. -/
theorem NewFlood.arrives (h : NewFlood packet ctx w)
    (htrace : packet.getPayloadType ≠ payloadTypeTrace)
    (hcontrol : packet.getPayloadType ≠ payloadTypeControl) :
    ∃ w', Asks ctx w w' ∧ (tablesHasSeen packet ctx w').1 = false ∧
      meshOnRecvPacket packet ctx w = onRecvPayload packet ctx w' := by
  have hdirect : ¬packet.isRouteDirect = true := fun hdirect => by
    simpa [Packet.isRouteFlood_of_direct hdirect] using h.isFlood
  obtain ⟨w', hasks, hrun⟩ :=
    meshOnRecvPacket_delivers (fun hd => absurd hd hdirect) htrace hcontrol h.passes
  exact ⟨w', hasks, h.unseen.after hasks, hrun⟩

theorem cases_peerTypes (htype : packet.getPayloadType ∈ peerTypes) :
    packet.getPayloadType ≠ payloadTypeAck ∧ packet.getPayloadType ≠ payloadTypeTrace ∧
      packet.getPayloadType ≠ payloadTypeControl ∧
      (packet.getPayloadType = payloadTypePath ∨ packet.getPayloadType = payloadTypeReq ∨
        packet.getPayloadType = payloadTypeResponse ∨
        packet.getPayloadType = payloadTypeTxtMsg) := by
  simp only [peerTypes, List.mem_cons, List.not_mem_nil, or_false] at htype
  rcases htype with h | h | h | h <;> rw [h] <;> decide

/-- A packet to a peer that is not too short: its search, and what comes of it. -/
theorem meshOnRecvPacket_peer (h : NewFlood packet ctx w)
    (htype : packet.getPayloadType ∈ peerTypes) (hlong : 2 + cipherMacSize < packet.payloadLen)
    {bound : ℕ} (hslots : FromNow ctx w (Hooks.Slotted (packet.payload.get 1) bound))
    (hlimit : bound < ctx.peerLimit) : SearchedPeer packet bound ctx w := by
  obtain ⟨hack, htrace, hcontrol, hpeer⟩ := cases_peerTypes htype
  obtain ⟨w', hasks, hseen, hrun⟩ := h.arrives htrace hcontrol
  have hmute := Composes.trans ctx _ _ _ hasks.mute
    ((inferInstance : Moves Mute (tablesHasSeen packet)).moves ctx w')
  have hself : (tablesHasSeen packet ctx w').2.selfId = w.selfId := by
    rw [selfId_tablesHasSeen, hasks.1]
  have hbytes : 0 < packet.payloadLen ∧ 1 < packet.payloadLen ∧ ¬packet.payloadLen < 2 := by
    omega
  have hpayload : onRecvPayload packet = onRecvPeer packet := by
    rw [onRecvPayload, if_neg hack, if_pos hpeer]
  rw [hpayload, onRecvPeer, if_neg hbytes.2.2, Prog.run_bind_of (payloadByte_run hbytes.1 ctx w'),
    Prog.run_bind_of (payloadByte_run hbytes.2.1 ctx w'), if_neg (by omega), Prog.run_bind, hseen,
    if_neg (by decide)] at hrun
  generalize (tablesHasSeen packet ctx w').2 = w₁ at hmute hself hrun
  have hgets : Prog.gets World.selfId ctx w₁ = (w.selfId, w₁) := by rw [← hself]; rfl
  have henv : (Prog.env : M Ctx) ctx w₁ = (ctx, w₁) := rfl
  rw [Prog.run_bind_of hgets, Prog.run_bind_of henv,
    Prog.run_bind_of (payloadRead_run (by omega) ctx w₁)] at hrun
  by_cases hown : identityIsHashMatch w.selfId.identity [packet.payload.get 0] = true
  · obtain ⟨refused, found, w₂, hends, hasks₂, hlen, hsorted⟩ :=
      exists_ends_of_slotted packet packet.peerText (hslots.later hmute.2.2.2.2.2)
    refine ⟨w₁, refused, found, w₂, hmute, ?_, Composes.trans ctx _ _ _ hmute hasks₂.mute, ?_⟩
    · rw [if_pos hown]
      exact ⟨hends, hlen, hsorted⟩
    · rw [hrun, if_pos hown, Prog.run_bind]
      have htry := tryPeers_of_ends hends (hlen.trans_lt hlimit)
      rw [Packet.peerText] at htry
      rw [htry]
      cases found with
      | none => rfl
      | some found => exact meshRouteRecvPacket_marked packet ctx _
  · refine ⟨w₁, [], none, w₁, hmute, ?_, hmute, ?_⟩
    · rw [if_neg hown]
    · rw [hrun, if_neg hown]
      rfl

/-- An anonymous request that is not too short: it is tried with the key that it carries. -/
theorem meshOnRecvPacket_anon (h : NewFlood packet ctx w)
    (htype : packet.getPayloadType = payloadTypeAnonReq)
    (hlong : 1 + publicKeySize + cipherMacSize < packet.payloadLen) : TriedKey packet ctx w := by
  obtain ⟨secret, hkey⟩ : ∃ secret,
    secret = ctx.calculateSharedSecret w.selfId.prvKey packet.anonSender := ⟨_, rfl⟩
  rw [TriedKey, ← hkey]
  obtain ⟨w', hasks, hseen, hrun⟩ := h.arrives (by rw [htype]; decide) (by rw [htype]; decide)
  have hmute := Composes.trans ctx _ _ _ hasks.mute
    ((inferInstance : Moves Mute (tablesHasSeen packet)).moves ctx w')
  have hself : (tablesHasSeen packet ctx w').2.selfId = w.selfId := by
    rw [selfId_tablesHasSeen, hasks.1]
  have hbytes : 0 < packet.payloadLen ∧ ¬packet.payloadLen < 1 + publicKeySize ∧
      1 + publicKeySize ≤ packet.payloadLen := by
    omega
  have hpayload : onRecvPayload packet = onRecvAnon packet := by
    rw [onRecvPayload, htype]
    rfl
  rw [hpayload, onRecvAnon, if_neg hbytes.2.1, Prog.run_bind_of (payloadByte_run hbytes.1 ctx w'),
    if_neg (by omega), Prog.run_bind, hseen, if_neg (by decide)] at hrun
  generalize (tablesHasSeen packet ctx w').2 = w₁ at hmute hself hrun
  have hgets : Prog.gets World.selfId ctx w₁ = (w.selfId, w₁) := by rw [← hself]; rfl
  rw [Prog.run_bind_of hgets] at hrun
  by_cases hown : identityIsHashMatch w.selfId.identity [packet.payload.get 0] = true
  · have hsecret : localIdentityCalcSharedSecret w.selfId
        ((Buf.zero _).store 0 (packet.payload.slice 1 publicKeySize)) ctx w₁ = (secret, w₁) := by
      rw [hkey]
      rfl
    have hasks₂ := (inferInstance : Moves Asks (utilsMacThenDecrypt secret packet.anonText)).moves
      ctx w₁
    rw [hown, Bool.not_true, if_neg (by decide),
      Prog.run_bind_of (payloadRead_run hbytes.2.2 ctx w₁),
      Prog.run_bind_of hsecret, Prog.run_bind_of (payloadRead_run (by omega) ctx w₁)] at hrun
    cases hopened : utilsMacThenDecrypt secret packet.anonText ctx w₁ with
    | mk data w₂ =>
    rw [hopened] at hasks₂
    refine ⟨w₁, data, w₂, hmute, ?_, Composes.trans ctx _ _ _ hmute hasks₂.mute, ?_⟩
    · rw [if_pos hown]
      exact hopened
    rw [Packet.anonText] at hopened
    rw [hrun, Prog.run_bind_of hopened]
    by_cases hdata : data = []
    · rw [if_pos hdata, if_pos (List.length_eq_zero_iff.mpr hdata)]
      rfl
    · rw [if_neg hdata, if_neg (mt List.length_eq_zero_iff.mp hdata)]
      exact meshRouteRecvPacket_marked packet ctx _
  · refine ⟨w₁, [], w₁, hmute, ?_, hmute, ?_⟩
    · rw [if_neg hown]
    · rw [Bool.not_eq_true] at hown
      rw [hrun, hown]
      rfl

/-- A packet without room for a MAC and some text is dropped. -/
theorem meshOnRecvPacket_truncated (h : NewFlood packet ctx w)
    (htype : packet.getPayloadType ∈ payloadTypeAnonReq :: peerTypes)
    (hshort : packet.payloadLen ≤ packet.addressLen + cipherMacSize) :
    ∃ w', Asks ctx w w' ∧ meshOnRecvPacket packet ctx w = ((actionRelease, packet), w') := by
  rcases List.mem_cons.mp htype with hanon | hpeer
  · obtain ⟨w', hasks, -, hrun⟩ := h.arrives (by rw [hanon]; decide) (by rw [hanon]; decide)
    refine ⟨w', hasks, ?_⟩
    have hpayload : onRecvPayload packet = onRecvAnon packet := by
      rw [onRecvPayload, hanon]
      rfl
    rw [Packet.addressLen, if_pos hanon] at hshort
    rw [hrun, hpayload, onRecvAnon]
    by_cases hkey : packet.payloadLen < 1 + publicKeySize
    · rw [if_pos hkey]
      rfl
    · rw [if_neg hkey, Prog.run_bind_of (payloadByte_run (by omega) ctx w'), if_pos hshort]
      rfl
  · obtain ⟨hack, htrace, hcontrol, htypes⟩ := cases_peerTypes hpeer
    obtain ⟨w', hasks, -, hrun⟩ := h.arrives htrace hcontrol
    refine ⟨w', hasks, ?_⟩
    have hanon : packet.getPayloadType ≠ payloadTypeAnonReq := by
      rcases htypes with h | h | h | h <;> rw [h] <;> decide
    have hpayload : onRecvPayload packet = onRecvPeer packet := by
      rw [onRecvPayload, if_neg hack, if_pos htypes]
    rw [Packet.addressLen, if_neg hanon] at hshort
    rw [hrun, hpayload, onRecvPeer]
    by_cases htwo : packet.payloadLen < 2
    · rw [if_pos htwo]
      rfl
    · rw [if_neg htwo, Prog.run_bind_of (payloadByte_run (by omega) ctx w'),
        Prog.run_bind_of (payloadByte_run (by omega) ctx w'), if_pos hshort]
      rfl

end

/-! ### The result -/

/-- **Delivered or forwarded.** A new flood to a peer that has room for a MAC and some text is
delivered to the first peer, in the order of the slots, whose secret opens it, and then released;
when the search ends without one, or the packet is for another node, nothing is delivered and it is
routed like any other flood. The search ends with every host that offers its slots upwards from a
finite table. With an anonymous request the same is true of the one key that it carries. A shorter
packet is released and nothing else. -/
theorem addressed_delivered_or_routed {packet : Packet} {ctx : Ctx} {w : World}
    (h : NewFlood packet ctx w) :
    (packet.getPayloadType ∈ peerTypes → 2 + cipherMacSize < packet.payloadLen →
      ∀ bound, FromNow ctx w (Hooks.Slotted (packet.payload.get 1) bound) → bound < ctx.peerLimit →
        SearchedPeer packet bound ctx w) ∧
    (packet.getPayloadType = payloadTypeAnonReq →
      1 + publicKeySize + cipherMacSize < packet.payloadLen → TriedKey packet ctx w) ∧
    (packet.getPayloadType ∈ payloadTypeAnonReq :: peerTypes →
      packet.payloadLen ≤ packet.addressLen + cipherMacSize →
      ∃ w', Asks ctx w w' ∧ meshOnRecvPacket packet ctx w = ((actionRelease, packet), w')) :=
  ⟨fun htype hlong _ hslots hlimit => meshOnRecvPacket_peer h htype hlong hslots hlimit,
    fun htype hlong => meshOnRecvPacket_anon h htype hlong,
    fun htype hshort => meshOnRecvPacket_truncated h htype hshort⟩

/-- A node that knows one peer, and whose loop would go on after it. -/
def Ctx.knowingOne : Ctx := { Ctx.knowingPeer with peerLimit := 2 }

/-- A path is delivered as coming from that peer. -/
theorem addressed_delivered_path :
    ∃ (found : Candidate × Delivery) (w₂ : World),
      meshOnRecvPacket pathReturnPacket .knowingOne .boot
      = ((actionRelease, pathReturnPacket.markDoNotRetransmit),
        (deliver pathReturnPacket 1 found.1 found.2 .knowingOne w₂).2) := by
  have hnew : NewFlood pathReturnPacket .knowingOne .boot :=
    ⟨by decide, fun _ _ => tablesHasSeen_fresh (fun _ _ => rfl) (by decide) rfl, rfl⟩
  have hslots : FromNow .knowingOne .boot
      (Hooks.Slotted (pathReturnPacket.payload.get 1) 1) := by
    intro n _ cursor candidate hsome
    change (if cursor = 0 then some (0, Buf.zero _, zeroPeer) else none) = some candidate at hsome
    split at hsome
    · rename_i hzero
      obtain rfl := Option.some.inj hsome
      exact ⟨hzero.le, Nat.zero_lt_one⟩
    · simp at hsome
  obtain ⟨-, -, found, w₂, -, -, -, hrun⟩ :=
    (addressed_delivered_or_routed hnew).1 (by decide) (by decide) 1 hslots (by decide)
  cases found with
  | none =>
    -- a packet that was routed would have kept its header
    have hheader : (meshOnRecvPacket pathReturnPacket .knowingOne .boot).1.2.header
        = 0xFF := by decide +kernel
    rw [hrun] at hheader
    rcases meshRouteRecvPacket_cases pathReturnPacket .knowingOne w₂ with
      hroute | ⟨-, -, -, -, hroute⟩
    · rw [Option.map_none, Option.elim_none, hroute] at hheader
      exact absurd hheader (by decide)
    · rw [Option.map_none, Option.elim_none, hroute] at hheader
      change (0x21 : UInt8) = 0xFF at hheader
      exact absurd hheader (by decide)
  | some found => exact ⟨found, w₂, hrun⟩

/-- A text message for another node that was cut off after its MAC. -/
def truncatedText : Packet :=
  { Packet.init with header := 0x09, payloadLen := 4, payload := (Buf.zero _).store 0 [5, 1, 2, 3] }

/-- It is released, where any other flood would be relayed. -/
theorem truncated_not_routed :
    NewFlood truncatedText .forwarding .boot ∧ truncatedText.getPayloadType = payloadTypeTxtMsg ∧
      identityIsHashMatch World.boot.selfId.identity [truncatedText.payload.get 0] = false ∧
      (meshOnRecvPacket truncatedText .forwarding .boot).1.1 = actionRelease ∧
      ∀ w', (meshRouteRecvPacket truncatedText .forwarding w').1.1 ≠ actionRelease := by
  refine ⟨⟨by decide, fun _ _ => tablesHasSeen_fresh (fun _ _ => rfl) (by decide) rfl, rfl⟩,
    by decide, by decide, by decide +kernel, fun w' => ?_⟩
  have hallow : (allowPacketForward truncatedText .forwarding w').1 = true := rfl
  rw [meshRouteRecvPacket, if_pos ⟨by decide, by decide, by decide⟩, Prog.run_bind, hallow]
  intro hrelease
  obtain ⟨w'', hw''⟩ : ∃ w'', w'' = (allowPacketForward truncatedText .forwarding w').2 := ⟨_, rfl⟩
  let next := appendSelfToPath w''.selfId.identity truncatedText
  have hword := two_pow_le_actionRetransmitDelayed (relayPriority_lt truncatedText next)
    (getRetransmitDelay next .forwarding w'').1
  have hzero : actionRetransmitDelayed (relayPriority truncatedText next)
      (getRetransmitDelay next .forwarding w'').1 = actionRelease := by
    rw [← hw'', if_neg (by decide), Prog.run_bind, Prog.run_gets,
      Prog.run_bind_of (access_of (by decide) _ _)] at hrelease
    exact hrelease
  rw [hzero] at hword
  exact absurd hword (by decide)

end Meshcore
