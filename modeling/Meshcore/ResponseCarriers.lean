import Meshcore.PathReturns

/-!
# Two ways for a response

A response comes as a datagram of its own, or as the extra of a path return when the request was
flooded. Behind it there are zeros, as many as the cipher needs for what else is in the packet. Both
ways end at the same two handlers, that of the telemetry request and then that of the binary one.
But only a CHAT node takes the extra to them, while any node does so with the datagram, and any node
may have asked.

## Main definitions

* `SamePadded`, `SameAnswer` — equal but for zeros behind, and but for the time
* `SameOutcome` — the same answers were told, and the same requests are open
* `Correlation.respond` — what a response does

## Main results

* `response_carriers_agree_iff` — when the two ways have the same outcome
-/

namespace Meshcore

/-! ### Zeros behind a response -/

/-- Equal but for zeros behind. -/
def SamePadded (xs ys : List UInt8) : Prop :=
  ∃ n m, xs ++ List.replicate n 0 = ys ++ List.replicate m 0

theorem leNat_append_zeros (xs : List UInt8) (n : ℕ) :
    leNat (xs ++ List.replicate n 0) = leNat xs := by
  induction xs with
  | nil =>
    induction n with
    | zero => rfl
    | succ n ih =>
      have hnil : leNat [] = 0 := rfl
      rw [List.nil_append, hnil] at ih ⊢
      rw [List.replicate_succ, leNat, ih]
      rfl
  | cons x xs ih => rw [List.cons_append, leNat, ih, leNat]

/-- A response that is cut short is read as if zeros followed. -/
theorem wordAt_append_zeros (xs : List UInt8) (n : ℕ) :
    wordAt (xs ++ List.replicate n 0) = wordAt xs := by
  rw [wordAt, List.take_append, List.take_replicate, leNat_append_zeros, wordAt]

theorem samePadded_drop (xs : List UInt8) (k n m : ℕ) :
    SamePadded ((xs ++ List.replicate n 0).drop k) ((xs ++ List.replicate m 0).drop k) := by
  refine ⟨m - (k - xs.length), n - (k - xs.length), ?_⟩
  rw [List.drop_append, List.drop_append, List.drop_replicate, List.drop_replicate,
    List.append_assoc, List.append_assoc, List.replicate_append_replicate,
    List.replicate_append_replicate, Nat.add_comm]

/-! ### Outcomes -/

/-- The host is told the same answer, but for the time and for zeros behind it. -/
inductive SameAnswer : Event → Event → Prop where
  | telemetry {keyPrefix timestamp timestamp' tag payload payload'}
      (h : SamePadded payload payload') :
      SameAnswer (.telemetry keyPrefix timestamp tag payload)
        (.telemetry keyPrefix timestamp' tag payload')
  | binaryResponse {keyPrefix timestamp timestamp' tag payload payload'}
      (h : SamePadded payload payload') :
      SameAnswer (.binaryResponse keyPrefix timestamp tag payload)
        (.binaryResponse keyPrefix timestamp' tag payload')

/-- In two states after `w` the host was told the same answers, and the same requests are open. -/
structure SameOutcome (w w₁ w₂ : World) : Prop where
  answers : ∃ es₁ es₂,
    w₁.events.filter Event.isCorrelated = w.events.filter Event.isCorrelated ++ es₁ ∧
      w₂.events.filter Event.isCorrelated = w.events.filter Event.isCorrelated ++ es₂ ∧
      List.Forall₂ SameAnswer es₁ es₂
  correlation : w₁.correlation = w₂.correlation

/-- What a response does: it answers the telemetry request that waits, or else the binary one. -/
def Correlation.respond (c : Correlation) (publicKey : Buf publicKeySize) (payload : List UInt8)
    (timestamp : UInt32) : Option (Event × Correlation) :=
  if c.pendingTelemetry.isAnswered publicKey payload then
    some (.telemetry (keyPrefixOf publicKey) timestamp (wordAt payload) (payload.drop 4),
      { c with pendingTelemetry := .zero })
  else if c.pendingBinary.isAnswered publicKey payload then
    some (.binaryResponse (keyPrefixOf publicKey) timestamp (wordAt payload) (payload.drop 4),
      { c with pendingBinary := .zero })
  else none

/-- A request waits for this peer and the tag at the start of the response. -/
def Pending.Awaits (pending : Pending) (publicKey : Buf publicKeySize) (response : List UInt8) :
    Prop :=
  pending.valid = true ∧ pending.tag = wordAt response ∧ pending.keyPrefix = keyPrefixOf publicKey

/-- Some request waits for it. -/
def Correlation.Awaits (c : Correlation) (publicKey : Buf publicKeySize) (response : List UInt8) :
    Prop :=
  c.pendingTelemetry.Awaits publicKey response ∨ c.pendingBinary.Awaits publicKey response

/-- After `w` this answer was told, or none. -/
def Concluded (w w' : World) (answer : Option (Event × Correlation)) : Prop :=
  w'.events.filter Event.isCorrelated
      = w.events.filter Event.isCorrelated ++ (answer.map Prod.fst).toList ∧
    w'.correlation = answer.elim w.correlation Prod.snd

section

variable {ctx : Ctx} {w w' w'' : World} {answer : Option (Event × Correlation)}

/-- What is elsewhere adds nothing, before or after. -/
theorem Concluded.after (h : Concluded w' w'' answer) (hbefore : KeepsCorrelation ctx w w') :
    Concluded w w'' answer := by
  have hevents := hbefore.filter_events
  obtain ⟨hfilter, hcorrelation⟩ := h
  rw [hevents] at hfilter
  rw [hbefore.2.1] at hcorrelation
  exact ⟨hfilter, hcorrelation⟩

theorem Concluded.before (h : Concluded w w' answer) (hafter : KeepsCorrelation ctx w' w'') :
    Concluded w w'' answer :=
  ⟨hafter.filter_events.trans h.1, hafter.2.1.trans h.2⟩

theorem Concluded.none (h : KeepsCorrelation ctx w w') : Concluded w w' .none :=
  ⟨by simpa using h.filter_events, h.2.1⟩

/-- The two handlers, one after the other. -/
theorem onPeerResponse_concluded (sender : PeerIdentity) (payload : List UInt8) (ctx : Ctx)
    (w : World) :
    ∃ timestamp, Concluded w (onPeerResponse sender payload ctx w).2
      (w.correlation.respond sender.publicKey payload timestamp) := by
  have htime : KeepsCorrelation ctx w (timestampNowSeconds ctx w).2 := Moves.moves ctx w
  refine ⟨(timestampNowSeconds ctx w).1, .after ?_ htime⟩
  rw [onPeerResponse, Prog.run_bind, Prog.run_bind, pendingTelemetryHandle_run, ← htime.2.1,
    Correlation.respond]
  generalize (timestampNowSeconds ctx w).2 = w'
  split
  · exact ⟨List.filter_append .., rfl⟩
  · rw [if_neg Bool.false_ne_true, Prog.run_bind, pendingBinaryHandle_run]
    split
    · exact ⟨List.filter_append .., rfl⟩
    · exact ⟨(List.append_nil _).symm, rfl⟩

/-- As a datagram, a response gets to the handlers in any role. -/
theorem onPeerDataRecv_concluded (packet : Packet) (sender : PeerIdentity)
    (secret : Buf publicKeySize) (data : List UInt8) (ctx : Ctx) (w : World) :
    ∃ timestamp, Concluded w (onPeerDataRecv packet payloadTypeResponse sender secret data ctx w).2
      (if w.initialized = true ∧ 4 ≤ data.length then
        w.correlation.respond sender.publicKey data timestamp else none) := by
  by_cases hinit : w.initialized = true
  · have hseen : ∀ v, KeepsCorrelation ctx v
        (peerSeenUpdate sender.publicKey packet.snrQ4 ctx v).2 :=
      Moves.moves ctx
    have hrole : KeepsCorrelation ctx w (localRoleIs .chat ctx w).2 := Moves.moves ctx w
    rw [onPeerDataRecv, whenInitialized_run hinit, onPeerDataRecvInternal, Prog.run_bind,
      Prog.run_bind, if_neg fun h => absurd h.2.1 (by decide),
      if_neg fun h => absurd h.1 (by decide)]
    by_cases hlen : 4 ≤ data.length
    · obtain ⟨timestamp, h⟩ := onPeerResponse_concluded sender data ctx (localRoleIs .chat ctx w).2
      rw [hrole.2.1] at h
      refine ⟨timestamp, ?_⟩
      rw [if_pos ⟨rfl, hlen⟩, if_pos ⟨hinit, hlen⟩]
      exact (h.after hrole).before (hseen _)
    · refine ⟨0, ?_⟩
      rw [if_neg fun h => hlen h.2, if_neg fun h => hlen h.2]
      exact (Concluded.none hrole).before (hseen _)
  · refine ⟨0, ?_⟩
    rw [if_neg fun h => hinit h.1, onPeerDataRecv, whenInitialized, Prog.run_bind, Prog.run_gets]
    rw [Bool.not_eq_true] at hinit
    rw [hinit]
    have hemit : Moves KeepsCorrelation
        (emit (.meshOnPeerDataRecv packet payloadTypeResponse sender secret data)) := inferInstance
    exact .none (hemit.moves ctx w)

/-- A path discovery that waits for another tag, or for another peer, does not take a response. -/
theorem pendingDiscoveryHandle_passes {publicKey : Buf publicKeySize} {packet : Packet}
    {path extra : List UInt8} {pathLen extraType : UInt8}
    (hdiscovery : ¬w.correlation.pendingDiscovery.Awaits publicKey extra) :
    pendingDiscoveryHandle publicKey packet path pathLen extraType extra ctx w = (false, w) := by
  rw [pendingDiscoveryHandle, Prog.run_bind, Prog.run_gets]
  split
  · rfl
  · rename_i hwaits
    obtain ⟨hvalid, -, hkey⟩ := not_or.mp hwaits |>.imp_right not_or.mp
    have htag : w.correlation.pendingDiscovery.tag ≠ wordAt extra := fun htag =>
      hdiscovery ⟨by simpa using hvalid, htag, not_not.mp hkey⟩
    cases pathLenDecode pathLen with
    | none => rfl
    | some decoded =>
      rw [Option.elim_some, if_pos htag]
      split <;> rfl

/-- As the extra of a path return, a response that no path discovery waits for gets to the handlers
in the CHAT role only. -/
theorem onPeerPathRecv_concluded {role : Role} (packet : Packet) (sender : PeerIdentity)
    (secret : Buf publicKeySize) (path : List UInt8) (pathLen : UInt8) {extra : List UInt8}
    (hrole : FromNow ctx w (Hooks.HasRole role))
    (hdiscovery : ¬w.correlation.pendingDiscovery.Awaits sender.publicKey extra) :
    ∃ timestamp, Concluded w
      (onPeerPathRecv packet sender secret path pathLen payloadTypeResponse extra ctx w).2
      (if w.initialized = true ∧ role = .chat ∧ 4 ≤ extra.length then
        w.correlation.respond sender.publicKey extra timestamp else none) := by
  by_cases hinit : w.initialized = true
  · have hchat : ∀ v : World, w.tick ≤ v.tick →
        localRoleIs .chat ctx v = (decide (role = .chat), { v with tick := v.tick + 1 }) := by
      intro v hlater
      obtain ⟨identity, hidentity, rfl⟩ := hrole v.tick hlater
      exact localRoleIs_run .chat hidentity
    have hrest : ∀ v, KeepsCorrelation ctx v ((do
        peerPathPublish packet sender path pathLen payloadTypeResponse extra
        localRoleIs .chat : M Bool) ctx v).2 := Moves.moves ctx
    let w₂ : World := { w with tick := w.tick + 2 }
    have hasked : KeepsCorrelation ctx w w₂ :=
      ⟨⟨[], (List.append_nil _).symm, by simp⟩, rfl, rfl, rfl, rfl, Nat.le_add_right ..⟩
    have hrun : onPeerPathRecv packet sender secret path pathLen payloadTypeResponse extra ctx w
        = ((if decide (role = .chat) = true ∧ payloadTypeResponse = payloadTypeResponse ∧
            4 ≤ extra.length then onPeerResponse sender extra else pure ()) >>= fun _ => do
          peerPathPublish packet sender path pathLen payloadTypeResponse extra
          localRoleIs .chat) ctx w₂ := by
      have hgets : Prog.gets World.initialized ctx w = (true, w) := by rw [← hinit]; rfl
      rw [onPeerPathRecv, Prog.run_bind_of hgets, Bool.not_true, if_neg Bool.false_ne_true,
        Prog.run_bind_of (pendingDiscoveryHandle_passes hdiscovery), if_neg Bool.false_ne_true,
        Prog.run_bind_of (hchat w le_rfl), if_neg fun h => absurd h.2.1 (by decide), Prog.run_bind,
        Prog.run_bind_of (hchat { w with tick := w.tick + 1 } (Nat.le_succ _))]
      rfl
    rw [hrun, Prog.run_bind]
    by_cases hgoes : role = .chat ∧ 4 ≤ extra.length
    · obtain ⟨timestamp, h⟩ := onPeerResponse_concluded sender extra ctx w₂
      refine ⟨timestamp, ?_⟩
      rw [if_pos ⟨decide_eq_true hgoes.1, rfl, hgoes.2⟩, if_pos ⟨hinit, hgoes⟩]
      exact (h.after hasked).before (hrest _)
    · refine ⟨0, ?_⟩
      rw [if_neg fun h => hgoes ⟨of_decide_eq_true h.1, h.2.2⟩, if_neg fun h => hgoes h.2]
      exact (Concluded.none hasked).before (hrest _)
  · refine ⟨0, ?_⟩
    rw [if_neg fun h => hinit h.1, onPeerPathRecv, Prog.run_bind, Prog.run_gets]
    rw [Bool.not_eq_true] at hinit
    rw [hinit]
    exact .none ((inferInstance : Moves KeepsCorrelation (do
      emit (.meshOnPeerPathRecv packet sender secret path pathLen payloadTypeResponse extra)
      hook Hooks.meshOnPeerPathRecv)).moves ctx w)

/-! ### Comparing the two ways -/

/-- A request that waits is answered by a response with these bytes, if with the zeros it is long
enough for a tag. -/
theorem isAnswered_append_zeros (pending : Pending) (publicKey : Buf publicKeySize)
    (response : List UInt8) (n : ℕ) :
    pending.isAnswered publicKey (response ++ List.replicate n 0) = true ↔
      4 ≤ (response ++ List.replicate n (0 : UInt8)).length ∧
      pending.Awaits publicKey response := by
  rw [Pending.isAnswered_iff, wordAt_append_zeros, Pending.Awaits]
  tauto

theorem isSome_respond (c : Correlation) (publicKey : Buf publicKeySize) (response : List UInt8)
    (n : ℕ) (timestamp : UInt32) :
    (c.respond publicKey (response ++ List.replicate n 0) timestamp).isSome = true ↔
      4 ≤ (response ++ List.replicate n (0 : UInt8)).length ∧ c.Awaits publicKey response := by
  rw [Correlation.respond]
  split
  · rename_i htelemetry
    obtain ⟨hlen, hwaits⟩ := (isAnswered_append_zeros ..).mp htelemetry
    exact iff_of_true rfl ⟨hlen, .inl hwaits⟩
  · rename_i htelemetry
    split
    · rename_i hbinary
      obtain ⟨hlen, hwaits⟩ := (isAnswered_append_zeros ..).mp hbinary
      exact iff_of_true rfl ⟨hlen, .inr hwaits⟩
    · rename_i hbinary
      refine iff_of_false (by decide) ?_
      rintro ⟨hlen, hwaits | hwaits⟩
      · exact htelemetry ((isAnswered_append_zeros ..).mpr ⟨hlen, hwaits⟩)
      · exact hbinary ((isAnswered_append_zeros ..).mpr ⟨hlen, hwaits⟩)

/-- Where a response goes on under a condition, it is answered when that holds and a request
waits. -/
theorem isSome_ite_respond (c : Correlation) (publicKey : Buf publicKeySize) (response : List UInt8)
    (n : ℕ) (timestamp : UInt32) {goes : Prop} [Decidable goes]
    (hlen : goes → 4 ≤ (response ++ List.replicate n (0 : UInt8)).length) :
    (if goes then c.respond publicKey (response ++ List.replicate n 0) timestamp
      else none).isSome = true ↔ goes ∧ c.Awaits publicKey response := by
  split
  · rename_i hgoes
    rw [isSome_respond]
    exact ⟨fun h => ⟨hgoes, h.2⟩, fun h => ⟨hlen hgoes, h.2⟩⟩
  · rename_i hstays
    exact iff_of_false (by decide) fun h => hstays h.1

theorem SameOutcome.of_none {w₁ w₂ : World} (h₁ : Concluded w w₁ .none)
    (h₂ : Concluded w w₂ .none) :
    SameOutcome w w₁ w₂ :=
  ⟨⟨_, _, h₁.1, h₂.1, .nil⟩, h₁.2.trans h₂.2.symm⟩

/-- The zeros behind a response make no difference to its outcome, once it is long enough. -/
theorem sameOutcome_respond {w₁ w₂ : World} {publicKey : Buf publicKeySize} {response : List UInt8}
    {n m : ℕ} {timestamp timestamp' : UInt32}
    (hlen : 4 ≤ (response ++ List.replicate n (0 : UInt8)).length ↔
      4 ≤ (response ++ List.replicate m (0 : UInt8)).length)
    (h₁ : Concluded w w₁
      (w.correlation.respond publicKey (response ++ List.replicate n 0) timestamp))
    (h₂ : Concluded w w₂
      (w.correlation.respond publicKey (response ++ List.replicate m 0) timestamp')) :
    SameOutcome w w₁ w₂ := by
  have hsame : ∀ pending : Pending,
      pending.isAnswered publicKey (response ++ List.replicate n 0)
        = pending.isAnswered publicKey (response ++ List.replicate m 0) := fun pending => by
    rw [Bool.eq_iff_iff, isAnswered_append_zeros, isAnswered_append_zeros, hlen]
  have hpayload := samePadded_drop response 4 n m
  rw [Correlation.respond, hsame, hsame, wordAt_append_zeros] at h₁
  rw [Correlation.respond, wordAt_append_zeros] at h₂
  split at h₂
  · rename_i htelemetry
    rw [if_pos htelemetry] at h₁
    exact ⟨⟨_, _, h₁.1, h₂.1, .cons (.telemetry hpayload) .nil⟩, h₁.2.trans h₂.2.symm⟩
  · rename_i htelemetry
    rw [if_neg htelemetry] at h₁
    split at h₂
    · rename_i hbinary
      rw [if_pos hbinary] at h₁
      exact ⟨⟨_, _, h₁.1, h₂.1, .cons (.binaryResponse hpayload) .nil⟩, h₁.2.trans h₂.2.symm⟩
    · rename_i hbinary
      rw [if_neg hbinary] at h₁
      exact .of_none h₁ h₂

/-- Where one way answers and the other does not, the outcome differs. -/
theorem SameOutcome.isSome_eq {w₁ w₂ : World} {answer₁ answer₂ : Option (Event × Correlation)}
    (h : SameOutcome w w₁ w₂) (h₁ : Concluded w w₁ answer₁) (h₂ : Concluded w w₂ answer₂) :
    answer₁.isSome = answer₂.isSome := by
  obtain ⟨es₁, es₂, hes₁, hes₂, hsame⟩ := h.answers
  have heq₁ := List.append_cancel_left (h₁.1.symm.trans hes₁)
  have heq₂ := List.append_cancel_left (h₂.1.symm.trans hes₂)
  have hlen := hsame.length_eq
  rw [← heq₁, ← heq₂] at hlen
  cases answer₁ <;> cases answer₂ <;> simp_all

end

/-- **Two ways for a response.** Of a response that comes as a datagram and one with the same bytes
that comes as the extra of a path return, while no path discovery waits for its tag, the host is
told the same answer, with the same tag and the same payload but for zeros behind it, and the same
requests stay open, if and only if no request waits for it, or the node has the CHAT role; and then
the bytes have to be long enough for a tag on both ways, or on neither. -/
theorem response_carriers_agree_iff {ctx : Ctx} {w : World} {role : Role}
    (hrole : FromNow ctx w (Hooks.HasRole role)) {response : List UInt8}
    (hdiscovery : w.correlation.pendingDiscovery.valid = true →
      w.correlation.pendingDiscovery.tag ≠ wordAt response)
    (packet packet' : Packet) (sender : PeerIdentity) (secret secret' : Buf publicKeySize)
    (path : List UInt8) (pathLen : UInt8) (n m : ℕ) :
    let data := response ++ List.replicate n 0
    let extra := response ++ List.replicate m 0
    SameOutcome w (onPeerDataRecv packet payloadTypeResponse sender secret data ctx w).2
        (onPeerPathRecv packet' sender secret' path pathLen payloadTypeResponse extra ctx w).2 ↔
      (w.initialized = true → w.correlation.Awaits sender.publicKey response →
        (4 ≤ data.length ↔ role = .chat ∧ 4 ≤ extra.length)) := by
  intro data extra
  obtain ⟨timestamp, h₁⟩ := onPeerDataRecv_concluded packet sender secret data ctx w
  obtain ⟨timestamp', h₂⟩ := @onPeerPathRecv_concluded ctx w role packet' sender secret'
    path pathLen extra hrole fun h => hdiscovery h.1 (h.2.1.trans (wordAt_append_zeros response m))
  have hdatagram := isSome_ite_respond w.correlation sender.publicKey response n timestamp
    (fun h : w.initialized = true ∧ 4 ≤ data.length => h.2)
  have hpath := isSome_ite_respond w.correlation sender.publicKey response m timestamp'
    (fun h : w.initialized = true ∧ role = .chat ∧ 4 ≤ extra.length => h.2.2)
  constructor
  · intro hsame hinit hawaits
    have heq := hsame.isSome_eq h₁ h₂
    rw [Bool.eq_iff_iff, hdatagram, hpath] at heq
    simpa only [hinit, hawaits, true_and, and_true] using heq
  · intro hcond
    by_cases hanswer : (w.initialized = true ∧ 4 ≤ data.length) ∧
        w.correlation.Awaits sender.publicKey response
    · obtain ⟨⟨hinit, htag⟩, hawaits⟩ := hanswer
      have hchat := (hcond hinit hawaits).mp htag
      rw [if_pos ⟨hinit, htag⟩] at h₁
      rw [if_pos ⟨hinit, hchat⟩] at h₂
      exact sameOutcome_respond (iff_of_true htag hchat.2) h₁ h₂
    · -- the path return has no answer either
      have hneither : ¬((w.initialized = true ∧ role = .chat ∧ 4 ≤ extra.length) ∧
          w.correlation.Awaits sender.publicKey response) := fun h =>
        hanswer ⟨⟨h.1.1, (hcond h.1.1 h.2).mpr h.1.2⟩, h.2⟩
      rw [Option.not_isSome_iff_eq_none.mp (mt hdatagram.mp hanswer)] at h₁
      rw [Option.not_isSome_iff_eq_none.mp (mt hpath.mp hneither)] at h₂
      exact .of_none h₁ h₂

/-- A node of this role, whose host has a cipher. -/
def Ctx.asking (role : Role) : Ctx :=
  { Ctx.sealing with
    hooks := fun n =>
      { Ctx.sealing.hooks n with nodeIdentity := (0, { Hooks.silent.nodeIdentity.2 with role }) } }

/-- It has asked a peer for its telemetry, with the tag 7. -/
def World.asked (role : Role) : World :=
  runOps (.asking role) .boot [.init, .nodeTelemetryRequest (some (Buf.zero _)) 1 (some 7)]

/-- A response of five bytes. -/
def fiveBytes : List UInt8 := [7, 0, 0, 0, 1]

/-- A CHAT node learns the same from both. -/
theorem response_carriers_agree_chat :
    SameOutcome (.asked .chat)
      (onPeerDataRecv Packet.init payloadTypeResponse zeroPeer (Buf.zero _)
        (fiveBytes ++ List.replicate 11 0) (.asking .chat) (.asked .chat)).2
      (onPeerPathRecv Packet.init zeroPeer (Buf.zero _) [] 0 payloadTypeResponse
        (fiveBytes ++ List.replicate 9 0) (.asking .chat) (.asked .chat)).2 :=
  have hrole : FromNow (.asking .chat) (.asked .chat) (Hooks.HasRole .chat) :=
    fun _ _ => ⟨{ Hooks.silent.nodeIdentity.2 with role := .chat }, rfl, rfl⟩
  have hdiscovery : ¬(World.asked .chat).correlation.pendingDiscovery.valid = true := by
    decide +kernel
  (@response_carriers_agree_iff (.asking .chat) (.asked .chat) .chat hrole fiveBytes
    (fun hvalid => absurd hvalid hdiscovery) Packet.init Packet.init zeroPeer (Buf.zero _)
    (Buf.zero _) [] 0 11 9).mpr fun _ _ => by decide

/-- A repeater learns of the datagram only. -/
theorem response_carriers_differ :
    (World.asked .repeater).correlation.Awaits zeroPeer.publicKey fiveBytes ∧
      ¬SameOutcome (.asked .repeater)
        (onPeerDataRecv Packet.init payloadTypeResponse zeroPeer (Buf.zero _)
          (fiveBytes ++ List.replicate 11 0) (.asking .repeater) (.asked .repeater)).2
        (onPeerPathRecv Packet.init zeroPeer (Buf.zero _) [] 0 payloadTypeResponse
          (fiveBytes ++ List.replicate 9 0) (.asking .repeater) (.asked .repeater)).2 :=
  ⟨.inl ⟨by decide +kernel, by decide +kernel, by decide +kernel⟩, fun h =>
    absurd (congrArg (·.pendingTelemetry.valid) h.correlation) (by decide +kernel)⟩

end Meshcore
