import Meshcore.Correlated
import Meshcore.Sending
import Mathlib.Order.CompletePartialOrder

/-!
# Outcomes of a request

A request that is executed queues a packet, or tells the host that it could not, or does neither.
Whether it does may depend on the answers of the host, so an outcome is stated with the set of
answers that were given: a request gets lost only by answers of a certain kind, and a host that
always gives such answers makes it get lost.

## Main definitions

* `answers` — the answers of the host between two states
* `Outcome`, `Concludes` — what becomes of a request
* `Sends` — a program that sends the packet in its hands
* `Firm`, `Succeeds` — a program that has a result while the cipher works

## Main results

* `withLocalIdentity_concludes`, `withRequestPacket_concludes` — the two frames of a request
-/

namespace Meshcore

/-! ### The answers of the host -/

/-- The answers of the host between two states. -/
def answers (ctx : Ctx) (w w' : World) : Set Hooks :=
  {h | ∃ n, w.tick ≤ n ∧ n < w'.tick ∧ ctx.hooks n = h}

theorem answers_mono {ctx : Ctx} {w w₁ w₂ w' : World} (h : w.tick ≤ w₁.tick)
    (h' : w₂.tick ≤ w'.tick) : answers ctx w₁ w₂ ⊆ answers ctx w w' := by
  rintro _ ⟨n, hn, hn', rfl⟩
  exact ⟨n, h.trans hn, hn'.trans_le h', rfl⟩

theorem mem_answers {ctx : Ctx} {w w' : World} {n : ℕ} (h : w.tick ≤ n) (h' : n < w'.tick) :
    ctx.hooks n ∈ answers ctx w w' := ⟨n, h, h', rfl⟩

/-- Encrypting and authenticating never fail. -/
def Hooks.CipherWorks (h : Hooks) : Prop :=
  (∀ key block, (h.aes128EncryptBlock key block).isSome) ∧
    ∀ key data, (h.hmacSha256 cipherMacSize key data).isSome

/-! ### Outcomes -/

/-- One packet goes to the end of the send queue. -/
def Queued (w w' : World) : Prop := Shipped (fun _ => True) w w'

theorem Shipped.queued {Q : Packet → Prop} {w w' : World} (h : Shipped Q w w') : Queued w w' := by
  obtain ⟨entry, hentries, -⟩ := h
  exact ⟨entry, hentries, trivial⟩

/-- What has become of a request, when the answers in `L` are those that make it get lost. The
converse, that such answers do make it get lost, is for a host that always answers the same. -/
inductive Fate (L : Set Hooks → Prop) (ctx : Ctx) (w w' : World) : Prop where
  | queued (hqueued : Queued w w') (hevents : w'.events = w.events)
      (hL : ∀ h, answers ctx w w' ⊆ {h} → ¬L {h})
  | reported (hunsent : Unsent ctx w w') (hcorrelation : w'.correlation = w.correlation)
      (type : RequestType) (code : ℤ) (hevents : w'.events = w.events ++ [.requestError type code])
      (hL : ∀ h, h.CipherWorks → answers ctx w w' ⊆ {h} → ¬L {h})
  | lost (hunsent : Unsent ctx w w') (hevents : w'.events = w.events) (hL : L (answers ctx w w'))

/-- A program that ends in one of these ways. -/
structure Outcome (L : Set Hooks → Prop) (ctx : Ctx) (w w' : World) : Prop where
  later : w.tick ≤ w'.tick
  fate : Fate L ctx w w'

/-- Nothing but the local identity, the unique clock and the position in the host's answers
changes. -/
def Idle (_ : Ctx) (w w' : World) : Prop :=
  w' = { w with selfId := w'.selfId, rtcLastUnique := w'.rtcLastUnique, tick := w'.tick } ∧
    w.tick ≤ w'.tick

instance : Composes Idle where
  refl _ _ := ⟨rfl, le_rfl⟩
  trans _ w w' w'' h h' := by
    refine ⟨?_, h.2.trans h'.2⟩
    rw [h'.1, h.1]

instance (priority := low) Moves.idleOfAsks {α : Type} (m : M α) [hm : Moves Asks m] :
    Moves Idle m where
  moves ctx w := by
    obtain ⟨h, ht⟩ := hm.moves ctx w
    refine ⟨?_, ht⟩
    rw [h]

instance (id : LocalIdentity) : Moves Idle (setSelfId id) := ⟨fun _ _ => ⟨rfl, le_rfl⟩⟩

instance (v : UInt32) : Moves Idle (setRtcLastUnique v) := ⟨fun _ _ => ⟨rfl, le_rfl⟩⟩

instance : Moves Idle syncLocalIdentity := by unfold syncLocalIdentity; infer_instance

instance : Moves Idle clockRtcGetCurrentTimeUnique := by
  unfold clockRtcGetCurrentTimeUnique; infer_instance

instance (tag : UInt32) : Moves Idle (requestTagOf tag) := by unfold requestTagOf; infer_instance

instance : Moves Idle advertSource := by unfold advertSource; infer_instance

/-- There is a free buffer, and the pool is intact. -/
structure World.HasRoom (ctx : Ctx) (w : World) : Prop where
  pool : w.PoolIntact ctx []
  free : 0 < w.packetManager.getFreeCount

section

variable {L : Set Hooks → Prop} {ctx : Ctx} {w w' w'' : World}

theorem Idle.unsent (h : Idle ctx w w') : Unsent ctx w w' := by rw [Unsent, h.1]

theorem Idle.hasRoom (h : Idle ctx w w') (hroom : w.HasRoom ctx) : w'.HasRoom ctx := by
  rw [h.1]
  exact ⟨⟨hroom.pool.conserves, hroom.pool.poolSize, hroom.pool.reissued⟩, hroom.free⟩

/-- Under a host that always answers the same, other answers make a request get lost. -/
theorem Outcome.imp {L' : Set Hooks → Prop} (h : Outcome L ctx w w')
    (hL : L (answers ctx w w') → L' (answers ctx w w'))
    (hL' : ∀ h, answers ctx w w' ⊆ {h} → L' {h} → L {h}) : Outcome L' ctx w w' := by
  refine ⟨h.later, ?_⟩
  cases h.fate with
  | queued hqueued he hn =>
    exact .queued hqueued he fun h hsub hlost => hn h hsub (hL' h hsub hlost)
  | reported hunsent hc type code he hn =>
    exact .reported hunsent hc type code he fun h hcipher hsub hlost =>
      hn h hcipher hsub (hL' h hsub hlost)
  | lost hunsent he hlost => exact .lost hunsent he (hL hlost)

theorem requestLogTransientFailure_run (type : RequestType) {code : ℤ}
    (hcode : code = eNOBUFS ∨ code = eAGAIN) (ctx : Ctx) (w : World) :
    requestLogTransientFailure type code ctx w =
      ((), { w with events := w.events ++ [.requestError type code] }) := by
  rw [requestLogTransientFailure, if_pos (by tauto)]
  rfl

/-- The failure is reported before there is a packet. -/
theorem Outcome.report (h : Idle ctx w w') (type : RequestType) {code : ℤ}
    (hcode : code = eNOBUFS ∨ code = eAGAIN) (hL : ∀ h, answers ctx w w' ⊆ {h} → ¬L {h}) :
    Outcome L ctx w (requestLogTransientFailure type code ctx w').2 := by
  have hsame : answers ctx w (requestLogTransientFailure type code ctx w').2
      = answers ctx w w' := by
    rw [requestLogTransientFailure_run type hcode]
    rfl
  have hfate : Fate L ctx w (requestLogTransientFailure type code ctx w').2 := by
    refine .reported ?_ ?_ type code ?_ fun h _ hsub => hL h (hsame ▸ hsub)
    all_goals rw [requestLogTransientFailure_run type hcode, h.1]
    rfl
  exact ⟨by rw [requestLogTransientFailure_run type hcode]; exact h.2, hfate⟩

/-- The request is dropped before there is a packet. -/
theorem Outcome.drop (h : Idle ctx w w') (hL : L (answers ctx w w')) : Outcome L ctx w w' := by
  refine ⟨h.2, .lost ?_ ?_ hL⟩
  · rw [Unsent, h.1]
  · rw [h.1]

/-- What is idle makes no difference. -/
theorem Outcome.after (hL : Monotone L) (h : Idle ctx w w') (ho : Outcome L ctx w' w'') :
    Outcome L ctx w w'' := by
  have hmono : answers ctx w' w'' ⊆ answers ctx w w'' := answers_mono h.2 le_rfl
  have hevents : w'.events = w.events := by rw [h.1]
  have hcorrelation : w'.correlation = w.correlation := by rw [h.1]
  have hqueue : Unsent ctx w w' := by rw [Unsent, h.1]
  refine ⟨h.2.trans ho.later, ?_⟩
  cases ho.fate with
  | queued hqueued he hn =>
    exact .queued (hqueued.after hqueue) (he.trans hevents) fun h hsub => hn h (hmono.trans hsub)
  | reported hunsent hc type code he hn =>
    refine .reported (hunsent.trans hqueue) (hc.trans hcorrelation) type code ?_
      fun h hcipher hsub => hn h hcipher (hmono.trans hsub)
    rw [he, hevents]
  | lost hunsent he hlost =>
    exact .lost (hunsent.trans hqueue) (he.trans hevents) (hL hmono hlost)

end

/-- A program that ends with an outcome, when there is a free buffer. -/
class Concludes (L : Set Hooks → Prop) (m : M Unit) : Prop where
  concludes : ∀ ctx w, w.HasRoom ctx → Outcome L ctx w (m ctx w).2

/-- No answer of the host makes a request get lost. -/
abbrev Never : Set Hooks → Prop := fun _ => False

/-- More answers do no good. -/
class Growing (L : Set Hooks → Prop) : Prop where
  mono : Monotone L

instance : Growing Never := ⟨fun _ _ _ h => h⟩

namespace Concludes

variable {L : Set Hooks → Prop} {α : Type}

instance bind (m : M α) (f : α → M Unit) [hL : Growing L] [hm : Moves Idle m]
    [hf : ∀ a, Concludes L (f a)] : Concludes L (m >>= f) where
  concludes ctx w hroom :=
    .after hL.mono (hm.moves ctx w)
      ((hf _).concludes ctx _ ((hm.moves ctx w).hasRoom hroom))

/-- The request is dropped. -/
theorem drop {p : Prop} (hp : p) : Concludes (fun _ => p) (pure ()) :=
  ⟨fun _ _ _ => ⟨le_rfl, .lost rfl rfl hp⟩⟩

/-- What follows may rely on what the first program answers. -/
theorem bind_of_returns {Q : α → Prop} {m : M α} {f : α → M Unit} [hL : Growing L]
    [hQ : Returns Q m] [hm : Moves Idle m] (hf : ∀ a, Q a → Concludes L (f a)) :
    Concludes L (m >>= f) where
  concludes ctx w hroom :=
    .after hL.mono (hm.moves ctx w)
      ((hf _ (hQ.returns ctx w)).concludes ctx _ ((hm.moves ctx w).hasRoom hroom))

theorem congr {L' : Set Hooks → Prop} {m : M Unit} (h : Concludes L m) (hL : ∀ H, L H ↔ L' H) :
    Concludes L' m := by
  obtain rfl : L = L' := funext fun H => propext (hL H)
  exact h

end Concludes

/-- The host knows its own identity. -/
def IdentityKnown (H : Set Hooks) : Prop := ∃ h ∈ H, h.nodeIdentity.1 = 0

/-- A request that needs the local identity gets lost after that was there. -/
def Known (L : Set Hooks → Prop) (H : Set Hooks) : Prop := IdentityKnown H ∧ L H

/-- The host is asked for the identity. -/
theorem tick_lt_syncLocalIdentity (ctx : Ctx) (w : World) :
    w.tick < (syncLocalIdentity ctx w).2.tick := by
  simp only [syncLocalIdentity, Prog.run_bind, Prog.run_ite]
  split <;> exact Nat.lt_succ_self _

theorem syncLocalIdentity_eq (ctx : Ctx) (w : World) :
    (syncLocalIdentity ctx w).1 = (ctx.hooks w.tick).nodeIdentity.1 := by
  simp only [syncLocalIdentity, Prog.run_bind, Prog.run_ite, Prog.run_pure]
  split
  · rfl
  · rename_i hknown
    exact (not_not.mp hknown).symm

theorem withLocalIdentity_concludes (type : RequestType) {L : Set Hooks → Prop} (m : M Unit)
    [hL : Growing L] [hm : Concludes L m] : Concludes (Known L) (withLocalIdentity type m) where
  concludes ctx w hroom := by
    have hidle : Idle ctx w (syncLocalIdentity ctx w).2 := Moves.moves ctx w
    have htick := tick_lt_syncLocalIdentity ctx w
    simp only [withLocalIdentity, Prog.run_bind, Prog.run_ite, syncLocalIdentity_eq ctx w]
    generalize (syncLocalIdentity ctx w).2 = w₁ at hidle htick
    split
    · rename_i hne
      refine .report hidle type (.inr rfl) ?_
      rintro h hsub ⟨⟨_, rfl, hknown⟩, -⟩
      exact hne (hsub (mem_answers le_rfl htick) ▸ hknown)
    · rename_i hknown
      have hinner := hm.concludes ctx w₁ (hidle.hasRoom hroom)
      generalize (m ctx w₁).2 = w₂ at hinner
      have hmem : ctx.hooks w.tick ∈ answers ctx w w₂ :=
        mem_answers le_rfl (htick.trans_le hinner.later)
      exact (hinner.after hL.mono hidle).imp (fun hlost => ⟨⟨_, hmem, not_not.mp hknown⟩, hlost⟩)
        fun _ _ => And.right

/-! ### A packet in hand -/

/-- Only the request correlation and the position in the host's answers change. -/
def Notes (_ : Ctx) (w w' : World) : Prop :=
  w' = { w with correlation := w'.correlation, tick := w'.tick } ∧ w.tick ≤ w'.tick

instance : Composes Notes where
  refl _ _ := ⟨rfl, le_rfl⟩
  trans _ w w' w'' h h' := by
    refine ⟨?_, h.2.trans h'.2⟩
    rw [h'.1, h.1]

instance (priority := low) Moves.notesOfAsks {α : Type} (m : M α) [hm : Moves Asks m] :
    Moves Notes m where
  moves ctx w := by
    obtain ⟨h, ht⟩ := hm.moves ctx w
    refine ⟨?_, ht⟩
    rw [h]

instance (f : Correlation → Correlation) : Moves Notes (modifyCorrelation f) :=
  ⟨fun _ _ => ⟨rfl, le_rfl⟩⟩

instance (ackCrc : UInt32) (target : List UInt8) (attempt : UInt8) :
    Moves Notes (expectedAckRegister ackCrc target attempt) := by
  unfold expectedAckRegister; infer_instance

instance (tag : UInt32) (key : Buf publicKeySize) :
    Moves Notes (pendingDiscoveryRegister tag key) := by
  unfold pendingDiscoveryRegister; infer_instance

instance (tag : UInt32) : Moves Notes (pendingTraceRegister tag) := by
  unfold pendingTraceRegister; infer_instance

instance (tag : UInt32) (key : Buf publicKeySize) (mask : UInt8) :
    Moves Notes (pendingTelemetryRegister tag key mask) := by
  unfold pendingTelemetryRegister; infer_instance

instance (tag : UInt32) (key : Buf publicKeySize) :
    Moves Notes (pendingBinaryRegister tag key) := by
  unfold pendingBinaryRegister; infer_instance

/-- A program that queues the packet in its hands, which has the property, unless answers in `L`
make it get lost. -/
class Sends (P : Packet → Prop) (L : Set Hooks → Prop) (id : PacketId) (m : M Unit) : Prop where
  sends : ∀ ctx w, w.PoolIntact ctx [id] → P (w.packetManager.packetBuf id) →
    w.tick ≤ (m ctx w).2.tick ∧ (m ctx w).2.events = w.events ∧
      ((Queued w (m ctx w).2 ∧ ∀ h, answers ctx w (m ctx w).2 ⊆ {h} → ¬L {h}) ∨
        Unsent ctx w (m ctx w).2 ∧ L (answers ctx w (m ctx w).2))

namespace Sends

variable {P : Packet → Prop} {L : Set Hooks → Prop} {id : PacketId} {α : Type}

instance bind (m : M α) (f : α → M Unit) [hL : Growing L] [hm : Moves Notes m]
    [hf : ∀ a, Sends P L id (f a)] : Sends P L id (m >>= f) where
  sends ctx w hpool hP := by
    obtain ⟨hnotes, htick⟩ := hm.moves ctx w
    have hpool' : (m ctx w).2.PoolIntact ctx [id] := by
      rw [hnotes]
      exact ⟨hpool.conserves, hpool.poolSize, hpool.reissued⟩
    obtain ⟨hlater, he, hsent⟩ := (hf (m ctx w).1).sends ctx _ hpool' (by rw [hnotes]; exact hP)
    have hmono := @answers_mono ctx w (m ctx w).2 ((m >>= f) ctx w).2 _ htick le_rfl
    have hqueue : Unsent ctx w (m ctx w).2 := by rw [Unsent, hnotes]
    refine ⟨htick.trans hlater, he.trans (by rw [hnotes]), ?_⟩
    rcases hsent with ⟨hqueued, hn⟩ | ⟨hunsent, hlost⟩
    · exact .inl ⟨hqueued.after hqueue, fun h hsub => hn h (hmono.trans hsub)⟩
    · exact .inr ⟨hunsent.trans hqueue, hL.mono hmono hlost⟩

theorem congr {L' : Set Hooks → Prop} {m : M Unit} (h : Sends P L id m) (hL : ∀ H, L H ↔ L' H) :
    Sends P L' id m := by
  obtain rfl : L = L' := funext fun H => propext (hL H)
  exact h

/-- A program that always queues its packet. -/
theorem of_shipped {m : M Unit} [hm : Moves Mute m]
    (h : ∀ ctx w, w.PoolIntact ctx [id] → P (w.packetManager.packetBuf id) →
      Queued w (m ctx w).2) : Sends P Never id m where
  sends ctx w hpool hP := by
    obtain ⟨he, -, -, -, -, ht⟩ := hm.moves ctx w
    exact ⟨ht, he, .inl ⟨h ctx w hpool hP, fun _ _ => not_false⟩⟩

end Sends

/-- The host knows a path to the peer that no packet can take. -/
def Unusable (publicKey : Buf publicKeySize) (H : Set Hooks) : Prop :=
  ∃ h ∈ H, h.PathUnusable publicKey

instance (publicKey : Buf publicKeySize) : Growing (Unusable publicKey) :=
  ⟨fun _ _ hsub ⟨h, hmem, hp⟩ => ⟨h, hsub hmem, hp⟩⟩

section

variable {type : UInt8} {id : PacketId}

instance [ht : Floodable type] (delayMillis : UInt32) :
    Sends (Loaded type) Never id (requestSendFlood id delayMillis) :=
  .of_shipped fun _ _ hpool ⟨_, hload⟩ =>
    (requestSendFlood_shipped delayMillis ht.ne_trace hpool hload).queued

instance (delayMillis : UInt32) : Sends (Loaded type) Never id (meshSendZeroHop id delayMillis) :=
  .of_shipped fun _ _ hpool ⟨_, hload⟩ =>
    (meshSendZeroHop_shipped delayMillis hpool
      (hload.payloadLen_eq.trans_le hload.length_le)).queued

theorem meshSendDirect_sends (path : List UInt8) {pathLen : UInt8} (delayMillis : UInt32)
    (htrace : madeType type ≠ payloadTypeTrace) (hvalid : isValidPathLen pathLen = true) :
    Sends (Loaded type) Never id (meshSendDirect id path pathLen delayMillis) :=
  .of_shipped fun _ _ hpool ⟨_, hload⟩ =>
    (meshSendDirect_shipped path delayMillis hvalid htrace hpool hload).queued

instance [ht : Floodable type] (publicKey : Buf publicKeySize) (delayMillis : UInt32) :
    Sends (Loaded type) (Unusable publicKey) id (sendToPeer id publicKey delayMillis) where
  sends ctx w hpool := by
    rintro ⟨bytes, hload⟩
    obtain ⟨he, -, -, -, -, ht'⟩ :=
      (inferInstance : Moves Mute (sendToPeer id publicKey delayMillis)).moves ctx w
    have hmem : ctx.hooks w.tick ∈ answers ctx w (sendToPeer id publicKey delayMillis ctx w).2 := by
      rw [sendToPeer_run]
      have hrest : Moves Mute (((ctx.hooks w.tick).wirePath publicKey).elim
          (requestSendFlood id delayMillis)
          fun path => meshSendDirect id path.1.outPath.bytes path.2 delayMillis) := inferInstance
      exact mem_answers le_rfl
        (Nat.lt_of_succ_le (hrest.moves ctx { w with tick := w.tick + 1 }).2.2.2.2.2)
    refine ⟨ht', he, ?_⟩
    by_cases hpath : (ctx.hooks w.tick).PathUnusable publicKey
    · exact .inr ⟨sendToPeer_unsent publicKey delayMillis hpath ht.ne_trace hload, _, hmem, hpath⟩
    · refine .inl ⟨(sendToPeer_shipped publicKey delayMillis hpath ht.ne_trace hpool hload).queued,
        ?_⟩
      rintro h hsub ⟨_, rfl, hp⟩
      exact hpath (hsub hmem ▸ hp)

end

/-! ### Making the packet -/

/-- A program that has a result when the cipher works. -/
class Firm {α : Type} (m : M (Option α)) : Prop where
  firm : ∀ ctx w, (∀ h ∈ answers ctx w (m ctx w).2, h.CipherWorks) → (m ctx w).1.isSome

namespace Firm

variable {α β : Type}

instance pureSome (a : α) : Firm (pure (some a)) := ⟨fun _ _ _ => rfl⟩

instance ite (c : Prop) [Decidable c] (m n : M (Option α)) [hm : Firm m] [hn : Firm n] :
    Firm (if c then m else n) := by
  split
  · exact hm
  · exact hn

instance bind (m : M α) (f : α → M (Option β)) [hm : Moves Mute m] [hf : ∀ a, Firm (f a)] :
    Firm (m >>= f) where
  firm ctx w h := (hf _).firm ctx _ fun h' hmem =>
    h h' (answers_mono (hm.moves ctx w).2.2.2.2.2 le_rfl hmem)

/-- What follows depends on there being a result. -/
instance (priority := high) elim (m : M (Option α)) (n : M (Option β)) (f : α → M (Option β))
    [hm : Firm m] [hq : Moves Mute m] [hn : Moves Mute n] [hl : ∀ a, Moves Mute (f a)]
    [hf : ∀ a, Firm (f a)] : Firm (m >>= fun o => o.elim n f) where
  firm ctx w h := by
    have hrest : Moves Mute ((m ctx w).1.elim n f) := inferInstance
    have hsome := hm.firm ctx w fun h' hmem =>
      h h' (answers_mono le_rfl (hrest.moves ctx (m ctx w).2).2.2.2.2.2 hmem)
    obtain ⟨a, ha⟩ := Option.isSome_iff_exists.mp hsome
    rw [Prog.run_bind, ha] at h ⊢
    exact (hf a).firm ctx _ fun h' hmem =>
      h h' (answers_mono (hq.moves ctx w).2.2.2.2.2 le_rfl hmem)

instance (priority := high) map (m : M (Option α)) (f : α → β) [hm : Firm m] :
    Firm (m >>= fun o => pure (o.map f)) where
  firm ctx w h := by
    rw [Prog.run_bind, Prog.run_pure, Option.isSome_map]
    exact hm.firm ctx w h

theorem hook {f : Hooks → Option α} (hf : ∀ h, h.CipherWorks → (f h).isSome) :
    Firm (Meshcore.hook f) where
  firm _ w h := hf _ (h _ (mem_answers le_rfl (Nat.lt_succ_self w.tick)))

end Firm

instance (secret : Buf publicKeySize) (block : Buf cipherBlockSize) :
    Firm (hook fun h => h.aes128EncryptBlock secret block) := .hook fun _ h => h.1 secret block

instance (secret : Buf publicKeySize) (data : List UInt8) :
    Firm (hook fun h => h.hmacSha256 cipherMacSize secret data) := .hook fun _ h => h.2 secret data

instance (secret : Buf publicKeySize) (n : ℕ) (src : List UInt8) :
    Firm (cipherBlocks (·.aes128EncryptBlock secret) n src) := by
  induction n generalizing src with
  | zero => unfold cipherBlocks; infer_instance
  | succ n ih => unfold cipherBlocks; infer_instance

instance (secret : Buf publicKeySize) (src : List UInt8) : Firm (utilsEncrypt secret src) := by
  unfold utilsEncrypt; infer_instance

instance (secret : Buf publicKeySize) (src : List UInt8) :
    Firm (utilsEncryptThenMac secret src) where
  firm ctx w h := by
    have hrest : ∀ enc : List UInt8, Firm (do
        let mac ← hook fun h => h.hmacSha256 cipherMacSize secret enc
        pure (mac.map (·.bytes ++ enc))) := inferInstance
    have hmute : ∀ o : Option (List UInt8), Moves Mute (o.elim (pure none) fun enc =>
        if src.length > 0 ∧ enc.length = 0 then pure none
        else do
          let mac ← hook fun h => h.hmacSha256 cipherMacSize secret enc
          pure (mac.map (·.bytes ++ enc))) := inferInstance
    have hlater := (inferInstance : Moves Mute (utilsEncrypt secret src)).moves ctx w
    rw [utilsEncryptThenMac, Prog.run_bind] at h ⊢
    obtain ⟨enc, henc⟩ := Option.isSome_iff_exists.mp <|
      (inferInstance : Firm (utilsEncrypt secret src)).firm ctx w fun h' hmem =>
        h h' (answers_mono le_rfl ((hmute _).moves ctx _).2.2.2.2.2 hmem)
    have hlen := length_utilsEncrypt henc
    -- A text that is not empty has a block, so the ciphertext is not empty either.
    have hne : ¬(src.length > 0 ∧ enc.length = 0) := by
      rintro ⟨hpos, hzero⟩
      rw [hzero, paddedLength] at hlen
      change 0 = (_ + 15) / 16 * 16 at hlen
      omega
    rw [henc, Option.elim_some, Prog.run_ite, if_neg hne] at h ⊢
    exact (hrest enc).firm ctx _ fun h' hmem => h h' (answers_mono hlater.2.2.2.2.2 le_rfl hmem)

instance (id : PacketId) (type : UInt8) (clear : List UInt8) (secret : Buf publicKeySize)
    (data : List UInt8) : Firm (fillEncrypted id type clear secret data) := by
  unfold fillEncrypted; infer_instance

/-- A program that makes a packet when there is a free buffer and the cipher works. -/
class Succeeds (m : M (Option PacketId)) : Prop where
  succeeds : ∀ ctx w, w.HasRoom ctx →
    (∀ h ∈ answers ctx w (m ctx w).2, h.CipherWorks) → (m ctx w).1.isSome

theorem dispatcherObtainNewPacket_isSome {ctx : Ctx} {w : World} {held : List PacketId}
    (hc : w.packetManager.Conserves held) (hfree : 0 < w.packetManager.getFreeCount) :
    (dispatcherObtainNewPacket ctx w).1.isSome := by
  rw [PacketQueueManager.getFreeCount, if_neg hc.ready] at hfree
  have halloc : (allocPacket ctx w).1.isSome := by
    simp only [allocPacket, takePacket, Prog.run_bind, Prog.run_pure]
    have hpos : 0 < w.packetManager.unused.entries.length := hfree
    rw [PacketQueueManager.allocNew, if_neg hc.ready]
    simp [PacketQueue.removeByIdx, hpos]
  obtain ⟨id, hid⟩ := Option.isSome_iff_exists.mp halloc
  rw [dispatcherObtainNewPacket, Prog.run_bind, hid]
  rfl

/-- A free buffer is taken and filled. -/
theorem isSome_of_obtain {f : PacketId → M (Option PacketId)} [hf : ∀ id, Firm (f id)] {ctx : Ctx}
    {w : World} {held : List PacketId} (hc : w.packetManager.Conserves held)
    (hfree : 0 < w.packetManager.getFreeCount)
    (h : ∀ h ∈ answers ctx w ((do
      let packet ← dispatcherObtainNewPacket
      packet.elim (pure none) f : M (Option PacketId)) ctx w).2, h.CipherWorks) :
    ((do
      let packet ← dispatcherObtainNewPacket
      packet.elim (pure none) f : M (Option PacketId)) ctx w).1.isSome := by
  obtain ⟨id, hid⟩ := Option.isSome_iff_exists.mp (dispatcherObtainNewPacket_isSome hc hfree)
  rw [Prog.run_bind, hid] at h ⊢
  have hlater := (inferInstance : Moves Mute dispatcherObtainNewPacket).moves ctx w
  exact (hf id).firm ctx _ fun h' hmem => h h' (answers_mono hlater.2.2.2.2.2 le_rfl hmem)

theorem Succeeds.obtain {f : PacketId → M (Option PacketId)} [hf : ∀ id, Firm (f id)] :
    Succeeds (do
      let packet ← dispatcherObtainNewPacket
      packet.elim (pure none) f) :=
  ⟨fun _ _ hroom h => isSome_of_obtain hroom.pool.conserves hroom.free h⟩

theorem meshCreateDatagram_isSome {type : UInt8} {dest : Identity} {secret : Buf publicKeySize}
    {data : List UInt8} {ctx : Ctx} {w : World} {held : List PacketId}
    (htype : type = payloadTypeTxtMsg ∨ type = payloadTypeReq ∨ type = payloadTypeResponse)
    (hfits : meshDatagramPlaintextFits data.length = true) (hc : w.packetManager.Conserves held)
    (hfree : 0 < w.packetManager.getFreeCount)
    (h : ∀ h ∈ answers ctx w (meshCreateDatagram type dest secret data ctx w).2, h.CipherWorks) :
    (meshCreateDatagram type dest secret data ctx w).1.isSome := by
  rw [meshCreateDatagram, if_neg (by simpa [or_iff_not_imp_left] using htype),
    if_neg (by simp [hfits])] at h ⊢
  exact isSome_of_obtain hc hfree h

theorem meshCreateDatagram_succeeds {type : UInt8} (dest : Identity) (secret : Buf publicKeySize)
    {data : List UInt8}
    (htype : type = payloadTypeTxtMsg ∨ type = payloadTypeReq ∨ type = payloadTypeResponse)
    (hfits : meshDatagramPlaintextFits data.length = true) :
    Succeeds (meshCreateDatagram type dest secret data) :=
  ⟨fun _ _ hroom h => meshCreateDatagram_isSome htype hfits hroom.pool.conserves hroom.free h⟩

theorem meshCreateAnonDatagram_succeeds (sender : LocalIdentity) (dest : Identity)
    (secret : Buf publicKeySize) {data : List UInt8} (hfits : data.length ≤ maxAnonDataPayloadLen) :
    Succeeds (meshCreateAnonDatagram payloadTypeAnonReq sender dest secret data) := by
  have hlen : ¬data.length > packetPayloadMaxLen - 1 - publicKeySize - cipherBlockSize + 1 := by
    show ¬data.length > 136
    have hmax : maxAnonDataPayloadLen ≤ 136 := by decide
    omega
  rw [meshCreateAnonDatagram, if_neg (by simp), if_neg hlen]
  exact .obtain

/-- A packet was made, and nothing went out yet. -/
structure Made (P : Packet → Prop) (ctx : Ctx) (held : List PacketId) (w : World) (id : PacketId)
    (w' : World) : Prop where
  pool : w'.PoolIntact ctx (id :: held)
  unsent : Unsent ctx w w'
  events : w'.events = w.events
  packet : P (w'.packetManager.packetBuf id)

section

variable {P : Packet → Prop} {ctx : Ctx} {held : List PacketId} {w w' w'' : World} {id : PacketId}

theorem Made.of_some {packet : M (Option PacketId)} [hu : Uses Carries [] packet Option.toList]
    [hq : Moves Unsent packet] [hm : Moves Mute packet] (hpool : w.PoolIntact ctx held)
    (hid : (packet ctx w).1 = some id) (hP : P ((packet ctx w).2.packetManager.packetBuf id)) :
    Made P ctx held w id (packet ctx w).2 := by
  have hpool' := (hu.uses ctx w held).2 hpool
  rw [hid] at hpool'
  exact ⟨hpool', hq.moves ctx w, (hm.moves ctx w).1, hP⟩

theorem Made.of_isSome {packet : M (Option PacketId)} [hu : Uses Carries [] packet Option.toList]
    [hP : Fills P packet] [hq : Moves Unsent packet] [hm : Moves Mute packet]
    (hpool : w.PoolIntact ctx held) (hsome : (packet ctx w).1.isSome) :
    ∃ id, (packet ctx w).1 = some id ∧ Made P ctx held w id (packet ctx w).2 := by
  obtain ⟨id, hid⟩ := Option.isSome_iff_exists.mp hsome
  exact ⟨id, hid, .of_some hpool hid (hP.fills ctx w id hid)⟩

/-- A registration makes no difference to the packet. -/
theorem Made.notes (h : Made P ctx held w id w') (hn : Notes ctx w' w'') :
    Made P ctx held w id w'' := by
  obtain ⟨hn, -⟩ := hn
  refine ⟨?_, ?_, ?_, ?_⟩
  · rw [hn]
    exact ⟨h.pool.conserves, h.pool.poolSize, h.pool.reissued⟩
  · rw [Unsent, hn]
    exact h.unsent
  · rw [hn]
    exact h.events
  · rw [hn]
    exact h.packet

end

theorem withRequestPacket_run {type : RequestType} {packet : M (Option PacketId)}
    {send : PacketId → M Unit} {ctx : Ctx} {w : World} {id : PacketId}
    (hid : (packet ctx w).1 = some id) :
    withRequestPacket type packet send ctx w = send id ctx (packet ctx w).2 := by
  rw [withRequestPacket, Prog.run_bind, hid]
  rfl

/-- A request whose packet is made, or not, and then sent. -/
theorem withRequestPacket_concludes {P : Packet → Prop} {L : Set Hooks → Prop} (type : RequestType)
    (packet : M (Option PacketId)) (send : PacketId → M Unit) (hL : Growing L)
    [hu : Uses Carries [] packet Option.toList] [hP : Fills P packet] [hq : Moves Unsent packet]
    [hm : Moves Mute packet] [hs : ∀ id, Sends P L id (send id)]
    (hsome : (∀ h, ¬L {h}) ∨ Succeeds packet) :
    Concludes L (withRequestPacket type packet send) where
  concludes ctx w hroom := by
    obtain ⟨he, hc, -, -, -, ht⟩ := hm.moves ctx w
    have hqueue := hq.moves ctx w
    have hpool := (hu.uses ctx w []).2 hroom.pool
    rw [withRequestPacket, Prog.run_bind]
    cases hid : (packet ctx w).1 with
    | none =>
      rw [Option.elim_none, requestLogTransientFailure_run type (.inl rfl)]
      refine ⟨ht, .reported hqueue hc type eNOBUFS (congrArg (· ++ _) he) fun h hcipher hsub => ?_⟩
      rcases hsome with hnever | hsucceeds
      · exact hnever h
      · have hall : ∀ h' ∈ answers ctx w (packet ctx w).2, h'.CipherWorks := by
          intro h' hmem
          rw [hsub hmem]
          exact hcipher
        have := hsucceeds.succeeds ctx w hroom hall
        rw [hid] at this
        cases this
    | some id =>
      rw [hid] at hpool
      obtain ⟨hlater, hev, hsent⟩ := (hs id).sends ctx _ hpool (hP.fills ctx w id hid)
      have hmono := @answers_mono ctx w (packet ctx w).2
        (send id ctx (packet ctx w).2).2 _ ht le_rfl
      refine ⟨ht.trans hlater, ?_⟩
      rcases hsent with ⟨hqueued, hn⟩ | ⟨hunsent, hlost⟩
      · exact .queued (hqueued.after hqueue) (hev.trans he) fun h hsub => hn h (hmono.trans hsub)
      · exact .lost (hunsent.trans hqueue) (hev.trans he) (hL.mono hmono hlost)

end Meshcore
