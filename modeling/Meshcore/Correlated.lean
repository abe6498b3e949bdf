import Meshcore.Runtime
import Meshcore.Settle

/-!
# Requests and their answers

Over a whole run, what happens to the slots of the request correlation is an honest ledger, to which
each call contributes a block: a request that is accepted opens at most one slot, for what it asked,
a radio or timer event settles some, and starting or stopping the library empties them. The answers
in the ledger are, in order, the events that tell the host of an answer.

## Main definitions

* `Opens` — a program opens at most one slot
* `Op.Enters`, `RunLedger` — the block of a call, and the ledger of a run
* `Handles` — what a handler does with a response

## Main results

* `exists_runLedger` — every run has a ledger
* `correlated_exactly_once` — each answer belongs to a distinct earlier request
-/

namespace Meshcore

/-! ### Requests that no event answers -/

instance (nowMs : ℕ) : Uncorrelated (.timerArm nowMs) := ⟨rfl⟩
instance : Uncorrelated .timerCancel := ⟨rfl⟩
instance : Uncorrelated .radioBegin := ⟨rfl⟩

instance (o : Option ℕ) (e : Event) (f : ℕ → Event) [he : Uncorrelated e]
    [hf : ∀ n, Uncorrelated (f n)] : Uncorrelated (o.elim e f) := by
  cases o with
  | none => exact he
  | some n => exact hf n

instance (nowMs : ℕ) (deadline : Option ℕ) : Moves KeepsCorrelation (setTimer nowMs deadline) where
  moves ctx w := by
    have h := (inferInstance : Moves KeepsCorrelation
      (emit (deadline.elim .timerCancel .timerArm))).moves ctx w
    exact ⟨h.1, h.2⟩

instance (nowMs : ℕ) : Moves Asks (runtimeNextDeadlineGet nowMs) := by
  unfold runtimeNextDeadlineGet; infer_instance

instance (nowMs : ℕ) : Moves KeepsCorrelation (timerSync nowMs) := by
  unfold timerSync; infer_instance

instance : Moves KeepsCorrelation timerSyncNow := by unfold timerSyncNow; infer_instance

instance (type : RequestType) (errCode : ℤ) :
    Moves KeepsCorrelation (requestLogTransientFailure type errCode) := by
  unfold requestLogTransientFailure; infer_instance

instance (tag : UInt32) : Moves Mute (requestTagOf tag) := by unfold requestTagOf; infer_instance

instance (id : PacketId) (delayMillis : UInt32) : Moves Mute (requestSendFlood id delayMillis) := by
  unfold requestSendFlood; infer_instance

instance : Moves Mute advertSource := by unfold advertSource; infer_instance

instance (type : RequestType) (packet : M (Option PacketId)) (send : PacketId → M Unit)
    [Moves KeepsCorrelation packet] [∀ id, Moves KeepsCorrelation (send id)] :
    Moves KeepsCorrelation (withRequestPacket type packet send) := by
  unfold withRequestPacket; infer_instance

instance (type : RequestType) (execute : M Unit) [Moves KeepsCorrelation execute] :
    Moves KeepsCorrelation (withLocalIdentity type execute) := by
  unfold withLocalIdentity; infer_instance

instance (flood : Bool) : Moves KeepsCorrelation (executeNodeAdvert flood) := by
  unfold executeNodeAdvert; infer_instance

instance (raw : List UInt8) : Moves KeepsCorrelation (executeNodePeerAdvert raw) := by
  unfold executeNodePeerAdvert; infer_instance

instance (request : MessageSendToChannel) :
    Moves KeepsCorrelation (executeMessageSendToChannel request) := by
  unfold executeMessageSendToChannel; infer_instance

instance (request : NodePayload) : Moves KeepsCorrelation (executeNodeAnonData request) := by
  unfold executeNodeAnonData; infer_instance

instance (r : NodeBinaryResponse) : Moves KeepsCorrelation (executeNodeBinaryResponse r) := by
  unfold executeNodeBinaryResponse; infer_instance

instance (filter : UInt8) (prefixOnly : Bool) (since tag : UInt32) :
    Moves KeepsCorrelation (executeNodeDiscover filter prefixOnly since tag) := by
  unfold executeNodeDiscover; infer_instance

instance (request : ChannelData) : Moves KeepsCorrelation (executeChannelData request) := by
  unfold executeChannelData; infer_instance

instance (request : RawData) : Moves KeepsCorrelation (executeRawData request) := by
  unfold executeRawData; infer_instance

instance (payload : List UInt8) : Moves KeepsCorrelation (executeControlData payload) := by
  unfold executeControlData; infer_instance

/-! ### Opening a slot -/

/-- The kinds of requests whose answers are told. -/
inductive Kind where
  | ack | discovery | trace | telemetry | binary
deriving DecidableEq

def Slot.kind : Slot → Kind
  | .ack _ => .ack
  | .discovery => .discovery
  | .trace => .trace
  | .telemetry => .telemetry
  | .binary => .binary

/-- A tag that was asked for, unless it was left open by 0. -/
def TagIs (asked tag : UInt32) : Prop := asked ≠ 0 → tag = asked

/-- What a request registers. -/
def Opening (kind : Kind) (asked : UInt32) (keyPrefix : List UInt8) (attempt : UInt8) (s : Slot)
    (r : Registration) : Prop :=
  s.kind = kind ∧ TagIs asked r.tag ∧ r.keyPrefix = keyPrefix ∧ r.attempt = attempt

/-- A request is opened in a slot, and no event goes out that answers one. -/
def Opened (P : Slot → Registration → Prop) (w w' : World) : Prop :=
  ∃ s r, P s r ∧ w'.correlation.slot = Function.update w.correlation.slot s (some r) ∧
    w'.events.filter Event.isCorrelated = w.events.filter Event.isCorrelated

/-- A program opens at most one slot. -/
class Opens (kind : Kind) (asked : UInt32) (keyPrefix : List UInt8) (attempt : UInt8) {α : Type}
    (m : M α) : Prop where
  opens : ∀ ctx w, KeepsCorrelation ctx w (m ctx w).2 ∨
    Opened (Opening kind asked keyPrefix attempt) w (m ctx w).2

theorem KeepsCorrelation.filter_events {ctx : Ctx} {w w' : World} (h : KeepsCorrelation ctx w w') :
    w'.events.filter Event.isCorrelated = w.events.filter Event.isCorrelated := by
  obtain ⟨⟨es, hes, hall⟩, -⟩ := h
  have hnone : es.filter Event.isCorrelated = [] :=
    List.filter_eq_nil_iff.mpr fun e he => by simp [hall e he]
  rw [hes, List.filter_append, hnone, List.append_nil]

theorem Opened.after {P : Slot → Registration → Prop} {ctx : Ctx} {w w' w'' : World}
    (h : KeepsCorrelation ctx w w') (ho : Opened P w' w'') : Opened P w w'' := by
  obtain ⟨s, r, hP, hslot, hev⟩ := ho
  exact ⟨s, r, hP, by rw [hslot, h.2.1], hev.trans h.filter_events⟩

theorem Opened.before {P : Slot → Registration → Prop} {ctx : Ctx} {w w' w'' : World}
    (ho : Opened P w w') (h : KeepsCorrelation ctx w' w'') : Opened P w w'' := by
  obtain ⟨s, r, hP, hslot, hev⟩ := ho
  exact ⟨s, r, hP, by rw [h.2.1, hslot], h.filter_events.trans hev⟩

theorem Opened.imp {P Q : Slot → Registration → Prop} {w w' : World} (h : ∀ s r, P s r → Q s r)
    (ho : Opened P w w') : Opened Q w w' := by
  obtain ⟨s, r, hP, hrest⟩ := ho
  exact ⟨s, r, h s r hP, hrest⟩

namespace Opens

variable {kind : Kind} {asked : UInt32} {keyPrefix : List UInt8} {attempt : UInt8} {α β : Type}

instance (priority := low) ofKeepsCorrelation (m : M α) [hm : Moves KeepsCorrelation m] :
    Opens kind asked keyPrefix attempt m := ⟨fun ctx w => .inl (hm.moves ctx w)⟩

instance bind (m : M α) (f : α → M β) [hm : Moves KeepsCorrelation m]
    [hf : ∀ a, Opens kind asked keyPrefix attempt (f a)] :
    Opens kind asked keyPrefix attempt (m >>= f) where
  opens ctx w := ((hf (m ctx w).1).opens ctx (m ctx w).2).imp
    (Composes.trans ctx w _ _ (hm.moves ctx w)) (Opened.after (hm.moves ctx w))

instance (priority := low) bindAfter (m : M α) (f : α → M β)
    [hm : Opens kind asked keyPrefix attempt m] [hf : ∀ a, Moves KeepsCorrelation (f a)] :
    Opens kind asked keyPrefix attempt (m >>= f) where
  opens ctx w :=
    have hafter := (hf (m ctx w).1).moves ctx (m ctx w).2
    (hm.opens ctx w).imp (Composes.trans ctx w _ _ · hafter) (Opened.before · hafter)

instance elim (o : Option α) (n : M β) (f : α → M β) [hn : Opens kind asked keyPrefix attempt n]
    [hf : ∀ a, Opens kind asked keyPrefix attempt (f a)] :
    Opens kind asked keyPrefix attempt (o.elim n f) := by
  cases o with
  | none => exact hn
  | some a => exact hf a

instance ite (c : Prop) [Decidable c] (m n : M β) [hm : Opens kind asked keyPrefix attempt m]
    [hn : Opens kind asked keyPrefix attempt n] :
    Opens kind asked keyPrefix attempt (if c then m else n) := by
  split
  · exact hm
  · exact hn

/-- What was asked for may be weakened to the tag it was taken from. -/
theorem weaken {t : UInt32} {m : M α} (h : TagIs asked t)
    [hm : Opens kind t keyPrefix attempt m] (hne : asked ≠ 0 → t ≠ 0) :
    Opens kind asked keyPrefix attempt m where
  opens ctx w := (hm.opens ctx w).imp_right <| Opened.imp fun _ _ ⟨hs, ht, hrest⟩ =>
    ⟨hs, fun hasked => (ht (hne hasked)).trans (h hasked), hrest⟩

/-- The tag is the caller's, or a fresh one. -/
instance requestTag (f : UInt32 → M α) [hf : ∀ t, Opens kind t keyPrefix attempt (f t)] :
    Opens kind asked keyPrefix attempt (requestTagOf asked >>= f) := by
  by_cases h : asked = 0
  · subst h
    have (t : UInt32) : Opens kind 0 keyPrefix attempt (f t) :=
      weaken (t := t) (fun h => absurd rfl h) fun h => absurd rfl h
    infer_instance
  · rw [requestTagOf, if_neg h]
    exact hf asked

end Opens

/-- To fill a single slot opens it. -/
theorem Opens.of_pending {s : Slot} {tag : UInt32} {keyPrefix : List UInt8} {mask : UInt8}
    {f : Pending → Correlation → Correlation}
    (hf : ∀ pending c, (f pending c).slot = Function.update c.slot s pending.registration) :
    Opens s.kind tag keyPrefix 0 (do
      let pending ← pendingRegister tag keyPrefix mask
      modifyCorrelation (f pending)) where
  opens ctx w := by
    obtain ⟨he, hc, -⟩ := (inferInstance : Moves Mute clockMillisGet).moves ctx w
    refine .inr ⟨s, ⟨tag, keyPrefix, 0,
      ((clockMillisGet ctx w).1 + runtimeRequestTimeoutMs) % 2 ^ ctx.ulongBits⟩,
      ⟨rfl, fun _ => rfl, rfl, rfl⟩, ?_, congrArg _ he⟩
    rw [← hc]
    exact hf ..

instance (tag : UInt32) (key : Buf publicKeySize) :
    Opens .discovery tag (keyPrefixOf key) 0 (pendingDiscoveryRegister tag key) :=
  .of_pending (s := .discovery) fun pending c => c.slot_setDiscovery pending

instance (tag : UInt32) : Opens .trace tag [] 0 (pendingTraceRegister tag) :=
  .of_pending (s := .trace) fun pending c => c.slot_setTrace pending

instance (tag : UInt32) (key : Buf publicKeySize) (mask : UInt8) :
    Opens .telemetry tag (keyPrefixOf key) 0 (pendingTelemetryRegister tag key mask) :=
  .of_pending (s := .telemetry) fun pending c => c.slot_setTelemetry pending

instance (tag : UInt32) (key : Buf publicKeySize) :
    Opens .binary tag (keyPrefixOf key) 0 (pendingBinaryRegister tag key) :=
  .of_pending (s := .binary) fun pending c => c.slot_setBinary pending

/-- An acknowledgement is expected of one code, unless the code is 0. -/
instance (ackCrc : UInt32) (target : List UInt8) (attempt : UInt8) :
    Opens .ack 0 target attempt (expectedAckRegister ackCrc target attempt) where
  opens ctx w := by
    have hclock := (inferInstance : Moves Mute clockMillisGet).moves ctx w
    simp only [expectedAckRegister, Prog.run_bind, Prog.run_env, Prog.run_ite]
    by_cases hcrc : ackCrc = 0
    · rw [if_pos hcrc]
      exact .inl ((inferInstance : Moves KeepsCorrelation clockMillisGet).moves ctx w)
    · rw [if_neg hcrc]
      refine .inr ⟨.ack ⟨_, w.correlation.registerSlot_lt ctx.ulongBits (clockMillisGet ctx w).1⟩,
        ⟨ackCrc, target, attempt,
          ((clockMillisGet ctx w).1 + runtimeRequestTimeoutMs) % 2 ^ ctx.ulongBits⟩,
        ⟨rfl, fun h => absurd rfl h, rfl, rfl⟩, ?_, congrArg _ hclock.1⟩
      rw [← hclock.2.1]
      exact Correlation.slot_expectedAckRegister ..

/-! ### The requests that are answered by an event -/

section

variable {kind : Kind} {asked : UInt32} {keyPrefix : List UInt8} {attempt : UInt8}

instance (type : RequestType) (packet : M (Option PacketId)) (send : PacketId → M Unit)
    [Moves KeepsCorrelation packet] [∀ id, Opens kind asked keyPrefix attempt (send id)] :
    Opens kind asked keyPrefix attempt (withRequestPacket type packet send) := by
  unfold withRequestPacket; infer_instance

instance (type : RequestType) (execute : M Unit) [Opens kind asked keyPrefix attempt execute] :
    Opens kind asked keyPrefix attempt (withLocalIdentity type execute) := by
  unfold withLocalIdentity; infer_instance

end

instance (request : MessageSendToNode) :
    Opens .ack 0 (keyPrefixOf request.publicKey) request.attempt
      (executeMessageSendToNode request) := by
  unfold executeMessageSendToNode; infer_instance

instance (key : Buf publicKeySize) (tag : UInt32) :
    Opens .discovery tag (keyPrefixOf key) 0 (executeNodeDiscoverPath key tag) := by
  unfold executeNodeDiscoverPath; infer_instance

instance (request : NodeTracePath) (tag : UInt32) :
    Opens .trace tag [] 0 (executeNodeTracePath request tag) := by
  unfold executeNodeTracePath; infer_instance

instance (request : NodeTelemetry) (tag : UInt32) :
    Opens .telemetry tag (keyPrefixOf request.publicKey) 0 (executeNodeTelemetry request tag) := by
  unfold executeNodeTelemetry; infer_instance

instance (request : NodePayload) (tag : UInt32) :
    Opens .binary tag (keyPrefixOf request.publicKey) 0 (executeNodeBinary request tag) := by
  by_cases h : tag = 0
  · subst h
    have (t : UInt32) :
        Opens .binary 0 (keyPrefixOf request.publicKey) 0
          (pendingBinaryRegister t request.publicKey) :=
      .weaken (t := t) (absurd rfl) (absurd rfl)
    unfold executeNodeBinary
    infer_instance
  · simp only [executeNodeBinary, ne_eq, h, not_false_eq_true, if_true]
    infer_instance

/-! ### The block of a call -/

section

variable {kind : Kind} {keyPrefix : List UInt8} {attempt : UInt8} {ctx : Ctx} {w : World}

/-- Only a request that is accepted opens a slot. -/
theorem requestExecuteNow_opens {asked : UInt32} {execute : M Unit}
    [hm : Opens kind asked keyPrefix attempt execute] :
    KeepsCorrelation ctx w (requestExecuteNow execute ctx w).2 ∨
      (requestExecuteNow execute ctx w).1 = 0 ∧
        Opened (Opening kind asked keyPrefix attempt) w (requestExecuteNow execute ctx w).2 := by
  simp only [requestExecuteNow, whenReady, Prog.run_bind, Prog.run_gets, Prog.run_ite,
    Prog.run_pure]
  have hrefl : KeepsCorrelation ctx w w := Composes.refl ctx w
  split
  · exact .inl hrefl
  · split
    · exact .inl hrefl
    · have hsync := (inferInstance : Moves KeepsCorrelation timerSyncNow).moves ctx
        (execute ctx w).2
      exact (hm.opens ctx w).imp (Composes.trans ctx w _ _ · hsync) fun h =>
        ⟨rfl, h.before hsync⟩

theorem request_opens {α : Type} {record : Option α} {asked : UInt32} {execute : α → M Unit}
    {key : α → List UInt8} {att : α → UInt8}
    [hopens : ∀ r, Opens kind asked (key r) (att r) (execute r)] :
    let out := request record (fun r => requestExecuteNow (execute r)) ctx w
    KeepsCorrelation ctx w out.2 ∨ out.1 = 0 ∧ ∃ r, record = some r ∧
      Opened (Opening kind asked (key r) (att r)) w out.2 := by
  simp only [request, whenReady, Prog.run_bind, Prog.run_gets, Prog.run_ite, Prog.run_pure]
  have hrefl : KeepsCorrelation ctx w w := Composes.refl ctx w
  split
  · exact .inl hrefl
  · cases record with
    | none => exact .inl hrefl
    | some r => exact requestExecuteNow_opens.imp_right fun h => ⟨h.1, r, rfl, h.2⟩

/-- The tag that is registered is the one the caller is told. -/
theorem requestWithTag_opens {α : Type} {record : Option α} {requestTag : Option UInt32}
    {execute : α → UInt32 → M Unit} {key : α → List UInt8}
    [hopens : ∀ r t, Opens kind t (key r) 0 (execute r t)] :
    let out := requestWithTag record requestTag execute ctx w
    KeepsCorrelation ctx w out.2 ∨ out.1.1 = 0 ∧ ∃ r, record = some r ∧
      Opened (fun s reg => Opening kind (requestTag.getD 0) (key r) 0 s reg ∧
        ∀ t, out.1.2 = some t → TagIs t reg.tag) w out.2 := by
  simp only [requestWithTag, Prog.run_bind, Prog.run_gets, Prog.run_ite, Prog.run_pure]
  have hrefl : KeepsCorrelation ctx w w := Composes.refl ctx w
  split
  · exact .inl hrefl
  · cases record with
    | none => exact .inl hrefl
    | some r =>
      simp only [Option.elim_some, Prog.run_bind, Prog.run_pure]
      have hdraw :=
        (inferInstance : Moves KeepsCorrelation (requestTagOf (requestTag.getD 0))).moves ctx w
      have htag : TagIs (requestTag.getD 0) (requestTagOf (requestTag.getD 0) ctx w).1 := by
        intro hne
        rw [requestTagOf, if_neg hne]
        rfl
      generalize (requestTagOf (requestTag.getD 0) ctx w).1 = tag at htag ⊢
      generalize (requestTagOf (requestTag.getD 0) ctx w).2 = w₁ at hdraw ⊢
      rcases @requestExecuteNow_opens kind (key r) 0 ctx w₁ tag (execute r tag) _ with h | ⟨hrc, h⟩
      · exact .inl (Composes.trans ctx w _ _ hdraw h)
      · refine .inr ⟨hrc, r, rfl, (h.imp fun s reg hopening => ?_).after hdraw⟩
        obtain ⟨hs, ht, hrest⟩ := hopening
        refine ⟨⟨hs, fun hne => (ht (htag hne ▸ hne)).trans (htag hne), hrest⟩, fun t hout => ?_⟩
        rw [if_pos hrc, Option.map_eq_some_iff] at hout
        obtain ⟨-, -, rfl⟩ := hout
        exact ht

end

/-- What a request registers in which slot. -/
def Op.Registers (s : Slot) (r : Registration) : Op → Prop
  | .messageSendToNode publicKey _ attempt _ =>
    s.kind = .ack ∧ publicKey.map keyPrefixOf = some r.keyPrefix ∧ r.attempt = attempt
  | .nodeDiscoverPathRequest publicKey requestTag =>
    s.kind = .discovery ∧ publicKey.map keyPrefixOf = some r.keyPrefix ∧
      TagIs (requestTag.getD 0) r.tag
  | .nodeTraceRequest _ _ _ requestTag => s.kind = .trace ∧ TagIs (requestTag.getD 0) r.tag
  | .nodeTelemetryRequest publicKey _ requestTag =>
    s.kind = .telemetry ∧ publicKey.map keyPrefixOf = some r.keyPrefix ∧
      TagIs (requestTag.getD 0) r.tag
  | .nodeBinaryRequestWithTag publicKey _ tag =>
    s.kind = .binary ∧ publicKey.map keyPrefixOf = some r.keyPrefix ∧ TagIs tag r.tag
  | _ => False

/-- The entry is no answer to a request whose time had been reached before. -/
def InTime (w : ℕ) (before : Correlation) (x : LedgerEntry Slot Registration Ending) : Prop :=
  ∀ s nowMs e, x = .ended s (.answered nowMs e) → ∀ r, before.slot s = some r →
    timeReached w nowMs r.expiresAtMs = false

/-- What a call enters in the ledger. -/
def Op.Enters (ctx : Ctx) (w : World) (b : CorrelationLedger) : Op → Prop
  | .init | .deinit => ∀ x ∈ b, ∃ s, x = .ended s .reset
  | .timerFired nowMs =>
    ∀ x ∈ b, Settling (some nowMs.toNat) x ∧ InTime ctx.ulongBits w.correlation x
  | .radioRxInject _ _ _ nowMs | .radioTxDone nowMs _ =>
    ∀ x ∈ b, Settling (some nowMs.toNat) x
  | op => b = [] ∨ (op.run ctx w).1 = 0 ∧ ∃ s r, b = [.opened s r] ∧ op.Registers s r ∧
    ∀ t, (op.call ctx w).1.2 = some t → TagIs t r.tag

/-- The slots and the events after some steps are as entries in a ledger say. -/
structure Entered (ctx : Ctx) (w w' : World) (b : CorrelationLedger) : Prop where
  honest : Honest (Ends ctx.ulongBits) w.correlation.slot b w'.correlation.slot
  events : w'.events.filter Event.isCorrelated =
    w.events.filter Event.isCorrelated ++ b.filterMap answerOf

theorem Entered.append {ctx : Ctx} {w w' w'' : World} {b b' : CorrelationLedger}
    (h : Entered ctx w w' b) (h' : Entered ctx w' w'' b') : Entered ctx w w'' (b ++ b') :=
  ⟨h.honest.append h'.honest, by
    rw [h'.events, h.events, List.filterMap_append, List.append_assoc]⟩

/-- Nothing is entered for what is elsewhere. -/
theorem Entered.of_same {ctx : Ctx} {w w' : World} (hc : w'.correlation = w.correlation)
    (he : w'.events.filter Event.isCorrelated = w.events.filter Event.isCorrelated) :
    Entered ctx w w' [] := by
  refine ⟨?_, by simp [he]⟩
  rw [hc]
  exact .nil

theorem KeepsCorrelation.entered {ctx : Ctx} {w w' : World} (h : KeepsCorrelation ctx w w') :
    Entered ctx w w' [] := .of_same h.2.1 h.filter_events

theorem Opened.entered {P : Slot → Registration → Prop} {ctx : Ctx} {w w' : World}
    (h : Opened P w w') : ∃ s r, P s r ∧ Entered ctx w w' [.opened s r] := by
  obtain ⟨s, r, hP, hslot, hev⟩ := h
  refine ⟨s, r, hP, ?_, by simp [hev, answerOf]⟩
  rw [hslot]
  exact .single (.opened s r) trivial

/-- The slots were emptied. -/
def Resets (_ : Ctx) (w w' : World) : Prop :=
  (∀ s, w'.correlation.slot s = w.correlation.slot s ∨ w'.correlation.slot s = none) ∧
    w'.events.filter Event.isCorrelated = w.events.filter Event.isCorrelated

instance : Composes Resets where
  refl _ _ := ⟨fun _ => .inl rfl, rfl⟩
  trans _ _ _ _ h h' := by
    refine ⟨fun s => ?_, h'.2.trans h.2⟩
    rcases h'.1 s with hs | hs
    · rw [hs]
      exact h.1 s
    · exact .inr hs

instance (priority := low) Moves.resetsOfKeepsCorrelation {α : Type} (m : M α)
    [hm : Moves KeepsCorrelation m] :
    Moves Resets m where
  moves ctx w := ⟨fun s => .inl (by rw [(hm.moves ctx w).2.1]), (hm.moves ctx w).filter_events⟩

instance : Moves Resets runtimeStateReset :=
  ⟨fun _ _ => ⟨fun s => .inr (Correlation.slot_zero s), rfl⟩⟩

instance : Moves Resets runtimeEnd := ⟨fun _ _ => ⟨fun s => .inr (Correlation.slot_zero s), rfl⟩⟩

instance (b : Bool) : Moves Resets (Prog.modify fun w => { w with initialized := b } : M Unit) :=
  ⟨fun _ _ => ⟨fun _ => .inl rfl, rfl⟩⟩

instance : Moves KeepsCorrelation dispatcherBegin := by unfold dispatcherBegin; infer_instance

instance : Moves Mute dispatcherInit := by unfold dispatcherInit; infer_instance

instance (tables : Tables) (selfId : LocalIdentity) :
    Moves Mute (Prog.modify fun w => { w with tables, selfId } : M Unit) :=
  ⟨fun _ _ => ⟨rfl, rfl, rfl, rfl, rfl, le_rfl⟩⟩

instance : Moves Mute meshInit := by unfold meshInit; infer_instance

set_option synthInstance.maxSize 10000 in
instance : Moves Resets meshcoreInit := by
  unfold meshcoreInit runtimeBegin runtimeStart; infer_instance

instance : Moves Resets meshcoreDeinit := by unfold meshcoreDeinit; infer_instance

theorem Resets.entered {ctx : Ctx} {w w' : World} (h : Resets ctx w w') :
    ∃ b, Entered ctx w w' b ∧ ∀ x ∈ b, ∃ s, x = .ended s .reset := by
  obtain ⟨b, hb, hall⟩ := @Honest.exists_of_closes _ _ _ _ (Ends ctx.ulongBits)
    w.correlation.slot w'.correlation.slot (· = .reset) Slot.all fun s =>
      (h.1 s).imp_right fun hnone => ⟨hnone, s.mem_all, fun _ _ => ⟨_, rfl, trivial⟩⟩
  have hreset : ∀ x ∈ b, ∃ s, x = LedgerEntry.ended s Ending.reset := by
    intro x hx
    obtain ⟨s, _, rfl, rfl⟩ := hall x hx
    exact ⟨s, rfl⟩
  have hanswers : b.filterMap answerOf = [] := List.filterMap_eq_nil_iff.mpr fun x hx => by
    obtain ⟨s, rfl⟩ := hreset x hx
    rfl
  exact ⟨b, ⟨hb, by rw [h.2, hanswers, List.append_nil]⟩, hreset⟩

theorem Books.entered {ctx : Ctx} {w w' : World} {nowMs : ℕ} (h : Books Settling ctx w w')
    (hclock : w.millisOverride = some nowMs) :
    ∃ b, Entered ctx w w' b ∧ ∀ x ∈ b, Settling (some nowMs) x := by
  obtain ⟨-, -, b, hb, hall, hev⟩ := h
  rw [hclock] at hall
  exact ⟨b, ⟨hb, hev⟩, hall⟩

section

variable {ctx : Ctx} {w : World} {P : LedgerEntry Slot Registration Ending → Prop}

/-- An event from the radio or the timer enters what its body enters while the clock stands. -/
theorem entered_atTime {α : Type} {nowMs : UInt32} {body : M α}
    (hbody : let w := { w with millisOverride := some nowMs.toNat }
      ∃ b, Entered ctx w (body ctx w).2 b ∧ ∀ x ∈ b, P x) :
    ∃ b, Entered ctx w (atTime nowMs body ctx w).2 b ∧ ∀ x ∈ b, P x := by
  let w₁ : World := { w with millisOverride := some nowMs.toNat }
  obtain ⟨b, hb, hall⟩ := hbody
  let w₂ : World := { (body ctx w₁).2 with millisOverride := none, lastNowMs := nowMs.toNat }
  have hsync :=
    ((inferInstance : Moves KeepsCorrelation (timerSync nowMs.toNat)).moves ctx w₂).entered
  exact ⟨b ++ [], (⟨hb.honest, hb.events⟩ : Entered ctx w w₂ b).append hsync, by simpa using hall⟩

theorem entered_whenReady {body : M ℤ}
    (hbody : ∃ b, Entered ctx w (body ctx w).2 b ∧ ∀ x ∈ b, P x) :
    ∃ b, Entered ctx w (whenReady body ctx w).2 b ∧ ∀ x ∈ b, P x := by
  simp only [whenReady, Prog.run_bind, Prog.run_gets, Prog.run_ite, Prog.run_pure]
  split
  · exact ⟨[], .of_same rfl rfl, by simp⟩
  · exact hbody

end

/-- What is allowed while packets are processed ends something. -/
theorem Settling.exists_eq {clock : Option ℕ} {x : LedgerEntry Slot Registration Ending}
    (h : Settling clock x) : ∃ s reason, x = .ended s reason := by
  cases x with
  | opened => exact h.elim
  | ended s reason => exact ⟨s, reason, rfl⟩

/-- The timer cleans up first. What clean-up removes has expired, and what is answered afterwards
has not. -/
theorem entered_timer {ctx : Ctx} {w w' : World} {nowMs : ℕ}
    (hclock : w.millisOverride = some nowMs)
    (h : Books Settling ctx
      { w with correlation := w.correlation.cleanup ctx.ulongBits nowMs } w') :
    ∃ b, Entered ctx w w' b ∧
      ∀ x ∈ b, Settling (some nowMs) x ∧ InTime ctx.ulongBits w.correlation x := by
  have hfilter := w.correlation.slot_cleanup ctx.ulongBits nowMs
  obtain ⟨l, hl, hexpired⟩ := @exists_ledger_of_kept ctx.ulongBits nowMs w.correlation.slot
    (w.correlation.cleanup ctx.ulongBits nowMs).slot fun s => by
      rw [hfilter]
      cases w.correlation.slot s with
      | none => exact .inl rfl
      | some r =>
        rw [Option.filter_some]
        by_cases hr : timeReached ctx.ulongBits nowMs r.expiresAtMs
        · exact .inr ⟨by simp [hr], by rintro _ ⟨⟩; exact hr⟩
        · exact .inl (by simp [hr])
  obtain ⟨b, hb, hall⟩ := h.entered hclock
  refine ⟨l ++ b, ⟨hl.append hb.honest, ?_⟩, List.forall_mem_append.mpr ⟨?_, fun x hx => ?_⟩⟩
  · rw [hb.events, List.filterMap_append, filterMap_answerOf_expired hexpired, List.nil_append]
  · intro x hx
    obtain ⟨s, rfl⟩ := hexpired x hx
    exact ⟨by rintro _ ⟨⟩; rfl, by rintro _ _ _ ⟨⟩⟩
  · refine ⟨hall x hx, ?_⟩
    rintro s t e rfl r hr
    obtain rfl : t = nowMs := hall _ hx nowMs rfl
    obtain ⟨r', hr', -⟩ := hb.honest.open_of_ended (fun y hy => (hall y hy).exists_eq) hx
    rw [hfilter, hr, Option.filter_some] at hr'
    by_contra hreached
    simp [hreached] at hr'

instance (body : M ℤ) [Moves KeepsCorrelation body] : Moves KeepsCorrelation (whenReady body) := by
  unfold whenReady; infer_instance

instance (execute : M Unit) [Moves KeepsCorrelation execute] :
    Moves KeepsCorrelation (requestExecuteNow execute) := by
  unfold requestExecuteNow; infer_instance

instance {α : Type} (record : Option α) (execute : α → M ℤ)
    [∀ r, Moves KeepsCorrelation (execute r)] :
    Moves KeepsCorrelation (request record execute) := by
  unfold request; infer_instance

instance {α : Type} (record : Option α) (requestTag : Option UInt32)
    (execute : α → UInt32 → M Unit) [∀ r tag, Moves KeepsCorrelation (execute r tag)] :
    Moves KeepsCorrelation (requestWithTag record requestTag execute) := by
  unfold requestWithTag; infer_instance

/-- Every call has a block. -/
theorem Op.exists_block (op : Op) (ctx : Ctx) (w : World) :
    ∃ b, Entered ctx w (op.next ctx w) b ∧ op.Enters ctx w b := by
  -- A request that opens no slot enters nothing.
  have hplain : ∀ {β : Type} {record : Option β} {execute : β → M Unit}
      [∀ r, Moves KeepsCorrelation (execute r)],
      Entered ctx w (request record (fun r => requestExecuteNow (execute r)) ctx w).2 [] :=
    fun {_ _ _ _} => KeepsCorrelation.entered (Moves.moves ctx w)
  cases op with
  | init => exact ((inferInstance : Moves Resets meshcoreInit).moves ctx w).entered
  | deinit => exact ((inferInstance : Moves Resets meshcoreDeinit).moves ctx w).entered
  | timerFired nowMs =>
    refine entered_whenReady (entered_atTime (entered_timer rfl ?_))
    exact (inferInstance : Moves (Books Settling) dispatcherLoop).moves ctx _
  | radioRxInject data rssiDbm snrQ4 nowMs =>
    refine entered_whenReady ?_
    have hnothing : ∃ b, Entered ctx w w b ∧ ∀ x ∈ b, Settling (some nowMs.toNat) x :=
      ⟨[], .of_same rfl rfl, by simp⟩
    cases data with
    | none => exact hnothing
    | some data =>
      simp only [Option.elim_some, Prog.run_ite]
      split
      · exact hnothing
      · exact entered_atTime (Books.entered (Moves.moves ctx _) rfl)
  | radioTxDone nowMs success =>
    exact entered_whenReady (entered_atTime (Books.entered (Moves.moves ctx _) rfl))
  | messageSendToNode publicKey flood attempt payload =>
    rcases @request_opens .ack ctx w _ (validateMessageSendToNode publicKey flood attempt payload) 0
      executeMessageSendToNode (fun r => keyPrefixOf r.publicKey) (·.attempt) _
      with h | ⟨hrc, req, hreq, h⟩
    · exact ⟨[], h.entered, .inl rfl⟩
    · obtain ⟨s, r, ⟨hs, -, hk, ha⟩, hb⟩ := h.entered
      obtain ⟨rfl, -, -, rfl, -⟩ := of_validateMessageSendToNode hreq
      exact ⟨_, hb, .inr ⟨hrc, s, r, rfl, ⟨hs, congrArg some hk.symm, ha⟩, by rintro t ⟨⟩⟩⟩
  | nodeDiscoverPathRequest publicKey requestTag =>
    rcases @requestWithTag_opens .discovery ctx w _ publicKey requestTag executeNodeDiscoverPath
      keyPrefixOf _ with h | ⟨hrc, key, rfl, h⟩
    · exact ⟨[], h.entered, .inl rfl⟩
    · obtain ⟨s, r, ⟨⟨hs, ht, hk, -⟩, hout⟩, hb⟩ := h.entered
      exact ⟨_, hb, .inr ⟨hrc, s, r, rfl, ⟨hs, congrArg some hk.symm, ht⟩, hout⟩⟩
  | nodeTraceRequest path pathLen pathHashSize requestTag =>
    rcases @requestWithTag_opens .trace ctx w _ (validateNodeTrace path pathLen pathHashSize)
      requestTag executeNodeTracePath (fun _ => []) _ with h | ⟨hrc, req, hreq, h⟩
    · exact ⟨[], h.entered, .inl rfl⟩
    · obtain ⟨s, r, ⟨⟨hs, ht, -, -⟩, hout⟩, hb⟩ := h.entered
      exact ⟨_, hb, .inr ⟨hrc, s, r, rfl, ⟨hs, ht⟩, hout⟩⟩
  | nodeTelemetryRequest publicKey permissionMask requestTag =>
    rcases @requestWithTag_opens .telemetry ctx w _ (validateNodeTelemetry publicKey permissionMask)
      requestTag executeNodeTelemetry (fun r => keyPrefixOf r.publicKey) _
      with h | ⟨hrc, req, hreq, h⟩
    · exact ⟨[], h.entered, .inl rfl⟩
    · obtain ⟨s, r, ⟨⟨hs, ht, hk, -⟩, hout⟩, hb⟩ := h.entered
      obtain ⟨rfl, -⟩ := of_validateNodeTelemetry hreq
      exact ⟨_, hb, .inr ⟨hrc, s, r, rfl, ⟨hs, congrArg some hk.symm, ht⟩, hout⟩⟩
  | nodeBinaryRequestWithTag publicKey payload tag =>
    rcases @request_opens .binary ctx w _ (validateNodeBinary publicKey payload) tag
      (executeNodeBinary · tag) (fun r => keyPrefixOf r.publicKey) (fun _ => 0) _
      with h | ⟨hrc, req, hreq, h⟩
    · exact ⟨[], h.entered, .inl rfl⟩
    · obtain ⟨s, r, ⟨hs, ht, hk, -⟩, hb⟩ := h.entered
      obtain ⟨rfl, -⟩ := of_validateNodeBinary hreq
      exact ⟨_, hb, .inr ⟨hrc, s, r, rfl, ⟨hs, congrArg some hk.symm, ht⟩, by rintro t ⟨⟩⟩⟩
  | nodeTracePathRequest => exact ⟨[], .of_same rfl rfl, .inl rfl⟩
  | nodeDiscoverRequest filter prefixOnly since requestTag =>
    have h : Moves KeepsCorrelation
        (meshcoreNodeDiscoverRequest filter prefixOnly since requestTag) := by
      unfold meshcoreNodeDiscoverRequest; infer_instance
    exact ⟨[], (h.moves ctx w).entered, .inl rfl⟩
  | _ => exact ⟨[], hplain, .inl rfl⟩

/-! ### The ledger of a run -/

/-- The blocks of the calls of a run. -/
inductive RunLedger (ctx : Ctx) : List Op → List CorrelationLedger → World → Prop where
  | boot : RunLedger ctx [] [] .boot
  | call {ops bs w b} (h : RunLedger ctx ops bs w) (op : Op) (hb : Entered ctx w (op.next ctx w) b)
      (henters : op.Enters ctx w b) : RunLedger ctx (ops ++ [op]) (bs ++ [b]) (op.next ctx w)

theorem RunLedger.entered {ctx : Ctx} {ops : List Op} {bs : List CorrelationLedger} {w : World}
    (h : RunLedger ctx ops bs w) : Entered ctx .boot w bs.flatten := by
  induction h with
  | boot => exact .of_same rfl rfl
  | call _ _ hb _ ih => simpa using ih.append hb

theorem exists_runLedger (ctx : Ctx) (ops : List Op) :
    ∃ bs, RunLedger ctx ops bs (runOps ctx .boot ops) := by
  induction ops using List.reverseRecOn with
  | nil => exact ⟨[], .boot⟩
  | append_singleton ops op ih =>
    obtain ⟨bs, h⟩ := ih
    obtain ⟨b, hb, henters⟩ := op.exists_block ctx (runOps ctx .boot ops)
    refine ⟨bs ++ [b], ?_⟩
    rw [runOps, List.foldl_append]
    exact h.call op hb henters

/-! ### The handlers -/

/-- What a handler does with a response that carries a tag. It answers one open request with that
tag, by one event, and frees its slot; or it says nothing. The other slots stay, unless their time
has been reached. -/
def Handles (kind : Kind) (tag : UInt32) (ctx : Ctx) (w : World) (out : Bool × World) : Prop :=
  let Kept s := KeptUnlessReached ctx.ulongBits (clockMillisGet ctx w).1 (w.correlation.slot s)
    (out.2.correlation.slot s)
  (out.1 = true ∧ ∃ s r e, s.kind = kind ∧ w.correlation.slot s = some r ∧ r.tag = tag ∧
    AnsweredBy s r e ∧ out.2.events = w.events ++ [e] ∧ out.2.correlation.slot s = none ∧
      ∀ s', s' ≠ s → Kept s') ∨
  (out.1 = false ∧ out.2.events = w.events ∧ ∀ s, Kept s)

section

variable {kind : Kind} {tag : UInt32} {ctx : Ctx} {w w' : World}

theorem Handles.nothing : Handles kind tag ctx w (false, w) := .inr ⟨rfl, rfl, fun _ => .inl rfl⟩

theorem Handles.answered {s : Slot} {r : Registration} {e : Event}
    (hopen : w.correlation.slot s = some r) (htag : r.tag = tag) (hanswers : AnsweredBy s r e)
    (hevents : w'.events = w.events ++ [e])
    (hslots : w'.correlation.slot = Function.update w.correlation.slot s none) :
    Handles s.kind tag ctx w (true, w') := by
  refine .inl ⟨rfl, s, r, e, rfl, hopen, htag, hanswers, hevents, ?_, fun s' hs' => .inl ?_⟩
  · rw [hslots, Function.update_self]
  · rw [hslots, Function.update_of_ne hs']

theorem handles_expectedAckHandle (ackCrc : UInt32) :
    Handles .ack ackCrc ctx w (expectedAckHandle ackCrc ctx w) := by
  rcases expectedAckHandle_cases ackCrc ctx w with
    ⟨h, hkept⟩ | ⟨i, r, hopen, htag, -, h, hfree, hkept⟩
  · rw [h]
    exact .inr ⟨rfl, ((inferInstance : Moves Mute clockMillisGet).moves ctx w).1, hkept⟩
  · rw [h]
    exact .inl ⟨rfl, .ack i, r, _, rfl, hopen, htag, rfl, rfl, hfree, hkept⟩

theorem handles_pendingTelemetryHandle (key : Buf publicKeySize) (timestamp : UInt32)
    (payload : List UInt8) :
    Handles .telemetry (wordAt payload) ctx w
      (pendingTelemetryHandle key timestamp payload ctx w) := by
  rw [pendingTelemetryHandle_run]
  split
  · rename_i h
    obtain ⟨hvalid, -, htag, hkey⟩ := Pending.isAnswered_iff.mp h
    exact .answered (s := .telemetry) (Pending.registration_eq_some.mpr ⟨hvalid, rfl⟩) htag
      ⟨timestamp, payload.drop 4, by rw [htag, hkey]⟩ rfl (Correlation.slot_setTelemetry ..)
  · exact .nothing

theorem handles_pendingBinaryHandle (key : Buf publicKeySize) (timestamp : UInt32)
    (payload : List UInt8) :
    Handles .binary (wordAt payload) ctx w (pendingBinaryHandle key timestamp payload ctx w) := by
  rw [pendingBinaryHandle_run]
  split
  · rename_i h
    obtain ⟨hvalid, -, htag, hkey⟩ := Pending.isAnswered_iff.mp h
    exact .answered (s := .binary) (Pending.registration_eq_some.mpr ⟨hvalid, rfl⟩) htag
      ⟨timestamp, payload.drop 4, by rw [htag, hkey]⟩ rfl (Correlation.slot_setBinary ..)
  · exact .nothing

theorem handles_pendingDiscoveryHandle (key : Buf publicKeySize) (packet : Packet)
    (path : List UInt8) (pathLenField extraType : UInt8) (extra : List UInt8) :
    Handles .discovery (wordAt extra) ctx w
      (pendingDiscoveryHandle key packet path pathLenField extraType extra ctx w) := by
  obtain ⟨he, hc, -⟩ := (inferInstance : Moves Mute timestampNowSeconds).moves ctx w
  rcases pendingDiscoveryHandle_cases key packet path pathLenField extraType extra ctx w with
    h | ⟨decoded, -, hvalid, -, hkey, -, htag, h⟩
  · rw [h]
    exact .nothing
  · rw [h]
    exact .answered (s := .discovery) (Pending.registration_eq_some.mpr ⟨hvalid, rfl⟩) htag
      ⟨_, rfl, rfl, hkey.symm⟩ (by dsimp only; rw [he])
      (by dsimp only; rw [hc]; exact Correlation.slot_setDiscovery ..)

/-- A trace of the wrong shape ends the wait for it. -/
theorem handles_pendingTraceHandle (flags : UInt8) (snrs : Buf maxPathLen)
    (snrCount hashBytes : UInt8) (snr : Int8) :
    let out := pendingTraceHandle tag flags snrs snrCount hashBytes snr ctx w
    Handles .trace tag ctx w out ∨
      (TraceMalformed flags snrCount hashBytes ∧ out.1 = false ∧ out.2.events = w.events ∧
        ∃ r, w.correlation.slot .trace = some r ∧ r.tag = tag ∧
          out.2.correlation.slot = Function.update w.correlation.slot .trace none) := by
  obtain ⟨he, hc, -⟩ := (inferInstance : Moves Mute timestampNowSeconds).moves ctx w
  rcases pendingTraceHandle_cases tag flags snrs snrCount hashBytes snr ctx w with
    h | ⟨hvalid, htag, ⟨hshape, h⟩ | ⟨out, back, h⟩⟩
  · rw [h]
    exact .inl .nothing
  · rw [h]
    exact .inr ⟨hshape, rfl, rfl, _, Pending.registration_eq_some.mpr ⟨hvalid, rfl⟩, htag,
      Correlation.slot_setTrace ..⟩
  · rw [h]
    exact .inl <| .answered (s := .trace) (Pending.registration_eq_some.mpr ⟨hvalid, rfl⟩) htag
      ⟨out, back, snr, _, by rw [htag]⟩ (by dsimp only; rw [he])
      (by dsimp only; rw [hc]; exact Correlation.slot_setTrace ..)

end

end Meshcore
