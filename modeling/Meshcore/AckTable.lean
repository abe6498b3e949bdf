import Meshcore.Lib.ExpiryTable
import Meshcore.Settle

/-!
# The expected acknowledgements over their calls

`runtime/meshcore_runtime_pending.c` keeps the acknowledgements that the node waits for in eight
slots, which are searched from an index that goes round. Over any registrations, acknowledgements
and clean-ups the slots are a table of what is waited for: a registration takes a slot that is free
or has expired as long as there is one, and an acknowledgement that comes in time finds its
registration once.

The time of a call is the true one; the calls see its low 32 bits. As in the rest of the
correlation, expiry is seen as long as `unsigned long` is as wide as the clock, or the clock has not
wrapped since the registration.

## Main definitions

* `AckState` — the node, when its slots were filled, and what happened so far
* `AckState.Recent`, `AckState.SeesExpiry` — what the clock makes of the slots at a call

## Main results

* `Correlation.registerSlot_vacant` — the search finds a slot that can be taken
* `AckState.tableRun` — the slots are a table of what is waited for
* `acks_lose_nothing`
-/

namespace Meshcore

/-- What the node remembers of a message that is to be acknowledged. -/
structure AckInfo where
  ackCrc : UInt32
  target : List UInt8
  attempt : UInt8
deriving DecidableEq

def AckInfo.event (a : AckInfo) : Event := .messageAck a.target a.attempt

def Registration.ackInfo (r : Registration) : AckInfo := ⟨r.tag, r.keyPrefix, r.attempt⟩

abbrev AckCall : Type := TableCall AckInfo UInt32

/-- A registration of the code zero does nothing. -/
def AckCall.counts : AckCall → Bool
  | .register a => a.ackCrc ≠ 0
  | _ => true

/-! ### The slots -/

/-- What the search tests is that the slot can be taken. -/
theorem ExpectedAck.vacant_iff {w nowMs : ℕ} {entry : ExpectedAck} :
    (!entry.valid || timeReached w nowMs entry.expiresAtMs) = true ↔
      ∀ r, entry.registration = some r → timeReached w nowMs r.expiresAtMs = true := by
  rw [Bool.or_eq_true, Bool.not_eq_true']
  constructor
  · rintro hfree r hr
    obtain ⟨hvalid, hentry⟩ := ExpectedAck.registration_eq_some.mp hr
    rw [hentry]
    exact hfree.resolve_left (by simp [hvalid])
  · intro hfree
    by_cases hvalid : entry.valid = true
    · exact .inr (hfree ⟨entry.ackCrc, entry.target, entry.attempt, entry.expiresAtMs⟩
        (ExpectedAck.registration_eq_some.mpr ⟨hvalid, rfl⟩))
    · exact .inl (by simpa using hvalid)

namespace Correlation

/-- The search goes once round, so it finds a slot that is free or has expired if there is one. -/
theorem registerSlot_vacant (c : Correlation) (w nowMs : ℕ)
    (h : ∃ j, ∀ r, c.slot (.ack j) = some r → timeReached w nowMs r.expiresAtMs = true)
    {r : Registration} (hr : c.slot (.ack ⟨_, c.registerSlot_lt w nowMs⟩) = some r) :
    timeReached w nowMs r.expiresAtMs = true := by
  obtain ⟨j, hj⟩ := h
  have hnext := c.expectedAckNext_lt
  -- the turn at which the search comes to `j`
  let i := (j.val + 8 - c.expectedAckNext) % 8
  have hi : (c.expectedAckNext + i) % expectedAckTableSize = j.val := by
    have hlt : j.val < 8 := j.isLt
    change c.expectedAckNext < 8 at hnext
    show (c.expectedAckNext + (j.val + 8 - c.expectedAckNext) % 8) % 8 = j.val
    omega
  let isFree (i : ℕ) : Bool :=
    let entry := c.expectedAcks.getD ((c.expectedAckNext + i) % expectedAckTableSize) .zero
    !entry.valid || timeReached w nowMs entry.expiresAtMs
  have hslot : c.registerSlot w nowMs
      = ((List.range expectedAckTableSize).find? isFree).elim c.expectedAckNext fun i =>
        (c.expectedAckNext + i) % expectedAckTableSize := rfl
  replace hr : (c.expectedAcks.getD (c.registerSlot w nowMs) .zero).registration = some r := hr
  rcases hfind : (List.range expectedAckTableSize).find? isFree with _ | k
  · have hnone := List.find?_eq_none.mp hfind i (List.mem_range.mpr (Nat.mod_lt _ (by decide)))
    refine absurd ?_ hnone
    dsimp only [isFree]
    rw [hi]
    exact ExpectedAck.vacant_iff.mpr hj
  · rw [hslot, hfind, Option.elim_some] at hr
    have hfree : isFree k = true := List.find?_some hfind
    exact ExpectedAck.vacant_iff.mp hfree r hr

end Correlation

/-- A search that finds nothing has passed no entry with the code that has not expired. -/
theorem ExpectedAck.handle_eq_none {w nowMs : ℕ} {ackCrc : UInt32} {entries : List ExpectedAck}
    (h : (handle w nowMs ackCrc entries).2 = none) :
    ∀ entry ∈ entries, entry.valid = true → entry.ackCrc = ackCrc →
      timeReached w nowMs entry.expiresAtMs = true := by
  induction entries with
  | nil => exact fun _ hentry => absurd hentry List.not_mem_nil
  | cons entry entries ih =>
    rw [handle] at h
    split at h
    · rename_i hfree
      exact List.forall_mem_cons.mpr ⟨fun hvalid => absurd hvalid (by simpa using hfree), ih h⟩
    · split at h
      · rename_i hreached
        exact List.forall_mem_cons.mpr ⟨fun _ _ => hreached, ih h⟩
      · split at h
        · rename_i hother
          exact List.forall_mem_cons.mpr ⟨fun _ hcrc => absurd hcrc hother, ih h⟩
        · cases h

namespace Correlation

theorem handle_eq_none {c : Correlation} {w nowMs : ℕ} {ackCrc : UInt32}
    (h : (ExpectedAck.handle w nowMs ackCrc c.expectedAcks).2 = none) {i : Fin expectedAckTableSize}
    {r : Registration} (hr : c.slot (.ack i) = some r) (htag : r.tag = ackCrc) :
    timeReached w nowMs r.expiresAtMs = true := by
  have hi : i.val < c.expectedAcks.length := by rw [c.length_expectedAcks]; exact i.isLt
  rw [slot, List.getD_eq_getElem _ _ hi] at hr
  obtain ⟨hvalid, rfl⟩ := ExpectedAck.registration_eq_some.mp hr
  exact ExpectedAck.handle_eq_none h _ (List.getElem_mem hi) hvalid htag

end Correlation

/-! ### Calls at a time -/

/-- The node, the time at which each slot was last filled, what was called so far and when. -/
structure AckState where
  world : World
  since : Fin expectedAckTableSize → ℕ
  log : List (TableMark AckInfo UInt32)
  now : ℕ

namespace AckState

def start : AckState := ⟨.boot, fun _ => 0, [], 0⟩

/-- The registrations that wait for an acknowledgement. -/
def slot (s : AckState) (i : Fin expectedAckTableSize) : Option Registration :=
  s.world.correlation.slot (.ack i)

/-- The clock shows the low bits of the time. -/
def atTime (s : AckState) (time : ℕ) : World :=
  { s.world with millisOverride := some (time % 2 ^ 32) }

/-- A call at a time: `expectedAckRegister`, `expectedAckHandle` or the clean-up. -/
def next (ctx : Ctx) (s : AckState) (time : ℕ) : AckCall → AckState
  | .register a =>
    { world := (expectedAckRegister a.ackCrc a.target a.attempt ctx (s.atTime time)).2
      since :=
        if a.ackCrc = 0 then s.since
        else Function.update s.since
          ⟨_, s.world.correlation.registerSlot_lt ctx.ulongBits (time % 2 ^ 32)⟩ time
      log := if a.ackCrc = 0 then s.log else s.log ++ [⟨time, .register a, none⟩]
      now := time }
  | .answer ackCrc =>
    { world := (expectedAckHandle ackCrc ctx (s.atTime time)).2
      since := s.since
      log := s.log ++ [⟨time, .answer ackCrc,
        (ExpectedAck.handle ctx.ulongBits (time % 2 ^ 32) ackCrc
          s.world.correlation.expectedAcks).2.map fun found => ⟨ackCrc, found.1, found.2⟩⟩]
      now := time }
  | .cleanup =>
    { world := (modifyCorrelation (·.cleanup ctx.ulongBits (time % 2 ^ 32)) ctx (s.atTime time)).2
      since := s.since
      log := s.log ++ [⟨time, .cleanup, none⟩]
      now := time }

/-- Calls one after the other. -/
def run (ctx : Ctx) (s : AckState) (calls : List (ℕ × AckCall)) : AckState :=
  calls.foldl (fun s c => s.next ctx c.1 c.2) s

theorem run_append (ctx : Ctx) (s : AckState) (calls : List (ℕ × AckCall)) (c : ℕ × AckCall) :
    s.run ctx (calls ++ [c]) = (s.run ctx calls).next ctx c.1 c.2 := by
  rw [run, List.foldl_append]
  rfl

/-- Time goes on, and what is registered was so less than half the range of the clock ago. -/
def Recent (s : AckState) (time : ℕ) : Prop :=
  s.now ≤ time ∧ ∀ i, (s.slot i).isSome → time - s.since i < 2 ^ 31

/-- Expiry can be seen: `unsigned long` has 32 bits, or for each registration the clock has not
wrapped since then or the timeout has not elapsed. -/
def SeesExpiry (w : ℕ) (s : AckState) (time : ℕ) : Prop :=
  w = 32 ∨ ∀ i, (s.slot i).isSome →
    time - s.since i ≤ time % 2 ^ 32 ∨ time - s.since i < runtimeRequestTimeoutMs

instance (s : AckState) (time : ℕ) : Decidable (s.Recent time) :=
  inferInstanceAs (Decidable (_ ∧ _))

instance (w : ℕ) (s : AckState) (time : ℕ) : Decidable (s.SeesExpiry w time) :=
  inferInstanceAs (Decidable (_ ∨ _))

end AckState

/-- A condition on the state and the time holds at each of the calls. -/
def AtEachCall (ctx : Ctx) (ok : AckState → ℕ → Prop) : AckState → List (ℕ × AckCall) → Prop
  | _, [] => True
  | s, c :: calls => ok s c.1 ∧ AtEachCall ctx ok (s.next ctx c.1 c.2) calls

instance AtEachCall.decidable (ctx : Ctx) (ok : AckState → ℕ → Prop) [∀ s n, Decidable (ok s n)] :
    (s : AckState) → (calls : List (ℕ × AckCall)) → Decidable (AtEachCall ctx ok s calls)
  | _, [] => .isTrue trivial
  | s, c :: calls =>
    have := AtEachCall.decidable ctx ok (s.next ctx c.1 c.2) calls
    inferInstanceAs (Decidable (_ ∧ _))

theorem atEachCall_append {ctx : Ctx} {ok : AckState → ℕ → Prop} {s : AckState}
    {calls : List (ℕ × AckCall)} {c : ℕ × AckCall} :
    AtEachCall ctx ok s (calls ++ [c]) ↔ AtEachCall ctx ok s calls ∧ ok (s.run ctx calls) c.1 := by
  induction calls generalizing s with
  | nil => simp [AtEachCall, AckState.run]
  | cons c' calls ih =>
    rw [List.cons_append, AtEachCall, AtEachCall, ih, and_assoc]
    rfl

/-! ### One call -/

namespace AckState

/-- The registration in a slot, and its time. -/
def held (s : AckState) (i : Fin expectedAckTableSize) : Option (ℕ × AckInfo) :=
  (s.slot i).map fun r => (s.since i, r.ackInfo)

/-- Each registration expires the timeout after what the clock showed when it was made. -/
structure Dated (w : ℕ) (s : AckState) : Prop where
  expires : ∀ i r, s.slot i = some r →
    r.expiresAtMs = (s.since i % 2 ^ 32 + runtimeRequestTimeoutMs) % 2 ^ w
  since_le : ∀ i r, s.slot i = some r → s.since i ≤ s.now

section

variable {ctx : Ctx} {s : AckState} {time : ℕ}

theorem clockMillisGet_atTime :
    clockMillisGet ctx (s.atTime time) = (time % 2 ^ 32, s.atTime time) := by
  simp [clockMillisGet, atTime]

theorem register_run (a : AckInfo) :
    (expectedAckRegister a.ackCrc a.target a.attempt ctx (s.atTime time)).2 =
      if a.ackCrc = 0 then s.atTime time
      else
        { s.atTime time with
          correlation := s.world.correlation.expectedAckRegister ctx.ulongBits (time % 2 ^ 32)
            a.ackCrc a.target a.attempt } := by
  rw [expectedAckRegister, Prog.run_bind_of clockMillisGet_atTime, Prog.run_bind]
  dsimp only
  rw [Prog.run_ite]
  split <;> rfl

theorem answer_run (ackCrc : UInt32) :
    (expectedAckHandle ackCrc ctx (s.atTime time)).2 =
      { s.atTime time with
        correlation := s.world.correlation.expectedAckHandle ctx.ulongBits (time % 2 ^ 32) ackCrc
        events := s.world.events ++
          ((ExpectedAck.handle ctx.ulongBits (time % 2 ^ 32) ackCrc
            s.world.correlation.expectedAcks).2.map fun found =>
              Event.messageAck found.1 found.2).toList } := by
  rw [expectedAckHandle, Prog.run_bind_of clockMillisGet_atTime]
  simp only [Prog.run_bind, Prog.run_env, Prog.run_gets]
  rcases hfound : (ExpectedAck.handle ctx.ulongBits (time % 2 ^ 32) ackCrc
      s.world.correlation.expectedAcks).2 with _ | found
  · have hfound' : (ExpectedAck.handle ctx.ulongBits (time % 2 ^ 32) ackCrc
      (s.atTime time).correlation.expectedAcks).2 = none := hfound
    rw [hfound']
    simp [modifyCorrelation, atTime]
  · have hfound' : (ExpectedAck.handle ctx.ulongBits (time % 2 ^ 32) ackCrc
      (s.atTime time).correlation.expectedAcks).2 = some found := hfound
    rw [hfound']
    rfl

/-- The clock tells whether a registration has expired. -/
theorem Dated.timeReached_iff (h : s.Dated ctx.ulongBits) (hrecent : s.Recent time)
    (hsees : s.SeesExpiry ctx.ulongBits time) {i : Fin expectedAckTableSize} {r : Registration}
    (hi : s.slot i = some r) :
    timeReached ctx.ulongBits (time % 2 ^ 32) r.expiresAtMs = true ↔
      ¬Fresh runtimeRequestTimeoutMs time (s.since i, r.ackInfo) := by
  have hsome : (s.slot i).isSome := by rw [hi]; rfl
  have hle : s.since i ≤ time := (h.since_le i r hi).trans hrecent.1
  have hage : RegisteredAgo ctx.ulongBits (time % 2 ^ 32) (time - s.since i) r.expiresAtMs := by
    refine ⟨hrecent.2 i hsome, s.since i % 2 ^ 32, Nat.mod_lt _ (by decide), h.expires i r hi, ?_⟩
    rw [Nat.mod_add_mod, Nat.add_sub_cancel' hle]
  rw [hage.timeReached_iff ctx.ulongBits_eq, Fresh, not_lt, and_iff_left_of_imp]
  · dsimp only
    omega
  · intro hold
    rcases hsees with h32 | hsees
    · exact .inl h32
    · exact .inr ((hsees i hsome).resolve_right (not_lt.mpr hold))

/-- What is dropped because its time has been reached had expired. -/
theorem Dated.dropsExpired (h : s.Dated ctx.ulongBits) (hrecent : s.Recent time)
    (hsees : s.SeesExpiry ctx.ulongBits time) {s' : AckState} {i : Fin expectedAckTableSize}
    (hsince : s'.since i = s.since i)
    (hkept : KeptUnlessReached ctx.ulongBits (time % 2 ^ 32) (s.slot i) (s'.slot i)) :
    DropsExpired runtimeRequestTimeoutMs time (s.held i) (s'.held i) := by
  rcases hkept with hsame | ⟨hgone, hreached⟩
  · exact .inl (by rw [held, held, hsame, hsince])
  · refine .inr ⟨by rw [held, hgone, Option.map_none], ?_⟩
    intro x hx
    obtain ⟨r, hr, rfl⟩ := Option.map_eq_some_iff.mp hx
    exact (h.timeReached_iff hrecent hsees hr).mp (hreached r hr)

theorem Dated.vacant_iff (h : s.Dated ctx.ulongBits) (hrecent : s.Recent time)
    (hsees : s.SeesExpiry ctx.ulongBits time) {i : Fin expectedAckTableSize} :
    Vacant runtimeRequestTimeoutMs time (s.held i) ↔
      ∀ r, s.slot i = some r → timeReached ctx.ulongBits (time % 2 ^ 32) r.expiresAtMs = true := by
  constructor
  · intro hvacant r hr
    exact (h.timeReached_iff hrecent hsees hr).mpr (hvacant _ (by rw [held, hr]; rfl))
  · intro hreached x hx
    obtain ⟨r, hr, rfl⟩ := Option.map_eq_some_iff.mp hx
    exact (h.timeReached_iff hrecent hsees hr).mp (hreached r hr)

theorem slot_of_kept {w nowMs : ℕ} {before after : Option Registration} {r : Registration}
    (h : KeptUnlessReached w nowMs before after) (hr : after = some r) : before = some r := by
  rcases h with hsame | ⟨hgone, -⟩
  · rwa [← hsame]
  · rw [hgone] at hr
    cases hr

/-- Registrations that stay keep their time. -/
theorem Dated.of_slot {w : ℕ} {s' : AckState} (h : s.Dated w) (hsince : s'.since = s.since)
    (hnow : s.now ≤ s'.now) (hslot : ∀ i r, s'.slot i = some r → s.slot i = some r) :
    s'.Dated w where
  expires i r hr := by
    rw [hsince]
    exact h.expires i r (hslot i r hr)
  since_le i r hr := by
    rw [hsince]
    exact (h.since_le i r (hslot i r hr)).trans hnow

/-- A registration goes to a slot that can be taken, as long as there is one. -/
theorem register_step (h : s.Dated ctx.ulongBits) (hrecent : s.Recent time)
    (hsees : s.SeesExpiry ctx.ulongBits time) {a : AckInfo} (ha : a.ackCrc ≠ 0) :
    (s.next ctx time (.register a)).Dated ctx.ulongBits ∧
      TableStep AckInfo.ackCrc runtimeRequestTimeoutMs time s.held (.register a) none
        (s.next ctx time (.register a)).held := by
  let i₀ : Fin expectedAckTableSize :=
    ⟨_, s.world.correlation.registerSlot_lt ctx.ulongBits (time % 2 ^ 32)⟩
  have hsince : (s.next ctx time (.register a)).since = Function.update s.since i₀ time :=
    if_neg ha
  have hslot : ∀ i, (s.next ctx time (.register a)).slot i =
      if i = i₀ then some ⟨a.ackCrc, a.target, a.attempt,
        (time % 2 ^ 32 + runtimeRequestTimeoutMs) % 2 ^ ctx.ulongBits⟩
      else s.slot i := by
    intro i
    rw [slot, next, register_run, if_neg ha]
    dsimp only
    rw [Correlation.slot_expectedAckRegister, Function.update_apply]
    simp only [Slot.ack.injEq]
    rfl
  refine ⟨⟨fun i r hr => ?_, fun i r hr => ?_⟩, ?_⟩
  · rw [hslot] at hr
    rw [hsince]
    split at hr
    · rename_i heq
      obtain rfl := Option.some.inj hr
      rw [heq, Function.update_self]
    · rename_i hne
      rw [Function.update_of_ne hne]
      exact h.expires i r hr
  · rw [hslot] at hr
    rw [hsince]
    split at hr
    · rename_i heq
      rw [heq, Function.update_self]
      exact le_rfl
    · rename_i hne
      rw [Function.update_of_ne hne]
      exact (h.since_le i r hr).trans hrecent.1
  · have hheld : (s.next ctx time (.register a)).held
        = Function.update s.held i₀ (some (time, a)) := by
      funext i
      rw [held, hslot, hsince]
      rcases eq_or_ne i i₀ with rfl | hne
      · rw [if_pos rfl, Function.update_self, Function.update_self]
        rfl
      · rw [if_neg hne, Function.update_of_ne hne, Function.update_of_ne hne, held]
    rw [hheld]
    refine .register fun ⟨j, hj⟩ => (h.vacant_iff hrecent hsees).mpr fun r hr => ?_
    exact s.world.correlation.registerSlot_vacant ctx.ulongBits (time % 2 ^ 32)
      ⟨j, (h.vacant_iff hrecent hsees).mp hj⟩ hr

/-- An acknowledgement finds the registration with its code, or there is none that has not
expired. -/
theorem answer_step (h : s.Dated ctx.ulongBits) (hrecent : s.Recent time)
    (hsees : s.SeesExpiry ctx.ulongBits time) (ackCrc : UInt32) :
    (s.next ctx time (.answer ackCrc)).Dated ctx.ulongBits ∧
      TableStep AckInfo.ackCrc runtimeRequestTimeoutMs time s.held (.answer ackCrc)
        ((ExpectedAck.handle ctx.ulongBits (time % 2 ^ 32) ackCrc
          s.world.correlation.expectedAcks).2.map fun found => ⟨ackCrc, found.1, found.2⟩)
        (s.next ctx time (.answer ackCrc)).held := by
  have hslot : ∀ i, (s.next ctx time (.answer ackCrc)).slot i
      = (s.world.correlation.expectedAckHandle ctx.ulongBits (time % 2 ^ 32) ackCrc).slot
      (.ack i) := by
    intro i
    rw [slot, next, answer_run]
  have hdrops : ∀ i, KeptUnlessReached ctx.ulongBits (time % 2 ^ 32) (s.slot i)
      ((s.next ctx time (.answer ackCrc)).slot i) →
      DropsExpired runtimeRequestTimeoutMs time (s.held i)
        ((s.next ctx time (.answer ackCrc)).held i) := fun i =>
    h.dropsExpired hrecent hsees rfl
  rcases s.world.correlation.slot_expectedAckHandle ctx.ulongBits (time % 2 ^ 32) ackCrc with
    ⟨hnone, hkept⟩ | ⟨i, r, hr, rfl, hreached, hfound, hgone, hkept⟩
  · have hkept' : ∀ i, KeptUnlessReached ctx.ulongBits (time % 2 ^ 32) (s.slot i)
        ((s.next ctx time (.answer ackCrc)).slot i) := fun i => by
      rw [hslot]
      exact hkept (.ack i)
    refine ⟨h.of_slot rfl hrecent.1 fun i _ => slot_of_kept (hkept' i), ?_⟩
    rw [hnone]
    refine .unanswered (fun i x hx hfresh => ?_) fun i => hdrops i (hkept' i)
    obtain ⟨r, hr, rfl⟩ := Option.map_eq_some_iff.mp hx
    intro hcrc
    have hreached := Correlation.handle_eq_none hnone hr hcrc
    exact (h.timeReached_iff hrecent hsees hr).mp hreached hfresh
  · have hgone' : (s.next ctx time (.answer r.tag)).slot i = none := by rw [hslot, hgone]
    have hkept' : ∀ j, j ≠ i → KeptUnlessReached ctx.ulongBits (time % 2 ^ 32) (s.slot j)
        ((s.next ctx time (.answer r.tag)).slot j) := fun j hne => by
      rw [hslot]
      exact hkept (.ack j) fun heq => hne (Slot.ack.inj heq)
    refine ⟨h.of_slot rfl hrecent.1 fun j r' hr' => ?_, ?_⟩
    · have hne : j ≠ i := by
        rintro rfl
        rw [hgone'] at hr'
        cases hr'
      exact slot_of_kept (hkept' j hne) hr'
    · have hheld : s.held i = some (s.since i, r.ackInfo) := by
        rw [held, slot, hr]
        rfl
      have hfresh : Fresh runtimeRequestTimeoutMs time (s.since i, r.ackInfo) := by
        by_contra hold
        rw [(h.timeReached_iff hrecent hsees hr).mpr hold] at hreached
        cases hreached
      have hnone : (s.next ctx time (.answer r.tag)).held i = none := by
        rw [held, hgone', Option.map_none]
      rw [hfound]
      exact .answered hheld hfresh hnone fun j hne => hdrops j (hkept' j hne)

/-- Clean-up drops what has expired. -/
theorem cleanup_step (h : s.Dated ctx.ulongBits) (hrecent : s.Recent time)
    (hsees : s.SeesExpiry ctx.ulongBits time) :
    (s.next ctx time .cleanup).Dated ctx.ulongBits ∧
      TableStep AckInfo.ackCrc runtimeRequestTimeoutMs time s.held .cleanup none
        (s.next ctx time .cleanup).held := by
  have hkept : ∀ i, KeptUnlessReached ctx.ulongBits (time % 2 ^ 32) (s.slot i)
      ((s.next ctx time .cleanup).slot i) := by
    intro i
    have hslot : (s.next ctx time .cleanup).slot i
        = (s.slot i).filter fun r => !timeReached ctx.ulongBits (time % 2 ^ 32) r.expiresAtMs :=
      Correlation.slot_cleanup ..
    rw [hslot]
    rcases s.slot i with _ | r
    · exact .inl rfl
    · rw [Option.filter_some]
      cases hreached : timeReached ctx.ulongBits (time % 2 ^ 32) r.expiresAtMs with
      | false => exact .inl rfl
      | true =>
        refine .inr ⟨rfl, ?_⟩
        rintro _ ⟨⟩
        exact hreached
  exact ⟨h.of_slot rfl hrecent.1 fun i _ => slot_of_kept (hkept i),
    .cleanup fun i => h.dropsExpired hrecent hsees rfl (hkept i)⟩

end

/-! ### All calls -/

section

variable {ctx : Ctx} {calls : List (ℕ × AckCall)}

/-- The slots are a table of what is waited for, and the events are what it found. -/
theorem tableRun (hrecent : AtEachCall ctx Recent start calls)
    (hsees : AtEachCall ctx (SeesExpiry ctx.ulongBits) start calls) :
    let s := start.run ctx calls
    s.Dated ctx.ulongBits ∧
      (∃ before ≤ s.now,
        TableRun AckInfo.ackCrc runtimeRequestTimeoutMs s.log s.held before) ∧
      s.world.events = (s.log.filterMap TableMark.found).map AckInfo.event := by
  induction calls using List.reverseRecOn with
  | nil =>
    have hempty : start.held = fun _ => none := by
      funext i
      rw [held, slot]
      exact congrArg (Option.map _) (Correlation.slot_zero (.ack i))
    refine ⟨⟨fun i r hr => ?_, fun i r hr => ?_⟩, ⟨0, le_rfl, ?_⟩, rfl⟩
    · exact absurd (hr.symm.trans (Correlation.slot_zero (.ack i))) (by simp)
    · exact absurd (hr.symm.trans (Correlation.slot_zero (.ack i))) (by simp)
    · exact hempty ▸ .start 0
  | append_singleton calls c ih =>
    obtain ⟨hrecent, hrecent'⟩ := atEachCall_append.mp hrecent
    obtain ⟨hsees, hsees'⟩ := atEachCall_append.mp hsees
    obtain ⟨hdated, ⟨before, hle, hrun⟩, hevents⟩ := ih hrecent hsees
    rw [run_append]
    generalize start.run ctx calls = s at *
    obtain ⟨time, call⟩ := c
    dsimp only at *
    have hlater : before ≤ time := hle.trans hrecent'.1
    cases call with
    | register a =>
      by_cases ha : a.ackCrc = 0
      · have hnext : s.next ctx time (.register a) = ⟨s.atTime time, s.since, s.log, time⟩ := by
          rw [next, register_run, if_pos ha, if_pos ha, if_pos ha]
        rw [hnext]
        exact ⟨hdated.of_slot rfl hrecent'.1 fun _ _ hr => hr, ⟨before, hlater, hrun⟩, hevents⟩
      · obtain ⟨hdated', hstep⟩ := register_step hdated hrecent' hsees' ha
        have hlog : (s.next ctx time (.register a)).log = s.log ++ [⟨time, .register a, none⟩] :=
          if_neg ha
        have hworld : (s.next ctx time (.register a)).world.events = s.world.events := by
          rw [next, register_run, if_neg ha]
          rfl
        rw [hlog, hworld, hevents, List.filterMap_append]
        exact ⟨hdated', ⟨time, le_rfl, hrun.step hlater hstep⟩, by rw [List.filterMap_cons_none rfl,
          List.filterMap_nil, List.append_nil]⟩
    | answer ackCrc =>
      obtain ⟨hdated', hstep⟩ := answer_step hdated hrecent' hsees' ackCrc
      refine ⟨hdated', ⟨time, le_rfl, hrun.step hlater hstep⟩, ?_⟩
      rw [next, answer_run]
      dsimp only
      rw [hevents, List.filterMap_append, List.map_append]
      rcases (ExpectedAck.handle ctx.ulongBits (time % 2 ^ 32) ackCrc
        s.world.correlation.expectedAcks).2 with _ | found <;> rfl
    | cleanup =>
      obtain ⟨hdated', hstep⟩ := cleanup_step hdated hrecent' hsees'
      refine ⟨hdated', ⟨time, le_rfl, hrun.step hlater hstep⟩, ?_⟩
      have hworld : (s.next ctx time .cleanup).world.events = s.world.events := rfl
      have hlog : (s.next ctx time .cleanup).log = s.log ++ [⟨time, .cleanup, none⟩] := rfl
      rw [hworld, hlog, hevents, List.filterMap_append, List.filterMap_cons_none rfl,
        List.filterMap_nil, List.append_nil]

/-- The log has the calls, without the registrations of nothing. -/
theorem log_run (ctx : Ctx) (calls : List (ℕ × AckCall)) :
    (start.run ctx calls).log.map (fun m => (m.time, m.call))
      = calls.filter fun c => c.2.counts := by
  induction calls using List.reverseRecOn with
  | nil => rfl
  | append_singleton calls c ih =>
    obtain ⟨time, call⟩ := c
    rw [run_append, List.filter_append, ← ih]
    cases call with
    | register a =>
      by_cases ha : a.ackCrc = 0
      · simp [next, ha, AckCall.counts]
      · simp [next, ha, AckCall.counts]
    | answer ackCrc => simp [next, AckCall.counts]
    | cleanup => simp [next, AckCall.counts]

end

end AckState

/-- **Nothing is lost while there is room.** In a run whose calls all see expiry: as long as a slot
is free or has expired, a registration leaves every other registration that has not expired where it
is; no more entries are valid than the table has; and if there are never more fresh registrations
outstanding than the table has slots, then a code that is registered once and arrives in time is
reported once, with its own target and attempt. -/
theorem acks_lose_nothing {ctx : Ctx} {calls : List (ℕ × AckCall)} {s : AckState}
    (hs : s = AckState.start.run ctx calls)
    (hrecent : AtEachCall ctx AckState.Recent .start calls)
    (hsees : AtEachCall ctx (AckState.SeesExpiry ctx.ulongBits) .start calls) :
    (∀ time a, s.Recent time → s.SeesExpiry ctx.ulongBits time →
      (∃ j, Vacant runtimeRequestTimeoutMs time (s.held j)) →
      ∀ i x, s.held i = some x → Fresh runtimeRequestTimeoutMs time x →
        (s.next ctx time (.register a)).held i = some x) ∧
    s.world.correlation.expectedAcks.countP (·.valid) ≤ expectedAckTableSize ∧
    s.log.map (fun m => (m.time, m.call)) = calls.filter (fun c => c.2.counts) ∧
    s.world.events = (s.log.filterMap TableMark.found).map AckInfo.event ∧
    (Roomy AckInfo.ackCrc runtimeRequestTimeoutMs expectedAckTableSize s.log →
      ∀ l since a rest, s.log = l ++ ⟨since, .register a, none⟩ :: rest →
        (∀ m ∈ rest, ∀ b, m.call = .register b → b.ackCrc ≠ a.ackCrc) →
        (∃ m ∈ rest, m.call = .answer a.ackCrc ∧ m.time < since + runtimeRequestTimeoutMs) →
        rest.filterMap (TableMark.foundFor a.ackCrc) = [a]) := by
  obtain ⟨hdated, ⟨before, hle, hrun⟩, hevents⟩ := AckState.tableRun hrecent hsees
  have hlog := AckState.log_run ctx calls
  rw [← hs] at hdated hle hrun hevents hlog
  refine ⟨fun time a hrecent hsees hvacant i x hx hfresh => ?_, ?_, hlog, hevents, ?_⟩
  · by_cases ha : a.ackCrc = 0
    · have hnext : s.next ctx time (.register a) = ⟨s.atTime time, s.since, s.log, time⟩ := by
        rw [AckState.next, AckState.register_run, if_pos ha, if_pos ha, if_pos ha]
      rw [hnext]
      exact hx
    · exact (AckState.register_step hdated hrecent hsees ha).2.register_keeps hvacant hx hfresh
  · exact List.countP_le_length.trans_eq s.world.correlation.length_expectedAcks
  · intro hroomy l since a rest hlog honly hin
    have hcard : Fintype.card (Fin expectedAckTableSize) = expectedAckTableSize :=
      Fintype.card_fin _
    exact hrun.answered_once (hcard.symm ▸ hroomy) hlog honly hin

/-- Two messages, of which the second is acknowledged first. -/
def promptCalls : List (ℕ × AckCall) :=
  [(0, .register ⟨5, [1], 0⟩), (3, .register ⟨6, [2], 1⟩), (10, .answer 6), (12, .answer 5)]

/-- Both are reported, each with its own target and attempt. -/
theorem acks_lose_nothing_prompt :
    let s := AckState.start.run .silent promptCalls
    let rest : List (TableMark AckInfo UInt32) :=
      [⟨10, .answer 6, some ⟨6, [2], 1⟩⟩, ⟨12, .answer 5, some ⟨5, [1], 0⟩⟩]
    s.log = ⟨0, .register ⟨5, [1], 0⟩, none⟩ :: ⟨3, .register ⟨6, [2], 1⟩, none⟩ :: rest ∧
      s.world.events = [.messageAck [2] 1, .messageAck [1] 0] ∧
      rest.filterMap (TableMark.foundFor 6) = [⟨6, [2], 1⟩] ∧
      (⟨3, .register ⟨6, [2], 1⟩, none⟩ :: rest).filterMap (TableMark.foundFor 5)
        = [⟨5, [1], 0⟩] := by
  intro s rest
  have hlog : s.log
      = ⟨0, .register ⟨5, [1], 0⟩, none⟩ :: ⟨3, .register ⟨6, [2], 1⟩, none⟩ :: rest := by rfl
  have hroomy : Roomy AckInfo.ackCrc runtimeRequestTimeoutMs expectedAckTableSize s.log := by
    rw [hlog]
    rintro l m r h a ha
    rcases l with _ | ⟨m₁, _ | ⟨m₂, _ | ⟨m₃, _ | ⟨m₄, l⟩⟩⟩⟩ <;>
      simp only [List.nil_append, List.cons_append, List.cons.injEq, rest] at h
    · obtain ⟨rfl, -⟩ := h
      cases ha
      decide
    · obtain ⟨rfl, rfl, -⟩ := h
      cases ha
      decide
    · obtain ⟨-, -, rfl, -⟩ := h
      cases ha
    · obtain ⟨-, -, -, rfl, -⟩ := h
      cases ha
    · simp at h
  obtain ⟨-, -, -, hevents, honce⟩ := @acks_lose_nothing .silent promptCalls _ rfl
    (by decide +kernel) (by decide +kernel)
  refine ⟨hlog, ?_, honce hroomy [_] 3 ⟨6, [2], 1⟩ rest hlog ?_ ?_,
    honce hroomy [] 0 ⟨5, [1], 0⟩ _ hlog ?_ ?_⟩
  · rw [hevents]
    rfl
  · simp [rest]
  · exact ⟨_, List.mem_cons_self, rfl, by decide⟩
  · intro m hm b hb hkey
    simp only [rest, List.mem_cons, List.not_mem_nil, or_false] at hm
    rcases hm with rfl | rfl | rfl
    · cases hb
      exact absurd hkey (by decide)
    · cases hb
    · cases hb
  · exact ⟨⟨12, .answer 5, some ⟨5, [1], 0⟩⟩, by simp [rest], rfl, by decide⟩

/-- A host whose `unsigned long` has 64 bits. -/
def Ctx.wide : Ctx := { Ctx.silent with ulongBits := 64, ulongBits_eq := .inr rfl }

/-- Seven messages shortly before the clock wraps and one when it does; after the seven have
expired, two more, and between them the acknowledgement of the eighth. -/
def lossyCalls : List (ℕ × AckCall) :=
  ((List.range 7).map fun i => (2 ^ 32 - 5000, .register ⟨UInt32.ofNat (i + 1), [], 0⟩)) ++
    [(2 ^ 32 - 1, .register ⟨8, [], 0⟩), (2 ^ 32 + 5001, .register ⟨9, [], 0⟩),
      (2 ^ 32 + 5001, .answer 8), (2 ^ 32 + 5001, .register ⟨10, [], 0⟩)]

/-- The next message is put over one that has not expired, although six slots have, and its
acknowledgement is not reported. -/
theorem acks_lost_wide :
    let s := AckState.start.run .wide lossyCalls
    AtEachCall .wide AckState.Recent .start lossyCalls ∧ s.Recent (2 ^ 32 + 5001) ∧
      (∃ j, Vacant runtimeRequestTimeoutMs (2 ^ 32 + 5001) (s.held j)) ∧
      ∃ i x, s.held i = some x ∧ Fresh runtimeRequestTimeoutMs (2 ^ 32 + 5001) x ∧
        let s' := s.next .wide (2 ^ 32 + 5001) (.register ⟨11, [], 0⟩)
        s'.held i ≠ some x ∧
        (s'.next .wide (2 ^ 32 + 5002) (.answer x.2.ackCrc)).world.events = s'.world.events := by
  have hexpired : (AckState.start.run .wide lossyCalls).held 1
      = some (2 ^ 32 - 5000, ⟨2, [], 0⟩) := by decide +kernel
  refine ⟨by decide +kernel, by decide +kernel, ⟨1, fun x hx => ?_⟩, 0, (2 ^ 32 + 5001, ⟨9, [], 0⟩),
    by decide +kernel, by decide, by decide +kernel, by decide +kernel⟩
  rw [hexpired] at hx
  obtain rfl := Option.some.inj hx
  decide

end Meshcore
