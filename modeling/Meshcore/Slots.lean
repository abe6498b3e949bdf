import Meshcore.Lib.Ledger
import Meshcore.Pending

/-!
# The slots of the request correlation

The eight expected acknowledgements and the four single slots differ in what they are matched with,
not in how they are kept: each is free, or holds a registration until a time. `Correlation.slot` is
that view of the state, a table of open requests, and the operations of
`runtime/meshcore_runtime_pending.c` are described by what they do to it.

The second part is about the time. A registration expires `runtimeRequestTimeoutMs` after the clock
showed it was made. Clean-up compares that time in the width of `unsigned long`, the deadline
compares its low 32 bits, and the clock itself has 32 bits, so the two can disagree where the clock
has wrapped since and `unsigned long` has not.

## Main definitions

* `Slot`, `Registration`, `Correlation.slot` — the table of open requests
* `RegisteredAgo` — a registration of a certain age

## Main results

* `slot_cleanup`, `slot_expectedAckRegister`, `slot_expectedAckHandle` — the operations on the table
* `accumulateAll_spec` — a deadline is the earliest of the candidates
* `cleanup_agrees` — when clean-up and deadline agree
-/

namespace Meshcore

/-! ### The table of open requests -/

/-- A place where the runtime remembers a request. -/
inductive Slot where
  | ack (i : Fin expectedAckTableSize) | discovery | trace | telemetry | binary
deriving DecidableEq

/-- Every slot. -/
def Slot.all : List Slot :=
  (List.finRange expectedAckTableSize).map .ack ++ [.discovery, .trace, .telemetry, .binary]

theorem Slot.mem_all (s : Slot) : s ∈ Slot.all := by
  cases s <;> simp [Slot.all]

/-- What a slot remembers: the tag or the acknowledgement code, the peer, the attempt of a text
message and the time of expiry. -/
structure Registration where
  tag : UInt32
  keyPrefix : List UInt8
  attempt : UInt8
  expiresAtMs : ℕ
deriving DecidableEq

def ExpectedAck.registration (entry : ExpectedAck) : Option Registration :=
  if entry.valid then some ⟨entry.ackCrc, entry.target, entry.attempt, entry.expiresAtMs⟩ else none

def Pending.registration (pending : Pending) : Option Registration :=
  if pending.valid then some ⟨pending.tag, pending.keyPrefix, 0, pending.expiresAtMs⟩ else none

namespace Correlation

/-- The registration in a slot, if it is taken. -/
def slot (c : Correlation) : Slot → Option Registration
  | .ack i => (c.expectedAcks.getD i .zero).registration
  | .discovery => c.pendingDiscovery.registration
  | .trace => c.pendingTrace.registration
  | .telemetry => c.pendingTelemetry.registration
  | .binary => c.pendingBinary.registration

end Correlation

@[simp] theorem ExpectedAck.registration_zero : ExpectedAck.zero.registration = none := rfl

@[simp] theorem Pending.registration_zero : Pending.zero.registration = none := rfl

theorem ExpectedAck.registration_eq_some {entry : ExpectedAck} {r : Registration} :
    entry.registration = some r ↔ entry.valid = true ∧
      r = ⟨entry.ackCrc, entry.target, entry.attempt, entry.expiresAtMs⟩ := by
  rw [ExpectedAck.registration, Option.ite_none_right_eq_some, Option.some.injEq, eq_comm (b := r)]

theorem Pending.registration_eq_some {pending : Pending} {r : Registration} :
    pending.registration = some r ↔ pending.valid = true ∧
      r = ⟨pending.tag, pending.keyPrefix, 0, pending.expiresAtMs⟩ := by
  rw [Pending.registration, Option.ite_none_right_eq_some, Option.some.injEq, eq_comm (b := r)]

theorem ExpectedAck.registration_cleanup (w nowMs : ℕ) (entry : ExpectedAck) :
    (entry.cleanup w nowMs).registration =
      entry.registration.filter fun r => !timeReached w nowMs r.expiresAtMs := by
  rw [ExpectedAck.cleanup]
  by_cases hvalid : entry.valid <;> by_cases hreached : timeReached w nowMs entry.expiresAtMs <;>
    simp [ExpectedAck.registration, hvalid, hreached, ExpectedAck.zero, Option.filter]

theorem Pending.registration_cleanup (w nowMs : ℕ) (pending : Pending) :
    (pending.cleanup w nowMs).registration =
      pending.registration.filter fun r => !timeReached w nowMs r.expiresAtMs := by
  rw [Pending.cleanup]
  by_cases hvalid : pending.valid <;> by_cases hreached :
    timeReached w nowMs pending.expiresAtMs <;>
    simp [Pending.registration, hvalid, hreached, Pending.zero, Option.filter]

namespace Correlation

@[simp] theorem slot_zero (s : Slot) : Correlation.zero.slot s = none := by
  cases s with
  | ack i => rw [slot, zero, List.getD_replicate _ i.isLt, ExpectedAck.registration_zero]
  | _ => rfl

/-- Clean-up frees the slots whose time has been reached. -/
theorem slot_cleanup (w nowMs : ℕ) (c : Correlation) (s : Slot) :
    (c.cleanup w nowMs).slot s =
      (c.slot s).filter fun r => !timeReached w nowMs r.expiresAtMs := by
  cases s with
  | ack i =>
    have hi : i.val < c.expectedAcks.length := by rw [c.length_expectedAcks]; exact i.isLt
    rw [slot, slot, cleanup, List.getD_eq_getElem _ _ (by simpa using hi),
      List.getD_eq_getElem _ _ hi, List.getElem_map]
    exact ExpectedAck.registration_cleanup ..
  | _ => exact Pending.registration_cleanup ..

/-! A single slot is replaced as a whole. -/

@[simp] theorem slot_setDiscovery (c : Correlation) (pending : Pending) :
    ({ c with pendingDiscovery := pending } : Correlation).slot =
      Function.update c.slot .discovery pending.registration := by
  funext s
  cases s <;> rfl

@[simp] theorem slot_setTrace (c : Correlation) (pending : Pending) :
    ({ c with pendingTrace := pending } : Correlation).slot =
      Function.update c.slot .trace pending.registration := by
  funext s
  cases s <;> rfl

@[simp] theorem slot_setTelemetry (c : Correlation) (pending : Pending) :
    ({ c with pendingTelemetry := pending } : Correlation).slot =
      Function.update c.slot .telemetry pending.registration := by
  funext s
  cases s <;> rfl

@[simp] theorem slot_setBinary (c : Correlation) (pending : Pending) :
    ({ c with pendingBinary := pending } : Correlation).slot =
      Function.update c.slot .binary pending.registration := by
  funext s
  cases s <;> rfl

theorem registerSlot_lt (c : Correlation) (w nowMs : ℕ) :
    c.registerSlot w nowMs < expectedAckTableSize := by
  rw [registerSlot]
  cases (List.range expectedAckTableSize).find? _ with
  | none => exact c.expectedAckNext_lt
  | some i => exact Nat.mod_lt _ (by decide)

/-- A registered acknowledgement goes to one slot. -/
theorem slot_expectedAckRegister (c : Correlation) (w nowMs : ℕ) (ackCrc : UInt32)
    (target : List UInt8) (attempt : UInt8) :
    (c.expectedAckRegister w nowMs ackCrc target attempt).slot =
      Function.update c.slot (.ack ⟨_, c.registerSlot_lt w nowMs⟩)
        (some ⟨ackCrc, target, attempt, (nowMs + runtimeRequestTimeoutMs) % 2 ^ w⟩) := by
  funext s
  cases s with
  | ack i =>
    have hi : i.val < c.expectedAcks.length := by rw [c.length_expectedAcks]; exact i.isLt
    by_cases he : i = ⟨_, c.registerSlot_lt w nowMs⟩
    · subst he
      rw [Function.update_self, slot, expectedAckRegister,
        List.getD_eq_getElem _ _ (by simpa using hi), List.getElem_set_self]
      rfl
    · rw [Function.update_of_ne (by simpa using he), slot, slot, expectedAckRegister,
        List.getD_eq_getElem _ _ (by simpa using hi), List.getD_eq_getElem _ _ hi,
        List.getElem_set_ne (fun h => he (Fin.ext h.symm))]
  | _ => rw [Function.update_of_ne (by simp)]; rfl

end Correlation

/-- A slot is as before, or it was cleared because its time had been reached. -/
def KeptUnlessReached (w nowMs : ℕ) (before after : Option Registration) : Prop :=
  after = before ∨ after = none ∧ ∀ r, before = some r → timeReached w nowMs r.expiresAtMs = true

theorem ExpectedAck.keptUnlessReached_cleanup (w nowMs : ℕ) (entry : ExpectedAck) :
    KeptUnlessReached w nowMs entry.registration (entry.cleanup w nowMs).registration := by
  rw [ExpectedAck.registration_cleanup]
  cases entry.registration with
  | none => exact .inl rfl
  | some r =>
    rw [Option.filter_some]
    by_cases h : timeReached w nowMs r.expiresAtMs
    · exact .inr ⟨by simp [h], by rintro _ ⟨⟩; exact h⟩
    · exact .inl (by simp [h])

/-- The search for an acknowledgement clears what has expired on its way. It finds none, or the
first entry with the code. -/
theorem ExpectedAck.handle_eq (w nowMs : ℕ) (ackCrc : UInt32) (entries : List ExpectedAck) :
    handle w nowMs ackCrc entries = (entries.map (cleanup w nowMs), none) ∨
    ∃ l entry r, entries = l ++ entry :: r ∧ entry.valid = true ∧ entry.ackCrc = ackCrc ∧
      timeReached w nowMs entry.expiresAtMs = false ∧
      handle w nowMs ackCrc entries =
        (l.map (cleanup w nowMs) ++ .zero :: r, some (entry.target, entry.attempt)) := by
  induction entries with
  | nil => exact .inl rfl
  | cons entry entries ih =>
    -- The loop goes on with the entry cleaned up, or stops.
    have hgo : handle w nowMs ackCrc (entry :: entries) =
          (entry.cleanup w nowMs :: (handle w nowMs ackCrc entries).1,
            (handle w nowMs ackCrc entries).2) ∨
        (entry.valid = true ∧ entry.ackCrc = ackCrc ∧
          timeReached w nowMs entry.expiresAtMs = false ∧
          handle w nowMs ackCrc (entry :: entries) =
            (.zero :: entries, some (entry.target, entry.attempt))) := by
      rw [handle, cleanup]
      by_cases hvalid : entry.valid <;> by_cases hreached :
        timeReached w nowMs entry.expiresAtMs <;>
        by_cases hcrc : entry.ackCrc = ackCrc <;> simp [hvalid, hreached, hcrc]
    rcases hgo with hgo | ⟨hvalid, hcrc, hreached, hgo⟩
    · rcases ih with ih | ⟨l, found, r, rfl, hvalid, hcrc, hreached, ih⟩
      · exact .inl (by rw [hgo, ih, List.map_cons])
      · exact .inr ⟨entry :: l, found, r, rfl, hvalid, hcrc, hreached, by rw [hgo, ih]; rfl⟩
    · exact .inr ⟨[], entry, entries, rfl, hvalid, hcrc, hreached, hgo⟩

namespace Correlation

/-- An acknowledgement changes nothing but what has expired, or it is the answer to one registration
that has not. -/
theorem slot_expectedAckHandle (c : Correlation) (w nowMs : ℕ) (ackCrc : UInt32) :
    ((ExpectedAck.handle w nowMs ackCrc c.expectedAcks).2 = none ∧
      ∀ s, KeptUnlessReached w nowMs (c.slot s) ((c.expectedAckHandle w nowMs ackCrc).slot s)) ∨
    ∃ i r, c.slot (.ack i) = some r ∧ r.tag = ackCrc ∧
      timeReached w nowMs r.expiresAtMs = false ∧
      (ExpectedAck.handle w nowMs ackCrc c.expectedAcks).2 = some (r.keyPrefix, r.attempt) ∧
      (c.expectedAckHandle w nowMs ackCrc).slot (.ack i) = none ∧
      ∀ s, s ≠ .ack i →
        KeptUnlessReached w nowMs (c.slot s) ((c.expectedAckHandle w nowMs ackCrc).slot s) := by
  have hlen := c.length_expectedAcks
  rcases ExpectedAck.handle_eq w nowMs ackCrc c.expectedAcks with h | ⟨l, entry, r, hsplit, hvalid,
    hcrc, hreached, h⟩
  · have hacks : (c.expectedAckHandle w nowMs ackCrc).expectedAcks
        = c.expectedAcks.map (ExpectedAck.cleanup w nowMs) := congrArg Prod.fst h
    refine .inl ⟨congrArg Prod.snd h, fun s => ?_⟩
    cases s with
    | ack i =>
      have hi : i.val < c.expectedAcks.length := by rw [hlen]; exact i.isLt
      rw [slot, slot, hacks, List.getD_eq_getElem _ _ hi,
        List.getD_eq_getElem _ _ (by simpa using hi), List.getElem_map]
      exact ExpectedAck.keptUnlessReached_cleanup ..
    | _ => exact .inl rfl
  · have hacks : (c.expectedAckHandle w nowMs ackCrc).expectedAcks
        = l.map (ExpectedAck.cleanup w nowMs) ++ .zero :: r := congrArg Prod.fst h
    have hl : l.length < expectedAckTableSize := by
      rw [← hlen, hsplit, List.length_append, List.length_cons]
      omega
    have hopen : c.slot (.ack ⟨l.length, hl⟩)
        = some ⟨entry.ackCrc, entry.target, entry.attempt, entry.expiresAtMs⟩ := by
      rw [slot, hsplit, List.getD_append_right _ _ _ _ le_rfl, Nat.sub_self]
      exact ExpectedAck.registration_eq_some.mpr ⟨hvalid, rfl⟩
    refine .inr ⟨⟨l.length, hl⟩, _, hopen, hcrc, hreached, congrArg Prod.snd h, ?_, fun s hs => ?_⟩
    · rw [slot, hacks, List.getD_append_right _ _ _ _ (by simp), List.length_map, Nat.sub_self]
      rfl
    · cases s with
      | ack i =>
        have hne : i.val ≠ l.length := fun he => hs (congrArg Slot.ack (Fin.ext he))
        rw [slot, slot, hacks, hsplit]
        rcases Nat.lt_or_ge i.val l.length with hlt | hge
        · rw [List.getD_append _ _ _ _ hlt, List.getD_append _ _ _ _ (by simpa using hlt),
            List.getD_eq_getElem _ _ hlt, List.getD_eq_getElem _ _ (by simpa using hlt),
            List.getElem_map]
          exact ExpectedAck.keptUnlessReached_cleanup ..
        · obtain ⟨n, hn⟩ : ∃ n, i.val - l.length = n + 1 := ⟨i.val - l.length - 1, by omega⟩
          rw [List.getD_append_right _ _ _ _ hge,
            List.getD_append_right _ _ _ _ (by simpa using hge),
            List.length_map, hn, List.getD_cons_succ, List.getD_cons_succ]
          exact .inl rfl
      | _ => exact .inl rfl

/-- The deadlines are the times of expiry of the registrations. -/
theorem mem_deadlines {c : Correlation} {expiresAtMs : ℕ} :
    expiresAtMs ∈ c.deadlines ↔ ∃ s r, c.slot s = some r ∧ r.expiresAtMs = expiresAtMs := by
  simp only [deadlines, List.mem_append, List.mem_map, List.mem_filter]
  constructor
  · rintro (⟨entry, ⟨hmem, hvalid⟩, rfl⟩ | ⟨pending, ⟨hmem, hvalid⟩, rfl⟩)
    · obtain ⟨i, hi, rfl⟩ := List.getElem_of_mem hmem
      have hopen := ExpectedAck.registration_eq_some.mpr ⟨hvalid, rfl⟩
      rw [← List.getD_eq_getElem _ .zero hi] at hopen
      exact ⟨.ack ⟨i, c.length_expectedAcks ▸ hi⟩, _, hopen, by rw [List.getD_eq_getElem _ _ hi]⟩
    · have hopen := Pending.registration_eq_some.mpr ⟨hvalid, rfl⟩
      simp only [List.mem_cons, List.not_mem_nil, or_false] at hmem
      rcases hmem with rfl | rfl | rfl | rfl
      · exact ⟨.discovery, _, hopen, rfl⟩
      · exact ⟨.trace, _, hopen, rfl⟩
      · exact ⟨.telemetry, _, hopen, rfl⟩
      · exact ⟨.binary, _, hopen, rfl⟩
  · rintro ⟨s, r, hs, rfl⟩
    cases s with
    | ack i =>
      have hi : i.val < c.expectedAcks.length := by rw [c.length_expectedAcks]; exact i.isLt
      rw [slot, List.getD_eq_getElem _ _ hi] at hs
      obtain ⟨hvalid, rfl⟩ := ExpectedAck.registration_eq_some.mp hs
      exact .inl ⟨_, ⟨List.getElem_mem hi, hvalid⟩, rfl⟩
    | _ =>
      obtain ⟨hvalid, rfl⟩ := Pending.registration_eq_some.mp hs
      exact .inr ⟨_, ⟨by simp, hvalid⟩, rfl⟩

end Correlation

/-! ### Deadlines -/

/-- Of two candidates ahead of now, one comes before the other when it is less far ahead. -/
theorem ahead_between {now a b : ℕ} (ha : 0 < ahead 32 now a) (hb : 0 < ahead 32 now b) :
    ahead 32 a b = ahead 32 now b - ahead 32 now a := by
  have ha' : ahead 32 now a < 2 ^ 31 := ahead_lt (by decide)
  have hb' : ahead 32 now b < 2 ^ 31 := ahead_lt (by decide)
  exact ahead_sub (by decide) (by norm_num; omega) (by norm_num; omega)

/-- Candidates are accumulated until one is due, and the deadline is now; or none is, and the
deadline is one of them, the earliest. -/
theorem accumulateAll_spec {now : ℕ} {candidates : List ℕ} {deadline : Option ℕ}
    (hdeadline : ∀ d ∈ deadline, 0 < ahead 32 now d) :
    (accumulateAll now candidates deadline = (true, some now) ∧
      ∃ c ∈ candidates, ahead 32 now c ≤ 0) ∨
    ((accumulateAll now candidates deadline).1 = false ∧
      (∀ c ∈ candidates, 0 < ahead 32 now c) ∧
      (∀ d ∈ (accumulateAll now candidates deadline).2, d ∈ deadline.toList ++ candidates ∧
        ∀ c ∈ deadline.toList ++ candidates, ahead 32 now d ≤ ahead 32 now c) ∧
      ((accumulateAll now candidates deadline).2 = none → deadline = none ∧ candidates = [])) := by
  induction candidates generalizing deadline with
  | nil =>
    refine .inr ⟨rfl, by simp, ?_, fun h => ⟨h, rfl⟩⟩
    rintro d (rfl : deadline = some d)
    simp
  | cons c cs ih =>
    rw [accumulateAll, deadlineAccumulate]
    by_cases hdue : ahead 32 now c ≤ 0
    · exact .inl ⟨by simp [hdue], c, List.mem_cons_self .., hdue⟩
    · simp only [if_neg hdue, Bool.false_eq_true, if_false]
      have hc := Int.not_le.mp hdue
      -- The deadline so far becomes the earlier of it and the candidate.
      obtain ⟨d', hd', hmem, hle⟩ : ∃ d',
          (deadline.elim c fun d => if ahead 32 d c < 0 then c else d) = d' ∧
            d' ∈ deadline.toList ++ [c] ∧
              ∀ x ∈ deadline.toList ++ [c], ahead 32 now d' ≤ ahead 32 now x := by
        cases deadline with
        | none => exact ⟨c, rfl, by simp, by simp⟩
        | some d =>
          have hd := hdeadline d rfl
          have hbetween := ahead_between hd hc
          by_cases hless : ahead 32 d c < 0
          · exact ⟨c, by simp [hless], by simp, by simp; omega⟩
          · exact ⟨d, by simp [hless], by simp, by simp; omega⟩
      rw [hd']
      have hpos : 0 < ahead 32 now d' := by
        rcases List.mem_append.mp hmem with h | h
        · exact hdeadline d' (Option.mem_toList.mp h)
        · rwa [List.mem_singleton.mp h]
      rcases @ih (some d') (by rintro d ⟨⟩; exact hpos) with
        ⟨hall, x, hx, hdue'⟩ | ⟨hfst, hall, hsnd, hnone⟩
      · exact .inl ⟨hall, x, List.mem_cons_of_mem _ hx, hdue'⟩
      · refine .inr ⟨hfst, List.forall_mem_cons.mpr ⟨hc, hall⟩, fun d hd => ?_, fun h => ?_⟩
        · obtain ⟨hd₁, hd₂⟩ := hsnd d hd
          have hfrom : ∀ x, x ∈ (some d').toList ++ cs → x ∈ deadline.toList ++ c :: cs := by
            intro x hx
            simp only [Option.toList_some, List.cons_append, List.nil_append, List.mem_cons] at hx
            rcases hx with rfl | hx
            · simp only [List.mem_append, List.mem_cons] at hmem ⊢
              tauto
            · simp [hx]
          refine ⟨hfrom d hd₁, fun x hx => ?_⟩
          simp only [List.mem_append, List.mem_cons] at hx
          have hd'' := hd₂ d' (by simp)
          rcases hx with hx | rfl | hx
          · exact hd''.trans (hle x (by simp [hx]))
          · exact hd''.trans (hle x (by simp))
          · exact hd₂ x (by simp [hx])
        · exact absurd (hnone h).1 (by simp)

/-! ### Expiry -/

/-- A registration with this time of expiry was made `age` milliseconds ago, less than half the
range of the 32-bit clock: it was `t` then and is `now`. -/
def RegisteredAgo (w now age expiresAtMs : ℕ) : Prop :=
  age < 2 ^ 31 ∧ ∃ t < 2 ^ 32, expiresAtMs = (t + runtimeRequestTimeoutMs) % 2 ^ w ∧
    now = (t + age) % 2 ^ 32

section

variable {w now age expiresAtMs : ℕ}

/-- The 32-bit view of the expiry, which the deadline takes, is right. -/
theorem RegisteredAgo.ahead_eq (hw : w = 32 ∨ w = 64) (h : RegisteredAgo w now age expiresAtMs) :
    ahead 32 now (expiresAtMs % 2 ^ 32) = runtimeRequestTimeoutMs - age := by
  obtain ⟨hage, t, ht, rfl, rfl⟩ := h
  rw [ahead_eq_iff (by decide), show runtimeRequestTimeoutMs = 10000 from rfl]
  rcases hw with rfl | rfl <;> refine ⟨?_, ?_, ?_⟩ <;> omega

/-- Clean-up takes a registration to be expired when the timeout has elapsed, unless the clock has
wrapped since and `unsigned long` is wider than the clock. -/
theorem RegisteredAgo.timeReached_iff (hw : w = 32 ∨ w = 64)
    (h : RegisteredAgo w now age expiresAtMs) :
    timeReached w now expiresAtMs = true ↔
      runtimeRequestTimeoutMs ≤ age ∧ (w = 32 ∨ age ≤ now) := by
  obtain ⟨hage, t, ht, rfl, rfl⟩ := h
  rw [timeReached, decide_eq_true_eq, show runtimeRequestTimeoutMs = 10000 from rfl]
  rcases hw with rfl | rfl
  · have hahead : ahead 32 ((t + 10000) % 2 ^ 32) ((t + age) % 2 ^ 32) = age - 10000 := by
      rw [ahead_eq_iff (by decide)]
      refine ⟨?_, ?_, ?_⟩ <;> omega
    omega
  · have hahead : ahead 64 ((t + 10000) % 2 ^ 64) ((t + age) % 2 ^ 32)
        = ((t + age) % 2 ^ 32 : ℕ) - (t + 10000 : ℕ) := by
      rw [ahead_eq_iff (by decide)]
      refine ⟨?_, ?_, ?_⟩ <;> omega
    omega

end

/-- **Expiry and deadline agree.** The registrations of a state were made less than `2 ^ 31`
milliseconds ago. Clean-up removes exactly those whose timeout has elapsed, and the deadline that is
computed afterwards lies ahead of now, if and only if for each of them `unsigned long` has the width
of the clock, the clock has not wrapped since the registration, or the timeout has not elapsed. -/
theorem cleanup_agrees {w now : ℕ} (hw : w = 32 ∨ w = 64) {c : Correlation} {age : Slot → ℕ}
    (hage : ∀ s r, c.slot s = some r → RegisteredAgo w now (age s) r.expiresAtMs) :
    ((∀ s r, c.slot s = some r →
        ((c.cleanup w now).slot s = none ↔ runtimeRequestTimeoutMs ≤ age s)) ∧
      ∀ d ∈ (c.cleanup w now).nextDeadlineGet now, 0 < ahead 32 now d) ↔
    ∀ s r, c.slot s = some r → w = 32 ∨ age s ≤ now ∨ age s < runtimeRequestTimeoutMs := by
  have hremoved : ∀ s r, c.slot s = some r →
      ((c.cleanup w now).slot s = none ↔
        runtimeRequestTimeoutMs ≤ age s ∧ (w = 32 ∨ age s ≤ now)) := by
    intro s r hs
    rw [Correlation.slot_cleanup, hs, ← (hage s r hs).timeReached_iff hw, Option.filter_some]
    cases timeReached w now r.expiresAtMs <;> simp
  constructor
  · rintro ⟨hexact, -⟩ s r hs
    by_cases hold : runtimeRequestTimeoutMs ≤ age s
    · rcases ((hremoved s r hs).mp ((hexact s r hs).mpr hold)).2 with h | h
      · exact .inl h
      · exact .inr (.inl h)
    · exact .inr (.inr (Nat.lt_of_not_le hold))
  · intro hcond
    refine ⟨fun s r hs => (hremoved s r hs).trans ⟨And.left, fun hold => ⟨hold, ?_⟩⟩, ?_⟩
    · rcases hcond s r hs with h | h | h
      · exact .inl h
      · exact .inr h
      · exact absurd hold (Nat.not_le.mpr h)
    · -- What survives has not reached its time, so as a candidate it is not due.
      have hahead : ∀ d ∈ (c.cleanup w now).deadlines.map (· % 2 ^ 32), 0 < ahead 32 now d := by
        intro d hd
        obtain ⟨expiresAtMs, hmem, rfl⟩ := List.mem_map.mp hd
        obtain ⟨s, r, hs, rfl⟩ := Correlation.mem_deadlines.mp hmem
        rw [Correlation.slot_cleanup, Option.filter_eq_some_iff] at hs
        obtain ⟨hopen, hnot⟩ := hs
        rw [(hage s r hopen).ahead_eq hw]
        have hnot' : ¬timeReached w now r.expiresAtMs = true := by simpa using hnot
        rw [(hage s r hopen).timeReached_iff hw] at hnot'
        have := hcond s r hopen
        omega
      intro d hd
      rcases @accumulateAll_spec now ((c.cleanup w now).deadlines.map (· % 2 ^ 32)) none (by simp)
        with ⟨-, x, hx, hdue⟩ | ⟨-, -, hmem, -⟩
      · exact absurd (hahead x hx) (Int.not_lt.mpr hdue)
      · exact hahead d (by simpa using (hmem d hd).1)

/-- A state that waits for a telemetry response until a given time. -/
def telemetryWaiting (expiresAtMs : ℕ) : Correlation :=
  { Correlation.zero with pendingTelemetry := ⟨true, 7, expiresAtMs, [1, 2, 3, 4], 1⟩ }

theorem slot_telemetryWaiting {expiresAtMs : ℕ} {s : Slot} {r : Registration}
    (h : (telemetryWaiting expiresAtMs).slot s = some r) :
    s = .telemetry ∧ r.expiresAtMs = expiresAtMs := by
  have hfree := Correlation.slot_zero s
  cases s with
  | telemetry =>
    obtain rfl := Option.some.inj h
    exact ⟨rfl, rfl⟩
  | _ => exact absurd (h.symm.trans hfree) (by simp)

/-- A request made five seconds before the clock wraps has expired eleven seconds later: in 32 bits
it is removed. -/
theorem cleanup_agrees_narrow :
    ((telemetryWaiting 5000).cleanup 32 6000).slot .telemetry = none := by
  have hage : ∀ s r, (telemetryWaiting 5000).slot s = some r →
      RegisteredAgo 32 6000 11000 r.expiresAtMs := fun s r hs =>
    ⟨by decide, 2 ^ 32 - 5000, by decide, by rw [(slot_telemetryWaiting hs).2]; decide, by decide⟩
  exact (((cleanup_agrees (.inl rfl) hage).mpr fun _ _ _ => .inl rfl).1 .telemetry _ rfl).mpr
    (by decide)

/-- In 64 bits it stays, and the deadline reports it as due. -/
theorem cleanup_disagrees_wide :
    (∀ s r, (telemetryWaiting (2 ^ 32 + 5000)).slot s = some r →
      RegisteredAgo 64 6000 11000 r.expiresAtMs) ∧
    ((telemetryWaiting (2 ^ 32 + 5000)).cleanup 64 6000).slot .telemetry ≠ none ∧
    ((telemetryWaiting (2 ^ 32 + 5000)).cleanup 64 6000).nextDeadlineGet 6000 = some 6000 :=
  ⟨fun s r hs => ⟨by decide, 2 ^ 32 - 5000, by decide,
    by rw [(slot_telemetryWaiting hs).2]; decide, by decide⟩, by decide +kernel, by decide +kernel⟩

end Meshcore
