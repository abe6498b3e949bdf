import Meshcore.Correlated

/-!
# Late answers

A response that is processed after the registration of its request has expired should answer
nothing. An acknowledgement checks the time itself. The other four kinds rely on the timer: they
answer what is in their slot. So a late answer is possible where a frame is injected, or a
transmission ends and a delayed packet is taken, before the timer has fired for the expiry, and
where `unsigned long` is wider than the clock and the comparison misses the wrap.

## Main definitions

* `Registration.Late`, `Op.Prompt` — the registration has expired, and no call comes before the
  timer
* `Prompts` — a run of such calls

## Main results

* `no_late_answer` — no answer in such a run is late
* `late_answer` — a trace that comes back ten seconds after the expiry is answered
-/

namespace Meshcore

/-- The time is at or after the expiry, as the 32-bit clock shows them. -/
def Registration.Late (nowMs : ℕ) (r : Registration) : Prop :=
  0 ≤ ahead 32 (r.expiresAtMs % 2 ^ 32) nowMs

instance (nowMs : ℕ) (r : Registration) : Decidable (r.Late nowMs) :=
  inferInstanceAs (Decidable (0 ≤ _))

/-- When the timer fires, clean-up sees what has expired. At the other events nothing has expired
but acknowledgements, and the comparison sees that. -/
def Op.Prompt (ctx : Ctx) (w : World) : Op → Prop
  | .timerFired nowMs => ∀ s r, w.correlation.slot s = some r → r.Late nowMs.toNat →
    timeReached ctx.ulongBits nowMs.toNat r.expiresAtMs = true
  | .radioRxInject _ _ _ nowMs | .radioTxDone nowMs _ =>
    ∀ s r, w.correlation.slot s = some r → r.Late nowMs.toNat →
      s.kind = .ack ∧ timeReached ctx.ulongBits nowMs.toNat r.expiresAtMs = true
  | _ => True

/-- Every call of the run is prompt. -/
def Prompts (ctx : Ctx) : World → List Op → Prop
  | _, [] => True
  | w, op :: ops => op.Prompt ctx w ∧ Prompts ctx (op.next ctx w) ops

theorem prompts_concat {ctx : Ctx} {w : World} {ops : List Op} {op : Op} :
    Prompts ctx w (ops ++ [op]) ↔ Prompts ctx w ops ∧ op.Prompt ctx (runOps ctx w ops) := by
  induction ops generalizing w with
  | nil => simp [Prompts, runOps]
  | cons op' ops ih =>
    rw [List.cons_append, Prompts, Prompts, ih, and_assoc]
    rfl

/-- A registration can end so, and not by a late answer. -/
def EndsInTime (w : ℕ) (s : Slot) (r : Registration) (reason : Ending) : Prop :=
  Ends w s r reason ∧ ∀ nowMs e, reason = .answered nowMs e → ¬r.Late nowMs

theorem Slot.exists_of_kind_eq_ack {s : Slot} (h : s.kind = .ack) : ∃ i, s = .ack i := by
  cases s with
  | ack i => exact ⟨i, rfl⟩
  | _ => cases h

/-- No answer in the block of a prompt call is late. -/
theorem Op.Prompt.honest {ctx : Ctx} {w : World} {op : Op} {b : CorrelationLedger}
    (hprompt : op.Prompt ctx w) (hb : Entered ctx w (op.next ctx w) b)
    (henters : op.Enters ctx w b) :
    Honest (EndsInTime ctx.ulongBits) w.correlation.slot b (op.next ctx w).correlation.slot := by
  -- At an event, what is answered was open before.
  have hevent : ∀ nowMs : ℕ, (∀ x ∈ b, Settling (some nowMs) x) →
      (∀ s t e, .ended s (.answered t e) ∈ b → ∀ r, w.correlation.slot s = some r →
        Ends ctx.ulongBits s r (.answered nowMs e) → ¬r.Late nowMs) →
      Honest (EndsInTime ctx.ulongBits) w.correlation.slot b (op.next ctx w).correlation.slot := by
    intro nowMs hsettling hlate
    refine hb.honest.strengthen fun x hx => ?_
    obtain ⟨s, reason, rfl⟩ := (hsettling x hx).exists_eq
    refine ⟨s, reason, rfl, fun r hr hends => ⟨hends, ?_⟩⟩
    rintro t e rfl
    obtain rfl : t = nowMs := hsettling _ hx nowMs rfl
    exact hlate s t e hx r hr hends
  have hother : (∀ s reason, .ended s reason ∈ b → reason = .reset) →
      Honest (EndsInTime ctx.ulongBits) w.correlation.slot b (op.next ctx w).correlation.slot := by
    intro hreset
    refine hb.honest.imp fun s reason hmem r hends => ⟨hends, ?_⟩
    rintro t e rfl
    cases hreset s _ hmem
  have hrequest : (b = [] ∨ (op.run ctx w).1 = 0 ∧ ∃ s r, b = [.opened s r] ∧ op.Registers s r ∧
      ∀ t, (op.call ctx w).1.2 = some t → TagIs t r.tag) →
      Honest (EndsInTime ctx.ulongBits) w.correlation.slot b (op.next ctx w).correlation.slot := by
    rintro (rfl | ⟨-, s, r, rfl, -⟩) <;> exact hother (by simp)
  -- An acknowledgement is not answered when its time has been reached.
  have hack : ∀ nowMs : ℕ,
      (∀ s r, w.correlation.slot s = some r → r.Late nowMs →
        s.kind = .ack ∧ timeReached ctx.ulongBits nowMs r.expiresAtMs = true) →
      ∀ s (t : ℕ) e, .ended s (.answered t e) ∈ b → ∀ r, w.correlation.slot s = some r →
        Ends ctx.ulongBits s r (.answered nowMs e) → ¬r.Late nowMs := by
    intro nowMs hprompt s t e _ r hr hends hlate
    obtain ⟨hs, hreached⟩ := hprompt s r hr hlate
    obtain ⟨i, rfl⟩ := Slot.exists_of_kind_eq_ack hs
    simp [hends.2 i rfl] at hreached
  cases op with
  | init | deinit =>
    refine hother fun s reason hmem => ?_
    obtain ⟨_, hx⟩ := henters _ hmem
    cases hx
    rfl
  | timerFired nowMs =>
    refine hevent nowMs.toNat (fun x hx => (henters x hx).1) fun s t e hmem r hr _ hlate => ?_
    obtain rfl : t = nowMs.toNat := (henters _ hmem).1 _ rfl
    exact absurd (hprompt s r hr hlate) (by simp [(henters _ hmem).2 s _ e rfl r hr])
  | radioRxInject _ _ _ nowMs => exact hevent nowMs.toNat henters (hack nowMs.toNat hprompt)
  | radioTxDone nowMs => exact hevent nowMs.toNat henters (hack nowMs.toNat hprompt)
  | _ => exact hrequest henters

theorem RunLedger.state_eq {ctx : Ctx} {ops : List Op} {bs : List CorrelationLedger} {w : World}
    (h : RunLedger ctx ops bs w) : w = runOps ctx .boot ops := by
  induction h with
  | boot => rfl
  | call _ op _ _ ih => rw [runOps, List.foldl_append, ih]; rfl

/-- In a run of prompt calls no answer in the ledger is late. -/
theorem RunLedger.honest_of_prompts {ctx : Ctx} {ops : List Op} {bs : List CorrelationLedger}
    {w : World} (h : RunLedger ctx ops bs w) (hprompts : Prompts ctx .boot ops) :
    Honest (EndsInTime ctx.ulongBits) (fun _ => none) bs.flatten w.correlation.slot := by
  induction h with
  | boot =>
    rw [show World.boot.correlation.slot = fun _ => none from funext Correlation.slot_zero]
    exact .nil
  | call h op hb henters ih =>
    obtain ⟨hbefore, hprompt⟩ := prompts_concat.mp hprompts
    rw [← h.state_eq] at hprompt
    simpa using (ih hbefore).append (hprompt.honest hb henters)

/-- **No late answer.** In every run of prompt calls each event that tells the host of an answer
comes before the expiry of the registration it is matched with. -/
theorem no_late_answer {ctx : Ctx} {ops : List Op} (hprompts : Prompts ctx .boot ops) :
    ∃ bs, RunLedger ctx ops bs (runOps ctx .boot ops) ∧
      (runOps ctx .boot ops).events.filter Event.isCorrelated = bs.flatten.filterMap answerOf ∧
      ∃ m : ℕ → ℕ, ∀ (j : ℕ) (s : Slot) (nowMs : ℕ) (e : Event),
        bs.flatten[j]? = some (.ended s (.answered nowMs e)) → m j < j ∧
          ∃ r, bs.flatten[m j]? = some (.opened s r) ∧ AnsweredBy s r e ∧ ¬r.Late nowMs := by
  obtain ⟨bs, hbs⟩ := exists_runLedger ctx ops
  obtain ⟨m, hm, -⟩ := (hbs.honest_of_prompts hprompts).exists_matching
  refine ⟨bs, hbs, hbs.entered.events, m, fun j s nowMs e hj => ?_⟩
  obtain ⟨hlt, ⟨r, hr, hends, hlate⟩, -⟩ := hm j s _ hj
  exact ⟨hlt, r, hr, hends.1, hlate _ _ rfl⟩

/-- A trace over one hop that comes back, with the tag 5. -/
def traceBack (nowMs : UInt32) : Op :=
  .radioRxInject (some [0x26, 1, 0x14, 5, 0, 0, 0, 0, 0, 0, 0, 0, 7]) 0 0 nowMs

/-- Five seconds after the request it answers it in time. -/
theorem no_late_answer_trace :
    let ops := [.init, .nodeTraceRequest (some [7]) 1 1 (some 5), traceBack 5000]
    (runOps .silent .boot ops).events.filter Event.isCorrelated ≠ [] ∧
    ∃ bs, RunLedger .silent ops bs (runOps .silent .boot ops) ∧
      (runOps .silent .boot ops).events.filter Event.isCorrelated = bs.flatten.filterMap answerOf ∧
      ∃ m : ℕ → ℕ, ∀ (j : ℕ) (s : Slot) (nowMs : ℕ) (e : Event),
        bs.flatten[j]? = some (.ended s (.answered nowMs e)) → m j < j ∧
          ∃ r, bs.flatten[m j]? = some (.opened s r) ∧ AnsweredBy s r e ∧ ¬r.Late nowMs := by
  intro ops
  have hslots : ∀ s ∈ Slot.all, ∀ r ∈ (runOps .silent .boot
      [.init, .nodeTraceRequest (some [7]) 1 1 (some 5)]).correlation.slot s, ¬r.Late 5000 := by
    decide +kernel
  exact ⟨by decide +kernel, no_late_answer ⟨trivial, trivial,
    fun s r hs hlate => absurd hlate (hslots s s.mem_all r hs), trivial⟩⟩

/-- Ten seconds after the expiry it is answered all the same. -/
theorem late_answer :
    let w := runOps .silent .boot [.init, .nodeTraceRequest (some [7]) 1 1 (some 5)]
    (∃ r, w.correlation.slot .trace = some r ∧ r.tag = 5 ∧ r.Late 20000) ∧
      ((traceBack 20000).next .silent w).events.filter Event.isCorrelated =
        [.tracePath 1 5 [0x14] [0] 0 20] :=
  ⟨⟨⟨5, [], 0, 10000⟩, by decide +kernel, rfl, by decide⟩, by decide +kernel⟩

end Meshcore
