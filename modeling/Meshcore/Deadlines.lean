import Meshcore.Lib.Deadline
import Meshcore.QueueTables
import Meshcore.Slots
import Meshcore.Runtime

/-!
# The deadlines

The library folds the times that it waits for into one deadline, in four loops. Two of them, over
the request correlation and over the dispatcher's times, call a function of three lines that the
runtime and the dispatcher have a copy of each; the loop over a queue has these lines in its body. A
time that is not ahead of now ends the fold.

The times are readings of a clock of 32 bits, compared by the sign of their difference. That is no
order; it is one on the times that are less than half a turn from now.

## Main definitions

* `runtimeDeadlineAccumulate`, `dispatcherDeadlineAccumulate` — the two copies
* `foldDeadline` — the loop around them
* `QueueTables.times`, `Correlation.times`, `dispatcherTimes` — what the loops go over

## Main results

* `deadline_folds_agree` — every loop finds the deadline of the times, in any order
-/

namespace Meshcore

/-! ### The copies -/

/-- `meshcore_runtime_deadline_accumulate`: what it returns, and then what is left in
`*has_deadline` and `*deadline_ms`. -/
def runtimeDeadlineAccumulate (nowMs candidateMs : ℕ) (deadlineMs : Bool × ℕ) : Bool × Bool × ℕ :=
  if ahead 32 nowMs candidateMs ≤ 0 then (true, true, nowMs)
  else if !deadlineMs.1 ∨ ahead 32 deadlineMs.2 candidateMs < 0 then (false, true, candidateMs)
  else (false, deadlineMs)

/-- `meshcore_dispatcher_deadline_accumulate`. -/
def dispatcherDeadlineAccumulate (now candidate : ℕ) (deadline : Bool × ℕ) : Bool × Bool × ℕ :=
  if ahead 32 now candidate ≤ 0 then (true, true, now)
  else if !deadline.1 ∨ ahead 32 deadline.2 candidate < 0 then (false, true, candidate)
  else (false, deadline)

/-- A deadline, if `*has_deadline` is set. -/
def reported (deadline : Bool × ℕ) : Option ℕ := if deadline.1 then some deadline.2 else none

/-- The deadline after a loop over the candidates that returns early. -/
def foldDeadline (accumulate : ℕ → Bool × ℕ → Bool × Bool × ℕ) (candidates : List ℕ) : Option ℕ :=
  reported (foldUntil accumulate candidates (false, 0)).2

/-- The first `num` times of a queue. -/
def QueueTables.times (queue : QueueTables) : List ℕ :=
  (List.range queue.num).map queue.scheduleTable

/-- The times at which the entries of the request correlation expire. -/
def Correlation.times (c : Correlation) : List ℕ := c.deadlines.map (· % 2 ^ 32)

/-- The times that the dispatcher waits for: that of the radio while it is not receiving too. -/
def dispatcherTimes (ctx : Ctx) (w : World) (now : ℕ) : List ℕ :=
  deadlineCandidates w.packetManager w.dispatcher now ++
    (if (ctx.hooks w.tick).radioInRxMode then []
    else [(w.dispatcher.radioNonrxStart + radioNonrxTimeoutMs) % 2 ^ 32])

section

variable {ctx : Ctx} {w : World} {nowMs : ℕ} {candidates : List ℕ}

theorem deadlineAccumulate_reported (candidate : ℕ) (deadline : Bool × ℕ) :
    deadlineAccumulate nowMs candidate (reported deadline)
      = Prod.map id reported (runtimeDeadlineAccumulate nowMs candidate deadline) := by
  obtain ⟨has, deadline⟩ := deadline
  rw [deadlineAccumulate, runtimeDeadlineAccumulate]
  by_cases hdue : ahead 32 nowMs candidate ≤ 0
  · rw [if_pos hdue, if_pos hdue]
    rfl
  rw [if_neg hdue, if_neg hdue]
  cases has with
  | false => rfl
  | true =>
    by_cases hearlier : ahead 32 deadline candidate < 0
    · simp [reported, hearlier]
    · simp [reported, hearlier]

theorem accumulateAll_eq (candidates : List ℕ) (deadline : Option ℕ) :
    accumulateAll nowMs candidates deadline
      = foldUntil (deadlineAccumulate nowMs) candidates deadline := by
  induction candidates generalizing deadline with
  | nil => rfl
  | cons c cs ih => rw [accumulateAll, foldUntil, ih]

/-- The two copies do the same. -/
theorem dispatcherDeadlineAccumulate_eq :
    dispatcherDeadlineAccumulate = runtimeDeadlineAccumulate := rfl

/-- A loop around either copy accumulates the candidates. -/
theorem foldDeadline_runtime :
    foldDeadline (runtimeDeadlineAccumulate nowMs) candidates
      = (accumulateAll nowMs candidates none).2 := by
  have hfold := foldUntil_map (@deadlineAccumulate_reported nowMs) candidates (false, 0)
  rw [foldDeadline, accumulateAll_eq]
  exact (congrArg Prod.snd hfold).symm

theorem accumulateAll_append (xs ys : List ℕ) (deadline : Option ℕ) :
    accumulateAll nowMs (xs ++ ys) deadline
      = if (accumulateAll nowMs xs deadline).1 then accumulateAll nowMs xs deadline
        else accumulateAll nowMs ys (accumulateAll nowMs xs deadline).2 := by
  induction xs generalizing deadline with
  | nil => rfl
  | cons x xs ih =>
    rw [List.cons_append, accumulateAll, accumulateAll, ih]
    split <;> rfl

/-! ### The loops -/

theorem nextScheduled_eq (es : List QueueEntry) (best : Option ℕ) :
    PacketQueue.nextScheduled nowMs es best
      = (accumulateAll nowMs (es.map (·.scheduledFor)) best).2 := by
  induction es generalizing best with
  | nil => rfl
  | cons e es ih =>
    rw [PacketQueue.nextScheduled, List.map_cons, accumulateAll, deadlineAccumulate, ih,
      PacketQueue.isDue]
    by_cases hdue : ahead 32 nowMs e.scheduledFor ≤ 0
    · rw [if_pos hdue, if_pos (decide_eq_true hdue), if_pos rfl]
    · rw [if_neg hdue, if_neg (mt of_decide_eq_true hdue), if_neg Bool.false_ne_true]

theorem QueueTables.nextScheduledGet_times (queue : QueueTables) :
    queue.nextScheduledGet nowMs = (accumulateAll nowMs queue.times none).2 := by
  rw [nextScheduledGet_eq, PacketQueue.nextScheduledGet, nextScheduled_eq]
  congr 2
  rw [toQueue, entriesFrom, times, List.map_map, List.range_eq_range']
  rfl

/-- The dispatcher asks the radio last, and accumulates one more time if it has to. -/
theorem dispatcherNextDeadlineGet_times :
    (dispatcherNextDeadlineGet nowMs ctx w).1
      = (accumulateAll nowMs (dispatcherTimes ctx w nowMs) none).2 := by
  have hradio : hook Hooks.radioInRxMode ctx w
      = ((ctx.hooks w.tick).radioInRxMode, { w with tick := w.tick + 1 }) := rfl
  rw [dispatcherNextDeadlineGet, dispatcherTimes, accumulateAll_append, Prog.run_bind,
    Prog.run_gets, Prog.run_bind, Prog.run_gets, Prog.run_ite]
  split
  · rfl
  · rw [Prog.run_bind_of hradio, Prog.run_ite]
    split
    · rfl
    · rw [accumulateAll]
      split <;> rfl

/-! ### What they find -/

/-- The loop finds the reading of the deadline. -/
theorem accumulateAll_deadline {now : ℤ} {times : Multiset ℤ}
    (hnear : ∀ t ∈ times, now - 2 ^ 31 ≤ t ∧ t < now + 2 ^ 31)
    (hreadings : (candidates : Multiset ℕ) = times.map (clockOf 32)) :
    (accumulateAll (clockOf 32 now) candidates none).2 = (deadline now times).map (clockOf 32) := by
  have hahead : ∀ t ∈ times, ahead 32 (clockOf 32 now) (clockOf 32 t) = t - now := fun t ht =>
    ahead_clockOf (by decide) (hnear t ht).1 (hnear t ht).2
  have htime : ∀ c ∈ candidates, ∃ t ∈ times, clockOf 32 t = c := fun c hc =>
    Multiset.mem_map.mp (hreadings ▸ Multiset.mem_coe.mpr hc)
  have hreading : ∀ t ∈ times, clockOf 32 t ∈ candidates := fun t ht =>
    Multiset.mem_coe.mp (hreadings ▸ Multiset.mem_map_of_mem _ ht)
  rcases @accumulateAll_spec (clockOf 32 now) candidates none (fun _ h => nomatch h) with
    ⟨hall, c, hc, hdue⟩ | ⟨-, hlater, hleast, hnone⟩
  · obtain ⟨t, ht, rfl⟩ := htime c hc
    rw [hahead t ht] at hdue
    rw [hall, deadline_of_le ht (by omega)]
    rfl
  · cases hresult : (accumulateAll (clockOf 32 now) candidates none).2 with
    | none =>
      have hempty : times = 0 := by
        rw [← Multiset.map_eq_zero (f := clockOf 32), ← hreadings, (hnone hresult).2]
        rfl
      rw [deadline_eq_none_iff.mpr hempty]
      rfl
    | some d =>
      obtain ⟨hd, hle⟩ := hleast d hresult
      obtain ⟨t, ht, rfl⟩ := htime d hd
      have hfirst : ∀ t' ∈ times, t ≤ t' := fun t' ht' => by
        have hbefore := hle _ (hreading t' ht')
        rw [hahead t ht, hahead t' ht'] at hbefore
        omega
      have hnow := hlater _ hd
      rw [hahead t ht] at hnow
      rw [deadline_of_least ht hfirst (by omega)]
      rfl

end

/-! ### The result -/

/-- **Deadlines.** Take any times that are at most half a turn before now, or less than half a turn
after it, and their readings in any order. A loop around either copy, that over a queue, that over
the request correlation and that over the dispatcher's times all find the reading of the same
deadline: it is now when one of the times is not after now, and otherwise the earliest of them; and
there is none only when there are no times. -/
theorem deadline_folds_agree {now : ℤ} {times : Multiset ℤ}
    (hnear : ∀ t ∈ times, now - 2 ^ 31 ≤ t ∧ t < now + 2 ^ 31) {candidates : List ℕ}
    (hreadings : (candidates : Multiset ℕ) = times.map (clockOf 32)) :
    let nowMs := clockOf 32 now
    let found := (deadline now times).map (clockOf 32)
    (foldDeadline (runtimeDeadlineAccumulate nowMs) candidates = found ∧
      foldDeadline (dispatcherDeadlineAccumulate nowMs) candidates = found ∧
      (∀ queue : QueueTables, queue.times = candidates → queue.nextScheduledGet nowMs = found) ∧
      (∀ c : Correlation, c.times = candidates → c.nextDeadlineGet nowMs = found) ∧
      ∀ ctx w, dispatcherTimes ctx w nowMs = candidates →
        (dispatcherNextDeadlineGet nowMs ctx w).1 = found) ∧
    ((∃ t ∈ times, t ≤ now) → deadline now times = some now) ∧
    (times ≠ 0 → (∀ t ∈ times, now < t) →
      ∃ t ∈ times, deadline now times = some t ∧ ∀ t' ∈ times, t ≤ t') ∧
    (deadline now times = none ↔ times = 0) := by
  intro nowMs found
  have hfound : (accumulateAll nowMs candidates none).2 = found :=
    accumulateAll_deadline hnear hreadings
  have hruntime : foldDeadline (runtimeDeadlineAccumulate nowMs) candidates = found :=
    foldDeadline_runtime.trans hfound
  refine ⟨⟨hruntime, ?_, ?_, ?_, ?_⟩, ?_, exists_deadline_eq, deadline_eq_none_iff⟩
  · rw [dispatcherDeadlineAccumulate_eq]
    exact hruntime
  · rintro queue rfl
    exact queue.nextScheduledGet_times.trans hfound
  · rintro c rfl
    exact hfound
  · rintro ctx w rfl
    exact dispatcherNextDeadlineGet_times.trans hfound
  · rintro ⟨t, ht, hdue⟩
    exact deadline_of_le ht hdue

/-- Across the wrap: of 2 and 5 milliseconds after it, seen from 3 before it. -/
theorem deadline_folds_agree_wrap :
    foldDeadline (runtimeDeadlineAccumulate 4294967293) [5, 2] = some 2 := by
  have hnear : ∀ t ∈ ({4294967301, 4294967298} : Multiset ℤ),
      (4294967293 : ℤ) - 2 ^ 31 ≤ t ∧ t < 4294967293 + 2 ^ 31 := by
    intro t ht
    simp only [Multiset.insert_eq_cons, Multiset.mem_cons, Multiset.mem_singleton] at ht
    omega
  have hreadings : (([5, 2] : List ℕ) : Multiset ℕ)
      = ({4294967301, 4294967298} : Multiset ℤ).map (clockOf 32) := rfl
  exact (deadline_folds_agree hnear hreadings).1.1

end Meshcore
