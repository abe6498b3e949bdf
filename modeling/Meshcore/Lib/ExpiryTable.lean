import Mathlib.Data.Fintype.Card
import Mathlib.Logic.Function.Basic
import Mathlib.Tactic

/-!
# Tables of what is waited for

A table has a fixed number of slots, each free or with an entry and the time at which it was put
there. An entry is fresh for a fixed time, and then it has expired. An entry is put into a slot that
is free or has expired, if there is one, and otherwise over another entry; an answer with the key of
a fresh entry takes it out; and an expired entry may be dropped at any time.

What a table should do can be told without slots: the entries that are outstanding are those that
were put there and not answered. If there are never more fresh ones outstanding than there are
slots, and no two of them have the same key, then every answer that comes in time finds its entry,
once.

## Main definitions

* `TableStep` — one call on the table
* `outstanding` — what a log leaves
* `Roomy` — the table is never too small for the fresh entries of a log

## Main results

* `Stores.step` — what the table stores are the outstanding entries
* `TableRun.found_eq` — every answer is the one that the log says
* `TableRun.answered_once`
-/

/-- A call on a table of entries `α` with keys `κ`. -/
inductive TableCall (α κ : Type) where
  | register (a : α)
  | answer (k : κ)
  | cleanup
deriving DecidableEq

/-- A call, its time, and the entry that it found. -/
structure TableMark (α κ : Type) where
  time : ℕ
  call : TableCall α κ
  found : Option α

section

variable {ι α κ : Type} {key : α → κ} {life : ℕ}

/-- The entry has not expired. -/
def Fresh (life now : ℕ) (x : ℕ × α) : Prop := now < x.1 + life

instance (now : ℕ) (x : ℕ × α) : Decidable (Fresh life now x) := Nat.decLt ..

theorem Fresh.earlier {now later : ℕ} {x : ℕ × α} (h : Fresh life later x) (hle : now ≤ later) :
    Fresh life now x := lt_of_le_of_lt hle h

/-- A slot can be taken: it is free, or what is in it has expired. -/
def Vacant (life now : ℕ) (slot : Option (ℕ × α)) : Prop := ∀ x ∈ slot, ¬Fresh life now x

/-- A slot is as it was, or what was in it had expired and was dropped. -/
def DropsExpired (life now : ℕ) (before after : Option (ℕ × α)) : Prop :=
  after = before ∨ after = none ∧ Vacant life now before

theorem DropsExpired.eq_some {now : ℕ} {before after : Option (ℕ × α)} {x : ℕ × α}
    (h : DropsExpired life now before after) (hafter : after = some x) : before = some x := by
  rcases h with rfl | ⟨rfl, -⟩
  · exact hafter
  · cases hafter

theorem DropsExpired.keeps {now : ℕ} {before after : Option (ℕ × α)} {x : ℕ × α}
    (h : DropsExpired life now before after) (hbefore : before = some x)
    (hfresh : Fresh life now x) :
    after = some x := by
  rcases h with rfl | ⟨-, hvacant⟩
  · exact hbefore
  · exact absurd hfresh (hvacant x hbefore)

section

variable [DecidableEq ι] (key life)

/-- One call on the table: its slots before, what it found, and its slots after. -/
inductive TableStep (now : ℕ) :
    (ι → Option (ℕ × α)) → TableCall α κ → Option α → (ι → Option (ℕ × α)) → Prop
  | register {slots : ι → Option (ℕ × α)} {a : α} {i : ι}
    (h : (∃ j, Vacant life now (slots j)) → Vacant life now (slots i)) :
    TableStep now slots (.register a) none (Function.update slots i (some (now, a)))
  | answered {slots slots' : ι → Option (ℕ × α)} {x : ℕ × α} {i : ι} (hslot : slots i = some x)
    (hfresh : Fresh life now x) (hgone : slots' i = none)
    (hrest : ∀ j, j ≠ i → DropsExpired life now (slots j) (slots' j)) :
    TableStep now slots (.answer (key x.2)) (some x.2) slots'
  | unanswered {slots slots' : ι → Option (ℕ × α)} {k : κ}
    (hnone : ∀ i x, slots i = some x → Fresh life now x → key x.2 ≠ k)
    (hrest : ∀ j, DropsExpired life now (slots j) (slots' j)) :
    TableStep now slots (.answer k) none slots'
  | cleanup {slots slots' : ι → Option (ℕ × α)}
    (hrest : ∀ j, DropsExpired life now (slots j) (slots' j)) :
    TableStep now slots .cleanup none slots'

/-- The calls on a table that started empty, its slots and the time. -/
inductive TableRun : List (TableMark α κ) → (ι → Option (ℕ × α)) → ℕ → Prop
  | start (now : ℕ) : TableRun [] (fun _ => none) now
  | step {log : List (TableMark α κ)} {slots slots' : ι → Option (ℕ × α)} {before now : ℕ}
    {call : TableCall α κ} {found : Option α} (ht : TableRun log slots before) (hle : before ≤ now)
    (h : TableStep key life now slots call found slots') :
    TableRun (log ++ [⟨now, call, found⟩]) slots' now

end

/-! ### What the table stores -/

/-- The fresh entries of the table are those that are outstanding, each in one slot. -/
structure Stores (key : α → κ) (life now : ℕ) (slots : ι → Option (ℕ × α)) (out : List (ℕ × α)) :
    Prop where
  stored : ∀ x ∈ out, Fresh life now x → ∃ i, slots i = some x
  known : ∀ i x, slots i = some x → Fresh life now x → x ∈ out
  once : ∀ i j x y, slots i = some x → slots j = some y → Fresh life now x → Fresh life now y →
    key x.2 = key y.2 → i = j

variable {slots slots' : ι → Option (ℕ × α)} {out : List (ℕ × α)} {now : ℕ}

theorem Stores.later {before : ℕ} (h : Stores key life before slots out) (hle : before ≤ now) :
    Stores key life now slots out where
  stored x hx hfresh := h.stored x hx (hfresh.earlier hle)
  known i x hx hfresh := h.known i x hx (hfresh.earlier hle)
  once i j x y hx hy hxf hyf := h.once i j x y hx hy (hxf.earlier hle) (hyf.earlier hle)

theorem Stores.drops (h : Stores key life now slots out)
    (hrest : ∀ j, DropsExpired life now (slots j) (slots' j)) : Stores key life now slots' out where
  stored x hx hfresh := by
    obtain ⟨i, hi⟩ := h.stored x hx hfresh
    exact ⟨i, (hrest i).keeps hi hfresh⟩
  known i x hx hfresh := h.known i x ((hrest i).eq_some hx) hfresh
  once i j x y hx hy := h.once i j x y ((hrest i).eq_some hx) ((hrest j).eq_some hy)

/-- With fewer fresh entries outstanding than there are slots, some slot can be taken. -/
theorem Stores.exists_vacant [Fintype ι] (h : Stores key life now slots out)
    (hroom : out.countP (fun x => decide (Fresh life now x)) < Fintype.card ι) :
    ∃ i, Vacant life now (slots i) := by
  classical
  by_contra hfull
  simp only [not_exists, Vacant, not_forall, not_not, Option.mem_def] at hfull
  choose x hx hfresh using hfull
  have hinj : Function.Injective x := fun i j hij =>
    h.once i j _ _ (hx i) (hx j) (hfresh i) (hfresh j) (by rw [hij])
  let fresh := out.filter fun x => decide (Fresh life now x)
  have hmem : ∀ i ∈ Finset.univ, x i ∈ fresh.toFinset := by
    intro i _
    rw [List.mem_toFinset, List.mem_filter]
    exact ⟨h.known i _ (hx i) (hfresh i), decide_eq_true (hfresh i)⟩
  have hcard := Finset.card_le_card_of_injOn x hmem hinj.injOn
  have hle := fresh.toFinset_card_le
  rw [Finset.card_univ] at hcard
  rw [List.countP_eq_length_filter] at hroom
  exact absurd (hcard.trans hle) (not_le.mpr hroom)

/-- An entry is put into a slot that can be taken. -/
theorem Stores.register [Fintype ι] [DecidableEq ι] {a : α} {i : ι}
    (h : Stores key life now slots out)
    (hvacant : (∃ j, Vacant life now (slots j)) → Vacant life now (slots i))
    (hroom : out.countP (fun x => decide (Fresh life now x)) < Fintype.card ι)
    (hkey : ∀ x ∈ out, Fresh life now x → key x.2 ≠ key a) :
    Stores key life now (Function.update slots i (some (now, a))) (out ++ [(now, a)]) := by
  have hi : Vacant life now (slots i) := hvacant (h.exists_vacant hroom)
  -- what is in another slot was there before
  have hother : ∀ j x, Function.update slots i (some (now, a)) j = some x →
      j = i ∧ x = (now, a) ∨ j ≠ i ∧ slots j = some x := by
    intro j x hx
    rcases eq_or_ne j i with rfl | hne
    · rw [Function.update_self] at hx
      exact .inl ⟨rfl, (Option.some.inj hx).symm⟩
    · rw [Function.update_of_ne hne] at hx
      exact .inr ⟨hne, hx⟩
  refine ⟨fun x hx hfresh => ?_, fun j x hx hfresh => ?_, fun j j' x y hx hy hxf hyf hxy => ?_⟩
  · rcases List.mem_append.mp hx with hold | hnew
    · obtain ⟨j, hj⟩ := h.stored x hold hfresh
      have hne : j ≠ i := by
        rintro rfl
        exact hi x hj hfresh
      exact ⟨j, by rw [Function.update_of_ne hne, hj]⟩
    · rw [List.mem_singleton.mp hnew]
      exact ⟨i, Function.update_self ..⟩
  · rcases hother j x hx with ⟨-, rfl⟩ | ⟨-, hold⟩
    · exact List.mem_append_right _ (List.mem_singleton_self _)
    · exact List.mem_append_left _ (h.known j x hold hfresh)
  · rcases hother j x hx with ⟨rfl, rfl⟩ | ⟨-, hxold⟩ <;>
      rcases hother j' y hy with ⟨rfl, rfl⟩ | ⟨-, hyold⟩
    · rfl
    · exact absurd hxy.symm (hkey y (h.known j' y hyold hyf) hyf)
    · exact absurd hxy (hkey x (h.known j x hxold hxf) hxf)
    · exact h.once j j' x y hxold hyold hxf hyf hxy

/-- While there is a slot that can be taken, a registration leaves the fresh entries where they
are. -/
theorem TableStep.register_keeps [DecidableEq ι] {a : α} {found : Option α}
    (h : TableStep key life now slots (.register a) found slots')
    (hvacant : ∃ j, Vacant life now (slots j)) {i : ι} {x : ℕ × α} (hx : slots i = some x)
    (hfresh : Fresh life now x) : slots' i = some x := by
  cases h with
  | @register _ i₀ hfree =>
    have hne : i ≠ i₀ := by
      rintro rfl
      exact hfree hvacant x hx hfresh
    rw [Function.update_of_ne hne, hx]

section

variable [DecidableEq κ] (key life)

/-- What a call leaves of the outstanding entries. -/
def outstandingAfter (out : List (ℕ × α)) (m : TableMark α κ) : List (ℕ × α) :=
  match m.call with
  | .register a => out ++ [(m.time, a)]
  | .answer k => out.filter (key ·.2 ≠ k)
  | .cleanup => out

/-- The entries that were registered and not answered. -/
def outstanding (log : List (TableMark α κ)) : List (ℕ × α) := log.foldl (outstandingAfter key) []

theorem outstanding_append (log : List (TableMark α κ)) (m : TableMark α κ) :
    outstanding key (log ++ [m]) = outstandingAfter key (outstanding key log) m := by
  rw [outstanding, List.foldl_append]
  rfl

/-- Whenever an entry is registered, fewer fresh ones are outstanding than there are slots, and none
of them has its key. -/
def Roomy (slotCount : ℕ) (log : List (TableMark α κ)) : Prop :=
  ∀ l m r, log = l ++ m :: r → ∀ a, m.call = .register a →
    (outstanding key l).countP (fun x => decide (Fresh life m.time x)) < slotCount ∧
      ∀ x ∈ outstanding key l, Fresh life m.time x → key x.2 ≠ key a

/-- The entry that a log says is to be found. -/
def expected (out : List (ℕ × α)) (now : ℕ) : TableCall α κ → Option α
  | .answer k => (out.find? fun x => decide (Fresh life now x ∧ key x.2 = k)).map Prod.snd
  | _ => none

variable {key life}

theorem Roomy.of_append {n : ℕ} {log : List (TableMark α κ)} {m : TableMark α κ}
    (h : Roomy key life n (log ++ [m])) : Roomy key life n log := by
  rintro l m' r rfl a ha
  exact h l m' (r ++ [m]) (by simp) a ha

/-! ### One call -/

variable {slots slots' : ι → Option (ℕ × α)} {out : List (ℕ × α)} {now : ℕ}

theorem Stores.answered {x : ℕ × α} {i : ι} (h : Stores key life now slots out)
    (hslot : slots i = some x) (hfresh : Fresh life now x) (hgone : slots' i = none)
    (hrest : ∀ j, j ≠ i → DropsExpired life now (slots j) (slots' j)) :
    Stores key life now slots' (out.filter (key ·.2 ≠ key x.2)) := by
  have hbefore : ∀ j y, slots' j = some y → j ≠ i ∧ slots j = some y := by
    intro j y hy
    have hne : j ≠ i := by
      rintro rfl
      rw [hgone] at hy
      cases hy
    exact ⟨hne, (hrest j hne).eq_some hy⟩
  refine ⟨fun y hy hyf => ?_, fun j y hy hyf => ?_, fun j j' y z hy hz => ?_⟩
  · obtain ⟨hmem, hkey⟩ := List.mem_filter.mp hy
    obtain ⟨j, hj⟩ := h.stored y hmem hyf
    have hne : j ≠ i := by
      rintro rfl
      obtain rfl : x = y := Option.some.inj (hslot.symm.trans hj)
      exact of_decide_eq_true hkey rfl
    exact ⟨j, (hrest j hne).keeps hj hyf⟩
  · obtain ⟨hne, hold⟩ := hbefore j y hy
    refine List.mem_filter.mpr ⟨h.known j y hold hyf, decide_eq_true fun hkey => hne ?_⟩
    exact h.once j i y x hold hslot hyf hfresh hkey
  · exact h.once j j' y z (hbefore j y hy).2 (hbefore j' z hz).2

theorem Stores.unanswered {k : κ} (h : Stores key life now slots out)
    (hnone : ∀ i x, slots i = some x → Fresh life now x → key x.2 ≠ k)
    (hrest : ∀ j, DropsExpired life now (slots j) (slots' j)) :
    Stores key life now slots' (out.filter (key ·.2 ≠ k)) := by
  have hdrops := h.drops hrest
  refine ⟨fun x hx => hdrops.stored x (List.mem_of_mem_filter hx), fun j x hx hfresh => ?_,
    hdrops.once⟩
  refine List.mem_filter.mpr ⟨hdrops.known j x hx hfresh, decide_eq_true ?_⟩
  exact hnone j x ((hrest j).eq_some hx) hfresh

/-- One call keeps the table in step with what is outstanding, and finds what it should. -/
theorem Stores.step [Fintype ι] [DecidableEq ι] {call : TableCall α κ} {found : Option α}
    (h : Stores key life now slots out) (hstep : TableStep key life now slots call found slots')
    (hroom : ∀ a, call = .register a →
      out.countP (fun x => decide (Fresh life now x)) < Fintype.card ι ∧
        ∀ x ∈ out, Fresh life now x → key x.2 ≠ key a) :
    found = expected key life out now call ∧
      Stores key life now slots' (outstandingAfter key out ⟨now, call, found⟩) := by
  cases hstep with
  | @register a i hvacant =>
    obtain ⟨hfew, hkey⟩ := hroom a rfl
    exact ⟨rfl, h.register hvacant hfew hkey⟩
  | @answered _ x i hslot hfresh hgone hrest =>
    refine ⟨?_, h.answered hslot hfresh hgone hrest⟩
    rcases hfind : out.find? fun y => decide (Fresh life now y ∧ key y.2 = key x.2) with _ | y
    · have hnot := List.find?_eq_none.mp hfind x (h.known i x hslot hfresh)
      exact absurd (decide_eq_true ⟨hfresh, rfl⟩) hnot
    · have hfound := List.find?_some hfind
      obtain ⟨hyf, hkey⟩ : Fresh life now y ∧ key y.2 = key x.2 := of_decide_eq_true hfound
      obtain ⟨j, hj⟩ := h.stored y (List.mem_of_find?_eq_some hfind) hyf
      obtain rfl := h.once j i y x hj hslot hyf hfresh hkey
      obtain rfl : y = x := Option.some.inj (hj.symm.trans hslot)
      rw [expected, hfind]
      rfl
  | @unanswered _ k hnone hrest =>
    refine ⟨?_, h.unanswered hnone hrest⟩
    have hfind : (out.find? fun x => decide (Fresh life now x ∧ key x.2 = k)) = none := by
      refine List.find?_eq_none.mpr fun x hx hfound => ?_
      obtain ⟨hfresh, hkey⟩ := of_decide_eq_true hfound
      obtain ⟨i, hi⟩ := h.stored x hx hfresh
      exact hnone i x hi hfresh hkey
    rw [expected, hfind]
    rfl
  | cleanup hrest => exact ⟨rfl, h.drops hrest⟩

/-! ### All calls -/

variable [Fintype ι] [DecidableEq ι] {log l rest : List (TableMark α κ)} {a : α}

/-- A table with room stores what is outstanding. -/
theorem TableRun.stores (h : TableRun key life log slots now)
    (hroomy : Roomy key life (Fintype.card ι) log) :
    Stores key life now slots (outstanding key log) := by
  induction h with
  | start =>
    exact ⟨fun _ hx => absurd hx List.not_mem_nil, fun _ _ hx => (by cases hx),
      fun _ _ _ _ hx => (by cases hx)⟩
  | @step log slots slots' before now call found ht hle hstep ih =>
    have hstores := (ih hroomy.of_append).later hle
    rw [outstanding_append]
    exact (hstores.step hstep fun a ha => hroomy log ⟨now, call, found⟩ [] rfl a ha).2

omit [Fintype ι] [DecidableEq κ] in
/-- The times of a log go up to the time of the table. -/
theorem TableRun.times (h : TableRun key life log slots now) :
    log.Pairwise (fun m m' => m.time ≤ m'.time) ∧ ∀ m ∈ log, m.time ≤ now := by
  induction h with
  | start => exact ⟨.nil, fun _ hm => absurd hm List.not_mem_nil⟩
  | step ht hle hstep ih =>
    refine ⟨List.pairwise_append.mpr ⟨ih.1, List.pairwise_singleton _ _, ?_⟩, ?_⟩
    · intro m hm m' hm'
      rw [List.mem_singleton.mp hm']
      exact (ih.2 m hm).trans hle
    · intro m hm
      rcases List.mem_append.mp hm with hold | hnew
      · exact (ih.2 m hold).trans hle
      · rw [List.mem_singleton.mp hnew]

/-- Every answer finds what is outstanding. -/
theorem TableRun.found_eq (h : TableRun key life log slots now)
    (hroomy : Roomy key life (Fintype.card ι) log) {m : TableMark α κ}
    (hlog : log = l ++ m :: rest) :
    m.found = expected key life (outstanding key l) m.time m.call := by
  induction h generalizing rest with
  | start => exact absurd hlog.symm (List.append_ne_nil_of_right_ne_nil _ (List.cons_ne_nil _ _))
  | @step log slots slots' before now call found ht hle hstep ih =>
    rcases List.eq_nil_or_concat' rest with rfl | ⟨rest, m', rfl⟩
    · obtain ⟨rfl, hm⟩ := List.append_inj' hlog rfl
      obtain rfl : (⟨now, call, found⟩ : TableMark α κ) = m := (List.cons.inj hm).1
      have hstores := (ht.stores hroomy.of_append).later hle
      exact (hstores.step hstep fun a ha => hroomy log ⟨now, call, found⟩ [] rfl a ha).1
    · rw [← List.cons_append, ← List.append_assoc] at hlog
      exact ih hroomy.of_append (List.append_inj' hlog rfl).1

/-- What is registered stays outstanding until it is answered. -/
theorem mem_outstanding_append {x : ℕ × α} (hx : x ∈ outstanding key l)
    (hnone : ∀ m ∈ rest, m.call ≠ .answer (key x.2)) : x ∈ outstanding key (l ++ rest) := by
  induction rest using List.reverseRecOn with
  | nil => rwa [List.append_nil]
  | append_singleton rest m ih =>
    have hmem := ih fun m' hm' => hnone m' (List.mem_append_left _ hm')
    have hm := hnone m (List.mem_append_right _ (List.mem_singleton_self m))
    rw [← List.append_assoc, outstanding_append, outstandingAfter]
    split
    · exact List.mem_append_left _ hmem
    · rename_i k hcall
      refine List.mem_filter.mpr ⟨hmem, decide_eq_true ?_⟩
      rintro rfl
      exact hm hcall
    · exact hmem

/-- What is outstanding with a key was so before, when nothing with the key was registered since. -/
theorem mem_outstanding_of_append {x : ℕ × α} (hx : x ∈ outstanding key (l ++ rest))
    (hnone : ∀ m ∈ rest, ∀ b, m.call = .register b → key b ≠ key x.2) :
    x ∈ outstanding key l ∧ ∀ m ∈ rest, m.call ≠ .answer (key x.2) := by
  induction rest using List.reverseRecOn with
  | nil => exact ⟨by rwa [List.append_nil] at hx, fun _ hm => absurd hm List.not_mem_nil⟩
  | append_singleton rest m ih =>
    have hm := hnone m (List.mem_append_right _ (List.mem_singleton_self m))
    rw [← List.append_assoc, outstanding_append, outstandingAfter] at hx
    have hbefore : x ∈ outstanding key (l ++ rest) ∧ m.call ≠ .answer (key x.2) := by
      split at hx
      · rename_i b hcall
        rcases List.mem_append.mp hx with hold | hnew
        · exact ⟨hold, by simp [hcall]⟩
        · rw [List.mem_singleton.mp hnew] at hm
          exact absurd rfl (hm b hcall)
      · rename_i k hcall
        obtain ⟨hold, hkey⟩ := List.mem_filter.mp hx
        refine ⟨hold, ?_⟩
        rw [hcall]
        rintro ⟨⟩
        exact of_decide_eq_true hkey rfl
      · rename_i hcall
        exact ⟨hx, by simp [hcall]⟩
    obtain ⟨hl, hrest⟩ := ih hbefore.1 fun m' hm' => hnone m' (List.mem_append_left _ hm')
    refine ⟨hl, fun m' hm' => ?_⟩
    rcases List.mem_append.mp hm' with hold | hnew
    · exact hrest m' hold
    · rw [List.mem_singleton.mp hnew]
      exact hbefore.2

/-- Nothing is expected for a key that was answered and not registered since. -/
theorem expected_of_answered {e : TableMark α κ} {k : κ} {scheduledFor : ℕ}
    (hcall : e.call = .answer k) (hnone : ∀ m ∈ rest, ∀ b, m.call = .register b → key b ≠ k) :
    expected key life (outstanding key (l ++ e :: rest)) scheduledFor (.answer k) = none := by
  rw [expected, Option.map_eq_none_iff]
  refine List.find?_eq_none.mpr fun x hx hfound => ?_
  obtain ⟨-, rfl⟩ : Fresh life scheduledFor x ∧ key x.2 = k := of_decide_eq_true hfound
  have hregister : ∀ m ∈ e :: rest, ∀ b, m.call = .register b → key b ≠ key x.2 := by
    refine List.forall_mem_cons.mpr ⟨fun b hb => ?_, hnone⟩
    rw [hcall] at hb
    cases hb
  exact (mem_outstanding_of_append hx hregister).2 e (List.mem_cons_self ..) hcall

/-- What an answer with this key found. -/
def TableMark.foundFor (k : κ) (m : TableMark α κ) : Option α :=
  match m.call with
  | .answer k' => if k' = k then m.found else none
  | _ => none

theorem TableMark.foundFor_eq_none {k : κ} {m : TableMark α κ} (h : m.call ≠ .answer k) :
    m.foundFor k = none := by
  rw [foundFor]
  split
  · rename_i k' hcall
    refine if_neg ?_
    rintro rfl
    exact h hcall
  · rfl

theorem TableMark.foundFor_answer {k : κ} {m : TableMark α κ} (h : m.call = .answer k) :
    m.foundFor k = m.found := by
  rw [foundFor, h]
  exact if_pos rfl

/-- **Answered once.** In a table that is never too small, an entry whose key is not registered
again is found by the first answer with its key, if that comes in time, and by no other. -/
theorem TableRun.answered_once (h : TableRun key life log slots now)
    (hroomy : Roomy key life (Fintype.card ι) log) {since : ℕ} {found : Option α}
    (hlog : log = l ++ ⟨since, .register a, found⟩ :: rest)
    (honly : ∀ m ∈ rest, ∀ b, m.call = .register b → key b ≠ key a)
    (hin : ∃ m ∈ rest, m.call = .answer (key a) ∧ m.time < since + life) :
    rest.filterMap (TableMark.foundFor (key a)) = [a] := by
  classical
  obtain ⟨e₀, he₀, hcall₀, htime₀⟩ := hin
  -- the first answer with the key
  obtain ⟨e, hfirst⟩ : ∃ e, rest.find? (fun m => decide (m.call = .answer (key a))) = some e :=
    Option.isSome_iff_exists.mp (List.find?_isSome.mpr ⟨e₀, he₀, decide_eq_true hcall₀⟩)
  obtain ⟨hcall, before, after, rfl, hbefore⟩ := List.find?_eq_some_iff_append.mp hfirst
  have hcall : e.call = .answer (key a) := of_decide_eq_true hcall
  have hbefore : ∀ m ∈ before, m.call ≠ .answer (key a) := fun m hm => by simpa using hbefore m hm
  have htimes := h.times.1
  rw [hlog] at htimes
  obtain ⟨hsince, hsorted⟩ := List.pairwise_cons.mp (List.pairwise_append.mp htimes).2.1
  have hafter := (List.pairwise_cons.mp (List.pairwise_append.mp hsorted).2.1).1
  have htime : e.time < since + life := by
    rcases List.mem_append.mp he₀ with hmem | hmem
    · exact absurd hcall₀ (hbefore e₀ hmem)
    · rcases List.mem_cons.mp hmem with rfl | hmem
      · exact htime₀
      · exact (hafter e₀ hmem).trans_lt htime₀
  let reg : TableMark α κ := ⟨since, .register a, found⟩
  have hregister : outstanding key (l ++ [reg]) = outstanding key l ++ [(since, a)] :=
    outstanding_append key l reg
  -- it finds the entry
  have hfound : e.found = some a := by
    have hsplit : log = (l ++ [reg] ++ before) ++ e :: after := by simp [hlog, reg]
    have hmem : (since, a) ∈ outstanding key (l ++ [reg] ++ before) :=
      mem_outstanding_append (by rw [hregister]; simp) hbefore
    have hunique : ∀ x ∈ outstanding key (l ++ [reg] ++ before),
        Fresh life e.time x ∧ key x.2 = key a → x = (since, a) := by
      rintro x hx ⟨hfresh, hkey⟩
      have hx' := (mem_outstanding_of_append hx fun m hm b hb => by
        rw [hkey]
        exact honly m (List.mem_append_left _ hm) b hb).1
      rw [hregister] at hx'
      rcases List.mem_append.mp hx' with hold | hnew
      · have hle : since ≤ e.time := hsince e (List.mem_append_right _ (List.mem_cons_self ..))
        exact absurd hkey ((hroomy l reg _ hlog a rfl).2 x hold (hfresh.earlier hle))
      · exact List.mem_singleton.mp hnew
    rw [h.found_eq hroomy hsplit, hcall, expected]
    rcases hfind : (outstanding key (l ++ [reg] ++ before)).find? fun x =>
        decide (Fresh life e.time x ∧ key x.2 = key a) with _ | x
    · exact absurd (decide_eq_true ⟨htime, rfl⟩) (List.find?_eq_none.mp hfind (since, a) hmem)
    · have hx := List.find?_some hfind
      rw [hunique x (List.mem_of_find?_eq_some hfind) (of_decide_eq_true hx)]
      rfl
  have hnone : ∀ m ∈ after, m.foundFor (key a) = none := by
    intro m hm
    by_cases hm' : m.call = .answer (key a)
    · obtain ⟨p, q, rfl⟩ := List.append_of_mem hm
      have hsplit : log = (l ++ reg :: before ++ e :: p) ++ m :: q := by simp [hlog, reg]
      rw [TableMark.foundFor_answer hm', h.found_eq hroomy hsplit, hm']
      exact expected_of_answered hcall fun m' hm' => honly m' (by simp [hm'])
    · exact TableMark.foundFor_eq_none hm'
  rw [List.filterMap_append, List.filterMap_cons, TableMark.foundFor_answer hcall, hfound,
    List.filterMap_eq_nil_iff.mpr fun m hm => TableMark.foundFor_eq_none (hbefore m hm),
    List.filterMap_eq_nil_iff.mpr hnone]
  rfl

end

end
