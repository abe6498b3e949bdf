import Mathlib.Tactic

/-!
# Streams of self-delimiting records

Records are written one behind the other, and each says where it ends: what a text starts with is
the bytes of at most one record. Then a text splits in one way into records, as many as there are,
and a rest that starts with none. Every other split into records and a rest breaks off earlier.

## Main definitions

* `RecordFormat` — the bytes of a record, and the record a text starts with
* `RecordFormat.Splits` — a text is these records and a rest that starts with none

## Main results

* `RecordFormat.exists_splits` — every text splits
* `RecordFormat.Splits.prefix_of_eq` — every other split breaks off earlier
* `RecordFormat.Splits.append` — records in front of a text
-/

/-- The bytes of a record, none of them empty, and the record that a text starts with. -/
structure RecordFormat (α ρ : Type*) where
  bytes : ρ → List α
  decode : List α → Option (ρ × List α)
  decode_eq_some : ∀ {l : List α} {r : ρ} {rest : List α},
    decode l = some (r, rest) ↔ l = bytes r ++ rest
  bytes_ne_nil : ∀ r, bytes r ≠ []

namespace RecordFormat

variable {α ρ : Type*} (F : RecordFormat α ρ)

/-- The bytes of records one behind the other. -/
def stream (rs : List ρ) : List α := rs.flatMap F.bytes

@[simp] theorem stream_nil : F.stream [] = [] := rfl

@[simp] theorem stream_cons (r : ρ) (rs : List ρ) :
    F.stream (r :: rs) = F.bytes r ++ F.stream rs := by
  simp [stream]

@[simp] theorem stream_append (rs rs' : List ρ) :
    F.stream (rs ++ rs') = F.stream rs ++ F.stream rs' := by
  simp [stream]

/-- The text is these records and a rest that starts with no record. -/
structure Splits (l : List α) (rs : List ρ) (rest : List α) : Prop where
  eq : l = F.stream rs ++ rest
  stop : F.decode rest = none

theorem length_bytes_pos (r : ρ) : 0 < (F.bytes r).length :=
  List.length_pos_iff.mpr (F.bytes_ne_nil r)

variable {F}

/-- Records in front of a text that splits. -/
theorem Splits.append {l rest : List α} {rs : List ρ} (h : F.Splits l rs rest) (rs' : List ρ) :
    F.Splits (F.stream rs' ++ l) (rs' ++ rs) rest :=
  ⟨by rw [h.eq, stream_append, List.append_assoc], h.stop⟩

/-- Every text splits. -/
theorem exists_splits (F : RecordFormat α ρ) (l : List α) : ∃ rs rest, F.Splits l rs rest := by
  induction hn : l.length using Nat.strongRecOn generalizing l with
  | ind n ih =>
    cases hdecode : F.decode l with
    | none => exact ⟨[], l, rfl, hdecode⟩
    | some x =>
      have hl : l = F.bytes x.1 ++ x.2 := F.decode_eq_some.mp hdecode
      have hpos := F.length_bytes_pos x.1
      have hlen := congrArg List.length hl
      rw [List.length_append] at hlen
      obtain ⟨rs, rest, h⟩ := ih x.2.length (by omega) x.2 rfl
      refine ⟨x.1 :: rs, rest, ?_, h.stop⟩
      rw [hl, stream_cons, List.append_assoc, ← h.eq]

/-- Every other split into records and a rest breaks off earlier. -/
theorem Splits.prefix_of_eq {l rest rest' : List α} {rs rs' : List ρ} (h : F.Splits l rs rest)
    (heq : l = F.stream rs' ++ rest') : rs' <+: rs := by
  induction rs' generalizing l rs with
  | nil => exact List.nil_prefix
  | cons r' rs' ih =>
    rw [stream_cons, List.append_assoc] at heq
    have hdecode : F.decode l = some (r', F.stream rs' ++ rest') := F.decode_eq_some.mpr heq
    cases rs with
    | nil =>
      rw [h.eq] at hdecode
      simp [h.stop] at hdecode
    | cons r rs =>
      have hfirst : l = F.bytes r ++ (F.stream rs ++ rest) := by
        rw [h.eq, stream_cons, List.append_assoc]
      rw [F.decode_eq_some.mpr hfirst] at hdecode
      obtain ⟨rfl, htail⟩ := Prod.mk.inj (Option.some.inj hdecode)
      exact (List.cons_prefix_cons).mpr ⟨rfl, ih ⟨rfl, h.stop⟩ htail⟩

/-- A text splits in one way. -/
theorem Splits.unique {l rest rest' : List α} {rs rs' : List ρ} (h : F.Splits l rs rest)
    (h' : F.Splits l rs' rest') : rs = rs' ∧ rest = rest' := by
  have hrs : rs = rs' := (h'.prefix_of_eq h.eq).eq_of_length_le (h.prefix_of_eq h'.eq).length_le
  refine ⟨hrs, ?_⟩
  subst hrs
  exact List.append_cancel_left (h.eq.symm.trans h'.eq)

/-- What the last split leaves is the shortest. -/
theorem Splits.length_le {l rest rest' : List α} {rs rs' : List ρ} (h : F.Splits l rs rest)
    (heq : l = F.stream rs' ++ rest') : (F.stream rs').length ≤ (F.stream rs).length := by
  obtain ⟨more, hmore⟩ := h.prefix_of_eq heq
  rw [← hmore, stream_append, List.length_append]
  exact Nat.le_add_right ..

end RecordFormat
