import Mathlib.Algebra.Order.Floor.Semifield
import Mathlib.Data.List.DropRight
import Mathlib.Tactic

/-!
# Decimal numerals

A numeral is an optional minus sign, a whole part, and a fraction behind a point, which is left out
when it is empty. `Decimal.value` reads a numeral, and answers nothing for a text that is none.

A numeral is canonical for a rational when it is its value, has the sign exactly when the rational
is negative, writes the whole part without leading zeros and the fraction without trailing ones.

## Main definitions

* `Decimal.pad` — a natural with zeros in front, up to a width
* `Decimal.trim` — a fraction without its trailing zeros
* `Decimal.text`, `Decimal.value` — the numeral of its parts, and its value
* `Decimal.Canonical` — the numeral that a rational has

## Main results

* `Decimal.value_text` — reading undoes writing
* `Decimal.canonical_text` — a numeral put together from a quotient and a trimmed remainder
-/

namespace Decimal

/-! ### Digits -/

/-- `n` in decimal, with zeros in front up to `width`. -/
def pad (width n : ℕ) : List Char :=
  List.replicate (width - (Nat.toDigits 10 n).length) '0' ++ Nat.toDigits 10 n

/-- A fraction without its trailing zeros. -/
def trim (frac : List Char) : List Char := frac.rdropWhile (· == '0')

theorem length_pad {width n : ℕ} (hwidth : 0 < width) (h : n < 10 ^ width) :
    (pad width n).length = width := by
  have hlen : (Nat.toDigits 10 n).length ≤ width :=
    (Nat.length_toDigits_le_iff (by decide) hwidth).mpr h
  rw [pad, List.length_append, List.length_replicate]
  omega

theorem ofDigitChars_pad (width n : ℕ) : Nat.ofDigitChars 10 (pad width n) 0 = n := by
  rw [pad, Nat.ofDigitChars_append, Nat.ofDigitChars_replicate_zero, Nat.mul_zero,
    Nat.ofDigitChars_ten_toDigits]

theorem isDigit_of_mem_pad {width n : ℕ} {c : Char} (h : c ∈ pad width n) : c.isDigit = true := by
  rcases List.mem_append.mp h with h | h
  · rw [(List.mem_replicate.mp h).2]
    decide
  · exact Nat.isDigit_of_mem_toDigits (by decide) (by decide) h

theorem trim_isPrefix (frac : List Char) : trim frac <+: frac := List.rdropWhile_prefix _ frac

/-- What is trimmed are zeros. -/
theorem trim_append (frac : List Char) :
    trim frac ++ List.replicate (frac.length - (trim frac).length) '0' = frac := by
  have hsplit : trim frac ++ frac.rtakeWhile (· == '0') = frac := List.rdropWhile_append_rtakeWhile
  have hzeros : frac.rtakeWhile (· == '0')
      = List.replicate (frac.length - (trim frac).length) '0' := by
    refine List.eq_replicate_iff.mpr ⟨?_, fun c hc => by simpa using List.mem_rtakeWhile_imp hc⟩
    have := congrArg List.length hsplit
    rw [List.length_append] at this
    omega
  rw [← hzeros]
  exact hsplit

theorem trim_getLast (frac : List Char) (h : trim frac ≠ []) : (trim frac).getLast h ≠ '0' := by
  have hlast : ¬((trim frac).getLast h == '0') = true := List.rdropWhile_last_not (· == '0') frac h
  simpa using hlast

/-- A trimmed fraction has the value of the whole. -/
theorem ofDigitChars_trim (frac : List Char) :
    Nat.ofDigitChars 10 frac 0
      = 10 ^ (frac.length - (trim frac).length) * Nat.ofDigitChars 10 (trim frac) 0 := by
  conv_lhs => rw [← trim_append frac]
  rw [Nat.ofDigitChars_append, Nat.ofDigitChars_replicate_zero]

/-! ### Numerals -/

/-- The numeral of its parts. -/
def text (negative : Bool) (whole frac : List Char) : List Char :=
  (if negative then ['-'] else []) ++ whole ++ (if frac = [] then [] else '.' :: frac)

/-- The parts of a text: whether it starts with a sign, and what stands before and after the first
point. -/
def parts (text : List Char) : Bool × List Char × List Char :=
  let negative := text.head? == some '-'
  let body := if negative then text.tail else text
  (negative, body.takeWhile (· != '.'), (body.dropWhile (· != '.')).tail)

/-- The value of a numeral. -/
def value (text : List Char) : Option ℚ :=
  let p := parts text
  if p.2.1 ≠ [] ∧ (p.2.1 ++ p.2.2).all Char.isDigit then
    let magnitude : ℚ := Nat.ofDigitChars 10 p.2.1 0
      + Nat.ofDigitChars 10 p.2.2 0 / 10 ^ p.2.2.length
    some (if p.1 then -magnitude else magnitude)
  else none

section

variable {negative : Bool} {whole frac : List Char}

theorem ne_of_isDigit {c d : Char} (hd : d.isDigit = false) (h : c.isDigit = true) : c ≠ d := by
  rintro rfl
  exact absurd h (by simp [hd])

/-- Reading finds the parts that were written. -/
theorem parts_text (hwhole : whole ≠ []) (hdigits : ∀ c ∈ whole, c.isDigit = true) :
    parts (text negative whole frac) = (negative, whole, frac) := by
  have hpoint : ∀ c ∈ whole, (c != '.') = true := fun c hc => by
    simpa using ne_of_isDigit (by decide) (hdigits c hc)
  have hbefore : (whole ++ if frac = [] then [] else '.' :: frac).takeWhile (· != '.') = whole := by
    rw [List.takeWhile_append_of_pos hpoint]
    split <;> simp
  have hafter : ((whole ++ if frac = [] then [] else '.' :: frac).dropWhile (· != '.')).tail
      = frac := by
    rw [List.dropWhile_append_of_pos hpoint]
    split
    · rename_i h
      simp [h]
    · simp
  cases negative with
  | true =>
    simp only [parts, text, if_true, List.cons_append, List.nil_append, List.head?_cons,
      beq_self_eq_true, List.tail_cons, hbefore, hafter]
  | false =>
    obtain ⟨c, rest, rfl⟩ := List.exists_cons_of_ne_nil hwhole
    have hsign : c ≠ '-' := ne_of_isDigit (by decide) (hdigits c (List.mem_cons_self ..))
    have hhead : ((c :: rest ++ if frac = [] then [] else '.' :: frac).head? == some '-')
        = false := by
      simpa using hsign
    simp only [parts, text, Bool.false_eq_true, if_false, List.nil_append, hhead, hbefore, hafter]

/-- The value of a numeral is put together from those of its parts. -/
theorem value_text (hwhole : whole ≠ []) (hdigits : ∀ c ∈ whole, c.isDigit = true)
    (hfrac : ∀ c ∈ frac, c.isDigit = true) :
    value (text negative whole frac) = some ((if negative then -1 else 1) *
      (Nat.ofDigitChars 10 whole 0 + Nat.ofDigitChars 10 frac 0 / 10 ^ frac.length : ℚ)) := by
  have hall : (whole ++ frac).all Char.isDigit = true :=
    List.all_eq_true.mpr fun c hc => (List.mem_append.mp hc).elim (hdigits c) (hfrac c)
  rw [value, parts_text hwhole hdigits]
  simp only [hall, hwhole, ne_eq, not_false_eq_true, and_self, if_true]
  cases negative <;> simp

end

/-- The numeral that a rational has: its sign, its whole part without leading zeros, and a fraction
without trailing zeros, which is left out when there is none. -/
structure Canonical (q : ℚ) (t : List Char) : Prop where
  parts : ∃ frac, t = text (decide (q < 0)) (Nat.toDigits 10 ⌊|q|⌋₊) frac ∧
    (∀ c ∈ frac, c.isDigit = true) ∧ ∀ h : frac ≠ [], frac.getLast h ≠ '0'
  value : value t = some q

/-- Different rationals have different numerals. -/
theorem Canonical.inj {q q' : ℚ} {t : List Char} (h : Canonical q t) (h' : Canonical q' t) :
    q = q' := by
  have := h.value.symm.trans h'.value
  exact Option.some.inj this

/-- A numeral put together from a quotient and the trimmed remainder. -/
theorem canonical_text {width n : ℕ} (hwidth : 0 < width) (negative : Bool)
    (hsign : negative = true → n ≠ 0) :
    Canonical ((if negative then -1 else 1) * ((n : ℚ) / 10 ^ width))
      (text negative (Nat.toDigits 10 (n / 10 ^ width)) (trim (pad width (n % 10 ^ width)))) := by
  have hpow : (0 : ℚ) < 10 ^ width := by positivity
  have hrem : n % 10 ^ width < 10 ^ width := Nat.mod_lt _ (by positivity)
  have hdigits : ∀ c ∈ Nat.toDigits 10 (n / 10 ^ width), c.isDigit = true :=
    fun c hc => Nat.isDigit_of_mem_toDigits (by decide) (by decide) hc
  have hfrac : ∀ c ∈ trim (pad width (n % 10 ^ width)), c.isDigit = true :=
    fun c hc => isDigit_of_mem_pad ((trim_isPrefix _).mem hc)
  have hwhole : ⌊(n : ℚ) / 10 ^ width⌋₊ = n / 10 ^ width := by
    exact_mod_cast Nat.floor_div_eq_div (K := ℚ) n (10 ^ width)
  have hmagnitude : (n : ℚ) / 10 ^ width = Nat.ofDigitChars 10 (Nat.toDigits 10 (n / 10 ^ width)) 0
      + Nat.ofDigitChars 10 (trim (pad width (n % 10 ^ width))) 0
        / 10 ^ (trim (pad width (n % 10 ^ width))).length := by
    have htrim := ofDigitChars_trim (pad width (n % 10 ^ width))
    have hle := (trim_isPrefix (pad width (n % 10 ^ width))).length_le
    rw [ofDigitChars_pad, length_pad hwidth hrem] at htrim
    rw [length_pad hwidth hrem] at hle
    generalize trim (pad width (n % 10 ^ width)) = frac at htrim hle ⊢
    have hsum : (n : ℚ) = 10 ^ width * (n / 10 ^ width : ℕ)
        + 10 ^ (width - frac.length) * Nat.ofDigitChars 10 frac 0 := by
      have := Nat.div_add_mod n (10 ^ width)
      rw [htrim] at this
      exact_mod_cast this.symm
    have hsplit : (10 : ℚ) ^ width = 10 ^ (width - frac.length) * 10 ^ frac.length := by
      rw [← pow_add, Nat.sub_add_cancel hle]
    rw [Nat.ofDigitChars_ten_toDigits, div_eq_iff hpow.ne', add_mul, div_mul_eq_mul_div, hsum]
    rw [eq_comm, hsplit]
    field_simp
  have habs : |(if negative then -1 else 1) * ((n : ℚ) / 10 ^ width)| = n / 10 ^ width := by
    have hnonneg : 0 ≤ (n : ℚ) / 10 ^ width := by positivity
    cases negative <;> simp [abs_of_nonneg hnonneg]
  have hneg : decide ((if negative then -1 else 1) * ((n : ℚ) / 10 ^ width) < 0) = negative := by
    cases negative with
    | true =>
      have hpos : 0 < (n : ℚ) / 10 ^ width :=
        div_pos (by exact_mod_cast Nat.pos_of_ne_zero (hsign rfl)) hpow
      simpa using hpos
    | false =>
      have hnonneg : 0 ≤ (n : ℚ) / 10 ^ width := by positivity
      simpa using hnonneg
  constructor
  · refine ⟨_, ?_, hfrac, trim_getLast _⟩
    rw [hneg, habs, hwhole]
  · rw [value_text Nat.toDigits_ne_nil hdigits hfrac, hmagnitude]

end Decimal
