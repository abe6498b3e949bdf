import Meshcore.Lib.Decimal

/-!
# Text helpers

`support/meshcore_txt_data.c`: the text of a number with at most three decimals. The number is
rounded to thousandths, the quotient and the remainder by a thousand are printed one after the
other, and zeros at the end are cut off.

The quotient of a negative number above -1 is 0, and 0 is printed without a sign.

## Main definitions

* `txtFtoa3`, `txtFtoa3Of` — from a `float`, and from its thousandths

## Main results

* `txtFtoa3Of_eq` — the numeral that is written
* `txtFtoa3Of_canonical_iff` — when it is the number's own
-/

namespace Meshcore

/-- `snprintf` of a text: what does not fit in front of the terminating zero is cut off. -/
def snprintf (destLen : ℕ) (text : List Char) : List Char := text.take (destLen - 1)

/-- `%d`. -/
def printInt (n : Int32) : List Char :=
  (if n < 0 then ['-'] else []) ++ Nat.toDigits 10 n.toInt.natAbs

/-- The last two loops of `meshcore_txt_ftoa3`: zeros at the end go, and then a point. -/
def trimDecimals (dest : List Char) : List Char :=
  let dest := dest.rdropWhile (· == '0')
  if dest.getLast? = some '.' then dest.dropLast else dest

/-- `meshcore_txt_ftoa3` after the rounding step. -/
def txtFtoa3Of (scaled : Int32) (destLen : ℕ) : List Char :=
  let whole := scaled / 1000
  let decimals := scaled % 1000
  let decimals := if decimals < 0 then -decimals else decimals
  trimDecimals (snprintf destLen (printInt whole ++ '.' :: Decimal.pad 3 decimals.toInt.toNat))

/-- The rounding step: thousandths, a half away from zero, in `float` arithmetic. -/
def ftoa3Scaled (roundFloat : ℚ → ℚ) (value : ℚ) : ℤ :=
  let x := roundFloat (roundFloat (value * 1000) + if value ≥ 0 then 1 / 2 else -1 / 2)
  x.num.tdiv x.den

/-- `meshcore_txt_ftoa3`. -/
def txtFtoa3 (roundFloat : ℚ → ℚ) (value : ℚ) (destLen : ℕ) : List Char :=
  if destLen = 0 then [] else txtFtoa3Of (Int32.ofInt (ftoa3Scaled roundFloat value)) destLen

/-! ### The numeral -/

/-- Only the decimals are trimmed, and the point when none are left. -/
theorem trimDecimals_append (whole : List Char) {decimals : List Char}
    (hdigits : ∀ c ∈ decimals, c.isDigit = true) :
    trimDecimals (whole ++ '.' :: decimals)
      = whole ++ if Decimal.trim decimals = [] then [] else '.' :: Decimal.trim decimals := by
  have hrest : (whole ++ '.' :: decimals).rdropWhile (· == '0')
      = whole ++ '.' :: Decimal.trim decimals := by
    rw [Decimal.trim, List.rdropWhile, List.rdropWhile, List.reverse_append, List.reverse_cons,
      List.append_assoc, List.dropWhile_append]
    split
    · rename_i h
      rw [List.isEmpty_iff.mp h]
      simp
    · simp
  rw [trimDecimals, hrest]
  rcases List.eq_nil_or_concat (Decimal.trim decimals) with h | ⟨front, last, h⟩
  · simp [h]
  · have hmem : last ∈ decimals := (Decimal.trim_isPrefix decimals).mem (by simp [h])
    have hpoint : last ≠ '.' := Decimal.ne_of_isDigit (by decide) (hdigits last hmem)
    have hsplit : whole ++ '.' :: front.concat last = (whole ++ '.' :: front) ++ [last] := by
      simp
    have hlast : (whole ++ '.' :: front ++ [last]).getLast? ≠ some '.' := by
      rw [List.getLast?_concat]
      simpa using hpoint
    rw [h, hsplit, if_neg hlast, if_neg (by simp), ← hsplit]

/-- The quotient and the remainder by a thousand, in machine arithmetic. -/
theorem thousandths (v : Int32) :
    (v / 1000).toInt = v.toInt.tdiv 1000 ∧
      (if v % 1000 < 0 then -(v % 1000) else v % 1000).toInt = (v.toInt.natAbs % 1000 : ℕ) := by
  have hrem : (v % 1000).toInt = v.toInt.tmod 1000 := Int32.toInt_mod ..
  have hlt : |v.toInt.tmod 1000| < 1000 := by
    rw [Int.abs_eq_natAbs, Int.natAbs_tmod]
    exact_mod_cast Nat.mod_lt _ (by decide)
  constructor
  · exact Int32.toInt_div_of_ne_right v 1000 (by decide)
  · have hcond : v % 1000 < 0 ↔ v.toInt.tmod 1000 < 0 := by
      rw [Int32.lt_iff_toInt_lt, hrem]
      rfl
    have habs : (v.toInt.natAbs % 1000 : ℕ) = |v.toInt.tmod 1000| := by
      rw [Int.abs_eq_natAbs, Int.natAbs_tmod]
      rfl
    rw [habs]
    obtain ⟨hlo, hhi⟩ := abs_lt.mp hlt
    split
    · rename_i h
      rw [Int32.toInt_neg, hrem, abs_of_neg (hcond.mp h)]
      exact Int.bmod_eq_of_le (by omega) (by omega)
    · rename_i h
      rw [hrem, abs_of_nonneg (not_lt.mp fun hneg => h (hcond.mpr hneg))]

/-- What is written: the sign of the quotient, its digits, and the decimals without the zeros at
their end. -/
theorem txtFtoa3Of_eq (v : Int32) {destLen : ℕ} (hlen : 16 ≤ destLen) :
    txtFtoa3Of v destLen = Decimal.text (decide (v.toInt ≤ -1000))
      (Nat.toDigits 10 (v.toInt.natAbs / 1000))
      (Decimal.trim (Decimal.pad 3 (v.toInt.natAbs % 1000))) := by
  obtain ⟨hwhole, hdecimals⟩ := thousandths v
  have hsign : v / 1000 < 0 ↔ v.toInt ≤ -1000 := by
    rw [Int32.lt_iff_toInt_lt, hwhole]
    show v.toInt.tdiv 1000 < 0 ↔ _
    have hone : (1000 : ℤ).sign = 1 := rfl
    rw [Int.tdiv_eq_ediv, hone]
    split <;> omega
  have hprint : printInt (v / 1000) = (if v.toInt ≤ -1000 then ['-'] else []) ++
      Nat.toDigits 10 (v.toInt.natAbs / 1000) := by
    rw [printInt, hwhole, Int.natAbs_tdiv]
    simp only [hsign]
    rfl
  have hfits : (printInt (v / 1000) ++ '.' :: Decimal.pad 3 (v.toInt.natAbs % 1000)).length
      ≤ destLen - 1 := by
    have hdigits : (Nat.toDigits 10 (v.toInt.natAbs / 1000)).length ≤ 7 := by
      rw [Nat.length_toDigits_le_iff (by decide) (by decide)]
      have := v.le_toInt
      have := v.toInt_lt
      omega
    have hpad := @Decimal.length_pad 3 (v.toInt.natAbs % 1000) (by decide)
      (Nat.mod_lt _ (by decide))
    have hone : (if v.toInt ≤ -1000 then ['-'] else []).length ≤ 1 := by split <;> simp
    rw [hprint, List.length_append, List.length_append, List.length_cons, hpad]
    omega
  rw [txtFtoa3Of]
  simp only [hdecimals, Int.toNat_natCast]
  rw [snprintf, List.take_of_length_le hfits,
    trimDecimals_append _ fun c hc => Decimal.isDigit_of_mem_pad hc, hprint, Decimal.text]
  simp only [decide_eq_true_eq]

/-- The numeral is read back as the thousandths, but for the sign of a number above -1. -/
theorem txtFtoa3Of_canonical (v : Int32) {destLen : ℕ} (hlen : 16 ≤ destLen) :
    Decimal.Canonical ((if v.toInt ≤ -1000 then -1 else 1) * ((v.toInt.natAbs : ℚ) / 10 ^ 3))
      (txtFtoa3Of v destLen) := by
  have hnumeral := @Decimal.canonical_text 3 v.toInt.natAbs (by decide) (decide (v.toInt ≤ -1000))
    (fun h => by
      have := of_decide_eq_true h
      omega)
  rw [txtFtoa3Of_eq v hlen]
  simpa using hnumeral

/-- **The text of a number.** The numeral has at most three decimals, and it is the number's own for
all thousandths but those between -1 and 0, whose sign is lost. Among the others, different numbers
have different texts. -/
theorem txtFtoa3Of_canonical_iff (v : Int32) {destLen : ℕ} (hlen : 16 ≤ destLen) :
    (Decimal.Canonical (v.toInt / 1000) (txtFtoa3Of v destLen) ↔ 0 ≤ v.toInt ∨ v.toInt ≤ -1000) ∧
      (Decimal.parts (txtFtoa3Of v destLen)).2.2.length ≤ 3 ∧
      ∀ v' : Int32, (0 ≤ v.toInt ∨ v.toInt ≤ -1000) → (0 ≤ v'.toInt ∨ v'.toInt ≤ -1000) →
        txtFtoa3Of v destLen = txtFtoa3Of v' destLen → v = v' := by
  have hcanonical : ∀ v : Int32,
      Decimal.Canonical (v.toInt / 1000) (txtFtoa3Of v destLen) ↔ 0 ≤ v.toInt ∨
      v.toInt ≤ -1000 := by
    intro v
    have hwritten := txtFtoa3Of_canonical v hlen
    have hvalue : (v.toInt : ℚ) / 1000
        = (if v.toInt ≤ -1000 then -1 else 1) * ((v.toInt.natAbs : ℚ) / 10 ^ 3) ↔
          0 ≤ v.toInt ∨ v.toInt ≤ -1000 := by
      obtain ⟨n, hv | hv⟩ := Int.eq_nat_or_neg v.toInt
      · have hpos : ¬(n : ℤ) ≤ -1000 := by omega
        rw [hv, if_neg hpos, one_mul, Int.natAbs_natCast, Int.cast_natCast]
        exact iff_of_true (by norm_num) (.inl (by omega))
      · rw [hv, Int.natAbs_neg, Int.natAbs_natCast, Int.cast_neg, Int.cast_natCast]
        split
        · exact iff_of_true (by ring) (.inr (by assumption))
        · rename_i hsmall
          have hzero : -(n : ℚ) / 1000 = 1 * (n / 10 ^ 3) ↔ n = 0 := by
            constructor
            · intro h
              have : (n : ℚ) = 0 := by linarith
              exact_mod_cast this
            · intro h
              simp [h]
          rw [hzero]
          omega
    constructor
    · intro h
      exact hvalue.mp (h.inj hwritten)
    · intro h
      rw [hvalue.mpr h]
      exact hwritten
  refine ⟨hcanonical v, ?_, fun v' hv hv' htext => ?_⟩
  · have hpad := @Decimal.length_pad 3 (v.toInt.natAbs % 1000) (by decide)
      (Nat.mod_lt _ (by decide))
    rw [txtFtoa3Of_eq v hlen, Decimal.parts_text Nat.toDigits_ne_nil
      fun c hc => Nat.isDigit_of_mem_toDigits (by decide) (by decide) hc]
    exact (Decimal.trim_isPrefix _).length_le.trans_eq hpad
  · have h := (hcanonical v).mpr hv
    rw [htext] at h
    have hq := h.inj ((hcanonical v').mpr hv')
    have hsame : (v.toInt : ℚ) = v'.toInt := by linarith
    exact Int32.toInt_inj.mp (by exact_mod_cast hsame)

theorem txtFtoa3Of_canonical_iff_sixteen :
    (Decimal.Canonical ((-1500 : Int32).toInt / 1000) (txtFtoa3Of (-1500) 16) ↔
      0 ≤ (-1500 : Int32).toInt ∨ (-1500 : Int32).toInt ≤ -1000) ∧
    txtFtoa3Of (-1500) 16 = ['-', '1', '.', '5'] :=
  ⟨(txtFtoa3Of_canonical_iff (-1500) (le_refl 16)).1, by decide +kernel⟩

/-- A half and minus a half have the same text. -/
theorem txtFtoa3Of_half :
    txtFtoa3Of (-500) 16 = ['0', '.', '5'] ∧ txtFtoa3Of 500 16 = ['0', '.', '5'] ∧
      ¬∀ v : Int32, ∀ destLen, 16 ≤ destLen →
        Decimal.value (txtFtoa3Of v destLen) = some (v.toInt / 1000 : ℚ) := by
  refine ⟨by decide +kernel, by decide +kernel, fun h => ?_⟩
  have hvalue : Decimal.value (txtFtoa3Of (-500) 16) ≠ some ((-500 : Int32).toInt / 1000 : ℚ) := by
    decide +kernel
  exact hvalue (h (-500) 16 le_rfl)

end Meshcore
