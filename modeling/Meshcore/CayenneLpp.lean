import Mathlib.Data.Nat.Bitwise
import Meshcore.Lib.Buf
import Meshcore.Lib.Records
import Meshcore.Types

/-!
# Cayenne LPP

`support/telemetry/meshcore_cayenne_lpp_compat.c`: telemetry as records of a channel, a type and a
value, whose length depends on the type. A record of the type polyline says its length in its first
byte. The parser of locations walks over the records as long as they are complete and of a type that
it knows, and reports the last position.

Reads of the payload are checked: `none` is a read outside it, or a walk that does not end. Sizes
are naturals: a buffer is so much smaller than the address space that no sum of sizes wraps.

## Main definitions

* `cayenneLppParseLocation` — the parser
* `LppRecord`, `lppFormat` — the records, as a format

## Main results

* `cayenneLppParseLocation_eq` — the walk of the parser in terms of the records
-/

namespace Meshcore

/-! ### The parser -/

abbrev lppAnalogInput : UInt8 := 2
abbrev lppTemperature : UInt8 := 103
abbrev lppRelativeHumidity : UInt8 := 104
abbrev lppBarometricPressure : UInt8 := 115
abbrev lppVoltage : UInt8 := 116
abbrev lppCurrent : UInt8 := 117
abbrev lppAltitude : UInt8 := 121
abbrev lppPower : UInt8 := 128
abbrev lppDistance : UInt8 := 130
abbrev lppGps : UInt8 := 136
abbrev lppPolyline : UInt8 := 240

/-- `cayenne_lpp_fixed_value_size`, which answers 0 for a type it does not know. -/
def cayenneLppFixedValueSize (type : UInt8) : ℕ :=
  match type.toNat with
  | 0 => 1 -- digital input
  | 1 => 1 -- digital output
  | 2 => 2 -- analog input
  | 3 => 2 -- analog output
  | 100 => 4 -- generic sensor
  | 101 => 2 -- luminosity
  | 102 => 1 -- presence
  | 103 => 2 -- temperature
  | 104 => 1 -- relative humidity
  | 113 => 6 -- accelerometer
  | 115 => 2 -- barometric pressure
  | 116 => 2 -- voltage
  | 117 => 2 -- current
  | 118 => 4 -- frequency
  | 120 => 1 -- percentage
  | 121 => 2 -- altitude
  | 125 => 2 -- concentration
  | 128 => 2 -- power
  | 130 => 4 -- distance
  | 131 => 4 -- energy
  | 132 => 2 -- direction
  | 133 => 4 -- unix time
  | 134 => 6 -- gyrometer
  | 135 => 3 -- colour
  | 136 => 9 -- gps
  | 142 => 1 -- switch
  | _ => 0

/-- `cayenne_lpp_value_size` of the value at `offset`: whether it is complete, and its size. -/
def cayenneLppValueSize (type : UInt8) (payload : List UInt8) (offset remaining : ℕ) :
    Option (Bool × ℕ) :=
  if type = lppPolyline then
    if remaining = 0 then some (false, 0)
    else do
      let first ← readAt payload offset
      let valueSize := first.toNat
      pure (decide (valueSize ≠ 0 ∧ valueSize ≤ remaining), valueSize)
  else
    let valueSize := cayenneLppFixedValueSize type
    some (decide (valueSize ≠ 0 ∧ valueSize ≤ remaining), valueSize)

/-- `cayenne_lpp_parse_s24_be` of the bytes at `offset`. -/
def cayenneLppParseS24Be (payload : List UInt8) (offset : ℕ) : Option Int32 := do
  let b0 ← readAt payload offset
  let b1 ← readAt payload (offset + 1)
  let b2 ← readAt payload (offset + 2)
  let value := (b0.toUInt32 <<< 16) ||| (b1.toUInt32 <<< 8) ||| b2.toUInt32
  pure (if value &&& 0x00800000 ≠ 0 then value ||| 0xFF000000 else value).toInt32

/-- `struct cayenne_lpp_location`. -/
structure CayenneLppLocation where
  hasLatitude : Bool
  latitudeE6 : Int32
  hasLongitude : Bool
  longitudeE6 : Int32
deriving DecidableEq

/-- No location. -/
def CayenneLppLocation.zero : CayenneLppLocation := ⟨false, 0, false, 0⟩

/-- The loop of `cayenne_lpp_parse_location`, for at most so many records. -/
def parseLocationLoop (payload : List UInt8) :
    ℕ → (offset : ℕ) → CayenneLppLocation → Option CayenneLppLocation
  | 0, _, _ => none
  | fuel + 1, offset, location =>
    if offset + 2 ≤ payload.length then do
      let type ← readAt payload (offset + 1)
      let offset := offset + 2
      let size ← cayenneLppValueSize type payload offset (payload.length - offset)
      if !size.1 then pure location
      else do
        let location ← (if type = lppGps then do
          let latE4 ← cayenneLppParseS24Be payload offset
          let lonE4 ← cayenneLppParseS24Be payload (offset + 3)
          pure ⟨true, latE4 * 100, true, lonE4 * 100⟩
        else some location)
        parseLocationLoop payload fuel (offset + size.2) location
    else some location

/-- `cayenne_lpp_parse_location`. The loop has fewer rounds than the payload has bytes. -/
def cayenneLppParseLocation (payload : List UInt8) : Option CayenneLppLocation :=
  if payload.length = 0 then some .zero
  else parseLocationLoop payload payload.length 0 .zero

/-! ### Records -/

/-- The size of the value that the bytes behind a type start with. -/
def lppValueSize (type : UInt8) (rest : List UInt8) : ℕ :=
  if type = lppPolyline then (rest.getD 0 0).toNat else cayenneLppFixedValueSize type

/-- A complete record: its value is as long as its type and its first byte say. -/
structure LppRecord where
  channel : UInt8
  type : UInt8
  value : List UInt8
  size_eq : lppValueSize type value = value.length
  size_ne_zero : value.length ≠ 0

/-- The bytes of a record. -/
def LppRecord.bytes (r : LppRecord) : List UInt8 := r.channel :: r.type :: r.value

/-- What the value is, only its own bytes say. -/
theorem lppValueSize_append {type : UInt8} {value rest : List UInt8} (h : value.length ≠ 0) :
    lppValueSize type (value ++ rest) = lppValueSize type value := by
  obtain ⟨first, value, rfl⟩ := List.exists_cons_of_length_pos (Nat.pos_of_ne_zero h)
  rfl

theorem lppValueSize_take {type : UInt8} {rest : List UInt8} {size : ℕ}
    (h : lppValueSize type rest = size) (hsize : size ≠ 0 ∧ size ≤ rest.length) :
    lppValueSize type (rest.take size) = size ∧ (rest.take size).length = size := by
  have hlen : (rest.take size).length = size := List.length_take_of_le hsize.2
  refine ⟨?_, hlen⟩
  rw [← @lppValueSize_append type (rest.take size) (rest.drop size) (hlen.trans_ne hsize.1),
    List.take_append_drop, h]

/-- The record that a text starts with. -/
def lppDecode : List UInt8 → Option (LppRecord × List UInt8)
  | channel :: type :: rest =>
    let size := lppValueSize type rest
    if h : size ≠ 0 ∧ size ≤ rest.length then
      have hvalue := lppValueSize_take rfl h
      some (⟨channel, type, rest.take size, hvalue.1.trans hvalue.2.symm, hvalue.2.trans_ne h.1⟩,
        rest.drop size)
    else none
  | _ => none

theorem lppDecode_eq_some {l rest : List UInt8} {r : LppRecord} :
    lppDecode l = some (r, rest) ↔ l = r.bytes ++ rest := by
  constructor
  · intro h
    match l with
    | [] | [_] => simp [lppDecode] at h
    | channel :: type :: tail =>
      simp only [lppDecode] at h
      split at h
      · simp only [Option.some.injEq, Prod.mk.injEq] at h
        obtain ⟨rfl, rfl⟩ := h
        simp [LppRecord.bytes]
      · simp at h
  · rintro rfl
    obtain ⟨channel, type, value, hsize, hne⟩ := r
    have hvalue : lppValueSize type (value ++ rest) = value.length :=
      (lppValueSize_append hne).trans hsize
    simp [LppRecord.bytes, lppDecode, hvalue, hne]

/-- The records as a format. -/
def lppFormat : RecordFormat UInt8 LppRecord where
  bytes := LppRecord.bytes
  decode := lppDecode
  decode_eq_some := lppDecode_eq_some
  bytes_ne_nil _ := by simp [LppRecord.bytes]

/-! ### Coordinates -/

/-- A big-endian word of three bytes. -/
def be24 (b0 b1 b2 : UInt8) : ℕ := b0.toNat * 65536 + b1.toNat * 256 + b2.toNat

/-- A signed big-endian word of three bytes, from index `i` on. -/
def signed24 (value : List UInt8) (i : ℕ) : ℤ :=
  (be24 (value.getD i 0) (value.getD (i + 1) 0) (value.getD (i + 2) 0) : ℤ).bmod (2 ^ 24)

/-- The coordinates of a record that has some: the first two words of its value, in steps of 100. -/
def LppRecord.coordinates (r : LppRecord) : Option (ℤ × ℤ) :=
  if r.type = lppGps then some (signed24 r.value 0 * 100, signed24 r.value 3 * 100) else none

/-- The last coordinates among some records. -/
def lastCoordinates (rs : List LppRecord) : Option (ℤ × ℤ) :=
  (rs.filterMap LppRecord.coordinates).getLast?

/-- What a location reports: both coordinates, or neither. -/
def CayenneLppLocation.Reports (location : CayenneLppLocation) : Option (ℤ × ℤ) → Prop
  | none => location = .zero
  | some c => location.hasLatitude = true ∧ location.hasLongitude = true ∧
    location.latitudeE6.toInt = c.1 ∧ location.longitudeE6.toInt = c.2

theorem be24_lt (b0 b1 b2 : UInt8) : be24 b0 b1 b2 < 2 ^ 24 := by
  have := b0.toNat_lt
  have := b1.toNat_lt
  have := b2.toNat_lt
  rw [be24]
  omega

/-- The three bytes put together. -/
theorem toNat_be24 (b0 b1 b2 : UInt8) :
    ((b0.toUInt32 <<< 16) ||| (b1.toUInt32 <<< 8) ||| b2.toUInt32).toNat = be24 b0 b1 b2 := by
  have h0 := b0.toNat_lt
  have h1 := b1.toNat_lt
  have h2 := b2.toNat_lt
  have hlow : b1.toNat <<< 8 ||| b2.toNat = b1.toNat * 256 + b2.toNat := by
    rw [← Nat.shiftLeft_add_eq_or_of_lt h2, Nat.shiftLeft_eq]
  have hhigh : b0.toNat <<< 16 ||| (b1.toNat * 256 + b2.toNat) = be24 b0 b1 b2 := by
    rw [← Nat.shiftLeft_add_eq_or_of_lt (by omega), Nat.shiftLeft_eq, be24, Nat.add_assoc]
  rw [UInt32.or_assoc, UInt32.toNat_or, UInt32.toNat_or, UInt32.toNat_shiftLeft,
    UInt32.toNat_shiftLeft]
  show b0.toNat <<< 16 % 2 ^ 32 ||| (b1.toNat <<< 8 % 2 ^ 32 ||| b2.toNat) = _
  rw [Nat.mod_eq_of_lt (by rw [Nat.shiftLeft_eq]; omega),
    Nat.mod_eq_of_lt (by rw [Nat.shiftLeft_eq]; omega), hlow, hhigh]

theorem toInt_toInt32_eq (value : UInt32) : value.toInt32.toInt = (value.toNat : ℤ).bmod (2 ^ 32) :=
  BitVec.toInt_eq_toNat_bmod value.toBitVec

/-- The sign of a word of 24 bits is extended. -/
theorem toInt_signExtend24 {value : UInt32} (h : value.toNat < 2 ^ 24) :
    (if value &&& 0x00800000 ≠ 0 then value ||| 0xFF000000 else value).toInt32.toInt
      = (value.toNat : ℤ).bmod (2 ^ 24) := by
  have hsign : value &&& 0x00800000 ≠ 0 ↔ 2 ^ 23 ≤ value.toNat := by
    rw [Ne, ← UInt32.toNat_inj, UInt32.toNat_and]
    show ¬value.toNat &&& 2 ^ 23 = 0 ↔ _
    rw [Nat.and_two_pow, Nat.testBit_eq_decide_div_mod_eq]
    cases hbit : decide (value.toNat / 2 ^ 23 % 2 = 1) <;> simp at hbit ⊢ <;> omega
  have hextend : (value ||| 0xFF000000).toNat = 0xFF000000 + value.toNat := by
    have hshift := Nat.shiftLeft_add_eq_or_of_lt h 255
    rw [UInt32.toNat_or, Nat.or_comm]
    exact hshift.symm
  have hsmall : value.toNat < 16777216 := h
  split
  · rename_i hneg
    rw [toInt_toInt32_eq, hextend]
    have := hsign.mp hneg
    rw [Int.bmod_def, Int.bmod_def]
    omega
  · rename_i hpos
    rw [toInt_toInt32_eq]
    have := mt hsign.mpr hpos
    rw [Int.bmod_def, Int.bmod_def]
    omega

/-- A hundred times a word of 24 bits fits 32 bits. -/
theorem toInt_ofInt_signed24 (value : List UInt8) (i : ℕ) :
    (Int32.ofInt (signed24 value i * 100)).toInt = signed24 value i * 100 := by
  have hlo : -8388608 ≤ signed24 value i := by
    have h := @Int.le_bmod (be24 (value.getD i 0) (value.getD (i + 1) 0) (value.getD (i + 2) 0))
      (2 ^ 24) (by decide)
    norm_num at h
    exact h
  have hhi : signed24 value i < 8388608 := by
    have h := @Int.bmod_lt (be24 (value.getD i 0) (value.getD (i + 1) 0) (value.getD (i + 2) 0))
      (2 ^ 24) (by decide)
    norm_num at h
    exact h
  rw [Int32.toInt_ofInt]
  exact Int.bmod_eq_of_le (by norm_num; omega) (by norm_num; omega)

theorem parseS24Be_eq {payload : List UInt8} {offset : ℕ} (h : offset + 3 ≤ payload.length) :
    ∃ x, cayenneLppParseS24Be payload offset = some x ∧
      x * 100 = Int32.ofInt (signed24 payload offset * 100) := by
  have hread : ∀ k < 3, readAt payload (offset + k) = some (payload.getD (offset + k) 0) := by
    intro k hk
    rw [readAt, List.getElem?_eq_getElem (by omega), List.getD_eq_getElem]
  have h0 : readAt payload offset = some (payload.getD offset 0) := hread 0 (by decide)
  have h1 := hread 1 (by decide)
  have h2 := hread 2 (by decide)
  rw [cayenneLppParseS24Be, h0, h1, h2]
  refine ⟨_, rfl, ?_⟩
  have hlt := be24_lt (payload.getD offset 0) (payload.getD (offset + 1) 0)
    (payload.getD (offset + 2) 0)
  rw [← toNat_be24] at hlt
  have hword := toInt_signExtend24 hlt
  rw [toNat_be24] at hword
  rw [← Int32.toInt_inj, Int32.toInt_mul, hword, Int32.toInt_ofInt]
  rfl

/-! ### The walk -/

/-- What a record changes in the location. -/
def LppRecord.report (location : CayenneLppLocation) (r : LppRecord) : CayenneLppLocation :=
  r.coordinates.elim location fun c => ⟨true, .ofInt c.1, true, .ofInt c.2⟩

/-- The size of a value, when what remains is the rest of the payload. -/
theorem cayenneLppValueSize_eq (type : UInt8) {payload : List UInt8} {offset : ℕ}
    (h : offset ≤ payload.length) :
    let size := lppValueSize type (payload.drop offset)
    cayenneLppValueSize type payload offset (payload.length - offset)
      = some (decide (size ≠ 0 ∧ size ≤ (payload.drop offset).length), size) := by
  rw [cayenneLppValueSize, lppValueSize, List.length_drop]
  split
  · split
    · rename_i hnone
      rw [List.drop_of_length_le (by omega)]
      simp
    · rename_i hsome
      have hread : readAt payload offset = some ((payload.drop offset).getD 0 0) := by
        rw [readAt, List.getElem?_eq_getElem (by omega), List.getD_eq_getElem _ _ (by
          rw [List.length_drop]
          omega)]
        simp
      rw [hread]
      rfl
  · rfl

theorem getD_of_drop_eq {payload value tail : List UInt8} {offset k : ℕ}
    (h : payload.drop offset = value ++ tail) (hk : k < value.length) :
    payload.getD (offset + k) 0 = value.getD k 0 := by
  rw [List.getD_eq_getElem?_getD, ← List.getElem?_drop, h, List.getElem?_append_left hk,
    ← List.getD_eq_getElem?_getD]

/-- What is found in the payload at the place of a record's value. -/
theorem signed24_of_drop_eq {payload value tail : List UInt8} {offset i : ℕ}
    (h : payload.drop offset = value ++ tail) (hi : i + 3 ≤ value.length) :
    signed24 payload (offset + i) = signed24 value i := by
  have h0 := getD_of_drop_eq h (show i < value.length by omega)
  have h1 := getD_of_drop_eq h (show i + 1 < value.length by omega)
  have h2 := getD_of_drop_eq h (show i + 2 < value.length by omega)
  rw [← Nat.add_assoc] at h1 h2
  unfold signed24
  rw [h0, h1, h2]

/-- The value of a position has room for two words. -/
theorem LppRecord.length_value_gps {r : LppRecord} (h : r.type = lppGps) : r.value.length = 9 := by
  have hfixed : cayenneLppFixedValueSize lppGps = 9 := by decide
  have hsize := r.size_eq
  rw [h, lppValueSize, if_neg (by decide), hfixed] at hsize
  exact hsize.symm

/-- Where no complete record of a known type starts, the loop stops. -/
theorem parseLocationLoop_stop {payload : List UInt8} {fuel offset : ℕ}
    (h : lppDecode (payload.drop offset) = none) (location : CayenneLppLocation) :
    parseLocationLoop payload (fuel + 1) offset location = some location := by
  rw [parseLocationLoop]
  split
  · rename_i hhead
    obtain ⟨channel, type, tail, htail⟩ : ∃ channel type tail,
        payload.drop offset = channel :: type :: tail := by
      refine ⟨payload[offset], payload[offset + 1], payload.drop (offset + 2), ?_⟩
      rw [List.drop_eq_getElem_cons (by omega), List.drop_eq_getElem_cons (by omega)]
    have hrest : payload.drop (offset + 2) = tail := by
      rw [← List.drop_drop, htail]
      rfl
    have htype : readAt payload (offset + 1) = some type := by
      rw [readAt, ← List.getElem?_drop, htail]
      rfl
    have hsize := @cayenneLppValueSize_eq type payload (offset + 2) hhead
    rw [hrest] at hsize
    rw [htail, lppDecode] at h
    have hshort : ¬(lppValueSize type tail ≠ 0 ∧ lppValueSize type tail ≤ tail.length) := by
      intro hfits
      rw [dif_pos hfits] at h
      cases h
    simp only [htype, hsize, decide_eq_false hshort, Option.bind_eq_bind, Option.bind_some,
      Option.pure_def, Bool.not_false, if_true]
  · rfl

/-- A complete record is reported, and the loop goes on behind it. -/
theorem parseLocationLoop_record {payload tail : List UInt8} {fuel offset : ℕ} {r : LppRecord}
    (h : payload.drop offset = r.bytes ++ tail) (location : CayenneLppLocation) :
    parseLocationLoop payload (fuel + 1) offset location
      = parseLocationLoop payload fuel (offset + r.bytes.length) (r.report location) := by
  have hlen := congrArg List.length h
  have hbytes : r.bytes.length = r.value.length + 2 := rfl
  rw [List.length_drop, List.length_append, hbytes] at hlen
  have hvalue : payload.drop (offset + 2) = r.value ++ tail := by
    rw [← List.drop_drop, h]
    rfl
  have htype : readAt payload (offset + 1) = some r.type := by
    rw [readAt, ← List.getElem?_drop, h]
    rfl
  have hsize := @cayenneLppValueSize_eq r.type payload (offset + 2) (by omega)
  have hown : lppValueSize r.type (r.value ++ tail) = r.value.length :=
    (lppValueSize_append r.size_ne_zero).trans r.size_eq
  have hfits : r.value.length ≠ 0 ∧ r.value.length ≤ (r.value ++ tail).length :=
    ⟨r.size_ne_zero, by simp⟩
  have hnext : offset + r.bytes.length = offset + 2 + r.value.length := by omega
  rw [hvalue, hown] at hsize
  rw [parseLocationLoop, if_pos (by omega), hnext]
  simp only [htype, hsize, decide_eq_true hfits, Option.bind_eq_bind, Option.bind_some,
    Option.pure_def, Bool.not_true, Bool.false_eq_true, if_false]
  split
  · rename_i hgps
    have hnine := r.length_value_gps hgps
    obtain ⟨lat, hlat, hlat'⟩ := @parseS24Be_eq payload (offset + 2) (by omega)
    obtain ⟨lon, hlon, hlon'⟩ := @parseS24Be_eq payload (offset + 2 + 3) (by omega)
    have h0 : signed24 payload (offset + 2) = signed24 r.value 0 :=
      signed24_of_drop_eq (i := 0) hvalue (by omega)
    have h3 : signed24 payload (offset + 2 + 3) = signed24 r.value 3 :=
      signed24_of_drop_eq hvalue (by omega)
    rw [h0] at hlat'
    rw [h3] at hlon'
    simp only [hlat, hlon, Option.bind_some, LppRecord.report, LppRecord.coordinates, hgps, if_true,
      Option.elim_some, hlat', hlon']
  · rename_i hother
    simp only [Option.bind_some, LppRecord.report, LppRecord.coordinates, if_neg hother,
      Option.elim_none]

/-- The loop walks over the records that the rest of the payload starts with. -/
theorem parseLocationLoop_eq {payload rest : List UInt8} {rs : List LppRecord} {fuel offset : ℕ}
    (h : lppFormat.Splits (payload.drop offset) rs rest) (hfuel : rs.length < fuel)
    (location : CayenneLppLocation) :
    parseLocationLoop payload fuel offset location = some (rs.foldl LppRecord.report location) := by
  induction rs generalizing fuel offset location with
  | nil =>
    obtain ⟨fuel, rfl⟩ := Nat.exists_eq_succ_of_ne_zero (Nat.ne_of_gt hfuel)
    have hstop := h.stop
    have heq := h.eq
    rw [RecordFormat.stream_nil, List.nil_append] at heq
    rw [← heq] at hstop
    exact parseLocationLoop_stop hstop location
  | cons r rs ih =>
    obtain ⟨fuel, rfl⟩ := Nat.exists_eq_succ_of_ne_zero (Nat.ne_of_gt (Nat.zero_lt_of_lt hfuel))
    have heq : payload.drop offset = r.bytes ++ (lppFormat.stream rs ++ rest) := by
      rw [h.eq, RecordFormat.stream_cons, List.append_assoc]
      rfl
    have hnext : payload.drop (offset + r.bytes.length) = lppFormat.stream rs ++ rest := by
      rw [← List.drop_drop, heq, List.drop_left]
    rw [parseLocationLoop_record heq]
    refine ih ⟨hnext, h.stop⟩ ?_ _
    rw [List.length_cons] at hfuel
    omega

/-- After the walk the location reports the last coordinates. -/
theorem reports_foldl (rs : List LppRecord) :
    (rs.foldl LppRecord.report .zero).Reports (lastCoordinates rs) := by
  induction rs using List.reverseRecOn with
  | nil => rfl
  | append_singleton rs r ih =>
    rw [List.foldl_append, List.foldl_cons, List.foldl_nil, lastCoordinates, List.filterMap_append]
    cases hc : r.coordinates with
    | none =>
      have hnone : [r].filterMap LppRecord.coordinates = [] := by simp [hc]
      rw [hnone, List.append_nil, LppRecord.report, hc]
      exact ih
    | some c =>
      have hone : [r].filterMap LppRecord.coordinates = [c] := by simp [hc]
      rw [hone, List.getLast?_concat, LppRecord.report, hc]
      rw [LppRecord.coordinates] at hc
      split at hc
      · obtain rfl := Option.some.inj hc
        exact ⟨rfl, rfl, toInt_ofInt_signed24 .., toInt_ofInt_signed24 ..⟩
      · cases hc

/-- A record has three bytes at least. -/
theorem length_lt_of_splits {payload rest : List UInt8} {rs : List LppRecord}
    (h : lppFormat.Splits payload rs rest) (hne : payload.length ≠ 0) :
    rs.length < payload.length := by
  have hstream : ∀ rs : List LppRecord, rs.length * 3 ≤ (lppFormat.stream rs).length := by
    intro rs
    induction rs with
    | nil => simp
    | cons r rs ih =>
      have hbytes : (lppFormat.bytes r).length = r.value.length + 2 := rfl
      have hvalue := r.size_ne_zero
      rw [RecordFormat.stream_cons, List.length_append, List.length_cons, hbytes]
      omega
  have hlen := congrArg List.length h.eq
  have := hstream rs
  rw [List.length_append] at hlen
  omega

/-- The parser walks over the records that the payload starts with. -/
theorem cayenneLppParseLocation_eq {payload rest : List UInt8} {rs : List LppRecord}
    (h : lppFormat.Splits payload rs rest) :
    cayenneLppParseLocation payload = some (rs.foldl LppRecord.report .zero) := by
  rw [cayenneLppParseLocation]
  split
  · rename_i hempty
    obtain rfl := List.length_eq_zero_iff.mp hempty
    have hnil : lppFormat.Splits [] [] [] := ⟨rfl, rfl⟩
    obtain ⟨rfl, -⟩ := h.unique hnil
    rfl
  · rename_i hne
    exact @parseLocationLoop_eq payload rest rs payload.length 0 h (length_lt_of_splits h hne) .zero

/-- **The parser meets its grammar.** It ends, reads only inside the payload, and reports the
coordinates of the last position in the longest stream of complete records that the payload starts
with, or nothing when there is none. -/
theorem cayenneLppParseLocation_grammar (payload : List UInt8) :
    ∃ rs rest location, payload = lppFormat.stream rs ++ rest ∧
      (∀ rs' rest', payload = lppFormat.stream rs' ++ rest' →
        (lppFormat.stream rs').length ≤ (lppFormat.stream rs).length) ∧
      cayenneLppParseLocation payload = some location ∧ location.Reports (lastCoordinates rs) := by
  obtain ⟨rs, rest, h⟩ := lppFormat.exists_splits payload
  exact ⟨rs, rest, _, h.eq, fun rs' rest' heq => h.length_le heq, cayenneLppParseLocation_eq h,
    reports_foldl rs⟩

example : cayenneLppParseLocation [1, 136, 0xFF, 0xFF, 0xFF, 0, 0, 2, 0, 0, 0, 1, 104, 55, 1, 99, 0]
    = some ⟨true, -100, true, 200⟩ := by decide

end Meshcore
