import Meshcore.CayenneLpp
import Meshcore.Lib.Writes

/-!
# Writing Cayenne LPP

The writers of `support/telemetry/meshcore_cayenne_lpp_compat.c`: nine for fields of one number,
which share `cayenne_lpp_add_field`, and one for a position. A call adds one record, or has no room
for it and changes nothing.

Writes into the array are checked: `none` is a write outside it.

## Main definitions

* `CayenneLppWriter` — an array, and how much of it is used
* `LppAdd`, `LppAdd.run`, `runAdds` — the calls, and runs of them

## Main results

* `LppAdd.run_eq` — what a call does
* `runAdds_written` — the writer holds the records of the calls that succeeded
* `parseLocation_runAdds` — the parser finds the last position that was added
-/

namespace Meshcore

abbrev eNOSPC : ℤ := -28

/-! ### The writer -/

/-- `struct cayenne_lpp_writer`, over an array of `cap` bytes. -/
@[ext]
structure CayenneLppWriter (cap : ℕ) where
  buf : Buf cap
  len : ℕ
  len_le : len ≤ cap

namespace CayenneLppWriter

variable {cap : ℕ}

/-- `cayenne_lpp_init`. -/
def init (buf : Buf cap) : CayenneLppWriter cap := ⟨buf, 0, Nat.zero_le cap⟩

/-- What has been written. -/
def written (writer : CayenneLppWriter cap) : List UInt8 := writer.buf.slice 0 writer.len

/-- The writer with more behind what is there. -/
def append (writer : CayenneLppWriter cap) (xs : List UInt8) (h : writer.len + xs.length ≤ cap) :
    CayenneLppWriter cap :=
  ⟨writer.buf.store writer.len xs, writer.len + xs.length, h⟩

@[simp] theorem written_init (buf : Buf cap) : (init buf).written = [] := Buf.slice_zero ..

theorem length_written (writer : CayenneLppWriter cap) : writer.written.length = writer.len := by
  have hle := writer.len_le
  exact Buf.length_slice_of_le _ (by omega)

@[simp] theorem written_append (writer : CayenneLppWriter cap) (xs : List UInt8)
    (h : writer.len + xs.length ≤ cap) : (writer.append xs h).written = writer.written ++ xs :=
  Buf.slice_zero_store _ h

end CayenneLppWriter

/-- The conversion of a `float` to an integer. -/
def floatTrunc (x : ℚ) : ℤ := x.num.tdiv x.den

/-- The sign of a field is folded into its `size` low bytes. -/
def foldSign (size : ℕ) (raw : UInt64) : UInt64 :=
  let mask := (1 <<< UInt64.ofNat (size * 8)) - 1
  (mask - (raw &&& mask) + 1) &&& mask

/-- The last loop of `cayenne_lpp_add_field`: the `n` low bytes of a word, the lowest at the highest
index. -/
def putBytesBack {cap : ℕ} (off : ℕ) : ℕ → UInt64 → Buf cap → Option (Buf cap)
  | 0, _, buf => some buf
  | n + 1, raw, buf => do
    let buf ← buf.storeAt (off + n) [raw.toUInt8]
    putBytesBack off n (raw >>> 8) buf

section

variable {cap : ℕ} (roundFloat : ℚ → ℚ) (writer : CayenneLppWriter cap)

/-- `cayenne_lpp_add_field`. -/
def cayenneLppAddField (type channel : UInt8) (value : ℚ) (size multiplier : ℕ) (isSigned : Bool) :
    Option (ℤ × CayenneLppWriter cap) :=
  if size = 0 then some (eINVAL, writer)
  else if h : writer.len + size + 2 > cap then some (eNOSPC, writer)
  else do
    let negative := decide (value < 0)
    let value := if negative then -value else value
    let raw := UInt64.ofNat (floatTrunc (roundFloat (value * multiplier))).toNat
    let raw := if isSigned && negative then foldSign size raw else raw
    let buf ← Buf.writeAll (endToEnd writer.len [[channel], [type]]) writer.buf
    let buf ← putBytesBack (writer.len + 2) size raw buf
    pure (0, ⟨buf, writer.len + 2 + size, by omega⟩)

/-- `cayenne_lpp_add_analog_input`. -/
def cayenneLppAddAnalogInput (channel : UInt8) (value : ℚ) : Option (ℤ × CayenneLppWriter cap) :=
  cayenneLppAddField roundFloat writer lppAnalogInput channel value 2 100 true

/-- `cayenne_lpp_add_barometric_pressure`. -/
def cayenneLppAddBarometricPressure (channel : UInt8) (value : ℚ) :
    Option (ℤ × CayenneLppWriter cap) :=
  cayenneLppAddField roundFloat writer lppBarometricPressure channel value 2 10 false

/-- `cayenne_lpp_add_distance`. -/
def cayenneLppAddDistance (channel : UInt8) (value : ℚ) : Option (ℤ × CayenneLppWriter cap) :=
  cayenneLppAddField roundFloat writer lppDistance channel value 4 1000 false

/-- `cayenne_lpp_add_relative_humidity`. -/
def cayenneLppAddRelativeHumidity (channel : UInt8) (value : ℚ) :
    Option (ℤ × CayenneLppWriter cap) :=
  cayenneLppAddField roundFloat writer lppRelativeHumidity channel value 1 2 false

/-- `cayenne_lpp_add_temperature`. -/
def cayenneLppAddTemperature (channel : UInt8) (value : ℚ) : Option (ℤ × CayenneLppWriter cap) :=
  cayenneLppAddField roundFloat writer lppTemperature channel value 2 10 true

/-- `cayenne_lpp_add_voltage`. -/
def cayenneLppAddVoltage (channel : UInt8) (value : ℚ) : Option (ℤ × CayenneLppWriter cap) :=
  cayenneLppAddField roundFloat writer lppVoltage channel value 2 100 false

/-- `cayenne_lpp_add_current`. -/
def cayenneLppAddCurrent (channel : UInt8) (value : ℚ) : Option (ℤ × CayenneLppWriter cap) :=
  cayenneLppAddField roundFloat writer lppCurrent channel value 2 1000 false

/-- `cayenne_lpp_add_power`. -/
def cayenneLppAddPower (channel : UInt8) (value : ℚ) : Option (ℤ × CayenneLppWriter cap) :=
  cayenneLppAddField roundFloat writer lppPower channel value 2 1 false

/-- `cayenne_lpp_add_altitude`. -/
def cayenneLppAddAltitude (channel : UInt8) (value : ℚ) : Option (ℤ × CayenneLppWriter cap) :=
  cayenneLppAddField roundFloat writer lppAltitude channel value 2 1 true

/-- The three low bytes of a word, the highest first. -/
def bytes24 (value : Int32) : List UInt8 :=
  let u := value.toUInt32
  [((u >>> 16) &&& 0xFF).toUInt8, ((u >>> 8) &&& 0xFF).toUInt8, (u &&& 0xFF).toUInt8]

/-- A coordinate or an altitude, scaled. -/
def gpsScaled (value : ℚ) (multiplier : ℕ) : ℤ := floatTrunc (roundFloat (value * multiplier))

/-- `cayenne_lpp_add_gps`, one byte after the other. -/
def cayenneLppAddGps (channel : UInt8) (latitude longitude altitude : ℚ) :
    Option (ℤ × CayenneLppWriter cap) :=
  if h : writer.len + 9 + 2 > cap then some (eNOSPC, writer)
  else do
    let lat := Int32.ofInt (gpsScaled roundFloat latitude 10000)
    let lon := Int32.ofInt (gpsScaled roundFloat longitude 10000)
    let alt := Int32.ofInt (gpsScaled roundFloat altitude 100)
    let buf ← Buf.writeAll (endToEnd writer.len
      ((channel :: lppGps :: (bytes24 lat ++ (bytes24 lon ++ bytes24 alt))).map ([·]))) writer.buf
    pure (0, ⟨buf, writer.len + 11, by omega⟩)

end

/-! ### Calls -/

/-- The calls that add a record. -/
inductive LppAdd where
  | analogInput (channel : UInt8) (value : ℚ)
  | barometricPressure (channel : UInt8) (value : ℚ)
  | distance (channel : UInt8) (value : ℚ)
  | relativeHumidity (channel : UInt8) (value : ℚ)
  | temperature (channel : UInt8) (value : ℚ)
  | voltage (channel : UInt8) (value : ℚ)
  | current (channel : UInt8) (value : ℚ)
  | power (channel : UInt8) (value : ℚ)
  | altitude (channel : UInt8) (value : ℚ)
  | gps (channel : UInt8) (lat lon alt : ℚ)

/-- What a call does. -/
def LppAdd.run {cap : ℕ} (roundFloat : ℚ → ℚ) (writer : CayenneLppWriter cap) :
    LppAdd → Option (ℤ × CayenneLppWriter cap)
  | .analogInput channel value => cayenneLppAddAnalogInput roundFloat writer channel value
  | .barometricPressure channel value =>
    cayenneLppAddBarometricPressure roundFloat writer channel value
  | .distance channel value => cayenneLppAddDistance roundFloat writer channel value
  | .relativeHumidity channel value => cayenneLppAddRelativeHumidity roundFloat writer channel value
  | .temperature channel value => cayenneLppAddTemperature roundFloat writer channel value
  | .voltage channel value => cayenneLppAddVoltage roundFloat writer channel value
  | .current channel value => cayenneLppAddCurrent roundFloat writer channel value
  | .power channel value => cayenneLppAddPower roundFloat writer channel value
  | .altitude channel value => cayenneLppAddAltitude roundFloat writer channel value
  | .gps channel lat lon alt => cayenneLppAddGps roundFloat writer channel lat lon alt

/-- A sequence of calls: their results, and the writer in the end. -/
def runAdds {cap : ℕ} (roundFloat : ℚ → ℚ) :
    List LppAdd → CayenneLppWriter cap → Option (List ℤ × CayenneLppWriter cap)
  | [], writer => some ([], writer)
  | add :: adds, writer => do
    let r ← add.run roundFloat writer
    let rs ← runAdds roundFloat adds r.2
    pure (r.1 :: rs.1, rs.2)

/-! ### The record of a call -/

theorem putBytesBack_eq {cap off n : ℕ} (raw : UInt64) (buf : Buf cap) (h : off + n ≤ cap) :
    putBytesBack off n raw buf = some (buf.store off (leBytes n raw.toNat).reverse) := by
  induction n generalizing raw buf with
  | zero => simp [putBytesBack, leBytes]
  | succ n ih =>
    have hbyte : raw.toUInt8 = UInt8.ofNat raw.toNat := rfl
    have hshift : (raw >>> 8).toNat = raw.toNat / 256 := by
      rw [UInt64.toNat_shiftRight]
      exact Nat.shiftRight_eq_div_pow ..
    have hlen : (leBytes n (raw.toNat / 256)).reverse.length = n := by simp
    have hlast : off + n + [raw.toUInt8].length ≤ cap := by
      rw [List.length_singleton]
      omega
    rw [putBytesBack, Buf.storeAt_of_le buf hlast, Option.bind_eq_bind, Option.bind_some,
      ih _ _ (by omega), hshift, Buf.store_store_below buf (by rw [hlen])
        (by rw [hlen]; exact hlast),
      leBytes, List.reverse_cons, hbyte]

section

variable {cap : ℕ} (roundFloat : ℚ → ℚ) (writer : CayenneLppWriter cap)

/-- A record is added when there is room for it. -/
def CayenneLppWriter.add (r : LppRecord) : ℤ × CayenneLppWriter cap :=
  if h : writer.len + r.bytes.length ≤ cap then (0, writer.append r.bytes h) else (eNOSPC, writer)

/-- A field is a record of its type. -/
theorem cayenneLppAddField_eq {type : UInt8} {size : ℕ} (htype : type ≠ lppPolyline)
    (hfixed : cayenneLppFixedValueSize type = size) (hsize : size ≠ 0) (channel : UInt8) (value : ℚ)
    (multiplier : ℕ) (isSigned : Bool) :
    ∃ r : LppRecord, r.type = type ∧
      cayenneLppAddField roundFloat writer type channel value size multiplier isSigned
        = some (writer.add r) := by
  let raw := UInt64.ofNat (floatTrunc (roundFloat
    ((if decide (value < 0) then -value else value) * multiplier))).toNat
  let folded := if isSigned && decide (value < 0) then foldSign size raw else raw
  let xs := (leBytes size folded.toNat).reverse
  have hlen : xs.length = size := by simp [xs]
  let r : LppRecord := ⟨channel, type, xs, by
    rw [lppValueSize, if_neg htype, hfixed, hlen], hlen.trans_ne hsize⟩
  have hbytes : r.bytes.length = size + 2 := congrArg (· + 2) hlen
  refine ⟨r, rfl, ?_⟩
  rw [cayenneLppAddField, if_neg hsize, CayenneLppWriter.add]
  by_cases hfits : writer.len + r.bytes.length ≤ cap
  · rw [dif_neg (by omega), dif_pos hfits]
    have hhead : writer.len + [[channel], [type]].flatten.length ≤ cap := by
      show writer.len + 2 ≤ cap
      omega
    have hwrite : Buf.writeAll (endToEnd writer.len [[channel], [type]]) writer.buf
        = some (writer.buf.store writer.len [channel, type]) :=
      Buf.writeAll_endToEnd [[channel], [type]] writer.buf hhead
    have hput := @putBytesBack_eq cap (writer.len + 2) size folded
      (writer.buf.store writer.len [channel, type]) (by omega)
    have hstore : (writer.buf.store writer.len [channel, type]).store (writer.len + 2) xs
        = writer.buf.store writer.len r.bytes :=
      Buf.store_store_append writer.buf rfl (by rw [hlen]; show writer.len + 2 + size ≤ cap; omega)
    have hend : writer.len + 2 + size ≤ cap := by omega
    show (Buf.writeAll (endToEnd writer.len [[channel], [type]]) writer.buf).bind (fun buf =>
      (putBytesBack (writer.len + 2) size folded buf).bind fun buf =>
        some ((0 : ℤ), (⟨buf, writer.len + 2 + size, hend⟩ : CayenneLppWriter cap))) = _
    rw [hwrite, Option.bind_some, hput, Option.bind_some]
    refine congrArg (fun w => some ((0 : ℤ), w)) ?_
    ext1
    · exact hstore
    · show writer.len + 2 + size = writer.len + r.bytes.length
      omega
  · rw [dif_pos (by omega), dif_neg hfits]

/-- The low byte of a word behind a shift. -/
theorem toNat_low (u : UInt32) : (u &&& 0xFF).toUInt8.toNat = u.toNat % 256 := by
  have hmask : u.toNat &&& 255 = u.toNat % 256 := Nat.and_two_pow_sub_one_eq_mod u.toNat 8
  have hlow : (u &&& 0xFF).toNat = u.toNat % 256 := by
    rw [UInt32.toNat_and]
    exact hmask
  rw [UInt32.toNat_toUInt8, hlow, Nat.mod_mod]

/-- The three bytes are the low 24 bits of the word. -/
theorem signed24_bytes24 {value : ℤ} (hlo : -2 ^ 23 ≤ value) (hhi : value < 2 ^ 23)
    (rest : List UInt8) : signed24 (bytes24 (.ofInt value) ++ rest) 0 = value := by
  let u := (Int32.ofInt value).toUInt32
  have hu : (u.toNat : ℤ) = value % 2 ^ 32 := by
    show ((BitVec.ofInt 32 value).toNat : ℤ) = _
    rw [BitVec.toNat_ofInt]
    exact Int.toNat_of_nonneg (Int.emod_nonneg _ (by decide))
  have h16 : (u >>> 16).toNat = u.toNat / 65536 := by
    rw [UInt32.toNat_shiftRight]
    exact Nat.shiftRight_eq_div_pow ..
  have h8 : (u >>> 8).toNat = u.toNat / 256 := by
    rw [UInt32.toNat_shiftRight]
    exact Nat.shiftRight_eq_div_pow ..
  have hword : be24 ((u >>> 16) &&& 0xFF).toUInt8 ((u >>> 8) &&& 0xFF).toUInt8 (u &&& 0xFF).toUInt8
      = u.toNat % 16777216 := by
    rw [be24, toNat_low, toNat_low, toNat_low, h16, h8]
    omega
  show ((be24 ((u >>> 16) &&& 0xFF).toUInt8 ((u >>> 8) &&& 0xFF).toUInt8 (u &&& 0xFF).toUInt8 : ℕ) :
    ℤ).bmod (2 ^ 24) = value
  rw [hword, Int.bmod_def]
  norm_num at hlo hhi hu ⊢
  omega

/-- A position is a record with its two coordinates. -/
theorem cayenneLppAddGps_eq (channel : UInt8) (lat lon alt : ℚ) :
    ∃ r : LppRecord, r.type = lppGps ∧
      r.value = bytes24 (.ofInt (gpsScaled roundFloat lat 10000)) ++
        (bytes24 (.ofInt (gpsScaled roundFloat lon 10000)) ++
          bytes24 (.ofInt (gpsScaled roundFloat alt 100))) ∧
      cayenneLppAddGps roundFloat writer channel lat lon alt = some (writer.add r) := by
  let value := bytes24 (.ofInt (gpsScaled roundFloat lat 10000)) ++
    (bytes24 (.ofInt (gpsScaled roundFloat lon 10000)) ++
      bytes24 (.ofInt (gpsScaled roundFloat alt 100)))
  have hfixed : cayenneLppFixedValueSize lppGps = 9 := by decide
  let r : LppRecord := ⟨channel, lppGps, value, by
    rw [lppValueSize, if_neg (by decide), hfixed]
    rfl, by
    show 9 ≠ 0
    decide⟩
  have hbytes : r.bytes.length = 11 := rfl
  refine ⟨r, rfl, rfl, ?_⟩
  rw [cayenneLppAddGps, CayenneLppWriter.add]
  by_cases hfits : writer.len + r.bytes.length ≤ cap
  · have hend : writer.len + 11 ≤ cap := by omega
    have hflatten : (r.bytes.map ([·])).flatten = r.bytes := by
      rw [← List.flatMap_def]
      exact List.flatMap_singleton' _
    have hwrite : Buf.writeAll (endToEnd writer.len (r.bytes.map ([·]))) writer.buf
        = some (writer.buf.store writer.len r.bytes) := by
      rw [Buf.writeAll_endToEnd _ _ (by rw [hflatten]; exact hfits), hflatten]
    rw [dif_neg (by omega), dif_pos hfits]
    show (Buf.writeAll (endToEnd writer.len (r.bytes.map ([·]))) writer.buf).bind (fun buf =>
      some ((0 : ℤ), (⟨buf, writer.len + 11, hend⟩ : CayenneLppWriter cap))) = _
    rw [hwrite]
    rfl
  · rw [dif_pos (by omega), dif_neg hfits]

/-- The coordinates of a call that adds a position, in steps of 100. -/
def LppAdd.coordinates : LppAdd → Option (ℤ × ℤ)
  | .gps _ lat lon _ =>
    some (gpsScaled roundFloat lat 10000 * 100, gpsScaled roundFloat lon 10000 * 100)
  | _ => none

/-- The scaled coordinates of a position fit their fields. -/
def LppAdd.InRange : LppAdd → Prop
  | .gps _ lat lon _ => (-2 ^ 23 ≤ gpsScaled roundFloat lat 10000 ∧
      gpsScaled roundFloat lat 10000 < 2 ^ 23) ∧
    -2 ^ 23 ≤ gpsScaled roundFloat lon 10000 ∧ gpsScaled roundFloat lon 10000 < 2 ^ 23
  | _ => True

/-- A call adds one record, when there is room for it. -/
theorem LppAdd.run_eq (add : LppAdd) :
    ∃ r : LppRecord, add.run roundFloat writer = some (writer.add r) ∧
      (add.InRange roundFloat → r.coordinates = add.coordinates roundFloat) := by
  have hfield : ∀ (type channel : UInt8) (value : ℚ) (size multiplier : ℕ) (isSigned : Bool),
      add.run roundFloat writer
        = cayenneLppAddField roundFloat writer type channel value size multiplier isSigned →
      add.coordinates roundFloat = none →
      type ≠ lppPolyline ∧ type ≠ lppGps ∧ cayenneLppFixedValueSize type = size ∧ size ≠ 0 →
      ∃ r : LppRecord, add.run roundFloat writer = some (writer.add r) ∧
        (add.InRange roundFloat → r.coordinates = add.coordinates roundFloat) := by
    rintro type channel value size multiplier isSigned heq hnone ⟨hpolyline, hgps, hfixed, hsize⟩
    obtain ⟨r, rfl, hrun⟩ := cayenneLppAddField_eq roundFloat writer hpolyline hfixed hsize channel
      value multiplier isSigned
    exact ⟨r, heq.trans hrun, fun _ => (if_neg hgps).trans hnone.symm⟩
  cases add with
  | analogInput channel value =>
    exact hfield lppAnalogInput channel value 2 100 true rfl rfl (by decide)
  | barometricPressure channel value =>
    exact hfield lppBarometricPressure channel value 2 10 false rfl rfl (by decide)
  | distance channel value =>
    exact hfield lppDistance channel value 4 1000 false rfl rfl (by decide)
  | relativeHumidity channel value =>
    exact hfield lppRelativeHumidity channel value 1 2 false rfl rfl (by decide)
  | temperature channel value =>
    exact hfield lppTemperature channel value 2 10 true rfl rfl (by decide)
  | voltage channel value =>
    exact hfield lppVoltage channel value 2 100 false rfl rfl (by decide)
  | current channel value =>
    exact hfield lppCurrent channel value 2 1000 false rfl rfl (by decide)
  | power channel value =>
    exact hfield lppPower channel value 2 1 false rfl rfl (by decide)
  | altitude channel value =>
    exact hfield lppAltitude channel value 2 1 true rfl rfl (by decide)
  | gps channel lat lon alt =>
    obtain ⟨r, htype, hvalue, hrun⟩ := cayenneLppAddGps_eq roundFloat writer channel lat lon alt
    refine ⟨r, hrun, ?_⟩
    rintro ⟨hlat, hlon⟩
    have hfirst : signed24 r.value 0 = gpsScaled roundFloat lat 10000 := by
      rw [hvalue]
      exact signed24_bytes24 hlat.1 hlat.2 _
    have hsecond : signed24 r.value 3 = gpsScaled roundFloat lon 10000 := by
      have hdrop : r.value.drop 3 = (bytes24 (.ofInt (gpsScaled roundFloat lon 10000)) ++
          bytes24 (.ofInt (gpsScaled roundFloat alt 100))) ++ [] := by
        rw [hvalue, List.append_nil]
        rfl
      rw [← signed24_bytes24 hlon.1 hlon.2]
      exact signed24_of_drop_eq (i := 0) hdrop (by show 3 ≤ 6; decide)
    rw [LppRecord.coordinates, if_pos htype, hfirst, hsecond]
    rfl

/-! ### Runs -/

/-- The calls that succeeded. -/
def succeeded (adds : List LppAdd) (results : List ℤ) : List LppAdd :=
  (adds.zip results).filterMap fun x => if x.2 = 0 then some x.1 else none

theorem succeeded_cons (add : LppAdd) (adds : List LppAdd) (result : ℤ) (results : List ℤ) :
    succeeded (add :: adds) (result :: results)
      = if result = 0 then add :: succeeded adds results else succeeded adds results := by
  rw [succeeded, List.zip_cons_cons, List.filterMap_cons]
  split <;> simp_all [succeeded]

/-- The writer holds one record for each call that succeeded, with its coordinates. -/
theorem runAdds_written {adds : List LppAdd} (h : ∀ add ∈ adds, add.InRange roundFloat) :
    ∃ results writer' rs, runAdds roundFloat adds writer = some (results, writer') ∧
      results.length = adds.length ∧
      writer'.written = writer.written ++ lppFormat.stream rs ∧
      rs.map LppRecord.coordinates
        = (succeeded adds results).map (LppAdd.coordinates roundFloat) := by
  induction adds generalizing writer with
  | nil => exact ⟨[], writer, [], rfl, rfl, (List.append_nil _).symm, rfl⟩
  | cons add adds ih =>
    obtain ⟨r, hrun, hcoordinates⟩ := add.run_eq roundFloat writer
    obtain ⟨results, writer', rs, hruns, hlen, hwritten, hmap⟩ :=
      ih (writer.add r).2 fun add hadd => h add (List.mem_cons_of_mem _ hadd)
    have hrunAdds : runAdds roundFloat (add :: adds) writer
        = some ((writer.add r).1 :: results, writer') := by
      rw [runAdds, hrun, Option.bind_eq_bind, Option.bind_some, hruns]
      rfl
    have hr := hcoordinates (h add (List.mem_cons_self ..))
    by_cases hfits : writer.len + r.bytes.length ≤ cap
    · have hadd : writer.add r = (0, writer.append r.bytes hfits) := dif_pos hfits
      rw [hadd] at hrunAdds hwritten
      refine ⟨0 :: results, writer', r :: rs, hrunAdds, congrArg (· + 1) hlen, ?_, ?_⟩
      · rw [hwritten, CayenneLppWriter.written_append, RecordFormat.stream_cons, List.append_assoc]
        rfl
      · rw [succeeded_cons, if_pos rfl, List.map_cons, List.map_cons, hr, hmap]
    · have hadd : writer.add r = (eNOSPC, writer) := dif_neg hfits
      rw [hadd] at hrunAdds hwritten
      refine ⟨eNOSPC :: results, writer', rs, hrunAdds, congrArg (· + 1) hlen, hwritten, ?_⟩
      rw [succeeded_cons, if_neg (by decide), hmap]

end

/-! ### Padding -/

/-- Zeros are no positions. -/
theorem coordinates_of_splits_zeros {n : ℕ} {rs : List LppRecord} {rest : List UInt8}
    (h : lppFormat.Splits (List.replicate n 0) rs rest) :
    rs.filterMap LppRecord.coordinates = [] := by
  rw [List.filterMap_eq_nil_iff]
  intro r hr
  have hmem : r.type ∈ List.replicate n (0 : UInt8) := by
    rw [h.eq]
    refine List.mem_append_left _ (List.mem_flatMap.mpr ⟨r, hr, ?_⟩)
    exact List.mem_cons_of_mem _ (List.mem_cons_self ..)
  have htype : r.type = 0 := List.eq_of_mem_replicate hmem
  rw [LppRecord.coordinates, if_neg (by rw [htype]; decide)]

/-- What the parser reports of records and padding behind them. -/
theorem parseLocation_stream (rs : List LppRecord) (n : ℕ) :
    ∃ location, cayenneLppParseLocation (lppFormat.stream rs ++ List.replicate n 0)
      = some location ∧
      location.Reports (lastCoordinates rs) := by
  obtain ⟨zeros, rest, h⟩ := lppFormat.exists_splits (List.replicate n (0 : UInt8))
  have hlast : lastCoordinates (rs ++ zeros) = lastCoordinates rs := by
    rw [lastCoordinates, List.filterMap_append, coordinates_of_splits_zeros h, List.append_nil]
    rfl
  refine ⟨_, cayenneLppParseLocation_eq (h.append rs), ?_⟩
  rw [← hlast]
  exact reports_foldl _

/-- **The parser finds what the writers wrote.** A call adds one complete record or leaves the
writer alone, the bytes never outgrow the array, and behind any run of calls the parser, with any
number of zeros behind the bytes, reports the coordinates of the last position that was added. -/
theorem parseLocation_runAdds {cap : ℕ} (roundFloat : ℚ → ℚ) :
    (∀ (writer : CayenneLppWriter cap) (add : LppAdd), ∃ result writer',
      add.run roundFloat writer = some (result, writer') ∧
      ((result = 0 ∧ ∃ r : LppRecord, writer'.written = writer.written ++ r.bytes) ∨
        (result ≠ 0 ∧ writer' = writer))) ∧
    ∀ (buf : Buf cap) (adds : List LppAdd), (∀ add ∈ adds, add.InRange roundFloat) → ∀ n : ℕ,
      ∃ results writer location,
        runAdds roundFloat adds (.init buf) = some (results, writer) ∧
        results.length = adds.length ∧ writer.written.length = writer.len ∧ writer.len ≤ cap ∧
        cayenneLppParseLocation (writer.written ++ List.replicate n 0) = some location ∧
        location.Reports
          ((succeeded adds results).filterMap (LppAdd.coordinates roundFloat)).getLast? := by
  refine ⟨?_, ?_⟩
  · intro writer add
    obtain ⟨r, hrun, -⟩ := add.run_eq roundFloat writer
    by_cases hfits : writer.len + r.bytes.length ≤ cap
    · have hadd : writer.add r = (0, writer.append r.bytes hfits) := dif_pos hfits
      rw [hadd] at hrun
      exact ⟨_, _, hrun, .inl ⟨rfl, r, CayenneLppWriter.written_append ..⟩⟩
    · have hadd : writer.add r = (eNOSPC, writer) := dif_neg hfits
      rw [hadd] at hrun
      exact ⟨_, _, hrun, .inr ⟨by decide, rfl⟩⟩
  · intro buf adds hrange n
    obtain ⟨results, writer, rs, hrun, hlen, hwritten, hmap⟩ :=
      runAdds_written roundFloat (.init buf) hrange
    obtain ⟨location, hparse, hreports⟩ := parseLocation_stream rs n
    have hlast : lastCoordinates rs
        = ((succeeded adds results).filterMap (LppAdd.coordinates roundFloat)).getLast? := by
      have hrecords : (rs.map LppRecord.coordinates).filterMap id
          = rs.filterMap LppRecord.coordinates := List.filterMap_map
      have hcalls : ((succeeded adds results).map (LppAdd.coordinates roundFloat)).filterMap id
          = (succeeded adds results).filterMap (LppAdd.coordinates roundFloat) := List.filterMap_map
      rw [lastCoordinates, ← hrecords, hmap, hcalls]
    rw [CayenneLppWriter.written_init, List.nil_append] at hwritten
    refine ⟨results, writer, location, hrun, hlen, writer.length_written, writer.len_le, ?_, ?_⟩
    · rw [hwritten, hparse]
    · rw [← hlast]
      exact hreports

theorem parseLocation_runAdds_position :
    ∃ location, location.Reports (some (52520500, -13405000)) ∧
      ∃ results writer,
        runAdds id [.voltage 1 (37 / 10), .gps 1 (105041 / 2000) (-2681 / 200) 34, .power 2 5]
          (.init (Buf.zero 17)) = some (results, writer) ∧
        results = [0, 0, eNOSPC] ∧
        cayenneLppParseLocation (writer.written ++ List.replicate 3 0) = some location := by
  have hrange : ∀ add ∈ [LppAdd.voltage 1 (37 / 10), .gps 1 (105041 / 2000) (-2681 / 200) 34,
      .power 2 5], add.InRange id := by
    intro add hadd
    fin_cases hadd
    · trivial
    · exact ⟨⟨by decide +kernel, by decide +kernel⟩, by decide +kernel, by decide +kernel⟩
    · trivial
  obtain ⟨results, writer, location, hrun, -, -, -, hparse, hreports⟩ :=
    (parseLocation_runAdds id).2 (Buf.zero 17) _ hrange 3
  have hresults : results = [0, 0, eNOSPC] := by
    have hcalls : ((runAdds id [LppAdd.voltage 1 (37 / 10), .gps 1 (105041 / 2000) (-2681 / 200) 34,
      .power 2 5] (.init (Buf.zero 17))).map Prod.fst) = some [0, 0, eNOSPC] := by decide +kernel
    rw [hrun] at hcalls
    exact Option.some.inj hcalls
  subst hresults
  have hlast : ((succeeded [LppAdd.voltage 1 (37 / 10), .gps 1 (105041 / 2000) (-2681 / 200) 34,
      .power 2 5] [0, 0, eNOSPC]).filterMap (LppAdd.coordinates id)).getLast?
        = some (52520500, -13405000) := by decide +kernel
  rw [hlast] at hreports
  exact ⟨location, hreports, _, _, hrun, rfl, hparse⟩

end Meshcore
