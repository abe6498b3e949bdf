import Meshcore.AdvertData

/-!
# Advert data in memory

`meshcore_advert_data_parser_init` as it writes its record: the name goes into an array that is
never cleared, with a zero behind it. Reads of the data and writes into the array are checked:
`none` is an access outside them.

## Main definitions

* `AdvertDataRecord`, `AdvertDataRecord.init` — the parser's record, and how it is filled
* `AdvertDataRecord.Shows` — a record that holds a result of the parser
* `AdvertDataParser.Restores` — a result that has all that a builder put in

## Main results

* `AdvertDataRecord.init_shows` — the record is filled without a stray access
* `advertData_round_trip`
-/

namespace Meshcore

/-! ### The record -/

/-- `struct meshcore_advert_data_parser`, with its array for the name. -/
structure AdvertDataRecord where
  flags : UInt8
  valid : Bool
  name : Buf maxAdvertDataLen
  lat : Int32
  lon : Int32
  feat1 : UInt16
  feat2 : UInt16

namespace AdvertDataRecord

/-- The name part, from index `i`. -/
def initName (record : AdvertDataRecord) (appData : List UInt8) (i : ℕ) :
    Option AdvertDataRecord :=
  if appData.length < i then some record
  else if record.flags &&& advNameMask ≠ 0 then
    let nlen := appData.length - i
    if nlen ≥ maxAdvertDataLen then some record
    else do
      let name ← record.name.storeAt 0 (← sliceAt appData i nlen)
      let name ← name.storeAt nlen [0]
      some { record with name, valid := true }
  else some { record with valid := true }

def initFeat2 (record : AdvertDataRecord) (appData : List UInt8) (i : ℕ) :
    Option AdvertDataRecord :=
  if record.flags &&& advFeat2Mask ≠ 0 then
    if appData.length < i + 2 then some record
    else do
      let feat2 ← sliceAt appData i 2
      initName { record with feat2 := .ofNat (leNat feat2) } appData (i + 2)
  else initName record appData i

def initFeat1 (record : AdvertDataRecord) (appData : List UInt8) (i : ℕ) :
    Option AdvertDataRecord :=
  if record.flags &&& advFeat1Mask ≠ 0 then
    if appData.length < i + 2 then some record
    else do
      let feat1 ← sliceAt appData i 2
      initFeat2 { record with feat1 := .ofNat (leNat feat1) } appData (i + 2)
  else initFeat2 record appData i

/-- `meshcore_advert_data_parser_init`, over what the array held before. -/
def init (stale : Buf maxAdvertDataLen) (appData : List UInt8) : Option AdvertDataRecord := do
  let name ← stale.storeAt 0 [0]
  let record : AdvertDataRecord := ⟨0, false, name, 0, 0, 0, 0⟩
  if appData.length = 0 then some record
  else do
    let flags ← readAt appData 0
    let record := { record with flags }
    if record.flags &&& advLatlonMask ≠ 0 then
      if appData.length < 1 + 4 + 4 then some record
      else do
        let lat ← sliceAt appData 1 4
        let lon ← sliceAt appData 5 4
        initFeat1
          { record with
            lat := (UInt32.ofNat (leNat lat)).toInt32
            lon := (UInt32.ofNat (leNat lon)).toInt32 }
          appData 9
    else initFeat1 record appData 1

/-- The record holds this result: its array starts with the name and a zero. -/
structure Shows (record : AdvertDataRecord) (parser : AdvertDataParser) : Prop where
  flags : record.flags = parser.flags
  valid : record.valid = parser.valid
  lat : record.lat = parser.lat
  lon : record.lon = parser.lon
  feat1 : record.feat1 = parser.feat1
  feat2 : record.feat2 = parser.feat2
  name : record.name.slice 0 (parser.name.length + 1) = parser.name ++ [0]

section

variable {record : AdvertDataRecord} {parser : AdvertDataParser} {appData : List UInt8} {i : ℕ}

/-- A name that fits is copied in front of a zero. -/
theorem slice_name {name : List UInt8} (stale : Buf maxAdvertDataLen)
    (hlen : name.length < maxAdvertDataLen) :
    ((stale.store 0 name).store name.length [0]).slice 0 (name.length + 1) = name ++ [0] := by
  have hfirst : 0 + name.length ≤ maxAdvertDataLen := by omega
  have hroom : name.length + [(0 : UInt8)].length ≤ maxAdvertDataLen := Nat.succ_le_of_lt hlen
  have hwhole := Buf.slice_zero_store (stale.store 0 name) hroom
  rw [Buf.slice_store_self stale hfirst] at hwhole
  exact hwhole

/-- The same flags are looked at. -/
theorem Shows.flags_iff (h : record.Shows parser) (mask : UInt8) :
    record.flags &&& mask ≠ 0 ↔ parser.flags &&& mask ≠ 0 := by rw [h.flags]

theorem initName_shows (h : record.Shows parser) :
    ∃ record', record.initName appData i = some record' ∧
      record'.Shows (parser.initName appData i) := by
  rw [initName, AdvertDataParser.initName]
  by_cases hstart : appData.length < i
  · rw [if_pos hstart, if_pos hstart]
    exact ⟨_, rfl, h⟩
  rw [if_neg hstart, if_neg hstart]
  by_cases hflag : parser.flags &&& advNameMask ≠ 0
  · rw [if_pos ((h.flags_iff _).mpr hflag), if_pos hflag]
    by_cases hfits : appData.length - i ≥ maxAdvertDataLen
    · rw [if_pos hfits, if_pos hfits]
      exact ⟨_, rfl, h⟩
    · have hread : sliceAt appData i (appData.length - i) = some (appData.drop i) := by
        rw [sliceAt_of_le (by omega), ← List.length_drop, List.take_length]
      have hlen : (appData.drop i).length < maxAdvertDataLen := by
        rw [List.length_drop]
        exact not_le.mp hfits
      have hcopy : 0 + (appData.drop i).length ≤ maxAdvertDataLen := by omega
      have hzero : (appData.drop i).length + [(0 : UInt8)].length ≤ maxAdvertDataLen := hlen
      rw [if_neg hfits, if_neg hfits, hread, Option.bind_eq_bind, Option.bind_some,
        Buf.storeAt_of_le _ hcopy, Option.bind_eq_bind, Option.bind_some, ← List.length_drop,
        Buf.storeAt_of_le _ hzero, Option.bind_some]
      exact ⟨_, rfl, { h with valid := rfl, name := slice_name _ hlen }⟩
  · rw [if_neg (mt (h.flags_iff _).mp hflag), if_neg hflag]
    exact ⟨_, rfl, { h with valid := rfl }⟩

theorem initFeat2_shows (h : record.Shows parser) :
    ∃ record', record.initFeat2 appData i = some record' ∧
      record'.Shows (parser.initFeat2 appData i) := by
  rw [initFeat2, AdvertDataParser.initFeat2]
  by_cases hflag : parser.flags &&& advFeat2Mask ≠ 0
  · rw [if_pos ((h.flags_iff _).mpr hflag), if_pos hflag]
    by_cases hshort : appData.length < i + 2
    · rw [if_pos hshort, if_pos hshort]
      exact ⟨_, rfl, h⟩
    · rw [if_neg hshort, if_neg hshort, sliceAt_of_le (not_lt.mp hshort), Option.bind_eq_bind,
        Option.bind_some]
      exact initName_shows { h with feat2 := rfl }
  · rw [if_neg (mt (h.flags_iff _).mp hflag), if_neg hflag]
    exact initName_shows h

theorem initFeat1_shows (h : record.Shows parser) :
    ∃ record', record.initFeat1 appData i = some record' ∧
      record'.Shows (parser.initFeat1 appData i) := by
  rw [initFeat1, AdvertDataParser.initFeat1]
  by_cases hflag : parser.flags &&& advFeat1Mask ≠ 0
  · rw [if_pos ((h.flags_iff _).mpr hflag), if_pos hflag]
    by_cases hshort : appData.length < i + 2
    · rw [if_pos hshort, if_pos hshort]
      exact ⟨_, rfl, h⟩
    · rw [if_neg hshort, if_neg hshort, sliceAt_of_le (not_lt.mp hshort), Option.bind_eq_bind,
        Option.bind_some]
      exact initFeat2_shows { h with feat1 := rfl }
  · rw [if_neg (mt (h.flags_iff _).mp hflag), if_neg hflag]
    exact initFeat2_shows h

/-- The record is filled with the parser's result, from whatever it held before. -/
theorem init_shows (stale : Buf maxAdvertDataLen) (appData : List UInt8) :
    ∃ record, init stale appData = some record ∧ record.Shows (.init appData) := by
  have hclear : stale.storeAt 0 [0] = some (stale.store 0 [0]) :=
    Buf.storeAt_of_le _ (by decide)
  have hempty : (stale.store 0 [0]).slice 0 1 = [0] := Buf.slice_store_self stale (by decide)
  rw [init, AdvertDataParser.init, hclear, Option.bind_eq_bind, Option.bind_some]
  by_cases hnone : appData.length = 0
  · exact ⟨_, if_pos hnone, by rw [if_pos hnone]; exact ⟨rfl, rfl, rfl, rfl, rfl, rfl, hempty⟩⟩
  have hflags : readAt appData 0 = some (appData.getD 0 0) := by
    rw [readAt, List.getElem?_eq_getElem (Nat.pos_of_ne_zero hnone), List.getD_eq_getElem]
  dsimp only
  rw [if_neg hnone, if_neg hnone, hflags, Option.bind_eq_bind, Option.bind_some]
  by_cases hflag : appData.getD 0 0 &&& advLatlonMask ≠ 0
  · rw [if_pos hflag, if_pos hflag]
    by_cases hshort : appData.length < 1 + 4 + 4
    · rw [if_pos hshort, if_pos hshort]
      exact ⟨_, rfl, ⟨rfl, rfl, rfl, rfl, rfl, rfl, hempty⟩⟩
    · rw [if_neg hshort, if_neg hshort, sliceAt_of_le (by omega), Option.bind_eq_bind,
        Option.bind_some, sliceAt_of_le (by omega), Option.bind_some]
      exact initFeat1_shows ⟨rfl, rfl, rfl, rfl, rfl, rfl, hempty⟩
  · rw [if_neg hflag, if_neg hflag]
    exact initFeat1_shows ⟨rfl, rfl, rfl, rfl, rfl, rfl, hempty⟩

/-- The name ends inside its array. -/
theorem Shows.zero_mem (h : record.Shows parser) : 0 ∈ record.name.bytes := by
  have hmem : (0 : UInt8) ∈ record.name.slice 0 (parser.name.length + 1) := by
    rw [h.name]
    simp
  exact List.mem_of_mem_take hmem

end

end AdvertDataRecord

/-! ### The round trip -/

/-- The result has what the builder put in: the type, the position, the features, and the longest
part of the name that there was room for. -/
structure AdvertDataParser.Restores (parser : AdvertDataParser) (builder : AdvertDataBuilder) :
    Prop where
  valid : parser.valid = true
  type_eq : parser.getType = builder.type
  hasLatLon : parser.hasLatLon = builder.hasLoc
  lat : parser.lat = if builder.hasLoc then builder.lat else 0
  lon : parser.lon = if builder.hasLoc then builder.lon else 0
  feat1 : parser.feat1 = builder.feat1
  feat2 : parser.feat2 = builder.feat2
  name_prefix : parser.getName <+: builder.name
  name_fits : 1 + builder.fields.length + parser.getName.length ≤ maxAdvertDataLen
  name_longest : ∀ name, name <+: builder.name →
    1 + builder.fields.length + name.length ≤ maxAdvertDataLen → name.length ≤ parser.getName.length

section

variable {builder : AdvertDataBuilder}

theorem length_fields_le (builder : AdvertDataBuilder) : builder.fields.length ≤ 12 := by
  have hfeat : ∀ feat, (featBytes feat).length ≤ 2 := by
    intro feat
    rw [featBytes]
    split <;> simp
  have h1 := hfeat builder.feat1
  have h2 := hfeat builder.feat2
  rw [AdvertDataBuilder.fields, List.length_append, List.length_append]
  split <;> simp <;> omega

/-- The type takes the four low bits. -/
theorem type_and_mask {type : UInt8} (h : type ≤ 15) : type &&& 0x0F = type := by
  have hle : type.toNat ≤ 15 := UInt8.le_iff_toNat_le.mp h
  have hmask : type.toNat &&& 15 = type.toNat % 16 := Nat.and_two_pow_sub_one_eq_mod type.toNat 4
  rw [← UInt8.toNat_inj, UInt8.toNat_and]
  exact hmask.trans (Nat.mod_eq_of_lt (by omega))

theorem init_encodeTo_restores (htype : builder.type ≤ 15) (hname : 0 ∉ builder.name) :
    (AdvertDataParser.init builder.encodeTo).Restores builder := by
  obtain ⟨flags, hkind, hloc, hinit⟩ := AdvertDataParser.init_encodeTo builder (type_and_mask htype)
  have hfields := length_fields_le builder
  have hmax : maxAdvertDataLen = 32 := rfl
  have hshown : (AdvertDataParser.init builder.encodeTo).getName = builder.shownName := by
    rw [AdvertDataParser.getName, hinit]
    exact cString_eq_self fun h => hname (List.mem_of_mem_take h)
  have hlen : builder.shownName.length
      = min (maxAdvertDataLen - 1 - builder.fields.length) builder.name.length := List.length_take
  exact
    { valid := by rw [hinit]
      type_eq := by rw [AdvertDataParser.getType, hinit]; exact hkind
      hasLatLon := by
        rw [AdvertDataParser.hasLatLon, hinit, Bool.eq_iff_iff, bne_iff_ne]
        exact hloc
      lat := by rw [hinit]
      lon := by rw [hinit]
      feat1 := by rw [hinit]
      feat2 := by rw [hinit]
      name_prefix := by rw [hshown]; exact List.take_prefix ..
      name_fits := by rw [hshown, hlen]; omega
      name_longest := by
        intro name hpre hfits
        have hle := hpre.length_le
        rw [hshown, hlen]
        omega }

end

/-- **Advert data.** What a builder writes fits the advert and is parsed back, with as much of the
name as fits. Whatever bytes there are, the parser reads only inside them, and the name that it
leaves in its array ends there. -/
theorem advertData_round_trip :
    (∀ builder : AdvertDataBuilder, builder.type ≤ 15 → 0 ∉ builder.name →
      builder.encodeTo.length ≤ maxAdvertDataLen ∧
        (AdvertDataParser.init builder.encodeTo).Restores builder) ∧
    ∀ (stale : Buf maxAdvertDataLen) (appData : List UInt8), 1 ≤ appData.length →
      appData.length ≤ 255 → ∃ record, AdvertDataRecord.init stale appData = some record ∧
        record.Shows (.init appData) ∧ 0 ∈ record.name.bytes := by
  refine ⟨fun builder htype hname =>
    ⟨builder.length_encodeTo_le, init_encodeTo_restores htype hname⟩, fun stale appData _ _ => ?_⟩
  obtain ⟨record, hrun, hshows⟩ := AdvertDataRecord.init_shows stale appData
  exact ⟨record, hrun, hshows, hshows.zero_mem⟩

/-- A repeater with a position, a feature and a name that is too long by one byte. -/
def fullBuilder : AdvertDataBuilder where
  type := advTypeRepeater
  hasLoc := true
  name := List.replicate 22 0x61
  lat := -100
  lon := 200
  feat1 := 0
  feat2 := 7

theorem advertData_round_trip_full :
    (AdvertDataParser.init fullBuilder.encodeTo).Restores fullBuilder ∧
      (AdvertDataParser.init fullBuilder.encodeTo).getName = List.replicate 21 0x61 ∧
      ∃ record, AdvertDataRecord.init (.zero _) fullBuilder.encodeTo = some record ∧
        record.Shows (.init fullBuilder.encodeTo) ∧ 0 ∈ record.name.bytes :=
  ⟨(advertData_round_trip.1 fullBuilder (by decide) (by decide)).2, by decide +kernel,
    advertData_round_trip.2 (.zero _) fullBuilder.encodeTo (by decide) (by decide)⟩

end Meshcore
