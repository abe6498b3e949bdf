import Meshcore.Types

/-!
# Advert application data

`support/meshcore_advert_data.c`: the flags byte with the node type, then an optional position, two
optional feature words and an optional name.

## Main definitions

* `AdvertDataBuilder.encodeTo`
* `AdvertDataParser.init`
-/

namespace Meshcore

abbrev advTypeNone : UInt8 := 0
abbrev advTypeChat : UInt8 := 1
abbrev advTypeRepeater : UInt8 := 2
abbrev advTypeRoom : UInt8 := 3
abbrev advTypeSensor : UInt8 := 4

abbrev advLatlonMask : UInt8 := 0x10
abbrev advFeat1Mask : UInt8 := 0x20
abbrev advFeat2Mask : UInt8 := 0x40
abbrev advNameMask : UInt8 := 0x80

abbrev maxAdvertDataLen : ℕ := 32

/-- `meshcore_runtime_role_to_advert_type`. -/
def roleToAdvertType : Role → UInt8
  | .chat => advTypeChat
  | .repeater => advTypeRepeater
  | .room => advTypeRoom
  | .sensor => advTypeSensor
  | .none => advTypeNone

/-- `meshcore_runtime_role_from_advert_type`. -/
def roleFromAdvertType (type : UInt8) : Role :=
  if type &&& 0x0F = advTypeChat then .chat
  else if type &&& 0x0F = advTypeRepeater then .repeater
  else if type &&& 0x0F = advTypeRoom then .room
  else if type &&& 0x0F = advTypeSensor then .sensor
  else .none

/-- `struct meshcore_advert_data_builder`. The name is the C string it points to. -/
structure AdvertDataBuilder where
  type : UInt8
  hasLoc : Bool
  name : List UInt8
  lat : Int32
  lon : Int32
  feat1 : UInt16
  feat2 : UInt16
deriving DecidableEq

/-- `meshcore_advert_data_builder_init_with_name`. -/
def AdvertDataBuilder.initWithName (advType : UInt8) (name : List UInt8) : AdvertDataBuilder where
  type := advType
  hasLoc := false
  name := name
  lat := 0
  lon := 0
  feat1 := 0
  feat2 := 0

/-- `meshcore_advert_data_builder_encode_to`: the name is cut where the data is full. -/
def AdvertDataBuilder.encodeTo (builder : AdvertDataBuilder) : List UInt8 :=
  let flags := builder.type
  let flags := if builder.hasLoc then flags ||| advLatlonMask else flags
  let loc := if builder.hasLoc then
      leBytes 4 builder.lat.toUInt32.toNat ++ leBytes 4 builder.lon.toUInt32.toNat
    else []
  let flags := if builder.feat1 ≠ 0 then flags ||| advFeat1Mask else flags
  let feat1 := if builder.feat1 ≠ 0 then leBytes 2 builder.feat1.toNat else []
  let flags := if builder.feat2 ≠ 0 then flags ||| advFeat2Mask else flags
  let feat2 := if builder.feat2 ≠ 0 then leBytes 2 builder.feat2.toNat else []
  let flags := if builder.name ≠ [] then flags ||| advNameMask else flags
  let fields := loc ++ feat1 ++ feat2
  flags :: (fields ++ builder.name.take (maxAdvertDataLen - 1 - fields.length))

/-- The encoded data fits the advert. -/
theorem AdvertDataBuilder.length_encodeTo_le (builder : AdvertDataBuilder) :
    builder.encodeTo.length ≤ 32 := by
  simp only [encodeTo, List.length_cons, List.length_append, List.length_take, maxAdvertDataLen]
  split <;> split <;> split <;> simp <;> omega

/-- `struct meshcore_advert_data_parser`. The name is kept without its terminating zero. -/
structure AdvertDataParser where
  flags : UInt8
  valid : Bool
  name : List UInt8
  lat : Int32
  lon : Int32
  feat1 : UInt16
  feat2 : UInt16
deriving DecidableEq

namespace AdvertDataParser

/-- The name part of `meshcore_advert_data_parser_init`, from index `i`. -/
def initName (parser : AdvertDataParser) (appData : List UInt8) (i : ℕ) : AdvertDataParser :=
  if appData.length < i then parser
  else if parser.flags &&& advNameMask ≠ 0 then
    if appData.length - i ≥ maxAdvertDataLen then parser
    else { parser with name := appData.drop i, valid := true }
  else { parser with valid := true }

def initFeat2 (parser : AdvertDataParser) (appData : List UInt8) (i : ℕ) : AdvertDataParser :=
  if parser.flags &&& advFeat2Mask ≠ 0 then
    if appData.length < i + 2 then parser
    else
      initName { parser with feat2 := .ofNat (leNat ((appData.drop i).take 2)) } appData (i + 2)
  else initName parser appData i

def initFeat1 (parser : AdvertDataParser) (appData : List UInt8) (i : ℕ) : AdvertDataParser :=
  if parser.flags &&& advFeat1Mask ≠ 0 then
    if appData.length < i + 2 then parser
    else
      initFeat2 { parser with feat1 := .ofNat (leNat ((appData.drop i).take 2)) } appData (i + 2)
  else initFeat2 parser appData i

/-- `meshcore_advert_data_parser_init`: `valid` stays false where a field is cut short. -/
def init (appData : List UInt8) : AdvertDataParser :=
  let parser : AdvertDataParser := ⟨0, false, [], 0, 0, 0, 0⟩
  if appData.length = 0 then parser
  else
    let parser := { parser with flags := appData.getD 0 0 }
    if parser.flags &&& advLatlonMask ≠ 0 then
      if appData.length < 1 + 4 + 4 then parser
      else
        initFeat1
          { parser with
            lat := (UInt32.ofNat (leNat ((appData.drop 1).take 4))).toInt32
            lon := (UInt32.ofNat (leNat ((appData.drop 5).take 4))).toInt32 }
          appData 9
    else initFeat1 parser appData 1

/-- `meshcore_advert_data_parser_get_type`. -/
def getType (parser : AdvertDataParser) : UInt8 := parser.flags &&& 0x0F

/-- `meshcore_advert_data_parser_get_name`, as the string its reader sees. -/
def getName (parser : AdvertDataParser) : List UInt8 := cString parser.name

/-- `meshcore_advert_data_parser_has_name`. -/
def hasName (parser : AdvertDataParser) : Bool := parser.getName != []

/-- `meshcore_advert_data_parser_has_lat_lon`. -/
def hasLatLon (parser : AdvertDataParser) : Bool := parser.flags &&& advLatlonMask != 0

end AdvertDataParser

/-! ### Parsing undoes encoding -/

/-- The flags with their type and their fields. -/
def advertFlags (type : UInt8) (hasLoc hasFeat1 hasFeat2 hasName : Bool) : UInt8 :=
  let flags := if hasLoc then type ||| advLatlonMask else type
  let flags := if hasFeat1 then flags ||| advFeat1Mask else flags
  let flags := if hasFeat2 then flags ||| advFeat2Mask else flags
  if hasName then flags ||| advNameMask else flags

/-- Each part of the flags is read back. -/
theorem advertFlags_read {type : UInt8} (htype : type &&& 0x0F = type)
    (hasLoc hasFeat1 hasFeat2 hasName : Bool) :
    let flags := advertFlags type hasLoc hasFeat1 hasFeat2 hasName
    flags &&& 0x0F = type ∧ (flags &&& advLatlonMask ≠ 0 ↔ hasLoc = true) ∧
      (flags &&& advFeat1Mask ≠ 0 ↔ hasFeat1 = true) ∧
      (flags &&& advFeat2Mask ≠ 0 ↔ hasFeat2 = true) ∧
      (flags &&& advNameMask ≠ 0 ↔ hasName = true) := by
  have hall : ∀ n < 16, ∀ a b c d : Bool,
      advertFlags (.ofNat n) a b c d &&& 0x0F = .ofNat n ∧
        (advertFlags (.ofNat n) a b c d &&& advLatlonMask ≠ 0 ↔ a = true) ∧
        (advertFlags (.ofNat n) a b c d &&& advFeat1Mask ≠ 0 ↔ b = true) ∧
        (advertFlags (.ofNat n) a b c d &&& advFeat2Mask ≠ 0 ↔ c = true) ∧
        (advertFlags (.ofNat n) a b c d &&& advNameMask ≠ 0 ↔ d = true) := by decide
  have hlt : type.toNat < 16 := by
    rw [← htype, UInt8.toNat_and]
    exact Nat.lt_succ_of_le Nat.and_le_right
  have hof : UInt8.ofNat type.toNat = type := UInt8.ofNat_toNat
  rw [← hof]
  exact hall _ hlt _ _ _ _

/-- A feature word, or nothing. -/
def featBytes (feat : UInt16) : List UInt8 := if feat ≠ 0 then leBytes 2 feat.toNat else []

namespace AdvertDataBuilder

/-- What stands between the flags and the name. -/
def fields (builder : AdvertDataBuilder) : List UInt8 :=
  (if builder.hasLoc then
      leBytes 4 builder.lat.toUInt32.toNat ++ leBytes 4 builder.lon.toUInt32.toNat
    else []) ++ featBytes builder.feat1 ++ featBytes builder.feat2

/-- The part of the name that there is room for. -/
def shownName (builder : AdvertDataBuilder) : List UInt8 :=
  builder.name.take (maxAdvertDataLen - 1 - builder.fields.length)

theorem encodeTo_eq (builder : AdvertDataBuilder) :
    builder.encodeTo = advertFlags builder.type builder.hasLoc (decide (builder.feat1 ≠ 0))
      (decide (builder.feat2 ≠ 0)) (decide (builder.name ≠ [])) ::
        (builder.fields ++ builder.shownName) := by
  simp [encodeTo, advertFlags, shownName, fields, featBytes]

theorem length_shownName_lt (builder : AdvertDataBuilder) :
    builder.shownName.length < maxAdvertDataLen := by
  rw [shownName, List.length_take]
  exact (Nat.min_le_left ..).trans_lt (by show 32 - 1 - _ < 32; omega)

end AdvertDataBuilder

namespace AdvertDataParser

variable {parser : AdvertDataParser} {pre rest name : List UInt8}

/-- The name is what is left. -/
theorem initName_append (hname : parser.flags &&& advNameMask = 0 → name = [])
    (hempty : parser.name = []) (hlen : name.length < maxAdvertDataLen) :
    parser.initName (pre ++ name) pre.length = { parser with name, valid := true } := by
  have hstart : ¬(pre ++ name).length < pre.length := by
    rw [List.length_append]
    omega
  have hfits : ¬(pre ++ name).length - pre.length ≥ maxAdvertDataLen := by
    rw [List.length_append, Nat.add_sub_cancel_left]
    exact not_le.mpr hlen
  rw [initName, if_neg hstart, if_neg hfits, List.drop_left]
  split
  · rfl
  · rename_i hnone
    rw [hname (not_not.mp hnone), ← hempty]

/-- A feature word is found where it was written. -/
theorem take_drop_featBytes {feat : UInt16} (hfeat : feat ≠ 0) :
    ¬(pre ++ (featBytes feat ++ rest)).length < pre.length + 2 ∧
      UInt16.ofNat (leNat (((pre ++ (featBytes feat ++ rest)).drop pre.length).take 2)) = feat ∧
      pre.length + 2 = (pre ++ featBytes feat).length := by
  have hbytes : featBytes feat = leBytes 2 feat.toNat := if_pos hfeat
  have hmod : feat.toNat % 256 ^ 2 = feat.toNat := Nat.mod_eq_of_lt feat.toNat_lt
  have htwo : (leBytes 2 feat.toNat).length = 2 := length_leBytes ..
  rw [hbytes, List.length_append, List.length_append, List.length_append, htwo, List.drop_left,
    List.take_left' htwo, leNat_leBytes, hmod, UInt16.ofNat_toNat]
  exact ⟨by omega, rfl, rfl⟩

theorem initFeat2_append {feat : UInt16}
    (hflag : parser.flags &&& advFeat2Mask ≠ 0 ↔ feat ≠ 0) (hzero : parser.feat2 = 0) :
    parser.initFeat2 (pre ++ (featBytes feat ++ rest)) pre.length
      = { parser with feat2 := feat }.initName (pre ++ (featBytes feat ++ rest))
        (pre ++ featBytes feat).length := by
  rw [initFeat2]
  by_cases hfeat : feat = 0
  · subst hfeat
    have hsame : { parser with feat2 := 0 } = parser := by rw [← hzero]
    rw [if_neg fun h => hflag.mp h rfl, hsame, featBytes, if_neg (not_not.mpr rfl), List.append_nil]
  · obtain ⟨hshort, hword, hnext⟩ := @take_drop_featBytes pre rest feat hfeat
    rw [if_pos (hflag.mpr hfeat), if_neg hshort, hword, hnext]

theorem initFeat1_append {feat : UInt16}
    (hflag : parser.flags &&& advFeat1Mask ≠ 0 ↔ feat ≠ 0) (hzero : parser.feat1 = 0) :
    parser.initFeat1 (pre ++ (featBytes feat ++ rest)) pre.length
      = { parser with feat1 := feat }.initFeat2 (pre ++ (featBytes feat ++ rest))
        (pre ++ featBytes feat).length := by
  rw [initFeat1]
  by_cases hfeat : feat = 0
  · subst hfeat
    have hsame : { parser with feat1 := 0 } = parser := by rw [← hzero]
    rw [if_neg fun h => hflag.mp h rfl, hsame, featBytes, if_neg (not_not.mpr rfl), List.append_nil]
  · obtain ⟨hshort, hword, hnext⟩ := @take_drop_featBytes pre rest feat hfeat
    rw [if_pos (hflag.mpr hfeat), if_neg hshort, hword, hnext]

/-- The fields behind the position. -/
theorem initFeat1_fields {feat1 feat2 : UInt16}
    (hfeat1 : parser.flags &&& advFeat1Mask ≠ 0 ↔ feat1 ≠ 0)
    (hfeat2 : parser.flags &&& advFeat2Mask ≠ 0 ↔ feat2 ≠ 0)
    (hname : parser.flags &&& advNameMask = 0 → name = []) (hlen : name.length < maxAdvertDataLen)
    (hzero1 : parser.feat1 = 0) (hzero2 : parser.feat2 = 0) (hempty : parser.name = []) :
    parser.initFeat1 (pre ++ (featBytes feat1 ++ (featBytes feat2 ++ name))) pre.length
      = { parser with feat1, feat2, name, valid := true } := by
  have h1 := @initFeat1_append parser pre (featBytes feat2 ++ name) feat1 hfeat1 hzero1
  have h2 := @initFeat2_append { parser with feat1 }
    (pre ++ featBytes feat1) name feat2 hfeat2 hzero2
  have h3 := @initName_append { parser with feat1, feat2 }
    (pre ++ featBytes feat1 ++ featBytes feat2) name hname hempty hlen
  rw [h1, ← List.append_assoc, h2, ← List.append_assoc, h3]

/-- A word of a position is read back. -/
theorem toInt32_leBytes (x : Int32) (rest : List UInt8) :
    (UInt32.ofNat (leNat ((leBytes 4 x.toUInt32.toNat ++ rest).take 4))).toInt32 = x := by
  have hmod : x.toUInt32.toNat % 256 ^ 4 = x.toUInt32.toNat := Nat.mod_eq_of_lt x.toUInt32.toNat_lt
  rw [List.take_left' (length_leBytes ..), leNat_leBytes, hmod, UInt32.ofNat_toNat]
  rfl

/-- The parser finds what the builder put in: the type, the position, the features, and as much of
the name as there is room for. -/
theorem init_encodeTo (builder : AdvertDataBuilder) (htype : builder.type &&& 0x0F = builder.type) :
    ∃ flags, flags &&& 0x0F = builder.type ∧
      (flags &&& advLatlonMask ≠ 0 ↔ builder.hasLoc = true) ∧
      init builder.encodeTo =
        { flags
          valid := true
          name := builder.shownName
          lat := if builder.hasLoc then builder.lat else 0
          lon := if builder.hasLoc then builder.lon else 0
          feat1 := builder.feat1
          feat2 := builder.feat2 } := by
  obtain ⟨hkind, hloc, hfeat1, hfeat2, hname⟩ := advertFlags_read htype builder.hasLoc
    (decide (builder.feat1 ≠ 0)) (decide (builder.feat2 ≠ 0)) (decide (builder.name ≠ []))
  rw [builder.encodeTo_eq]
  generalize advertFlags builder.type builder.hasLoc _ _ _ = flags at *
  rw [decide_eq_true_iff] at hfeat1 hfeat2 hname
  have hshown : flags &&& advNameMask = 0 → builder.shownName = [] := fun h => by
    have hnone : builder.name = [] := by_contra fun hne => hname.mpr hne h
    rw [AdvertDataBuilder.shownName, hnone, List.take_nil]
  have hlen := builder.length_shownName_lt
  refine ⟨flags, hkind, hloc, ?_⟩
  cases hhas : builder.hasLoc with
  | false =>
    have hnoloc : ¬flags &&& advLatlonMask ≠ 0 := fun h => absurd (hloc.mp h) (by rw [hhas]; decide)
    have hbytes : flags :: (builder.fields ++ builder.shownName)
        = [flags] ++ (featBytes builder.feat1 ++ (featBytes builder.feat2 ++
          builder.shownName)) := by
      simp [AdvertDataBuilder.fields, hhas]
    have hrun := @initFeat1_fields ⟨flags, false, [], 0, 0, 0, 0⟩ [flags] builder.shownName
      builder.feat1 builder.feat2 hfeat1 hfeat2 hshown hlen rfl rfl rfl
    rw [hbytes, init, if_neg (by simp)]
    exact (if_neg hnoloc).trans hrun
  | true =>
    let position := leBytes 4 builder.lat.toUInt32.toNat ++ leBytes 4 builder.lon.toUInt32.toNat
    have hbytes : flags :: (builder.fields ++ builder.shownName) = (flags :: position) ++
        (featBytes builder.feat1 ++ (featBytes builder.feat2 ++ builder.shownName)) := by
      simp [AdvertDataBuilder.fields, hhas, position]
    have hrun := @initFeat1_fields ⟨flags, false, [], builder.lat, builder.lon, 0, 0⟩
      (flags :: position) builder.shownName builder.feat1 builder.feat2 hfeat1 hfeat2
      hshown hlen rfl
      rfl rfl
    have hnine : (flags :: position).length = 9 := by simp [position]
    generalize hrest : featBytes builder.feat1 ++ (featBytes builder.feat2 ++ builder.shownName)
      = rest at hbytes hrun
    have hlong : ¬((flags :: position) ++ rest).length < 1 + 4 + 4 := by
      rw [List.length_append, hnine]
      omega
    have hlat : (UInt32.ofNat (leNat ((((flags :: position) ++ rest).drop 1).take 4))).toInt32
        = builder.lat := by
      rw [List.cons_append, List.drop_one, List.tail_cons, List.append_assoc]
      exact toInt32_leBytes builder.lat _
    have hlon : (UInt32.ofNat (leNat ((((flags :: position) ++ rest).drop 5).take 4))).toInt32
        = builder.lon := by
      rw [List.cons_append, List.drop_succ_cons, List.append_assoc,
        List.drop_left' (length_leBytes ..)]
      exact toInt32_leBytes builder.lon _
    rw [hbytes, init, if_neg (by simp)]
    refine (if_pos (hloc.mpr hhas)).trans ((if_neg hlong).trans ?_)
    rw [hlat, hlon, ← hnine]
    exact hrun

end AdvertDataParser

end Meshcore
