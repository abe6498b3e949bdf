import Meshcore.Packet

/-!
# The wire format, without cursors

What the bytes of a frame mean, stated once and independently of the encoder and of the two
parsers. A `Frame` is a well-formed frame by construction: its path length byte is valid, its path
has the announced length and its payload fits. `Frame.bytes` writes one out and `Frame.ofBytes?`
reads one back, and the two are inverse (`Frame.ofBytes?_eq_some`), so a byte string is a frame in
at most one way.

The source's functions are then compared with this description, each in one theorem: `writeTo` of
a packet is `bytes` of its frame, `readFrom` accepts the frames with a payload, and
`tryParsePacket` accepts the frames of version 0, with or without one. Everything said about the
codec is read off these three.

## Main definitions

* `Body`, `Frame` — path length, path and payload; and the same with header and transport codes
* `Frame.onto` — a packet with a frame's fields written into it
* `Packet.toFrame` — the frame of a packet the encoder accepts

## Main results

* `Frame.ofBytes?_eq_some` — `bytes` and `ofBytes?` are inverse
* `Packet.writeTo_eq`, `Packet.readFrom_answers`, `tryParsePacket_answers` — what the source
  computes
-/

namespace Meshcore

/-- How many path bytes a path length byte announces. -/
def pathByteLenOf (pathLen : UInt8) : ℕ := pathLen.toNat % 64 * (pathLen.toNat / 64 + 1)

/-- Whether a header byte announces transport codes. -/
def hasCodes (header : UInt8) : Bool :=
  header &&& phRouteMask == routeTypeTransportFlood ||
    header &&& phRouteMask == routeTypeTransportDirect

theorem Packet.hasTransportCodes_eq (packet : Packet) :
    packet.hasTransportCodes = hasCodes packet.header := rfl

theorem Packet.getPathByteLen_eq (packet : Packet) :
    packet.getPathByteLen.toNat = pathByteLenOf packet.pathLenField :=
  packet.toNat_getPathByteLen

theorem pathByteLenOf_le {pathLen : UInt8} (h : isValidPathLen pathLen = true) :
    pathByteLenOf pathLen ≤ 64 := (isValidPathLen_iff.mp h).2

/-! ### The part after the transport codes -/

/-- Path length, path and payload of a well-formed frame. -/
@[ext]
structure Body where
  pathLen : UInt8
  path : List UInt8
  payload : List UInt8
  valid : isValidPathLen pathLen = true
  length_path : path.length = pathByteLenOf pathLen
  length_payload : payload.length ≤ packetPayloadMaxLen

namespace Body

/-- A body as it is sent. -/
def bytes (b : Body) : List UInt8 := b.pathLen :: (b.path ++ b.payload)

/-- What a body's path length byte asks of the bytes after it. -/
def Fits (x : UInt8) (rest : List UInt8) : Prop :=
  isValidPathLen x = true ∧ pathByteLenOf x ≤ rest.length ∧
    rest.length - pathByteLenOf x ≤ 184

instance (x : UInt8) (rest : List UInt8) : Decidable (Fits x rest) :=
  inferInstanceAs (Decidable (_ ∧ _ ∧ _))

/-- The body a byte string is, if it is one. -/
def ofBytes? : List UInt8 → Option Body
  | [] => none
  | x :: rest =>
    if h : Fits x rest then
      some ⟨x, rest.take (pathByteLenOf x), rest.drop (pathByteLenOf x), h.1,
        List.length_take_of_le h.2.1, by rw [List.length_drop]; exact h.2.2⟩
    else none

theorem ofBytes?_cons_eq_none {x : UInt8} {rest : List UInt8} :
    ofBytes? (x :: rest) = none ↔ ¬Fits x rest := by
  constructor
  · intro h hfits
    rw [ofBytes?, dif_pos hfits] at h
    exact Option.some_ne_none _ h
  · exact fun h => dif_neg h

theorem ofBytes?_bytes (b : Body) : ofBytes? b.bytes = some b := by
  have hlen : (b.path ++ b.payload).length = pathByteLenOf b.pathLen + b.payload.length := by
    rw [List.length_append, b.length_path]
  have hle : b.payload.length ≤ 184 := b.length_payload
  have hcond : Fits b.pathLen (b.path ++ b.payload) := ⟨b.valid, by omega, by omega⟩
  rw [bytes, ofBytes?, dif_pos hcond]
  congr 1
  ext1
  · rfl
  · exact List.take_left' b.length_path
  · exact List.drop_left' b.length_path

/-- A byte string is a body in exactly the way `ofBytes?` reads it. -/
theorem ofBytes?_eq_some {bs : List UInt8} {b : Body} : ofBytes? bs = some b ↔ b.bytes = bs := by
  constructor
  · intro h
    cases bs with
    | nil => simp [ofBytes?] at h
    | cons x rest =>
      rw [ofBytes?] at h
      split at h
      · obtain rfl := Option.some.inj h
        simp [bytes]
      · simp at h
  · rintro rfl
    exact b.ofBytes?_bytes

/-- The packet with a body's fields written into it. -/
def onto (b : Body) (packet : Packet) : Packet :=
  { packet with
    pathLen := b.pathLen.toUInt16
    path := packet.path.store 0 b.path
    payloadLen := b.payload.length
    payload := packet.payload.store 0 b.payload }

end Body

/-! ### Whole frames -/

/-- A well-formed frame. The transport codes of a route without them are zero. -/
@[ext]
structure Frame where
  header : UInt8
  transportCodes : UInt16 × UInt16
  body : Body
  codes_eq : hasCodes header = false → transportCodes = (0, 0)

namespace Frame

/-- The transport codes as they are sent: four bytes, or none. -/
def codeBytes (header : UInt8) (codes : UInt16 × UInt16) : List UInt8 :=
  if hasCodes header then leBytes 2 codes.1.toNat ++ leBytes 2 codes.2.toNat else []

/-- A frame as it is sent. -/
def bytes (f : Frame) : List UInt8 :=
  f.header :: (codeBytes f.header f.transportCodes ++ f.body.bytes)

/-- The frame a byte string is, if it is one. -/
def ofBytes? : List UInt8 → Option Frame
  | [] => none
  | header :: rest =>
    if h : hasCodes header = true then
      if 4 ≤ rest.length then
        (Body.ofBytes? (rest.drop 4)).map fun body =>
          ⟨header,
            (UInt16.ofNat (leNat (rest.take 2)), UInt16.ofNat (leNat ((rest.drop 2).take 2))),
            body, by simp [h]⟩
      else none
    else (Body.ofBytes? rest).map fun body => ⟨header, (0, 0), body, fun _ => rfl⟩

/-- The packet with a frame's fields written into it. -/
def onto (f : Frame) (packet : Packet) : Packet :=
  f.body.onto { packet with header := f.header, transportCodes := f.transportCodes }

end Frame

/-- A transport code read back from its two bytes. -/
theorem code_of_leBytes (c : UInt16) : UInt16.ofNat (leNat (leBytes 2 c.toNat)) = c := by
  have hlt : c.toNat < 256 ^ 2 := c.toNat_lt
  rw [leNat_leBytes, Nat.mod_eq_of_lt hlt, UInt16.ofNat_toNat]

/-- Two bytes read as a transport code and written out again. -/
theorem leBytes_code {xs : List UInt8} (h : xs.length = 2) :
    leBytes 2 (UInt16.ofNat (leNat xs)).toNat = xs := by
  have hlt : leNat xs < 65536 := by simpa [h] using leNat_lt xs
  rw [UInt16.toNat_ofNat_of_lt' hlt, ← h, leBytes_leNat]

namespace Frame

theorem ofBytes?_bytes (f : Frame) : ofBytes? f.bytes = some f := by
  rw [bytes, ofBytes?, codeBytes]
  by_cases h : hasCodes f.header = true
  · have htake : (leBytes 2 f.transportCodes.1.toNat ++ leBytes 2 f.transportCodes.2.toNat
        ++ f.body.bytes).drop 4 = f.body.bytes := List.drop_left' (by simp)
    rw [dif_pos h, if_pos h, if_pos (by simp; omega), htake, f.body.ofBytes?_bytes,
      Option.map_some]
    congr 1
    ext1
    · rfl
    · dsimp only
      rw [List.append_assoc, List.take_left' (length_leBytes 2 _),
        List.drop_left' (length_leBytes 2 _), List.take_left' (length_leBytes 2 _),
        code_of_leBytes, code_of_leBytes]
    · rfl
  · have hcodes := f.codes_eq (by simpa using h)
    rw [dif_neg h, if_neg h, List.nil_append, f.body.ofBytes?_bytes, Option.map_some]
    congr 1
    ext1
    · rfl
    · exact hcodes.symm
    · rfl

/-- A byte string is a frame in exactly the way `ofBytes?` reads it. -/
theorem ofBytes?_eq_some {bs : List UInt8} {f : Frame} : ofBytes? bs = some f ↔ f.bytes = bs := by
  constructor
  · intro h
    cases bs with
    | nil => simp [ofBytes?] at h
    | cons header rest =>
      rw [ofBytes?] at h
      split at h
      case isTrue hc =>
        split at h
        case isTrue hlen =>
          obtain ⟨body, hbody, rfl⟩ := Option.map_eq_some_iff.mp h
          have h₁ : (rest.take 2).length = 2 := by simp; omega
          have h₂ : ((rest.drop 2).take 2).length = 2 := by simp; omega
          rw [bytes, codeBytes, if_pos hc, leBytes_code h₁, leBytes_code h₂,
            Body.ofBytes?_eq_some.mp hbody, ← List.take_add, List.take_append_drop]
        case isFalse => simp at h
      case isFalse hc =>
        obtain ⟨body, hbody, rfl⟩ := Option.map_eq_some_iff.mp h
        rw [bytes, codeBytes, if_neg hc, List.nil_append, Body.ofBytes?_eq_some.mp hbody]
  · rintro rfl
    exact f.ofBytes?_bytes

@[simp] theorem onto_header (f : Frame) (packet : Packet) :
    (f.onto packet).header = f.header := rfl

@[simp] theorem onto_transportCodes (f : Frame) (packet : Packet) :
    (f.onto packet).transportCodes = f.transportCodes := rfl

@[simp] theorem onto_pathLenField (f : Frame) (packet : Packet) :
    (f.onto packet).pathLenField = f.body.pathLen := by
  simp [onto, Body.onto, Packet.pathLenField]

@[simp] theorem onto_payloadLen (f : Frame) (packet : Packet) :
    (f.onto packet).payloadLen = f.body.payload.length := rfl

@[simp] theorem onto_pathBytes (f : Frame) (packet : Packet) :
    (f.onto packet).pathBytes = f.body.path := by
  have hle : 0 + f.body.path.length ≤ maxPathLen := by
    rw [f.body.length_path, Nat.zero_add]
    exact pathByteLenOf_le f.body.valid
  rw [Packet.pathBytes, Packet.getPathByteLen_eq, onto_pathLenField, ← f.body.length_path]
  exact Buf.slice_store_self _ hle

@[simp] theorem onto_payloadBytes (f : Frame) (packet : Packet) :
    (f.onto packet).payloadBytes = f.body.payload :=
  Buf.slice_store_self _ (by rw [Nat.zero_add]; exact f.body.length_payload)

theorem length_bytes (f : Frame) :
    f.bytes.length = 2 + pathByteLenOf f.body.pathLen + f.body.payload.length
      + (if hasCodes f.header then 4 else 0) := by
  have := f.body.length_path
  by_cases h : hasCodes f.header = true <;>
    simp [bytes, codeBytes, Body.bytes, h] <;> omega

/-- A frame never outgrows the maximum transmission unit. -/
theorem length_bytes_lt (f : Frame) : f.bytes.length < 255 := by
  have h₁ := pathByteLenOf_le f.body.valid
  have h₂ : f.body.payload.length ≤ 184 := f.body.length_payload
  rw [length_bytes]
  split <;> omega

end Frame

/-! ### The encoder -/

/-- The packets `writeTo` accepts. -/
structure Packet.Encodable (packet : Packet) : Prop where
  validPathLen : isValidPathLen packet.pathLenField = true
  payloadLen_le : packet.payloadLen ≤ 184

namespace Packet

variable {packet : Packet}

theorem Encodable.pathByteLen_le (h : packet.Encodable) :
    packet.getPathByteLen.toNat ≤ 64 := by
  rw [getPathByteLen_eq]
  exact pathByteLenOf_le h.validPathLen

/-- The frame of a packet the encoder accepts. -/
def toFrame (packet : Packet) (h : packet.Encodable) : Frame where
  header := packet.header
  transportCodes := if packet.hasTransportCodes then packet.transportCodes else (0, 0)
  body :=
    { pathLen := packet.pathLenField
      path := packet.pathBytes
      payload := packet.payloadBytes
      valid := h.validPathLen
      length_path := by
        rw [pathBytes, Buf.length_slice_of_le _ (by simpa using h.pathByteLen_le),
          getPathByteLen_eq]
      length_payload := (Buf.length_slice _ _ _).trans_le (Nat.min_le_right _ _) }
  codes_eq := by
    rw [hasTransportCodes_eq]
    intro hc
    simp [hc]

theorem length_payloadBytes (h : packet.Encodable) :
    packet.payloadBytes.length = packet.payloadLen :=
  Buf.length_slice_of_le _ (by simpa using h.payloadLen_le)

/-- The length computed without encoding is the length of the frame. -/
theorem length_toFrame_bytes (h : packet.Encodable) :
    (packet.toFrame h).bytes.length = packet.getRawLength := by
  rw [Frame.length_bytes, getRawLength, getPathByteLen_eq, hasTransportCodes_eq]
  simp only [toFrame, length_payloadBytes h]
  rfl

/-- **The encoder writes the frame.** The 8-bit cursor ends on the frame's length. -/
theorem writeTo_eq (h : packet.Encodable) {n : ℕ} (hn : 255 ≤ n) (dest : Buf n) :
    packet.writeTo dest
      = ((packet.toFrame h).bytes.length, dest.store 0 (packet.toFrame h).bytes) := by
  have hlt := (packet.toFrame h).length_bytes_lt
  have hraw := length_toFrame_bytes h
  have hpath : packet.pathBytes.length = pathByteLenOf packet.pathLenField :=
    (packet.toFrame h).body.length_path
  have hpay := length_payloadBytes h
  have hwrite : ∀ (d : Buf n) (i : ℕ), writePath d i packet.path packet.pathLenField
      = (packet.pathBytes.length, d.store i packet.pathBytes) := by
    intro d i
    have hle := pathByteLenOf_le h.validPathLen
    rw [writePath, toNat_hashCountOf, toNat_hashSizeOf, hpath, pathBytes, getPathByteLen_eq]
    exact if_neg (not_lt.mpr hle)
  rw [writeTo]
  simp only [h.validPathLen, Bool.not_true, Bool.false_or, decide_eq_true_eq,
    if_neg (not_lt.mpr h.payloadLen_le)]
  by_cases hc : packet.hasTransportCodes = true
  · have hlen : (packet.toFrame h).bytes.length
        = 6 + packet.pathBytes.length + packet.payloadLen := by
      rw [hraw, getRawLength, getPathByteLen_eq, ← hpath, if_pos hc]
      omega
    have hbytes : (packet.toFrame h).bytes = [packet.header]
        ++ (leBytes 2 packet.transportCodes.1.toNat ++ (leBytes 2 packet.transportCodes.2.toNat
        ++ ([packet.pathLenField] ++ (packet.pathBytes ++ packet.payloadBytes)))) := by
      have hc' : hasCodes packet.header = true := hc
      simp [Frame.bytes, Frame.codeBytes, toFrame, Body.bytes, hc, hc']
    rw [if_pos hc]
    simp only [hwrite, ← payloadBytes.eq_1, Buf.set]
    rw [Buf.store_store_append, Buf.store_store_append, Buf.store_store_append,
      Buf.store_store_append, Buf.store_store_append, ← hbytes, hlen]
    · congr 1; omega
    all_goals simp <;> omega
  · have hlen : (packet.toFrame h).bytes.length
        = 2 + packet.pathBytes.length + packet.payloadLen := by
      rw [hraw, getRawLength, getPathByteLen_eq, ← hpath, if_neg hc]
      omega
    have hbytes : (packet.toFrame h).bytes = [packet.header]
        ++ ([packet.pathLenField] ++ (packet.pathBytes ++ packet.payloadBytes)) := by
      have hc' : ¬hasCodes packet.header = true := hc
      simp [Frame.bytes, Frame.codeBytes, toFrame, Body.bytes, hc']
    rw [if_neg hc]
    simp only [hwrite, ← payloadBytes.eq_1, Buf.set]
    rw [Buf.store_store_append, Buf.store_store_append, Buf.store_store_append, ← hbytes, hlen]
    · congr 1; omega
    all_goals simp <;> omega

end Packet

/-! ### The parsers -/

/-- A parser answered: with `true` and this packet, or with `false` and some packet. In both cases
it made no access outside an array. -/
def Answers (result : Option (Bool × Packet)) : Option Packet → Prop
  | some packet => result = some (true, packet)
  | none => ∃ packet, result = some (false, packet)

/-- What a parser finds from a cursor at which a body starts. -/
structure Body.At (b : Body) (src : List UInt8) (i : ℕ) : Prop where
  length_eq : src.length = i + 1 + pathByteLenOf b.pathLen + b.payload.length
  pathLen : readAt src i = some b.pathLen
  path : sliceAt src (i + 1) (pathByteLenOf b.pathLen) = some b.path
  payload : sliceAt src (i + 1 + pathByteLenOf b.pathLen) b.payload.length = some b.payload

theorem Body.at_of_bytes {b : Body} {src : List UInt8} {i : ℕ} (h : b.bytes = src.drop i) :
    b.At src i := by
  have hcons : src.drop i = [b.pathLen] ++ (b.path ++ (b.payload ++ [])) := by simp [← h, bytes]
  have hlen : src.length = i + 1 + b.path.length + b.payload.length := by
    have := congrArg List.length hcons
    simp at this
    omega
  have hpath : src.drop (i + 1) = b.path ++ (b.payload ++ []) := by
    rw [← List.drop_drop, hcons]
    rfl
  have hpay : src.drop (i + 1 + b.path.length) = b.payload := by
    rw [← List.drop_drop, hpath, List.drop_left' rfl, List.append_nil]
  refine ⟨by rw [← b.length_path, hlen], ?_, ?_, ?_⟩
  · rw [readAt, ← List.head?_drop, hcons]
    rfl
  · rw [← b.length_path, sliceAt_of_le (by omega), hpath, List.take_left' rfl]
  · rw [← b.length_path, sliceAt_of_le (by omega), hpay, List.take_length]

theorem Body.storeAt_path (b : Body) (path : Buf maxPathLen) :
    path.storeAt 0 b.path = some (path.store 0 b.path) :=
  Buf.storeAt_of_le _ (by rw [Nat.zero_add, b.length_path]; exact pathByteLenOf_le b.valid)

theorem Body.storeAt_payload (b : Body) (payload : Buf packetPayloadMaxLen) :
    payload.storeAt 0 b.payload = some (payload.store 0 b.payload) :=
  Buf.storeAt_of_le _ (by rw [Nat.zero_add]; exact b.length_payload)

/-- The path copy of both parsers stays inside the frame and the array, whatever follows it. -/
theorem storeAt_path_of_valid {x : UInt8} (hv : isValidPathLen x = true) {src : List UInt8} {i : ℕ}
    (h : i + pathByteLenOf x ≤ src.length) (path : Buf maxPathLen) :
    ∃ path', (sliceAt src i (pathByteLenOf x)).bind (path.storeAt 0) = some path' := by
  have hle := pathByteLenOf_le hv
  have htake : 0 + ((src.drop i).take (pathByteLenOf x)).length ≤ maxPathLen := by
    rw [Nat.zero_add, List.length_take_of_le (by simp; omega)]
    exact hle
  exact ⟨_, by rw [sliceAt_of_le h, Option.bind_some, Buf.storeAt_of_le _ htake]⟩

@[simp] theorem pathLenField_mk (packet : Packet) (x : UInt8) :
    ({ packet with pathLen := x.toUInt16 } : Packet).pathLenField = x := by
  simp [Packet.pathLenField]

/-- The first byte from a cursor inside the frame. -/
theorem drop_eq_cons {src : List UInt8} {i : ℕ} (h : i < src.length) :
    ∃ x, readAt src i = some x ∧ src.drop i = x :: src.drop (i + 1) :=
  ⟨src[i], List.getElem?_eq_getElem h, List.drop_eq_getElem_cons h⟩

/-- A function parses the part after the transport codes, accepting the bodies that pass `ok`. -/
def ParsesBody (tail : Packet → List UInt8 → ℕ → Option (Bool × Packet)) (ok : Body → Bool)
    (src : List UInt8) : Prop :=
  ∀ packet i, Answers (tail packet src i)
    (((Body.ofBytes? (src.drop i)).filter ok).map (·.onto packet))

theorem Packet.readFromPath_of_body (packet : Packet) {src : List UInt8} {i : ℕ} {b : Body}
    (hlen : src.length ≤ 255) (hat : b.At src i) :
    Answers (packet.readFromPath src i)
      (((some b).filter fun b => !b.payload.isEmpty).map (·.onto packet)) := by
  have hn := hat.length_eq
  have hcur : (i + 1) % 256 = i + 1 := by omega
  have hcur' : (i + 1 + pathByteLenOf b.pathLen) % 256 = i + 1 + pathByteLenOf b.pathLen := by
    omega
  have hpay : src.length - (i + 1 + pathByteLenOf b.pathLen) = b.payload.length := by omega
  have hle : b.payload.length ≤ 184 := b.length_payload
  rw [readFromPath, if_neg (by omega), hat.pathLen]
  simp only [Option.bind_eq_bind, Option.bind_some, pathLenField_mk, hcur, hcur',
    getPathByteLen_eq, b.valid, Bool.not_true, Bool.false_eq_true, if_false,
    if_neg (show ¬i + 1 + pathByteLenOf b.pathLen > src.length by omega), hat.path,
    b.storeAt_path, readFromPayload, hpay, if_neg (not_lt.mpr hle), hat.payload,
    b.storeAt_payload]
  cases hcons : b.payload with
  | nil =>
    have hzero : b.payload.length = 0 := by rw [hcons, List.length_nil]
    rw [Option.filter_some_neg (by simp [hcons]), if_pos (by omega)]
    exact ⟨_, rfl⟩
  | cons x xs =>
    have hpos : 0 < b.payload.length := by rw [hcons]; exact Nat.succ_pos _
    rw [Option.filter_some_pos (by simp [hcons]), if_neg (by omega), ← hcons]
    rfl

theorem Packet.readFromPath_of_none (packet : Packet) {src : List UInt8} {i : ℕ}
    (hlen : src.length ≤ 255) (h : Body.ofBytes? (src.drop i) = none) :
    ∃ q, packet.readFromPath src i = some (false, q) := by
  rw [readFromPath]
  by_cases hi : i ≥ src.length
  · exact ⟨_, if_pos hi⟩
  obtain ⟨x, hread, hdrop⟩ := drop_eq_cons (not_le.mp hi)
  rw [hdrop, Body.ofBytes?_cons_eq_none] at h
  have hcur : (i + 1) % 256 = i + 1 := by omega
  rw [if_neg hi, hread]
  simp only [Option.bind_eq_bind, Option.bind_some, pathLenField_mk, hcur, getPathByteLen_eq]
  by_cases hv : isValidPathLen x = true
  case neg => exact ⟨_, if_pos (by simp [hv])⟩
  by_cases hpath : i + 1 + pathByteLenOf x > src.length
  case pos => exact ⟨_, by rw [if_neg (by simp [hv]), if_pos hpath]⟩
  obtain ⟨path', hcopy⟩ := storeAt_path_of_valid hv (not_lt.mp hpath) packet.path
  have hcur' : (i + 1 + pathByteLenOf x) % 256 = i + 1 + pathByteLenOf x := by omega
  have hbig : ¬src.length - (i + 1 + pathByteLenOf x) ≤ 184 := by
    intro hle
    refine h ⟨hv, ?_, ?_⟩ <;> rw [List.length_drop] <;> omega
  rw [if_neg (by simp [hv]), if_neg hpath, ← Option.bind_assoc, hcopy, Option.bind_some, hcur',
    readFromPayload, if_neg (by omega)]
  exact ⟨_, if_pos (not_le.mp hbig)⟩

theorem Packet.readFromPath_parses {src : List UInt8} (hlen : src.length ≤ 255) :
    ParsesBody readFromPath (fun b => !b.payload.isEmpty) src := by
  intro packet i
  cases h : Body.ofBytes? (src.drop i) with
  | none => exact packet.readFromPath_of_none hlen h
  | some b => exact packet.readFromPath_of_body hlen (Body.at_of_bytes (Body.ofBytes?_eq_some.mp h))

theorem shiftRight_six_eq_three {x : UInt8} : x >>> (6 : UInt8) = 3 ↔ x.toNat / 64 = 3 := by
  rw [← UInt8.toNat_inj, UInt8.toNat_shiftRight, Nat.shiftRight_eq_div_pow]
  rfl

theorem tryParsePath_of_body (packet : Packet) {raw : List UInt8} {i : ℕ} {b : Body}
    (hat : b.At raw i) : tryParsePath packet raw i = some (true, b.onto packet) := by
  have hn := hat.length_eq
  have hpay : raw.length - (i + 1 + pathByteLenOf b.pathLen) = b.payload.length := by omega
  have hle : b.payload.length ≤ 184 := b.length_payload
  have hmode : ¬b.pathLen >>> (6 : UInt8) = 3 :=
    fun h => (isValidPathLen_iff.mp b.valid).1 (shiftRight_six_eq_three.mp h)
  have hfit : ¬(pathByteLenOf b.pathLen > 64 ∨ i + 1 + pathByteLenOf b.pathLen > raw.length) := by
    have := pathByteLenOf_le b.valid
    omega
  rw [tryParsePath, if_neg (by omega), hat.pathLen]
  simp only [Option.bind_eq_bind, Option.bind_some, pathLenField_mk, Packet.getPathByteLen_eq,
    if_neg hmode, if_neg hfit, hat.path, b.storeAt_path, hpay, if_neg (not_lt.mpr hle),
    hat.payload, b.storeAt_payload]
  rfl

theorem tryParsePath_of_none (packet : Packet) {raw : List UInt8} {i : ℕ}
    (h : Body.ofBytes? (raw.drop i) = none) :
    ∃ q, tryParsePath packet raw i = some (false, q) := by
  rw [tryParsePath]
  by_cases hi : i ≥ raw.length
  · exact ⟨_, if_pos hi⟩
  obtain ⟨x, hread, hdrop⟩ := drop_eq_cons (not_le.mp hi)
  rw [hdrop, Body.ofBytes?_cons_eq_none] at h
  rw [if_neg hi, hread]
  simp only [Option.bind_eq_bind, Option.bind_some, pathLenField_mk, Packet.getPathByteLen_eq]
  by_cases hmode : x >>> (6 : UInt8) = 3
  case pos => exact ⟨_, if_pos hmode⟩
  by_cases hfit : pathByteLenOf x > 64 ∨ i + 1 + pathByteLenOf x > raw.length
  case pos => exact ⟨_, by rw [if_neg hmode, if_pos hfit]⟩
  rw [not_or, not_lt, not_lt] at hfit
  have hv : isValidPathLen x = true :=
    isValidPathLen_iff.mpr ⟨fun hx => hmode (shiftRight_six_eq_three.mpr hx), hfit.1⟩
  obtain ⟨path', hcopy⟩ := storeAt_path_of_valid hv hfit.2 packet.path
  have hbig : ¬raw.length - (i + 1 + pathByteLenOf x) ≤ 184 := by
    intro hle
    refine h ⟨hv, ?_, ?_⟩ <;> rw [List.length_drop] <;> omega
  rw [if_neg hmode, if_neg (not_or.mpr ⟨not_lt.mpr hfit.1, not_lt.mpr hfit.2⟩),
    ← Option.bind_assoc, hcopy, Option.bind_some]
  exact ⟨_, if_pos (not_le.mp hbig)⟩

theorem tryParsePath_parses (raw : List UInt8) : ParsesBody tryParsePath (fun _ => true) raw := by
  intro packet i
  cases h : Body.ofBytes? (raw.drop i) with
  | none => exact tryParsePath_of_none packet h
  | some b => exact tryParsePath_of_body packet (Body.at_of_bytes (Body.ofBytes?_eq_some.mp h))

/-- The transport code part, which both parsers have, in front of `tail`. -/
def codesThen (tail : Packet → List UInt8 → ℕ → Option (Bool × Packet)) (packet : Packet)
    (src : List UInt8) : Option (Bool × Packet) :=
  if packet.hasTransportCodes then
    if 1 + 4 > src.length then some (false, packet) else do
    let code0 ← sliceAt src 1 2
    let code1 ← sliceAt src 3 2
    tail { packet with transportCodes := (UInt16.ofNat (leNat code0), UInt16.ofNat (leNat code1)) }
      src 5
  else tail { packet with transportCodes := (0, 0) } src 1

/-- Filtering frames by their body, when every frame comes from a body. -/
theorem filter_map_body {mk : Body → Frame} {ok : Body → Bool} {packet : Packet}
    (packet' : Packet) (hbody : ∀ b, (mk b).body = b)
    (honto : ∀ b, (mk b).onto packet = b.onto packet') (o : Option Body) :
    ((o.map mk).filter fun f => ok f.body).map (·.onto packet)
      = (o.filter ok).map (·.onto packet') := by
  cases o with
  | none => rfl
  | some b =>
    cases hok : ok b
    · rw [Option.filter_some_neg (by simp [hok]), Option.map_some,
        Option.filter_some_neg (by simp [hbody, hok])]
      rfl
    · rw [Option.filter_some_pos hok, Option.map_some,
        Option.filter_some_pos (by simpa [hbody] using hok), Option.map_some, honto,
        Option.map_some]

/-- A parser of bodies behind the transport codes is a parser of frames. -/
theorem codesThen_answers {tail : Packet → List UInt8 → ℕ → Option (Bool × Packet)}
    {ok : Body → Bool} (packet : Packet) {header : UInt8} {rest : List UInt8}
    (h : ParsesBody tail ok (header :: rest)) (hheader : packet.header = header) :
    Answers (codesThen tail packet (header :: rest))
      (((Frame.ofBytes? (header :: rest)).filter fun f => ok f.body).map (·.onto packet)) := by
  subst hheader
  rw [codesThen, Frame.ofBytes?, Packet.hasTransportCodes_eq]
  by_cases hc : hasCodes packet.header = true
  · rw [if_pos hc, dif_pos hc]
    by_cases hlen : 4 ≤ rest.length
    case neg =>
      rw [if_neg hlen, if_pos (by rw [List.length_cons]; omega)]
      exact ⟨_, rfl⟩
    have hslices : sliceAt (packet.header :: rest) 1 2 = some (rest.take 2) ∧
        sliceAt (packet.header :: rest) 3 2 = some ((rest.drop 2).take 2) :=
      ⟨sliceAt_of_le (by rw [List.length_cons]; omega),
        sliceAt_of_le (by rw [List.length_cons]; omega)⟩
    let packet' := { packet with
      transportCodes :=
        (UInt16.ofNat (leNat (rest.take 2)), UInt16.ofNat (leNat ((rest.drop 2).take 2))) }
    have htail := h packet' 5
    rw [List.drop_succ_cons] at htail
    rw [if_pos hlen, if_neg (by rw [List.length_cons]; omega), hslices.1, hslices.2,
      filter_map_body packet' (fun _ => rfl) (fun _ => rfl)]
    exact htail
  · let packet' := { packet with transportCodes := (0, 0) }
    rw [if_neg hc, dif_neg hc,
      filter_map_body packet' (fun _ => rfl) (fun _ => rfl)]
    exact h packet' 1

/-- **`readFrom` accepts the frames with a payload**, and fills the packet with their fields. -/
theorem Packet.readFrom_answers (packet : Packet) {src : List UInt8} (hlen : src.length ≤ 255) :
    Answers (packet.readFrom src)
      (((Frame.ofBytes? src).filter fun f => !f.body.payload.isEmpty).map (·.onto packet)) := by
  cases src with
  | nil => exact ⟨packet, rfl⟩
  | cons header rest =>
    exact codesThen_answers { packet with header := header }
      (readFromPath_parses hlen) rfl

/-- The payload version in a header byte. -/
def verOf (header : UInt8) : UInt8 := (header >>> phVerShift) &&& phVerMask

theorem Frame.header_of_bytes {f : Frame} {header : UInt8} {rest : List UInt8}
    (h : Frame.ofBytes? (header :: rest) = some f) : f.header = header :=
  (List.cons.inj (Frame.ofBytes?_eq_some.mp h)).1

/-- **`tryParsePacket` accepts the frames of version 0**, and fills the packet with their fields. -/
theorem tryParsePacket_answers (packet : Packet) (raw : List UInt8) :
    Answers (tryParsePacket packet raw)
      (((Frame.ofBytes? raw).filter fun f => decide (verOf f.header = 0)).map
        (·.onto packet)) := by
  cases raw with
  | nil => exact ⟨packet, rfl⟩
  | cons header rest =>
    have hparse : tryParsePacket packet (header :: rest)
        = if verOf header > 0 then some (false, { packet with header := header })
          else codesThen tryParsePath { packet with header := header } (header :: rest) := rfl
    have hfilter : (Frame.ofBytes? (header :: rest)).filter (fun f => decide (verOf f.header = 0))
        = if verOf header > 0 then none
          else (Frame.ofBytes? (header :: rest)).filter fun _ => true := by
      cases h : Frame.ofBytes? (header :: rest) with
      | none => simp
      | some f =>
        rw [Option.filter_some, Frame.header_of_bytes h]
        by_cases hver : verOf header = 0
        · simp [hver, Option.filter_some]
        · simp [hver, UInt8.pos_iff_ne_zero]
    rw [hparse, hfilter]
    by_cases hver : verOf header > 0
    · rw [if_pos hver, if_pos hver]
      exact ⟨_, rfl⟩
    · rw [if_neg hver, if_neg hver]
      exact codesThen_answers { packet with header := header }
        (tryParsePath_parses _) rfl

end Meshcore
