import Meshcore.Frame

/-!
# Encoding and decoding

The round trips of the packet codec, and the agreement of the two frame parsers. Each is read off
the three comparisons of `Frame` with the source: the encoder writes the frame, `readFrom` accepts
the frames with a payload, `tryParsePacket` those of version 0.

## Main results

* `Packet.readFrom_writeTo` — decoding undoes encoding
* `writeTo_of_parsed` — encoding undoes decoding, for both parsers
* `parsers_agree` — which frames the two parsers accept, and that they read them alike
-/

namespace Meshcore

/-! ### What an accepted frame is -/

theorem Answers.eq_some_true {result : Option (Bool × Packet)} {accept : Option Packet}
    (h : Answers result accept) {got : Packet} :
    result = some (true, got) ↔ accept = some got := by
  cases accept with
  | none =>
    obtain ⟨q, rfl⟩ := h
    simp
  | some packet =>
    obtain rfl := h
    simp

theorem Answers.isSome {result : Option (Bool × Packet)} {accept : Option Packet}
    (h : Answers result accept) : result.isSome := by
  cases accept with
  | none =>
    obtain ⟨q, rfl⟩ := h
    rfl
  | some packet =>
    obtain rfl := h
    rfl

theorem Packet.readFrom_eq_true {into got : Packet} {src : List UInt8} (hlen : src.length ≤ 255) :
    into.readFrom src = some (true, got) ↔
      ∃ f : Frame, f.bytes = src ∧ f.body.payload ≠ [] ∧ got = f.onto into := by
  rw [(into.readFrom_answers hlen).eq_some_true, Option.map_eq_some_iff]
  refine exists_congr fun f => ?_
  rw [Option.filter_eq_some_iff, Frame.ofBytes?_eq_some, and_assoc, eq_comm (b := got)]
  simp

theorem tryParsePacket_eq_true {into got : Packet} {raw : List UInt8} :
    tryParsePacket into raw = some (true, got) ↔
      ∃ f : Frame, f.bytes = raw ∧ verOf f.header = 0 ∧ got = f.onto into := by
  rw [(tryParsePacket_answers into raw).eq_some_true, Option.map_eq_some_iff]
  refine exists_congr fun f => ?_
  rw [Option.filter_eq_some_iff, Frame.ofBytes?_eq_some, and_assoc, eq_comm (b := got)]
  simp

namespace Frame

/-- A packet filled from a frame is one the encoder accepts. -/
theorem onto_encodable (f : Frame) (packet : Packet) : (f.onto packet).Encodable where
  validPathLen := by rw [onto_pathLenField]; exact f.body.valid
  payloadLen_le := f.body.length_payload

/-- Its frame is the one it was filled from. -/
theorem toFrame_onto (f : Frame) (packet : Packet) :
    (f.onto packet).toFrame (f.onto_encodable packet) = f := by
  have hcodes : (if hasCodes f.header then f.transportCodes else (0, 0)) = f.transportCodes := by
    cases h : hasCodes f.header
    · rw [f.codes_eq h]
      rfl
    · rfl
  ext1
  · rfl
  · exact hcodes
  · ext1
    · exact onto_pathLenField f packet
    · exact onto_pathBytes f packet
    · exact onto_payloadBytes f packet

end Frame

/-! ### Decoding undoes encoding -/

/-- The values of the encoder's cursor, before they are reduced to 8 bits. -/
def Packet.writeCursors (packet : Packet) : List ℕ :=
  let codes := if packet.hasTransportCodes then 4 else 0
  [1, 1 + codes, 2 + codes, 2 + codes + packet.getPathByteLen.toNat,
    2 + codes + packet.getPathByteLen.toNat + packet.payloadLen]

/-- **Decoding undoes encoding.** The bytes `writeTo` writes for a packet it accepts are read back
as the same packet; there are `getRawLength` of them, and the encoder's 8-bit cursor never wraps. -/
theorem Packet.readFrom_writeTo (packet into : Packet) (dest : Buf maxTransUnitLen)
    (hpath : isValidPathLen packet.pathLenField = true) (hpos : 1 ≤ packet.payloadLen)
    (hmax : packet.payloadLen ≤ packetPayloadMaxLen) :
    ∃ got, into.readFrom ((packet.writeTo dest).2.slice 0 (packet.writeTo dest).1)
        = some (true, got) ∧
      got.header = packet.header ∧ got.pathLenField = packet.pathLenField ∧
      got.pathBytes = packet.pathBytes ∧ got.payloadBytes = packet.payloadBytes ∧
      got.payloadLen = packet.payloadLen ∧
      got.transportCodes = (if packet.hasTransportCodes then packet.transportCodes else (0, 0)) ∧
      (packet.writeTo dest).1 = packet.getRawLength ∧ packet.getRawLength ≤ maxTransUnitLen ∧
      ∀ cursor ∈ packet.writeCursors, cursor < 256 := by
  have h : packet.Encodable := ⟨hpath, hmax⟩
  have hlt := (packet.toFrame h).length_bytes_lt
  have hraw := length_toFrame_bytes h
  have hpay : packet.payloadBytes ≠ [] :=
    List.ne_nil_of_length_pos (by rw [length_payloadBytes h]; exact hpos)
  have hslice : (dest.store 0 (packet.toFrame h).bytes).slice 0 (packet.toFrame h).bytes.length
      = (packet.toFrame h).bytes := Buf.slice_store_self dest (by rw [Nat.zero_add]; exact hlt.le)
  rw [writeTo_eq h le_rfl dest, hslice]
  refine ⟨(packet.toFrame h).onto into, ?_, rfl, ?_, ?_, ?_, length_payloadBytes h, rfl, hraw, ?_,
    ?_⟩
  · exact (readFrom_eq_true hlt.le).mpr ⟨_, rfl, hpay, rfl⟩
  · exact Frame.onto_pathLenField _ _
  · exact Frame.onto_pathBytes _ _
  · exact Frame.onto_payloadBytes _ _
  · exact (hraw ▸ hlt).le
  · have hcursors : ∀ cursor ∈ packet.writeCursors, cursor ≤ packet.getRawLength := by
      intro cursor hc
      simp only [writeCursors, List.mem_cons, List.not_mem_nil, or_false] at hc
      rw [getRawLength]
      omega
    intro cursor hc
    have := hcursors cursor hc
    omega

/-- A transport-routed packet with a two-byte hash goes there and back. -/
theorem Packet.readFrom_writeTo_transport :
    ∃ got, Packet.init.readFrom
        (({ Packet.init with
            pathLen := 0x41, payloadLen := 1, transportCodes := (7, 9) : Packet }.writeTo
          (Buf.zero maxTransUnitLen)).2.slice 0 9) = some (true, got) ∧
      got.transportCodes = (7, 9) := by
  obtain ⟨got, h, -, -, -, -, -, hcodes, -⟩ := Packet.readFrom_writeTo
    { Packet.init with pathLen := 0x41, payloadLen := 1, transportCodes := (7, 9) } Packet.init
    (Buf.zero maxTransUnitLen) (by decide) (by decide) (by decide)
  exact ⟨got, h, hcodes⟩

/-! ### Encoding undoes decoding -/

/-- **Encoding undoes decoding.** Whichever parser accepted a frame, `writeTo` of the packet it
filled gives back the same bytes, all of them and no others. -/
theorem writeTo_of_parsed (into got : Packet) (src : List UInt8) (dest : Buf maxTransUnitLen)
    (hlen : src.length ≤ 255)
    (h : into.readFrom src = some (true, got) ∨ tryParsePacket into src = some (true, got)) :
    (got.writeTo dest).1 = src.length ∧ (got.writeTo dest).2.slice 0 src.length = src := by
  obtain ⟨f, rfl, rfl⟩ : ∃ f : Frame, f.bytes = src ∧ got = f.onto into := by
    rcases h with h | h
    · obtain ⟨f, hf, -, hgot⟩ := (Packet.readFrom_eq_true hlen).mp h
      exact ⟨f, hf, hgot⟩
    · obtain ⟨f, hf, -, hgot⟩ := tryParsePacket_eq_true.mp h
      exact ⟨f, hf, hgot⟩
  rw [Packet.writeTo_eq (f.onto_encodable into) le_rfl dest, f.toFrame_onto]
  exact ⟨rfl, Buf.slice_store_self dest (by simpa using hlen)⟩

/-- A flood frame with an empty path and one payload byte. -/
theorem writeTo_of_parsed_flood :
    ∃ got : Packet, (got.writeTo (Buf.zero maxTransUnitLen)).2.slice 0 3 = [0x11, 0, 0x2A] := by
  obtain ⟨got, h⟩ : ∃ got, tryParsePacket Packet.init [0x11, 0, 0x2A] = some (true, got) :=
    ⟨_, rfl⟩
  exact ⟨got, (writeTo_of_parsed Packet.init got [0x11, 0, 0x2A] (Buf.zero maxTransUnitLen)
    (by decide) (.inr h)).2⟩

/-! ### On the air -/

theorem Frame.bytes_injective : Function.Injective Frame.bytes := fun f f' h => by
  have hf := Frame.ofBytes?_bytes f
  rw [h, Frame.ofBytes?_bytes f'] at hf
  exact (Option.some.inj hf).symm

/-- The bytes of a packet that is sent. -/
def Packet.sentBytes (packet : Packet) : List UInt8 :=
  let written := packet.writeTo (Buf.zero maxTransUnitLen)
  written.2.slice 0 written.1

/-- `received` is what a node makes of the frame that is sent for `packet`. -/
def OnAir (packet received : Packet) : Prop :=
  ∃ into, tryParsePacket into packet.sentBytes = some (true, received)

/-- What is received is well formed and has the fields of what was sent. -/
structure OnAirFields (packet received : Packet) : Prop where
  header : received.header = packet.header
  pathLenField : received.pathLenField = packet.pathLenField
  pathBytes : received.pathBytes = packet.pathBytes
  payloadLen : received.payloadLen = packet.payloadLen
  payloadBytes : received.payloadBytes = packet.payloadBytes
  encodable : received.Encodable

theorem Packet.sentBytes_eq {packet : Packet} (henc : packet.Encodable) :
    packet.sentBytes = (packet.toFrame henc).bytes := by
  have hlt := (packet.toFrame henc).length_bytes_lt
  rw [Packet.sentBytes, Packet.writeTo_eq henc le_rfl]
  exact Buf.slice_store_self _ (by rw [Nat.zero_add]; exact hlt.le)

/-- A packet of version 0 that the encoder accepts is received. -/
theorem exists_onAir {packet : Packet} (henc : packet.Encodable) (hver : verOf packet.header = 0) :
    ∃ received, OnAir packet received :=
  ⟨_, Packet.init, tryParsePacket_eq_true.mpr
    ⟨packet.toFrame henc, (Packet.sentBytes_eq henc).symm, hver, rfl⟩⟩

/-- A packet that is received was filled from the frame of the packet that was sent. -/
theorem OnAir.exists_onto {packet received : Packet} (h : OnAir packet received) :
    ∃ (henc : packet.Encodable) (into : Packet), received = (packet.toFrame henc).onto into := by
  obtain ⟨into, hparse⟩ := h
  by_cases henc : packet.Encodable
  · obtain ⟨f, hf, -, rfl⟩ := tryParsePacket_eq_true.mp hparse
    obtain rfl := Frame.bytes_injective (hf.trans (Packet.sentBytes_eq henc))
    exact ⟨henc, into, rfl⟩
  · have hrefused : packet.sentBytes = [] := by
      have hcond : (!isValidPathLen packet.pathLenField ||
          decide (packet.payloadLen > packetPayloadMaxLen)) = true := by
        by_contra hno
        simp only [Bool.or_eq_true, Bool.not_eq_true', decide_eq_true_eq, not_or,
          Bool.not_eq_false, not_lt] at hno
        exact henc ⟨hno.1, hno.2⟩
      rw [Packet.sentBytes, Packet.writeTo]
      simp only [hcond, if_true, Buf.slice_zero]
    rw [hrefused] at hparse
    simp [tryParsePacket] at hparse

theorem Packet.onAirFields_onto {packet : Packet} (henc : packet.Encodable) (into : Packet) :
    OnAirFields packet ((packet.toFrame henc).onto into) :=
  ⟨rfl, Frame.onto_pathLenField _ _, Frame.onto_pathBytes _ _, Packet.length_payloadBytes henc,
    Frame.onto_payloadBytes _ _, Frame.onto_encodable _ _⟩

theorem OnAir.fields {packet received : Packet} (h : OnAir packet received) :
    OnAirFields packet received := by
  obtain ⟨henc, into, rfl⟩ := h.exists_onto
  exact Packet.onAirFields_onto henc into

/-- The bytes of a packet with a payload are read back, wherever to. -/
theorem Packet.readFrom_sentBytes {packet : Packet} (henc : packet.Encodable)
    (hpos : 0 < packet.payloadLen) (into : Packet) :
    into.readFrom packet.sentBytes = some (true, (packet.toFrame henc).onto into) := by
  have hlt := (packet.toFrame henc).length_bytes_lt
  have hpay : packet.payloadBytes ≠ [] :=
    List.ne_nil_of_length_pos (by rwa [Packet.length_payloadBytes henc])
  rw [Packet.sentBytes_eq henc]
  exact (Packet.readFrom_eq_true hlt.le).mpr ⟨_, rfl, hpay, rfl⟩

/-- The transport codes are those of the packet that was sent, or 0 where the frame has none. -/
theorem OnAir.transportCodes {packet received : Packet} (h : OnAir packet received) :
    received.transportCodes
      = if packet.hasTransportCodes then packet.transportCodes else (0, 0) := by
  obtain ⟨henc, into, rfl⟩ := h.exists_onto
  rfl

/-! ### The two parsers -/

/-- A byte string is a well-formed header and path, with nothing after them. -/
def HeaderAndPathOnly (src : List UInt8) : Prop :=
  ∃ f : Frame, f.bytes = src ∧ f.body.payload = []

/-- Two packets agree on everything a parser reads from a frame. -/
structure SameFields (packet packet' : Packet) : Prop where
  header : packet.header = packet'.header
  transportCodes : packet.transportCodes = packet'.transportCodes
  pathLen : packet.pathLen = packet'.pathLen
  pathBytes : packet.pathBytes = packet'.pathBytes
  payloadBytes : packet.payloadBytes = packet'.payloadBytes
  payloadLen : packet.payloadLen = packet'.payloadLen

/-- Packets filled from one frame agree, whatever was in them before. -/
theorem Frame.sameFields_onto (f : Frame) (packet packet' : Packet) :
    SameFields (f.onto packet) (f.onto packet') where
  header := rfl
  transportCodes := rfl
  pathLen := rfl
  pathBytes := by rw [onto_pathBytes, onto_pathBytes]
  payloadBytes := by rw [onto_payloadBytes, onto_payloadBytes]
  payloadLen := rfl

/-- **The two parsers agree.** The dispatcher's parser accepts the frames of version 0 that
`readFrom` accepts or that are a header and a path only; what both accept they read alike; and
neither makes an access outside the frame or outside an array. -/
theorem parsers_agree (into into' : Packet) (src : List UInt8) (hpos : 0 < src.length)
    (hlen : src.length ≤ 255) :
    ((∃ got, tryParsePacket into src = some (true, got)) ↔
      verOf src[0] = 0 ∧
        ((∃ got, into'.readFrom src = some (true, got)) ∨ HeaderAndPathOnly src)) ∧
    (∀ got got', tryParsePacket into src = some (true, got) →
      into'.readFrom src = some (true, got') → SameFields got got') ∧
    (tryParsePacket into src).isSome ∧ (into'.readFrom src).isSome := by
  have hfirst : ∀ f : Frame, f.bytes = src → f.header = src[0] := by
    rintro f rfl
    rfl
  refine ⟨⟨?_, ?_⟩, ?_, (tryParsePacket_answers into src).isSome,
    (into'.readFrom_answers hlen).isSome⟩
  · rintro ⟨got, h⟩
    obtain ⟨f, hf, hver, -⟩ := tryParsePacket_eq_true.mp h
    refine ⟨hfirst f hf ▸ hver, ?_⟩
    by_cases hpay : f.body.payload = []
    · exact .inr ⟨f, hf, hpay⟩
    · exact .inl ⟨_, (Packet.readFrom_eq_true hlen).mpr ⟨f, hf, hpay, rfl⟩⟩
  · rintro ⟨hver, ⟨got, h⟩ | ⟨f, hf, -⟩⟩
    · obtain ⟨f, hf, -, -⟩ := (Packet.readFrom_eq_true hlen).mp h
      exact ⟨_, tryParsePacket_eq_true.mpr ⟨f, hf, hfirst f hf ▸ hver, rfl⟩⟩
    · exact ⟨_, tryParsePacket_eq_true.mpr ⟨f, hf, hfirst f hf ▸ hver, rfl⟩⟩
  · intro got got' h h'
    obtain ⟨f, hf, -, rfl⟩ := tryParsePacket_eq_true.mp h
    obtain ⟨f', hf', -, rfl⟩ := (Packet.readFrom_eq_true hlen).mp h'
    obtain rfl := Frame.bytes_injective (hf.trans hf'.symm)
    exact f.sameFields_onto into into'

/-- A header and a path only: the dispatcher takes it, `readFrom` does not. -/
theorem parsers_agree_empty :
    ∃ got, tryParsePacket Packet.init [0x11, 0] = some (true, got) :=
  (parsers_agree Packet.init Packet.init [0x11, 0] (by decide) (by decide)).1.mpr
    ⟨by decide, .inr ⟨⟨0x11, (0, 0), ⟨0, [], [], by decide, rfl, by decide⟩, fun _ => rfl⟩, rfl,
      rfl⟩⟩

end Meshcore
