import Meshcore.Lib.Buf

/-!
# Packets and the wire format

The packet record of `core/meshcore_packet.c`, its accessors, the encoder `writeTo` and the two
frame parsers: `readFrom`, and the dispatcher's own `tryParsePacket`.

A packet keeps its full fixed arrays, so the bytes of `path` past `getPathByteLen` and of
`payload` past `payloadLen` are there and stale, as they are in the pool's buffers. `pathLen` is
the 16-bit field of the source, of which most accessors look at the low byte only.

## The parsers and their accesses

Both parsers fill a caller's packet and answer a `Bool`; on `false` the packet keeps what was
written before the failing check. Reads of the frame and writes of the two arrays are the checked
ones of `Buf`, so a parser answers in `Option`, and `none` would be an access outside the frame or
outside an array. The cursor of `readFrom` is 8 bits wide, that of `tryParsePacket` is an `int`.

## Main definitions

* `Packet` and its accessors, under the source's names
* `isValidPathLen`, `writePath`, `copyPath` — the packed path length and the copies it governs
* `Packet.writeTo`, `Packet.readFrom`, `tryParsePacket`
* `Packet.getRawLength` — the length the source computes without encoding
-/

namespace Meshcore

/-! ### Constants -/

abbrev maxPathLen : ℕ := 64
abbrev packetPayloadMaxLen : ℕ := 184
abbrev maxTransUnitLen : ℕ := 255
abbrev packetHashSize : ℕ := 8

abbrev phRouteMask : UInt8 := 0x03
abbrev phTypeShift : UInt8 := 2
abbrev phTypeMask : UInt8 := 0x0F
abbrev phVerShift : UInt8 := 6
abbrev phVerMask : UInt8 := 0x03

abbrev routeTypeTransportFlood : UInt8 := 0x00
abbrev routeTypeFlood : UInt8 := 0x01
abbrev routeTypeDirect : UInt8 := 0x02
abbrev routeTypeTransportDirect : UInt8 := 0x03

abbrev payloadTypeReq : UInt8 := 0x00
abbrev payloadTypeResponse : UInt8 := 0x01
abbrev payloadTypeTxtMsg : UInt8 := 0x02
abbrev payloadTypeAck : UInt8 := 0x03
abbrev payloadTypeAdvert : UInt8 := 0x04
abbrev payloadTypeGrpTxt : UInt8 := 0x05
abbrev payloadTypeGrpData : UInt8 := 0x06
abbrev payloadTypeAnonReq : UInt8 := 0x07
abbrev payloadTypePath : UInt8 := 0x08
abbrev payloadTypeTrace : UInt8 := 0x09
abbrev payloadTypeMultipart : UInt8 := 0x0A
abbrev payloadTypeControl : UInt8 := 0x0B
abbrev payloadTypeRawCustom : UInt8 := 0x0F

abbrev payloadVer1 : UInt8 := 0x00

abbrev pathExtraTypeSnr : UInt8 := 0x0E

abbrev snrTransportCode0 : UInt16 := 0x534E
abbrev snrTransportCode1 : UInt16 := 0x0001

/-! ### The record -/

/-- `struct meshcore_packet`. -/
@[ext]
structure Packet where
  header : UInt8
  payloadLen : ℕ
  pathLen : UInt16
  transportCodes : UInt16 × UInt16
  path : Buf maxPathLen
  payload : Buf packetPayloadMaxLen
  snrQ4 : Int8
deriving DecidableEq

/-- `meshcore_packet_init`: every field zero. -/
def Packet.init : Packet where
  header := 0
  payloadLen := 0
  pathLen := 0
  transportCodes := (0, 0)
  path := Buf.zero _
  payload := Buf.zero _
  snrQ4 := 0

instance : Inhabited Packet := ⟨Packet.init⟩

/-! ### The packed path length -/

/-- The hash count in a path length byte, its low six bits. -/
def hashCountOf (pathLen : UInt8) : UInt8 := pathLen &&& 63

/-- The hash size in a path length byte, one more than its top two bits. -/
def hashSizeOf (pathLen : UInt8) : UInt8 := (pathLen >>> 6) + 1

/-- `meshcore_packet_is_valid_path_len`. -/
def isValidPathLen (pathLen : UInt8) : Bool :=
  if hashSizeOf pathLen = 4 then false
  else decide ((hashCountOf pathLen).toNat * (hashSizeOf pathLen).toNat ≤ maxPathLen)

@[simp] theorem toNat_hashCountOf (pathLen : UInt8) :
    (hashCountOf pathLen).toNat = pathLen.toNat % 64 := by
  simp [hashCountOf, Nat.and_two_pow_sub_one_eq_mod _ 6]

@[simp] theorem toNat_hashSizeOf (pathLen : UInt8) :
    (hashSizeOf pathLen).toNat = pathLen.toNat / 64 + 1 := by
  have h := pathLen.toNat_lt
  have heq : (hashSizeOf pathLen).toNat = (pathLen.toNat / 64 + 1) % 256 := by
    simp [hashSizeOf, Nat.shiftRight_eq_div_pow]
  omega

theorem hashCountOf_mul_hashSizeOf_lt (pathLen : UInt8) :
    pathLen.toNat % 64 * (pathLen.toNat / 64 + 1) < 256 := by
  have h := pathLen.toNat_lt
  calc pathLen.toNat % 64 * (pathLen.toNat / 64 + 1)
      ≤ 63 * 4 := Nat.mul_le_mul (by omega) (by omega)
    _ < 256 := by decide

/-- The two high bits of a byte. -/
theorem and_highBits {n : ℕ} (h : n < 256) : n &&& 192 = 64 * (n / 64) := by
  have hall : ∀ k : Fin 256, k.val &&& 192 = 64 * (k.val / 64) := by decide +kernel
  exact hall ⟨n, h⟩

/-- A valid path length announces at most three-byte hashes and at most `maxPathLen` bytes. -/
theorem isValidPathLen_iff {pathLen : UInt8} :
    isValidPathLen pathLen = true ↔ pathLen.toNat / 64 ≠ 3 ∧
      pathLen.toNat % 64 * (pathLen.toNat / 64 + 1) ≤ maxPathLen := by
  have hfour : hashSizeOf pathLen = 4 ↔ pathLen.toNat / 64 = 3 := by
    rw [← UInt8.toNat_inj, toNat_hashSizeOf, show (4 : UInt8).toNat = 4 from rfl]
    omega
  by_cases h : hashSizeOf pathLen = 4 <;> simp [isValidPathLen, h, hfour.symm]

/-- `meshcore_packet_write_path`: the bytes of `src` that `pathLen` announces, written into `dest`
from index `off`, and how many. -/
def writePath {n : ℕ} (dest : Buf n) (off : ℕ) (src : Buf maxPathLen) (pathLen : UInt8) :
    ℕ × Buf n :=
  let len := (hashCountOf pathLen).toNat * (hashSizeOf pathLen).toNat
  if len > maxPathLen then (0, dest) else (len, dest.store off (src.slice 0 len))

/-- `meshcore_packet_copy_path`. -/
def copyPath (dest : Buf maxPathLen) (src : Buf maxPathLen) (pathLen : UInt8) :
    UInt8 × Buf maxPathLen :=
  (pathLen, (writePath dest 0 src pathLen).2)

namespace Packet

/-! ### Accessors -/

def pathLenField (packet : Packet) : UInt8 := packet.pathLen.toUInt8

def getRouteType (packet : Packet) : UInt8 := packet.header &&& phRouteMask

def isRouteFlood (packet : Packet) : Bool :=
  packet.getRouteType == routeTypeFlood || packet.getRouteType == routeTypeTransportFlood

def isRouteDirect (packet : Packet) : Bool :=
  packet.getRouteType == routeTypeDirect || packet.getRouteType == routeTypeTransportDirect

def hasTransportCodes (packet : Packet) : Bool :=
  packet.getRouteType == routeTypeTransportFlood ||
    packet.getRouteType == routeTypeTransportDirect

def hasSnrFlag (packet : Packet) : Bool :=
  if !packet.hasTransportCodes then false
  else packet.transportCodes.1 == snrTransportCode0 && packet.transportCodes.2 == snrTransportCode1

def getPayloadType (packet : Packet) : UInt8 := (packet.header >>> phTypeShift) &&& phTypeMask

def getPayloadVer (packet : Packet) : UInt8 := (packet.header >>> phVerShift) &&& phVerMask

def getPathHashSize (packet : Packet) : UInt8 := hashSizeOf packet.pathLenField

def getPathHashCount (packet : Packet) : UInt8 := hashCountOf packet.pathLenField

def getPathByteLen (packet : Packet) : UInt8 := packet.getPathHashCount * packet.getPathHashSize

@[simp] theorem toNat_getPathByteLen (packet : Packet) :
    packet.getPathByteLen.toNat
      = packet.pathLenField.toNat % 64 * (packet.pathLenField.toNat / 64 + 1) := by
  rw [getPathByteLen, UInt8.toNat_mul, getPathHashCount, getPathHashSize, toNat_hashCountOf,
    toNat_hashSizeOf]
  exact Nat.mod_eq_of_lt (hashCountOf_mul_hashSizeOf_lt _)

/-- `meshcore_packet_set_path_hash_count`: the count keeps its low six bits only. -/
def setPathHashCount (packet : Packet) (hashCount : UInt8) : Packet :=
  { packet with pathLen := (packet.pathLen &&& ~~~63) ||| (hashCount &&& 63).toUInt16 }

/-- The size stays and the count is replaced. -/
theorem toNat_pathLenField_setPathHashCount (packet : Packet) (hashCount : UInt8) :
    (packet.setPathHashCount hashCount).pathLenField.toNat
      = 64 * (packet.pathLenField.toNat / 64) + hashCount.toNat % 64 := by
  have hfield : (packet.setPathHashCount hashCount).pathLenField
      = (packet.pathLenField &&& 192) ||| (hashCount &&& 63) := by
    simp only [setPathHashCount, pathLenField, UInt16.toUInt8_or, UInt16.toUInt8_and,
      UInt8.toUInt8_toUInt16]
    rfl
  have hlow : hashCount.toNat &&& 63 = hashCount.toNat % 64 := Nat.and_two_pow_sub_one_eq_mod _ 6
  rw [hfield, UInt8.toNat_or, UInt8.toNat_and, UInt8.toNat_and,
    show (192 : UInt8).toNat = 192 from rfl, show (63 : UInt8).toNat = 63 from rfl, hlow,
    and_highBits packet.pathLenField.toNat_lt]
  exact (Nat.two_pow_add_eq_or_of_lt (i := 6) (by omega) _).symm

@[simp] theorem getPathHashSize_setPathHashCount (packet : Packet) (hashCount : UInt8) :
    (packet.setPathHashCount hashCount).getPathHashSize = packet.getPathHashSize := by
  rw [← UInt8.toNat_inj, getPathHashSize, getPathHashSize, toNat_hashSizeOf, toNat_hashSizeOf,
    toNat_pathLenField_setPathHashCount]
  omega

@[simp] theorem toNat_getPathHashCount_setPathHashCount (packet : Packet) (hashCount : UInt8) :
    (packet.setPathHashCount hashCount).getPathHashCount.toNat = hashCount.toNat % 64 := by
  rw [getPathHashCount, toNat_hashCountOf, toNat_pathLenField_setPathHashCount]
  omega

theorem toNat_getPathByteLen_eq_mul (packet : Packet) :
    packet.getPathByteLen.toNat
      = packet.getPathHashCount.toNat * packet.getPathHashSize.toNat := by
  rw [toNat_getPathByteLen, getPathHashCount, getPathHashSize, toNat_hashCountOf, toNat_hashSizeOf]

theorem toNat_getPathHashCount_lt (packet : Packet) : packet.getPathHashCount.toNat < 64 := by
  rw [getPathHashCount, toNat_hashCountOf]
  exact Nat.mod_lt _ (by decide)

theorem getPathHashCount_lt_255 (packet : Packet) : packet.getPathHashCount < 255 := by
  rw [UInt8.lt_iff_toNat_lt]
  exact packet.toNat_getPathHashCount_lt.trans (by decide)

/-- `meshcore_packet_set_path_hash_size_and_count`. -/
def setPathHashSizeAndCount (packet : Packet) (hashSize hashCount : UInt8) : Packet :=
  { packet with
    pathLen := ((hashSize.toUInt16 - 1) <<< 6) ||| (hashCount &&& 63).toUInt16 }

def markDoNotRetransmit (packet : Packet) : Packet := { packet with header := 0xFF }

def isMarkedDoNotRetransmit (packet : Packet) : Bool := packet.header == 0xFF

/-- `meshcore_packet_get_snr`. The quotient is exact in the source's `float`. -/
def getSnr (packet : Packet) : ℚ := packet.snrQ4.toInt / 4

/-- `meshcore_packet_get_raw_length`. -/
def getRawLength (packet : Packet) : ℕ :=
  2 + packet.getPathByteLen.toNat + packet.payloadLen + (if packet.hasTransportCodes then 4 else 0)

/-- The path bytes in use. -/
def pathBytes (packet : Packet) : List UInt8 := packet.path.slice 0 packet.getPathByteLen.toNat

/-- The payload bytes in use. -/
def payloadBytes (packet : Packet) : List UInt8 := packet.payload.slice 0 packet.payloadLen

/-! ### Encoding -/

/-- `meshcore_packet_write_to`: the length written and the buffer. The cursor is 8 bits wide. -/
def writeTo {n : ℕ} (packet : Packet) (dest : Buf n) : ℕ × Buf n :=
  let pathLenField := packet.pathLenField
  if !isValidPathLen pathLenField || packet.payloadLen > packetPayloadMaxLen then (0, dest)
  else
    let dest := dest.set 0 packet.header
    let (i, dest) :=
      if packet.hasTransportCodes then
        let dest := dest.store 1 (leBytes 2 packet.transportCodes.1.toNat)
        let dest := dest.store 3 (leBytes 2 packet.transportCodes.2.toNat)
        (5, dest)
      else (1, dest)
    let dest := dest.set i pathLenField
    let i := (i + 1) % 256
    let (pathLenBytes, dest) := writePath dest i packet.path pathLenField
    let i := (i + pathLenBytes) % 256
    let dest := dest.store i (packet.payload.slice 0 packet.payloadLen)
    ((i + packet.payloadLen) % 256, dest)

/-! ### `meshcore_packet_read_from` -/

/-- The payload part, from the check that a byte is left. -/
def readFromPayload (packet : Packet) (src : List UInt8) (i : ℕ) : Option (Bool × Packet) :=
  if i ≥ src.length then some (false, packet) else
  let packet := { packet with payloadLen := src.length - i }
  if packet.payloadLen > packetPayloadMaxLen then some (false, packet) else do
  let payload ← packet.payload.storeAt 0 (← sliceAt src i packet.payloadLen)
  some (true, { packet with payload })

/-- The path part, from the check that the path length byte is there. -/
def readFromPath (packet : Packet) (src : List UInt8) (i : ℕ) : Option (Bool × Packet) :=
  if i ≥ src.length then some (false, packet) else do
  let pathLen ← readAt src i
  let i := (i + 1) % 256
  let packet := { packet with pathLen := pathLen.toUInt16 }
  if !isValidPathLen packet.pathLenField then some (false, packet) else do
  let pathByteLen := packet.getPathByteLen.toNat
  if i + pathByteLen > src.length then some (false, packet) else do
  let path ← packet.path.storeAt 0 (← sliceAt src i pathByteLen)
  readFromPayload { packet with path } src ((i + pathByteLen) % 256)

/-- `meshcore_packet_read_from`. -/
def readFrom (packet : Packet) (src : List UInt8) : Option (Bool × Packet) :=
  if src.length = 0 then some (false, packet) else do
  let header ← readAt src 0
  let packet := { packet with header }
  if packet.hasTransportCodes then
    if 1 + 4 > src.length then some (false, packet) else do
    let code0 ← sliceAt src 1 2
    let code1 ← sliceAt src 3 2
    readFromPath
      { packet with transportCodes := (UInt16.ofNat (leNat code0), UInt16.ofNat (leNat code1)) }
      src 5
  else readFromPath { packet with transportCodes := (0, 0) } src 1

end Packet

/-! ### `meshcore_dispatcher_try_parse_packet` -/

/-- The part after the transport codes. The size code is compared with 3 and the byte length with
the array, where `Packet.readFromPath` asks `isValidPathLen`; an empty payload is let through. -/
def tryParsePath (packet : Packet) (raw : List UInt8) (i : ℕ) : Option (Bool × Packet) :=
  if i ≥ raw.length then some (false, packet) else do
  let pathLen ← readAt raw i
  let i := i + 1
  let packet := { packet with pathLen := pathLen.toUInt16 }
  if packet.pathLenField >>> (6 : UInt8) = 3 then some (false, packet) else do
  let pathByteLen := packet.getPathByteLen.toNat
  if pathByteLen > maxPathLen ∨ i + pathByteLen > raw.length then some (false, packet) else do
  let path ← packet.path.storeAt 0 (← sliceAt raw i pathByteLen)
  let i := i + pathByteLen
  let packet := { packet with path, payloadLen := raw.length - i }
  if packet.payloadLen > packetPayloadMaxLen then some (false, packet) else do
  let payload ← packet.payload.storeAt 0 (← sliceAt raw i packet.payloadLen)
  some (true, { packet with payload })

/-- `meshcore_dispatcher_try_parse_packet`. -/
def tryParsePacket (packet : Packet) (raw : List UInt8) : Option (Bool × Packet) :=
  if raw.length = 0 then some (false, packet) else do
  let header ← readAt raw 0
  let packet := { packet with header }
  if packet.getPayloadVer > payloadVer1 then some (false, packet) else
  if packet.hasTransportCodes then
    if 1 + 4 > raw.length then some (false, packet) else do
    let code0 ← sliceAt raw 1 2
    let code1 ← sliceAt raw 3 2
    tryParsePath
      { packet with transportCodes := (UInt16.ofNat (leNat code0), UInt16.ofNat (leNat code1)) }
      raw 5
  else tryParsePath { packet with transportCodes := (0, 0) } raw 1

end Meshcore
