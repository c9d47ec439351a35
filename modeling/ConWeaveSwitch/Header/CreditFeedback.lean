import ConWeaveSwitch.Word

/-!
# The credit-feedback header

`CreditFeedbackHeader` and its codec over ns-3's `Buffer::Iterator`, whose `WriteU32`, `WriteU16`
and `ReadU32`, `ReadU16` move a value low byte first on every host; a buffer is the list of bytes
from the iterator on. The header takes 9 bytes, little-endian on the wire
(`serialize_wire_format`), and the codec is a bijection between headers and 9-byte strings.
-/

namespace ConWeaveSwitch

set_option autoImplicit false

def writeU8 (data : UInt8) : List UInt8 := [data]

def writeU16 (data : UInt16) : List UInt8 := [data.toUInt8, (data >>> 8).toUInt8]

def writeU32 (data : UInt32) : List UInt8 :=
  [data.toUInt8, (data >>> 8).toUInt8, (data >>> 16).toUInt8, (data >>> 24).toUInt8]

def readU8 : List UInt8 → Option (UInt8 × List UInt8)
  | byte :: rest => some (byte, rest)
  | [] => none

def readU16 (bytes : List UInt8) : Option (UInt16 × List UInt8) :=
  (readU8 bytes).bind fun (byte0, bytes) =>
    (readU8 bytes).map fun (byte1, bytes) => ((byte1.toUInt16 <<< 8) ||| byte0.toUInt16, bytes)

def readU32 (bytes : List UInt8) : Option (UInt32 × List UInt8) :=
  (readU8 bytes).bind fun (byte0, bytes) =>
    (readU8 bytes).bind fun (byte1, bytes) =>
      (readU8 bytes).bind fun (byte2, bytes) =>
        (readU8 bytes).map fun (byte3, bytes) =>
          ((((((byte3.toUInt32 <<< 8) ||| byte2.toUInt32) <<< 8) ||| byte1.toUInt32) <<< 8) |||
            byte0.toUInt32, bytes)

/-- `CreditFeedbackHeader`; the `int16_t` gradient is its 16 bits. -/
structure CreditFeedbackHeader where
  queueLen : UInt32
  gradient : BitVec 16
  creditValue : UInt16
  portIndex : UInt8
  deriving DecidableEq, Repr

namespace CreditFeedbackHeader

def getSerializedSize (_header : CreditFeedbackHeader) : Nat := 9

def serialize (header : CreditFeedbackHeader) : List UInt8 :=
  writeU32 header.queueLen ++ writeU16 ⟨header.gradient⟩ ++ writeU16 header.creditValue ++
    writeU8 header.portIndex

def deserialize (bytes : List UInt8) : Option (CreditFeedbackHeader × Nat) :=
  (readU32 bytes).bind fun (queueLen, bytes) =>
    (readU16 bytes).bind fun (gradient, bytes) =>
      (readU16 bytes).bind fun (creditValue, bytes) =>
        (readU8 bytes).map fun (portIndex, _) =>
          let header : CreditFeedbackHeader := ⟨queueLen, gradient.toBitVec, creditValue, portIndex⟩
          (header, header.getSerializedSize)

end CreditFeedbackHeader

theorem shift_or_byte (z b w : Nat) (wide : 8 ≤ w) (byte : b < 2 ^ 8) :
    (z <<< 8) % 2 ^ w ||| b = (z <<< 8) % 2 ^ w + b := by
  have aligned : 2 ^ 8 ∣ (z <<< 8) % 2 ^ w := by
    rw [Nat.dvd_mod_iff (Nat.pow_dvd_pow 2 wide), Nat.shiftLeft_eq]
    exact Dvd.intro_left _ rfl
  rw [← Nat.mul_div_cancel' aligned]
  exact (Nat.mul_add_lt_is_or byte _).symm

@[simp] theorem read_u8_write_u8 (data : UInt8) (rest : List UInt8) :
    readU8 (writeU8 data ++ rest) = some (data, rest) := rfl

theorem read_u16_write_u16 (data : UInt16) (rest : List UInt8) :
    readU16 (writeU16 data ++ rest) = some (data, rest) := by
  have word : ((data >>> 8).toUInt8.toUInt16 <<< 8) ||| data.toUInt8.toUInt16 = data := by
    apply UInt16.toNat.inj
    simp only [u16_toNat_or, u16_toNat_shiftLeft, u16_toNat_shiftRight, u16_toNat_toUInt8,
      u8_toNat_toUInt16, UInt16.reduceToNat, Nat.reduceMod]
    rw [shift_or_byte _ _ 16 (by norm_num) (Nat.mod_lt _ (by norm_num)), Nat.shiftLeft_eq,
      Nat.shiftRight_eq_div_pow]
    have below := u16_toNat_lt data
    omega
  simp only [readU16, writeU16, List.cons_append, List.nil_append, readU8, Option.some_bind,
    Option.map_some', word]

theorem read_u32_write_u32 (data : UInt32) (rest : List UInt8) :
    readU32 (writeU32 data ++ rest) = some (data, rest) := by
  have word : (((((data >>> 24).toUInt8.toUInt32 <<< 8) ||| (data >>> 16).toUInt8.toUInt32) <<< 8) |||
      (data >>> 8).toUInt8.toUInt32) <<< 8 ||| data.toUInt8.toUInt32 = data := by
    apply UInt32.toNat.inj
    simp only [u32_toNat_or, u32_toNat_shiftLeft, u32_toNat_shiftRight, u32_toNat_toUInt8,
      u8_toNat_toUInt32, UInt32.reduceToNat, Nat.reduceMod]
    have byte : ∀ n : Nat, n % 2 ^ 8 < 2 ^ 8 := fun n => Nat.mod_lt _ (by norm_num)
    rw [shift_or_byte _ _ 32 (by norm_num) (byte _), shift_or_byte _ _ 32 (by norm_num) (byte _),
      shift_or_byte _ _ 32 (by norm_num) (byte _)]
    simp only [Nat.shiftLeft_eq, Nat.shiftRight_eq_div_pow]
    have below := u32_toNat_lt data
    omega
  simp only [readU32, writeU32, List.cons_append, List.nil_append, readU8, Option.some_bind,
    Option.map_some', word]

theorem read_u16_value (byte0 byte1 : UInt8) :
    ((byte1.toUInt16 <<< 8) ||| byte0.toUInt16).toNat = byte1.toNat * 2 ^ 8 + byte0.toNat := by
  simp only [u16_toNat_or, u16_toNat_shiftLeft, u8_toNat_toUInt16, UInt16.reduceToNat,
    Nat.reduceMod]
  rw [shift_or_byte _ _ 16 (by norm_num) (u8_toNat_lt byte0), Nat.shiftLeft_eq]
  have below := u8_toNat_lt byte1
  omega

theorem write_u16_read_u16 (byte0 byte1 : UInt8) :
    writeU16 ((byte1.toUInt16 <<< 8) ||| byte0.toUInt16) = [byte0, byte1] := by
  have value := read_u16_value byte0 byte1
  have low := u8_toNat_lt byte0
  have high := u8_toNat_lt byte1
  have lowByte : ((byte1.toUInt16 <<< 8) ||| byte0.toUInt16).toUInt8 = byte0 := by
    apply UInt8.toNat.inj
    rw [u16_toNat_toUInt8, value]
    omega
  have highByte : (((byte1.toUInt16 <<< 8) ||| byte0.toUInt16) >>> 8).toUInt8 = byte1 := by
    apply UInt8.toNat.inj
    simp only [u16_toNat_toUInt8, u16_toNat_shiftRight, UInt16.reduceToNat, Nat.reduceMod,
      Nat.shiftRight_eq_div_pow, value]
    omega
  rw [writeU16, lowByte, highByte]

theorem read_u32_value (byte0 byte1 byte2 byte3 : UInt8) :
    ((((((byte3.toUInt32 <<< 8) ||| byte2.toUInt32) <<< 8) ||| byte1.toUInt32) <<< 8) |||
        byte0.toUInt32).toNat =
      byte3.toNat * 2 ^ 24 + byte2.toNat * 2 ^ 16 + byte1.toNat * 2 ^ 8 + byte0.toNat := by
  simp only [u32_toNat_or, u32_toNat_shiftLeft, u8_toNat_toUInt32, UInt32.reduceToNat,
    Nat.reduceMod]
  rw [shift_or_byte _ _ 32 (by norm_num) (u8_toNat_lt _), shift_or_byte _ _ 32 (by norm_num)
    (u8_toNat_lt _), shift_or_byte _ _ 32 (by norm_num) (u8_toNat_lt _)]
  simp only [Nat.shiftLeft_eq]
  have below3 := u8_toNat_lt byte3
  have below2 := u8_toNat_lt byte2
  have below1 := u8_toNat_lt byte1
  omega

theorem write_u32_read_u32 (byte0 byte1 byte2 byte3 : UInt8) :
    writeU32 ((((((byte3.toUInt32 <<< 8) ||| byte2.toUInt32) <<< 8) ||| byte1.toUInt32) <<< 8) |||
      byte0.toUInt32) = [byte0, byte1, byte2, byte3] := by
  have value := read_u32_value byte0 byte1 byte2 byte3
  have below0 := u8_toNat_lt byte0
  have below1 := u8_toNat_lt byte1
  have below2 := u8_toNat_lt byte2
  have below3 := u8_toNat_lt byte3
  simp only [writeU32, List.cons.injEq, and_true]
  refine ⟨UInt8.toNat.inj ?_, UInt8.toNat.inj ?_, UInt8.toNat.inj ?_, UInt8.toNat.inj ?_⟩ <;>
    simp only [u32_toNat_toUInt8, u32_toNat_shiftRight, UInt32.reduceToNat, Nat.reduceMod,
      Nat.shiftRight_eq_div_pow, value] <;>
    omega

theorem read_u8_some {bytes rest : List UInt8} {data : UInt8}
    (read : readU8 bytes = some (data, rest)) : writeU8 data ++ rest = bytes := by
  cases bytes with
  | nil => cases read
  | cons byte tail =>
    cases read
    rfl

theorem read_u16_some {bytes rest : List UInt8} {data : UInt16}
    (read : readU16 bytes = some (data, rest)) : writeU16 data ++ rest = bytes := by
  obtain ⟨⟨byte0, middle⟩, first, second⟩ := Option.bind_eq_some.mp read
  obtain ⟨⟨byte1, after⟩, secondRead, assembled⟩ := Option.map_eq_some'.mp second
  cases assembled
  rw [write_u16_read_u16, ← read_u8_some first, ← read_u8_some secondRead]
  rfl

theorem read_u32_some {bytes rest : List UInt8} {data : UInt32}
    (read : readU32 bytes = some (data, rest)) : writeU32 data ++ rest = bytes := by
  obtain ⟨⟨byte0, bytes1⟩, read0, read⟩ := Option.bind_eq_some.mp read
  obtain ⟨⟨byte1, bytes2⟩, read1, read⟩ := Option.bind_eq_some.mp read
  obtain ⟨⟨byte2, bytes3⟩, read2, read⟩ := Option.bind_eq_some.mp read
  obtain ⟨⟨byte3, after⟩, read3, assembled⟩ := Option.map_eq_some'.mp read
  cases assembled
  rw [write_u32_read_u32, ← read_u8_some read0, ← read_u8_some read1, ← read_u8_some read2,
    ← read_u8_some read3]
  rfl

namespace CreditFeedbackHeader

theorem serialize_length (header : CreditFeedbackHeader) :
    header.serialize.length = header.getSerializedSize := rfl

theorem deserialize_serialize (header : CreditFeedbackHeader) (rest : List UInt8) :
    deserialize (header.serialize ++ rest) = some (header, header.getSerializedSize) := by
  simp only [serialize, deserialize, List.append_assoc, read_u32_write_u32, Option.some_bind,
    read_u16_write_u16, read_u8_write_u8, Option.map_some']

theorem serialize_bytes (header : CreditFeedbackHeader) :
    header.serialize.map UInt8.toNat =
      [header.queueLen.toNat % 2 ^ 8, header.queueLen.toNat / 2 ^ 8 % 2 ^ 8,
        header.queueLen.toNat / 2 ^ 16 % 2 ^ 8, header.queueLen.toNat / 2 ^ 24,
        header.gradient.toNat % 2 ^ 8, header.gradient.toNat / 2 ^ 8,
        header.creditValue.toNat % 2 ^ 8, header.creditValue.toNat / 2 ^ 8,
        header.portIndex.toNat] := by
  have queue := u32_toNat_lt header.queueLen
  have gradient := header.gradient.isLt
  have credit := u16_toNat_lt header.creditValue
  have gradientWord : (⟨header.gradient⟩ : UInt16).toNat = header.gradient.toNat := rfl
  simp only [serialize, writeU32, writeU16, writeU8, List.cons_append, List.nil_append,
    List.map_cons, List.map_nil, u32_toNat_toUInt8, u16_toNat_toUInt8, u32_toNat_shiftRight,
    u16_toNat_shiftRight, UInt32.reduceToNat, UInt16.reduceToNat, Nat.reduceMod,
    Nat.shiftRight_eq_div_pow, List.cons.injEq, and_true, true_and, gradientWord]
  exact ⟨by omega, by omega, by omega⟩

/-- `Serialize` writes `GetSerializedSize() = 9` bytes: `queue_len` at offsets 0–3, the gradient's
two's-complement bits at 4–5 and `credit_value` at 6–7, each low byte first, and `port_index` at
8; `Deserialize` of those bytes, whatever follows them, returns 9 and the header. -/
theorem serialize_wire_format (header : CreditFeedbackHeader) (rest : List UInt8) :
    header.serialize.map UInt8.toNat =
        [header.queueLen.toNat % 2 ^ 8, header.queueLen.toNat / 2 ^ 8 % 2 ^ 8,
          header.queueLen.toNat / 2 ^ 16 % 2 ^ 8, header.queueLen.toNat / 2 ^ 24,
          header.gradient.toNat % 2 ^ 8, header.gradient.toNat / 2 ^ 8,
          header.creditValue.toNat % 2 ^ 8, header.creditValue.toNat / 2 ^ 8,
          header.portIndex.toNat] ∧
      header.serialize.length = header.getSerializedSize ∧ header.getSerializedSize = 9 ∧
      deserialize (header.serialize ++ rest) = some (header, header.getSerializedSize) :=
  ⟨serialize_bytes header, serialize_length header, rfl, deserialize_serialize header rest⟩

/-- The header of the wire-format example: queue length `0x01020304`, gradient `-1`, credit 500,
port 7. -/
def wireSample : CreditFeedbackHeader := ⟨0x01020304, -1, 500, 7⟩

/-- Its bytes are `04 03 02 01 FF FF F4 01 07`, not the big-endian `01 02 03 04 FF FF 01 F4 07`. -/
theorem wire_sample_little_endian :
    wireSample.serialize = [0x04, 0x03, 0x02, 0x01, 0xFF, 0xFF, 0xF4, 0x01, 0x07] ∧
      wireSample.serialize ≠ [0x01, 0x02, 0x03, 0x04, 0xFF, 0xFF, 0x01, 0xF4, 0x07] := by
  decide

/-- `Deserialize` accepts only a header's own bytes: whatever it reads, it read from the bytes
`Serialize` writes for the header it returns, and it returns their size. -/
theorem deserialize_reads_serialized {bytes : List UInt8} {header : CreditFeedbackHeader}
    {size : Nat} (decoded : deserialize bytes = some (header, size)) :
    size = header.getSerializedSize ∧ ∃ rest, header.serialize ++ rest = bytes := by
  obtain ⟨⟨queueLen, bytes1⟩, readQueue, decoded⟩ := Option.bind_eq_some.mp decoded
  obtain ⟨⟨gradient, bytes2⟩, readGradient, decoded⟩ := Option.bind_eq_some.mp decoded
  obtain ⟨⟨creditValue, bytes3⟩, readCredit, decoded⟩ := Option.bind_eq_some.mp decoded
  obtain ⟨⟨portIndex, rest⟩, readPort, assembled⟩ := Option.map_eq_some'.mp decoded
  cases assembled
  refine ⟨rfl, rest, ?_⟩
  rw [← read_u32_some readQueue, ← read_u16_some readGradient, ← read_u16_some readCredit,
    ← read_u8_some readPort]
  simp only [serialize, List.append_assoc]

/-- The bytes of the wire-format example read back as queue length `0x04030201` and credit
`0xF401`. -/
theorem spec_bytes_read_back :
    deserialize [0x01, 0x02, 0x03, 0x04, 0xFF, 0xFF, 0x01, 0xF4, 0x07] =
        some (⟨0x04030201, -1, 0xF401, 7⟩, 9) ∧
      (9 = getSerializedSize ⟨0x04030201, -1, 0xF401, 7⟩ ∧
        ∃ rest, serialize ⟨0x04030201, -1, 0xF401, 7⟩ ++ rest =
          [0x01, 0x02, 0x03, 0x04, 0xFF, 0xFF, 0x01, 0xF4, 0x07]) :=
  have decoded : deserialize [0x01, 0x02, 0x03, 0x04, 0xFF, 0xFF, 0x01, 0xF4, 0x07] =
      some (⟨0x04030201, -1, 0xF401, 7⟩, 9) := by decide
  ⟨decoded, deserialize_reads_serialized decoded⟩

end CreditFeedbackHeader

end ConWeaveSwitch
