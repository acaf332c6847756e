import HostBridge.Proofs.Wire.Reading
import HostBridge.Value

/-!
# Value lists

A list of values has one wire form, so decoding and encoding are inverse to one another
(`list_codec_bijective`), and that form is short. A 32-bit number is kept as 64 bits with its sign
extended; it is written as the low half of them, which is enough to find all of them again.
-/

namespace HostBridge.Value

variable {values : List Value} {bytes : List UInt8}

/-- The number of a value behind its tag. -/
def readPayload : ValueType → Read Value
  | .i32 => Read.u32 >>= fun number => pure (.i32 number.toInt32)
  | .i64 => Read.u64 >>= fun number => pure (.i64 number.toInt64)

/-- A payload is read as the number of its type that it spells. -/
theorem obeys_readPayload (type : ValueType) :
    (readPayload type).Obeys fun value word => value.type = type ∧ word = value.payload := by
  cases type with
  | i32 =>
    refine (Read.obeys_u32.bind_pure _).mono fun value word => ⟨?_, ?_⟩
    · rintro ⟨number, rfl, rfl⟩
      exact ⟨rfl, by rw [payload, UInt32.toUInt32_toInt32]⟩
    · rintro ⟨htype, rfl⟩
      cases value with
      | i32 value => exact ⟨value.toUInt32, rfl, rfl⟩
      | i64 value => cases htype
  | i64 =>
    refine (Read.obeys_u64.bind_pure _).mono fun value word => ⟨?_, ?_⟩
    · rintro ⟨number, rfl, rfl⟩
      exact ⟨rfl, by rw [payload, UInt64.toUInt64_toInt64]⟩
    · rintro ⟨htype, rfl⟩
      cases value with
      | i32 value => cases htype
      | i64 value => exact ⟨value.toUInt64, rfl, rfl⟩

/-- `read_value` takes just the words of values. -/
theorem obeys_read : Value.read.Obeys fun value word => word = value.encode := by
  have hread : Value.read =
      Read.u8 >>= fun tag => liftM (ValueType.ofTag tag) >>= readPayload := rfl
  rw [hread]
  refine (Read.obeys_u8.bind fun tag => (Read.Obeys.lift (ValueType.ofTag tag)).bind
    obeys_readPayload).mono fun value word => ⟨?_, ?_⟩
  · rintro ⟨tag, _, _, rfl, ⟨type, _, _, ⟨htype, rfl⟩, ⟨rfl, rfl⟩, rfl⟩, rfl⟩
    rw [encode, ValueType.tag_of_ofTag htype]
    rfl
  · rintro rfl
    exact ⟨value.type.tag, [value.type.tag], value.payload, rfl,
      ⟨value.type, [], value.payload, ⟨ValueType.ofTag_tag _, rfl⟩, ⟨rfl, rfl⟩, rfl⟩, rfl⟩

/-! ## Bits -/

/-- Extending the sign of a number leaves its low 32 bits as they are. -/
theorem toNat_signExtended_mod (value : Int32) :
    value.toInt64.toUInt64.toNat % BigEndian.capacity 4 = value.toUInt32.toNat := by
  have hback : value.toInt64.toBitVec.signExtend 32 = value.toBitVec :=
    congrArg Int32.toBitVec (Int32.toInt32_toInt64 value)
  rw [BitVec.signExtend_eq_setWidth_of_le _ (by decide)] at hback
  exact congrArg BitVec.toNat hback

/-- A number is written as the low end of its 64 bits. -/
theorem payload_eq_toBytes_bits (value : Value) :
    value.payload = BigEndian.toBytes value.type.width value.bits.toNat := by
  cases value with
  | i32 value =>
    rw [payload, ← toNat_signExtended_mod, BigEndian.toBytes_mod]
    rfl
  | i64 value => rfl

/-- Values are told apart by their types and their 64 bits. -/
theorem eq_iff_bits {first second : Value} :
    first = second ↔ first.type = second.type ∧ first.bits = second.bits := by
  constructor
  · rintro rfl
    exact ⟨rfl, rfl⟩
  · rintro ⟨htype, hbits⟩
    have hnumber : first.toInt64 = second.toInt64 := by
      simpa [bits] using congrArg UInt64.toInt64 hbits
    cases first with
    | i32 first =>
      cases second with
      | i32 second => simpa [toInt64] using congrArg Int64.toInt32 hnumber
      | i64 second => cases htype
    | i64 first =>
      cases second with
      | i32 second => cases htype
      | i64 second => exact congrArg i64 hnumber

/-! ## Lists -/

/-- A list is written just if its count fits into a byte: the count, and then the values. -/
theorem encodeList_eq_ok_iff : encodeList values = .ok bytes ↔
    values.length ≤ 255 ∧ bytes = UInt8.ofNat values.length :: values.flatMap encode := by
  unfold encodeList maxCount
  split
  · next h => exact ⟨fun heq => ⟨h, (Except.ok.inj heq).symm⟩, fun heq => heq.2 ▸ rfl⟩
  · next h =>
    constructor
    · rintro ⟨⟩
    · exact fun heq => absurd heq.1 h

/-- More values than a byte counts are refused, with their count. -/
theorem encodeList_of_lt (h : 255 < values.length) :
    encodeList values = .error (.tooManyValues values.length 255) :=
  if_neg (Nat.not_le.2 h)

/-- A list is read of the bytes that it is written as, and of no others. -/
theorem obeys_readList :
    readList.Obeys fun values word => encodeList values = .ok word := by
  refine (Read.obeys_u8.bind fun count => obeys_read.replicate count.toNat).mono
    fun values word => ?_
  rw [encodeList_eq_ok_iff]
  constructor
  · rintro ⟨count, _, _, rfl, ⟨hlength, hrow⟩, rfl⟩
    rw [row_eq_iff.1 hrow, hlength, UInt8.ofNat_toNat]
    exact ⟨Nat.le_of_lt_succ count.toNat_lt, rfl⟩
  · rintro ⟨hlength, rfl⟩
    have hcount : (UInt8.ofNat values.length).toNat = values.length :=
      UInt8.toNat_ofNat_of_lt' (Nat.lt_succ_of_le hlength)
    exact ⟨_, [_], _, rfl, ⟨hcount.symm, row_eq_iff.2 rfl⟩, rfl⟩

/-- A byte string holds the values that it encodes. -/
theorem decodeList_eq_ok_iff : decodeList bytes = .ok values ↔ encodeList values = .ok bytes := by
  unfold decodeList
  cases bytes with
  | nil =>
    rw [encodeList_eq_ok_iff]
    constructor
    · rintro ⟨⟩
    · rintro ⟨-, ⟨⟩⟩
  | cons first rest => exact obeys_readList.all_eq_ok_iff

/-- A value takes nine bytes at most. -/
theorem length_encode_le (value : Value) : value.encode.length ≤ 9 := by
  rw [encode, List.length_cons, length_payload]
  cases value.type <;> decide

/-- Values one after the other take nine bytes each at most. -/
theorem length_flatMap_encode_le (values : List Value) :
    (values.flatMap encode).length ≤ 9 * values.length := by
  induction values with
  | nil => exact Nat.le_refl 0
  | cons value values ih =>
    have hvalue := value.length_encode_le
    rw [List.flatMap_cons, List.length_append, List.length_cons]
    omega

/-- Encoded values fit into a buffer, and there is a byte at least. -/
theorem length_of_encodeList (h : encodeList values = .ok bytes) :
    0 < bytes.length ∧ bytes.length ≤ 2296 := by
  obtain ⟨hcount, rfl⟩ := encodeList_eq_ok_iff.1 h
  have hlength := length_flatMap_encode_le values
  rw [List.length_cons]
  omega

/-- **A list of values has one wire form.** A byte string holds the values that it encodes, so
reading and writing undo one another and no two byte strings hold the same values. A list is
written unless a byte cannot count it; each value as its tag and the low end of its 64 bits, and
type and bits are all there is to a value. -/
theorem list_codec_bijective :
    (∀ bytes values, decodeList bytes = .ok values ↔ encodeList values = .ok bytes) ∧
    (∀ values, (∃ error, encodeList values = .error error) ↔ 255 < values.length) ∧
    (∀ first second values, decodeList first = .ok values → decodeList second = .ok values →
      first = second) ∧
    (∀ bytes values, encodeList values = .ok bytes ↔ values.length ≤ 255 ∧
      bytes = UInt8.ofNat values.length :: values.flatMap fun value =>
        value.type.tag :: BigEndian.toBytes value.type.width value.bits.toNat) ∧
    (∀ first second : Value, first = second ↔
      first.type = second.type ∧ first.bits = second.bits) := by
  refine ⟨fun _ _ => decodeList_eq_ok_iff, fun values => ⟨?_, fun h => ⟨_, encodeList_of_lt h⟩⟩,
    fun first second values hfirst hsecond => ?_, fun bytes values => ?_, fun _ _ => eq_iff_bits⟩
  · rintro ⟨error, herror⟩
    refine Nat.lt_of_not_le fun hcount => ?_
    rw [encodeList_eq_ok_iff.2 ⟨hcount, rfl⟩] at herror
    cases herror
  · have hencode := decodeList_eq_ok_iff.1 hfirst
    rw [decodeList_eq_ok_iff.1 hsecond] at hencode
    exact (Except.ok.inj hencode).symm
  · have hword : encode = fun value =>
        value.type.tag :: BigEndian.toBytes value.type.width value.bits.toNat :=
      funext fun value => congrArg (value.type.tag :: ·) value.payload_eq_toBytes_bits
    rw [encodeList_eq_ok_iff, ← hword]

end HostBridge.Value
