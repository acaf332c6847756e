import HostBridge.Proofs.Host.Values
import HostBridge.Proofs.Wire.Stream

/-!
# Value lists that are cut, prolonged or otherwise malformed

A list of values can be malformed in few ways: a value is missing or cut, a tag stands for no type,
or bytes are left over. `Malformed` lists them with what is said of each, and
`decodeList_malformed` says that there are no others, and what becomes of such a list where more
bytes come behind it.
-/

namespace HostBridge.Value

/-- What bytes at the place of a value are refused, and why: there are none, the tag stands for no
type, or the number is too short for its type. -/
inductive NoValue : List UInt8 → DecodeError → Prop where
  | nothing : NoValue [] (.unexpectedEof 1 0)
  | tag {tag : UInt8} {rest : List UInt8} : 1 < tag → NoValue (tag :: rest) (.invalidTag tag)
  | payload {type : ValueType} {payload : List UInt8} : payload.length < type.width →
    NoValue (type.tag :: payload) (.unexpectedEof type.width payload.length)

/-- The byte strings that are no list of values, and what is wrong with them. -/
inductive Malformed : List UInt8 → DecodeError → Prop where
  | empty : Malformed [] .emptyInput
  -- some values are there, fewer than counted, and the next one is not
  | broken {count : UInt8} {front : List Value} {rest : List UInt8} {error : DecodeError} :
    front.length < count.toNat → NoValue rest error →
    Malformed (count :: (front.flatMap encode ++ rest)) error
  | trailing {values : List Value} {word rest : List UInt8} :
    encodeList values = .ok word → rest ≠ [] →
    Malformed (word ++ rest) (.trailingBytes word.length (word.length + rest.length))

/-- The flaw that a list of values can have: a tag that stands for no type. -/
def UnknownTag (error : DecodeError) : Prop := ∃ tag, error = .invalidTag tag

variable {bytes : List UInt8} {error : DecodeError} {tag : UInt8}

/-! ## Values -/

/-- Tags other than zero and one are refused. -/
theorem ofTag_eq_error_iff :
    ValueType.ofTag tag = .error error ↔ 1 < tag ∧ error = .invalidTag tag := by
  grind [ValueType.ofTag]

/-- Any bytes of the right count are the number of some value. -/
theorem exists_payload (type : ValueType) (hlength : bytes.length = type.width) :
    ∃ value : Value, value.type = type ∧ value.payload = bytes := by
  have hlt : BigEndian.ofBytes bytes < BigEndian.capacity type.width :=
    hlength ▸ BigEndian.ofBytes_lt bytes
  have hbytes := BigEndian.toBytes_ofBytes bytes
  rw [hlength] at hbytes
  cases type with
  | i32 =>
    refine ⟨.i32 (UInt32.ofNat (BigEndian.ofBytes bytes)).toInt32, rfl, ?_⟩
    rw [payload, UInt32.toUInt32_toInt32, UInt32.toNat_ofNat_of_lt' hlt]
    exact hbytes
  | i64 =>
    refine ⟨.i64 (UInt64.ofNat (BigEndian.ofBytes bytes)).toInt64, rfl, ?_⟩
    rw [payload, UInt64.toUInt64_toInt64, UInt64.toNat_ofNat_of_lt' hlt]
    exact hbytes

/-- A payload is refused just where it is not there in full. -/
theorem refuses_readPayload (type : ValueType) : (readPayload type).Refuses fun bytes error =>
    bytes.length < type.width ∧ error = .unexpectedEof type.width bytes.length := by
  cases type with
  | i32 => exact (((Read.Refuses.bytes 4).bind_pure _).bind_pure _).bind_pure _
  | i64 => exact (((Read.Refuses.bytes 8).bind_pure _).bind_pure _).bind_pure _

/-- `read_value` stops at the end of a value, and has a reason for what it refuses: an unknown tag,
or bytes that are missing. -/
theorem streams_read :
    Value.read.Streams (fun value word => word = value.encode) NoValue UnknownTag where
  obeys := obeys_read
  refuses := by
    have hread : Value.read =
        Read.u8 >>= fun tag => liftM (ValueType.ofTag tag) >>= readPayload := rfl
    rw [hread]
    refine (Read.Refuses.bind Read.obeys_u8 .u8 fun tag => .bind (.lift (ValueType.ofTag tag))
      (.lift (ValueType.ofTag tag)) refuses_readPayload).mono fun bytes error => ⟨?_, fun h => ?_⟩
    · rintro (⟨rfl, rfl⟩ | ⟨tag, _, rest, rfl, rfl, htag | ⟨type, _, payload, ⟨htag, rfl⟩, rfl,
        hlt, rfl⟩⟩)
      · exact .nothing
      · obtain ⟨hlt, rfl⟩ := ofTag_eq_error_iff.1 htag
        exact .tag hlt
      · obtain rfl := ValueType.tag_of_ofTag htag
        exact .payload hlt
    · cases h with
      | nothing => exact .inl ⟨rfl, rfl⟩
      | tag hlt => exact .inr ⟨_, _, _, rfl, rfl, .inl (ofTag_eq_error_iff.2 ⟨hlt, rfl⟩)⟩
      | payload hlt =>
        exact .inr ⟨_, _, _, rfl, rfl, .inr ⟨_, [], _, ⟨ValueType.ofTag_tag _, rfl⟩, rfl, hlt,
          rfl⟩⟩
  reason := by
    intro bytes error h
    cases h with
    | nothing => exact .cut (.i32 0) (Value.i32 0).encode Nat.one_pos rfl
    | tag hlt => exact .flaw ⟨_, rfl⟩ fun more => .tag hlt
    | @payload type payload hlt =>
      have hlength : (payload ++ List.replicate (type.width - payload.length) 0).length =
          type.width := by
        rw [List.length_append, List.length_replicate, Nat.add_sub_of_le (Nat.le_of_lt hlt)]
      obtain ⟨value, rfl, hpayload⟩ := exists_payload type hlength
      refine .cut value (List.replicate (value.type.width - payload.length) 0) hlt ?_
      rw [encode, hpayload]
      rfl

/-! ## Lists -/

/-- A list of values stops at the end of the last value, and what is wrong with one of them is wrong
with it. -/
theorem streams_readList : readList.Streams (fun values word => encodeList values = .ok word)
    (fun bytes error => bytes = [] ∧ error = .unexpectedEof 1 0 ∨
      ∃ (count : UInt8) (front : List Value) (rest : List UInt8), front.length < count.toNat ∧
        bytes = count :: (front.flatMap encode ++ rest) ∧ NoValue rest error)
    UnknownTag := by
  have hvalues := streams_read.replicate (rfl : (Value.i32 0).encode = _)
  have hcount : ∀ count : UInt8, ∃ values word, values.length = count.toNat ∧
      Row (fun value word => word = encode value) values word :=
    fun count => ⟨List.replicate count.toNat (.i32 0), _, List.length_replicate, row_eq_iff.2 rfl⟩
  refine (Read.Streams.u8.bind (fun count => hvalues count.toNat) hcount).congr obeys_readList
    fun bytes error => or_congr_right ⟨?_, ?_⟩
  · rintro ⟨count, _, _, rfl, rfl, front, word, rest, hlt, hrow, rfl, hvalue⟩
    obtain rfl := row_eq_iff.1 hrow
    exact ⟨count, front, rest, hlt, rfl, hvalue⟩
  · rintro ⟨count, front, rest, hlt, rfl, hvalue⟩
    exact ⟨count, _, _, rfl, rfl, front, _, rest, hlt, row_eq_iff.2 rfl, rfl, hvalue⟩

/-- Unless there is nothing at all, bytes are read as a list up to their end. -/
theorem decodeList_of_ne_nil (h : bytes ≠ []) : decodeList bytes = readList.all bytes :=
  if_neg (mt List.isEmpty_iff.1 h)

/-- A list of values is refused where it is malformed, and for that reason. -/
theorem decodeList_eq_error_iff : decodeList bytes = .error error ↔ Malformed bytes error := by
  constructor
  · intro h
    by_cases hnil : bytes = []
    · subst hnil
      cases h
      exact .empty
    · rw [decodeList_of_ne_nil hnil, streams_readList.all_eq_error_iff] at h
      obtain (⟨rfl, -⟩ | ⟨count, front, rest, hlt, rfl, hvalue⟩) |
        ⟨values, word, rest, hword, hrest, rfl, rfl⟩ := h
      · exact absurd rfl hnil
      · exact .broken hlt hvalue
      · exact .trailing hword hrest
  · intro h
    cases h with
    | empty => rfl
    | broken hlt hvalue =>
      rw [decodeList_of_ne_nil (List.cons_ne_nil _ _), streams_readList.all_eq_error_iff]
      exact .inl (.inr ⟨_, _, _, hlt, rfl, hvalue⟩)
    | trailing hword hrest =>
      rw [decodeList_of_ne_nil (List.append_ne_nil_of_right_ne_nil _ hrest),
        streams_readList.all_eq_error_iff]
      exact .inr ⟨_, _, _, hword, hrest, rfl, rfl⟩

/-- Lists of values begin no longer list. -/
theorem prefixFree_decodeList (h : bytes ≠ []) : PrefixFree decodeList UnknownTag bytes where
  prolonged more hmore := by
    rw [decodeList_of_ne_nil h, decodeList_of_ne_nil (List.append_ne_nil_of_left_ne_nil h more)]
    exact streams_readList.prolonged bytes hmore
  cut_iff := by
    have hlonger : ∀ more, decodeList (bytes ++ more) = readList.all (bytes ++ more) :=
      fun more => decodeList_of_ne_nil (List.append_ne_nil_of_left_ne_nil h more)
    have hflaw : ∀ expected given, ¬ UnknownTag (.unexpectedEof expected given) := by
      rintro _ _ ⟨_, ⟨⟩⟩
    simp only [decodeList_of_ne_nil h, hlonger]
    exact (streams_readList.prefixFree hflaw bytes).cut_iff

/-- **Every malformed list of values is told for what it is.** Nothing but no bytes at all is empty
input. Of other bytes, values that are there may be fewer than counted, and the next one is missing
or cut or has a tag that stands for no type, or bytes may be left over. A cut between two values
wants one byte, and a cut within a number as many as its type has. No list begins another: more
bytes are left over, or change nothing, but for a list that is cut, and these are the lists that
more bytes complete. -/
theorem decodeList_malformed :
    (∀ bytes error, decodeList bytes = .error error ↔ Malformed bytes error) ∧
    (∀ bytes, decodeList bytes = .error .emptyInput ↔ bytes = []) ∧
    (∀ bytes, bytes ≠ [] → PrefixFree decodeList UnknownTag bytes) := by
  refine ⟨fun _ _ => decodeList_eq_error_iff, fun bytes => ⟨fun h => ?_, ?_⟩,
    fun _ => prefixFree_decodeList⟩
  · cases decodeList_eq_error_iff.1 h with
    | empty => rfl
    | broken _ hvalue => cases hvalue
  · rintro rfl
    rfl

/-- Two values, the second of which is cut behind three bytes of its number, and the same bytes
with more of them. -/
theorem malformed_of_cut :
    decodeList [2, 0, 0, 0, 0, 7, 1, 0, 0, 0] = .error (.unexpectedEof 8 3) ∧
    PrefixFree decodeList UnknownTag [2, 0, 0, 0, 0, 7, 1, 0, 0, 0] ∧
    decodeList ([2, 0, 0, 0, 0, 7, 1, 0, 0, 0] ++ [0, 0, 0, 0, 9]) = .ok [.i32 7, .i64 9] :=
  ⟨rfl, decodeList_malformed.2.2 _ nofun, rfl⟩

end HostBridge.Value
