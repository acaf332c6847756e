import HostBridge.Proofs.Wire.Stream
import HostBridge.Wire.Request

/-!
# What requests take

A request to a reader takes a word from the front of the bytes, and the word alone says what is
found (`Reader.Request.obeys_takes`). It fails for few reasons, and each of them is told by the bytes
that are left (`Reader.Request.read_eq_error_iff`): a request of a fixed size where fewer bytes are
left, a text at one of three places.
-/

namespace HostBridge

namespace Reader.Request

/-- How many bytes a request takes that always takes the same number of them. -/
def size? : Request → Option Nat
  | .u8 => some 1
  | .u16 => some 2
  | .u32 => some 4
  | .u64 => some 8
  | .number width => some width
  | .bytes count => some count
  | .octets size => some size
  | .string | .finish => none

/-- What such a request finds in the bytes it takes. -/
def foundIn : Request → List UInt8 → Found
  | .bytes _, word | .octets _, word => .bytes word
  | _, word => .number (BigEndian.ofBytes word)

/-- What a request hands back, and the bytes that it takes for it. -/
inductive Takes : Request → Found → List UInt8 → Prop
  | piece {request : Request} {word : List UInt8} : request.size? = some word.length →
    Takes request (request.foundIn word) word
  | text {text : String} : (Utf8.encode text).length ≤ 65535 →
    Takes .string (.text text) (Wire.prefixed 2 (Utf8.encode text))
  | nothing : Takes .finish .nothing []

/-- Why a request fails at `position`, in front of `rest`. -/
inductive Fails (position : Nat) (rest : List UInt8) : Request → DecodeError → Prop
  | short {request : Request} {size : Nat} : request.size? = some size → rest.length < size →
    Fails position rest request (.unexpectedEof size rest.length)
  /-- Not even the length of the text is there. -/
  | noLength : rest.length < 2 → Fails position rest .string (.unexpectedEof 2 rest.length)
  /-- The length is there, but not all of the text. -/
  | cut {length : UInt16} {behind : List UInt8} :
    rest = BigEndian.toBytes 2 length.toNat ++ behind → behind.length < length.toNat →
    Fails position rest .string (.unexpectedEof length.toNat behind.length)
  /-- All bytes of the text are there, but they are those of no text. -/
  | illFormed {bytes behind : List UInt8} : bytes.length ≤ 65535 →
    rest = Wire.prefixed 2 bytes ++ behind → (∀ text, Utf8.encode text ≠ bytes) →
    Fails position rest .string (.invalidUtf8 position)
  | trailing : rest ≠ [] →
    Fails position rest .finish (.trailingBytes position (position + rest.length))

end Reader.Request

namespace Read

open Reader (Found)

variable {request : Reader.Request} {found : Found} {error : DecodeError} {position size : Nat}
  {rest word : List UInt8}

/-- Whatever type a number is read as, its value is that of its bytes. -/
theorem obeys_number {α : Type} (width : Nat) {ofNat : Nat → α} {toNat : α → Nat}
    (h : ∀ n, n < BigEndian.capacity width → toNat (ofNat n) = n) :
    ((nat width >>= fun n => pure (ofNat n)) >>= fun value =>
      pure (Found.number (toNat value))).Obeys fun found word =>
        word.length = width ∧ found = .number (BigEndian.ofBytes word) := by
  refine (((obeys_nat width).bind_pure ofNat).bind_pure fun value =>
    Found.number (toNat value)).mono fun found word => ⟨?_, ?_⟩
  · rintro ⟨_, ⟨_, ⟨rfl, rfl⟩, rfl⟩, rfl⟩
    exact ⟨rfl, by rw [h _ (BigEndian.ofBytes_lt word)]⟩
  · rintro ⟨rfl, rfl⟩
    exact ⟨_, ⟨_, ⟨rfl, rfl⟩, rfl⟩, by rw [h _ (BigEndian.ofBytes_lt word)]⟩

/-- A request of a fixed size finds any bytes, if they are as many. -/
theorem obeys_of_size (h : request.size? = some size) : request.read.Obeys fun found word =>
    word.length = size ∧ found = request.foundIn word := by
  cases request with
  | u8 =>
    cases h
    exact obeys_number 1 fun _ hn => UInt8.toNat_ofNat_of_lt' hn
  | u16 =>
    cases h
    exact obeys_number 2 fun _ hn => UInt16.toNat_ofNat_of_lt' hn
  | u32 =>
    cases h
    exact obeys_number 4 fun _ hn => UInt32.toNat_ofNat_of_lt' hn
  | u64 =>
    cases h
    exact obeys_number 8 fun _ hn => UInt64.toNat_ofNat_of_lt' hn
  | number width =>
    cases h
    refine ((obeys_nat size).bind_pure Found.number).mono fun found word => ⟨?_, ?_⟩
    · rintro ⟨_, ⟨hlength, rfl⟩, rfl⟩
      exact ⟨hlength, rfl⟩
    · rintro ⟨hlength, rfl⟩
      exact ⟨_, ⟨hlength, rfl⟩, rfl⟩
  | bytes count =>
    cases h
    refine ((Obeys.bytes size).bind_pure Found.bytes).mono fun found word => ⟨?_, ?_⟩
    · rintro ⟨_, ⟨rfl, hlength⟩, rfl⟩
      exact ⟨hlength, rfl⟩
    · rintro ⟨hlength, rfl⟩
      exact ⟨word, ⟨rfl, hlength⟩, rfl⟩
  | octets count =>
    cases h
    refine ((obeys_octets size).bind_pure fun octets => Found.bytes octets.toList).mono
      fun found word => ⟨?_, ?_⟩
    · rintro ⟨octets, rfl, rfl⟩
      exact ⟨octets.length_toList, rfl⟩
    · rintro ⟨hlength, rfl⟩
      exact ⟨⟨word, hlength⟩, rfl, rfl⟩
  | string => cases h
  | finish => cases h

/-- A request of a fixed size is refused where fewer bytes are left. -/
theorem refuses_of_size (h : request.size? = some size) : request.read.Refuses fun bytes error =>
    bytes.length < size ∧ error = .unexpectedEof size bytes.length := by
  cases request with
  | u8 | u16 | u32 | u64 =>
    cases h
    exact (((Refuses.bytes _).bind_pure _).bind_pure _).bind_pure _
  | number | octets =>
    cases h
    exact ((Refuses.bytes size).bind_pure _).bind_pure _
  | bytes =>
    cases h
    exact (Refuses.bytes size).bind_pure _
  | string => cases h
  | finish => cases h

/-- Behind its length stand as many bytes as it says. -/
theorem obeys_prefixed : (u16 >>= fun length => bytes length.toNat).Obeys fun found word =>
    found.length ≤ 65535 ∧ word = Wire.prefixed 2 found := by
  refine (obeys_u16.bind fun length => Obeys.bytes length.toNat).mono fun found word => ⟨?_, ?_⟩
  · rintro ⟨length, _, _, rfl, ⟨rfl, hlength⟩, rfl⟩
    refine ⟨?_, by rw [Wire.prefixed, hlength]⟩
    rw [hlength]
    exact Nat.le_of_lt_succ length.toNat_lt
  · rintro ⟨hlength, rfl⟩
    have htoNat : (UInt16.ofNat found.length).toNat = found.length :=
      UInt16.toNat_ofNat_of_lt' (Nat.lt_succ_of_le hlength)
    exact ⟨UInt16.ofNat found.length, _, found, rfl, ⟨rfl, htoNat.symm⟩,
      by rw [htoNat, Wire.prefixed]⟩

/-- Bytes behind a length are refused just if the length is not there in full, or fewer bytes than
it says. -/
theorem refuses_prefixed : (u16 >>= fun length => bytes length.toNat).Refuses fun bytes error =>
    (bytes.length < 2 ∧ error = .unexpectedEof 2 bytes.length) ∨
      ∃ (length : UInt16) (word behind : List UInt8), word = BigEndian.toBytes 2 length.toNat ∧
        bytes = word ++ behind ∧
        behind.length < length.toNat ∧ error = .unexpectedEof length.toNat behind.length :=
  .bind obeys_u16 (((Refuses.bytes 2).bind_pure _).bind_pure _) fun length => .bytes length.toNat

/-- The text of bytes that were read. Complaints name the place where its length was. -/
def spelledFrom (start : Nat) (bytes : List UInt8) : Read String :=
  match Utf8.decode? bytes with
  | some text => pure text
  | none => throwThe DecodeError (.invalidUtf8 start)

/-- Bytes are no text just if no text has them. The complaint names the place of the length. -/
theorem spelledFrom_eq_error_iff {start : Nat} {bytes : List UInt8} {reader : Reader} :
    spelledFrom start bytes reader = .error error ↔
      (∀ text, Utf8.encode text ≠ bytes) ∧ error = .invalidUtf8 start := by
  unfold spelledFrom
  cases htext : Utf8.decode? bytes with
  | some text =>
    refine iff_of_false nofun fun h => h.1 text ?_
    exact (Utf8.decode?_eq_some_iff.1 htext).symm
  | none =>
    have hnone : ∀ text, Utf8.encode text ≠ bytes := by
      rintro text rfl
      rw [Utf8.decode?_encode] at htext
      cases htext
    constructor
    · rintro ⟨⟩
      exact ⟨hnone, rfl⟩
    · rintro ⟨-, rfl⟩
      rfl

/-- `read_string` reads a length, as many bytes, and the text they spell. -/
theorem string_apply (reader : Reader) : string reader =
    ((u16 >>= fun length => bytes length.toNat) >>= spelledFrom reader.position) reader := by
  rw [bind_assoc]
  rfl

/-- A text is refused at one of three places: in its length, in its bytes, or behind them all. -/
theorem string_eq_error_iff :
    string ⟨position, rest⟩ = .error error ↔ Reader.Request.string.Fails position rest error := by
  rw [string_apply, bind_eq_error_iff, refuses_prefixed position rest error]
  constructor
  · rintro ((⟨hlength, rfl⟩ | ⟨length, _, behind, rfl, rfl, hlength, rfl⟩) |
      ⟨found, between, hread, hspelled⟩)
    · exact .noLength hlength
    · exact .cut rfl hlength
    · obtain ⟨word, ⟨hlength, rfl⟩, hrest, -⟩ := obeys_prefixed.spelled hread
      obtain ⟨hnone, rfl⟩ := spelledFrom_eq_error_iff.1 hspelled
      exact .illFormed hlength hrest hnone
  · intro h
    cases h with
    | short hsize => cases hsize
    | noLength hlength => exact .inl (.inl ⟨hlength, rfl⟩)
    | cut hrest hlength => exact .inl (.inr ⟨_, _, _, rfl, hrest, hlength, rfl⟩)
    | @illFormed found behind hlength hrest hnone =>
      subst hrest
      refine .inr ⟨found, _, obeys_prefixed.finds ⟨hlength, rfl⟩ position behind, ?_⟩
      exact spelledFrom_eq_error_iff.2 ⟨hnone, rfl⟩

/-- `finish` fails just for the bytes that are left over. -/
theorem finish_eq_error_iff :
    finish ⟨position, rest⟩ = .error error ↔ Reader.Request.finish.Fails position rest error := by
  cases rest with
  | nil =>
    refine iff_of_false nofun fun h => ?_
    cases h with
    | short hsize => cases hsize
    | trailing hrest => exact hrest rfl
  | cons byte rest =>
    constructor
    · rintro ⟨⟩
      exact .trailing (List.cons_ne_nil byte rest)
    · intro h
      cases h with
      | short hsize => cases hsize
      | trailing => rfl

end Read

namespace Reader.Request

variable {request : Request} {found : Found} {error : DecodeError} {position : Nat}
  {rest word : List UInt8} {reader after : Reader}

/-- A request is served with what stands in front, and for nothing else. -/
theorem obeys_takes (h : request ≠ .finish) : request.read.Obeys request.Takes := by
  cases hsize : request.size? with
  | some size =>
    refine (Read.obeys_of_size hsize).mono fun found word => ⟨?_, ?_⟩
    · rintro ⟨rfl, rfl⟩
      exact .piece hsize
    · intro htakes
      cases htakes with
      | piece hlength => exact ⟨Option.some.inj (hlength.symm.trans hsize), rfl⟩
      | text => cases hsize
      | nothing => cases hsize
  | none =>
    cases request with
    | string =>
      refine (Read.obeys_string.bind_pure Found.text).mono fun found word => ⟨?_, ?_⟩
      · rintro ⟨text, hword, rfl⟩
        obtain ⟨hlength, rfl⟩ := Wire.string_eq_ok_iff.1 hword
        exact .text hlength
      · intro htakes
        cases htakes with
        | piece hlength => cases hlength
        | text hlength => exact ⟨_, Wire.string_eq_ok_iff.2 ⟨hlength, rfl⟩, rfl⟩
    | finish => exact absurd rfl h
    | _ => cases hsize

/-- A request fails just for the reasons that are listed. -/
theorem read_eq_error_iff :
    request.read ⟨position, rest⟩ = .error error ↔ request.Fails position rest error := by
  cases hsize : request.size? with
  | some size =>
    rw [Read.refuses_of_size hsize position rest error]
    constructor
    · rintro ⟨hlength, rfl⟩
      exact .short hsize hlength
    · intro hfails
      cases hfails with
      | short hlength hlt =>
        cases hlength.symm.trans hsize
        exact ⟨hlt, rfl⟩
      | _ => cases hsize
  | none =>
    cases request with
    | string => exact Read.bind_pure_eq_error_iff.trans Read.string_eq_error_iff
    | finish => exact Read.bind_pure_eq_error_iff.trans Read.finish_eq_error_iff
    | _ => cases hsize

/-- What was found stood in front, and the reader is behind it. -/
theorem takes_of_read (h : request.read reader = .ok (found, after)) :
    ∃ word, request.Takes found word ∧ reader.rest = word ++ after.rest ∧
      after.position = reader.position + word.length := by
  by_cases hrequest : request = .finish
  · subst hrequest
    obtain ⟨_, between, hfinish, ⟨⟩⟩ := Read.exists_of_bind_eq_ok h
    have hafter : after = reader := by
      unfold Read.finish at hfinish
      split at hfinish <;> cases hfinish
      rfl
    subst hafter
    exact ⟨[], .nothing, rfl, rfl⟩
  · exact (obeys_takes hrequest).spelled h

end Reader.Request

end HostBridge
