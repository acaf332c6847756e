import HostBridge.Bytes.Octets
import HostBridge.Proofs.Text.Strict

/-!
# The text of byte strings

A byte string of a fixed size is written in lower-case hex, and read from digits of either case,
with or without `0x` in front. The library that writes bytes and reads digits is a parameter; what
is asked of it is `Octets.HexLibrary.Documented`, and the library that is used here does it
(`Octets.HexLibrary.documented_stock`). With any such library a text is read as a byte string
exactly if its digits spell it, and the byte string is written as those digits in lower case
(`Octets.HexLibrary.Documented.textForm`).
-/

namespace HostBridge

/-! ## Digits -/

namespace Hex

/-- The bytes that the codes of digits spell, two digits a byte, high half first. -/
inductive Spells : List UInt8 → List UInt8 → Prop
  | nil : Spells [] []
  | cons {high low : UInt8} {codes bytes : List UInt8} {h l : Nat} :
    digit? high = some h → digit? low = some l → Spells codes bytes →
    Spells (high :: low :: codes) (UInt8.ofNat (h * 16 + l) :: bytes)

variable {code : UInt8} {codes bytes : List UInt8} {value : Nat} {text : String}

/-- A digit is ASCII, and in lower case it is the one that its value is written as. -/
theorem digit?_eq_some (h : digit? code = some value) :
    value < 16 ∧ code.toNat < 0x80 ∧ (Char.ofNat code.toNat).toLower = value.digitChar := by
  have hall : ∀ n < 256, ∀ value ∈ digit? (UInt8.ofNat n),
      value < 16 ∧ n < 0x80 ∧ (Char.ofNat n).toLower = value.digitChar := by decide +kernel
  refine hall code.toNat code.toNat_lt value ?_
  rwa [UInt8.ofNat_toNat]

/-- The digit that a value is written as is read as that value. -/
theorem digit?_digitChar (h : value < 16) :
    digit? (UInt8.ofNat value.digitChar.toNat) = some value := by
  have hall : ∀ value < 16, digit? (UInt8.ofNat value.digitChar.toNat) = some value := by
    decide
  exact hall value h

/-- Digits are ASCII characters. -/
theorem digitChar_lt (h : value < 16) : value.digitChar.toNat < 0x80 := by
  have hall : ∀ value < 16, value.digitChar.toNat < 0x80 := by decide
  exact hall value h

/-- Every byte is spelled by two digits. -/
theorem Spells.length_eq (h : Spells codes bytes) : codes.length = 2 * bytes.length := by
  induction h with
  | nil => rfl
  | cons _ _ _ ih =>
    rw [List.length_cons, List.length_cons, List.length_cons, ih]
    omega

/-- Digits in pairs spell bytes. -/
theorem exists_spells {count : Nat} (hlength : codes.length = 2 * count)
    (hdigits : ∀ code ∈ codes, (digit? code).isSome) :
    ∃ bytes, Spells codes bytes ∧ bytes.length = count := by
  induction count generalizing codes with
  | zero =>
    obtain rfl := List.eq_nil_of_length_eq_zero hlength
    exact ⟨[], .nil, rfl⟩
  | succ count ih =>
    obtain _ | ⟨high, _ | ⟨low, codes⟩⟩ := codes
    · cases hlength
    · cases count <;> cases hlength
    · obtain ⟨hhigh, hrest⟩ := List.forall_mem_cons.1 hdigits
      obtain ⟨hlow, hrest⟩ := List.forall_mem_cons.1 hrest
      obtain ⟨h, hhigh⟩ := Option.isSome_iff_exists.1 hhigh
      obtain ⟨l, hlow⟩ := Option.isSome_iff_exists.1 hlow
      have hcount : codes.length = 2 * count := by
        rw [List.length_cons, List.length_cons] at hlength
        omega
      obtain ⟨bytes, hspells, hbytes⟩ := ih hcount hrest
      exact ⟨_, .cons hhigh hlow hspells, congrArg Nat.succ hbytes⟩

/-! ## Digits as text -/

/-- An ASCII character is the byte of its own number. -/
theorem encodeChar_ascii {char : Char} (h : char.toNat < 0x80) :
    String.utf8EncodeChar char = [UInt8.ofNat char.toNat] := by
  have hone := Utf8.encodeChar_one h
  rwa [Char.ofNat_toNat] at hone

/-- Other characters start with other bytes. -/
theorem exists_first_of_not_ascii {char : Char} (h : ¬ char.toNat < 0x80) :
    ∃ first rest, String.utf8EncodeChar char = first :: rest ∧ 0x80 ≤ first.toNat := by
  have hvalid : char.toNat.isValidChar := char.valid
  have hmax : char.toNat < 0x110000 := hvalid.elim (by omega) And.right
  have hchar : Char.ofNat char.toNat = char := Char.ofNat_toNat char
  generalize char.toNat = n at h hvalid hmax hchar
  subst hchar
  have htoNat : ∀ {m : Nat}, 0x80 ≤ m → m < 256 → 0x80 ≤ (UInt8.ofNat m).toNat := by
    intro m hle hlt
    rwa [Utf8.Scan.toNat_byte hlt]
  by_cases htwo : n < 0x800
  · exact ⟨_, _, Utf8.encodeChar_two (by omega) htwo, htoNat (by omega) (by omega)⟩
  by_cases hthree : n < 0x10000
  · exact ⟨_, _, Utf8.encodeChar_three (by omega) hthree hvalid, htoNat (by omega) (by omega)⟩
  · exact ⟨_, _, Utf8.encodeChar_four (by omega) hmax, htoNat (by omega) (by omega)⟩

/-- Where the bytes of a text start with one of ASCII, the text starts with its character. -/
theorem exists_of_encodeChars {chars : List Char} (hcode : code.toNat < 0x80)
    (h : chars.flatMap String.utf8EncodeChar = code :: codes) :
    ∃ rest, chars = Char.ofNat code.toNat :: rest ∧ rest.flatMap String.utf8EncodeChar = codes := by
  cases chars with
  | nil => cases h
  | cons char rest =>
    rw [List.flatMap_cons] at h
    by_cases hchar : char.toNat < 0x80
    · rw [encodeChar_ascii hchar] at h
      cases h
      refine ⟨rest, ?_, rfl⟩
      rw [Utf8.Scan.toNat_byte (by omega), Char.ofNat_toNat]
    · obtain ⟨first, others, hencode, hfirst⟩ := exists_first_of_not_ascii hchar
      rw [hencode] at h
      cases h
      exact absurd hcode (Nat.not_lt.2 hfirst)

/-- The digits of a byte are those of its halves, the high half first. -/
theorem digits_ofNat {h l : Nat} (hhigh : h < 16) (hlow : l < 16) :
    digits (UInt8.ofNat (h * 16 + l)) = [h.digitChar, l.digitChar] := by
  have htoNat : (UInt8.ofNat (h * 16 + l)).toNat = h * 16 + l := Utf8.Scan.toNat_byte (by omega)
  have hdiv : (h * 16 + l) / 16 = h := by omega
  have hmod : (h * 16 + l) % 16 = l := by omega
  rw [digits, htoNat, hdiv, hmod]

/-- Digits that spell bytes are, in lower case, what the bytes are written as. -/
theorem Spells.toLower {chars : List Char} (h : Spells codes bytes)
    (hchars : chars.flatMap String.utf8EncodeChar = codes) :
    chars.map Char.toLower = bytes.flatMap digits := by
  induction h generalizing chars with
  | nil =>
    cases chars with
    | nil => rfl
    | cons char rest =>
      rw [List.flatMap_cons, List.append_eq_nil_iff] at hchars
      exact absurd hchars.1 String.utf8EncodeChar_ne_nil
  | cons hhigh hlow _ ih =>
    obtain ⟨hlt, hascii, hlower⟩ := digit?_eq_some hhigh
    obtain ⟨hlt', hascii', hlower'⟩ := digit?_eq_some hlow
    obtain ⟨behind, rfl, hbehind⟩ := exists_of_encodeChars hascii hchars
    obtain ⟨rest, rfl, hrest⟩ := exists_of_encodeChars hascii' hbehind
    rw [List.map_cons, List.map_cons, ih hrest, hlower, hlower', List.flatMap_cons,
      digits_ofNat hlt hlt']
    rfl

/-- What bytes are written as spells them. -/
theorem spells_digits (bytes : List UInt8) :
    Spells ((bytes.flatMap digits).flatMap String.utf8EncodeChar) bytes := by
  induction bytes with
  | nil => exact .nil
  | cons byte bytes ih =>
    have hhigh : byte.toNat / 16 < 16 := Nat.div_lt_of_lt_mul byte.toNat_lt
    have hlow : byte.toNat % 16 < 16 := Nat.mod_lt _ (by decide)
    have hspells := Spells.cons (digit?_digitChar hhigh) (digit?_digitChar hlow) ih
    rw [Nat.div_add_mod', UInt8.ofNat_toNat] at hspells
    rw [List.flatMap_cons, List.flatMap_append, digits, List.flatMap_cons, List.flatMap_cons,
      encodeChar_ascii (digitChar_lt hhigh), encodeChar_ascii (digitChar_lt hlow)]
    exact hspells

end Hex

namespace Octets

variable {size : Nat} {codes : List UInt8} {text : String} {error : HexError}

/-- A text without one marker `0x` in front, if it has one. -/
def bare (text : String) : String :=
  match text.toList with
  | '0' :: 'x' :: rest => String.ofList rest
  | _ => text

/-- The marker is the same in the bytes of a text. -/
theorem unmarked_encode (text : String) :
    unmarked (Utf8.encode text) = Utf8.encode (bare text) := by
  unfold bare
  split
  · next rest htext =>
    rw [Utf8.encode, htext, Utf8.encode, String.toList_ofList]
    rfl
  · next hmarker =>
    unfold unmarked
    split
    · next codes hcodes =>
      obtain ⟨behind, hchars, hbehind⟩ := Hex.exists_of_encodeChars (by decide) hcodes
      obtain ⟨rest, rfl, -⟩ := Hex.exists_of_encodeChars (by decide) hbehind
      exact absurd hchars (hmarker rest)
    · rfl

/-- Digits have no marker in front. -/
theorem unmarked_of_spells {bytes : List UInt8} (h : Hex.Spells codes bytes) :
    unmarked codes = codes := by
  cases h with
  | nil => rfl
  | @cons high low codes bytes h l hhigh hlow _ =>
    have hne : low ≠ 0x78 := by
      rintro rfl
      cases hlow
    unfold unmarked
    split
    · next heq =>
      cases heq
      exact absurd rfl hne
    · rfl

/-- Why `codes` do not spell a byte string of this size: they are not in pairs, or make another
number of bytes, or one of them is the first that is no digit. -/
inductive Misspells (size : Nat) (codes : List UInt8) : HexError → Prop
  | oddLength : codes.length % 2 = 1 → Misspells size codes .oddLength
  | wrongLength : codes.length % 2 = 0 → codes.length ≠ 2 * size →
    Misspells size codes .wrongLength
  | badDigit {front back : List UInt8} {code : UInt8} : codes.length = 2 * size →
    codes = front ++ code :: back → (∀ other ∈ front, (Hex.digit? other).isSome) →
    Hex.digit? code = none → Misspells size codes (.badDigit code front.length)

/-- Codes spell a byte string of this size, or there is a reason why they do not. -/
theorem spells_or_misspells (size : Nat) (codes : List UInt8) :
    (∃ octets : Octets size, Hex.Spells codes octets.toList) ∨
      ∃ error, Misspells size codes error := by
  obtain heven | hodd := Nat.mod_two_eq_zero_or_one codes.length
  · by_cases hlength : codes.length = 2 * size
    · cases hfind : codes.find? fun code => (Hex.digit? code).isNone with
      | none =>
        have hdigits : ∀ code ∈ codes, (Hex.digit? code).isSome := by
          simpa [Option.isSome_iff_ne_none] using hfind
        obtain ⟨bytes, hspells, hbytes⟩ := Hex.exists_spells hlength hdigits
        exact .inl ⟨⟨bytes, hbytes⟩, hspells⟩
      | some code =>
        obtain ⟨hcode, front, back, hcodes, hfront⟩ := List.find?_eq_some_iff_append.1 hfind
        refine .inr ⟨_, .badDigit hlength hcodes ?_ (Option.isNone_iff_eq_none.1 hcode)⟩
        simpa [Option.isSome_iff_ne_none] using hfront
    · exact .inr ⟨_, .wrongLength heven hlength⟩
  · exact .inr ⟨_, .oddLength hodd⟩

/-! ## Reading digits -/

/-- Digits are read as the bytes that they spell. -/
theorem ofDigits_of_spells {bytes : List UInt8} (h : Hex.Spells codes bytes) (position : Nat) :
    ofDigits position codes = .ok bytes := by
  induction h generalizing position with
  | nil => rfl
  | cons hhigh hlow _ ih =>
    simp only [ofDigits, hhigh, hlow, ih]
    rfl

/-- The first code that is no digit is found where it stands. Digits are read in pairs, so it is the
first or the second of a pair. -/
theorem ofDigits_of_bad {code : UInt8} (hcode : Hex.digit? code = none) :
    ∀ (front back : List UInt8) (position : Nat), (front ++ code :: back).length % 2 = 0 →
      (∀ other ∈ front, (Hex.digit? other).isSome) →
      ofDigits position (front ++ code :: back) = .error (.badDigit code (position + front.length))
  | [], [], _, heven, _ => by cases heven
  | [], low :: back, position, _, _ => by
    simp only [List.nil_append, ofDigits, hcode]
    rfl
  | [high], back, position, _, hfront => by
    obtain ⟨h, hhigh⟩ := Option.isSome_iff_exists.1 (hfront high (.head _))
    simp only [List.cons_append, List.nil_append, ofDigits, hhigh, hcode]
    rfl
  | high :: low :: front, back, position, heven, hfront => by
    obtain ⟨hhigh, hrest⟩ := List.forall_mem_cons.1 hfront
    obtain ⟨hlow, hrest⟩ := List.forall_mem_cons.1 hrest
    obtain ⟨h, hhigh⟩ := Option.isSome_iff_exists.1 hhigh
    obtain ⟨l, hlow⟩ := Option.isSome_iff_exists.1 hlow
    have heven' : (front ++ code :: back).length % 2 = 0 := by
      rw [List.cons_append, List.cons_append, List.length_cons, List.length_cons] at heven
      omega
    have hposition : position + 2 + front.length = position + (front.length + 1 + 1) := by omega
    have ih := ofDigits_of_bad hcode front back (position + 2) heven' hrest
    rw [hposition] at ih
    simp only [List.cons_append, ofDigits, hhigh, hlow, ih]
    rfl

/-- Digits that spell a byte string of this size are read as it. -/
theorem ofCodes_of_spells {octets : Octets size} (h : Hex.Spells codes octets.toList) :
    ofCodes size codes = .ok octets := by
  have hlength := h.length_eq
  rw [octets.length_toList] at hlength
  rw [ofCodes, if_neg (by omega), if_neg (not_not_intro hlength), ofDigits_of_spells h]
  exact congrArg Except.ok (ofBytes_toList octets)

/-- What spells no byte string of this size is refused for the first reason there is. -/
theorem ofCodes_of_misspells (h : Misspells size codes error) :
    ofCodes size codes = .error error := by
  unfold ofCodes
  cases h with
  | oddLength hodd => rw [if_pos (by omega)]
  | wrongLength heven hlength => rw [if_neg (by omega), if_pos hlength]
  | badDigit hlength hcodes hfront hcode =>
    subst hcodes
    rw [if_neg (by omega), if_neg (not_not_intro hlength),
      ofDigits_of_bad hcode _ _ 0 (by omega) hfront, Nat.zero_add]
    rfl

namespace HexLibrary

/-- What the library is known to do. -/
structure Documented (library : HexLibrary) : Prop where
  /-- Each byte is written as two digits in lower case, high half first. -/
  encode_eq : ∀ bytes, (library.encode bytes).toList = bytes.flatMap Hex.digits
  /-- Digits of either case are read in pairs. -/
  decode_spelled : ∀ {size : Nat} {codes : List UInt8} {octets : Octets size},
    Hex.Spells codes octets.toList → library.decode size codes = .ok octets
  /-- What cannot be read is refused for the first of three reasons. -/
  decode_misspelled : ∀ {size : Nat} {codes : List UInt8} {error : HexError},
    Misspells size codes error → library.decode size codes = .error error

/-- The library that is run does what is known of the library. -/
theorem documented_stock : stock.Documented where
  encode_eq _ := String.toList_ofList
  decode_spelled := ofCodes_of_spells
  decode_misspelled := ofCodes_of_misspells

end HexLibrary

/-! ## Byte strings as text -/

/-- Text and byte strings of a size, with this library. The text without its marker is what counts:
it is read as the byte string that its digits spell, and refused for the first reason there is. A
byte string is written as its digits in lower case, and read back with a marker and without. -/
structure TextForm (library : HexLibrary) (size : Nat) : Prop where
  parse_eq_ok_iff : ∀ (text : String) (octets : Octets size), parse library text = .ok octets ↔
    (Utf8.encode (bare text)).length = 2 * size ∧
      Hex.Spells (Utf8.encode (bare text)) octets.toList
  display_eq : ∀ (text : String) (octets : Octets size), parse library text = .ok octets →
    display library octets = (bare text).map Char.toLower
  parse_display : ∀ octets : Octets size, parse library (display library octets) = .ok octets
  parse_marked : ∀ octets : Octets size,
    parse library ("0x" ++ display library octets) = .ok octets
  parse_eq_error_iff : ∀ (text : String) (error : HexError),
    (parse library text : Except HexError (Octets size)) = .error error ↔
      Misspells size (Utf8.encode (bare text)) error

namespace HexLibrary.Documented

variable {library : HexLibrary} {octets : Octets size}

/-- Text is read by the library, without the marker in front. -/
theorem parse_eq (library : HexLibrary) (text : String) :
    parse library text = library.decode size (Utf8.encode (bare text)) := by
  rw [parse, unmarked_encode]

/-- Text is read as the byte string that its digits spell, in either case, with a marker or
without. -/
theorem parse_eq_ok_iff (h : library.Documented) :
    parse library text = .ok octets ↔ Hex.Spells (Utf8.encode (bare text)) octets.toList := by
  rw [parse_eq]
  refine ⟨fun hparse => ?_, h.decode_spelled⟩
  obtain ⟨other, hspells⟩ | ⟨error, hmisspells⟩ :=
    spells_or_misspells size (Utf8.encode (bare text))
  · rw [h.decode_spelled hspells] at hparse
    cases hparse
    exact hspells
  · rw [h.decode_misspelled hmisspells] at hparse
    cases hparse

/-- Text that spells no byte string of the size is refused for the first reason there is. -/
theorem parse_eq_error_iff (h : library.Documented) :
    (parse library text : Except HexError (Octets size)) = .error error ↔
      Misspells size (Utf8.encode (bare text)) error := by
  rw [parse_eq]
  refine ⟨fun hparse => ?_, h.decode_misspelled⟩
  obtain ⟨octets, hspells⟩ | ⟨other, hmisspells⟩ :=
    spells_or_misspells size (Utf8.encode (bare text))
  · rw [h.decode_spelled hspells] at hparse
    cases hparse
  · rw [h.decode_misspelled hmisspells] at hparse
    cases hparse
    exact hmisspells

/-- Behind its marker, the printed form of a byte string spells it. -/
theorem spells_display (h : library.Documented) (octets : Octets size) :
    Hex.Spells (Utf8.encode (display library octets)) octets.toList := by
  rw [Utf8.encode, display, h.encode_eq]
  exact Hex.spells_digits octets.toList

/-- **The text of byte strings.** With a library that does what is known of it, a text is read as a
byte string exactly if its digits, of either case and without one marker, spell it; the byte string
is written as those digits in lower case; and any other text is refused for its first flaw. -/
theorem textForm (h : library.Documented) (size : Nat) : TextForm library size where
  parse_eq_ok_iff text octets := by
    rw [h.parse_eq_ok_iff]
    refine ⟨fun hspells => ⟨?_, hspells⟩, And.right⟩
    rw [hspells.length_eq, octets.length_toList]
  display_eq text octets hparse := by
    have hlower := (h.parse_eq_ok_iff.1 hparse).toLower rfl
    rw [← String.toList_inj, String.toList_map, hlower, display, h.encode_eq]
  parse_display octets := by
    have hspells := h.spells_display octets
    rw [parse, unmarked_of_spells hspells]
    exact h.decode_spelled hspells
  parse_marked octets := by
    rw [parse, Utf8.encode_append]
    exact h.decode_spelled (h.spells_display octets)
  parse_eq_error_iff text error := h.parse_eq_error_iff

/-- An address that is typed in upper case with a marker is shown in lower case without one. -/
theorem textForm_stock :
    let address : Address :=
      ⟨[0xbc, 0x21, 0x3f, 0xfe, 0x5f, 0x28, 0x5a, 0xdf, 0x9b, 0x2d, 0xf9, 0x97, 0x5a, 0x98, 0xa8,
        0xf3, 0xb8, 0x10, 0x6b, 0xf7], rfl⟩
    stock.Documented ∧
      parse stock "0xBC213FFE5F285ADF9B2DF9975A98A8F3B8106BF7" = .ok address ∧
      display stock address = "bc213ffe5f285adf9b2df9975a98a8f3b8106bf7" := by
  intro address
  have hparse : parse stock "0xBC213FFE5F285ADF9B2DF9975A98A8F3B8106BF7" = .ok address := rfl
  have hdisplay := (textForm documented_stock 20).display_eq _ address hparse
  refine ⟨documented_stock, hparse, ?_⟩
  rw [hdisplay, ← String.toList_inj, String.toList_map]
  decide

end HexLibrary.Documented

end Octets

end HostBridge
