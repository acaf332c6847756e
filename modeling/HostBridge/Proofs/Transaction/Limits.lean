import HostBridge.Proofs.Wire.Reading
import HostBridge.Transaction.Template

/-!
# What fits into a template

Names are counted in one byte and measured in one, sizes are counted in two. A section with more of
them than that is refused (`Section.body_eq_error_iff`), and a template for the first section that
is (`encode_eq_error_iff`). The sections themselves are never too many: their count is written in
two bytes whatever it is, so it is the number of sections only up to 65535 (`refused_or_counted`).
-/

namespace HostBridge.Template

namespace Section

variable {part : Section} {error : EncodeError} {body : List UInt8}

/-! ## Sections -/

/-- Whether the code of a section leaves its body, which has 26 bytes in front of the code, below
four GiB. -/
def CodeFits : Section → Prop
  | .code bytes => bytes.length + 26 < UInt32.size
  | .constructors _ | .layout _ => True

/-- A section with a count or a length that is greater than what it is written in can hold. -/
inductive Oversized : Section → Prop where
  | names {names : List String} : 255 < names.length → Oversized (.constructors names)
  | name {names : List String} {name : String} :
    name ∈ names → 255 < (Utf8.encode name).length → Oversized (.constructors names)
  | sizes {sizes : List UInt16} : 65535 < sizes.length → Oversized (.layout sizes)

/-- Why a section is refused. Names are counted before the first of them is written. -/
inductive Refused : Section → EncodeError → Prop where
  | code {bytes : List UInt8} :
    UInt32.size ≤ bytes.length → Refused (.code bytes) (.outOfRange .u32 bytes.length)
  | names {names : List String} :
    255 < names.length → Refused (.constructors names) (.tooManyItems names.length 255)
  | name {names : List String} {name : String} :
    names.length ≤ 255 →
    names.find? (fun name => 255 < (Utf8.encode name).length) = some name →
    Refused (.constructors names) (.stringTooLong (Utf8.encode name).length)
  | sizes {sizes : List UInt16} :
    65535 < sizes.length → Refused (.layout sizes) (.tooManyItems sizes.length 65535)

/-- The body of a section is refused just for what does not fit. -/
theorem body_eq_error_iff : part.body = .error error ↔ Refused part error := by
  cases part with
  | code bytes =>
    rw [body, Wire.ite_eq_error_iff]
    constructor
    · rintro (⟨-, ⟨⟩⟩ | ⟨hlt, rfl⟩)
      exact .code (Nat.le_of_not_lt hlt)
    · rintro ⟨hle⟩
      exact .inr ⟨Nat.not_lt.2 hle, rfl⟩
  | constructors names =>
    rw [body, Wire.ite_eq_error_iff, Wire.bind_pure_eq_error_iff, Wire.mapM_string_eq_error_iff]
    constructor
    · rintro (⟨hcount, name, hlong, rfl⟩ | ⟨hcount, rfl⟩)
      · exact .name hcount hlong
      · exact .names (Nat.lt_of_not_le hcount)
    · rintro (_ | hlt | ⟨hcount, hlong⟩ | _)
      · exact .inr ⟨Nat.not_le.2 hlt, rfl⟩
      · exact .inl ⟨hcount, _, hlong, rfl⟩
  | layout sizes =>
    rw [body, Wire.ite_eq_error_iff]
    constructor
    · rintro (⟨-, ⟨⟩⟩ | ⟨hcount, rfl⟩)
      exact .sizes (Nat.lt_of_not_le hcount)
    · rintro (_ | _ | _ | hlt)
      exact .inr ⟨Nat.not_le.2 hlt, rfl⟩

/-- Sizes that are written are a row of numbers of two bytes. -/
theorem row_write_sizes (sizes : List UInt16) :
    Row (fun size word => word = (Wire.Field.u16 size).bytes) sizes
      (Wire.write (sizes.map .u16)) := by
  rw [Wire.write, List.flatMap_map]
  exact row_eq_iff.2 rfl

/-- Only code makes a body of four GiB: there are not enough names and sizes for that, and no name
is long enough. -/
theorem length_body_lt (hcode : part.CodeFits) (h : part.body = .ok body) :
    body.length < UInt32.size := by
  have hsize : UInt32.size = 4294967296 := rfl
  cases part with
  | code bytes =>
    obtain ⟨-, ⟨⟩⟩ := Wire.ite_eq_ok_iff.1 h
    have hformat : (Wire.write codeFormat).length = 22 := rfl
    have hlt : bytes.length + 26 < UInt32.size := hcode
    rw [List.length_append, hformat, Wire.prefixed, List.length_append, BigEndian.length_toBytes]
    omega
  | constructors names =>
    obtain ⟨hcount, h⟩ := Wire.ite_eq_ok_iff.1 h
    obtain ⟨words, hwords, ⟨⟩⟩ := Wire.exists_of_bind_eq_ok h
    have hword : ∀ (name : String) (word : List UInt8),
        Wire.string 1 name = .ok word → word.length ≤ 256 := by
      intro name word hword
      obtain ⟨hlt, rfl⟩ := Wire.string_eq_ok_iff_lt.1 hword
      rw [Wire.prefixed, List.length_append, BigEndian.length_toBytes, Nat.add_comm]
      exact hlt
    have hlength := (Wire.row_of_mapM_eq_ok hwords).length_le hword
    rw [List.length_cons]
    omega
  | layout sizes =>
    obtain ⟨hcount, ⟨⟩⟩ := Wire.ite_eq_ok_iff.1 h
    have hword : ∀ (size : UInt16) (word : List UInt8),
        word = (Wire.Field.u16 size).bytes → word.length ≤ 2 := by
      rintro size _ rfl
      exact Nat.le_of_eq (BigEndian.length_toBytes ..)
    have hlength := (row_write_sizes sizes).length_le hword
    have hformat : (Wire.write [.u16 1, .u16 1, .u16 (.ofNat sizes.length), .u32 0]).length = 10 :=
      rfl
    rw [List.length_append, hformat]
    omega

/-- A section is written unless its body is refused. -/
theorem encode_eq_error_iff : part.encode = .error error ↔ Refused part error := by
  rw [encode, Wire.bind_pure_eq_error_iff, body_eq_error_iff]

/-- A section whose code fits is refused just if it is too great for its counts and lengths. -/
theorem exists_refused_iff (h : part.CodeFits) :
    (∃ error, Refused part error) ↔ Oversized part := by
  constructor
  · rintro ⟨_, hle | hlt | ⟨-, hlong⟩ | hlt⟩
    · exact absurd (Nat.lt_of_le_of_lt (Nat.le_add_right _ 26) h) (Nat.not_lt.2 hle)
    · exact .names hlt
    · have hlt := List.find?_some hlong
      exact .name (List.mem_of_find?_eq_some hlong) (of_decide_eq_true hlt)
    · exact .sizes hlt
  · rintro (hlt | @⟨names, name, hmem, hlong⟩ | hlt)
    · exact ⟨_, .names hlt⟩
    · by_cases hcount : names.length ≤ 255
      · cases hfirst : names.find? fun name => 255 < (Utf8.encode name).length with
        | none => exact absurd (decide_eq_true hlong) (List.find?_eq_none.1 hfirst name hmem)
        | some first => exact ⟨_, .name hcount hfirst⟩
      · exact ⟨_, .names (Nat.lt_of_not_le hcount)⟩
    · exact ⟨_, .sizes hlt⟩

end Section

/-! ## Templates -/

variable {sections : List Section} {error : EncodeError} {bytes : List UInt8}

/-- A template is refused for the first of its sections that is. -/
theorem encode_eq_error_iff : Template.encode sections = .error error ↔ ∃ front part back,
    sections = front ++ part :: back ∧ (∀ other ∈ front, ∃ body, other.body = .ok body) ∧
      part.Refused error := by
  have hbody : ∀ part : Section, (∃ word, part.encode = .ok word) ↔
      ∃ body, part.body = .ok body := by
    intro part
    constructor
    · rintro ⟨_, h⟩
      obtain ⟨body, hbody, -⟩ := Wire.exists_of_bind_eq_ok h
      exact ⟨body, hbody⟩
    · rintro ⟨body, hbody⟩
      exact ⟨_, by rw [Section.encode, hbody]; rfl⟩
  rw [Template.encode, Wire.bind_pure_eq_error_iff, Wire.mapM_eq_error_iff]
  simp only [hbody, Section.encode_eq_error_iff]

/-- Only sections are refused, never their number. -/
theorem exists_encode_error_iff : (∃ error, Template.encode sections = .error error) ↔
    ∃ part ∈ sections, ∃ error, part.Refused error := by
  simp only [Template.encode, Wire.bind_pure_eq_error_iff, Wire.exists_mapM_eq_error_iff,
    Section.encode_eq_error_iff]

/-- The low two bytes of the number of sections come first. -/
theorem ofBytes_take_of_encode (h : Template.encode sections = .ok bytes) :
    BigEndian.ofBytes (bytes.take 2) = sections.length % 65536 := by
  obtain ⟨words, -, ⟨⟩⟩ := Wire.exists_of_bind_eq_ok h
  rw [List.take_left' (BigEndian.length_toBytes ..), BigEndian.ofBytes_toBytes]
  rfl

/-- **Counts and lengths inside a section are never cut off, the count of the sections is.** Where
the code of the sections fits, a template is refused just if a section has more names, longer names
or more sizes than can be counted. A template that is written starts with the low two bytes of the
number of its sections, which are that number only up to 65535. -/
theorem refused_or_counted (hcode : ∀ part ∈ sections, part.CodeFits) :
    ((∃ error, Template.encode sections = .error error) ↔ ∃ part ∈ sections, part.Oversized) ∧
    ∀ bytes, Template.encode sections = .ok bytes →
      BigEndian.ofBytes (bytes.take 2) = sections.length % 65536 ∧
      (BigEndian.ofBytes (bytes.take 2) = sections.length ↔ sections.length ≤ 65535) := by
  constructor
  · rw [exists_encode_error_iff]
    exact exists_congr fun part => and_congr_right fun hmem =>
      Section.exists_refused_iff (hcode part hmem)
  · intro bytes hencode
    have hcount := ofBytes_take_of_encode hencode
    refine ⟨hcount, ?_⟩
    rw [hcount]
    omega

/-- Code and a layout behind a count of two. -/
theorem counted_of_code_and_layout :
    (∀ part ∈ [Section.code [0xC0, 0xDE], .layout [4, 8]], part.CodeFits) ∧
    ∃ bytes, Template.encode [.code [0xC0, 0xDE], .layout [4, 8]] = .ok bytes ∧
      BigEndian.ofBytes (bytes.take 2) = 2 := by
  have hlength : 2 + 26 < UInt32.size := by decide
  have hcode : ∀ part ∈ [Section.code [0xC0, 0xDE], .layout [4, 8]], part.CodeFits :=
    List.forall_mem_cons.2 ⟨hlength, List.forall_mem_singleton.2 trivial⟩
  obtain ⟨-, hcounted⟩ := refused_or_counted hcode
  exact ⟨hcode, _, rfl, (hcounted _ rfl).1⟩

/-- Of 65536 sections the count says that there are none. -/
theorem count_of_65536_sections :
    (∀ part ∈ List.replicate 65536 (Section.constructors []), part.CodeFits) ∧
    ∃ bytes, Template.encode (List.replicate 65536 (.constructors [])) = .ok bytes ∧
      BigEndian.ofBytes (bytes.take 2) = 0 := by
  have hencode : ∃ bytes,
      Template.encode (List.replicate 65536 (.constructors [])) = .ok bytes := by
    cases hencode : Template.encode (List.replicate 65536 (.constructors [])) with
    | ok bytes => exact ⟨bytes, rfl⟩
    | error error =>
      obtain ⟨part, hmem, refusal, hrefused⟩ := exists_encode_error_iff.1 ⟨error, hencode⟩
      obtain rfl := List.eq_of_mem_replicate hmem
      rcases hrefused with _ | hlt | ⟨-, hlong⟩ | _
      · cases hlt
      · cases hlong
  obtain ⟨bytes, hencode⟩ := hencode
  refine ⟨fun part hmem => ?_, bytes, hencode, ?_⟩
  · obtain rfl := List.eq_of_mem_replicate hmem
    trivial
  · rw [ofBytes_take_of_encode hencode, List.length_replicate]

end HostBridge.Template
