import HostBridge.Proofs.Transaction.Limits

/-!
# Templates read back

A template can be read with no more than its bytes: sections behind their count, each as its tag
and its body behind the length of the body (`readRecords`), and a body by its tag
(`Record.section?`). What is read of a template that was written are the sections it was written
of, in their order and to the last byte (`records_of_encode`), so no two templates share their bytes
(`sections_determined`).
-/

namespace HostBridge.Template

/-! ## The reader -/

/-- A section as it stands in a template: its tag and its body. -/
structure Record where
  tag : UInt16
  body : List UInt8
  deriving DecidableEq

/-- Reads a tag and a body behind its length. -/
def readRecord : Read Record := do
  let tag ← Read.u16
  let length ← Read.u32
  return ⟨tag, ← Read.bytes length.toNat⟩

/-- Reads records behind their count. -/
def readRecords : Read (List Record) := do
  let count ← Read.u16
  Read.replicate count.toNat readRecord

/-- Reads code behind the fixed 22 bytes of its format and the four of its length. -/
def readCode : Read Section := do
  let _format ← Read.bytes 22
  let length ← Read.u32
  return .code (← Read.bytes length.toNat)

/-- Reads a name behind its length in one byte. -/
def readName : Read String := do
  let start := (← get).position
  let length ← Read.u8
  match Utf8.decode? (← Read.bytes length.toNat) with
  | some name => return name
  | none => throw (.invalidUtf8 start)

/-- Reads names behind their count. -/
def readConstructors : Read Section := do
  let count ← Read.u8
  return .constructors (← Read.replicate count.toNat readName)

/-- Reads sizes of two bytes. Their count stands between two fixed fields of four bytes each. -/
def readLayout : Read Section := do
  let _format ← Read.bytes 4
  let count ← Read.u16
  let _first ← Read.bytes 4
  return .layout (← Read.replicate count.toNat Read.u16)

/-- The section that a record holds, if its body holds nothing else. -/
def Record.section? (record : Record) : Option Section :=
  match record.tag with
  | 1 => (readCode.all record.body).toOption
  | 2 => (readLayout.all record.body).toOption
  | 3 => (readConstructors.all record.body).toOption
  | _ => none

/-- The record of a section. -/
def Section.record (part : Section) : Except EncodeError Record := do
  return ⟨part.tag, ← part.body⟩

variable {sections : List Section} {part : Section} {bytes body word : List UInt8}

/-! ## Bodies -/

/-- Code is found behind its format and its length. -/
theorem finds_readCode (h : bytes.length < UInt32.size) :
    readCode.Finds (.code bytes) (Wire.write Section.codeFormat ++ Wire.prefixed 4 bytes) := by
  have hformat : (Read.bytes 22).Finds (Wire.write Section.codeFormat) _ := .bytes rfl
  have ⟨hlength, hbytes⟩ := Read.finds_length32 h
  exact hformat.bind (hlength.bind (hbytes.bind_pure _))

/-- A name is read behind its length. -/
theorem finds_readName {name : String} (h : Wire.string 1 name = .ok word) :
    readName.Finds name word := by
  obtain ⟨hlt, rfl⟩ := Wire.string_eq_ok_iff_lt.1 h
  have hlength : (UInt8.ofNat (Utf8.encode name).length).toNat = (Utf8.encode name).length :=
    UInt8.toNat_ofNat_of_lt' hlt
  have hu8 : Read.u8.Finds (UInt8.ofNat (Utf8.encode name).length)
      (BigEndian.toBytes 1 (Utf8.encode name).length) := Read.obeys_u8.finds rfl
  have hread : (Read.u8 >>= fun length => Read.bytes length.toNat).Finds (Utf8.encode name)
      (Wire.prefixed 1 (Utf8.encode name)) := hu8.bind (.bytes hlength.symm)
  have htext := Read.finds_text hread
  simp only [bind_assoc] at htext
  exact htext

/-- Names of constructors are found behind their count. -/
theorem finds_readConstructors {names : List String} {words : List (List UInt8)}
    (hcount : names.length ≤ 255) (h : names.mapM (Wire.string 1) = .ok words) :
    readConstructors.Finds (.constructors names) (UInt8.ofNat names.length :: words.flatten) := by
  have hlength : (UInt8.ofNat names.length).toNat = names.length :=
    UInt8.toNat_ofNat_of_lt' (Nat.lt_succ_of_le hcount)
  have hnames : (Read.replicate names.length readName).Finds names words.flatten :=
    .replicate ((Wire.row_of_mapM_eq_ok h).mono fun _ _ => finds_readName)
  rw [← hlength] at hnames
  exact (Read.obeys_u8.finds rfl).bind (hnames.bind_pure _)

/-- The sizes of a layout are found behind their count. -/
theorem finds_readLayout {sizes : List UInt16} (h : sizes.length ≤ 65535) :
    readLayout.Finds (.layout sizes)
      (Wire.write [.u16 1, .u16 1, .u16 (.ofNat sizes.length), .u32 0] ++
        Wire.write (sizes.map .u16)) := by
  have hlength : (UInt16.ofNat sizes.length).toNat = sizes.length :=
    UInt16.toNat_ofNat_of_lt' (Nat.lt_succ_of_le h)
  have hrow : Row Read.u16.Finds sizes (Wire.write (sizes.map .u16)) :=
    (Section.row_write_sizes sizes).mono fun _ _ hword => Read.obeys_u16.finds hword
  have hsizes := Read.Finds.replicate hrow
  rw [← hlength] at hsizes
  have hformat : (Read.bytes 4).Finds (Wire.write [.u16 1, .u16 1]) _ := .bytes rfl
  have hfirst : (Read.bytes 4).Finds (Wire.write [.u32 0]) _ := .bytes rfl
  exact hformat.bind ((Read.obeys_u16.finds rfl).bind (hfirst.bind (hsizes.bind_pure _)))

/-- What is written of a section is its body to the reader of its kind. -/
theorem section?_record (h : part.body = .ok body) :
    Record.section? ⟨part.tag, body⟩ = some part := by
  cases part with
  | code bytes =>
    obtain ⟨hlt, ⟨⟩⟩ := Wire.ite_eq_ok_iff.1 h
    exact congrArg Except.toOption (finds_readCode hlt).all
  | constructors names =>
    obtain ⟨hcount, h⟩ := Wire.ite_eq_ok_iff.1 h
    obtain ⟨words, hnames, ⟨⟩⟩ := Wire.exists_of_bind_eq_ok h
    exact congrArg Except.toOption (finds_readConstructors hcount hnames).all
  | layout sizes =>
    obtain ⟨hcount, ⟨⟩⟩ := Wire.ite_eq_ok_iff.1 h
    exact congrArg Except.toOption (finds_readLayout hcount).all

/-! ## Templates -/

/-- A section is found behind its kind and the length of its body. -/
theorem finds_readRecord {tag : UInt16} (h : body.length < UInt32.size) :
    readRecord.Finds ⟨tag, body⟩ ((Wire.Field.u16 tag).bytes ++ Wire.prefixed 4 body) := by
  have ⟨hlength, hbody⟩ := Read.finds_length32 h
  exact (Read.obeys_u16.finds rfl).bind (hlength.bind (hbody.bind_pure _))

/-- Every section that is written has a record, which is found where the section stands. -/
theorem row_of_mapM_encode {words : List (List UInt8)}
    (hcode : ∀ part ∈ sections, part.CodeFits) (h : sections.mapM Section.encode = .ok words) :
    ∃ records, sections.mapM Section.record = .ok records ∧
      Row readRecord.Finds records words.flatten ∧ records.length = sections.length ∧
      records.mapM Record.section? = some sections := by
  induction sections generalizing words with
  | nil =>
    cases h
    exact ⟨[], rfl, .nil, rfl, rfl⟩
  | cons part sections ih =>
    obtain ⟨hpart, hcode⟩ := List.forall_mem_cons.1 hcode
    rw [List.mapM_cons] at h
    obtain ⟨word, hword, h⟩ := Wire.exists_of_bind_eq_ok h
    obtain ⟨words, hwords, ⟨⟩⟩ := Wire.exists_of_bind_eq_ok h
    obtain ⟨body, hbody, ⟨⟩⟩ := Wire.exists_of_bind_eq_ok hword
    obtain ⟨records, hrecords, hrow, hlength, hsections⟩ := ih hcode hwords
    refine ⟨⟨part.tag, body⟩ :: records, ?_, .cons ?_ hrow, congrArg (· + 1) hlength, ?_⟩
    · rw [List.mapM_cons, Section.record, hbody, hrecords]
      rfl
    · exact finds_readRecord (Section.length_body_lt hpart hbody)
    · rw [List.mapM_cons, section?_record hbody, hsections]
      rfl

/-- Sections that a reader can tell apart: no more of them than can be counted, and no body too
long for its length. -/
structure Fits (sections : List Section) : Prop where
  count : sections.length ≤ 65535
  code : ∀ part ∈ sections, part.CodeFits

/-- The bytes of a template are read as its sections, up to the end. -/
theorem records_of_encode (hfits : Fits sections) (h : Template.encode sections = .ok bytes) :
    ∃ records, sections.mapM Section.record = .ok records ∧ readRecords.all bytes = .ok records ∧
      records.mapM Record.section? = some sections := by
  obtain ⟨words, hwords, ⟨⟩⟩ := Wire.exists_of_bind_eq_ok h
  obtain ⟨records, hrecords, hrow, hlength, hsections⟩ := row_of_mapM_encode hfits.code hwords
  have hcount : (UInt16.ofNat sections.length).toNat = sections.length :=
    UInt16.toNat_ofNat_of_lt' (Nat.lt_succ_of_le hfits.count)
  have hu16 : Read.u16.Finds (UInt16.ofNat sections.length)
      (BigEndian.toBytes 2 sections.length) := Read.obeys_u16.finds (by rw [hcount])
  have hread := Read.Finds.replicate hrow
  rw [hlength, ← hcount] at hread
  exact ⟨records, hrecords, (hu16.bind hread).all, hsections⟩

/-- The bytes of a template determine its sections. -/
theorem eq_of_encode_eq {others : List Section} (hfits : Fits sections) (hfits' : Fits others)
    (h : Template.encode sections = .ok bytes) (h' : Template.encode others = .ok bytes) :
    sections = others := by
  obtain ⟨records, -, hread, hsections⟩ := records_of_encode hfits h
  obtain ⟨records', -, hread', hothers⟩ := records_of_encode hfits' h'
  obtain rfl : records = records' := Except.ok.inj (hread.symm.trans hread')
  exact Option.some.inj (hsections.symm.trans hothers)

/-- **A template is its sections.** Sections that fit are read back from their template to its last
byte, in their order and each with what it holds, and no others that fit have the same template.
Where a section has no body, the template is refused for the first such section. -/
theorem sections_determined :
    (∀ sections bytes, Fits sections → Template.encode sections = .ok bytes → ∃ records,
      sections.mapM Section.record = .ok records ∧ readRecords.all bytes = .ok records ∧
        records.mapM Record.section? = some sections) ∧
    (∀ sections others bytes, Fits sections → Fits others →
      Template.encode sections = .ok bytes → Template.encode others = .ok bytes →
      sections = others) ∧
    ∀ sections error, Template.encode sections = .error error ↔ ∃ front part back,
      sections = front ++ part :: back ∧ (∀ other ∈ front, ∃ body, other.body = .ok body) ∧
        part.body = .error error := by
  refine ⟨fun _ _ => records_of_encode, fun _ _ _ => eq_of_encode_eq, fun _ error => ?_⟩
  simp only [encode_eq_error_iff, Section.body_eq_error_iff]

/-- Code, a constructor and a layout, read back. -/
theorem sections_of_three :
    Fits [.code [0xC0, 0xDE], .constructors ["init"], .layout [4, 8]] ∧
    ∃ bytes records,
      Template.encode [.code [0xC0, 0xDE], .constructors ["init"], .layout [4, 8]] = .ok bytes ∧
      readRecords.all bytes = .ok records ∧
      records.mapM Record.section? =
        some [.code [0xC0, 0xDE], .constructors ["init"], .layout [4, 8]] := by
  have hcode : 2 + 26 < UInt32.size := by decide
  have hfits : Fits [.code [0xC0, 0xDE], .constructors ["init"], .layout [4, 8]] :=
    ⟨by decide, List.forall_mem_cons.2 ⟨hcode, List.forall_mem_cons.2 ⟨trivial,
      List.forall_mem_singleton.2 trivial⟩⟩⟩
  obtain ⟨records, -, hread, hsections⟩ := sections_determined.1 _ _ hfits rfl
  exact ⟨hfits, _, records, rfl, hread, hsections⟩

end HostBridge.Template
