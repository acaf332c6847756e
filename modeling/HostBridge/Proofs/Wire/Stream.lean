import HostBridge.Proofs.Wire.Reading

/-!
# What more bytes would change

A read that looks at each byte once says of bytes with more behind them what it said without. If it
took a word, it takes that word; if there was a flaw in the bytes, there still is. Only where bytes
were missing more of them help, and there are some with which it succeeds. `Read.Streams` is this
property, with the bytes that are refused told as `Read.Obeys` tells those that are taken. For bytes
that are read to their end it means that no word is the beginning of another one (`PrefixFree`).
-/

namespace HostBridge

namespace Read

variable {α β : Type} {read : Read α} {next : α → Read β}
  {grammar grammar' : α → List UInt8 → Prop} {others : α → β → List UInt8 → Prop}
  {refusal : List UInt8 → DecodeError → Prop} {refusals : α → List UInt8 → DecodeError → Prop}
  {flaw : DecodeError → Prop}

/-! ## Refusals -/

/-- The read refuses just these bytes, wherever they stand, and for these reasons. -/
def Refuses (read : Read α) (refusal : List UInt8 → DecodeError → Prop) : Prop :=
  ∀ position bytes error, read ⟨position, bytes⟩ = .error error ↔ refusal bytes error

namespace Refuses

/-- What is refused may be said in other words. -/
theorem mono {refusal' : List UInt8 → DecodeError → Prop} (h : read.Refuses refusal)
    (hiff : ∀ bytes error, refusal bytes error ↔ refusal' bytes error) : read.Refuses refusal' :=
  fun position bytes error => (h position bytes error).trans (hiff bytes error)

/-- A read that only hands back a value refuses nothing. -/
theorem pure (value : α) : (Pure.pure value : Read α).Refuses fun _ _ => False :=
  fun _ _ _ => ⟨nofun, False.elim⟩

/-- What is known without reading is refused whatever comes next. -/
theorem lift (answer : Except DecodeError α) :
    (liftM answer : Read α).Refuses fun _ error => answer = .error error := by
  intro position bytes error
  cases answer with
  | error found =>
    constructor
    · rintro ⟨⟩
      rfl
    · rintro ⟨⟩
      rfl
  | ok value =>
    constructor
    · rintro ⟨⟩
    · rintro ⟨⟩

/-- Too few bytes are refused. -/
theorem bytes (count : Nat) : (Read.bytes count).Refuses fun bytes error =>
    bytes.length < count ∧ error = .unexpectedEof count bytes.length :=
  fun _ _ _ => bytes_eq_error_iff

/-- Bytes are refused by the first read, or by the other behind a word of the first. -/
theorem bind (hread : read.Obeys grammar) (h : read.Refuses refusal)
    (hnext : ∀ value, (next value).Refuses (refusals value)) :
    (read >>= next).Refuses fun bytes error => refusal bytes error ∨
      ∃ value word rest, grammar value word ∧ bytes = word ++ rest ∧ refusals value rest error := by
  intro position bytes error
  rw [bind_eq_error_iff, h position bytes error]
  refine or_congr_right ⟨?_, ?_⟩
  · rintro ⟨value, ⟨between, rest⟩, hfirst, hrefused⟩
    obtain ⟨word, hword, hrest, -⟩ := hread.spelled hfirst
    exact ⟨value, word, rest, hword, hrest, (hnext value between rest error).1 hrefused⟩
  · rintro ⟨value, word, rest, hword, rfl, hrefused⟩
    exact ⟨value, _, hread.finds hword position rest, (hnext value _ rest error).2 hrefused⟩

/-- What is made of a read is refused with it. -/
theorem bind_pure (h : read.Refuses refusal) (f : α → β) :
    (read >>= fun value => Pure.pure (f value)).Refuses refusal :=
  fun position bytes error => bind_pure_eq_error_iff.trans (h position bytes error)

/-- A byte is refused just where none is left. -/
theorem u8 : Read.u8.Refuses fun bytes error => bytes = [] ∧ error = .unexpectedEof 1 0 := by
  refine (((Refuses.bytes 1).bind_pure _).bind_pure _).mono fun bytes error => ?_
  rw [Nat.lt_one_iff, List.length_eq_zero_iff]
  constructor <;> rintro ⟨rfl, rfl⟩ <;> exact ⟨rfl, rfl⟩

end Refuses

/-- Behind fewer than `count` words stands what is refused. -/
def Breaks (grammar : α → List UInt8 → Prop) (refusal : List UInt8 → DecodeError → Prop)
    (count : Nat) (bytes : List UInt8) (error : DecodeError) : Prop :=
  ∃ values word rest, values.length < count ∧ Row grammar values word ∧ bytes = word ++ rest ∧
    refusal rest error

/-- What is refused behind fewer words than are asked for is refused. -/
theorem Refuses.replicate (hread : read.Obeys grammar) (h : read.Refuses refusal) (count : Nat) :
    (Read.replicate count read).Refuses (Breaks grammar refusal count) := by
  induction count with
  | zero =>
    refine (Refuses.pure []).mono fun bytes error => ⟨False.elim, ?_⟩
    rintro ⟨_, _, _, hcount, -⟩
    exact Nat.not_lt_zero _ hcount
  | succ count ih =>
    refine (Refuses.bind hread h fun value => ih.bind_pure (value :: ·)).mono
      fun bytes error => ⟨?_, ?_⟩
    · rintro (hrefused | ⟨value, first, _, hvalue, rfl, values, word, rest, hcount, hrow, rfl,
        hrefused⟩)
      · exact ⟨[], [], bytes, Nat.succ_pos _, .nil, rfl, hrefused⟩
      · exact ⟨value :: values, first ++ word, rest, Nat.succ_lt_succ hcount, .cons hvalue hrow,
          (List.append_assoc ..).symm, hrefused⟩
    · rintro ⟨_, _, rest, hcount, _ | ⟨hvalue, hrow⟩, rfl, hrefused⟩
      · exact .inl hrefused
      · exact .inr ⟨_, _, _, hvalue, List.append_assoc .., _, _, rest, Nat.lt_of_succ_lt_succ hcount,
          hrow, rfl, hrefused⟩

/-! ## Reasons -/

/-- Why bytes are refused. There is a flaw in them, and then no more bytes mend it, or they end too
soon, and then there are some that complete them. -/
inductive Reason (grammar : α → List UInt8 → Prop) (flaw : DecodeError → Prop)
    (refusal : List UInt8 → DecodeError → Prop) (bytes : List UInt8) : DecodeError → Prop where
  | flaw {error : DecodeError} : flaw error → (∀ more, refusal (bytes ++ more) error) →
    Reason grammar flaw refusal bytes error
  | cut {expected given : Nat} (value : α) (more : List UInt8) : given < expected →
    grammar value (bytes ++ more) → Reason grammar flaw refusal bytes (.unexpectedEof expected given)

/-- The read takes the words of the grammar, refuses all other bytes, and has a reason for it. -/
structure Streams (read : Read α) (grammar : α → List UInt8 → Prop)
    (refusal : List UInt8 → DecodeError → Prop) (flaw : DecodeError → Prop) : Prop where
  obeys : read.Obeys grammar
  refuses : read.Refuses refusal
  reason : ∀ {bytes error}, refusal bytes error → Reason grammar flaw refusal bytes error

namespace Streams

/-- What a read takes and what it refuses may be told in other ways. -/
theorem congr {refusal' : List UInt8 → DecodeError → Prop} (h : read.Streams grammar refusal flaw)
    (hread : read.Obeys grammar')
    (hiff : ∀ bytes error, refusal bytes error ↔ refusal' bytes error) :
    read.Streams grammar' refusal' flaw where
  obeys := hread
  refuses := h.refuses.mono hiff
  reason hrefused := by
    cases h.reason ((hiff _ _).2 hrefused) with
    | flaw hflaw hmore => exact .flaw hflaw fun more => (hiff _ _).1 (hmore more)
    | cut value more hlt hword =>
      exact .cut value more hlt (hread.all_eq_ok_iff.1 (h.obeys.all_eq_ok_iff.2 hword))

/-- A byte has no flaw, it can only be missing. -/
theorem u8 : Read.u8.Streams (fun value word => word = [value])
    (fun bytes error => bytes = [] ∧ error = .unexpectedEof 1 0) flaw where
  obeys := obeys_u8
  refuses := .u8
  reason := by
    rintro _ _ ⟨rfl, rfl⟩
    exact .cut 0 [0] Nat.one_pos rfl

/-- Where the first word is cut, some word of the other read completes it. -/
theorem bind (h : read.Streams grammar refusal flaw)
    (hnext : ∀ value, (next value).Streams (others value) (refusals value) flaw)
    (hword : ∀ value, ∃ result word, others value result word) :
    (read >>= next).Streams
      (fun result word => ∃ value first last,
        grammar value first ∧ others value result last ∧ word = first ++ last)
      (fun bytes error => refusal bytes error ∨
        ∃ value word rest, grammar value word ∧ bytes = word ++ rest ∧ refusals value rest error)
      flaw where
  obeys := h.obeys.bind fun value => (hnext value).obeys
  refuses := .bind h.obeys h.refuses fun value => (hnext value).refuses
  reason := by
    rintro bytes error (hrefused | ⟨value, first, rest, hfirst, rfl, hrefused⟩)
    · cases h.reason hrefused with
      | flaw hflaw hmore => exact .flaw hflaw fun more => .inl (hmore more)
      | cut value more hlt hfirst =>
        obtain ⟨result, last, hlast⟩ := hword value
        refine .cut result (more ++ last) hlt ⟨value, bytes ++ more, last, hfirst, hlast, ?_⟩
        exact (List.append_assoc ..).symm
    · cases (hnext value).reason hrefused with
      | flaw hflaw hmore =>
        refine .flaw hflaw fun more => .inr ⟨value, first, rest ++ more, hfirst, ?_, hmore more⟩
        exact List.append_assoc ..
      | cut result more hlt hlast =>
        refine .cut result more hlt ⟨value, first, rest ++ more, hfirst, hlast, ?_⟩
        exact List.append_assoc ..

/-- Where a word is cut, it is completed, and so is the row. -/
theorem replicate (h : read.Streams grammar refusal flaw) {value : α} {word : List UInt8}
    (hword : grammar value word) (count : Nat) :
    (Read.replicate count read).Streams
      (fun values bytes => values.length = count ∧ Row grammar values bytes)
      (Breaks grammar refusal count) flaw where
  obeys := h.obeys.replicate count
  refuses := .replicate h.obeys h.refuses count
  reason := by
    rintro _ error ⟨front, frontWord, rest, hcount, hfront, rfl, hrefused⟩
    cases h.reason hrefused with
    | flaw hflaw hmore =>
      refine .flaw hflaw fun more => ⟨front, frontWord, rest ++ more, hcount, hfront, ?_, hmore more⟩
      exact List.append_assoc ..
    | cut broken more hlt hbroken =>
      obtain ⟨missing, rfl⟩ := Nat.exists_eq_add_of_lt hcount
      have hrow := hfront.append (.cons hbroken (.replicate hword missing))
      refine .cut (front ++ broken :: List.replicate missing value)
        (more ++ (List.replicate missing word).flatten) hlt ⟨?_, ?_⟩
      · rw [List.length_append, List.length_cons, List.length_replicate, Nat.add_assoc]
      · rwa [List.append_assoc, ← List.append_assoc rest]

end Streams

/-! ## Bytes that are read to their end -/

section all

variable {value : α} {word bytes rest : List UInt8} {error : DecodeError}

/-- Bytes that are refused at the start are refused as a whole. -/
theorem Refuses.all (h : read.Refuses refusal) (hrefused : refusal bytes error) :
    read.all bytes = .error error :=
  all_of_error ((h 0 bytes error).2 hrefused)

/-- Bytes behind a word are left over. -/
theorem Finds.all_of_rest (h : read.Finds value word) (hrest : rest ≠ []) :
    read.all (word ++ rest) =
      .error (.trailingBytes word.length (word.length + rest.length)) := by
  have hread : read (Reader.ofBytes (word ++ rest)) = .ok (value, ⟨word.length, rest⟩) := by
    rw [Reader.ofBytes, h 0 rest, Nat.zero_add]
  rw [all_of_ok hread, finish_of_ne_nil hrest]
  rfl

/-- Bytes are a word, or more than a word, or they are refused. -/
theorem Streams.all_cases (h : read.Streams grammar refusal flaw) (bytes : List UInt8) :
    (∃ value, grammar value bytes) ∨
      (∃ value word rest, grammar value word ∧ rest ≠ [] ∧ bytes = word ++ rest) ∨
      ∃ error, refusal bytes error := by
  cases hread : read ⟨0, bytes⟩ with
  | error error => exact .inr (.inr ⟨error, (h.refuses 0 bytes error).1 hread⟩)
  | ok found =>
    obtain ⟨value, position, rest⟩ := found
    obtain ⟨word, hword, hbytes, -⟩ := h.obeys.spelled hread
    have hbytes : bytes = word ++ rest := hbytes
    cases rest with
    | nil =>
      rw [List.append_nil] at hbytes
      exact .inl ⟨value, hbytes ▸ hword⟩
    | cons byte rest => exact .inr (.inl ⟨value, word, byte :: rest, hword, List.cons_ne_nil _ _, hbytes⟩)

/-- As a whole, bytes are refused for their own reasons, or for what is left over behind a word. -/
theorem Streams.all_eq_error_iff (h : read.Streams grammar refusal flaw) :
    read.all bytes = .error error ↔ refusal bytes error ∨
      ∃ value word rest, grammar value word ∧ rest ≠ [] ∧ bytes = word ++ rest ∧
        error = .trailingBytes word.length (word.length + rest.length) := by
  constructor
  · intro hall
    obtain ⟨value, hword⟩ | ⟨value, word, rest, hword, hrest, rfl⟩ | ⟨found, hrefused⟩ :=
      h.all_cases bytes
    · rw [(h.obeys.finds hword).all] at hall
      cases hall
    · rw [(h.obeys.finds hword).all_of_rest hrest] at hall
      exact .inr ⟨value, word, rest, hword, hrest, rfl, (Except.error.inj hall).symm⟩
    · rw [h.refuses.all hrefused] at hall
      exact .inl (Except.error.inj hall ▸ hrefused)
  · rintro (hrefused | ⟨value, word, rest, hword, hrest, rfl, rfl⟩)
    · exact h.refuses.all hrefused
    · exact (h.obeys.finds hword).all_of_rest hrest

end all

end Read

/-! ## Words that begin no other word -/

/-- What is said of bytes, and of the same bytes with more behind them. Behind a whole word the
others are left over, and a flaw or a word in front of bytes that are left over stays what it is.
Where bytes were missing, anything may become of them. -/
inductive Prolonged {α : Type} (flaw : DecodeError → Prop) (bytes more : List UInt8) :
    Except DecodeError α → Except DecodeError α → Prop where
  | found {value : α} : Prolonged flaw bytes more (.ok value)
    (.error (.trailingBytes bytes.length (bytes.length + more.length)))
  | flaw {error : DecodeError} : flaw error →
    Prolonged flaw bytes more (.error error) (.error error)
  | trailing {consumed : Nat} : consumed < bytes.length →
    Prolonged flaw bytes more (.error (.trailingBytes consumed bytes.length))
      (.error (.trailingBytes consumed (bytes.length + more.length)))
  | cut {expected given : Nat} {longer : Except DecodeError α} : given < expected →
    Prolonged flaw bytes more (.error (.unexpectedEof expected given)) longer

/-- No other word begins with these bytes if they are a word, and what is wrong with them is told by
as many of them as it takes. Bytes are missing just where more of them would make a word. -/
structure PrefixFree {α : Type} (decode : List UInt8 → Except DecodeError α)
    (flaw : DecodeError → Prop) (bytes : List UInt8) : Prop where
  prolonged : ∀ more, more ≠ [] → Prolonged flaw bytes more (decode bytes) (decode (bytes ++ more))
  cut_iff : (∃ expected given, decode bytes = .error (.unexpectedEof expected given)) ↔
    ∃ more value, more ≠ [] ∧ decode (bytes ++ more) = .ok value

namespace Read.Streams

variable {α : Type} {read : Read α} {grammar : α → List UInt8 → Prop}
  {refusal : List UInt8 → DecodeError → Prop} {flaw : DecodeError → Prop}

/-- What is said of the bytes agrees with what is said of them and more. -/
theorem prolonged (h : read.Streams grammar refusal flaw) (bytes : List UInt8) {more : List UInt8}
    (hmore : more ≠ []) : Prolonged flaw bytes more (read.all bytes) (read.all (bytes ++ more)) := by
  obtain ⟨value, hword⟩ | ⟨value, word, rest, hword, hrest, rfl⟩ | ⟨error, hrefused⟩ :=
    h.all_cases bytes
  · have hfinds := h.obeys.finds hword
    rw [hfinds.all, hfinds.all_of_rest hmore]
    exact .found
  · have hfinds := h.obeys.finds hword
    have hrest' : rest ++ more ≠ [] := List.append_ne_nil_of_left_ne_nil hrest more
    rw [hfinds.all_of_rest hrest, List.append_assoc, hfinds.all_of_rest hrest',
      List.length_append, ← Nat.add_assoc, ← List.length_append]
    refine .trailing ?_
    rw [List.length_append]
    exact Nat.lt_add_of_pos_right (List.length_pos_iff.2 hrest)
  · rw [h.refuses.all hrefused]
    cases h.reason hrefused with
    | flaw hflaw hlonger =>
      rw [h.refuses.all (hlonger more)]
      exact .flaw hflaw
    | cut _ _ hlt _ => exact .cut hlt

/-- Of bytes that are read to their end, no word is the beginning of another. -/
theorem prefixFree (h : read.Streams grammar refusal flaw)
    (hflaw : ∀ expected given, ¬ flaw (.unexpectedEof expected given)) (bytes : List UInt8) :
    PrefixFree read.all flaw bytes where
  prolonged _ hmore := h.prolonged bytes hmore
  cut_iff := by
    constructor
    · rintro ⟨expected, given, hcut⟩
      obtain hrefused | ⟨_, _, _, -, -, -, ⟨⟩⟩ := h.all_eq_error_iff.1 hcut
      cases h.reason hrefused with
      | flaw hflawed _ => exact absurd hflawed (hflaw expected given)
      | cut value more _ hword =>
        refine ⟨more, value, ?_, (h.obeys.finds hword).all⟩
        rintro rfl
        rw [List.append_nil] at hword
        rw [(h.obeys.finds hword).all] at hcut
        cases hcut
    · rintro ⟨more, value, hmore, hlonger⟩
      have hprolonged := h.prolonged bytes hmore
      rw [hlonger] at hprolonged
      generalize hshort : read.all bytes = short at hprolonged
      cases hprolonged with
      | cut _ => exact ⟨_, _, rfl⟩

end Read.Streams

end HostBridge
