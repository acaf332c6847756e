import HostBridge.Proofs.Text.Strict
import HostBridge.Wire.Field
import HostBridge.Wire.Reader

/-!
# What reads accept

Two ways to describe a read, both independent of where the reader stands. `Read.Finds` says that a
read takes just these bytes and what it makes of them; `Read.Obeys` says that it succeeds exactly on
the words of a grammar. Both are built up the way reads are put together, and `Obeys.all_eq_ok_iff`
turns a grammar into the meaning of a whole byte string.
-/

namespace HostBridge

/-- One word of a grammar behind the other. -/
inductive Row {α : Type} (grammar : α → List UInt8 → Prop) : List α → List UInt8 → Prop where
  | nil : Row grammar [] []
  | cons {value : α} {values : List α} {word bytes : List UInt8} :
    grammar value word → Row grammar values bytes →
    Row grammar (value :: values) (word ++ bytes)

namespace Row

variable {α : Type} {grammar grammar' : α → List UInt8 → Prop} {values : List α}
  {bytes : List UInt8}

/-- A row of words is a row of all that the words are. -/
theorem mono (h : Row grammar values bytes)
    (himp : ∀ value word, grammar value word → grammar' value word) :
    Row grammar' values bytes := by
  induction h with
  | nil => exact .nil
  | cons hword _ ih => exact .cons (himp _ _ hword) ih

/-- One row behind another is a row. -/
theorem append {others : List α} {rest : List UInt8} (h : Row grammar values bytes)
    (hrest : Row grammar others rest) : Row grammar (values ++ others) (bytes ++ rest) := by
  induction h with
  | nil => exact hrest
  | cons hword _ ih =>
    rw [List.append_assoc]
    exact .cons hword ih

/-- The same word over and over is a row. -/
theorem replicate {value : α} {word : List UInt8} (h : grammar value word) (count : Nat) :
    Row grammar (List.replicate count value) (List.replicate count word).flatten := by
  induction count with
  | zero => exact .nil
  | succ count ih => exact .cons h ih

/-- A row of words of bounded length. -/
theorem length_le {bound : Nat} (h : Row grammar values bytes)
    (hbound : ∀ value word, grammar value word → word.length ≤ bound) :
    bytes.length ≤ values.length * bound := by
  induction h with
  | nil => exact Nat.zero_le _
  | cons hword _ ih =>
    have hfirst := hbound _ _ hword
    rw [List.length_append, List.length_cons, Nat.succ_mul, Nat.add_comm]
    exact Nat.add_le_add ih hfirst

end Row

/-- Where every value has one word, a row is the words behind one another. -/
theorem row_eq_iff {α : Type} {encode : α → List UInt8} {values : List α} {bytes : List UInt8} :
    Row (fun value word => word = encode value) values bytes ↔ bytes = values.flatMap encode := by
  constructor
  · intro h
    induction h with
    | nil => rfl
    | cons hword _ ih => rw [hword, ih, List.flatMap_cons]
  · rintro rfl
    induction values with
    | nil => exact .nil
    | cons value values ih => exact .cons rfl ih

namespace Wire

/-! ## Pieces behind their length -/

section guards

variable {α : Type} {fits : Prop} [Decidable fits] {written : Except EncodeError α}
  {refusal error : EncodeError}

/-- What is written only where it fits has been written only there. -/
theorem ite_eq_ok_iff {result : α} :
    (if fits then written else .error refusal) = .ok result ↔ fits ∧ written = .ok result := by
  split
  · next h => exact (and_iff_right h).symm
  · next h => exact iff_of_false nofun fun hfits => h hfits.1

/-- What does not fit is refused before it is written. -/
theorem ite_eq_error_iff : (if fits then written else .error refusal) = .error error ↔
    fits ∧ written = .error error ∨ ¬ fits ∧ error = refusal := by
  split
  · next h =>
    exact ⟨fun heq => .inl ⟨h, heq⟩, fun hor => hor.elim And.right fun hnot => absurd h hnot.1⟩
  · next h =>
    constructor
    · rintro ⟨⟩
      exact .inr ⟨h, rfl⟩
    · rintro (⟨hfits, -⟩ | ⟨-, rfl⟩)
      · exact absurd hfits h
      · rfl

end guards

variable {bytes word : List UInt8} {text : String} {width : Nat} {error : EncodeError}

/-- Bytes whose length fits into two bytes are written behind it. -/
theorem bytes16_eq_ok_iff :
    bytes16 bytes = .ok word ↔ bytes.length ≤ 65535 ∧ word = prefixed 2 bytes := by
  rw [bytes16, ite_eq_ok_iff, Except.ok.injEq, eq_comm]

/-- All others are refused, with their length and the limit. -/
theorem bytes16_eq_error_iff : bytes16 bytes = .error error ↔
    65535 < bytes.length ∧ error = .bytesTooLong bytes.length 65535 := by
  rw [bytes16, ite_eq_error_iff, Nat.not_le]
  simp only [reduceCtorEq, and_false, false_or]

/-- A text can be written behind its length if the length fits. -/
theorem string_eq_ok_iff_lt : string width text = .ok word ↔
    (Utf8.encode text).length < BigEndian.capacity width ∧
      word = prefixed width (Utf8.encode text) := by
  rw [string, ite_eq_ok_iff, Except.ok.injEq, eq_comm]

/-- A text is refused just if its length does not fit in front of it. -/
theorem string_eq_error_iff : string width text = .error error ↔
    BigEndian.capacity width ≤ (Utf8.encode text).length ∧
      error = .stringTooLong (Utf8.encode text).length := by
  rw [string, ite_eq_error_iff, Nat.not_lt]
  simp only [reduceCtorEq, and_false, false_or]

/-- Two bytes of length count that many bytes at most. -/
theorem string_eq_ok_iff : string 2 text = .ok word ↔
    (Utf8.encode text).length ≤ 65535 ∧ word = prefixed 2 (Utf8.encode text) :=
  string_eq_ok_iff_lt.trans (and_congr_left' Nat.lt_succ_iff)

/-- A text that is too long for a length in two bytes is refused, with its length. -/
theorem string_of_lt (h : 65535 < (Utf8.encode text).length) :
    string 2 text = .error (.stringTooLong (Utf8.encode text).length) :=
  string_eq_error_iff.2 ⟨h, rfl⟩

/-! ## Steps that may fail -/

/-- Where two steps succeed, the first of them did, and the second one with its value. -/
theorem exists_of_bind_eq_ok {α β : Type} {first : Except EncodeError α}
    {next : α → Except EncodeError β} {result : β} (h : (first >>= next) = .ok result) :
    ∃ value, first = .ok value ∧ next value = .ok result := by
  cases first with
  | error error => cases h
  | ok value => exact ⟨value, rfl, h⟩

/-- Of two steps, the first that fails says why. -/
theorem bind_eq_error_iff {α β : Type} {first : Except EncodeError α}
    {next : α → Except EncodeError β} {error : EncodeError} :
    (first >>= next) = .error error ↔
      first = .error error ∨ ∃ value, first = .ok value ∧ next value = .error error := by
  cases first with
  | error found =>
    constructor
    · rintro ⟨⟩
      exact .inl rfl
    · rintro (⟨⟨⟩⟩ | ⟨_, ⟨⟩, -⟩)
      rfl
  | ok value =>
    constructor
    · exact fun h => .inr ⟨value, rfl, h⟩
    · rintro (⟨⟨⟩⟩ | ⟨_, ⟨⟩, h⟩)
      exact h

/-- What is made of a result fails only with it. -/
theorem bind_pure_eq_error_iff {α β : Type} {first : Except EncodeError α} {f : α → β}
    {error : EncodeError} :
    (first >>= fun value => pure (f value)) = .error error ↔ first = .error error := by
  rw [bind_eq_error_iff]
  constructor
  · rintro (h | ⟨_, -, ⟨⟩⟩)
    exact h
  · exact .inl

/-- A list is refused for its first element, or for the others behind one that passes. -/
theorem mapM_cons_eq_error_iff {α β : Type} {f : α → Except EncodeError β} {first : α}
    {values : List α} {error : EncodeError} : (first :: values).mapM f = .error error ↔
      f first = .error error ∨ ∃ word, f first = .ok word ∧ values.mapM f = .error error := by
  rw [List.mapM_cons, bind_eq_error_iff]
  simp only [bind_pure_eq_error_iff]

/-- Of several values that are written one after the other, the first that cannot be says why. -/
theorem mapM_eq_error_iff {α β : Type} {f : α → Except EncodeError β} {values : List α}
    {error : EncodeError} : values.mapM f = .error error ↔ ∃ front value back,
      values = front ++ value :: back ∧ (∀ other ∈ front, ∃ word, f other = .ok word) ∧
        f value = .error error := by
  induction values with
  | nil =>
    constructor
    · rintro ⟨⟩
    · rintro ⟨front, value, back, hnil, -⟩
      exact absurd hnil.symm
        (List.append_ne_nil_of_right_ne_nil front (List.cons_ne_nil value back))
  | cons first values ih =>
    rw [mapM_cons_eq_error_iff, ih]
    constructor
    · rintro (hfirst | ⟨word, hfirst, front, value, back, rfl, hfront, hvalue⟩)
      · exact ⟨[], first, values, rfl, (fun _ hmem => nomatch hmem), hfirst⟩
      · exact ⟨first :: front, value, back, rfl, List.forall_mem_cons.2 ⟨⟨word, hfirst⟩, hfront⟩,
          hvalue⟩
    · rintro ⟨front, value, back, hvalues, hfront, hvalue⟩
      cases front with
      | nil =>
        obtain ⟨rfl, rfl⟩ := List.cons.inj hvalues
        exact .inl hvalue
      | cons other front =>
        obtain ⟨rfl, rfl⟩ := List.cons.inj hvalues
        obtain ⟨⟨word, hfirst⟩, hfront⟩ := List.forall_mem_cons.1 hfront
        exact .inr ⟨word, hfirst, front, value, back, rfl, hfront, hvalue⟩

/-- Of several texts, the first that is too long for its length is refused. -/
theorem mapM_string_eq_error_iff {texts : List String} :
    texts.mapM (string width) = .error error ↔ ∃ text,
      texts.find? (fun text => BigEndian.capacity width ≤ (Utf8.encode text).length) = some text ∧
        error = .stringTooLong (Utf8.encode text).length := by
  have hfits : ∀ text, (∃ word, string width text = .ok word) ↔
      ¬ BigEndian.capacity width ≤ (Utf8.encode text).length := by
    simp [string_eq_ok_iff_lt]
  rw [mapM_eq_error_iff]
  simp only [List.find?_eq_some_iff_append, string_eq_error_iff, hfits, decide_eq_true_eq,
    Bool.not_eq_eq_eq_not, Bool.not_true, decide_eq_false_iff_not]
  constructor
  · rintro ⟨front, text, back, htexts, hfront, hlong, rfl⟩
    exact ⟨text, ⟨hlong, front, back, htexts, hfront⟩, rfl⟩
  · rintro ⟨text, ⟨hlong, front, back, htexts, hfront⟩, rfl⟩
    exact ⟨front, text, back, htexts, hfront, hlong, rfl⟩

/-- What is written of values one after the other is a row of their words. -/
theorem row_of_mapM_eq_ok {α : Type} {f : α → Except EncodeError (List UInt8)} {values : List α}
    {words : List (List UInt8)} (h : values.mapM f = .ok words) :
    Row (fun value word => f value = .ok word) values words.flatten := by
  induction values generalizing words with
  | nil =>
    cases h
    exact .nil
  | cons value values ih =>
    rw [List.mapM_cons] at h
    obtain ⟨word, hvalue, h⟩ := exists_of_bind_eq_ok h
    obtain ⟨words, hvalues, ⟨⟩⟩ := exists_of_bind_eq_ok h
    exact .cons hvalue (ih hvalues)

/-- A row of what is written of each value is written one value after the other. -/
theorem exists_mapM_of_row {α : Type} {f : α → Except EncodeError (List UInt8)} {values : List α}
    {bytes : List UInt8} (h : Row (fun value word => f value = .ok word) values bytes) :
    ∃ words, values.mapM f = .ok words ∧ words.flatten = bytes := by
  induction h with
  | nil => exact ⟨[], rfl, rfl⟩
  | cons hvalue _ ih =>
    obtain ⟨words, hwords, rfl⟩ := ih
    refine ⟨_ :: words, ?_, rfl⟩
    rw [List.mapM_cons, hvalue, hwords]
    rfl

/-- Values cannot be written one after the other if one of them cannot. -/
theorem exists_mapM_eq_error_iff {α β : Type} {f : α → Except EncodeError β} {values : List α} :
    (∃ error, values.mapM f = .error error) ↔ ∃ value ∈ values, ∃ error, f value = .error error := by
  induction values with
  | nil =>
    refine ⟨fun h => ?_, fun h => ?_⟩
    · obtain ⟨error, hnil⟩ := h
      cases hnil
    · obtain ⟨value, hmem, -⟩ := h
      cases hmem
  | cons first values ih =>
    simp only [List.mem_cons, exists_eq_or_imp, ← ih, mapM_cons_eq_error_iff]
    cases f first with
    | error error => simp
    | ok word => simp

/-- Values can be written one after the other if each of them can. -/
theorem exists_mapM_eq_ok_iff {α β : Type} {f : α → Except EncodeError β} {values : List α} :
    (∃ words, values.mapM f = .ok words) ↔ ∀ value ∈ values, ∃ word, f value = .ok word := by
  have hok : ∀ {γ : Type} {result : Except EncodeError γ},
      (∃ word, result = .ok word) ↔ ¬ ∃ error, result = .error error := by
    intro γ result
    cases result <;> simp
  simp only [hok, exists_mapM_eq_error_iff, not_exists, not_and]

end Wire

namespace Read

variable {α β : Type} {read : Read α} {next : α → Read β} {reader after : Reader}

/-- What is found is handed on. -/
theorem bind_of_ok {value : α} (h : read reader = .ok (value, after)) :
    (read >>= next) reader = next value after := by
  change (read reader >>= fun found => next found.1 found.2) = _
  rw [h]
  rfl

/-- A read that fails ends everything. -/
theorem bind_of_error {error : DecodeError} (h : read reader = .error error) :
    (read >>= next) reader = .error error := by
  change (read reader >>= fun found => next found.1 found.2) = _
  rw [h]
  rfl

/-- Where two reads succeed one after the other, either does. -/
theorem exists_of_bind_eq_ok {result : β} (h : (read >>= next) reader = .ok (result, after)) :
    ∃ value between, read reader = .ok (value, between) ∧
      next value between = .ok (result, after) := by
  cases hread : read reader with
  | error error =>
    rw [bind_of_error hread] at h
    cases h
  | ok found =>
    obtain ⟨value, between⟩ := found
    rw [bind_of_ok hread] at h
    exact ⟨value, between, rfl, h⟩

/-- Of two reads one after the other, the first that fails says why. -/
theorem bind_eq_error_iff {error : DecodeError} : (read >>= next) reader = .error error ↔
    read reader = .error error ∨
      ∃ value between, read reader = .ok (value, between) ∧ next value between = .error error := by
  cases hread : read reader with
  | error found =>
    rw [bind_of_error hread, Except.error.injEq, Except.error.injEq]
    constructor
    · exact .inl
    · rintro (h | ⟨_, _, ⟨⟩, -⟩)
      exact h
  | ok found =>
    obtain ⟨value, between⟩ := found
    rw [bind_of_ok hread]
    constructor
    · exact fun h => .inr ⟨value, between, rfl, h⟩
    · rintro (⟨⟨⟩⟩ | ⟨_, _, ⟨⟩, h⟩)
      exact h

/-- What is made of a read fails only with it. -/
theorem bind_pure_eq_error_iff {f : α → β} {error : DecodeError} :
    (read >>= fun value => pure (f value)) reader = .error error ↔ read reader = .error error := by
  rw [bind_eq_error_iff]
  constructor
  · rintro (h | ⟨_, _, -, ⟨⟩⟩)
    exact h
  · exact .inl

/-- Bytes are missing where fewer are left than are asked for. -/
theorem bytes_eq_error_iff {count : Nat} {error : DecodeError} :
    bytes count reader = .error error ↔
      reader.remaining < count ∧ error = .unexpectedEof count reader.remaining := by
  unfold bytes Reader.remaining
  by_cases hcount : count ≤ reader.rest.length
  · have htake : (reader.rest.take count).length = count := List.length_take_of_le hcount
    rw [if_pos htake]
    constructor
    · rintro ⟨⟩
    · rintro ⟨hlt, -⟩
      exact absurd hcount (Nat.not_le.2 hlt)
  · have htake : (reader.rest.take count).length ≠ count :=
      fun htake => hcount (htake ▸ List.length_take_le' ..)
    rw [if_neg htake, Except.error.injEq, eq_comm, and_iff_right (Nat.lt_of_not_le hcount)]

/-- Nothing that is left over is nothing to complain about. -/
theorem finish_of_nil (h : reader.rest = []) : finish reader = .ok ((), reader) := by
  simp [finish, Reader.hasMore, h]

/-- What is left at the end is too much. -/
theorem finish_of_ne_nil (h : reader.rest ≠ []) : finish reader =
    .error (.trailingBytes reader.position (reader.position + reader.remaining)) := by
  simp [finish, Reader.hasMore, h]

/-- Bytes that are read to their end are read from their front. -/
theorem all_of_ok {value : α} {bytes : List UInt8}
    (h : read (Reader.ofBytes bytes) = .ok (value, after)) :
    read.all bytes = (finish after).map fun _ => value := by
  have hall : read.all bytes = ((read >>= fun found => finish >>= fun _ => pure found)
      (Reader.ofBytes bytes)).map Prod.fst := rfl
  rw [hall, bind_of_ok h]
  cases hfinish : finish after with
  | error error =>
    rw [bind_of_error hfinish]
    rfl
  | ok found =>
    rw [bind_of_ok hfinish]
    rfl

/-- Bytes that are refused at the start are refused as a whole. -/
theorem all_of_error {error : DecodeError} {bytes : List UInt8}
    (h : read (Reader.ofBytes bytes) = .error error) : read.all bytes = .error error := by
  have hall : read.all bytes = ((read >>= fun found => finish >>= fun _ => pure found)
      (Reader.ofBytes bytes)).map Prod.fst := rfl
  rw [hall, bind_of_error h]
  rfl

/-- Bytes are read to their end if nothing is left of them. -/
theorem all_eq_ok_iff {value : α} {bytes : List UInt8} :
    read.all bytes = .ok value ↔
      ∃ after, read (Reader.ofBytes bytes) = .ok (value, after) ∧ after.rest = [] := by
  constructor
  · intro hall
    cases hread : read (Reader.ofBytes bytes) with
    | error error =>
      rw [all_of_error hread] at hall
      cases hall
    | ok found =>
      obtain ⟨found, after⟩ := found
      rw [all_of_ok hread] at hall
      by_cases hrest : after.rest = []
      · rw [finish_of_nil hrest] at hall
        cases hall
        exact ⟨after, rfl, hrest⟩
      · rw [finish_of_ne_nil hrest] at hall
        cases hall
  · rintro ⟨after, hread, hrest⟩
    rw [all_of_ok hread, finish_of_nil hrest]
    rfl

/-! ## Reads that find what stands there -/

/-- Wherever `bytes` come next, the read takes just them, and this is what it makes of them. -/
def Finds (read : Read α) (value : α) (bytes : List UInt8) : Prop :=
  ∀ position rest, read ⟨position, bytes ++ rest⟩ = .ok (value, ⟨position + bytes.length, rest⟩)

namespace Finds

variable {value : α} {result : β} {word behind : List UInt8}

/-- A value that is handed back is found in no bytes. -/
theorem pure (value : α) : (Pure.pure value : Read α).Finds value [] := fun _ _ => rfl

/-- What one read finds stands in front of what the next one finds. -/
theorem bind (h : read.Finds value word) (hnext : (next value).Finds result behind) :
    (read >>= next).Finds result (word ++ behind) := by
  intro position rest
  have hword := h position (behind ++ rest)
  rw [List.append_assoc, bind_of_ok hword, hnext, List.length_append, Nat.add_assoc]

/-- What is made of a read takes the same bytes. -/
theorem bind_pure (h : read.Finds value word) (f : α → β) :
    (read >>= fun value => Pure.pure (f value)).Finds (f value) word := by
  have hpure : (read >>= fun value => Pure.pure (f value)).Finds (f value) (word ++ []) :=
    h.bind (.pure (f value))
  rwa [List.append_nil] at hpure

/-- Bytes are found where they stand. -/
theorem bytes {count : Nat} (h : word.length = count) : (Read.bytes count).Finds word word := by
  subst h
  intro position rest
  simp [Read.bytes]

/-- Words in a row are found one by one. -/
theorem replicate {values : List α} (h : Row read.Finds values word) :
    (Read.replicate values.length read).Finds values word := by
  induction h with
  | nil => exact .pure []
  | cons hvalue _ ih => exact hvalue.bind (ih.bind_pure _)

/-- Bytes that are all one word are read as it. -/
theorem all (h : read.Finds value word) : read.all word = .ok value := by
  have hword := h 0 []
  rw [List.append_nil] at hword
  exact all_eq_ok_iff.2 ⟨_, hword, rfl⟩

end Finds

/-- Naming the field in which the bytes end changes nothing where they do not. -/
theorem Finds.within {value : α} {word : List UInt8} (h : read.Finds value word)
    (field : Receipt.Field) : (read.within field).Finds value word := by
  intro position rest
  rw [Read.within, h]

/-! ## Reads that obey a grammar -/

/-- The read succeeds exactly where a word of the grammar comes next, and takes that word. -/
structure Obeys (read : Read α) (grammar : α → List UInt8 → Prop) : Prop where
  finds : ∀ {value : α} {word : List UInt8}, grammar value word → read.Finds value word
  spelled : ∀ {value : α} {reader after : Reader}, read reader = .ok (value, after) →
    ∃ word, grammar value word ∧ reader.rest = word ++ after.rest ∧
      after.position = reader.position + word.length

namespace Obeys

variable {grammar : α → List UInt8 → Prop} {others : α → β → List UInt8 → Prop}

/-- A read that only hands back a value takes no bytes. -/
theorem pure (value : α) :
    (Pure.pure value : Read α).Obeys fun found word => found = value ∧ word = [] where
  finds := by
    rintro _ _ ⟨rfl, rfl⟩
    exact .pure _
  spelled := by
    intro found reader after h
    cases h
    exact ⟨[], ⟨rfl, rfl⟩, rfl, rfl⟩

/-- One read behind another takes a word of each, one behind the other. -/
theorem bind (h : read.Obeys grammar) (hnext : ∀ value, (next value).Obeys (others value)) :
    (read >>= next).Obeys fun result word => ∃ value first last,
      grammar value first ∧ others value result last ∧ word = first ++ last where
  finds := by
    rintro result _ ⟨value, first, last, hfirst, hlast, rfl⟩
    exact (h.finds hfirst).bind ((hnext value).finds hlast)
  spelled := by
    intro result reader after hbind
    obtain ⟨value, between, hread, hlast⟩ := exists_of_bind_eq_ok hbind
    obtain ⟨first, hfirst, hrest, hposition⟩ := h.spelled hread
    obtain ⟨last, hword, hrest', hposition'⟩ := (hnext value).spelled hlast
    refine ⟨first ++ last, ⟨value, first, last, hfirst, hword, rfl⟩, ?_, ?_⟩
    · rw [hrest, hrest', List.append_assoc]
    · rw [hposition', hposition, List.length_append, Nat.add_assoc]

/-- The grammar of a read may be said in other words. -/
theorem mono {grammar' : α → List UInt8 → Prop} (h : read.Obeys grammar)
    (hiff : ∀ value word, grammar value word ↔ grammar' value word) : read.Obeys grammar' where
  finds hword := h.finds ((hiff _ _).2 hword)
  spelled hread := by
    obtain ⟨word, hword, hrest⟩ := h.spelled hread
    exact ⟨word, (hiff _ _).1 hword, hrest⟩

/-- What is made of a read takes the same bytes. -/
theorem bind_pure (h : read.Obeys grammar) (f : α → β) :
    (read >>= fun value => Pure.pure (f value)).Obeys fun result word =>
      ∃ value, grammar value word ∧ result = f value := by
  refine (h.bind fun value => Obeys.pure (f value)).mono fun result word => ?_
  constructor
  · rintro ⟨value, first, _, hfirst, ⟨rfl, rfl⟩, rfl⟩
    exact ⟨value, by rwa [List.append_nil], rfl⟩
  · rintro ⟨value, hword, rfl⟩
    exact ⟨value, word, [], hword, ⟨rfl, rfl⟩, (List.append_nil word).symm⟩

/-- What is known without reading takes no bytes. -/
theorem lift (answer : Except DecodeError α) :
    (liftM answer : Read α).Obeys fun value word => answer = .ok value ∧ word = [] where
  finds := by
    rintro value _ ⟨rfl, rfl⟩
    exact fun _ _ => rfl
  spelled := by
    intro value reader after h
    cases answer with
    | error error => cases h
    | ok found =>
      cases h
      exact ⟨[], ⟨rfl, rfl⟩, rfl, rfl⟩

/-- A read of bytes takes any, if they are as many. -/
theorem bytes (count : Nat) :
    (Read.bytes count).Obeys fun found word => word = found ∧ found.length = count where
  finds := by
    rintro _ _ ⟨rfl, hlength⟩
    exact .bytes hlength
  spelled := by
    intro found reader after h
    simp only [Read.bytes] at h
    split at h
    · next hlength =>
      cases h
      exact ⟨_, ⟨rfl, hlength⟩, (List.take_append_drop count reader.rest).symm, by rw [hlength]⟩
    · cases h

/-- A read that is done a number of times takes as many words in a row. -/
theorem replicate (h : read.Obeys grammar) (count : Nat) :
    (Read.replicate count read).Obeys fun values word =>
      values.length = count ∧ Row grammar values word := by
  induction count with
  | zero =>
    refine (Obeys.pure []).mono fun values word => ⟨?_, ?_⟩
    · rintro ⟨rfl, rfl⟩
      exact ⟨rfl, .nil⟩
    · rintro ⟨hlength, hrow⟩
      obtain rfl := List.eq_nil_of_length_eq_zero hlength
      cases hrow
      exact ⟨rfl, rfl⟩
  | succ count ih =>
    refine (h.bind fun value => ih.bind_pure (value :: ·)).mono fun values word => ⟨?_, ?_⟩
    · rintro ⟨value, first, last, hfirst, ⟨rest, ⟨rfl, hrow⟩, rfl⟩, rfl⟩
      exact ⟨rfl, .cons hfirst hrow⟩
    · rintro ⟨hlength, hrow⟩
      cases hrow with
      | nil => cases hlength
      | cons hvalue hrow =>
        exact ⟨_, _, _, hvalue, ⟨_, ⟨Nat.succ.inj hlength, hrow⟩, rfl⟩, rfl⟩

/-- A byte string is read to its end exactly if it is a word of the grammar. -/
theorem all_eq_ok_iff (h : read.Obeys grammar) {value : α} {word : List UInt8} :
    read.all word = .ok value ↔ grammar value word := by
  refine ⟨fun hall => ?_, fun hword => (h.finds hword).all⟩
  obtain ⟨after, hread, hnil⟩ := Read.all_eq_ok_iff.1 hall
  obtain ⟨bytes, hbytes, hrest, -⟩ := h.spelled hread
  have hword : word = bytes := by
    rw [hnil, List.append_nil] at hrest
    exact hrest
  rwa [hword]

/-- A word that is cut anywhere before its end is no word any more. -/
theorem exists_error_of_cut (h : read.Obeys grammar) {value : α} {word : List UInt8}
    (hword : grammar value word) {cut : Nat} (hcut : cut < word.length) (position : Nat) :
    ∃ error, read ⟨position, word.take cut⟩ = .error error := by
  cases hread : read ⟨position, word.take cut⟩ with
  | error error => exact ⟨error, rfl⟩
  | ok found =>
    obtain ⟨other, after⟩ := found
    obtain ⟨front, hfront, hrest, -⟩ := h.spelled hread
    have hrest : word.take cut = front ++ after.rest := hrest
    have hsplit : front ++ (after.rest ++ word.drop cut) = word ++ [] := by
      rw [← List.append_assoc, ← hrest, List.take_append_drop, List.append_nil]
    -- both words are found in front of the same bytes, so they are of one length
    have hother := h.finds hfront position (after.rest ++ word.drop cut)
    rw [hsplit, h.finds hword position []] at hother
    have hlength : word.length = front.length := by
      injection hother with hother
      injection hother with _ hreader
      injection hreader with hposition
      exact Nat.add_left_cancel hposition
    have hle : front.length ≤ cut := by
      calc front.length ≤ (word.take cut).length := by
            rw [hrest, List.length_append]
            exact Nat.le_add_right ..
        _ ≤ cut := List.length_take_le ..
    exact absurd (hlength ▸ hcut) (Nat.not_lt.2 hle)

end Obeys

/-! ## Numbers and byte strings -/

/-- A number is read of the bytes that spell it, in their full width. -/
theorem obeys_nat (width : Nat) :
    (nat width).Obeys fun value word => word.length = width ∧ value = BigEndian.ofBytes word := by
  refine ((Obeys.bytes width).bind_pure BigEndian.ofBytes).mono fun value word => ⟨?_, ?_⟩
  · rintro ⟨_, ⟨rfl, hlength⟩, rfl⟩
    exact ⟨hlength, rfl⟩
  · rintro ⟨hlength, rfl⟩
    exact ⟨word, ⟨rfl, hlength⟩, rfl⟩

/-- A number of a fixed width is read by its big-endian bytes. -/
theorem obeys_ofNat {width : Nat} {ofNat : Nat → β} {toNat : β → Nat}
    (hlt : ∀ value, toNat value < BigEndian.capacity width)
    (hofNat : ∀ value, ofNat (toNat value) = value)
    (htoNat : ∀ n, n < BigEndian.capacity width → toNat (ofNat n) = n) :
    (nat width >>= fun n => Pure.pure (ofNat n)).Obeys fun value word =>
      word = BigEndian.toBytes width (toNat value) := by
  refine ((obeys_nat width).bind_pure ofNat).mono fun value word => ⟨?_, ?_⟩
  · rintro ⟨_, ⟨rfl, rfl⟩, rfl⟩
    rw [htoNat _ (BigEndian.ofBytes_lt word), BigEndian.toBytes_ofBytes]
  · rintro rfl
    refine ⟨toNat value, ⟨BigEndian.length_toBytes .., ?_⟩, (hofNat value).symm⟩
    exact (BigEndian.ofBytes_toBytes_of_lt (hlt value)).symm

/-- `read_u8` takes the byte itself. -/
theorem obeys_u8 : u8.Obeys fun value word => word = [value] := by
  have hu8 : u8.Obeys fun value word => word = BigEndian.toBytes 1 value.toNat :=
    obeys_ofNat (fun value => value.toNat_lt) (fun _ => UInt8.ofNat_toNat)
      (fun _ hn => UInt8.toNat_ofNat_of_lt' hn)
  refine hu8.mono fun value word => ?_
  have hbytes : BigEndian.toBytes 1 value.toNat = [value] := by
    simp [BigEndian.toBytes]
  rw [hbytes]

/-- `read_u16` takes the two digits of its number. -/
theorem obeys_u16 : u16.Obeys fun value word => word = BigEndian.toBytes 2 value.toNat :=
  obeys_ofNat (fun value => value.toNat_lt) (fun _ => UInt16.ofNat_toNat)
    (fun _ hn => UInt16.toNat_ofNat_of_lt' hn)

/-- `read_u32` takes the four digits of its number. -/
theorem obeys_u32 : u32.Obeys fun value word => word = BigEndian.toBytes 4 value.toNat :=
  obeys_ofNat (fun value => value.toNat_lt) (fun _ => UInt32.ofNat_toNat)
    (fun _ hn => UInt32.toNat_ofNat_of_lt' hn)

/-- `read_u64` takes the eight digits of its number. -/
theorem obeys_u64 : u64.Obeys fun value word => word = BigEndian.toBytes 8 value.toNat :=
  obeys_ofNat (fun value => value.toNat_lt) (fun _ => UInt64.ofNat_toNat)
    (fun _ hn => UInt64.toNat_ofNat_of_lt' hn)

/-- A byte string of a fixed size is read of its own bytes. -/
theorem obeys_octets (size : Nat) : (octets size).Obeys fun value word => word = value.toList := by
  refine ((Obeys.bytes size).bind_pure Octets.ofBytes).mono fun value word => ⟨?_, ?_⟩
  · rintro ⟨_, ⟨rfl, hlength⟩, rfl⟩
    exact (Octets.toList_ofBytes_of_length hlength).symm
  · rintro rfl
    exact ⟨value.toList, ⟨rfl, value.length_toList⟩, (Octets.ofBytes_toList value).symm⟩

/-- It is found where its bytes stand. -/
theorem finds_octets {size : Nat} (octets : Octets size) :
    (Read.octets size).Finds octets octets.toList := (obeys_octets size).finds rfl

/-! ## Pieces behind their length -/

/-- Bytes are read behind their length. -/
theorem finds_length {bytes : List UInt8} (h : bytes.length ≤ 65535) :
    u16.Finds (UInt16.ofNat bytes.length) (BigEndian.toBytes 2 bytes.length) ∧
      (Read.bytes (UInt16.ofNat bytes.length).toNat).Finds bytes bytes := by
  have hlength : (UInt16.ofNat bytes.length).toNat = bytes.length :=
    UInt16.toNat_ofNat_of_lt' (Nat.lt_succ_of_le h)
  exact ⟨obeys_u16.finds (by rw [hlength]), .bytes hlength.symm⟩

/-- Behind their length in four bytes, bytes are found. -/
theorem finds_length32 {bytes : List UInt8} (h : bytes.length < UInt32.size) :
    u32.Finds (UInt32.ofNat bytes.length) (BigEndian.toBytes 4 bytes.length) ∧
      (Read.bytes (UInt32.ofNat bytes.length).toNat).Finds bytes bytes := by
  have hlength : (UInt32.ofNat bytes.length).toNat = bytes.length := UInt32.toNat_ofNat_of_lt' h
  exact ⟨obeys_u32.finds (by rw [hlength]), .bytes hlength.symm⟩

/-- Behind their length in two bytes, bytes are found. -/
theorem finds_prefixed {bytes : List UInt8} (h : bytes.length ≤ 65535) :
    (u16 >>= fun length => Read.bytes length.toNat).Finds bytes (Wire.prefixed 2 bytes) :=
  (finds_length h).1.bind (finds_length h).2

/-- A text is found where its bytes are. The place where they start is kept for complaints. -/
theorem finds_text {read : Read (List UInt8)} {text : String} {word : List UInt8}
    (h : read.Finds (Utf8.encode text) word) :
    (do
      let start := (← get).position
      match Utf8.decode? (← read) with
      | some text => return text
      | none => throw (.invalidUtf8 start) : Read String).Finds text word := by
  intro position rest
  change (read >>= fun bytes => match Utf8.decode? bytes with
    | some text => Pure.pure text
    | none => throwThe DecodeError (.invalidUtf8 position)) _ = _
  rw [bind_of_ok (h position rest), Utf8.decode?_encode]
  rfl

/-- A text is read behind its length. -/
theorem finds_string {text : String} {word : List UInt8} (h : Wire.string 2 text = .ok word) :
    string.Finds text word := by
  obtain ⟨hlength, rfl⟩ := Wire.string_eq_ok_iff.1 h
  have htext := finds_text (finds_prefixed hlength)
  simp only [bind_assoc] at htext
  exact htext

/-- No other bytes are read as a text than those that are written of it. -/
theorem obeys_string : string.Obeys fun text word => Wire.string 2 text = .ok word where
  finds := finds_string
  spelled := by
    intro text reader after h
    have hread : ∃ start : Nat, string reader = (u16 >>= fun length => bytes length.toNat >>=
        fun found => match Utf8.decode? found with
          | some text => Pure.pure text
          | none => throwThe DecodeError (.invalidUtf8 start)) reader := ⟨reader.position, rfl⟩
    obtain ⟨start, hread⟩ := hread
    rw [hread] at h
    obtain ⟨length, between, hu16, h⟩ := exists_of_bind_eq_ok h
    obtain ⟨_, rfl, hrest, hposition⟩ := obeys_u16.spelled hu16
    obtain ⟨found, behind, hbytes, h⟩ := exists_of_bind_eq_ok h
    obtain ⟨word, ⟨rfl, hlength⟩, hrest', hposition'⟩ := (Obeys.bytes length.toNat).spelled hbytes
    cases htext : Utf8.decode? word with
    | none =>
      rw [htext] at h
      cases h
    | some read =>
      rw [htext] at h
      cases h
      obtain rfl := Utf8.decode?_eq_some_iff.1 htext
      refine ⟨_, Wire.string_eq_ok_iff.2 ⟨?_, rfl⟩, ?_, ?_⟩
      · rw [hlength]
        exact Nat.le_of_lt_succ length.toNat_lt
      · rw [Wire.prefixed, hrest, hrest', hlength, List.append_assoc]
      · rw [Wire.prefixed, hposition', hposition, List.length_append, hlength, Nat.add_assoc]

end Read

end HostBridge
