import Mathlib.Algebra.Ring.Nat
import HostBridge.Proofs.Wire.Stream
import HostBridge.Transaction.Envelope

/-!
# Envelopes and contexts are byte strings of a fixed size

A read of pieces that have a size each takes any bytes that are as many, and bytes that are too few
end within the first piece that they do not fill (`Read.Sized`). So where each value has one word,
the words are all byte strings of the sum of the sizes (`Read.Sized.fixedSize`), and no two values
share one.
-/

namespace HostBridge

/-- Bytes of this length, cut into pieces of these sizes, end within the first that they do not
fill. -/
def EndsWithin (sizes : List Nat) (length : Nat) (error : DecodeError) : Prop :=
  ∃ front size back, sizes = front ++ size :: back ∧ front.sum ≤ length ∧
    length < front.sum + size ∧ error = .unexpectedEof size (length - front.sum)

variable {sizes others : List Nat} {size length : Nat} {error : DecodeError}

/-- Bytes cannot end within no fields. -/
theorem not_endsWithin_nil : ¬ EndsWithin [] length error := by
  rintro ⟨front, size, back, hnil, -⟩
  exact List.append_ne_nil_of_right_ne_nil front (List.cons_ne_nil size back) hnil.symm

/-- Bytes end within the first field, or within the others behind it. -/
theorem endsWithin_cons : EndsWithin (size :: sizes) length error ↔
    length < size ∧ error = .unexpectedEof size length ∨
      size ≤ length ∧ EndsWithin sizes (length - size) error := by
  constructor
  · rintro ⟨front, found, back, hsizes, hle, hlt, rfl⟩
    cases front with
    | nil =>
      cases hsizes
      exact .inl ⟨by simpa using hlt, by simp⟩
    | cons first front =>
      cases hsizes
      rw [List.sum_cons] at hle hlt ⊢
      refine .inr ⟨by omega, front, found, back, rfl, by omega, by omega, ?_⟩
      rw [Nat.sub_sub]
  · rintro (⟨hlt, rfl⟩ | ⟨hle, front, found, back, rfl, hfront, hlt, rfl⟩)
    · exact ⟨[], size, sizes, rfl, Nat.zero_le _, by simpa using hlt, by simp⟩
    · refine ⟨size :: front, found, back, rfl, ?_, ?_, ?_⟩
      · rw [List.sum_cons]
        omega
      · rw [List.sum_cons]
        omega
      · rw [List.sum_cons, Nat.sub_sub]

/-- Bytes end within one field just if they are fewer than it takes. -/
theorem endsWithin_singleton : EndsWithin [size] length error ↔
    length < size ∧ error = .unexpectedEof size length := by
  rw [endsWithin_cons, or_iff_left fun h => not_endsWithin_nil h.2]

/-- Bytes end within the first pieces, or behind all of them. -/
theorem endsWithin_append : EndsWithin (sizes ++ others) length error ↔
    EndsWithin sizes length error ∨
      sizes.sum ≤ length ∧ EndsWithin others (length - sizes.sum) error := by
  induction sizes generalizing length with
  | nil => simp [not_endsWithin_nil]
  | cons size sizes ih =>
    rw [List.cons_append, endsWithin_cons, endsWithin_cons, ih, List.sum_cons, Nat.sub_sub]
    grind

/-- Bytes that end within fields are fewer than these take. -/
theorem EndsWithin.lt_sum (h : EndsWithin sizes length error) : length < sizes.sum := by
  obtain ⟨front, size, back, rfl, -, hlt, -⟩ := h
  rw [List.sum_append, List.sum_cons]
  omega

namespace Read

variable {α β : Type} {read : Read α} {next : α → Read β} {grammar : α → List UInt8 → Prop}
  {words : α → β → List UInt8 → Prop}

/-- The read takes pieces of these sizes, and is refused where the bytes end within one of them. -/
structure Sized (read : Read α) (grammar : α → List UInt8 → Prop) (sizes : List Nat) : Prop where
  obeys : read.Obeys grammar
  length_eq : ∀ {value : α} {word : List UInt8}, grammar value word → word.length = sizes.sum
  refuses : read.Refuses fun bytes error => EndsWithin sizes bytes.length error

namespace Sized

/-- A read that only hands back a value takes no fields. -/
theorem pure (value : α) :
    (Pure.pure value : Read α).Sized (fun found word => found = value ∧ word = []) [] where
  obeys := .pure value
  length_eq := by
    rintro _ _ ⟨rfl, rfl⟩
    rfl
  refuses := (Refuses.pure value).mono fun _ _ => iff_of_false id not_endsWithin_nil

/-- A read of one piece. -/
theorem piece (hread : read.Obeys grammar)
    (hlength : ∀ value word, grammar value word → word.length = size)
    (hrefuses : read.Refuses fun bytes error =>
      bytes.length < size ∧ error = .unexpectedEof size bytes.length) :
    read.Sized grammar [size] where
  obeys := hread
  length_eq hword := by rw [hlength _ _ hword, List.sum_singleton]
  refuses := hrefuses.mono fun _ _ => endsWithin_singleton.symm

/-- A byte string of a fixed size is one field. -/
theorem octets (size : Nat) :
    (Read.octets size).Sized (fun value word => word = value.toList) [size] :=
  piece (obeys_octets size) (fun value _ hword => hword ▸ value.length_toList)
    ((Refuses.bytes size).bind_pure _)

/-- A number of eight bytes is one field. -/
theorem u64 : Read.u64.Sized (fun value word => word = BigEndian.toBytes 8 value.toNat) [8] :=
  piece obeys_u64 (fun _ _ hword => hword ▸ BigEndian.length_toBytes ..)
    (((Refuses.bytes 8).bind_pure _).bind_pure _)

/-- Where there are enough bytes, all pieces are there. -/
theorem exists_word (h : read.Sized grammar sizes) {bytes : List UInt8}
    (hle : sizes.sum ≤ bytes.length) :
    ∃ value word rest, grammar value word ∧ bytes = word ++ rest := by
  cases hread : read ⟨0, bytes⟩ with
  | error error =>
    have hends := (h.refuses 0 bytes error).1 hread
    exact absurd hends.lt_sum (Nat.not_lt.2 hle)
  | ok result =>
    obtain ⟨word, hword, hrest, -⟩ := h.obeys.spelled hread
    exact ⟨result.1, word, result.2.rest, hword, hrest⟩

/-- Pieces stand behind one another. -/
theorem bind (h : read.Sized grammar sizes)
    (hnext : ∀ value, (next value).Sized (words value) others) :
    (read >>= next).Sized (fun result word => ∃ value first last,
      grammar value first ∧ words value result last ∧ word = first ++ last) (sizes ++ others) where
  obeys := h.obeys.bind fun value => (hnext value).obeys
  length_eq := by
    rintro result _ ⟨value, first, last, hfirst, hlast, rfl⟩
    rw [List.length_append, h.length_eq hfirst, (hnext value).length_eq hlast, List.sum_append]
  refuses := by
    refine (Refuses.bind h.obeys h.refuses fun value => (hnext value).refuses).mono
      fun bytes error => ?_
    rw [endsWithin_append]
    refine or_congr_right ⟨?_, ?_⟩
    · rintro ⟨value, word, rest, hword, rfl, hends⟩
      rw [List.length_append, ← h.length_eq hword, Nat.add_sub_cancel_left]
      exact ⟨Nat.le_add_right .., hends⟩
    · intro hends
      obtain ⟨hle, hends⟩ := hends
      obtain ⟨value, word, rest, hword, rfl⟩ := h.exists_word hle
      rw [List.length_append, ← h.length_eq hword, Nat.add_sub_cancel_left] at hends
      exact ⟨value, word, rest, hword, rfl, hends⟩

/-- What fields are read of may be said in other words. -/
theorem mono {grammar' : α → List UInt8 → Prop} (h : read.Sized grammar sizes)
    (hiff : ∀ value word, grammar value word ↔ grammar' value word) :
    read.Sized grammar' sizes where
  obeys := h.obeys.mono hiff
  length_eq hword := h.length_eq ((hiff _ _).2 hword)
  refuses := h.refuses

end Sized

end Read

/-! ## Values with one word each -/

/-- Values are written as the byte strings of `total` bytes, each as one and each of them of one
value. They are made of pieces of these sizes. -/
structure FixedSize {α : Type} (encode : α → List UInt8)
    (decode : List UInt8 → Except DecodeError α) (sizes : List Nat) (total : Nat) : Prop where
  sum_eq : sizes.sum = total
  decode_eq_ok_iff : ∀ bytes value, decode bytes = .ok value ↔ encode value = bytes
  exists_ok_iff : ∀ bytes, (∃ value, decode bytes = .ok value) ↔ bytes.length = total
  /-- Too few bytes: the first piece that does not fit is missed, and what was left for it told. -/
  short : ∀ bytes, bytes.length < total →
    ∃ error, EndsWithin sizes bytes.length error ∧ decode bytes = .error error
  long : ∀ bytes, total < bytes.length →
    decode bytes = .error (.trailingBytes total bytes.length)

/-- What is read field by field is a record of the size of all fields. -/
theorem Read.Sized.fixedSize {α : Type} {read : Read α} {encode : α → List UInt8} {total : Nat}
    (h : read.Sized (fun value word => word = encode value) sizes) (htotal : sizes.sum = total) :
    FixedSize encode read.all sizes total := by
  subst htotal
  refine ⟨rfl, fun bytes value => h.obeys.all_eq_ok_iff.trans eq_comm, fun bytes => ⟨?_, ?_⟩,
    fun bytes hlt => ?_, fun bytes hlt => ?_⟩
  · intro hall
    obtain ⟨value, hall⟩ := hall
    exact h.length_eq (h.obeys.all_eq_ok_iff.1 hall)
  · intro hlength
    obtain ⟨value, word, rest, hword, rfl⟩ := h.exists_word (Nat.le_of_eq hlength.symm)
    have hnil : rest = [] := by
      rw [List.length_append, h.length_eq hword] at hlength
      exact List.eq_nil_of_length_eq_zero (Nat.add_eq_left.1 hlength)
    rw [hnil, List.append_nil]
    exact ⟨value, h.obeys.all_eq_ok_iff.2 hword⟩
  · cases hread : read ⟨0, bytes⟩ with
    | error error =>
      have hends := (h.refuses 0 bytes error).1 hread
      exact ⟨error, hends, h.refuses.all hends⟩
    | ok result =>
      obtain ⟨word, hword, hrest, -⟩ := h.obeys.spelled hread
      have hlength : bytes.length = sizes.sum + result.2.rest.length := by
        rw [← h.length_eq hword, ← List.length_append, ← hrest]
      exact absurd hlt (Nat.not_lt.2 (hlength ▸ Nat.le_add_right ..))
  · obtain ⟨value, word, rest, hword, rfl⟩ := h.exists_word (Nat.le_of_lt hlt)
    rw [List.length_append, h.length_eq hword] at hlt ⊢
    have hrest : rest ≠ [] := List.length_pos_iff.1 (Nat.lt_add_right_iff_pos.1 hlt)
    rw [(h.obeys.finds hword).all_of_rest hrest, h.length_eq hword]

/-- An envelope is an address and three numbers. -/
theorem sized_envelope : Envelope.read.Sized (fun envelope word => word = envelope.encode)
    [20, 8, 8, 8] := by
  refine ((Read.Sized.octets 20).bind fun principal => Read.Sized.u64.bind fun amount =>
    Read.Sized.u64.bind fun gasLimit => Read.Sized.u64.bind fun gasFee =>
      .pure (Envelope.mk principal amount gasLimit gasFee)).mono fun envelope word => ⟨?_, ?_⟩
  · rintro ⟨_, _, _, rfl, ⟨_, _, _, rfl, ⟨_, _, _, rfl, ⟨_, _, _, rfl, ⟨rfl, rfl⟩, rfl⟩, rfl⟩, rfl⟩,
      rfl⟩
    rfl
  · rintro rfl
    exact ⟨_, _, _, rfl, ⟨_, _, _, rfl, ⟨_, _, _, rfl, ⟨_, _, _, rfl, ⟨rfl, rfl⟩, rfl⟩, rfl⟩, rfl⟩,
      rfl⟩

/-- A context is a number and two byte strings. -/
theorem sized_context : Context.read.Sized (fun context word => word = context.encode)
    [8, 32, 32] := by
  refine (Read.Sized.u64.bind fun layer => (Read.Sized.octets 32).bind fun transactionId =>
    (Read.Sized.octets 32).bind fun state =>
      .pure (Context.mk layer transactionId state)).mono fun context word => ⟨?_, ?_⟩
  · rintro ⟨_, _, _, rfl, ⟨_, _, _, rfl, ⟨_, _, _, rfl, ⟨rfl, rfl⟩, rfl⟩, rfl⟩, rfl⟩
    rfl
  · rintro rfl
    exact ⟨_, _, _, rfl, ⟨_, _, _, rfl, ⟨_, _, _, rfl, ⟨rfl, rfl⟩, rfl⟩, rfl⟩, rfl⟩

/-- **Envelopes are the byte strings of 44 bytes, and contexts those of 72.** Either is read from
its own bytes and from no others; fewer bytes end within the first field that does not fit, and of
more it is told how many there are. -/
theorem envelope_context_fixedSize :
    FixedSize Envelope.encode Envelope.decode [20, 8, 8, 8] 44 ∧
      FixedSize Context.encode Context.decode [8, 32, 32] 72 :=
  ⟨sized_envelope.fixedSize rfl, sized_context.fixedSize rfl⟩

end HostBridge
