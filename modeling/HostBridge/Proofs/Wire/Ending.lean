import HostBridge.Proofs.Wire.Reading

/-!
# Reads to the end of the bytes

What a read makes of a word may depend on what stands behind it, where the read looks at whether
any bytes are left. `Read.Decides` says what a read makes of all the bytes that are left: which of
them it accepts (`Read.Accepts`), and how it complains about the others (`Read.FailsAs`). It is
built up from the end: in front of a read that decides stand reads that obey a grammar and whose
complaints are known.
-/

namespace HostBridge

/-- How many bytes there are, read or not. -/
def Reader.total (reader : Reader) : Nat := reader.position + reader.remaining

namespace Read

variable {α β : Type} {read : Read α} {next : α → Read β} {reader after : Reader}
  {error : DecodeError} {field : Receipt.Field} {width : Nat}
  {grammar : α → List UInt8 → Prop} {complaint : Nat → DecodeError → Prop}

/-- Naming a field changes nothing about what is found. -/
theorem within_eq_ok_iff {result : α × Reader} :
    read.within field reader = .ok result ↔ read reader = .ok result := by
  unfold within
  split
  · next heq =>
    rw [heq]
    constructor <;> intro h <;> cases h
  · rfl

/-- A read obeys its grammar whatever field its complaints name. -/
theorem Obeys.within (h : read.Obeys grammar) (field : Receipt.Field) :
    (read.within field).Obeys grammar where
  finds hword := (h.finds hword).within field
  spelled hread := h.spelled (within_eq_ok_iff.1 hread)

/-- A read that obeys a grammar moves on among the bytes there are. -/
theorem Obeys.total_eq (h : read.Obeys grammar) {value : α}
    (hread : read reader = .ok (value, after)) : after.total = reader.total := by
  obtain ⟨word, -, hrest, hposition⟩ := h.spelled hread
  unfold Reader.total Reader.remaining
  rw [hrest, hposition, List.length_append, Nat.add_assoc]

/-! ## Complaints -/

/-- The read asks for `width` bytes, and for nothing but that they are there. -/
def Wants (read : Read α) (width : Nat) : Prop :=
  ∀ reader error, read reader = .error error →
    error = .unexpectedEof width reader.remaining ∧ reader.remaining < width

namespace Wants

/-- Bytes are all that their read wants. -/
theorem bytes (count : Nat) : (Read.bytes count).Wants count :=
  fun _ _ h => (bytes_eq_error_iff.1 h).symm

/-- What is made of the bytes does not change how many are wanted. -/
theorem bind_pure (h : read.Wants width) (f : α → β) :
    (read >>= fun value => pure (f value)).Wants width :=
  fun _ _ hbind => h _ _ (bind_pure_eq_error_iff.1 hbind)

/-- A number wants the bytes of its width. -/
theorem nat (width : Nat) : (Read.nat width).Wants width := (bytes width).bind_pure _

/-- A number of two bytes wants two. -/
theorem u16 : Read.u16.Wants 2 := (nat 2).bind_pure _

/-- A byte string of a fixed size wants as many bytes. -/
theorem octets (size : Nat) : (Read.octets size).Wants size := (bytes size).bind_pure _

/-- Within a field it is the field that is cut short. -/
theorem within (h : read.Wants width) (hfail : read.within field reader = .error error) :
    error = .truncatedReceipt field width reader.remaining ∧ reader.remaining < width := by
  unfold Read.within at hfail
  split at hfail
  · next hread =>
    cases hfail
    obtain ⟨⟨⟩, hlt⟩ := h _ _ hread
    exact ⟨rfl, hlt⟩
  · next hother =>
    obtain ⟨rfl, -⟩ := h _ _ hfail
    exact absurd hfail (hother _ _)

end Wants

/-- Where the read fails, it makes one of these complaints. They may depend on how many bytes there
are. -/
def FailsAs (read : Read α) (complaint : Nat → DecodeError → Prop) : Prop :=
  ∀ reader error, read reader = .error error → complaint reader.total error

namespace FailsAs

/-- A read that only hands back a value has no complaint. -/
theorem pure (value : α) : (Pure.pure value : Read α).FailsAs complaint :=
  fun _ _ h => nomatch h

/-- One read behind another makes the complaints of both. -/
theorem bind (hread : read.Obeys grammar) (h : read.FailsAs complaint)
    (hnext : ∀ value, (next value).FailsAs complaint) : (read >>= next).FailsAs complaint := by
  intro reader error hbind
  obtain hfirst | ⟨value, between, hfirst, hlast⟩ := bind_eq_error_iff.1 hbind
  · exact h _ _ hfirst
  · exact hread.total_eq hfirst ▸ hnext value _ _ hlast

end FailsAs

/-! ## Decisions -/

/-- Of all the bytes that are left, the read accepts the words of the grammar, whether it goes to
their end or not. -/
def Accepts (read : Read α) (grammar : α → List UInt8 → Prop) : Prop :=
  ∀ position bytes value,
    (∃ after, read ⟨position, bytes⟩ = .ok (value, after)) ↔ grammar value bytes

/-- What a read accepts may be said in other words. -/
theorem Accepts.mono {grammar' : α → List UInt8 → Prop} (h : read.Accepts grammar)
    (hiff : ∀ value bytes, grammar value bytes ↔ grammar' value bytes) : read.Accepts grammar' :=
  fun position bytes value => (h position bytes value).trans (hiff value bytes)

/-- In front of all that is left stands a word of another grammar. -/
theorem Obeys.bind_accepts {others : α → β → List UInt8 → Prop} (hread : read.Obeys grammar)
    (hnext : ∀ value, (next value).Accepts (others value)) :
    (read >>= next).Accepts fun result bytes => ∃ value first last,
      grammar value first ∧ others value result last ∧ bytes = first ++ last := by
  intro position bytes result
  constructor
  · rintro ⟨after, h⟩
    obtain ⟨value, between, hfirst, hlast⟩ := exists_of_bind_eq_ok h
    obtain ⟨first, hword, hrest, -⟩ := hread.spelled hfirst
    exact ⟨value, first, between.rest, hword, (hnext value _ _ _).1 ⟨after, hlast⟩, hrest⟩
  · rintro ⟨value, first, last, hword, hothers, rfl⟩
    have hfirst := hread.finds hword position last
    obtain ⟨after, hlast⟩ := (hnext value (position + first.length) last result).2 hothers
    exact ⟨after, (bind_of_ok hfirst).trans hlast⟩

/-- The read accepts the words of the grammar, and complains about all other bytes. -/
structure Decides (read : Read α) (grammar : α → List UInt8 → Prop)
    (complaint : Nat → DecodeError → Prop) : Prop where
  accepts : read.Accepts grammar
  complains : read.FailsAs complaint

namespace Decides

/-- Where nothing more is looked at, anything may be left. -/
theorem pure (value : α) :
    (Pure.pure value : Read α).Decides (fun found _ => found = value) complaint where
  accepts := by
    intro position bytes found
    constructor
    · rintro ⟨after, h⟩
      cases h
      rfl
    · rintro rfl
      exact ⟨_, rfl⟩
  complains := .pure value

/-- At the end nothing may be left. -/
theorem finish (value : α)
    (htrailing : ∀ {consumed total : Nat}, consumed < total →
      complaint total (.trailingBytes consumed total)) :
    (Read.finish >>= fun _ => Pure.pure value).Decides
      (fun found bytes => found = value ∧ bytes = []) complaint where
  accepts := by
    intro position bytes found
    cases bytes with
    | nil =>
      constructor
      · rintro ⟨after, h⟩
        cases h
        exact ⟨rfl, rfl⟩
      · rintro ⟨rfl, -⟩
        exact ⟨_, rfl⟩
    | cons byte bytes =>
      constructor
      · rintro ⟨after, h⟩
        cases h
      · rintro ⟨-, h⟩
        cases h
  complains := by
    rintro ⟨position, bytes⟩ error h
    cases bytes with
    | nil => cases h
    | cons byte bytes =>
      cases h
      exact htrailing (Nat.lt_add_of_pos_right (Nat.succ_pos _))

/-- Behind a read that obeys its grammar, one that decides decides about all the bytes. -/
theorem bind {others : α → β → List UInt8 → Prop} (hread : read.Obeys grammar)
    (hfails : read.FailsAs complaint)
    (hnext : ∀ value, (next value).Decides (others value) complaint) :
    (read >>= next).Decides (fun result bytes => ∃ value first last,
      grammar value first ∧ others value result last ∧ bytes = first ++ last) complaint where
  accepts := hread.bind_accepts fun value => (hnext value).accepts
  complains := .bind hread hfails fun value => (hnext value).complains

/-- What a read decides may be said in other words. -/
theorem mono {grammar' : α → List UInt8 → Prop} (h : read.Decides grammar complaint)
    (hiff : ∀ value bytes, grammar value bytes ↔ grammar' value bytes) :
    read.Decides grammar' complaint where
  accepts := h.accepts.mono hiff
  complains := h.complains

end Decides

end Read

end HostBridge
