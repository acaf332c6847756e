import HostBridge.Proofs.Wire.Reading
import HostBridge.VmError

/-!
# Reports read back

A report of a VM is read back as it was written (`decode_of_encode`). A plain message is taken for
what it says unless it starts with the tag of a report, which no letter is (`decode_encode_text`).
-/

namespace HostBridge.VmError

variable {error : VmError} {bytes : List UInt8} {template app : Address} {function reason : String}

/-! ## Writing -/

/-- The report of a missing function can be written if its name fits. -/
theorem encode_functionNotFound (h : (Utf8.encode function).length ≤ 65535) :
    ∃ bytes, (functionNotFound template app function).encode = .ok bytes := by
  simp only [encode, Wire.string_eq_ok_iff.2 ⟨h, rfl⟩]
  exact ⟨_, rfl⟩

/-- The report of a failed function can be written if its name and the reason fit. -/
theorem encode_functionFailed (h : (Utf8.encode function).length ≤ 65535)
    (h' : (Utf8.encode reason).length ≤ 65535) :
    ∃ bytes, (functionFailed template app function reason).encode = .ok bytes := by
  simp only [encode, Wire.string_eq_ok_iff.2 ⟨h, rfl⟩, Wire.string_eq_ok_iff.2 ⟨h', rfl⟩]
  exact ⟨_, rfl⟩

/-- A reason that is too long for the length in front of it cannot be reported. -/
theorem encode_functionFailed_of_lt (h : (Utf8.encode function).length ≤ 65535)
    (h' : 65535 < (Utf8.encode reason).length) :
    (functionFailed template app function reason).encode =
      .error (.stringTooLong (Utf8.encode reason).length) := by
  simp only [encode, Wire.string_eq_ok_iff.2 ⟨h, rfl⟩, Wire.string_of_lt h']
  rfl

/-! ## Reading -/

/-- The two addresses of a report are read before its texts. -/
theorem finds_addresses {next : Address → Address → Read VmError} {behind : List UInt8}
    (h : (next template app).Finds error behind) :
    (Read.octets 20 >>= fun template => Read.octets 20 >>= fun app => next template app).Finds
      error (template.toList ++ app.toList ++ behind) := by
  rw [List.append_assoc]
  exact (Read.finds_octets template).bind ((Read.finds_octets app).bind h)

/-- The tag of a report and its fields are read back. -/
theorem finds_read (h : error.encode = .ok bytes) : VmError.read.Finds error bytes := by
  have htag : ∀ tag : UInt8, Read.u8.Finds tag [tag] := fun tag => Read.obeys_u8.finds rfl
  unfold VmError.read
  cases error with
  | outOfGas =>
    cases h
    exact (htag 0).bind (.pure _)
  | templateNotFound template =>
    cases h
    exact (htag 1).bind ((Read.finds_octets template).bind_pure _)
  | appNotFound app =>
    cases h
    exact (htag 2).bind ((Read.finds_octets app).bind_pure _)
  | compilationFailed template app reason =>
    obtain ⟨word, hreason, ⟨⟩⟩ := Wire.exists_of_bind_eq_ok h
    exact (htag 3).bind (finds_addresses ((Read.finds_string hreason).bind_pure _))
  | instantiationFailed template app reason =>
    obtain ⟨word, hreason, ⟨⟩⟩ := Wire.exists_of_bind_eq_ok h
    exact (htag 4).bind (finds_addresses ((Read.finds_string hreason).bind_pure _))
  | functionNotFound template app function =>
    obtain ⟨word, hfunction, ⟨⟩⟩ := Wire.exists_of_bind_eq_ok h
    exact (htag 5).bind (finds_addresses ((Read.finds_string hfunction).bind_pure _))
  | functionFailed template app function reason =>
    obtain ⟨word, hfunction, hrest⟩ := Wire.exists_of_bind_eq_ok h
    obtain ⟨word', hreason, ⟨⟩⟩ := Wire.exists_of_bind_eq_ok hrest
    rw [List.append_assoc]
    exact (htag 6).bind (finds_addresses ((Read.finds_string hfunction).bind
      ((Read.finds_string hreason).bind_pure _)))
  | other reason =>
    obtain ⟨word, hreason, ⟨⟩⟩ := Wire.exists_of_bind_eq_ok h
    exact (htag 7).bind ((Read.finds_string hreason).bind_pure _)

/-- A report is read back as it was written. -/
theorem decode_of_encode (h : error.encode = .ok bytes) : decode bytes = error := by
  rw [decode, (finds_read h).all]

/-- There are no reports with other tags than those of the eight kinds. -/
theorem readFields_of_le {tag : UInt8} (h : 8 ≤ tag) :
    readFields tag = throwThe DecodeError (.invalidTag tag) := by
  unfold readFields
  split
  case h_9 => rfl
  all_goals contradiction

/-- What starts with another byte than a tag of a report is a message. -/
theorem decode_of_le {tag : UInt8} (h : 8 ≤ tag) (rest : List UInt8) :
    decode (tag :: rest) = .other (Utf8.decodeLossy (tag :: rest)) := by
  cases hread : read.all (tag :: rest) with
  | error error => rw [decode, hread]
  | ok error =>
    obtain ⟨after, hall, -⟩ := Read.all_eq_ok_iff.1 hread
    obtain ⟨first, between, hu8, hfields⟩ := Read.exists_of_bind_eq_ok hall
    obtain ⟨_, rfl, hrest, -⟩ := Read.obeys_u8.spelled hu8
    obtain rfl : tag = first := (List.cons.inj hrest).1
    rw [readFields_of_le h] at hfields
    cases hfields

/-- A message is told as it is unless it starts with a control character. -/
theorem decode_encode_text {text : String} {tag : UInt8} {rest : List UInt8}
    (htext : Utf8.encode text = tag :: rest) (h : 8 ≤ tag) :
    decode (Utf8.encode text) = .other text := by
  rw [htext, decode_of_le h, ← htext, Utf8.decodeLossy_encode]

end HostBridge.VmError
