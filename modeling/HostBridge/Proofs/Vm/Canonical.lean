import HostBridge.Proofs.Vm.Report

/-!
# Reports have one form

Whatever is read as a report is what would have been written of it (`obeys_read`), so two reports
never share their bytes, and bytes that no report has are a message (`reports_canonical`). A report
is written as its tag with its addresses, and then its texts, each behind its length
(`encode_eq_map`), of which the first that is too long is refused.
-/

namespace HostBridge.VmError

variable {error : VmError} {bytes word : List UInt8} {reader after : Reader} {kind : UInt8}

/-! ## Writing -/

/-- The texts of a report, in the order in which they are written. -/
def texts : VmError → List String
  | .outOfGas | .templateNotFound _ | .appNotFound _ => []
  | .compilationFailed _ _ reason | .instantiationFailed _ _ reason => [reason]
  | .functionNotFound _ _ function => [function]
  | .functionFailed _ _ function reason => [function, reason]
  | .other reason => [reason]

/-- What is written in front of the texts: the tag and the addresses. -/
def head : VmError → List UInt8
  | .outOfGas => [0]
  | .templateNotFound template => 1 :: template.toList
  | .appNotFound app => 2 :: app.toList
  | .compilationFailed template app _ => 3 :: template.toList ++ app.toList
  | .instantiationFailed template app _ => 4 :: template.toList ++ app.toList
  | .functionNotFound template app _ => 5 :: template.toList ++ app.toList
  | .functionFailed template app _ _ => 6 :: template.toList ++ app.toList
  | .other _ => [7]

/-- The first text of a report that is too long for two bytes of length. -/
def firstTooLong? (error : VmError) : Option String :=
  error.texts.find? fun text => 65535 < (Utf8.encode text).length

/-- A report is its head, and its texts behind it. -/
theorem encode_eq_map (error : VmError) : error.encode =
    (error.texts.mapM (Wire.string 2) >>= fun words => pure (error.head ++ words.flatten)) := by
  cases error with
  | outOfGas | templateNotFound | appNotFound =>
    simp only [encode, texts, head, List.mapM_nil, pure_bind, List.flatten_nil, List.append_nil]
    rfl
  | _ => simp [encode, texts, head]

/-- A report is refused for the first of its texts that is too long. -/
theorem encode_eq_error_iff {refusal : EncodeError} : error.encode = .error refusal ↔
    ∃ text, error.firstTooLong? = some text ∧
      refusal = .stringTooLong (Utf8.encode text).length := by
  rw [encode_eq_map, Wire.bind_pure_eq_error_iff, Wire.mapM_string_eq_error_iff]
  rfl

/-- A report can be written if none of its texts is too long. -/
theorem exists_encode_iff : (∃ bytes, error.encode = .ok bytes) ↔
    ∀ text ∈ error.texts, (Utf8.encode text).length ≤ 65535 := by
  have hnone : (∃ bytes, error.encode = .ok bytes) ↔ error.firstTooLong? = none := by
    cases hfirst : error.firstTooLong? with
    | none =>
      refine iff_of_true ?_ rfl
      cases hencode : error.encode with
      | ok bytes => exact ⟨bytes, rfl⟩
      | error refusal =>
        obtain ⟨text, htext, -⟩ := encode_eq_error_iff.1 hencode
        cases hfirst.symm.trans htext
    | some text =>
      have hrefused := encode_eq_error_iff.2 ⟨text, hfirst, rfl⟩
      refine iff_of_false ?_ nofun
      rintro ⟨bytes, hencode⟩
      cases hencode.symm.trans hrefused
  rw [hnone, firstTooLong?, List.find?_eq_none]
  simp only [decide_eq_true_eq, Nat.not_lt]

/-! ## Reading -/

/-- The two addresses of a report stand in front of its texts. -/
theorem obeys_addresses {next : Address → Address → Read VmError}
    {grammar : Address → Address → VmError → List UInt8 → Prop}
    (h : ∀ template app, (next template app).Obeys (grammar template app)) :
    (Read.octets 20 >>= fun template => Read.octets 20 >>= fun app => next template app).Obeys
      fun error word => ∃ template app last, grammar template app error last ∧
        word = template.toList ++ app.toList ++ last := by
  refine ((Read.obeys_octets 20).bind fun template =>
    (Read.obeys_octets 20).bind fun app => h template app).mono fun error word => ⟨?_, ?_⟩
  · rintro ⟨template, _, _, rfl, ⟨app, _, last, rfl, hlast, rfl⟩, rfl⟩
    exact ⟨template, app, last, hlast, (List.append_assoc ..).symm⟩
  · rintro ⟨template, app, last, hlast, rfl⟩
    exact ⟨template, _, _, rfl, ⟨app, _, last, rfl, hlast, rfl⟩, List.append_assoc ..⟩

/-- Two addresses and a text are what is written behind the tag of a report that has just these. -/
theorem spelled_named {make : Address → Address → String → VmError}
    (hencode : ∀ template app text, (make template app text).encode = (Wire.string 2 text >>=
      fun word => pure (kind :: (template.toList ++ app.toList ++ word))))
    (h : (Read.octets 20 >>= fun template => Read.octets 20 >>= fun app => Read.string >>=
      fun text => pure (make template app text)) reader = .ok (error, after)) :
    ∃ word, error.encode = .ok (kind :: word) ∧ reader.rest = word ++ after.rest ∧
      after.position = reader.position + word.length := by
  obtain ⟨_, ⟨template, app, last, ⟨text, htext, rfl⟩, rfl⟩, hrest⟩ :=
    (obeys_addresses fun template app =>
      Read.obeys_string.bind_pure (make template app)).spelled h
  refine ⟨_, ?_, hrest⟩
  rw [hencode, htext]
  rfl

/-- The fields that are read behind a tag are those that are written behind it. -/
theorem spelled_readFields (h : readFields kind reader = .ok (error, after)) :
    ∃ word, error.encode = .ok (kind :: word) ∧ reader.rest = word ++ after.rest ∧
      after.position = reader.position + word.length := by
  unfold readFields at h
  split at h
  case h_1 =>
    cases h
    exact ⟨[], rfl, rfl, rfl⟩
  case h_2 =>
    obtain ⟨_, ⟨template, rfl, rfl⟩, hrest⟩ :=
      ((Read.obeys_octets 20).bind_pure templateNotFound).spelled h
    exact ⟨_, rfl, hrest⟩
  case h_3 =>
    obtain ⟨_, ⟨app, rfl, rfl⟩, hrest⟩ :=
      ((Read.obeys_octets 20).bind_pure appNotFound).spelled h
    exact ⟨_, rfl, hrest⟩
  case h_4 => exact spelled_named (fun _ _ _ => rfl) h
  case h_5 => exact spelled_named (fun _ _ _ => rfl) h
  case h_6 => exact spelled_named (fun _ _ _ => rfl) h
  case h_7 =>
    obtain ⟨_, ⟨template, app, _, ⟨function, first, _, hfunction, ⟨reason, hreason, rfl⟩, rfl⟩,
      rfl⟩, hrest⟩ := (obeys_addresses fun template app => Read.obeys_string.bind fun function =>
        Read.obeys_string.bind_pure (functionFailed template app function)).spelled h
    refine ⟨_, ?_, hrest⟩
    rw [encode, hfunction, hreason, ← List.append_assoc]
    rfl
  case h_8 =>
    obtain ⟨_, ⟨reason, hreason, rfl⟩, hrest⟩ :=
      (Read.obeys_string.bind_pure other).spelled h
    refine ⟨_, ?_, hrest⟩
    rw [encode, hreason]
    rfl
  case h_9 => cases h

/-- What is read as a report is just what is written of it. -/
theorem obeys_read : VmError.read.Obeys fun error word => error.encode = .ok word where
  finds := finds_read
  spelled := by
    intro error reader after h
    obtain ⟨kind, between, hkind, hfields⟩ := Read.exists_of_bind_eq_ok h
    obtain ⟨_, rfl, hrest, hposition⟩ := Read.obeys_u8.spelled hkind
    obtain ⟨word, hencode, hrest', hposition'⟩ := spelled_readFields hfields
    refine ⟨kind :: word, hencode, ?_, ?_⟩
    · rw [hrest, hrest']
      rfl
    · rw [hposition', hposition, Nat.add_assoc, ← List.length_append]
      rfl

/-! ## What bytes tell -/

/-- Bytes that no report has are a message. -/
theorem decode_of_not_written (h : ∀ error : VmError, error.encode ≠ .ok bytes) :
    decode bytes = .other (Utf8.decodeLossy bytes) := by
  unfold decode
  cases hread : read.all bytes with
  | ok error => exact absurd (obeys_read.all_eq_ok_iff.1 hread) (h error)
  | error error => rfl

/-- What is told of bytes that are no message is written as just these bytes. -/
theorem encode_decode (h : ∀ reason, decode bytes ≠ .other reason) :
    (decode bytes).encode = .ok bytes := by
  by_cases hwritten : ∃ error : VmError, error.encode = .ok bytes
  · obtain ⟨error, hencode⟩ := hwritten
    rwa [decode_of_encode hencode]
  · exact absurd (decode_of_not_written (not_exists.1 hwritten)) (h _)

/-- **Reports have one form, and all else is a message.** A report can be written unless one of its
texts is too long, and the first of these is what it is refused for. It is read back as it was,
plain messages with a tag of their own included. Bytes that no report has are taken for the text
they spell, whole and with stand-ins for what is ill formed. So two reports never share their
bytes, and whatever is told but a message is written as the bytes it was told by. -/
theorem reports_canonical :
    (∀ error : VmError, (∃ bytes, error.encode = .ok bytes) ↔
      ∀ text ∈ error.texts, (Utf8.encode text).length ≤ 65535) ∧
    (∀ (error : VmError) refusal, error.encode = .error refusal ↔
      ∃ text, error.firstTooLong? = some text ∧
        refusal = .stringTooLong (Utf8.encode text).length) ∧
    (∀ (error : VmError) bytes, error.encode = .ok bytes → decode bytes = error) ∧
    (∀ bytes, (∀ error : VmError, error.encode ≠ .ok bytes) →
      decode bytes = .other (Utf8.decodeLossy bytes)) ∧
    (∀ bytes text, Utf8.decode? bytes = some text →
      Utf8.encode text = bytes ∧ Utf8.decodeLossy bytes = text) ∧
    (∀ (error other : VmError) bytes, error.encode = .ok bytes → other.encode = .ok bytes →
      error = other) ∧
    (∀ bytes, (∀ reason, decode bytes ≠ .other reason) →
      (decode bytes).encode = .ok bytes) := by
  refine ⟨fun _ => exists_encode_iff, fun _ _ => encode_eq_error_iff, fun _ _ => decode_of_encode,
    fun _ => decode_of_not_written, ?_, ?_, fun _ => encode_decode⟩
  · intro bytes text htext
    obtain rfl := Utf8.decode?_eq_some_iff.1 htext
    exact ⟨rfl, Utf8.decodeLossy_encode text⟩
  · intro error other bytes herror hother
    rw [← decode_of_encode herror, decode_of_encode hother]

end HostBridge.VmError
