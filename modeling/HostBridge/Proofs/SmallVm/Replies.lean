import HostBridge.Proofs.Calldata.RoundTrip
import HostBridge.Proofs.Receipt.RoundTrip
import HostBridge.Proofs.Session.Turn
import HostBridge.Proofs.Vm.Report

/-!
# What the small VM replies

What a caller is told when the small VM reports an error, refuses with a message, or hands out a
receipt: just that (`told_report`, `told_refuseText`, `told_handOut`), unless it cannot be written.
-/

namespace HostBridge.SmallVm

variable {kind : TransactionKind} {transaction : List UInt8} {address : Address}
  {gasMetering : Bool} {gasLimit : UInt64} {bytes : List UInt8}

/-- Bytes in an out-buffer are there, if there are any. -/
theorem getD_outBuffer (bytes : List UInt8) : (Vm.outBuffer bytes).getD [] = bytes := by
  unfold Vm.outBuffer
  split
  · next h => exact (List.isEmpty_iff.1 h).symm
  · rfl

/-- A refusal reaches the caller as the report that its bytes are. -/
theorem told_refuse (bytes : List UInt8) :
    (Request.run kind transaction address gasMetering gasLimit).told (refuse bytes) =
      .error (.vm (.run kind) (VmError.decode bytes)) := by
  simp [Request.told, refuse, getD_outBuffer]

/-- A report that can be written reaches the caller. -/
theorem told_report {error : VmError} (h : error.encode = .ok bytes) :
    (Request.run kind transaction address gasMetering gasLimit).told (report error) =
      .error (.vm (.run kind) error) := by
  rw [report, h]
  exact (told_refuse bytes).trans (by rw [VmError.decode_of_encode h])

/-- A message in letters reaches the caller. -/
theorem told_refuseText {text : String} {tag : UInt8} {rest : List UInt8}
    (htext : Utf8.encode text = tag :: rest) (h : 8 ≤ tag) :
    (Request.run kind transaction address gasMetering gasLimit).told (refuseText text) =
      .error (.vm (.run kind) (.other text)) := by
  rw [refuseText, told_refuse, VmError.decode_encode_text htext h]

/-- Of a report that cannot be written the caller learns just that. -/
theorem told_report_of_error {error : VmError} {reason : EncodeError}
    (h : error.encode = .error reason) :
    (Request.run kind transaction address gasMetering gasLimit).told (report error) =
      .error (.vm (.run kind) (.other "unencodable error")) := by
  have htext :
      Utf8.encode "unencodable error" = 0x75 :: (Utf8.encode "unencodable error").tail := by
    decide
  rw [report, h]
  exact told_refuseText htext (by decide)

/-- What is said about too many items names their count and the limit. -/
theorem message_tooManyItems (count max : Nat) : (EncodeError.tooManyItems count max).message =
    "too many calldata items: " ++ toString count ++ " (max " ++ toString max ++ ")" := rfl

/-- The message that there are too many items reaches the caller. -/
theorem told_tooManyItems (count max : Nat) :
    (Request.run kind transaction address gasMetering gasLimit).told
        (refuseText (EncodeError.tooManyItems count max).message) =
      .error (.vm (.run kind) (.other (EncodeError.tooManyItems count max).message)) := by
  obtain ⟨rest, htext⟩ : ∃ rest,
      Utf8.encode (EncodeError.tooManyItems count max).message = 0x74 :: rest := by
    rw [message_tooManyItems, String.append_assoc, String.append_assoc, String.append_assoc,
      Utf8.encode_append]
    exact ⟨_, rfl⟩
  exact told_refuseText htext (by decide)

/-- A receipt that can be written reaches the caller. -/
theorem told_handOut {receipt : Receipt} (h : receipt.encode = .ok bytes) :
    (Request.run receipt.kind transaction address gasMetering gasLimit).told (handOut receipt) =
      .ok (some receipt.written) := by
  rw [handOut, h]
  simp only [Request.told, getD_outBuffer, Receipt.decodeOf_of_encode h]
  rfl

end HostBridge.SmallVm
