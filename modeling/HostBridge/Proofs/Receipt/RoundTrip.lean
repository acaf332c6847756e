import HostBridge.Proofs.Receipt.Grammar
import HostBridge.Proofs.Receipt.Limits

/-!
# Receipts read back

What is written of a receipt is spelled by the grammar (`spells_of_encode`), so it is read back as
it was (`written_read_back`). Of a spawn or an execution that failed nothing but the header is
written, so what such an app would have left behind is lost (`Receipt.written`).
-/

namespace HostBridge.Receipt

/-- What is written of a receipt. -/
def written : Receipt → Receipt
  | .deploy receipt => .deploy receipt
  | .spawn receipt =>
    if receipt.header.success then .spawn receipt else .spawn ⟨receipt.header, .zero, .empty⟩
  | .exec receipt =>
    if receipt.header.success then .exec receipt else .exec ⟨receipt.header, .empty⟩

@[simp] theorem kind_written (receipt : Receipt) : receipt.written.kind = receipt.kind := by
  cases receipt with
  | deploy receipt => rfl
  | spawn receipt => simp only [written]; split <;> rfl
  | exec receipt => simp only [written]; split <;> rfl

/-- Where more than the header is written, all of the receipt is. -/
theorem written_of_not_headerAlone {receipt : Receipt} (h : ¬ receipt.HeaderAlone) :
    receipt.written = receipt := by
  cases receipt with
  | deploy receipt => rfl
  | spawn receipt => exact if_pos (eq_true_of_ne_false h)
  | exec receipt => exact if_pos (eq_true_of_ne_false h)

/-! ## Words that are written -/

variable {bytes word : List UInt8} {logs : List (List UInt8)} {receipt : Receipt}

/-- A header that is written is a header. -/
theorem headerWord_write (kind : TransactionKind) (header : Header) :
    HeaderWord .binary kind header (Wire.write (headerFields kind header)) := by
  obtain ⟨version, success⟩ := header
  obtain ⟨high, low, hbytes, hversion⟩ := BigEndian.exists_toBytes_two version.toNat_lt
  have hword : Wire.write (headerFields kind ⟨version, success⟩) =
      [kind.tag, high, low, if success then 1 else 0] := by
    simp [headerFields, Wire.write, Wire.Field.bytes, hbytes]
  have hsuccess : ((if success then 1 else 0 : UInt8) != 0) = success := by
    cases success <;> rfl
  have hheader : HeaderWord .binary kind ⟨version, (if success then 1 else 0 : UInt8) != 0⟩
      [kind.tag, high, low, if success then 1 else 0] := .binary hversion
  rwa [hsuccess, ← hword] at hheader

/-- Bytes behind their length are a piece. -/
theorem piece_of_bytes16 (h : Wire.bytes16 bytes = .ok word) : Piece bytes word := by
  obtain ⟨hle, rfl⟩ := Wire.bytes16_eq_ok_iff.1 h
  obtain ⟨high, low, hlength, hvalue⟩ := BigEndian.exists_toBytes_two (Nat.lt_succ_of_le hle)
  rw [Wire.prefixed, hlength]
  exact .mk hvalue

/-- Gas that is written is the gas. -/
theorem gasWord_bytes (gas : UInt64) : GasWord .binary gas (Wire.Field.u64 gas).bytes :=
  .binary (BigEndian.length_toBytes ..) (BigEndian.ofBytes_toBytes_of_lt gas.toNat_lt)

/-- Logs that are written are a row of pieces. -/
theorem row_of_mapM {words : List (List UInt8)} (h : logs.mapM Wire.bytes16 = .ok words) :
    Row Piece logs words.flatten :=
  (Wire.row_of_mapM_eq_ok h).mono fun _ _ => piece_of_bytes16

/-- No logs are no bytes; the others are counted. -/
theorem logsWord_of_encode (h : encodeLogs logs = .ok word) : LogsWord logs word := by
  by_cases hlogs : logs = []
  · subst hlogs
    cases h
    exact .none
  · rw [encodeLogs_of_ne_nil hlogs, Wire.ite_eq_ok_iff] at h
    obtain ⟨hcount, h⟩ := h
    obtain ⟨words, hwords, ⟨⟩⟩ := Wire.exists_of_bind_eq_ok h
    exact .counted (UInt8.toNat_ofNat_of_lt' (Nat.lt_succ_of_le hcount)).symm (row_of_mapM hwords)

/-- What running an app left behind is written as what is read. -/
theorem resultWord_of_encode {result : Result} (h : encodeResult result = .ok word) :
    ResultWord .binary result word := by
  obtain ⟨returnData, hdata, h⟩ := Wire.exists_of_bind_eq_ok h
  obtain ⟨logs, hlogs, ⟨⟩⟩ := Wire.exists_of_bind_eq_ok h
  rw [List.append_assoc, List.append_assoc]
  exact .mk (piece_of_bytes16 hdata) (gasWord_bytes _) (logsWord_of_encode hlogs)

/-- What stands behind a header is written as what is read. -/
theorem bodyWord_of_encode (h : receipt.encodeBody = .ok word) :
    BodyWord .binary receipt.header receipt.kind receipt.written word := by
  cases receipt with
  | deploy receipt =>
    obtain ⟨logs, hlogs, ⟨⟩⟩ := Wire.exists_of_bind_eq_ok h
    rw [List.append_assoc]
    exact .deploy (gasWord_bytes _) (logsWord_of_encode hlogs)
  | spawn receipt =>
    obtain ⟨⟨version, success⟩, app, result⟩ := receipt
    cases success with
    | false => exact .spawnFailed rfl
    | true =>
      obtain ⟨body, hbody, ⟨⟩⟩ := Wire.exists_of_bind_eq_ok h
      exact .spawn rfl (resultWord_of_encode hbody)
  | exec receipt =>
    obtain ⟨⟨version, success⟩, result⟩ := receipt
    cases success with
    | false => exact .execFailed rfl
    | true => exact .exec rfl (resultWord_of_encode h)

/-! ## Receipts -/

/-- What is written of a receipt is spelled by its bytes. -/
theorem spells_of_encode (h : receipt.encode = .ok bytes) :
    Spells .binary receipt.written bytes := by
  obtain ⟨body, hbody, ⟨⟩⟩ := Wire.exists_of_bind_eq_ok h
  exact .mk (headerWord_write receipt.kind receipt.header) (bodyWord_of_encode hbody)

/-- A receipt that was written is read back, as much of it as is written. -/
theorem decode_of_encode (h : receipt.encode = .ok bytes) :
    decode .binary bytes = .ok receipt.written := decode_eq_ok_iff.2 (spells_of_encode h)

/-- A receipt is found to be of its kind. -/
theorem decodeOf_of_encode (h : receipt.encode = .ok bytes) :
    decodeOf receipt.kind .binary bytes = .ok receipt.written :=
  decodeOf_eq_ok_iff.2 ⟨decode_of_encode h, receipt.kind_written⟩

/-! ## Receipts that can be written -/

/-- Without logs, only return data can be too long. -/
theorem Fits.of_logs_eq_nil (hlogs : receipt.logs = [])
    (hdata : ∀ data, receipt.returnData? = some data → data.length ≤ 65535) : receipt.Fits := by
  refine ⟨hdata, ?_⟩
  rw [hlogs]
  exact ⟨Nat.zero_le _, fun _ hmem => nomatch hmem⟩

/-- The receipt of a deployment without logs can be written. -/
theorem exists_encode_deploy (deployed : DeployReceipt) (hlogs : deployed.logs = []) :
    ∃ bytes, (deploy deployed).encode = .ok bytes :=
  exists_encode_iff.2 (.inr (.of_logs_eq_nil hlogs nofun))

/-- The receipt of an execution without logs can be written if the return data is not too long. -/
theorem exists_encode_exec (version : UInt16) (result : Result)
    (hdata : result.returnData.length ≤ 65535) (hlogs : result.logs = []) :
    ∃ bytes, (exec ⟨⟨version, true⟩, result⟩).encode = .ok bytes := by
  refine exists_encode_iff.2 (.inr (.of_logs_eq_nil hlogs ?_))
  rintro _ ⟨⟩
  exact hdata

/-- The receipt of a spawn can be written if its return data are not too long and there are no logs.
-/
theorem exists_encode_spawn (version : UInt16) (app : Address) (result : Result)
    (hdata : result.returnData.length ≤ 65535) (hlogs : result.logs = []) :
    ∃ bytes, (spawn ⟨⟨version, true⟩, app, result⟩).encode = .ok bytes := by
  refine exists_encode_iff.2 (.inr (.of_logs_eq_nil hlogs ?_))
  rintro _ ⟨⟩
  exact hdata

/-- **A receipt is read back as it was written.** It is written exactly if it fits or is a header
alone, and otherwise the first part that does not fit is reported. What is read back is the
receipt itself, but for a header alone: then all that would stand behind it is zero or empty. -/
theorem written_read_back (receipt : Receipt) :
    ((∃ bytes, receipt.encode = .ok bytes) ↔ receipt.HeaderAlone ∨ receipt.Fits) ∧
    (∀ error, receipt.encode = .error error ↔ ¬ receipt.HeaderAlone ∧ Overflow receipt error) ∧
    (∀ bytes, receipt.encode = .ok bytes → decode .binary bytes = .ok receipt.written) ∧
    (¬ receipt.HeaderAlone → receipt.written = receipt) :=
  ⟨exists_encode_iff, fun _ => encode_eq_error_iff, fun _ => decode_of_encode,
    written_of_not_headerAlone⟩

end HostBridge.Receipt
