import HostBridge.Proofs.Wire.Reading
import HostBridge.Receipt.Writer

/-!
# What fits into a receipt

Return data and logs stand behind lengths of two bytes, the logs behind a count of one. A receipt
whose parts are longer cannot be written, and of several such parts the first one in the order of
the bytes is reported (`encode_eq_error_iff`). Of a spawn or an execution that failed nothing but
the header is written, so it always fits (`exists_encode_iff`).
-/

namespace HostBridge.Receipt

/-! ## What fits and what does not -/

/-- Whether nothing but the header is written: the receipt of a spawn or an execution that
failed. -/
def HeaderAlone : Receipt → Prop
  | .deploy _ => False
  | .spawn receipt => receipt.header.success = false
  | .exec receipt => receipt.header.success = false

/-- What the transaction returned. A deployment returns nothing. -/
def returnData? : Receipt → Option (List UInt8)
  | .deploy _ => none
  | .spawn receipt => some receipt.result.returnData
  | .exec receipt => some receipt.result.returnData

/-- Logs that fit behind their count, each behind its length. -/
structure LogsFit (logs : List (List UInt8)) : Prop where
  count : logs.length ≤ 255
  entries : ∀ log ∈ logs, log.length ≤ 65535

/-- A receipt whose return data and logs fit behind their lengths and count. -/
structure Fits (receipt : Receipt) : Prop where
  returnData : ∀ data, receipt.returnData? = some data → data.length ≤ 65535
  logs : LogsFit receipt.logs

/-- The first log that does not fit behind its length. -/
inductive FirstTooLong : List (List UInt8) → List UInt8 → Prop where
  | here {log : List UInt8} {logs : List (List UInt8)} :
    65535 < log.length → FirstTooLong (log :: logs) log
  | behind {first log : List UInt8} {logs : List (List UInt8)} :
    first.length ≤ 65535 → FirstTooLong logs log → FirstTooLong (first :: logs) log

/-- Why logs cannot be written. Their count comes before the logs. -/
inductive LogsOverflow (logs : List (List UInt8)) : EncodeError → Prop where
  | count : 255 < logs.length → LogsOverflow logs (.tooManyItems logs.length 255)
  | entry {log : List UInt8} : logs.length ≤ 255 → FirstTooLong logs log →
    LogsOverflow logs (.bytesTooLong log.length 65535)

/-- Why a receipt cannot be written. The return data comes before the logs. -/
inductive Overflow (receipt : Receipt) : EncodeError → Prop where
  | returnData {data : List UInt8} : receipt.returnData? = some data → 65535 < data.length →
    Overflow receipt (.bytesTooLong data.length 65535)
  | logs {error : EncodeError} :
    (∀ data, receipt.returnData? = some data → data.length ≤ 65535) →
    LogsOverflow receipt.logs error → Overflow receipt error

variable {log data : List UInt8} {logs : List (List UInt8)} {receipt : Receipt}
  {error : EncodeError}

/-- The first log that is too long is one that is too long. -/
theorem FirstTooLong.exists_lt (h : FirstTooLong logs log) : ∃ log ∈ logs, 65535 < log.length := by
  induction h with
  | here hlt => exact ⟨_, .head _, hlt⟩
  | behind _ _ ih =>
    obtain ⟨log, hmem, hlt⟩ := ih
    exact ⟨log, .tail _ hmem, hlt⟩

/-- All logs fit behind their lengths, or one of them is the first that does not. -/
theorem fit_or_firstTooLong (logs : List (List UInt8)) :
    (∀ log ∈ logs, log.length ≤ 65535) ∨ ∃ log, FirstTooLong logs log := by
  induction logs with
  | nil => exact .inl fun _ hmem => nomatch hmem
  | cons first logs ih =>
    by_cases hfirst : first.length ≤ 65535
    · obtain hfit | ⟨log, hlong⟩ := ih
      · exact .inl (List.forall_mem_cons.2 ⟨hfirst, hfit⟩)
      · exact .inr ⟨log, .behind hfirst hlong⟩
    · exact .inr ⟨first, .here (Nat.lt_of_not_le hfirst)⟩

/-- Logs fit if there is nothing against it. -/
theorem logsFit_iff : LogsFit logs ↔ ∀ error, ¬ LogsOverflow logs error := by
  constructor
  · rintro ⟨hcount, hentries⟩ _ (hlt | ⟨-, hlong⟩)
    · exact Nat.not_le.2 hlt hcount
    · obtain ⟨log, hmem, hlt⟩ := hlong.exists_lt
      exact Nat.not_le.2 hlt (hentries log hmem)
  · intro hnone
    have hcount : logs.length ≤ 255 := Nat.le_of_not_lt fun hlt => hnone _ (.count hlt)
    obtain hfit | ⟨log, hlong⟩ := fit_or_firstTooLong logs
    · exact ⟨hcount, hfit⟩
    · exact absurd (.entry hcount hlong) (hnone _)

/-- A receipt fits if there is nothing against it. -/
theorem fits_iff : receipt.Fits ↔ ∀ error, ¬ Overflow receipt error := by
  constructor
  · rintro ⟨hdata, hlogs⟩ _ (⟨hsome, hlt⟩ | ⟨-, hover⟩)
    · exact Nat.not_le.2 hlt (hdata _ hsome)
    · exact logsFit_iff.1 hlogs _ hover
  · intro hnone
    have hdata : ∀ data, receipt.returnData? = some data → data.length ≤ 65535 :=
      fun data hsome => Nat.le_of_not_lt fun hlt => hnone _ (.returnData hsome hlt)
    exact ⟨hdata, logsFit_iff.2 fun error hover => hnone error (.logs hdata hover)⟩

/-- Where nothing is returned, only logs can be too long. -/
theorem overflow_iff_of_none (h : receipt.returnData? = none) :
    Overflow receipt error ↔ LogsOverflow receipt.logs error := by
  have hdata : ∀ data, receipt.returnData? = some data → data.length ≤ 65535 := by
    simp [h]
  constructor
  · rintro (⟨hsome, hlt⟩ | ⟨-, hover⟩)
    · exact absurd (hdata _ hsome) (Nat.not_le.2 hlt)
    · exact hover
  · exact .logs hdata

/-- Where there are return data, they are what may overflow first, and then the logs. -/
theorem overflow_iff_of_some (h : receipt.returnData? = some data) :
    Overflow receipt error ↔ 65535 < data.length ∧ error = .bytesTooLong data.length 65535 ∨
      data.length ≤ 65535 ∧ LogsOverflow receipt.logs error := by
  constructor
  · rintro (⟨hsome, hlt⟩ | ⟨hdata, hover⟩)
    · cases h.symm.trans hsome
      exact .inl ⟨hlt, rfl⟩
    · exact .inr ⟨hdata _ h, hover⟩
  · rintro (⟨hlt, rfl⟩ | ⟨hle, hover⟩)
    · exact .returnData h hlt
    · refine .logs (fun found hsome => ?_) hover
      cases h.symm.trans hsome
      exact hle

/-! ## What is written -/

/-- Logs are refused just for the first one that is too long. -/
theorem mapM_bytes16_eq_error_iff : logs.mapM Wire.bytes16 = .error error ↔
    ∃ log, FirstTooLong logs log ∧ error = .bytesTooLong log.length 65535 := by
  induction logs with
  | nil =>
    constructor
    · rintro ⟨⟩
    · rintro ⟨_, ⟨⟩, -⟩
  | cons first logs ih =>
    rw [List.mapM_cons, Wire.bind_eq_error_iff, Wire.bytes16_eq_error_iff]
    simp only [Wire.bind_pure_eq_error_iff, ih]
    constructor
    · rintro (⟨hlt, rfl⟩ | ⟨_, hfirst, log, hlong, rfl⟩)
      · exact ⟨first, .here hlt, rfl⟩
      · exact ⟨log, .behind (Wire.bytes16_eq_ok_iff.1 hfirst).1 hlong, rfl⟩
    · rintro ⟨log, hlt | ⟨hfirst, hlong⟩, rfl⟩
      · exact .inl ⟨hlt, rfl⟩
      · exact .inr ⟨_, Wire.bytes16_eq_ok_iff.2 ⟨hfirst, rfl⟩, log, hlong, rfl⟩

/-- Logs are written behind their count, where there are any. -/
theorem encodeLogs_of_ne_nil (h : logs ≠ []) : encodeLogs logs =
    if logs.length ≤ 255 then logs.mapM Wire.bytes16 >>= fun words =>
      pure (UInt8.ofNat logs.length :: words.flatten)
    else .error (.tooManyItems logs.length 255) :=
  if_neg (mt List.isEmpty_iff.1 h)

/-- Logs behind their count are refused just for what overflows first. -/
theorem encodeLogs_eq_error_iff : encodeLogs logs = .error error ↔ LogsOverflow logs error := by
  by_cases hlogs : logs = []
  · subst hlogs
    constructor
    · rintro ⟨⟩
    · rintro (⟨⟨⟩⟩ | ⟨-, ⟨⟩⟩)
  · rw [encodeLogs_of_ne_nil hlogs, Wire.ite_eq_error_iff, Wire.bind_pure_eq_error_iff,
      mapM_bytes16_eq_error_iff]
    constructor
    · rintro (⟨hcount, log, hlong, rfl⟩ | ⟨hcount, rfl⟩)
      · exact .entry hcount hlong
      · exact .count (Nat.lt_of_not_le hcount)
    · rintro (hlt | ⟨hcount, hlong⟩)
      · exact .inr ⟨Nat.not_le.2 hlt, rfl⟩
      · exact .inl ⟨hcount, _, hlong, rfl⟩

/-- What running an app left behind is refused for its return data, or else for its logs. -/
theorem encodeResult_eq_error_iff {result : Result} : encodeResult result = .error error ↔
    65535 < result.returnData.length ∧
      error = .bytesTooLong result.returnData.length 65535 ∨
    result.returnData.length ≤ 65535 ∧ LogsOverflow result.logs error := by
  unfold encodeResult
  rw [Wire.bind_eq_error_iff, Wire.bytes16_eq_error_iff]
  simp only [Wire.bind_pure_eq_error_iff, encodeLogs_eq_error_iff, Wire.bytes16_eq_ok_iff]
  constructor
  · rintro (htooLong | ⟨_, ⟨hle, rfl⟩, hover⟩)
    · exact .inl htooLong
    · exact .inr ⟨hle, hover⟩
  · rintro (htooLong | ⟨hle, hover⟩)
    · exact .inl htooLong
    · exact .inr ⟨_, ⟨hle, rfl⟩, hover⟩

/-- The header is written whatever it is; what stands behind it may not fit. -/
theorem encodeBody_eq_error_iff :
    receipt.encodeBody = .error error ↔ ¬ receipt.HeaderAlone ∧ Overflow receipt error := by
  cases receipt with
  | deploy receipt =>
    rw [encodeBody, Wire.bind_pure_eq_error_iff, encodeLogs_eq_error_iff,
      overflow_iff_of_none rfl]
    exact (and_iff_right not_false).symm
  | spawn receipt =>
    obtain ⟨⟨version, success⟩, app, result⟩ := receipt
    cases success with
    | false =>
      constructor
      · rintro ⟨⟩
      · exact fun h => absurd rfl h.1
    | true =>
      have hbody : (spawn ⟨⟨version, true⟩, app, result⟩).encodeBody =
          (encodeResult result >>= fun word => pure (app.toList ++ word)) := rfl
      rw [hbody, Wire.bind_pure_eq_error_iff, encodeResult_eq_error_iff,
        overflow_iff_of_some rfl]
      exact (and_iff_right nofun).symm
  | exec receipt =>
    obtain ⟨⟨version, success⟩, result⟩ := receipt
    cases success with
    | false =>
      constructor
      · rintro ⟨⟩
      · exact fun h => absurd rfl h.1
    | true =>
      have hbody : (exec ⟨⟨version, true⟩, result⟩).encodeBody = encodeResult result := rfl
      rw [hbody, encodeResult_eq_error_iff, overflow_iff_of_some rfl]
      exact (and_iff_right nofun).symm

/-- A receipt that does not fit is refused with the first reason. -/
theorem encode_eq_error_iff :
    receipt.encode = .error error ↔ ¬ receipt.HeaderAlone ∧ Overflow receipt error := by
  rw [encode, Wire.bind_pure_eq_error_iff, encodeBody_eq_error_iff]

/-- A receipt can be written if it is a header alone, or if it fits. -/
theorem exists_encode_iff :
    (∃ bytes, receipt.encode = .ok bytes) ↔ receipt.HeaderAlone ∨ receipt.Fits := by
  have hnone : (∃ bytes, receipt.encode = .ok bytes) ↔
      ∀ error, receipt.encode ≠ .error error := by
    cases receipt.encode <;> simp
  rw [hnone, fits_iff]
  simp only [ne_eq, encode_eq_error_iff, not_and]
  by_cases halone : receipt.HeaderAlone
  · simp [halone]
  · simp [halone]

end HostBridge.Receipt
