import HostBridge.Proofs.Receipt.RoundTrip

/-!
# The normal form of a receipt

A receipt may be read from many byte strings: any byte but zero says that it succeeded, no logs may
be counted, anything may stand behind the header of an app that failed, and there are two layouts.
What can be read can be written, for lengths and counts were read from as many bytes as they are
written to. So each of these byte strings has a normal form, which holds the same receipt and is no
longer, but for the version and the gas that the compact layout spares (`encode_normal`).
-/

namespace HostBridge.Receipt

variable {layout : Layout} {bytes word : List UInt8} {logs : List (List UInt8)}
  {receipt : Receipt} {header : Header} {kind : TransactionKind}

/-! ## Pieces -/

/-- A piece is what is written of its bytes. -/
theorem bytes16_of_piece (h : Piece bytes word) : Wire.bytes16 bytes = .ok word := by
  cases h with
  | @mk high low _ hvalue =>
    have hlt : BigEndian.ofBytes [high, low] < BigEndian.capacity 2 :=
      BigEndian.ofBytes_lt [high, low]
    have hlength : BigEndian.toBytes 2 bytes.length = [high, low] := by
      rw [← hvalue]
      exact BigEndian.toBytes_ofBytes [high, low]
    refine Wire.bytes16_eq_ok_iff.2 ⟨Nat.le_of_lt_succ (hvalue ▸ hlt), ?_⟩
    rw [Wire.prefixed, hlength]
    rfl

/-! ## Fields -/

/-- Gas has the width of its layout. -/
theorem GasWord.length_eq {gas : UInt64} (h : GasWord layout gas word) :
    word.length = layout.gasWidth := by
  cases h with
  | binary hlength _ => exact hlength
  | compact hlength _ => exact hlength

/-- Logs are written as they were read, but for a count of none. -/
theorem exists_encodeLogs (h : LogsWord logs word) :
    ∃ normal, encodeLogs logs = .ok normal ∧ normal.length ≤ word.length := by
  by_cases hlogs : logs = []
  · subst hlogs
    exact ⟨[], rfl, Nat.zero_le _⟩
  · cases h with
    | none => exact absurd rfl hlogs
    | @counted count _ body hcount hrow =>
      obtain ⟨words, hwords, rfl⟩ := Wire.exists_mapM_of_row (hrow.mono fun _ _ => bytes16_of_piece)
      have hle : logs.length ≤ 255 := hcount ▸ Nat.le_of_lt_succ count.toNat_lt
      refine ⟨UInt8.ofNat logs.length :: words.flatten, ?_, Nat.le_refl _⟩
      rw [encodeLogs_of_ne_nil hlogs, if_pos hle, hwords]
      rfl

/-- A result is written in no more bytes than it was read from, but for those of the gas. -/
theorem exists_encodeResult {result : Result} (h : ResultWord layout result word) :
    ∃ normal, encodeResult result = .ok normal ∧
      normal.length + layout.gasWidth ≤ word.length + 8 := by
  cases h with
  | @mk state returnData dataWord gasWord logsWord gas logs hdata hgas hlogs =>
    obtain ⟨normal, hnormal, hle⟩ := exists_encodeLogs hlogs
    refine ⟨state.toList ++ dataWord ++ (Wire.Field.u64 gas).bytes ++ normal, ?_, ?_⟩
    · simp only [encodeResult, bytes16_of_piece hdata, hnormal]
      rfl
    · have hgas := hgas.length_eq
      simp only [List.length_append, Wire.Field.bytes, BigEndian.length_toBytes]
      omega

/-! ## Receipts -/

/-- What stands behind a header tells the kind. -/
theorem BodyWord.kind_eq (h : BodyWord layout header kind receipt word) : receipt.kind = kind := by
  cases h <;> rfl

/-- Of an app that failed nothing is written but the header. -/
theorem exists_encodeBody (h : BodyWord layout header kind receipt word) :
    ∃ normal, receipt.encodeBody = .ok normal ∧
      normal.length + layout.gasWidth ≤ word.length + 8 := by
  have hgasWidth : layout.gasWidth ≤ 8 := by
    cases layout <;> decide
  cases h with
  | @deploy template gas logs gasWord logsWord hgas hlogs =>
    obtain ⟨normal, hnormal, hle⟩ := exists_encodeLogs hlogs
    refine ⟨template.toList ++ (Wire.Field.u64 gas).bytes ++ normal, ?_, ?_⟩
    · simp only [encodeBody, hnormal]
      rfl
    · have hgas := hgas.length_eq
      simp only [List.length_append, Wire.Field.bytes, BigEndian.length_toBytes]
      omega
  | @spawn app result word hsuccess hresult =>
    obtain ⟨normal, hnormal, hle⟩ := exists_encodeResult hresult
    refine ⟨app.toList ++ normal, ?_, ?_⟩
    · simp only [encodeBody, hsuccess, if_true, hnormal]
      rfl
    · simp only [List.length_append]
      omega
  | exec hsuccess hresult =>
    obtain ⟨normal, hnormal, hle⟩ := exists_encodeResult hresult
    refine ⟨normal, ?_, hle⟩
    simp only [encodeBody, hsuccess, if_true, hnormal]
  | spawnFailed hfailed | execFailed hfailed =>
    refine ⟨[], ?_, ?_⟩
    · simp [encodeBody, hfailed]
    · rw [List.length_nil]
      omega

/-- What was read is all that is written. -/
theorem BodyWord.written_eq (h : BodyWord layout header kind receipt word) :
    receipt.written = receipt := by
  cases h with
  | deploy => rfl
  | spawn hsuccess | exec hsuccess => simp [written, hsuccess]
  | spawnFailed hfailed | execFailed hfailed => simp [written, hfailed, Result.empty]

/-- The first byte of a header tells the kind. -/
theorem HeaderWord.head?_eq (h : HeaderWord layout kind header word) :
    word.head? = some kind.tag := by
  cases h <;> rfl

/-- **What was read can be written, and nothing of it is lost.** The kind of the receipt is the one
that its first byte stands for. Written again, it is read as the same receipt, from no more bytes
than before; the compact layout may have had six fewer, for its version and its gas. -/
theorem encode_normal (h : decode layout bytes = .ok receipt) :
    bytes.head? = some receipt.kind.tag ∧
    ∃ normal, receipt.encode = .ok normal ∧ decode .binary normal = .ok receipt ∧
      (layout = .binary → normal.length ≤ bytes.length) ∧
      (layout = .compact → normal.length ≤ bytes.length + 6) := by
  cases decode_eq_ok_iff.1 h with
  | @mk kind header _ head body hhead hbody =>
    obtain ⟨normal, hnormal, hle⟩ := exists_encodeBody hbody
    have hencode : receipt.encode =
        .ok (Wire.write (headerFields receipt.kind receipt.header) ++ normal) := by
      rw [encode, hnormal]
      rfl
    have hdecode := decode_of_encode hencode
    rw [hbody.written_eq] at hdecode
    have hfour : (Wire.write (headerFields receipt.kind receipt.header)).length = 4 :=
      (headerWord_write ..).length_eq
    have hhead' := hhead.length_eq
    refine ⟨?_, _, hencode, hdecode, ?_, ?_⟩
    · rw [hbody.kind_eq, List.head?_append, hhead.head?_eq]
      rfl
    · rintro rfl
      simp only [List.length_append, Layout.headerWidth, Layout.gasWidth] at *
      omega
    · rintro rfl
      simp only [List.length_append, Layout.headerWidth, Layout.gasWidth] at *
      omega

/-- An execution in the compact layout, with an unusual byte for its success and a count of no
logs. -/
theorem normal_of_compact_exec :
    decode .compact ([2, 7] ++ (.zero : StateRoot).toList ++ [0, 1, 0x20, 0, 0, 0, 10, 0]) =
      .ok (.exec ⟨⟨0, true⟩, ⟨.zero, [0x20], 10, []⟩⟩) ∧
    ∃ normal, (exec ⟨⟨0, true⟩, ⟨.zero, [0x20], 10, []⟩⟩).encode = .ok normal ∧
      decode .binary normal = .ok (.exec ⟨⟨0, true⟩, ⟨.zero, [0x20], 10, []⟩⟩) ∧
      normal.length ≤ 48 := by
  have hdecode :
      decode .compact ([2, 7] ++ (.zero : StateRoot).toList ++ [0, 1, 0x20, 0, 0, 0, 10, 0]) =
        .ok (.exec ⟨⟨0, true⟩, ⟨.zero, [0x20], 10, []⟩⟩) := rfl
  obtain ⟨-, normal, hencode, hnormal, -, hlength⟩ := encode_normal hdecode
  exact ⟨hdecode, normal, hencode, hnormal, hlength rfl⟩

end HostBridge.Receipt
