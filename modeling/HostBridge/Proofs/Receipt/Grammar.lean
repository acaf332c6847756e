import HostBridge.Proofs.Wire.Ending
import HostBridge.Receipt.Reader

/-!
# The grammar of receipts

What byte strings are receipts, told without a reader. A receipt is a header (`HeaderWord`) and
what stands behind it (`BodyWord`), which for a spawn or an execution that failed may be anything.
Logs come last, and no logs may be no bytes at all (`LogsWord`), so they are read to the end of the
bytes. `decode_grammar` says that the reader accepts the receipts of the grammar in either layout,
and that all it complains about are cut fields, unknown kinds and bytes that are left over.
-/

namespace HostBridge

namespace TransactionKind

variable {α : Type} {tag : UInt8} {f : TransactionKind → α}

/-- What is made of a tag is made of its kind. -/
theorem map_ofTag_eq_ok_iff {result : α} :
    (ofTag tag).map f = .ok result ↔ ∃ kind : TransactionKind, tag = kind.tag ∧ result = f kind := by
  constructor
  · intro h
    unfold ofTag at h
    split at h
    · next kind hfound =>
      cases h
      exact ⟨kind, (tag_of_ofTag? hfound).symm, rfl⟩
    · cases h
  · rintro ⟨kind, rfl, rfl⟩
    unfold ofTag
    rw [ofTag?_tag]
    rfl

/-- A byte that stands for no kind is greater than two. -/
theorem lt_of_ofTag?_eq_none (h : ofTag? tag = none) : 2 < tag := by
  grind [ofTag?]

/-- A byte that stands for no kind is reported. -/
theorem of_map_ofTag_eq_error {error : DecodeError} (h : (ofTag tag).map f = .error error) :
    error = .invalidTag tag ∧ 2 < tag := by
  unfold ofTag at h
  split at h
  · cases h
  · next hnone =>
    cases h
    exact ⟨rfl, lt_of_ofTag?_eq_none hnone⟩

end TransactionKind

namespace Receipt

/-! ## Words -/

/-- The header: the kind, in the binary layout a version of two bytes, and whether the transaction
succeeded, which any byte but zero says. The compact layout has no version. -/
inductive HeaderWord : Layout → TransactionKind → Header → List UInt8 → Prop where
  | binary {kind : TransactionKind} {version : UInt16} {high low success : UInt8} :
    BigEndian.ofBytes [high, low] = version.toNat →
    HeaderWord .binary kind ⟨version, success != 0⟩ [kind.tag, high, low, success]
  | compact {kind : TransactionKind} {success : UInt8} :
    HeaderWord .compact kind ⟨0, success != 0⟩ [kind.tag, success]

/-- Bytes behind their length in two bytes. -/
inductive Piece : List UInt8 → List UInt8 → Prop where
  | mk {high low : UInt8} {bytes : List UInt8} :
    BigEndian.ofBytes [high, low] = bytes.length → Piece bytes (high :: low :: bytes)

/-- The gas: eight bytes in the binary layout, four in the compact one. -/
inductive GasWord : Layout → UInt64 → List UInt8 → Prop where
  | binary {gas : UInt64} {word : List UInt8} :
    word.length = 8 → BigEndian.ofBytes word = gas.toNat → GasWord .binary gas word
  | compact {gas : UInt64} {word : List UInt8} :
    word.length = 4 → BigEndian.ofBytes word = gas.toNat → GasWord .compact gas word

/-- The logs: nothing at all, or a count in one byte and just as many pieces. -/
inductive LogsWord : List (List UInt8) → List UInt8 → Prop where
  | none : LogsWord [] []
  | counted {count : UInt8} {logs : List (List UInt8)} {body : List UInt8} :
    logs.length = count.toNat → Row Piece logs body → LogsWord logs (count :: body)

/-- What running an app left behind: the state, the return data, the gas and the logs. -/
inductive ResultWord (layout : Layout) : Result → List UInt8 → Prop where
  | mk {state : StateRoot} {returnData dataWord gasWord logsWord : List UInt8} {gas : UInt64}
    {logs : List (List UInt8)} :
    Piece returnData dataWord → GasWord layout gas gasWord → LogsWord logs logsWord →
    ResultWord layout ⟨state, returnData, gas, logs⟩
      (state.toList ++ (dataWord ++ (gasWord ++ logsWord)))

/-- What stands behind the header of a receipt of a kind. Behind that of an app that failed it may
be anything, and the receipt holds zeros and no bytes. -/
inductive BodyWord (layout : Layout) (header : Header) :
    TransactionKind → Receipt → List UInt8 → Prop where
  -- a deployment names its template and its gas whether it succeeded or not
  | deploy {template : Address} {gas : UInt64} {logs : List (List UInt8)}
    {gasWord logsWord : List UInt8} :
    GasWord layout gas gasWord → LogsWord logs logsWord →
    BodyWord layout header .deploy (.deploy ⟨header, template, gas, logs⟩)
      (template.toList ++ (gasWord ++ logsWord))
  | spawn {app : Address} {result : Result} {word : List UInt8} :
    header.success = true → ResultWord layout result word →
    BodyWord layout header .spawn (.spawn ⟨header, app, result⟩) (app.toList ++ word)
  | exec {result : Result} {word : List UInt8} :
    header.success = true → ResultWord layout result word →
    BodyWord layout header .exec (.exec ⟨header, result⟩) word
  | spawnFailed {ignored : List UInt8} :
    header.success = false →
    BodyWord layout header .spawn (.spawn ⟨header, .zero, ⟨.zero, [], 0, []⟩⟩) ignored
  | execFailed {ignored : List UInt8} :
    header.success = false →
    BodyWord layout header .exec (.exec ⟨header, ⟨.zero, [], 0, []⟩⟩) ignored

/-- The byte strings that are receipts in a layout, with what they spell. -/
inductive Spells (layout : Layout) : Receipt → List UInt8 → Prop where
  | mk {kind : TransactionKind} {header : Header} {receipt : Receipt} {head body : List UInt8} :
    HeaderWord layout kind header head → BodyWord layout header kind receipt body →
    Spells layout receipt (head ++ body)

/-- What can be wrong behind the header, where there are `total` bytes in all: a field is cut short,
though never the count of logs, or bytes are left over. -/
inductive BodyComplaint (total : Nat) : DecodeError → Prop where
  | truncated {field : Field} {expected given : Nat} :
    field ≠ .logCount → given < expected →
    BodyComplaint total (.truncatedReceipt field expected given)
  | trailing {consumed : Nat} :
    consumed < total → BodyComplaint total (.trailingBytes consumed total)

/-- What can be wrong with bytes that should be a receipt. The kind is looked at only where the
header is there. -/
inductive Complaint (layout : Layout) (bytes : List UInt8) : DecodeError → Prop where
  | body {error : DecodeError} :
    BodyComplaint bytes.length error → Complaint layout bytes error
  | unknownKind {tag : UInt8} {rest : List UInt8} :
    bytes = tag :: rest → 2 < tag → layout.headerWidth ≤ bytes.length →
    Complaint layout bytes (.invalidTag tag)

/-! ## Fields -/

variable {layout : Layout} {word : List UInt8}

/-- A field that is cut short is named. -/
theorem failsAs_within {α : Type} {read : Read α} {width : Nat} (h : read.Wants width)
    {field : Field} (hfield : field ≠ .logCount) : (read.within field).FailsAs BodyComplaint := by
  intro reader error hfail
  obtain ⟨rfl, hlt⟩ := h.within hfail
  exact .truncated hfield hlt

/-- In the binary layout a header is the kind, the version in two bytes, and whether it went well.
-/
theorem headerOfBytes_binary (tag high low success : UInt8) :
    Layout.binary.headerOfBytes [tag, high, low, success] = (TransactionKind.ofTag tag).map
      fun kind => (kind, ⟨UInt16.ofNat (BigEndian.ofBytes [high, low]), success != 0⟩) := by
  rfl

/-- In the compact layout a header has no version. -/
theorem headerOfBytes_compact (tag success : UInt8) :
    Layout.compact.headerOfBytes [tag, success] =
      (TransactionKind.ofTag tag).map fun kind => (kind, ⟨0, success != 0⟩) := by
  rfl

/-- The bytes of a header spell the header that the reader makes of them. -/
theorem headerOfBytes_eq_ok_iff {kind : TransactionKind} {header : Header}
    (hlength : word.length = layout.headerWidth) :
    layout.headerOfBytes word = .ok (kind, header) ↔ HeaderWord layout kind header word := by
  cases layout with
  | binary =>
    match word, hlength with
    | [tag, high, low, success], _ =>
      rw [headerOfBytes_binary, TransactionKind.map_ofTag_eq_ok_iff]
      constructor
      · rintro ⟨kind, rfl, ⟨⟩⟩
        exact .binary (UInt16.toNat_ofNat_of_lt' (BigEndian.ofBytes_lt [high, low])).symm
      · rintro ⟨hversion⟩
        exact ⟨kind, rfl, by rw [hversion, UInt16.ofNat_toNat]⟩
  | compact =>
    match word, hlength with
    | [tag, success], _ =>
      rw [headerOfBytes_compact, TransactionKind.map_ofTag_eq_ok_iff]
      constructor
      · rintro ⟨kind, rfl, ⟨⟩⟩
        exact .compact
      · rintro ⟨⟩
        exact ⟨kind, rfl, rfl⟩

/-- A whole header is refused only for its kind. -/
theorem exists_of_headerOfBytes_eq_error {error : DecodeError}
    (hlength : word.length = layout.headerWidth) (h : layout.headerOfBytes word = .error error) :
    ∃ tag rest, word = tag :: rest ∧ error = .invalidTag tag ∧ 2 < tag := by
  cases layout with
  | binary =>
    match word, hlength with
    | [tag, high, low, success], _ =>
      exact ⟨tag, _, rfl, TransactionKind.of_map_ofTag_eq_error h⟩
  | compact =>
    match word, hlength with
    | [tag, success], _ => exact ⟨tag, _, rfl, TransactionKind.of_map_ofTag_eq_error h⟩

/-- A header has the width of its layout. -/
theorem HeaderWord.length_eq {kind : TransactionKind} {header : Header}
    (h : HeaderWord layout kind header word) : word.length = layout.headerWidth := by
  cases h <;> rfl

/-- A header is read just where one stands. -/
theorem obeys_readHeader (layout : Layout) :
    (readHeader layout).Obeys fun found word => HeaderWord layout found.1 found.2 word := by
  have hbytes : ((Read.bytes layout.headerWidth).within .header).Obeys _ :=
    (Read.Obeys.bytes layout.headerWidth).within .header
  refine (hbytes.bind fun word => Read.Obeys.lift (layout.headerOfBytes word)).mono
    fun found word => ⟨?_, fun h => ?_⟩
  · rintro ⟨_, _, _, ⟨rfl, hlength⟩, ⟨hheader, rfl⟩, rfl⟩
    rw [List.append_nil]
    exact (headerOfBytes_eq_ok_iff hlength).1 hheader
  · exact ⟨word, word, [], ⟨rfl, h.length_eq⟩,
      ⟨(headerOfBytes_eq_ok_iff h.length_eq).2 h, rfl⟩, (List.append_nil word).symm⟩

/-- An address is read of its bytes. -/
theorem obeys_readAddress : readAddress.Obeys fun address word => word = address.toList :=
  (Read.obeys_octets 20).within .address

/-- A state is read of its bytes. -/
theorem obeys_readState : readState.Obeys fun state word => word = state.toList :=
  (Read.obeys_octets 32).within .state

/-- The reader of a piece: its length, then its bytes, within fields. -/
theorem obeys_piece (count field : Field) :
    (Read.u16.within count >>= fun length => (Read.bytes length.toNat).within field).Obeys
      Piece := by
  refine ((Read.obeys_u16.within count).bind fun length =>
    (Read.Obeys.bytes length.toNat).within field).mono fun bytes word => ⟨?_, ?_⟩
  · rintro ⟨length, _, _, rfl, ⟨rfl, hlength⟩, rfl⟩
    obtain ⟨high, low, hbytes, hvalue⟩ := BigEndian.exists_toBytes_two length.toNat_lt
    rw [hbytes]
    exact .mk (hvalue.trans hlength.symm)
  · rintro @⟨high, low, bytes, hvalue⟩
    have hlt : bytes.length < BigEndian.capacity 2 :=
      hvalue ▸ BigEndian.ofBytes_lt [high, low]
    have hlength : (UInt16.ofNat bytes.length).toNat = bytes.length :=
      UInt16.toNat_ofNat_of_lt' hlt
    refine ⟨UInt16.ofNat bytes.length, [high, low], bytes, ?_, ⟨rfl, hlength.symm⟩, rfl⟩
    rw [hlength, ← hvalue]
    exact (BigEndian.toBytes_ofBytes [high, low]).symm

/-- Of a piece behind its length, only missing bytes are complained about, in the field of either.
-/
theorem failsAs_piece {count field : Field} (hcount : count ≠ .logCount)
    (hfield : field ≠ .logCount) :
    (Read.u16.within count >>= fun length => (Read.bytes length.toNat).within field).FailsAs
      BodyComplaint :=
  .bind (Read.obeys_u16.within count) (failsAs_within Read.Wants.u16 hcount)
    fun length => failsAs_within (Read.Wants.bytes length.toNat) hfield

/-- Return data are read of a piece. -/
theorem obeys_readReturnData : readReturnData.Obeys Piece :=
  obeys_piece .returnDataLength .returnData

/-- Return data can only be missing. -/
theorem failsAs_readReturnData : readReturnData.FailsAs BodyComplaint :=
  failsAs_piece nofun nofun

/-- The gas is read of the digits of its layout. -/
theorem obeys_readGas (layout : Layout) : (readGas layout).Obeys (GasWord layout) := by
  refine (((Read.obeys_nat layout.gasWidth).within .gasUsed).bind_pure UInt64.ofNat).mono
    fun gas word => ⟨?_, ?_⟩
  · rintro ⟨_, ⟨hlength, rfl⟩, rfl⟩
    have hle : word.length ≤ 8 := by
      rw [hlength]
      cases layout <;> decide
    have hlt : BigEndian.ofBytes word < BigEndian.capacity 8 :=
      BigEndian.ofBytes_lt_of_length_le hle
    have hgas : BigEndian.ofBytes word = (UInt64.ofNat (BigEndian.ofBytes word)).toNat :=
      (UInt64.toNat_ofNat_of_lt' hlt).symm
    cases layout with
    | binary => exact .binary hlength hgas
    | compact => exact .compact hlength hgas
  · rintro (⟨hlength, hgas⟩ | ⟨hlength, hgas⟩) <;>
      exact ⟨_, ⟨hlength, rfl⟩, by rw [hgas, UInt64.ofNat_toNat]⟩

/-- The gas can only be missing. -/
theorem failsAs_readGas (layout : Layout) : (readGas layout).FailsAs BodyComplaint :=
  .bind ((Read.obeys_nat layout.gasWidth).within .gasUsed)
    (failsAs_within (Read.Wants.nat _) nofun) fun _ => .pure _

/-! ## Logs -/

/-- Logs are read of a row of pieces. -/
theorem obeys_readLogsFrom (index count : Nat) :
    (readLogsFrom index count).Obeys fun logs word =>
      logs.length = count ∧ Row Piece logs word := by
  induction count generalizing index with
  | zero =>
    refine (Read.Obeys.pure []).mono fun logs word => ⟨?_, ?_⟩
    · rintro ⟨rfl, rfl⟩
      exact ⟨rfl, .nil⟩
    · rintro ⟨hlength, hrow⟩
      obtain rfl := List.eq_nil_of_length_eq_zero hlength
      cases hrow
      exact ⟨rfl, rfl⟩
  | succ count ih =>
    refine ((obeys_piece (.log index) (.log index)).bind fun log =>
      (ih (index + 1)).bind_pure (log :: ·)).mono fun logs word => ⟨?_, ?_⟩
    · rintro ⟨log, first, _, hpiece, ⟨logs, ⟨rfl, hrow⟩, rfl⟩, rfl⟩
      exact ⟨rfl, .cons hpiece hrow⟩
    · rintro ⟨hlength, _ | ⟨hpiece, hrow⟩⟩
      · cases hlength
      · exact ⟨_, _, _, hpiece, ⟨_, ⟨Nat.succ.inj hlength, hrow⟩, rfl⟩, rfl⟩

/-- Logs can only be missing. -/
theorem failsAs_readLogsFrom (index count : Nat) :
    (readLogsFrom index count).FailsAs BodyComplaint := by
  induction count generalizing index with
  | zero => exact .pure []
  | succ count ih =>
    exact .bind (obeys_piece (.log index) (.log index)) (failsAs_piece nofun nofun) fun log =>
      .bind (obeys_readLogsFrom (index + 1) count) (ih (index + 1)) fun _ => .pure _

/-- Where there is a byte, it counts the logs. -/
theorem readLogs_cons (position : Nat) (count : UInt8) (rest : List UInt8) :
    readLogs ⟨position, count :: rest⟩ = readLogsFrom 0 count.toNat ⟨position + 1, rest⟩ := by
  have hcount : Read.u8.within .logCount ⟨position, count :: rest⟩ =
      .ok (count, ⟨position + 1, rest⟩) :=
    (Read.obeys_u8.finds rfl).within .logCount position rest
  have hread : readLogs ⟨position, count :: rest⟩ =
      (Read.u8.within .logCount >>= fun count => readLogsFrom 0 count.toNat)
        ⟨position, count :: rest⟩ := rfl
  rw [hread, Read.bind_of_ok hcount]

/-- Logs are read to the end of the bytes. The count is looked for only where there is a byte, so
it is never cut short. -/
theorem decides_logs {α : Type} (f : List (List UInt8) → α) :
    (readLogs >>= fun logs => Read.finish >>= fun _ => pure (f logs)).Decides
      (fun value bytes => ∃ logs, LogsWord logs bytes ∧ value = f logs) BodyComplaint := by
  have hfinish : ∀ logs, (Read.finish >>= fun _ => pure (f logs)).Decides
      (fun value bytes => value = f logs ∧ bytes = []) BodyComplaint :=
    fun logs => .finish (f logs) .trailing
  have hcounted : ∀ count : UInt8,
      (readLogsFrom 0 count.toNat >>= fun logs => Read.finish >>= fun _ => pure (f logs)).Decides
        _ BodyComplaint :=
    fun count => .bind (obeys_readLogsFrom 0 count.toNat) (failsAs_readLogsFrom 0 count.toNat)
      hfinish
  have hread : ∀ position count rest,
      (readLogs >>= fun logs => Read.finish >>= fun _ => pure (f logs))
        ⟨position, count :: rest⟩ =
      (readLogsFrom 0 count.toNat >>= fun logs => Read.finish >>= fun _ => pure (f logs))
        ⟨position + 1, rest⟩ := by
    intro position count rest
    change (readLogs _ >>= _) = _
    rw [readLogs_cons]
    rfl
  constructor
  · intro position bytes value
    cases bytes with
    | nil =>
      constructor
      · rintro ⟨after, h⟩
        cases h
        exact ⟨[], .none, rfl⟩
      · rintro ⟨logs, ⟨⟩, rfl⟩
        exact ⟨_, rfl⟩
    | cons count rest =>
      rw [hread, (hcounted count).accepts _ _ _]
      constructor
      · rintro ⟨logs, body, _, ⟨hlength, hrow⟩, ⟨rfl, rfl⟩, rfl⟩
        rw [List.append_nil]
        exact ⟨logs, .counted hlength hrow, rfl⟩
      · rintro ⟨logs, _ | ⟨hlength, hrow⟩, rfl⟩
        exact ⟨logs, rest, [], ⟨hlength, hrow⟩, ⟨rfl, rfl⟩, (List.append_nil rest).symm⟩
  · rintro ⟨position, bytes⟩ error h
    cases bytes with
    | nil => cases h
    | cons count rest =>
      rw [hread] at h
      have htotal : Reader.total ⟨position + 1, rest⟩ = Reader.total ⟨position, count :: rest⟩ :=
        Nat.add_right_comm position 1 rest.length
      exact htotal ▸ (hcounted count).complains _ _ h

/-! ## Receipts -/

/-- Where a result comes last, its logs are the last of it: its fields are read one after the
other, and the logs up to the end. -/
theorem readResult_finish {α : Type} (layout : Layout) (f : Result → α) :
    (readResult layout >>= fun result => Read.finish >>= fun _ => pure (f result)) =
      readState >>= fun state => readReturnData >>= fun returnData => readGas layout >>= fun gas =>
        readLogs >>= fun logs => Read.finish >>= fun _ =>
          pure (f ⟨state, returnData, gas, logs⟩) := by
  simp only [readResult, bind_assoc, pure_bind]

/-- Up to the end of the bytes, what running an app left behind is read just where it stands. -/
theorem decides_result {α : Type} (layout : Layout) (f : Result → α) :
    (readResult layout >>= fun result => Read.finish >>= fun _ => pure (f result)).Decides
      (fun value bytes => ∃ result, ResultWord layout result bytes ∧ value = f result)
      BodyComplaint := by
  rw [readResult_finish]
  refine (Read.Decides.bind obeys_readState (failsAs_within (Read.Wants.octets 32) nofun)
    fun state => .bind obeys_readReturnData failsAs_readReturnData
    fun returnData => .bind (obeys_readGas layout) (failsAs_readGas layout)
    fun gas => decides_logs _).mono fun value bytes => ⟨?_, ?_⟩
  · rintro ⟨state, _, _, rfl, ⟨returnData, _, _, hdata, ⟨gas, _, _, hgas, ⟨logs, hlogs, rfl⟩,
      rfl⟩, rfl⟩, rfl⟩
    exact ⟨_, .mk hdata hgas hlogs, rfl⟩
  · rintro ⟨_, ⟨hdata, hgas, hlogs⟩, rfl⟩
    exact ⟨_, _, _, rfl, ⟨_, _, _, hdata, ⟨_, _, _, hgas, ⟨_, hlogs, rfl⟩, rfl⟩, rfl⟩, rfl⟩

/-- What stands behind the header is read to its end, but for an app that failed. -/
theorem decides_body (layout : Layout) (kind : TransactionKind) (header : Header) :
    (readBody layout kind header).Decides (BodyWord layout header kind) BodyComplaint := by
  have haddress : readAddress.FailsAs BodyComplaint := failsAs_within (Read.Wants.octets 20) nofun
  obtain ⟨version, success⟩ := header
  cases kind with
  | deploy =>
    refine (Read.Decides.bind obeys_readAddress haddress fun template =>
      .bind (obeys_readGas layout) (failsAs_readGas layout) fun gas =>
      decides_logs fun logs => deploy ⟨⟨version, success⟩, template, gas, logs⟩).mono
      fun receipt bytes => ⟨?_, fun h => ?_⟩
    · rintro ⟨template, _, _, rfl, ⟨gas, _, _, hgas, ⟨logs, hlogs, rfl⟩, rfl⟩, rfl⟩
      exact .deploy hgas hlogs
    · cases h with
      | deploy hgas hlogs =>
        exact ⟨_, _, _, rfl, ⟨_, _, _, hgas, ⟨_, hlogs, rfl⟩, rfl⟩, rfl⟩
  | spawn =>
    cases success with
    | true =>
      refine (Read.Decides.bind obeys_readAddress haddress fun app =>
        decides_result layout fun result => spawn ⟨⟨version, true⟩, app, result⟩).mono
        fun receipt bytes => ⟨?_, fun h => ?_⟩
      · rintro ⟨app, _, _, rfl, ⟨result, hresult, rfl⟩, rfl⟩
        exact .spawn rfl hresult
      · cases h with
        | spawn _ hresult => exact ⟨_, _, _, rfl, ⟨_, hresult, rfl⟩, rfl⟩
        | spawnFailed hfailed => cases hfailed
    | false =>
      refine (Read.Decides.pure (spawn ⟨⟨version, false⟩, .zero, .empty⟩)).mono
        fun receipt bytes => ⟨?_, fun h => ?_⟩
      · rintro rfl
        exact .spawnFailed rfl
      · cases h with
        | spawn hsuccess _ => cases hsuccess
        | spawnFailed _ => rfl
  | exec =>
    cases success with
    | true =>
      refine (decides_result layout fun result => exec ⟨⟨version, true⟩, result⟩).mono
        fun receipt bytes => ⟨?_, fun h => ?_⟩
      · rintro ⟨result, hresult, rfl⟩
        exact .exec rfl hresult
      · cases h with
        | exec _ hresult => exact ⟨_, hresult, rfl⟩
        | execFailed hfailed => cases hfailed
    | false =>
      refine (Read.Decides.pure (exec ⟨⟨version, false⟩, .empty⟩)).mono
        fun receipt bytes => ⟨?_, fun h => ?_⟩
      · rintro rfl
        exact .execFailed rfl
      · cases h with
        | exec hsuccess _ => cases hsuccess
        | execFailed _ => rfl

variable {bytes : List UInt8} {receipt : Receipt} {error : DecodeError} {wanted : TransactionKind}

/-- A receipt is what a read of all bytes finds. -/
theorem decode_eq_map (layout : Layout) (bytes : List UInt8) :
    decode layout bytes = (read layout ⟨0, bytes⟩).map Prod.fst := rfl

/-- Where the header is there, all else is said about what stands behind it. -/
theorem decode_of_headerWord {kind : TransactionKind} {header : Header} {head : List UInt8}
    (hhead : HeaderWord layout kind header head) (body : List UInt8) :
    decode layout (head ++ body) =
      (readBody layout kind header ⟨layout.headerWidth, body⟩).map Prod.fst := by
  have hread : read layout = (readHeader layout >>= fun found =>
      readBody layout found.1 found.2) := rfl
  have hheader : (readHeader layout).Finds (kind, header) head :=
    (obeys_readHeader layout).finds hhead
  rw [decode_eq_map, hread, Read.bind_of_ok (hheader 0 body), hhead.length_eq, Nat.zero_add]

/-- The reader accepts the receipts of the grammar. -/
theorem decode_eq_ok_iff : decode layout bytes = .ok receipt ↔ Spells layout receipt bytes := by
  have hread : (read layout).Accepts (Spells layout) := by
    refine ((obeys_readHeader layout).bind_accepts fun found =>
      (decides_body layout found.1 found.2).accepts).mono fun receipt bytes => ⟨?_, ?_⟩
    · rintro ⟨⟨kind, header⟩, head, body, hhead, hbody, rfl⟩
      exact .mk hhead hbody
    · rintro ⟨hhead, hbody⟩
      exact ⟨(_, _), _, _, hhead, hbody, rfl⟩
  rw [decode_eq_map, ← hread 0 bytes receipt]
  constructor
  · intro h
    cases hfound : read layout ⟨0, bytes⟩ with
    | error error =>
      rw [hfound] at h
      cases h
    | ok found =>
      rw [hfound] at h
      cases h
      exact ⟨found.2, rfl⟩
  · rintro ⟨after, h⟩
    rw [h]
    rfl

/-- Behind the header of a spawn that failed, anything may stand. -/
example : decode .compact [1, 0, 9, 9] = .ok (.spawn ⟨⟨0, false⟩, .zero, .empty⟩) := rfl

/-- A header that cannot be read is cut short, or it is there and its kind is unknown. -/
theorem complaint_of_readHeader (h : readHeader layout ⟨0, bytes⟩ = .error error) :
    Complaint layout bytes error := by
  have hread : readHeader layout = ((Read.bytes layout.headerWidth).within .header >>= fun word =>
      liftM (layout.headerOfBytes word)) := rfl
  rw [hread, Read.bind_eq_error_iff] at h
  obtain hcut | ⟨word, after, hword, hunknown⟩ := h
  · have hfails : ((Read.bytes layout.headerWidth).within .header).FailsAs BodyComplaint :=
      failsAs_within (Read.Wants.bytes layout.headerWidth) nofun
    have hcut : BodyComplaint (0 + bytes.length) error := hfails _ _ hcut
    rw [Nat.zero_add] at hcut
    exact .body hcut
  · obtain ⟨word, ⟨rfl, hlength⟩, hbytes, -⟩ :=
      ((Read.Obeys.bytes layout.headerWidth).within .header).spelled hword
    cases hheader : layout.headerOfBytes word with
    | ok header =>
      rw [hheader] at hunknown
      cases hunknown
    | error unknown =>
      rw [hheader] at hunknown
      cases hunknown
      obtain ⟨tag, rest, rfl, rfl, hlt⟩ := exists_of_headerOfBytes_eq_error hlength hheader
      refine .unknownKind hbytes hlt ?_
      rw [← hlength, show bytes = tag :: rest ++ after.rest from hbytes, List.length_append]
      exact Nat.le_add_right _ _

/-- All that can be wrong with bytes that are no receipt. -/
theorem complaint_of_decode (h : decode layout bytes = .error error) :
    Complaint layout bytes error := by
  have hread : read layout = (readHeader layout >>= fun found =>
      readBody layout found.1 found.2) := rfl
  have hfailed : read layout ⟨0, bytes⟩ = .error error := by
    rw [decode_eq_map] at h
    cases hfound : read layout ⟨0, bytes⟩ with
    | error found =>
      rw [hfound] at h
      exact congrArg Except.error (Except.error.inj h)
    | ok found =>
      rw [hfound] at h
      cases h
  rw [hread, Read.bind_eq_error_iff] at hfailed
  obtain hheader | ⟨⟨kind, header⟩, after, hheader, hbody⟩ := hfailed
  · exact complaint_of_readHeader hheader
  · have htotal : after.total = 0 + bytes.length := (obeys_readHeader layout).total_eq hheader
    have hwrong := (decides_body layout kind header).complains _ _ hbody
    rw [htotal, Nat.zero_add] at hwrong
    exact .body hwrong

/-! ## Receipts of one kind -/

/-- A receipt passes just if it is of the wanted kind. -/
theorem expect_eq_ok_iff {found : Receipt} :
    receipt.expect wanted = .ok found ↔ receipt = found ∧ receipt.kind = wanted := by
  unfold expect
  split
  · next hkind => exact ⟨fun h => ⟨Except.ok.inj h, hkind⟩, fun h => congrArg Except.ok h.1⟩
  · next hkind => exact ⟨(nomatch ·), fun h => absurd h.2 hkind⟩

/-- A receipt of another kind is refused with both kinds. -/
theorem expect_eq_error_iff : receipt.expect wanted = .error error ↔
    receipt.kind ≠ wanted ∧ error = .unexpectedKind wanted receipt.kind := by
  unfold expect
  split
  · next hkind => exact ⟨(nomatch ·), fun h => absurd hkind h.1⟩
  · next hkind => exact ⟨fun h => ⟨hkind, (Except.error.inj h).symm⟩, fun h => h.2 ▸ rfl⟩

/-- Bytes that hold no receipt hold none of any kind. -/
theorem decodeOf_of_error (h : decode layout bytes = .error error) :
    decodeOf wanted layout bytes = .error error := by
  rw [decodeOf, h]
  rfl

/-- A receipt that was read is compared with the wanted kind. -/
theorem decodeOf_of_ok (h : decode layout bytes = .ok receipt) :
    decodeOf wanted layout bytes = receipt.expect wanted := by
  rw [decodeOf, h]
  rfl

/-- Bytes hold a receipt of the wanted kind just if they hold a receipt, and it is of this kind. -/
theorem decodeOf_eq_ok_iff : decodeOf wanted layout bytes = .ok receipt ↔
    decode layout bytes = .ok receipt ∧ receipt.kind = wanted := by
  cases hdecode : decode layout bytes with
  | error found =>
    rw [decodeOf_of_error hdecode]
    constructor
    · rintro ⟨⟩
    · rintro ⟨⟨⟩, -⟩
  | ok found =>
    rw [decodeOf_of_ok hdecode, expect_eq_ok_iff]
    constructor
    · rintro ⟨rfl, hkind⟩
      exact ⟨rfl, hkind⟩
    · rintro ⟨⟨⟩, hkind⟩
      exact ⟨rfl, hkind⟩

/-- Bytes that are no receipt are refused as they always are, and a receipt of another kind for its
kind. -/
theorem decodeOf_eq_error_iff : decodeOf wanted layout bytes = .error error ↔
    decode layout bytes = .error error ∨ ∃ receipt, decode layout bytes = .ok receipt ∧
      receipt.kind ≠ wanted ∧ error = .unexpectedKind wanted receipt.kind := by
  cases hdecode : decode layout bytes with
  | error found =>
    rw [decodeOf_of_error hdecode]
    constructor
    · exact .inl
    · rintro (h | ⟨_, ⟨⟩, -⟩)
      exact h
  | ok found =>
    rw [decodeOf_of_ok hdecode, expect_eq_error_iff]
    constructor
    · exact fun h => .inr ⟨found, rfl, h⟩
    · rintro (⟨⟨⟩⟩ | ⟨_, ⟨⟩, h⟩)
      exact h

/-- **Receipts are what the grammar says, in either layout.** All that is ever wrong with other
bytes is a field that is cut short, which is named, a kind that is unknown, or bytes that are left
over. A receipt of one kind is wanted in vain where the bytes hold none or one of another kind. -/
theorem decode_grammar (layout : Layout) (bytes : List UInt8) :
    (∀ receipt, decode layout bytes = .ok receipt ↔ Spells layout receipt bytes) ∧
    (∀ error, decode layout bytes = .error error → Complaint layout bytes error) ∧
    (∀ wanted receipt, decodeOf wanted layout bytes = .ok receipt ↔
      decode layout bytes = .ok receipt ∧ receipt.kind = wanted) ∧
    (∀ wanted error, decodeOf wanted layout bytes = .error error ↔
      decode layout bytes = .error error ∨ ∃ receipt, decode layout bytes = .ok receipt ∧
        receipt.kind ≠ wanted ∧ error = .unexpectedKind wanted receipt.kind) :=
  ⟨fun _ => decode_eq_ok_iff, fun _ => complaint_of_decode, fun _ _ => decodeOf_eq_ok_iff,
    fun _ _ => decodeOf_eq_error_iff⟩

end Receipt

end HostBridge
