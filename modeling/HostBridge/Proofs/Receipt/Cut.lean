import HostBridge.Proofs.Receipt.RoundTrip

/-!
# Receipts that are cut short

The bytes of a receipt are parts behind one another (`Receipt.parts`), each of which is read at
once. Where they are cut, some part is the first that is not there in full, and the reader tells
its field, how many bytes it should have and how many are there (`decode_cut`). In front of the
count of the logs no reader can tell: what stands there is a receipt without logs.

`Read.Follows` says of a read of one or more fields that it takes its parts and tells which of them
is cut, and `Read.TellsCut` says it of all that is read up to the end.
-/

namespace HostBridge

namespace Receipt

/-! ## Parts -/

/-- A stretch of a receipt that is read at once, and the field that it belongs to. -/
structure Part where
  field : Field
  bytes : List UInt8

/-- The bytes of parts that stand behind one another. -/
def joined (parts : List Part) : List UInt8 := parts.flatMap Part.bytes

/-- The byte at an offset lies in a part, behind `given` bytes of that part. -/
inductive Lies : List Part → Nat → Part → Nat → Prop where
  | here {part : Part} {parts : List Part} {given : Nat} :
    given < part.bytes.length → Lies (part :: parts) given part given
  | behind {first part : Part} {parts : List Part} {offset given : Nat} :
    Lies parts offset part given → Lies (first :: parts) (first.bytes.length + offset) part given

/-- Bytes behind their length in two bytes. -/
def pieceParts (count field : Field) (bytes : List UInt8) : List Part :=
  [⟨count, BigEndian.toBytes 2 bytes.length⟩, ⟨field, bytes⟩]

/-- Logs behind their lengths, the first of which has the given index. A log and its length belong
to one field. -/
def logParts : Nat → List (List UInt8) → List Part
  | _, [] => []
  | index, log :: logs => pieceParts (.log index) (.log index) log ++ logParts (index + 1) logs

/-- Logs behind their count. No logs are no parts. -/
def logsParts (logs : List (List UInt8)) : List Part :=
  if logs.isEmpty then [] else ⟨.logCount, [UInt8.ofNat logs.length]⟩ :: logParts 0 logs

/-- The gas. -/
def gasPart (gas : UInt64) : Part := ⟨.gasUsed, BigEndian.toBytes 8 gas.toNat⟩

/-- The parts of what running an app left behind. -/
def resultParts (result : Result) : List Part :=
  ⟨.state, result.state.toList⟩ ::
    (pieceParts .returnDataLength .returnData result.returnData ++
      gasPart result.gasUsed :: logsParts result.logs)

/-- The parts behind the header. -/
def bodyParts : Receipt → List Part
  | .deploy receipt =>
    ⟨.address, receipt.template.toList⟩ :: gasPart receipt.gasUsed :: logsParts receipt.logs
  | .spawn receipt =>
    if receipt.header.success then
      ⟨.address, receipt.app.toList⟩ :: resultParts receipt.result
    else []
  | .exec receipt => if receipt.header.success then resultParts receipt.result else []

/-- The parts of a receipt. -/
def parts (receipt : Receipt) : List Part :=
  ⟨.header, Wire.write (headerFields receipt.kind receipt.header)⟩ :: receipt.bodyParts

/-- The same receipt with no logs in it. -/
def withoutLogs : Receipt → Receipt
  | .deploy receipt => .deploy { receipt with logs := [] }
  | .spawn receipt => .spawn { receipt with result := { receipt.result with logs := [] } }
  | .exec receipt => .exec { receipt with result := { receipt.result with logs := [] } }

/-! ## Offsets -/

section offsets

variable {parts front back : List Part} {part : Part} {offset given : Nat}

@[simp] theorem joined_cons (first : Part) (parts : List Part) :
    joined (first :: parts) = first.bytes ++ joined parts := rfl

@[simp] theorem joined_append (front back : List Part) :
    joined (front ++ back) = joined front ++ joined back :=
  List.flatMap_append

/-- An offset that lies in a part lies in all of them together. -/
theorem Lies.lt (h : Lies parts offset part given) : offset < (joined parts).length := by
  induction h with
  | here hlt =>
    rw [joined_cons, List.length_append]
    exact Nat.lt_add_right _ hlt
  | behind _ ih =>
    rw [joined_cons, List.length_append]
    exact Nat.add_lt_add_left ih _

/-- Every byte lies in some part. -/
theorem exists_lies (h : offset < (joined parts).length) :
    ∃ part given, Lies parts offset part given := by
  induction parts generalizing offset with
  | nil => cases h
  | cons first parts ih =>
    by_cases hfirst : offset < first.bytes.length
    · exact ⟨first, offset, .here hfirst⟩
    · obtain ⟨more, rfl⟩ := Nat.exists_eq_add_of_le (Nat.le_of_not_lt hfirst)
      rw [joined_cons, List.length_append] at h
      obtain ⟨part, given, hlies⟩ := ih (Nat.lt_of_add_lt_add_left h)
      exact ⟨part, given, .behind hlies⟩

/-- The part that an offset lies in is one of the parts. -/
theorem Lies.mem (h : Lies parts offset part given) : part ∈ parts := by
  induction h with
  | here _ => exact .head _
  | behind _ ih => exact .tail _ ih

/-- A byte lies in the parts in front or in those behind. -/
theorem lies_append (h : Lies (front ++ back) offset part given) :
    Lies front offset part given ∨
      ∃ more, offset = (joined front).length + more ∧ Lies back more part given := by
  induction front generalizing offset with
  | nil => exact .inr ⟨offset, (Nat.zero_add offset).symm, h⟩
  | cons first front ih =>
    cases h with
    | here hlt => exact .inl (.here hlt)
    | behind h =>
      rcases ih h with hfront | ⟨more, rfl, hback⟩
      · exact .inl (.behind hfront)
      · refine .inr ⟨more, ?_, hback⟩
        rw [joined_cons, List.length_append, Nat.add_assoc]

end offsets

end Receipt

namespace Read

open Receipt (Part Lies joined)

variable {α β : Type} {read : Read α} {next : α → Read β} {value : α} {result : β}
  {parts others : List Part} {grammar : α → List UInt8 → Prop}

/-! ## Reads that follow their parts -/

/-- The read takes just these parts, and tells which of them is cut. -/
structure Follows (read : Read α) (value : α) (parts : List Part) : Prop where
  finds : read.Finds value (joined parts)
  cut : ∀ {offset part given}, Lies parts offset part given → ∀ position,
    read ⟨position, (joined parts).take offset⟩ =
      .error (.truncatedReceipt part.field part.bytes.length given)

namespace Follows

/-- A read that only hands back a value follows no parts. -/
theorem pure (value : α) : (Pure.pure value : Read α).Follows value [] where
  finds := .pure value
  cut h := nomatch h

/-- One read behind another follows the parts of both. -/
theorem bind (h : read.Follows value parts) (hnext : (next value).Follows result others) :
    (read >>= next).Follows result (parts ++ others) where
  finds := by
    rw [Receipt.joined_append]
    exact h.finds.bind hnext.finds
  cut := by
    intro offset part given hlies position
    rw [Receipt.joined_append]
    rcases Receipt.lies_append hlies with hfront | ⟨more, rfl, hback⟩
    · rw [List.take_append_of_le_length (Nat.le_of_lt hfront.lt)]
      exact bind_of_error (h.cut hfront position)
    · rw [List.take_length_add_append, bind_of_ok (h.finds position _)]
      exact hnext.cut hback _

/-- What is made of a read follows the same parts. -/
theorem bind_pure (h : read.Follows value parts) (f : α → β) :
    (read >>= fun value => Pure.pure (f value)).Follows (f value) parts := by
  have hpure : (read >>= fun value => Pure.pure (f value)).Follows (f value) (parts ++ []) :=
    h.bind (.pure (f value))
  rwa [List.append_nil] at hpure

/-- Within a field, what is read at once is a part. -/
theorem within {width : Nat} {word : List UInt8} (hread : read.Obeys grammar)
    (hwants : read.Wants width) (hword : grammar value word) (hlength : word.length = width)
    (field : Receipt.Field) : (read.within field).Follows value [⟨field, word⟩] where
  finds := by
    have hfinds := (hread.finds hword).within field
    rwa [← List.append_nil word] at hfinds
  cut := by
    intro offset part given hlies position
    cases hlies with
    | behind hnil => cases hnil
    | here hlt =>
      obtain ⟨error, hcut⟩ := (hread.within field).exists_error_of_cut hword hlt position
      obtain ⟨rfl, -⟩ := hwants.within hcut
      have htake : (joined [⟨field, word⟩]).take offset = word.take offset :=
        congrArg (List.take offset) (List.append_nil word)
      have hremaining : Reader.remaining ⟨position, word.take offset⟩ = offset :=
        List.length_take_of_le (Nat.le_of_lt hlt)
      rw [htake, hcut, hremaining, hlength]

end Follows

/-- Of the bytes of the parts, cut anywhere, the read tells which part is cut. In front of the count
of the logs it takes what is there to be all. -/
def TellsCut (read : Read Receipt) (parts : List Part) (short : Receipt) : Prop :=
  ∀ offset part given, Lies parts offset part given → ∀ position,
    (read ⟨position, (joined parts).take offset⟩).map Prod.fst =
      if part.field = .logCount then .ok short
      else .error (.truncatedReceipt part.field part.bytes.length given)

/-- Behind parts that a read follows, cuts are told by the read that comes next. -/
theorem Follows.tellsCut_bind {next : α → Read Receipt} {short : Receipt} (h : read.Follows value parts)
    (hfields : ∀ part ∈ parts, part.field ≠ .logCount) (hnext : (next value).TellsCut others short) :
    (read >>= next).TellsCut (parts ++ others) short := by
  intro offset part given hlies position
  rw [Receipt.joined_append]
  rcases Receipt.lies_append hlies with hfront | ⟨more, rfl, hback⟩
  · rw [List.take_append_of_le_length (Nat.le_of_lt hfront.lt),
      bind_of_error (h.cut hfront position), if_neg (hfields part hfront.mem)]
    rfl
  · rw [List.take_length_add_append, bind_of_ok (h.finds position _)]
    exact hnext _ _ _ hback _

/-- In front of all that is left stands a single part. -/
theorem Follows.tellsCut_cons {next : α → Read Receipt} {short : Receipt} {part : Part}
    (h : read.Follows value [part]) (hfield : part.field ≠ .logCount)
    (hnext : (next value).TellsCut others short) : (read >>= next).TellsCut (part :: others) short :=
  h.tellsCut_bind (List.forall_mem_singleton.2 hfield) hnext

end Read

namespace Receipt

variable {bytes word : List UInt8} {logs : List (List UInt8)} {receipt : Receipt}

/-! ## Fields -/

/-- An address is one part. -/
theorem follows_readAddress (address : Address) :
    readAddress.Follows address [⟨.address, address.toList⟩] :=
  .within (Read.obeys_octets 20) (.octets 20) rfl address.length_toList .address

/-- A state is one part. -/
theorem follows_readState (state : StateRoot) :
    readState.Follows state [⟨.state, state.toList⟩] :=
  .within (Read.obeys_octets 32) (.octets 32) rfl state.length_toList .state

/-- A piece is two parts: its length and its bytes. -/
theorem follows_piece (h : bytes.length ≤ 65535) (count field : Field) :
    (Read.u16.within count >>= fun length => (Read.bytes length.toNat).within field).Follows bytes
      (pieceParts count field bytes) := by
  have hlength : (UInt16.ofNat bytes.length).toNat = bytes.length :=
    UInt16.toNat_ofNat_of_lt' (Nat.lt_succ_of_le h)
  have hcount : (Read.u16.within count).Follows (UInt16.ofNat bytes.length)
      [⟨count, BigEndian.toBytes 2 bytes.length⟩] :=
    .within Read.obeys_u16 .u16 (by rw [hlength]) (BigEndian.length_toBytes ..) count
  exact hcount.bind (.within (.bytes _) (.bytes _) ⟨rfl, hlength.symm⟩ hlength.symm field)

/-- Return data are a length and the bytes. -/
theorem follows_readReturnData (h : bytes.length ≤ 65535) :
    readReturnData.Follows bytes (pieceParts .returnDataLength .returnData bytes) :=
  follows_piece h .returnDataLength .returnData

/-- The gas is one part. -/
theorem follows_readGas (gas : UInt64) : (readGas .binary).Follows gas [gasPart gas] := by
  have hnat : ((Read.nat 8).within .gasUsed).Follows gas.toNat [gasPart gas] :=
    .within (Read.obeys_nat 8) (.nat 8)
      ⟨BigEndian.length_toBytes .., (BigEndian.ofBytes_toBytes_of_lt gas.toNat_lt).symm⟩
      (BigEndian.length_toBytes ..) .gasUsed
  have hgas := hnat.bind_pure UInt64.ofNat
  rwa [UInt64.ofNat_toNat] at hgas

/-- Of a piece no part is a count of logs, if its fields are none. -/
theorem field_of_mem_pieceParts {count field : Field} {part : Part} (hcount : count ≠ .logCount)
    (hfield : field ≠ .logCount) (h : part ∈ pieceParts count field bytes) :
    part.field ≠ .logCount := by
  simp only [pieceParts, List.mem_cons, List.not_mem_nil, or_false] at h
  rcases h with rfl | rfl
  · exact hcount
  · exact hfield

/-! ## Logs -/

/-- Logs are a length and the bytes of each in turn. -/
theorem follows_readLogsFrom (index : Nat) (h : ∀ log ∈ logs, log.length ≤ 65535) :
    (readLogsFrom index logs.length).Follows logs (logParts index logs) := by
  induction logs generalizing index with
  | nil => exact .pure []
  | cons log logs ih =>
    obtain ⟨hlog, hlogs⟩ := List.forall_mem_cons.1 h
    exact (follows_piece hlog (.log index) (.log index)).bind
      ((ih (index + 1) hlogs).bind_pure (log :: ·))

/-- The count of the logs is no part of a log. -/
theorem field_of_mem_logParts {index : Nat} {part : Part} (h : part ∈ logParts index logs) :
    part.field ≠ .logCount := by
  induction logs generalizing index with
  | nil => cases h
  | cons log logs ih =>
    rcases List.mem_append.1 h with h | h
    · refine field_of_mem_pieceParts ?_ ?_ h <;> nofun
    · exact ih h

/-- The logs come last. Where even their count is missing, there are none. -/
theorem tellsCut_logs (f : List (List UInt8) → Receipt) (h : LogsFit logs) :
    (readLogs >>= fun logs => Read.finish >>= fun _ => pure (f logs)).TellsCut (logsParts logs)
      (f []) := by
  intro offset part given hlies position
  unfold logsParts at hlies ⊢
  split at hlies
  · cases hlies
  · next hsome =>
    rw [if_neg hsome]
    cases hlies with
    | here hlt =>
      obtain rfl := Nat.lt_one_iff.1 hlt
      rfl
    | @behind _ _ _ offset _ hlies =>
      have hcount : (UInt8.ofNat logs.length).toNat = logs.length :=
        UInt8.toNat_ofNat_of_lt' (Nat.lt_succ_of_le h.count)
      have hcut := (follows_readLogsFrom 0 h.entries).cut hlies (position + 1)
      have htake : (joined (⟨.logCount, [UInt8.ofNat logs.length]⟩ :: logParts 0 logs)).take
          (1 + offset) = UInt8.ofNat logs.length :: (joined (logParts 0 logs)).take offset := by
        rw [Nat.add_comm]
        rfl
      have hread := readLogs_cons position (UInt8.ofNat logs.length)
        ((joined (logParts 0 logs)).take offset)
      rw [hcount, hcut] at hread
      change ((readLogs >>= _) ⟨position, List.take (1 + offset) _⟩).map Prod.fst = _
      rw [htake, Read.bind_of_error hread, if_neg (field_of_mem_logParts hlies.mem)]
      rfl

/-! ## Receipts -/

/-- What running an app left behind tells where it was cut, or was cut in front of the logs. -/
theorem tellsCut_result {result : Result} (hdata : result.returnData.length ≤ 65535)
    (hlogs : LogsFit result.logs) (f : Result → Receipt) :
    (readResult .binary >>= fun result => Read.finish >>= fun _ => pure (f result)).TellsCut
      (resultParts result) (f { result with logs := [] }) := by
  rw [readResult_finish]
  exact (follows_readState result.state).tellsCut_cons nofun <|
    (follows_readReturnData hdata).tellsCut_bind (fun _ => field_of_mem_pieceParts nofun nofun) <|
    (follows_readGas result.gasUsed).tellsCut_cons nofun <| tellsCut_logs _ hlogs

/-- The body of a receipt that can be written tells where it is cut. -/
theorem tellsCut_body (h : receipt.HeaderAlone ∨ receipt.Fits) :
    (readBody .binary receipt.kind receipt.header).TellsCut receipt.bodyParts
      receipt.withoutLogs := by
  cases receipt with
  | deploy receipt =>
    obtain ⟨⟨⟩⟩ | hfits := h
    have hlogs := hfits.logs
    exact (follows_readAddress receipt.template).tellsCut_cons nofun <|
      (follows_readGas receipt.gasUsed).tellsCut_cons nofun <| tellsCut_logs _ hlogs
  | spawn receipt =>
    obtain ⟨⟨version, success⟩, app, result⟩ := receipt
    cases success with
    | false => exact fun _ _ _ hlies => nomatch hlies
    | true =>
      obtain ⟨⟨⟩⟩ | hfits := h
      exact (follows_readAddress app).tellsCut_cons nofun <|
        tellsCut_result (hfits.returnData _ rfl) hfits.logs _
  | exec receipt =>
    obtain ⟨⟨version, success⟩, result⟩ := receipt
    cases success with
    | false => exact fun _ _ _ hlies => nomatch hlies
    | true =>
      obtain ⟨⟨⟩⟩ | hfits := h
      exact tellsCut_result (hfits.returnData _ rfl) hfits.logs _

/-- A header that is not there in full is what is cut. -/
theorem decode_of_short {layout : Layout} (h : bytes.length < layout.headerWidth) :
    decode layout bytes = .error (.truncatedReceipt .header layout.headerWidth bytes.length) := by
  have hread : read layout = (((Read.bytes layout.headerWidth).within .header >>= fun word =>
      liftM (layout.headerOfBytes word)) >>= fun found =>
        readBody layout found.1 found.2) := rfl
  have hbytes : Read.bytes layout.headerWidth ⟨0, bytes⟩ =
      .error (.unexpectedEof layout.headerWidth bytes.length) :=
    Read.bytes_eq_error_iff.2 ⟨h, rfl⟩
  have hwithin : (Read.bytes layout.headerWidth).within .header ⟨0, bytes⟩ =
      .error (.truncatedReceipt .header layout.headerWidth bytes.length) := by
    rw [Read.within, hbytes]
  rw [decode_eq_map, hread, Read.bind_of_error (Read.bind_of_error hwithin)]
  rfl

/-! ## What is written -/

/-- Logs that are written are the parts of the logs, joined. -/
theorem flatten_of_mapM {words : List (List UInt8)} (index : Nat)
    (h : logs.mapM Wire.bytes16 = .ok words) : words.flatten = joined (logParts index logs) := by
  induction logs generalizing index words with
  | nil =>
    cases h
    rfl
  | cons log logs ih =>
    rw [List.mapM_cons] at h
    obtain ⟨word, hlog, h⟩ := Wire.exists_of_bind_eq_ok h
    obtain ⟨words, hlogs, ⟨⟩⟩ := Wire.exists_of_bind_eq_ok h
    obtain ⟨-, rfl⟩ := Wire.bytes16_eq_ok_iff.1 hlog
    rw [List.flatten_cons, ih (index + 1) hlogs, Wire.prefixed, List.append_assoc]
    rfl

/-- So are logs behind their count. -/
theorem eq_joined_of_encodeLogs (h : encodeLogs logs = .ok word) :
    word = joined (logsParts logs) := by
  by_cases hlogs : logs = []
  · subst hlogs
    cases h
    rfl
  · rw [encodeLogs_of_ne_nil hlogs, Wire.ite_eq_ok_iff] at h
    obtain ⟨words, hwords, ⟨⟩⟩ := Wire.exists_of_bind_eq_ok h.2
    rw [logsParts, if_neg (mt List.isEmpty_iff.1 hlogs), flatten_of_mapM 0 hwords]
    rfl

/-- What running an app left behind is written as its parts, joined. -/
theorem eq_joined_of_encodeResult {result : Result} (h : encodeResult result = .ok word) :
    word = joined (resultParts result) := by
  obtain ⟨data, hdata, h⟩ := Wire.exists_of_bind_eq_ok h
  obtain ⟨logsWord, hlogs, ⟨⟩⟩ := Wire.exists_of_bind_eq_ok h
  obtain ⟨-, rfl⟩ := Wire.bytes16_eq_ok_iff.1 hdata
  rw [eq_joined_of_encodeLogs hlogs]
  simp [resultParts, pieceParts, gasPart, Wire.prefixed, Wire.Field.bytes]

/-- What stands behind a header is written as its parts, joined. -/
theorem eq_joined_of_encodeBody (h : receipt.encodeBody = .ok word) :
    word = joined receipt.bodyParts := by
  cases receipt with
  | deploy receipt =>
    obtain ⟨logsWord, hlogs, ⟨⟩⟩ := Wire.exists_of_bind_eq_ok h
    rw [eq_joined_of_encodeLogs hlogs]
    simp [bodyParts, gasPart, Wire.Field.bytes]
  | spawn receipt =>
    obtain ⟨⟨version, success⟩, app, result⟩ := receipt
    cases success with
    | false =>
      cases h
      rfl
    | true =>
      obtain ⟨body, hbody, ⟨⟩⟩ := Wire.exists_of_bind_eq_ok h
      rw [eq_joined_of_encodeResult hbody]
      rfl
  | exec receipt =>
    obtain ⟨⟨version, success⟩, result⟩ := receipt
    cases success with
    | false =>
      cases h
      rfl
    | true => exact eq_joined_of_encodeResult h

/-- What is written of a receipt are its parts. -/
theorem eq_joined_of_encode (h : receipt.encode = .ok bytes) : bytes = joined receipt.parts := by
  obtain ⟨body, hbody, ⟨⟩⟩ := Wire.exists_of_bind_eq_ok h
  rw [eq_joined_of_encodeBody hbody]
  rfl

/-- **A receipt that is cut short tells where.** What is written of it are its parts, and each byte
lies in one of them. Cut in front of that byte, the receipt is refused with the field of the part,
the size of the part and how many bytes of it are left. In front of the count of its logs, though,
it is read as the same receipt without logs. -/
theorem decode_cut (h : receipt.encode = .ok bytes) :
    bytes = joined receipt.parts ∧
    ∀ cut < bytes.length, ∃ part given, Lies receipt.parts cut part given ∧
      decode .binary (bytes.take cut) =
        if part.field = .logCount then .ok receipt.withoutLogs
        else .error (.truncatedReceipt part.field part.bytes.length given) := by
  have hparts := eq_joined_of_encode h
  refine ⟨hparts, fun cut hcut => ?_⟩
  subst hparts
  obtain ⟨part, given, hlies⟩ := exists_lies hcut
  refine ⟨part, given, hlies, ?_⟩
  have hhead := headerWord_write receipt.kind receipt.header
  have hfour := hhead.length_eq
  cases hlies with
  | here hlt =>
    have htake : (joined receipt.parts).take cut =
        (Wire.write (headerFields receipt.kind receipt.header)).take cut :=
      List.take_append_of_le_length (Nat.le_of_lt hlt)
    have hlength := List.length_take_of_le (Nat.le_of_lt hlt)
    have hshort : ((Wire.write (headerFields receipt.kind receipt.header)).take cut).length <
        Layout.binary.headerWidth := by
      rw [hlength, ← hfour]
      exact hlt
    rw [htake, decode_of_short hshort, hlength, if_neg nofun, hfour]
  | @behind _ _ _ offset _ hlies =>
    have htake : (joined receipt.parts).take
        ((Wire.write (headerFields receipt.kind receipt.header)).length + offset) =
        Wire.write (headerFields receipt.kind receipt.header) ++
          (joined receipt.bodyParts).take offset :=
      List.take_length_add_append offset
    have hfits := exists_encode_iff.1 ⟨_, h⟩
    rw [htake, decode_of_headerWord hhead]
    exact tellsCut_body hfits _ _ _ hlies _

/-- An execution that returned one byte and left two logs, the first of them empty: cut in the
second log, and in front of the count of the logs. -/
theorem cut_of_exec_with_logs :
    (exec ⟨⟨0, true⟩, ⟨.zero, [0x20], 10, [[], [1, 2, 3]]⟩⟩).encode =
      .ok ([2, 0, 0, 1] ++ (.zero : StateRoot).toList ++
        [0, 1, 0x20, 0, 0, 0, 0, 0, 0, 0, 10, 2, 0, 0, 0, 3, 1, 2, 3]) ∧
    decode .binary ([2, 0, 0, 1] ++ (.zero : StateRoot).toList ++
        [0, 1, 0x20, 0, 0, 0, 0, 0, 0, 0, 10, 2, 0, 0, 0, 3, 1, 2]) =
      .error (.truncatedReceipt (.log 1) 3 2) ∧
    decode .binary ([2, 0, 0, 1] ++ (.zero : StateRoot).toList ++
        [0, 1, 0x20, 0, 0, 0, 0, 0, 0, 0, 10]) =
      .ok (.exec ⟨⟨0, true⟩, ⟨.zero, [0x20], 10, []⟩⟩) ∧
    ∀ cut < 55, ∃ part given,
      Lies (exec ⟨⟨0, true⟩, ⟨.zero, [0x20], 10, [[], [1, 2, 3]]⟩⟩).parts cut part given ∧
      decode .binary (([2, 0, 0, 1] ++ (.zero : StateRoot).toList ++
        [0, 1, 0x20, 0, 0, 0, 0, 0, 0, 0, 10, 2, 0, 0, 0, 3, 1, 2, 3]).take cut) =
        if part.field = .logCount then .ok (.exec ⟨⟨0, true⟩, ⟨.zero, [0x20], 10, []⟩⟩)
        else .error (.truncatedReceipt part.field part.bytes.length given) := by
  have hencode : (exec ⟨⟨0, true⟩, ⟨.zero, [0x20], 10, [[], [1, 2, 3]]⟩⟩).encode =
      .ok ([2, 0, 0, 1] ++ (.zero : StateRoot).toList ++
        [0, 1, 0x20, 0, 0, 0, 0, 0, 0, 0, 10, 2, 0, 0, 0, 3, 1, 2, 3]) := rfl
  exact ⟨hencode, rfl, rfl, (decode_cut hencode).2⟩

end Receipt

end HostBridge
