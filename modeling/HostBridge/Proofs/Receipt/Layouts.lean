import HostBridge.Proofs.Receipt.Grammar

/-!
# The two layouts agree

The layouts differ in the header and in the width of the gas, so behind either the same bytes stand
at another place. A read of a field says the same of the same bytes wherever they stand
(`Read.Moves`), and whether any bytes are left over is the only question whose answer names the
place. So a receipt that is written in both layouts is read alike from either, whatever stands
behind the gas and wherever the fields in front of it are cut (`layouts_agree`).
-/

namespace HostBridge

/-- The same bytes to be read, `shift` bytes further on. -/
def Reader.moved (shift : Nat) (reader : Reader) : Reader :=
  ⟨reader.position + shift, reader.rest⟩

namespace Read

variable {α β : Type} {read : Read α} {next : α → Read β} {field : Receipt.Field}
  {grammar : α → List UInt8 → Prop}

/-- What a read says of the same bytes at two places, `shift` bytes apart. It finds the same and
stops in front of the same bytes, or the same field is cut short. -/
inductive Moved (shift : Nat) :
    Except DecodeError (α × Reader) → Except DecodeError (α × Reader) → Prop where
  | found {value : α} {after : Reader} :
    Moved shift (.ok (value, after)) (.ok (value, after.moved shift))
  | cut {field : Receipt.Field} {expected given : Nat} :
    Moved shift (.error (.truncatedReceipt field expected given))
      (.error (.truncatedReceipt field expected given))

/-- The read says the same of the same bytes wherever they stand. -/
def Moves (read : Read α) : Prop :=
  ∀ shift reader, Moved shift (read reader) (read (reader.moved shift))

/-- What is made of a field is made of it within the field, too. -/
theorem within_bind_pure (read : Read α) (f : α → β) (field : Receipt.Field) :
    (read >>= fun value => pure (f value)).within field =
      read.within field >>= fun value => pure (f value) := by
  funext reader
  cases hread : read reader with
  | ok found =>
    rw [bind_of_ok (within_eq_ok_iff.2 hread)]
    exact within_eq_ok_iff.2 (bind_of_ok hread)
  | error error =>
    have hwithin : within field read reader =
        within field (throwThe DecodeError error : Read α) reader := by
      rw [within, hread]
      rfl
    rw [within, bind_of_error hread]
    cases error <;> exact (bind_of_error hwithin).symm

namespace Moves

/-- A read that only hands back a value reads the same at any offset. -/
theorem pure (value : α) : (Pure.pure value : Read α).Moves := fun _ _ => .found

/-- Reads that read the same at any offset do so one behind the other. -/
theorem bind (h : read.Moves) (hnext : ∀ value, (next value).Moves) : (read >>= next).Moves := by
  intro shift reader
  have hmoved := h shift reader
  generalize hhere : read reader = here, hthere : read (reader.moved shift) = there at hmoved
  cases hmoved with
  | found =>
    rw [bind_of_ok hhere, bind_of_ok hthere]
    exact hnext _ shift _
  | cut =>
    rw [bind_of_error hhere, bind_of_error hthere]
    exact .cut

/-- What is made of a field that moves moves with it. -/
theorem bind_pure (h : (read.within field).Moves) (f : α → β) :
    ((read >>= fun value => Pure.pure (f value)).within field).Moves := by
  rw [within_bind_pure]
  exact h.bind fun value => .pure (f value)

/-- Bytes of a field are read the same at any offset. -/
theorem bytes (count : Nat) (field : Receipt.Field) : ((Read.bytes count).within field).Moves := by
  rintro shift ⟨position, rest⟩
  unfold Reader.moved Read.within Read.bytes
  by_cases hlength : (rest.take count).length = count
  · simp only [hlength, if_true, Nat.add_right_comm position shift count]
    exact .found
  · simp only [hlength, if_false]
    exact .cut

/-- So are numbers. -/
theorem nat (width : Nat) (field : Receipt.Field) : ((Read.nat width).within field).Moves :=
  (bytes width field).bind_pure _

/-- So are numbers of two bytes. -/
theorem u16 (field : Receipt.Field) : (Read.u16.within field).Moves := (nat 2 field).bind_pure _

/-- So are byte strings of a fixed size. -/
theorem octets (size : Nat) (field : Receipt.Field) : ((Read.octets size).within field).Moves :=
  (bytes size field).bind_pure _

end Moves

end Read

namespace Receipt

/-! ## Fields -/

/-- An address is read the same at any offset. -/
theorem moves_readAddress : readAddress.Moves := .octets 20 .address

/-- A state is read the same at any offset. -/
theorem moves_readState : readState.Moves := .octets 32 .state

/-- Return data are read the same at any offset. -/
theorem moves_readReturnData : readReturnData.Moves :=
  (Read.Moves.u16 .returnDataLength).bind fun length => .bytes length.toNat .returnData

/-- Logs are read the same at any offset. -/
theorem moves_readLogsFrom (index count : Nat) : (readLogsFrom index count).Moves := by
  induction count generalizing index with
  | zero => exact .pure []
  | succ count ih =>
    have hlog : (readLog index).Moves :=
      (Read.Moves.u16 (.log index)).bind fun length => .bytes length.toNat (.log index)
    exact hlog.bind fun log => (ih (index + 1)).bind fun _ => .pure _

/-- So are logs behind their count. -/
theorem moves_readLogs : readLogs.Moves := by
  rintro shift ⟨position, rest⟩
  cases rest with
  | nil => exact .found
  | cons count rest =>
    have hmoved := moves_readLogsFrom 0 count.toNat shift ⟨position + 1, rest⟩
    rwa [Reader.moved, Nat.add_right_comm, ← readLogs_cons, ← readLogs_cons] at hmoved

/-! ## Receipts -/

/-- Two answers about receipts of which the second was read from `shift` more bytes: both are the
same receipt, or the same field is cut short, or bytes are left over, which are counted from the
start. -/
inductive Alike (shift : Nat) : Except DecodeError Receipt → Except DecodeError Receipt → Prop where
  | found {receipt : Receipt} : Alike shift (.ok receipt) (.ok receipt)
  | truncated {field : Field} {expected given : Nat} :
    Alike shift (.error (.truncatedReceipt field expected given))
      (.error (.truncatedReceipt field expected given))
  | trailing {consumed given : Nat} :
    Alike shift (.error (.trailingBytes consumed given))
      (.error (.trailingBytes (consumed + shift) (given + shift)))

/-- What stands in front of the gas in a receipt of a kind. -/
inductive FrontWord : TransactionKind → List UInt8 → Prop where
  | deploy {template : Address} : FrontWord .deploy template.toList
  | spawn {app : Address} {state : StateRoot} {returnData word : List UInt8} :
    Piece returnData word → FrontWord .spawn (app.toList ++ (state.toList ++ word))
  | exec {state : StateRoot} {returnData word : List UInt8} :
    Piece returnData word → FrontWord .exec (state.toList ++ word)

section around

variable {α : Type} {front : Read α} {grammar : α → List UInt8 → Prop} {value : α}
  {fields : List UInt8} {f : α → UInt64 → List (List UInt8) → Receipt}

/-- Reads what stands in front of the gas, the gas, and the logs up to the end. -/
def readAround (front : Read α) (layout : Layout)
    (f : α → UInt64 → List (List UInt8) → Receipt) : Read Receipt := do
  let value ← front
  let gas ← readGas layout
  let logs ← readLogs
  Read.finish
  return f value gas logs

/-- The logs and the end are read alike wherever they stand. -/
theorem alike_logs (g : List (List UInt8) → Receipt) (shift : Nat) (reader : Reader) :
    Alike shift
      (((readLogs >>= fun logs => Read.finish >>= fun _ => pure (g logs)) reader).map Prod.fst)
      (((readLogs >>= fun logs => Read.finish >>= fun _ => pure (g logs)) (reader.moved shift)).map
        Prod.fst) := by
  have hmoved := moves_readLogs shift reader
  generalize hhere : readLogs reader = here, hthere : readLogs (reader.moved shift) = there
    at hmoved
  cases hmoved with
  | @found logs after =>
    rw [Read.bind_of_ok hhere, Read.bind_of_ok hthere]
    obtain ⟨position, rest⟩ := after
    cases rest with
    | nil => exact .found
    | cons byte rest =>
      have htrailing : Alike shift (.error (.trailingBytes position (position + (rest.length + 1))))
          (.error (.trailingBytes (position + shift) (position + (rest.length + 1) + shift))) :=
        .trailing
      rwa [Nat.add_right_comm position _ shift] at htrailing
  | cut =>
    rw [Read.bind_of_error hhere, Read.bind_of_error hthere]
    exact .truncated

/-- Gas of at most four bytes is written in either layout. -/
theorem gasWord_toBytes (layout : Layout) (gas : UInt32) :
    GasWord layout gas.toUInt64 (BigEndian.toBytes layout.gasWidth gas.toNat) := by
  cases layout with
  | binary =>
    refine .binary (BigEndian.length_toBytes ..) (BigEndian.ofBytes_toBytes_of_lt ?_)
    exact Nat.lt_trans gas.toNat_lt (by decide)
  | compact =>
    exact .compact (BigEndian.length_toBytes ..) (BigEndian.ofBytes_toBytes_of_lt gas.toNat_lt)

/-- Up to the gas all is found, wherever it stands and whatever comes behind it. -/
theorem readAround_of_word (layout : Layout) (hfront : front.Obeys grammar)
    (hword : grammar value fields) (gas : UInt32) (position : Nat) (tail : List UInt8) :
    readAround front layout f ⟨position,
        fields ++ BigEndian.toBytes layout.gasWidth gas.toNat ++ tail⟩ =
      (readLogs >>= fun logs => Read.finish >>= fun _ => pure (f value gas.toUInt64 logs))
        ⟨position + fields.length + layout.gasWidth, tail⟩ := by
  have hgas := (obeys_readGas layout).finds (gasWord_toBytes layout gas)
  rw [readAround, List.append_assoc, Read.bind_of_ok (hfront.finds hword position _),
    Read.bind_of_ok (hgas _ tail), BigEndian.length_toBytes]

/-- Behind headers of either width, the two layouts are read alike. The gas moves the logs on by
four bytes, the header by two. -/
theorem readAround_agrees (hfront : front.Obeys grammar) (hmoves : front.Moves)
    (hword : grammar value fields) (gas : UInt32) (tail : List UInt8) (position : Nat) :
    Alike 6
      ((readAround front .compact f ⟨position,
        fields ++ BigEndian.toBytes 4 gas.toNat ++ tail⟩).map Prod.fst)
      ((readAround front .binary f ⟨position + 2,
        fields ++ BigEndian.toBytes 8 gas.toNat ++ tail⟩).map Prod.fst) ∧
    ∀ cut < fields.length,
      (readAround front .compact f ⟨position, fields.take cut⟩).map Prod.fst =
        (readAround front .binary f ⟨position + 2, fields.take cut⟩).map Prod.fst := by
  constructor
  · have hcompact := readAround_of_word (f := f) .compact hfront hword gas position tail
    have hbinary := readAround_of_word (f := f) .binary hfront hword gas (position + 2) tail
    have hposition : position + 2 + fields.length + 8 = position + fields.length + 4 + 6 := by
      omega
    simp only [Layout.gasWidth] at hcompact hbinary
    rw [hcompact, hbinary, hposition]
    exact alike_logs _ 6 ⟨_, tail⟩
  · intro cut hcut
    obtain ⟨error, hhere⟩ := hfront.exists_error_of_cut hword hcut position
    have hmoved := hmoves 2 ⟨position, fields.take cut⟩
    rw [hhere, Reader.moved] at hmoved
    generalize hthere : front ⟨position + 2, fields.take cut⟩ = there at hmoved
    cases hmoved with
    | cut =>
      rw [readAround, readAround, Read.bind_of_error hhere, Read.bind_of_error hthere]

end around

variable {kind : TransactionKind} {fields : List UInt8}

/-- What stands behind the header of a receipt that is written in both layouts is read alike. -/
theorem readBody_agrees (hfields : FrontWord kind fields) (header : Header) (gas : UInt32)
    (tail : List UInt8) (position : Nat) :
    Alike 6
      ((readBody .compact kind header ⟨position,
        fields ++ BigEndian.toBytes 4 gas.toNat ++ tail⟩).map Prod.fst)
      ((readBody .binary kind header ⟨position + 2,
        fields ++ BigEndian.toBytes 8 gas.toNat ++ tail⟩).map Prod.fst) ∧
    ∀ cut < fields.length,
      (readBody .compact kind header ⟨position, fields.take cut⟩).map Prod.fst =
        (readBody .binary kind header ⟨position + 2, fields.take cut⟩).map Prod.fst := by
  obtain ⟨version, success⟩ := header
  cases hfields with
  | deploy =>
    exact readAround_agrees obeys_readAddress moves_readAddress rfl gas tail position
  | spawn hdata =>
    cases success with
    | false => exact ⟨.found, fun _ _ => rfl⟩
    | true =>
      have hbody : ∀ layout, readBody layout .spawn ⟨version, true⟩ =
          readAround (readAddress >>= fun app => readState >>= fun state =>
            readReturnData >>= fun returnData => pure (app, state, returnData)) layout
            fun front gas logs =>
              spawn ⟨⟨version, true⟩, front.1, front.2.1, front.2.2, gas, logs⟩ := by
        intro layout
        simp only [readBody, readResult, readAround, bind_assoc, pure_bind]
      simp only [hbody]
      exact readAround_agrees (obeys_readAddress.bind fun app => obeys_readState.bind fun state =>
        obeys_readReturnData.bind_pure fun returnData => (app, state, returnData))
        (moves_readAddress.bind fun app => moves_readState.bind fun state =>
          moves_readReturnData.bind fun returnData => .pure (app, state, returnData))
        ⟨_, _, _, rfl, ⟨_, _, _, rfl, ⟨_, hdata, rfl⟩, rfl⟩, rfl⟩ gas tail position
  | exec hdata =>
    cases success with
    | false => exact ⟨.found, fun _ _ => rfl⟩
    | true =>
      have hbody : ∀ layout, readBody layout .exec ⟨version, true⟩ =
          readAround (readState >>= fun state =>
            readReturnData >>= fun returnData => pure (state, returnData)) layout
            fun front gas logs => exec ⟨⟨version, true⟩, front.1, front.2, gas, logs⟩ := by
        intro layout
        simp only [readBody, readResult, readAround, bind_assoc, pure_bind]
      simp only [hbody]
      exact readAround_agrees (obeys_readState.bind fun state =>
        obeys_readReturnData.bind_pure fun returnData => (state, returnData))
        (moves_readState.bind fun state =>
          moves_readReturnData.bind fun returnData => .pure (state, returnData))
        ⟨_, _, _, rfl, ⟨_, hdata, rfl⟩, rfl⟩ gas tail position

/-- **A receipt is read alike from either layout.** With the same kind, the same byte for its
success, the same fields in front of the gas, the same gas and the same bytes behind it, either
layout holds the same receipt, or the same field is cut short, or bytes are left over, of which the
binary layout has just the six more that it takes for its version and its gas. Cut anywhere in
front of the gas, both are read as the same. -/
theorem layouts_agree (success : UInt8) (gas : UInt32) (tail : List UInt8)
    (hfields : FrontWord kind fields) :
    Alike 6
      (decode .compact ([kind.tag, success] ++ (fields ++ BigEndian.toBytes 4 gas.toNat ++ tail)))
      (decode .binary
        ([kind.tag, 0, 0, success] ++ (fields ++ BigEndian.toBytes 8 gas.toNat ++ tail))) ∧
    ∀ cut < fields.length,
      decode .compact ([kind.tag, success] ++ fields.take cut) =
        decode .binary ([kind.tag, 0, 0, success] ++ fields.take cut) := by
  have hcompact : HeaderWord .compact kind ⟨0, success != 0⟩ [kind.tag, success] := .compact
  have hbinary : HeaderWord .binary kind ⟨0, success != 0⟩ [kind.tag, 0, 0, success] :=
    .binary rfl
  simp only [decode_of_headerWord hcompact, decode_of_headerWord hbinary]
  exact readBody_agrees hfields _ gas tail 2

/-- An execution that returned one byte and used ten of gas, with an empty log and a byte that is
left over. -/
theorem layouts_agree_on_leftover :
    FrontWord .exec ((.zero : StateRoot).toList ++ [0, 1, 0x20]) ∧
    decode .compact ([2, 1] ++ ((.zero : StateRoot).toList ++ [0, 1, 0x20] ++ [0, 0, 0, 10] ++
      [1, 0, 0, 9])) = .error (.trailingBytes 44 45) ∧
    Alike 6
      (decode .compact ([2, 1] ++ ((.zero : StateRoot).toList ++ [0, 1, 0x20] ++ [0, 0, 0, 10] ++
        [1, 0, 0, 9])))
      (decode .binary ([2, 0, 0, 1] ++ ((.zero : StateRoot).toList ++ [0, 1, 0x20] ++
        [0, 0, 0, 0, 0, 0, 0, 10] ++ [1, 0, 0, 9]))) ∧
    ∀ cut < 35,
      decode .compact ([2, 1] ++ ((.zero : StateRoot).toList ++ [0, 1, 0x20]).take cut) =
        decode .binary ([2, 0, 0, 1] ++ ((.zero : StateRoot).toList ++ [0, 1, 0x20]).take cut) := by
  have hfields : FrontWord .exec ((.zero : StateRoot).toList ++ [0, 1, 0x20]) := .exec (.mk rfl)
  exact ⟨hfields, rfl, layouts_agree 1 10 [1, 0, 0, 9] hfields⟩

end Receipt

end HostBridge
