import HostBridge.Proofs.Wire.Reading
import HostBridge.Wire.Request
import Mathlib.Data.List.Forall2

/-!
# Readers undo writers

Pieces that a writer emits one after the other are found again by a reader that asks for them in
the same order (`serveAll_written`): each unchanged, with the reader behind it where the writer was,
and whatever stands behind the last of them is told to be too much. A number may be asked for by its
type or by its width.
-/

namespace HostBridge.Wire

/-- What a writer is given: a field, or a text that goes behind its length in two bytes. -/
inductive Piece where
  | plain (field : Field)
  | text (text : String) (fits : (Utf8.encode text).length ≤ 65535)

namespace Piece

/-- The fields that a piece is written as. -/
def fields : Piece → List Field
  | .plain field => [field]
  | .text value _ => [.u16 (.ofNat (Utf8.encode value).length), .raw (Utf8.encode value)]

/-- What a reader hands back that finds the piece. -/
def found : Piece → Reader.Found
  | .plain (.u8 value) => .number value.toNat
  | .plain (.u16 value) => .number value.toNat
  | .plain (.u32 value) => .number value.toNat
  | .plain (.u64 value) => .number value.toNat
  | .plain (.raw bytes) => .bytes bytes
  | .text value _ => .text value

/-- Whether a request asks for such a piece. -/
def AskedBy : Piece → Reader.Request → Prop
  | .plain (.u8 _), request => request = .u8 ∨ request = .number 1
  | .plain (.u16 _), request => request = .u16 ∨ request = .number 2
  | .plain (.u32 _), request => request = .u32 ∨ request = .number 4
  | .plain (.u64 _), request => request = .u64 ∨ request = .number 8
  | .plain (.raw bytes), request => request = .bytes bytes.length
  | .text _ _, request => request = .string

end Piece

/-- The bytes of pieces that are written one after the other. -/
def written (pieces : List Piece) : List UInt8 := write (pieces.flatMap Piece.fields)

variable {piece : Piece} {pieces : List Piece} {request : Reader.Request}
  {requests more : List Reader.Request} {position : Nat} {behind : List UInt8}

@[simp] theorem written_nil : written [] = [] := rfl

@[simp] theorem written_cons (piece : Piece) (pieces : List Piece) :
    written (piece :: pieces) = write piece.fields ++ written pieces := by
  simp [written]

/-! ## One piece -/

/-- A number is found by its width. -/
theorem finds_number {width value : Nat} (h : value < BigEndian.capacity width) :
    (Reader.Request.number width).read.Finds (.number value) (BigEndian.toBytes width value) := by
  have hvalue := BigEndian.ofBytes_toBytes_of_lt h
  exact ((Read.obeys_nat width).finds ⟨BigEndian.length_toBytes .., hvalue.symm⟩).bind_pure _

/-- A request finds the piece that it asks for. -/
theorem finds_found (h : piece.AskedBy request) :
    request.read.Finds piece.found (write piece.fields) := by
  cases piece with
  | text text fits =>
    cases h
    have hword : string 2 text = .ok (write [.u16 (.ofNat (Utf8.encode text).length),
        .raw (Utf8.encode text)]) := by
      have hlength : (UInt16.ofNat (Utf8.encode text).length).toNat = (Utf8.encode text).length :=
        UInt16.toNat_ofNat_of_lt' (Nat.lt_succ_of_le fits)
      refine string_eq_ok_iff.2 ⟨fits, ?_⟩
      simp [Field.bytes, prefixed, hlength]
    exact (Read.finds_string hword).bind_pure _
  | plain field =>
  have hbytes : write (Piece.plain field).fields = field.bytes := by simp [Piece.fields]
  rw [hbytes]
  cases field with
  | u8 value =>
    rcases h with rfl | rfl
    · exact (Read.obeys_u8.finds rfl).bind_pure _
    · have hword : Field.bytes (.u8 value) = BigEndian.toBytes 1 value.toNat := by
        simp [Field.bytes, BigEndian.toBytes]
      rw [hword]
      exact finds_number value.toNat_lt
  | u16 value =>
    rcases h with rfl | rfl
    · exact (Read.obeys_u16.finds rfl).bind_pure _
    · exact finds_number value.toNat_lt
  | u32 value =>
    rcases h with rfl | rfl
    · exact (Read.obeys_u32.finds rfl).bind_pure _
    · exact finds_number value.toNat_lt
  | u64 value =>
    rcases h with rfl | rfl
    · exact (Read.obeys_u64.finds rfl).bind_pure _
    · exact finds_number value.toNat_lt
  | raw bytes =>
    cases h
    exact (Read.Finds.bytes rfl).bind_pure _

/-- What is found is served, and the reader stands behind it. -/
theorem serve_of_finds {found : Reader.Found} {word : List UInt8}
    (h : request.read.Finds found word) :
    Reader.serve ⟨position, word ++ behind⟩ request =
      (.ok found, ⟨position + word.length, behind⟩) := by
  rw [Reader.serve, h]

/-! ## Pieces one after the other -/

/-- Behind the pieces the reader goes on. -/
theorem drop_serveAll (h : List.Forall₂ Piece.AskedBy pieces requests) :
    (Reader.serveAll ⟨position, written pieces ++ behind⟩ (requests ++ more)).drop pieces.length =
      Reader.serveAll ⟨position + (written pieces).length, behind⟩ more := by
  induction h generalizing position with
  | nil => rfl
  | cons hasked _ ih =>
    rw [written_cons, List.append_assoc, List.cons_append, Reader.serveAll,
      serve_of_finds (finds_found hasked), List.length_cons, List.drop_succ_cons, ih,
      List.length_append, Nat.add_assoc]

/-- Each piece is found where it was put. -/
theorem getElem?_serveAll (h : List.Forall₂ Piece.AskedBy pieces requests) {index : Nat}
    (hindex : pieces[index]? = some piece) :
    (Reader.serveAll ⟨position, written pieces ++ behind⟩ (requests ++ more))[index]? =
      some (.ok piece.found, ⟨position + (written (pieces.take (index + 1))).length,
        written (pieces.drop (index + 1)) ++ behind⟩) := by
  induction h generalizing position index with
  | nil => cases hindex
  | cons hasked _ ih =>
    rw [written_cons, List.append_assoc, List.cons_append, Reader.serveAll,
      serve_of_finds (finds_found hasked)]
    cases index with
    | zero =>
      cases hindex
      simp
    | succ index =>
      rw [List.getElem?_cons_succ, ih hindex]
      simp [Nat.add_assoc]

/-- **Readers undo writers.** Asked for the pieces in the order in which they were written, a reader
hands back each of them unchanged and stands behind it then, at the size of all pieces so far. The
end is reached there if nothing stands behind the last piece, and otherwise the answer tells how
much was read and how much there was. -/
theorem serveAll_written (h : List.Forall₂ Piece.AskedBy pieces requests) (behind : List UInt8) :
    let size := (written pieces).length
    let served : List (Except DecodeError Reader.Found × Reader) :=
      (Reader.ofBytes (written pieces ++ behind)).serveAll (requests ++ [.finish])
    (∀ (index : Nat) (piece : Piece), pieces[index]? = some piece → served[index]? =
      some (.ok piece.found, ⟨(written (pieces.take (index + 1))).length,
        written (pieces.drop (index + 1)) ++ behind⟩)) ∧
    served.drop pieces.length = [(if behind = [] then .ok .nothing
      else .error (.trailingBytes size (size + behind.length)), ⟨size, behind⟩)] := by
  refine ⟨fun index piece hindex => ?_, ?_⟩
  · rw [Reader.ofBytes, getElem?_serveAll h hindex, Nat.zero_add]
  · rw [Reader.ofBytes, drop_serveAll h, Nat.zero_add]
    cases behind with
    | nil => rfl
    | cons byte rest => rfl

/-- A number asked for by its width, a text with a character of two bytes, and one byte too many. -/
theorem served_of_mixed :
    let pieces : List Piece := [.plain (.u32 7), .text "é" (by decide), .plain (.raw [9])]
    let requests : List Reader.Request := [.number 4, .string, .bytes 1]
    List.Forall₂ Piece.AskedBy pieces requests ∧
      ((Reader.ofBytes (written pieces ++ [0])).serveAll (requests ++ [.finish])).drop 3 =
        [(.error (.trailingBytes 9 10), ⟨9, [0]⟩)] := by
  have hasked : List.Forall₂ Piece.AskedBy
      [.plain (.u32 7), .text "é" (by decide), .plain (.raw [9])] [.number 4, .string, .bytes 1] :=
    .cons (.inr rfl) (.cons rfl (.cons rfl .nil))
  exact ⟨hasked, (serveAll_written hasked [0]).2⟩

end HostBridge.Wire
