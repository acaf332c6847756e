import Mathlib.Logic.ExistsUnique
import HostBridge.HostedResult
import HostBridge.Proofs.Text.Utf8

/-!
# What a mark stands for

A hosted codec answers with bytes behind a mark. Whatever arrives is of exactly one of four kinds
(`existsUnique_kind`), and the mark alone tells which. Payloads and the texts of errors come out as
they were marked (`unwrap_markPayload`, `unwrap_markError`), so a receipt is read from a payload and
from nothing else, and the text of an error from a report and from nothing else (`marks_lossless`).
-/

namespace HostBridge.HostedResult

variable {bytes payload : List UInt8} {reason : String} {mark : UInt8} {decoded : Receipt}

/-! ## Marks -/

@[simp] theorem unwrap_markPayload (payload : List UInt8) :
    unwrap (markPayload payload) = .ok payload := rfl

/-- The text of an error is well formed, so nothing of it is replaced where it is read leniently. -/
@[simp] theorem unwrap_markError (reason : String) :
    unwrap (markError reason) = .error (.reported reason) := by
  simp [unwrap, markError]

/-- Marks other than zero and one are broken. -/
theorem unwrap_of_lt (h : 1 < mark) (rest : List UInt8) :
    unwrap (mark :: rest) = .error (.brokenMark mark) := by
  have hone : mark ≠ 1 := by
    rintro rfl
    exact absurd h (by decide)
  have hzero : mark ≠ 0 := by
    rintro rfl
    exact absurd h (by decide)
  rw [unwrap, if_neg hone, if_neg hzero]

/-- Marked payloads are told apart. -/
theorem markPayload_inj {other : List UInt8} :
    markPayload payload = markPayload other ↔ payload = other := by
  rw [markPayload, markPayload, List.cons_inj_right]

/-! ## Kinds of results -/

/-- The four kinds of results. -/
inductive Kind where
  | empty
  | payload
  | report
  | broken
  deriving DecidableEq, Repr

/-- What arrives in a result of each kind, and what comes out of it. -/
def Kind.Holds (bytes : List UInt8) : Kind → Prop
  | .empty => bytes = [] ∧ unwrap bytes = .error .empty
  | .payload => ∃ payload, unwrap bytes = .ok payload ∧
    ∀ other, bytes = markPayload other ↔ other = payload
  | .report => ∃ rest, bytes = 0 :: rest ∧
    unwrap bytes = .error (.reported (Utf8.decodeLossy rest))
  | .broken => ∃ mark rest, bytes = mark :: rest ∧ 1 < mark ∧
    unwrap bytes = .error (.brokenMark mark)

/-- The kind of a result by what comes out of it. -/
def kindOf : Except Failure (List UInt8) → Kind
  | .error .empty => .empty
  | .ok _ => .payload
  | .error (.reported _) => .report
  | .error (.brokenMark _) => .broken

/-- The kind of a marked result is the one that its unwrapping shows. -/
theorem Kind.Holds.eq_kindOf {kind : Kind} (h : kind.Holds bytes) :
    kind = kindOf (unwrap bytes) := by
  cases kind with
  | empty => rw [h.2, kindOf]
  | payload =>
    obtain ⟨payload, hunwrap, -⟩ := h
    rw [hunwrap, kindOf]
  | report =>
    obtain ⟨rest, -, hunwrap⟩ := h
    rw [hunwrap, kindOf]
  | broken =>
    obtain ⟨mark, rest, -, -, hunwrap⟩ := h
    rw [hunwrap, kindOf]

/-- The mark decides. -/
theorem exists_holds (bytes : List UInt8) : ∃ kind : Kind, kind.Holds bytes := by
  obtain _ | ⟨mark, rest⟩ := bytes
  · exact ⟨.empty, rfl, rfl⟩
  by_cases hone : mark = 1
  · subst hone
    exact ⟨.payload, rest, rfl, fun other => eq_comm.trans markPayload_inj⟩
  by_cases hzero : mark = 0
  · subst hzero
    exact ⟨.report, rest, rfl, rfl⟩
  have hlt : 1 < mark := by
    have hone' : mark.toNat ≠ 1 := fun h => hone (UInt8.toNat_inj.1 h)
    have hzero' : mark.toNat ≠ 0 := fun h => hzero (UInt8.toNat_inj.1 h)
    exact UInt8.lt_iff_toNat_lt.2 (show 1 < mark.toNat by omega)
  exact ⟨.broken, mark, rest, rfl, hlt, unwrap_of_lt hlt rest⟩

/-- Whatever arrives is of exactly one kind. -/
theorem existsUnique_kind (bytes : List UInt8) : ∃! kind : Kind, kind.Holds bytes := by
  obtain ⟨kind, hkind⟩ := exists_holds bytes
  refine ⟨kind, hkind, fun other hother => ?_⟩
  rw [hother.eq_kindOf, hkind.eq_kindOf]

/-- A payload is unwrapped just of its marked form. -/
theorem unwrap_eq_ok_iff : unwrap bytes = .ok payload ↔ bytes = markPayload payload := by
  refine ⟨fun h => ?_, fun h => h ▸ unwrap_markPayload payload⟩
  obtain ⟨kind, hkind⟩ := exists_holds bytes
  obtain rfl : kind = .payload := by rw [hkind.eq_kindOf, h, kindOf]
  obtain ⟨other, hunwrap, hunique⟩ := hkind
  obtain rfl : payload = other := Except.ok.inj (h.symm.trans hunwrap)
  exact (hunique payload).2 rfl

/-- An error is unwrapped just of the mark of an error and a text, replaced where it is no text. -/
theorem unwrap_eq_reported_iff : unwrap bytes = .error (.reported reason) ↔
    ∃ rest, bytes = 0 :: rest ∧ Utf8.decodeLossy rest = reason := by
  refine ⟨fun h => ?_, ?_⟩
  · obtain ⟨kind, hkind⟩ := exists_holds bytes
    obtain rfl : kind = .report := by rw [hkind.eq_kindOf, h, kindOf]
    obtain ⟨rest, hbytes, hunwrap⟩ := hkind
    rw [h] at hunwrap
    cases hunwrap
    exact ⟨rest, hbytes, rfl⟩
  · rintro ⟨rest, rfl, rfl⟩
    rfl

/-! ## Receipts -/

/-- The receipt of a marked payload is read of the payload, in the compact layout. -/
theorem receipt_markPayload (payload : List UInt8) :
    receipt (markPayload payload) = (Receipt.decode .compact payload).mapError .noReceipt := rfl

/-- A marked result holds a receipt just if its payload does. -/
theorem receipt_eq_ok_iff : receipt bytes = .ok decoded ↔
    ∃ payload, unwrap bytes = .ok payload ∧ Receipt.decode .compact payload = .ok decoded := by
  unfold receipt
  cases unwrap bytes with
  | error failure => simp
  | ok payload =>
    simp only [Except.ok.injEq, exists_eq_left']
    cases Receipt.decode .compact payload with
    | error error => exact iff_of_false nofun nofun
    | ok found =>
      change Except.ok found = Except.ok decoded ↔ _
      rw [Except.ok.injEq, Except.ok.injEq]

/-- What has no payload holds no receipt for the same reason. -/
theorem receipt_eq_noPayload_iff {failure : Failure} :
    receipt bytes = .error (.noPayload failure) ↔ unwrap bytes = .error failure := by
  unfold receipt
  cases unwrap bytes with
  | error other => simp
  | ok payload =>
    dsimp only
    cases Receipt.decode .compact payload with
    | error error => exact iff_of_false nofun nofun
    | ok found => exact iff_of_false nofun nofun

/-- **Marks lose nothing.** What is marked comes out as it was. Whatever arrives is of exactly one
kind, so a receipt is read only from a payload, as it stands there, and the text of an error only
from a report. -/
theorem marks_lossless :
    (∀ payload, unwrap (markPayload payload) = .ok payload) ∧
    (∀ reason, unwrap (markError reason) = .error (.reported reason)) ∧
    (∀ bytes, ∃! kind : Kind, kind.Holds bytes) ∧
    (∀ payload, receipt (markPayload payload) =
      (Receipt.decode .compact payload).mapError .noReceipt) ∧
    (∀ bytes decoded, receipt bytes = .ok decoded ↔
      ∃ payload, bytes = markPayload payload ∧ Receipt.decode .compact payload = .ok decoded) ∧
    ∀ bytes reason, receipt bytes = .error (.noPayload (.reported reason)) ↔
      ∃ rest, bytes = 0 :: rest ∧ Utf8.decodeLossy rest = reason := by
  refine ⟨unwrap_markPayload, unwrap_markError, existsUnique_kind, receipt_markPayload,
    fun bytes decoded => ?_, fun bytes reason => ?_⟩
  · simp only [receipt_eq_ok_iff, unwrap_eq_ok_iff]
  · rw [receipt_eq_noPayload_iff, unwrap_eq_reported_iff]

end HostBridge.HostedResult
