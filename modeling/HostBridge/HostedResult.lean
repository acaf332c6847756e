import HostBridge.Receipt.Reader
import HostBridge.Text.Utf8

/-!
# Hosted results

What a hosted codec returns starts with a mark: `1` in front of a payload, `0` in front of the
text of an error. Any other mark breaks the agreement between the two sides, and nothing behind it
can be trusted.
-/

namespace HostBridge.HostedResult

/-- Why a hosted result holds no payload (`MarkedError`). -/
inductive Failure where
  /-- Not even the mark is there. -/
  | empty
  /-- The codec reported this error. -/
  | reported (reason : String)
  /-- The mark is neither of the two. -/
  | brokenMark (mark : UInt8)
  deriving DecidableEq, Repr

/-- What is said about a result without a payload. -/
def Failure.message : Failure → String
  | .empty => "empty result buffer"
  | .reported reason => reason
  | .brokenMark mark => s!"invalid result marker {mark}"

/-- A payload with its mark (`mark_ok`). -/
def markPayload (payload : List UInt8) : List UInt8 := 1 :: payload

/-- The text of an error with its mark (`mark_err`). -/
def markError (reason : String) : List UInt8 := 0 :: Utf8.encode reason

/-- The payload of a result (`unwrap_marked`). -/
def unwrap : List UInt8 → Except Failure (List UInt8)
  | [] => .error .empty
  | mark :: rest =>
    if mark = 1 then .ok rest
    else if mark = 0 then .error (.reported (Utf8.decodeLossy rest))
    else .error (.brokenMark mark)

/-- Why a hosted result holds no receipt. -/
inductive ReceiptFailure where
  | noPayload (failure : Failure)
  | noReceipt (error : DecodeError)
  deriving DecidableEq, Repr

/-- The receipt of a result, in the compact layout. The payload goes to `decode_receipt_with`. -/
def receipt (bytes : List UInt8) : Except ReceiptFailure Receipt :=
  match unwrap bytes with
  | .error failure => .error (.noPayload failure)
  | .ok payload => (Receipt.decode .compact payload).mapError .noReceipt

end HostBridge.HostedResult
