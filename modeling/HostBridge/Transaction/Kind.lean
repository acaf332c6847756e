/-!
# Kinds of transaction

A transaction deploys a template, spawns an app from a template, or executes a function of an app.
-/

namespace HostBridge

/-- The kind of a transaction and of the receipt it leaves (`TxType`). -/
inductive TransactionKind where
  | deploy | spawn | exec
  deriving DecidableEq, Repr

namespace TransactionKind

/-- The byte that stands for a kind. -/
def tag : TransactionKind → UInt8
  | .deploy => 0
  | .spawn => 1
  | .exec => 2

/-- The kind that a byte stands for. -/
def ofTag? (tag : UInt8) : Option TransactionKind :=
  if tag = 0 then some .deploy
  else if tag = 1 then some .spawn
  else if tag = 2 then some .exec
  else none

/-- The name of a kind in messages. -/
def name : TransactionKind → String
  | .deploy => "deploy"
  | .spawn => "spawn"
  | .exec => "exec"

@[simp] theorem ofTag?_tag (kind : TransactionKind) : ofTag? kind.tag = some kind := by
  cases kind <;> rfl

/-- A tag that is understood is the tag of the kind. -/
theorem tag_of_ofTag? {tag : UInt8} {kind : TransactionKind} (h : ofTag? tag = some kind) :
    kind.tag = tag := by
  grind [ofTag?, TransactionKind.tag]

end TransactionKind

end HostBridge
