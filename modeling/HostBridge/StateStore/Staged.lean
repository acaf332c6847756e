import HostBridge.StateStore.Service

/-!
# A staged store

A store that keeps what was set apart from what was committed. A lookup sees both, what was set
last first; a checkpoint moves the one into the other and counts itself, and the count, repeated
over all bytes, is the root. Its handlers, and a few that serve no store, can be installed in the
slots.
-/

namespace HostBridge.StateStore

/-- Values under keys, in ascending order of the keys. -/
abbrev Entries := List (List UInt8 × List UInt8)

namespace Entries

/-- Puts a value under a key, in place of the one before it. -/
def insert (key value : List UInt8) : Entries → Entries
  | [] => [(key, value)]
  | (other, before) :: entries =>
    if key = other then (key, value) :: entries
    else if compare key other = .lt then (key, value) :: (other, before) :: entries
    else (other, before) :: insert key value entries

/-- An insertion changes what is found under its own key and nothing else. -/
theorem lookup_insert (entries : Entries) (key value wanted : List UInt8) :
    (entries.insert key value).lookup wanted =
      if wanted = key then some value else entries.lookup wanted := by
  induction entries with
  | nil =>
    by_cases h : wanted = key
    · simp [insert, h]
    · simp [insert, List.lookup_cons, beq_false_of_ne h, h]
  | cons entry rest ih =>
    obtain ⟨other, before⟩ := entry
    rw [insert]
    split
    · subst other
      by_cases h : wanted = key
      · simp [h]
      · simp [List.lookup_cons, beq_false_of_ne h, h]
    · next hkey =>
      split
      · by_cases h : wanted = key
        · simp [h]
        · simp [List.lookup_cons, beq_false_of_ne h, h]
      · rw [List.lookup_cons, ih, List.lookup_cons]
        by_cases h : wanted = key
        · simp [h, beq_false_of_ne hkey]
        · simp [h]

/-- Puts every entry of `news` in place. -/
def merge (entries news : Entries) : Entries :=
  news.foldl (fun merged entry => merged.insert entry.1 entry.2) entries

end Entries

/-- A store with a stage. -/
structure Staged where
  /-- What was set since the last checkpoint. -/
  pending : Entries
  committed : Entries
  /-- How many checkpoints there were. It wraps around. -/
  commits : UInt8
  deriving DecidableEq, Repr

namespace Staged

/-- Nothing is stored. -/
def empty : Staged := ⟨[], [], 0⟩

/-- The value under a key. What is pending comes before what is committed. -/
def lookup? (staged : Staged) (key : List UInt8) : Option (List UInt8) :=
  staged.pending.lookup key <|> staged.committed.lookup key

/-- The root: the count of checkpoints in every byte. -/
def root (staged : Staged) : List UInt8 := List.replicate 32 staged.commits

/-- Moves what is pending into what is committed. -/
def commit (staged : Staged) : Staged :=
  ⟨[], staged.committed.merge staged.pending, staged.commits + 1⟩

/-- The handlers of a staged store. -/
def handler : (slot : Slot) → Handler Staged slot
  | .get => fun key => .observe fun staged => .finish (staged.lookup? key)
  | .set => fun (key, value) => .observe fun staged =>
      .update { staged with pending := staged.pending.insert key value } (.finish ())
  | .discard => fun _ => .observe fun staged => .update { staged with pending := [] } (.finish ())
  | .checkpoint => fun _ => .observe fun staged =>
      let committed := staged.commit
      .update committed (.finish committed.root)
  | .head => fun _ => .observe fun staged => .finish staged.root

end Staged

/-! ## Handlers without a store -/

namespace Handler

variable {σ : Type}

/-- Always answers the same. -/
def constant {slot : Slot} (answer : slot.Answer) : Handler σ slot := fun _ => .finish answer

/-- Finds nothing, and makes the key the root from then on, cut or filled up with zeros. -/
def rootOfKey : Handler σ .get := fun key =>
  .install .head (constant (Octets.ofBytes key : StateRoot).toList) (.finish none)

/-- Finds nothing, and removes every handler, itself included. -/
def clearAll : Handler σ .get := fun _ => .clear (.finish none)

end Handler

end HostBridge.StateStore
