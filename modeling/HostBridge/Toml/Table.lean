/-!
# Tables

The tables of a document and the rules by which they grow. A table comes into being by a header of
its own, by the header of a table below it, or by a key with dots. A header may complete a table
that only headers below it have named, and keys with dots may add to what such keys have made;
nothing is ever defined twice.
-/

namespace HostBridge.Toml

/-- A value of a document. Settings are strings, integers and truth values; of the others no more
is kept than that they are there. -/
inductive Value where
  | string (text : String)
  | integer (number : Int)
  | boolean (truth : Bool)
  | other
  deriving DecidableEq, Repr

/-- How a table came into being. -/
inductive Origin where
  /-- By its own header. -/
  | header
  /-- By the header of a table below it. -/
  | implied
  /-- By a key with dots. -/
  | dotted
  deriving DecidableEq, Repr

/-- What stands under a key. -/
inductive Node where
  | value (value : Value)
  | table (origin : Origin) (entries : List (String × Node))
  /-- An array of tables, of which only the last can be added to. -/
  | tables (last : List (String × Node))

/-- The entries of a table, each under a key of its own. -/
abbrev Entries := List (String × Node)

namespace Entries

/-- What stands under a key. -/
def find? (entries : Entries) (key : String) : Option Node := entries.lookup key

/-- Puts something under a key, in place of what stands there. -/
def put (entries : Entries) (key : String) (node : Node) : Entries :=
  (key, node) :: entries.filter fun entry => entry.1 != key

/-- What was put under a key is found there. -/
@[simp] theorem find?_put (entries : Entries) (key : String) (node : Node) :
    (entries.put key node).find? key = some node := by
  simp [put, find?]

/-- Puts a value under a key that is free. -/
def define? (key : String) (value : Value) (entries : Entries) : Option Entries :=
  match entries.find? key with
  | none => some (entries.put key (.value value))
  | some _ => none

/-- Puts a value under a key with dots. The table right above the value must be made by keys with
dots alone; the tables over it may be anything but defined by a header. -/
def assign? : (above : List String) → String → Value → Entries → Option Entries
  | [], key, value, entries => entries.define? key value
  | part :: above, key, value, entries =>
    match entries.find? part with
    | none => do return entries.put part (.table .dotted (← assign? above key value []))
    | some (.table origin inner) =>
      if origin = .dotted ∨ (origin = .implied ∧ above ≠ []) then do
        return entries.put part (.table origin (← assign? above key value inner))
      else none
    | some (.tables last) =>
      if above = [] then none
      else do return entries.put part (.tables (← assign? above key value last))
    | some (.value _) => none

/-- Changes the table at the end of a path. Tables that are missing on the way are implied. -/
def within? (change : Entries → Option Entries) : List String → Entries → Option Entries
  | [], entries => change entries
  | part :: rest, entries =>
    match entries.find? part with
    | none => do return entries.put part (.table .implied (← within? change rest []))
    | some (.table origin inner) => do
      return entries.put part (.table origin (← within? change rest inner))
    | some (.tables last) => do return entries.put part (.tables (← within? change rest last))
    | some (.value _) => none

/-- Opens a table by its header. -/
def openTable? (key : String) (entries : Entries) : Option Entries :=
  match entries.find? key with
  | none => some (entries.put key (.table .header []))
  | some (.table .implied inner) => some (entries.put key (.table .header inner))
  | some _ => none

/-- Opens the next table of an array by its header. -/
def openElement? (key : String) (entries : Entries) : Option Entries :=
  match entries.find? key with
  | none => some (entries.put key (.tables []))
  | some (.tables _) => some (entries.put key (.tables []))
  | some _ => none

end Entries

end HostBridge.Toml
