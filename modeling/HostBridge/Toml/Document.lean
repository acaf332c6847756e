import HostBridge.Toml.Value

/-!
# Documents

A document is a list of lines, each with a header, with a key and its value, or with neither. A
header says which table the lines behind it belong to. Reading is strict: a text with a mistake in
it has no entries at all.
-/

namespace HostBridge.Toml

open Scanner

/-- What a line of a document says. -/
inductive Statement where
  /-- The lines behind it belong to a table. -/
  | table (keys : List String)
  /-- The lines behind it belong to the next table of an array. -/
  | element (keys : List String)
  | assign (keys : List String) (value : Value)
  deriving DecidableEq, Repr

/-- A header, or a key and its value. -/
def statement : Scanner Statement :=
  (do
    word ['[', '[']
    let keys ← path
    word [']', ']']
    return .element keys)
  <|> (do
    char '['
    let keys ← path
    char ']'
    return .table keys)
  <|> (do
    let (keys, value) ← pair (value nestingLimit)
    return .assign keys value)

/-- A line, the end of the text being none. -/
def line : Scanner (Option Statement) := do
  if (← get).isEmpty then failure
  blanks
  let found ← maybe statement
  lineEnd
  return found

/-- What the lines of a text say. A byte order mark may come before them. -/
def statements : Scanner (List Statement) := do
  let _ ← maybe (char '\ufeff')
  let lines ← many line
  ending
  return lines.filterMap id

/-- The entries of a document on the way through its lines. -/
structure Draft where
  entries : Entries
  /-- The table that the lines belong to. -/
  current : List String

namespace Draft

/-- Takes in what a line says. -/
def take? (draft : Draft) : Statement → Option Draft
  | .table keys => do
    let key ← keys.getLast?
    return ⟨← Entries.within? (Entries.openTable? key) keys.dropLast draft.entries, keys⟩
  | .element keys => do
    let key ← keys.getLast?
    return ⟨← Entries.within? (Entries.openElement? key) keys.dropLast draft.entries, keys⟩
  | .assign keys value => do
    return { draft with
      entries := ← Entries.within? (Entries.assignPath? keys value) draft.current draft.entries }

end Draft

/-- The entries of a document, if the text is one. -/
def Entries.ofText? (text : String) : Option Entries := do
  let (found, _) ← statements text.toList
  let draft ← found.foldlM Draft.take? ⟨[], []⟩
  return draft.entries

end HostBridge.Toml
