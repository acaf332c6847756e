import HostBridge.Config
import HostBridge.Text.Utf8
import HostBridge.Toml.Document

/-!
# Configuration files

A configuration may be written as a TOML document with a key for each setting. A setting that is
not there keeps its standard value, and keys that are no settings are ignored.
-/

namespace HostBridge

/-- Why a file is no configuration. -/
inductive ConfigFileError where
  /-- There is no such file, or it is no text. -/
  | unreadable
  /-- The text is no document, or a setting in it is of the wrong type. -/
  | malformed
  /-- The settings make no sense. -/
  | invalid (error : ConfigError)
  deriving DecidableEq, Repr

namespace Config

/-- A setting: `standard` where the key is missing, and nothing where its value is of the wrong
type. -/
def setting? {α : Type} (entries : Toml.Entries) (key : String) (read? : Toml.Value → Option α)
    (standard : α) : Option α :=
  match entries.find? key with
  | none => some standard
  | some (.value value) => read? value
  | some _ => none

/-- A truth value. -/
def truth? : Toml.Value → Option Bool
  | .boolean truth => some truth
  | _ => none

/-- An amount of gas, which is not negative. -/
def gas? : Toml.Value → Option UInt64
  | .integer number => if number < 0 then none else some (UInt64.ofNat number.toNat)
  | _ => none

/-- A text. -/
def text? : Toml.Value → Option String
  | .string text => some text
  | _ => none

/-- The settings of a document. -/
def ofEntries? (entries : Toml.Entries) : Option Config := do
  let gasMetering ← setting? entries "gas_metering" truth? standard.gasMetering
  let gasLimit ← setting? entries "gas_limit" gas? standard.gasLimit
  let importSpace ← setting? entries "import_namespace" text? standard.importSpace
  return ⟨gasMetering, gasLimit, importSpace⟩

/-- The settings that a text holds, if they make sense (`from_toml_str`). -/
def ofText (text : String) : Except ConfigFileError Config :=
  match (Toml.Entries.ofText? text).bind ofEntries? with
  | none => .error .malformed
  | some config =>
    match config.check with
    | .ok () => .ok config
    | .error error => .error (.invalid error)

/-- The settings that a file holds (`load`). There is none where there is no file. -/
def ofFile (file : Option (List UInt8)) : Except ConfigFileError Config :=
  match file.bind Utf8.decode? with
  | none => .error .unreadable
  | some text => ofText text

end Config

end HostBridge
