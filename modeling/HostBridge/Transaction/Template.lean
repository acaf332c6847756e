import HostBridge.Wire.Field

/-!
# Templates

The payload of a deployment: sections behind their count. Each section has its kind, the length of
its body, and the body.
-/

namespace HostBridge

/-- A section of a template. -/
inductive Template.Section where
  /-- Code with fixed gas prices. -/
  | code (bytes : List UInt8)
  /-- The names of the constructors. -/
  | constructors (names : List String)
  /-- The size in bytes of each variable. -/
  | layout (sizes : List UInt16)
  deriving DecidableEq, Repr

namespace Template.Section

/-- The number that stands for a section's kind. -/
def tag : Section → UInt16
  | .code _ => 1
  | .layout _ => 2
  | .constructors _ => 3

/-- What stands in front of the length of code: its format, how it may run, how gas is priced and
the version of all that. -/
def codeFormat : List Wire.Field := [.u16 1, .u64 1, .u64 1, .u32 0]

/-- The body of a section (`encode_body`). -/
def body : Section → Except EncodeError (List UInt8)
  | .code bytes =>
    if bytes.length < UInt32.size then
      .ok (Wire.write codeFormat ++ Wire.prefixed 4 bytes)
    else .error (.outOfRange .u32 bytes.length)
  | .constructors names =>
    if names.length ≤ 255 then do
      let entries ← names.mapM (Wire.string 1)
      return UInt8.ofNat names.length :: entries.flatten
    else .error (.tooManyItems names.length 255)
  | .layout sizes =>
    if sizes.length ≤ 65535 then
      .ok (Wire.write [.u16 1, .u16 1, .u16 (.ofNat sizes.length), .u32 0]
        ++ Wire.write (sizes.map .u16))
    else .error (.tooManyItems sizes.length 65535)

/-- The kind, the length of the body and the body. -/
def encode (part : Section) : Except EncodeError (List UInt8) := do
  return (Wire.Field.u16 part.tag).bytes ++ Wire.prefixed 4 (← part.body)

end Template.Section

/-- The bytes of a template (`build`). The count of its sections is written in two bytes and no
more; of several sections that cannot be written, the first one is reported. -/
def Template.encode (sections : List Template.Section) : Except EncodeError (List UInt8) := do
  let entries ← sections.mapM Template.Section.encode
  return BigEndian.toBytes 2 sections.length ++ entries.flatten

end HostBridge
