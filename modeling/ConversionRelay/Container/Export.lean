import ConversionRelay.FileTree
import ConversionRelay.Json.Bytes
import ConversionRelay.Json.Parser
import ConversionRelay.Log
/-!
Container exports, and where they come from.

An export is an object, or an object that holds the export under one key. Its variables stand in one
of two lists, of which the older kind is preferred. Whatever does not fit counts as absent, so every
document is an export; one that is not an object, and a text that is not JSON, are empty exports and
leave a warning.

Main statement: an export that wraps another differs from it in nothing but the mark of the wrapping
(`ofFields_wrapped`).
-/
namespace ConversionRelay

/-- The list that an export keeps its variables in. -/
inductive ExportFormat where
  | olderVariables
  | newerVariables
  | noVariables
  deriving DecidableEq, Repr

/-- The name of a format. -/
def ExportFormat.name : ExportFormat → Text
  | olderVariables => "macro"
  | newerVariables => "variable"
  | noVariables => "empty"

/-- A container export. -/
structure Export where
  format : ExportFormat
  /-- Whether the export was held under a key of another object. -/
  wrapped : Bool
  tags : List Fields
  /-- The records that define its variables. -/
  records : List Value
  triggers : List Value
  containerId : Value
  /-- The whole of the export. -/
  raw : Fields

namespace Export

/-- The export that holds nothing. -/
def empty : Export := ⟨.noVariables, false, [], [], [], .null, []⟩

/-- The key under which an export may be held. -/
def wrapperKey : Text := "containerVersion"

/-- The records of the variables of an export, with its format. -/
def recordsIn (body : Fields) : ExportFormat × List Value :=
  match Value.fieldOf body "macro", Value.fieldOf body "variable" with
  | .array records, _ => (.olderVariables, records)
  | _, .array records => (.newerVariables, records)
  | _, _ => (.noVariables, [])

/-- The identifier of a container: the public one if it has one. -/
def idOf : Value → Value
  | .object fields => (Value.fieldOf fields "publicId").orElse (Value.fieldOf fields "containerId")
  | _ => .null

/-- The export whose fields are given. -/
def ofBody (wrapped : Bool) (body : Fields) : Export :=
  { format := (recordsIn body).1
    wrapped
    tags := (Value.fieldOf body "tag").itemsOrNone.filterMap Value.fields?
    records := (recordsIn body).2
    triggers := (Value.fieldOf body "trigger").itemsOrNone
    containerId := idOf (Value.fieldOf body "container")
    raw := body }

/-- The export that an object is or holds. -/
def ofFields (document : Fields) : Export :=
  match Value.fieldOf document wrapperKey with
  | .object body => ofBody true body
  | _ => ofBody false document

/-- The export that a document is. -/
def ofDocument : Value → Logged Export
  | .object document => pure (ofFields document)
  | other => do
    Logged.write .warning .exports ("GTM export is not an object: " ++ other.kind.word)
    return empty

/-- The export that a text of JSON spells. A malformed text is an empty export; one that cannot be
read for another reason is none. -/
def ofReading : Except Json.ReadError Value → Logged Export
  | .ok document => ofDocument document
  | .error (.malformed problem) => do
    Logged.write .warning .exports ("Invalid GTM export JSON: " ++ problem.message)
    return empty
  | .error other => throw (.json other)

/-- The export that a text spells. -/
def ofText (text : Text) : Logged Export := ofReading (Json.parse text)

/-- The export that bytes spell, in the encoding that they announce. -/
def ofBytes (bytes : List UInt8) : Logged Export :=
  match Json.decodeBytes bytes with
  | .ok text => ofReading (Json.parseDecoded .standard text)
  | .error problem => throw (.undecodable problem)

/-- An export that wraps another differs from it in nothing but the mark of the wrapping. -/
theorem ofFields_wrapped {document body : Fields}
    (holds : Value.fieldOf document wrapperKey = .object body)
    (bare : ∀ inner, Value.fieldOf body wrapperKey ≠ .object inner) :
    ofFields document = { ofFields body with wrapped := true } := by
  have unwrapped : ofFields body = ofBody false body := by
    unfold ofFields
    split
    · rename_i inner h
      exact absurd h (bare inner)
    · rfl
  rw [unwrapped]
  simp [ofFields, holds, ofBody]

end Export

/-- Where an export comes from. -/
inductive ExportSource where
  | text (text : Text)
  | bytes (bytes : List UInt8)
  | file (path : Text)
  | document (value : Value)
  | loaded (found : Export)

namespace Export

/-- The export in a file. -/
def ofFile (files : FileTree) (path : Text) : Logged Export := do
  let path := FilePath.ofText path
  if ← Logged.ofExcept (files.contains path) then
    ofText (← Logged.ofExcept (files.readText path))
  else throw (.fileNotFound path.text)

/-- Load an export. A text is never taken for a path, nor is any value but an object for an
export. -/
def load (files : FileTree) : ExportSource → Logged Export
  | .text text => ofText text
  | .bytes bytes => ofBytes bytes
  | .file path => ofFile files path
  | .document (.object fields) => pure (ofFields fields)
  | .document (.string text) => ofText text
  | .document other => throw (.notText other.kind)
  | .loaded found => pure found

end Export

end ConversionRelay
