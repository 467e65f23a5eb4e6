import SchemaFold.Config.Basic
import SchemaFold.Limits.Json
/-!
Configurations in JSON: an object in which every field may be missing and no other is allowed, or a
list of the first few fields.
-/

namespace SchemaFold.Config

open Json (Record Scan)

/-- How a configuration is read. -/
def record : Record Config Config where
  title := "struct GeneratorConfig"
  blank := standard
  fields := [
    ("schemaUrl", fun _ => do
      let text ← Scan.optional (Scan.text "a string")
      return fun config => { config with schemaUrl := text }),
    ("schemaFile", fun _ => do
      let path ← Scan.optional (Scan.text "path string")
      return fun config => { config with schemaFile := path }),
    ("namespaces", fun room => do
      let table ← Scan.texts room
      return fun config => { config with namespaces := table }),
    ("duplicateKeys", fun room => do
      let policy ← Scan.choice room ("reject", DuplicateKeys.reject) ("last-wins", .lastWins)
      return fun config => { config with duplicateKeys := policy }),
    ("missingIdentifier", fun room => do
      let policy ← Scan.choice room ("reject", MissingIdentifier.reject) ("skip", .skip)
      return fun config => { config with missingIdentifier := policy }),
    ("allowDtd", fun _ => do
      let allowed ← Scan.boolean
      return fun config => { config with allowDtd := allowed }),
    ("limits", fun room => do
      let limits ← Limits.record.read room
      return fun config => { config with limits })]
  isStrict := true
  ofObject := pure
  ofList := pure

/-- The configuration that a text writes. -/
def ofJson (text : String) : Except Json.Failure Config := Json.read (record.read Scan.maxRoom) text

end SchemaFold.Config
