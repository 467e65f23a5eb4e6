import SchemaFold.Json.Typed
import SchemaFold.Limits.Basic
/-!
Bounds in JSON: an object of the three bounds, each of which may be missing, or a list of the first
few of them. A bound that is not given is the standard one.
-/

namespace SchemaFold.Limits

open Json (Record Scan)

/-- How bounds are read. Other fields are passed over. -/
def record : Record Limits Limits where
  title := "struct Limits"
  blank := standard
  fields := [
    ("maxXmlDepth", fun _ => do
      let n ← Scan.natural
      return fun limits => { limits with depth := n }),
    ("maxXmlSize", fun _ => do
      let n ← Scan.natural
      return fun limits => { limits with size := n }),
    ("maxAttributes", fun _ => do
      let n ← Scan.natural
      return fun limits => { limits with attributes := n })]
  isStrict := false
  ofObject := pure
  ofList := pure

/-- The bounds that a text writes. -/
def ofJson (text : String) : Except Json.Failure Limits := Json.read (record.read Scan.maxRoom) text

end SchemaFold.Limits
