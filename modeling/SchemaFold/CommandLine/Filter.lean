import SchemaFold.Log
import SchemaFold.Text.Quoted
import SchemaFold.Text.Split
/-!
Which events are shown, and how.

* `Filter`: the least grave level that is shown, by source;
* `Filter.parse?`: a filter as a user writes it: `info`, `xsdgen::driver=debug`, several with
  commas;
* `Event.line`: an event on one line.
-/

namespace SchemaFold

/-- Levels for the sources that begin with a text; none shows nothing. -/
abbrev Filter := List (String × Option Level)

namespace Filter

/-- The filter that shows every source up to a level. -/
def upTo (level : Level) : Filter := [("", some level)]

/-- The filter for the number of times that more has been asked for. -/
def ofVerbosity : Nat → Filter
  | 0 => upTo .warn
  | 1 => upTo .info
  | 2 => upTo .debug
  | _ => upTo .trace

/-- The level with a name or number, which may be none. -/
def level? (word : String) : Option (Option Level) :=
  match word.toLower with
  | "off" | "0" => some none
  | "error" | "1" => some (some .error)
  | "warn" | "2" => some (some .warn)
  | "info" | "3" => some (some .info)
  | "debug" | "4" => some (some .debug)
  | "trace" | "5" => some (some .trace)
  | _ => none

/-- A character of a source. -/
def isSourceChar (c : Char) : Bool := c.isAlphanum || c == '_' || c == ':' || c == '-'

/-- A source, which is not empty. -/
def isSource (cs : List Char) : Bool := !cs.isEmpty && cs.all isSourceChar

/-- One entry: a level, a source, or both. A source alone is shown with everything. -/
def entry? (cs : List Char) : Option (String × Option Level) :=
  match level? (String.ofList cs) with
  | some level => some ("", level)
  | none =>
    match Text.cutChars '=' cs with
    | some (source, word) =>
      if isSource source then
        if word.isEmpty then some (String.ofList source, some .trace)
        else (level? (String.ofList word)).map (fun level => (String.ofList source, level))
      else none
    | none => if isSource cs then some (String.ofList cs, some .trace) else none

/-- A filter as it is written; without an entry it shows errors only. -/
def parse? (written : String) : Option Filter :=
  let entries := (Text.splitChars ',' written.toList).filter (fun cs => !cs.isEmpty)
  (entries.mapM entry?).map (fun filter => if filter.isEmpty then upTo .error else filter)

/-- The better of two entries: the one for the longer source, and of equals the later one. -/
def better (best : Option (String × Option Level)) (entry : String × Option Level) :
    Option (String × Option Level) :=
  match best with
  | some b => if b.1.length ≤ entry.1.length then some entry else best
  | none => some entry

/-- An event is shown if the entry that fits its source best lets its level pass. -/
def shows (filter : Filter) (event : Event) : Bool :=
  let fitting := filter.filter (fun entry => entry.1.toList.isPrefixOf event.source.toList)
  match fitting.foldl better none with
  | some (_, some level) => event.level.rank ≤ level.rank
  | _ => false

end Filter

/-- A value as it stands in a log. -/
def FieldValue.shown : FieldValue → String
  | .label text | .program text => Text.quote text
  | .plain text => text

/-- An event on one line. -/
def Event.line (event : Event) : String :=
  event.level.text ++ " " ++ event.source ++ ": " ++ event.message ++
    String.join (event.fields.map (fun field => " " ++ field.1 ++ "=" ++ field.2.shown)) ++ "\n"

end SchemaFold
