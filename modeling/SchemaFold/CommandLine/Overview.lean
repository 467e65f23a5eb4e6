import SchemaFold.Json.Quoted
import SchemaFold.Model
/-!
Overviews of a model for people and for programs.

* `Overview.text`: a line for each construct, and one more if it holds others;
* `Overview.json`: a list of objects with sorted keys.
-/

namespace SchemaFold.Overview

/-- What is known of the type of a construct. -/
def typeText (summary : Summary) : String :=
  let written := summary.typeRef.getD "anonymous"
  match summary.builtin with
  | some type => String.join [written, " (built-in, ", type.category.text, ", ",
      toString type.facets.length, " facets)"]
  | none => written

/-- The lines of a construct. -/
def lines (summary : Summary) : String :=
  "  " ++ summary.name ++ " : " ++ typeText summary ++ "\n" ++
    (if summary.children = 0 then "" else "      " ++ toString summary.children ++ " nested\n")

/-- A model as text. -/
def text (source : String) (summaries : List Summary) : String :=
  "Schema: " ++ source ++ "\nConstructs: " ++ toString summaries.length ++ "\n" ++
    String.join (summaries.map lines)

/-- A string, or null. -/
def textOrNull : Option String → String
  | some s => String.ofList (Json.quoted s)
  | none => "null"

/-- The members of the object of a construct. -/
def members (summary : Summary) : List (String × String) :=
  [("builtin", textOrNull (summary.builtin.map (·.name))),
   ("children", toString summary.children),
   ("name", textOrNull (some summary.name)),
   ("type", textOrNull summary.typeRef)]

/-- The object of a construct. -/
def entry (summary : Summary) : String :=
  let written := (members summary).map (fun m => "    \"" ++ m.1 ++ "\": " ++ m.2)
  String.join ["  \x7b\n", String.intercalate ",\n" written, "\n  \x7d"]

/-- A model as JSON with one member a line. -/
def json (summaries : List Summary) : String :=
  if summaries.isEmpty then "[]"
  else "[\n" ++ String.intercalate ",\n" (summaries.map entry) ++ "\n]"

end SchemaFold.Overview
