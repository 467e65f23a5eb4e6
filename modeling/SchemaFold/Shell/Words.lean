import SchemaFold.Text.Blank
/-!
The words of a command line.

* `Piece`: a part of a word, literal or to be replaced by a value;
* `Token`: a word, or one of the signs between words;
* `tokens`: the tokens of a text;
* `Word.fields`: the arguments that a word stands for. Values outside of quotes are cut at blanks.
-/

namespace SchemaFold.Shell

/-- A value that a word may ask for. -/
inductive Parameter
  | argument (number : Nat)
  | all
  | count
  | status
  | process
  deriving DecidableEq, Repr

/-- A part of a word. -/
inductive Piece
  | literal (text : List Char)
  | value (parameter : Parameter) (isQuoted : Bool)
  deriving DecidableEq, Repr

/-- A word by its parts. -/
abbrev Word := List Piece

/-- A word, or a sign between words. -/
inductive Token
  | word (word : Word)
  | sequel
  | onSuccess
  | onFailure
  | write
  | append
  deriving DecidableEq, Repr

/-- The parameter that a character after a dollar sign names. -/
def Parameter.ofChar? (c : Char) : Option Parameter :=
  if c.isDigit then some (.argument (c.toNat - '0'.toNat))
  else if c = '@' || c = '*' then some .all
  else if c = '#' then some .count
  else if c = '?' then some .status
  else if c = '$' then some .process
  else none

/-- Where reading stands: outside of quotes, or inside those of one kind. -/
inductive Quoting
  | none
  | single
  | double
  deriving DecidableEq, Repr

/-- A character that ends a word outside of quotes. -/
def endsWord (c : Char) : Bool := c == ' ' || c == '\t' || c == '\n' || ";&|<>".toList.contains c

/-- The tokens of a text. `now` is the word being read, in reverse, if there is one. -/
def scan : Quoting → (now : Option Word) → List Char → Option (List Token)
  | .none, now, [] => some ((now.map (fun w => Token.word w.reverse)).toList)
  | .single, _, [] => none
  | .double, _, [] => none
  | .single, now, '\'' :: cs => scan .none now cs
  | .single, now, c :: cs => scan .single (some (.literal [c] :: now.getD [])) cs
  | .double, now, '"' :: cs => scan .none now cs
  | .double, now, '\\' :: c :: cs =>
    let kept := if "$\"\\`".toList.contains c then [c] else ['\\', c]
    scan .double (some (.literal kept :: now.getD [])) cs
  | .double, now, '$' :: c :: cs =>
    match Parameter.ofChar? c with
    | some parameter => scan .double (some (.value parameter true :: now.getD [])) cs
    | none => scan .double (some (.literal ['$'] :: now.getD [])) (c :: cs)
  | .double, now, c :: cs => scan .double (some (.literal [c] :: now.getD [])) cs
  | .none, now, '\'' :: cs => scan .single (some (.literal [] :: now.getD [])) cs
  | .none, now, '"' :: cs => scan .double (some (.literal [] :: now.getD [])) cs
  | .none, now, '\\' :: c :: cs => scan .none (some (.literal [c] :: now.getD [])) cs
  | .none, now, '$' :: c :: cs =>
    match Parameter.ofChar? c with
    | some parameter => scan .none (some (.value parameter false :: now.getD [])) cs
    | none => scan .none (some (.literal ['$'] :: now.getD [])) (c :: cs)
  | .none, now, c :: cs =>
    if endsWord c then
      let before := (now.map (fun w => Token.word w.reverse)).toList
      match c, cs with
      | ' ', cs | '\t', cs => (scan .none none cs).map (before ++ ·)
      | '\n', cs | ';', cs => (scan .none none cs).map (before ++ .sequel :: ·)
      | '&', '&' :: cs => (scan .none none cs).map (before ++ .onSuccess :: ·)
      | '|', '|' :: cs => (scan .none none cs).map (before ++ .onFailure :: ·)
      | '>', '>' :: cs => (scan .none none cs).map (before ++ .append :: ·)
      | '>', cs => (scan .none none cs).map (before ++ .write :: ·)
      | _, _ => none
    else scan .none (some (.literal [c] :: now.getD [])) cs

/-- The tokens of a text, if its quotes are closed and its signs are known. -/
def tokens (text : String) : Option (List Token) := scan .none none text.toList

/-- Adds a piece to the fields so far, which are in reverse, the last one perhaps not begun. -/
def addPiece (value : Parameter → String) (found : List String × Option String) :
    Piece → List String × Option String
  | .literal text => (found.1, some (found.2.getD "" ++ String.ofList text))
  | .value parameter true => (found.1, some (found.2.getD "" ++ value parameter))
  | .value parameter false =>
    (value parameter).toList.foldl (fun found c =>
      if c = ' ' || c = '\t' || c = '\n' then (found.2.toList ++ found.1, none)
      else (found.1, some (found.2.getD "" ++ c.toString))) found

/-- The arguments that a word stands for. -/
def fields (value : Parameter → String) (word : Word) : List String :=
  let (before, last) := word.foldl (addPiece value) ([], none)
  before.reverse ++ last.toList

end SchemaFold.Shell
