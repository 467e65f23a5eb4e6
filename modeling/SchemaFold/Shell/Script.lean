import SchemaFold.Emit.Command
import SchemaFold.Shell.Words
/-!
Programs that can be run without an operating system: `true`, `false`, `echo` and a small `sh`.

* `World`: what programs leave behind: output, error output, and writes to files;
* `Script`: simple commands with signs between them;
* `launch`: runs a program by its name.

A script knows quotes, arguments, the signs between commands, writing to files, and the commands
`echo`, `printf`, `true`, `false`, `:`, `exit`, `test`, `[` and `kill`, the last on the shell
itself.
-/

namespace SchemaFold.Shell

/-- A text to be written to a file, or added to it. -/
structure Write where
  path : String
  isAppend : Bool
  text : String
  deriving DecidableEq, Repr

/-- What programs leave behind. -/
structure World where
  output : String
  errors : String
  writes : List Write
  deriving DecidableEq, Repr

/-- Nothing left behind. -/
def World.empty : World := ⟨"", "", []⟩

/-- A command with its arguments, and the file that its output goes to. -/
structure Simple where
  words : List Word
  target : Option (Bool × Word)
  deriving DecidableEq, Repr

/-- When a command is run, by how the one before it ended. -/
inductive Condition
  | always
  | onSuccess
  | onFailure
  deriving DecidableEq, Repr

/-- Commands in order. -/
abbrev Script := List (Condition × Simple)

/-- Adds a word or target to a command. -/
def Simple.add (simple : Simple) (word : Word) : Simple :=
  { simple with words := simple.words ++ [word] }

/-- Tokens as a script; `now` is the command being read. -/
def scriptOf : Condition → (now : Simple) → List Token → Option Script
  | condition, now, [] => some [(condition, now)]
  | condition, now, .word w :: rest => scriptOf condition (now.add w) rest
  | condition, now, .write :: .word w :: rest =>
    scriptOf condition { now with target := some (false, w) } rest
  | condition, now, .append :: .word w :: rest =>
    scriptOf condition { now with target := some (true, w) } rest
  | condition, now, .sequel :: rest =>
    (scriptOf .always ⟨[], none⟩ rest).map ((condition, now) :: ·)
  | condition, now, .onSuccess :: rest =>
    (scriptOf .onSuccess ⟨[], none⟩ rest).map ((condition, now) :: ·)
  | condition, now, .onFailure :: rest =>
    (scriptOf .onFailure ⟨[], none⟩ rest).map ((condition, now) :: ·)
  | _, _, _ => none

/-- Where a script stands: its last status, and its end if it has ended early. -/
structure Machine where
  world : World
  status : Nat
  ended : Option ExitStatus
  deriving DecidableEq, Repr

/-- The arguments as a line. -/
def echoText (arguments : List String) : String :=
  match arguments with
  | "-n" :: rest => String.intercalate " " rest
  | all => String.intercalate " " all ++ "\n"

/-- A format with arguments put in, and the arguments that are left. -/
def formatOnce : List Char → List String → List Char × List String
  | '%' :: 's' :: cs, arguments =>
    let (text, left) := formatOnce cs (arguments.drop 1)
    ((arguments.head?.getD "").toList ++ text, left)
  | '\\' :: 'n' :: cs, arguments =>
    let (text, left) := formatOnce cs arguments
    ('\n' :: text, left)
  | c :: cs, arguments =>
    let (text, left) := formatOnce cs arguments
    (c :: text, left)
  | [], arguments => ([], arguments)

/-- A format that is gone through until no argument is left. Each time takes at least one, or is the
last. -/
def formatAll (format : List Char) : (times : Nat) → List String → List Char
  | 0, _ => []
  | times + 1, arguments =>
    let (text, left) := formatOnce format arguments
    if left.isEmpty || left.length = arguments.length then text
    else text ++ formatAll format times left

/-- The text that a format and its arguments make. -/
def printText : List String → String
  | [] => ""
  | format :: arguments => String.ofList (formatAll format.toList (arguments.length + 1) arguments)

/-- Whether a test holds, if it is one that is known. -/
def holds? : List String → Option Bool
  | [] => some false
  | [text] => some (!text.isEmpty)
  | ["-n", text] => some (!text.isEmpty)
  | ["-z", text] => some text.isEmpty
  | [a, "=", b] => some (a == b)
  | [a, "!=", b] => some (a != b)
  | "!" :: rest => (holds? rest).map not
  | _ => none

/-- The status of a test. -/
def testStatus (arguments : List String) : Nat := if holds? arguments = some true then 0 else 1

/-- The signals by name and number. -/
def signals : List (String × Nat) :=
  [("HUP", 1), ("INT", 2), ("KILL", 9), ("PIPE", 13), ("ALRM", 14), ("TERM", 15), ("USR1", 10),
   ("USR2", 12)]

/-- The signal that an option names, by name or number. -/
def signal? (option : String) : Option ExitStatus :=
  let start := if option.startsWith "-SIG" then 4 else 1
  let name := (option.drop start).toString
  (signals.find? (fun s => s.1 == name || toString s.2 == name)).map
    (fun s => .signal s.2 ("SIG" ++ s.1))

/-- The number by which a script knows its own process. -/
def ownProcess : String := "1000"

/-- The number that the shell ends with for an argument of `exit`. -/
def exitCode? (argument : String) : Option Nat := argument.toNat?.map (· % 256)

/-- A command that the shell does not know. -/
def unknown (shell command : String) (machine : Machine) : Machine :=
  { machine with
    world := { machine.world with
      errors := machine.world.errors ++ shell ++ ": 1: " ++ command ++ ": not found\n" }
    status := 127 }

/-- Runs a command: the output it has, and where the script stands then. -/
def command (shell : String) (machine : Machine) : List String → String × Machine
  | [] => ("", machine)
  | "echo" :: arguments => (echoText arguments, { machine with status := 0 })
  | "printf" :: arguments => (printText arguments, { machine with status := 0 })
  | "true" :: _ | ":" :: _ => ("", { machine with status := 0 })
  | "false" :: _ => ("", { machine with status := 1 })
  | "exit" :: arguments =>
    let code := (arguments.head?.bind exitCode?).getD machine.status
    ("", { machine with status := code, ended := some (.code code) })
  | "test" :: arguments => ("", { machine with status := testStatus arguments })
  | "[" :: arguments => ("", { machine with status := testStatus arguments.dropLast })
  | "kill" :: arguments =>
    match arguments with
    | [target] =>
      if target = ownProcess then ("", { machine with ended := some (.signal 15 "SIGTERM") })
      else ("", { machine with status := 1 })
    | [option, target] =>
      if target = ownProcess then ("", { machine with ended := signal? option })
      else ("", { machine with status := 1 })
    | _ => ("", { machine with status := 2 })
  | name :: _ => ("", unknown shell name machine)

/-- Sends output where it belongs. -/
def World.send (world : World) (target : Option (Bool × String)) (text : String) : World :=
  match target with
  | none => { world with output := world.output ++ text }
  | some (isAppend, path) => { world with writes := world.writes ++ [⟨path, isAppend, text⟩] }

/-- The value of a parameter for a script with a name and arguments. -/
def valueOf (shell : String) (arguments : List String) (status : Nat) : Parameter → String
  | .argument 0 => shell
  | .argument n => (arguments[n - 1]?).getD ""
  | .all => String.intercalate " " arguments
  | .count => toString arguments.length
  | .status => toString status
  | .process => ownProcess

/-- The condition of a command is met. -/
def isMet (condition : Condition) (status : Nat) : Bool :=
  match condition with
  | .always => true
  | .onSuccess => status == 0
  | .onFailure => status != 0

/-- Runs one command of a script, if it is its turn. -/
def runSimple (shell : String) (arguments : List String) (machine : Machine)
    (entry : Condition × Simple) : Machine :=
  if machine.ended.isSome || !isMet entry.1 machine.status then machine
  else
    let value := valueOf shell arguments machine.status
    let target := entry.2.target.map (fun t => (t.1, String.intercalate " " (fields value t.2)))
    let (text, next) := command shell machine (entry.2.words.flatMap (fields value))
    { next with world := next.world.send target text }

/-- Runs a script. One that cannot be read ends with status 2. -/
def runScript (text shell : String) (arguments : List String) (world : World) :
    World × ExitStatus :=
  match (tokens text).bind (scriptOf .always ⟨[], none⟩) with
  | none => ({ world with errors := world.errors ++ shell ++ ": 1: Syntax error\n" }, .code 2)
  | some script =>
    let machine := script.foldl (runSimple shell arguments) ⟨world, 0, none⟩
    (machine.world, machine.ended.getD (.code machine.status))

/-- The directories that programs are found in. -/
def directories : List String := ["/bin/", "/usr/bin/"]

/-- The program without its directory, if it is one where programs are found. -/
def baseName (program : String) : String :=
  match directories.find? (fun d => program.startsWith d) with
  | some d => (program.drop d.length).toString
  | none => program

/-- Runs a program by its name. -/
def launch : Launcher World := fun program arguments world =>
  if program.toList.contains '\x00' || arguments.any (fun a => a.toList.contains '\x00') then
    (world, .error .nulInArgument)
  else
    match baseName program, arguments with
    | "true", _ => (world, .ok (.code 0))
    | "false", _ => (world, .ok (.code 1))
    | "echo", arguments => (world.send none (echoText arguments), .ok (.code 0))
    | "sh", "-c" :: text :: rest =>
      let (next, status) := runScript text (rest.head?.getD program) (rest.drop 1) world
      (next, .ok status)
    | "sh", "-c" :: _ => (world, .ok (.code 2))
    | "sh", name :: _ =>
      ({ world with errors := world.errors ++ program ++ ": 0: cannot open " ++ name ++
          ": No such file\n" }, .ok (.code 2))
    | _, _ => (world, .error .notFound)

end SchemaFold.Shell
