import SchemaFold.CommandLine.Session
/-!
The program: reads the files that a run may need, runs, and shows the outcome.
-/

namespace SchemaFold.Main

/-- The fault that an error of the system stands for. -/
def faultOf : IO.Error → Files.Fault
  | .inappropriateType none .. => .isDirectory
  | .inappropriateType (some _) .. => .notDirectory
  | .permissionDenied .. => .notPermitted
  | .invalidArgument _ 22 _ => .nulInPath
  | .invalidArgument .. => .nameTooLong
  | _ => .notFound

/-- The text of a file. -/
def readFile (path : String) : IO (Except Files.Fault String) := do
  try
    return Files.decode (← IO.FS.readBinFile path)
  catch e => return .error (faultOf e)

/-- The reader that knows some files. -/
def readerOf (known : List (String × Except Files.Fault String)) : Files.Reader := fun path =>
  (Keyed.get? path known).getD (.error .notFound)

/-- The reader that knows the files which a run for these arguments may read. -/
def snapshot (arguments : List String) : IO Files.Reader := do
  let read := fun paths : List String => paths.mapM (fun path => do return (path, ← readFile path))
  let first ← read (CommandLine.wantedFiles (readerOf []) arguments)
  return readerOf (← read (CommandLine.wantedFiles (readerOf first) arguments))

/-- Writes to a file what a generator wrote to it. -/
def perform (write : Shell.Write) : IO Unit := do
  let handle ← IO.FS.Handle.mk write.path (if write.isAppend then .append else .write)
  handle.putStr write.text

end SchemaFold.Main

/-- Runs the program for its arguments. -/
def main (arguments : List String) : IO UInt32 := do
  let read ← SchemaFold.Main.snapshot arguments
  let filter := SchemaFold.CommandLine.filterVariable
  let environment := ((← IO.getEnv filter).map (fun value => (filter, value))).toList
  let outcome := SchemaFold.CommandLine.run read arguments environment
  outcome.writes.forM SchemaFold.Main.perform
  IO.print outcome.output
  IO.eprint outcome.errors
  return outcome.exit.toUInt32
