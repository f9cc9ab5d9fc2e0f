import DeclCheck.CommandLine.Run

namespace DeclCheck.CommandLine

/-- Read a file of the file system. -/
def readSource (name : String) : IO (Except ReadFailure String) := do
  try
    return decode (← IO.FS.readBinFile name)
  catch error =>
    match error with
    | .noFileOrDirectory .. => return .error .notFound
    | .inappropriateType .. => return .error .isDirectory
    | _ => return .error (.other (toString error))

/-- The file that the arguments name, if they name one. -/
def namedFile? (arguments : List String) : Option String :=
  match parse arguments with
  | .ok ⟨.check file _, _⟩ | .ok ⟨.tokens file, _⟩ => some file
  | _ => none

end DeclCheck.CommandLine

open DeclCheck.CommandLine in
/-- The environment may give a level for the log; a filter by targets is not read. -/
def main (arguments : List String) : IO UInt32 := do
  let limit := (← IO.getEnv "RUST_LOG").bind DeclCheck.Log.Limit.ofName?
  let source ← match namedFile? arguments with
    | some file => readSource file
    | none => pure (.error .notFound)
  let outcome := run (fun _ => source) limit arguments
  (← IO.getStdout).putStr outcome.stdout
  (← IO.getStderr).putStr outcome.stderr
  return UInt32.ofNat outcome.exit
