import DocumentQuery.CommandLine.Run

/-!
# The program

Reads the files that the arguments name, and the standard input where a request is expected, and
writes what the run gives.
-/

open DocumentQuery

/-- What is found at a path. -/
def readPath (path : String) : IO Text.File := do
  try
    let bytes ← IO.FS.readBinFile path
    return .regular bytes.toList
  catch
    | .inappropriateType .. => return .directory
    | _ => return .absent

/-- The paths that an invocation reads. -/
def pathsOf : CommandLine.Invocation → List String
  | .run _ (.compile _ schema config) => config.toList ++ [schema]
  | .run _ (.fields schema) => [schema]
  | _ => []

/-- A request is read from the standard input. -/
def readsInput : CommandLine.Invocation → Bool
  | .run _ (.compile ..) => true
  | _ => false

def main (arguments : List String) : IO UInt32 := do
  let invocation := CommandLine.parse arguments
  let found ← (pathsOf invocation).mapM fun path => do return (path, ← readPath path)
  let input ← if readsInput invocation then (← IO.getStdin).readBinToEnd else pure ByteArray.empty
  let files : CommandLine.Files := fun path => (Entries.get? path found).getD .absent
  let output := CommandLine.run files input.toList arguments
  (← IO.getStdout).putStr output.stdout
  (← IO.getStderr).putStr output.stderr
  return output.exit.toUInt32
