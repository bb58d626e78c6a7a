import QueryMacros.Command.Run

/-!
# The program

The outer layer of a run: it answers the lookups of a run from the operating
system, and carries out how the run ends.
-/
namespace QueryMacros.Command

/-- Bytes as a text. -/
def decodeText (bytes : ByteArray) : Except FileFault Text :=
  match String.fromUTF8? bytes with
  | some text => .ok text.toList
  | none => .error .notText

/-- What an error of the operating system says of a file. -/
def faultOf : IO.Error → FileFault
  | .noFileOrDirectory .. => .missing
  | .invalidArgument .. => .nameTooLong
  | .inappropriateType _ 21 _ => .isDirectory
  | _ => .notDirectory

/-- The text of a file. -/
def readFile (path : Text) : IO (Except FileFault Text) := do
  match ← (IO.FS.readBinFile (String.ofList path)).toBaseIO with
  | .ok bytes => return decodeText bytes
  | .error error => return .error (faultOf error)

/-- The surroundings that the operating system gives. -/
def operatingSystem : Workspace IO where
  fetch := readFile
  environment? name := return (← IO.getEnv (String.ofList name)).map String.toList
  input := do return decodeText (← (← IO.getStdin).readBinToEnd)

/-- Carries out how a run ends, and gives the exit code. -/
def finish : Outcome → IO UInt32
  | .success output => do
      IO.print (String.ofList output)
      return 0
  | .failure error => do
      IO.eprintln (String.ofList error.message)
      return 1
  | .usage => do
      IO.eprintln "Usage: chmacro [OPTIONS] <COMMAND>"
      return 2

end QueryMacros.Command

/-- Runs the command line of the process. -/
def main (arguments : List String) : IO UInt32 := do
  let outcome ← QueryMacros.Command.run QueryMacros.Command.operatingSystem
    (arguments.map String.toList)
  QueryMacros.Command.finish outcome
