import Galley.CommandLine.Run

/-!
The program: the command line with real files.
-/

open Galley.CommandLine

/-- Read a file of the file system. -/
def readFile (path : String) : IO Reading := do
  match ← (IO.FS.readBinFile path).toBaseIO with
  | .ok content => return .bytes content.toList
  | .error (.noFileOrDirectory ..) => return .missing
  | .error _ => return .unreadable

/-- Read the standard input to its end. -/
partial def readInput (stdin : IO.FS.Stream) (read : ByteArray) : IO ByteArray := do
  let chunk ← stdin.read 65536
  if chunk.isEmpty then return read else readInput stdin (read ++ chunk)

def main (args : List String) : IO UInt32 := do
  let stdin ← IO.getStdin
  let access : Access IO := ⟨readFile, do return (← readInput stdin .empty).toList⟩
  let outcome ← run access args
  IO.print outcome.output
  match outcome.complaint with
  | some line => IO.eprintln line
  | none => pure ()
  return outcome.code
