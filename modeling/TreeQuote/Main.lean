/-
TreeQuote/Main.lean

The program.  Reading the command line and answering it are pure; this file opens what the
command names, writes the answer, and ends with its exit code.
-/
import TreeQuote.Command.Response

namespace TreeQuote.Program

/-- The bytes of a source, if it can be opened. -/
def contents? : Command.Source → IO (Option ByteArray)
  | .standardInput => do return some (← (← IO.getStdin).readBinToEnd)
  | .file name => do
    match name.toString? with
    | none => return none
    | some path => try return some (← IO.FS.readBinFile path) catch _ => return none

/-- Writes a text; a lone surrogate has no bytes and becomes a question mark. -/
def write (stream : IO.FS.Stream) (t : Text) : IO Unit :=
  stream.putStr (String.ofList (t.map fun c => (CodePoint.toChar? c).getD '?'))

/-- Writes what a run leaves behind. -/
def finish (r : Command.Response) : IO UInt32 := do
  write (← IO.getStdout) r.output
  write (← IO.getStderr) r.errors
  return r.exit.toUInt32

/-- Reads the command line, opens the source, and answers. -/
def run (args : List String) : IO UInt32 := do
  match Command.read (args.map Text.of) with
  | .error r => finish r.response
  | .ok c =>
    let bytes ← contents? (.ofName c.source)
    match c.receive (bytes.map ByteArray.toList) with
    | .ok r => finish r
    | .error _ => return 1

end TreeQuote.Program

/-- The program. -/
def main (args : List String) : IO UInt32 := TreeQuote.Program.run args
