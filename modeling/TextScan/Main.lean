import TextScan.Tool.Command

/-!
# The command line

The first argument names a tool; the others are its own.  The tool prints to the standard output,
and its records and failures go to the standard error.
-/

namespace TextScan.CommandLine

/-- Reads all of a stream. -/
partial def readStream (stream : IO.FS.Stream) (bytes : ByteArray) : IO ByteArray := do
  let chunk ← stream.read 65536
  if chunk.isEmpty then return bytes else readStream stream (bytes ++ chunk)

def fetch : Option Source → IO (Except ReadError Text)
  | none => return .ok []
  | some .standardInput => do
    let bytes ← readStream (← IO.getStdin) .empty
    return Text.ofBytes bytes
  | some (.file path) => do
    try
      let bytes ← IO.FS.readBinFile path
      return Text.ofBytes bytes
    catch
    | .noFileOrDirectory .. => return .error .notFound
    | error => return .error (.fault (toString error))

/-- Runs the tool that the first argument names. -/
def run : List String → IO UInt32
  | [] => do
    IO.eprintln Command.usage
    return 2
  | tool :: arguments =>
    match Command.parse tool arguments with
    | .error .help => do
      IO.println Command.usage
      return 0
    | .error .usage => do
      IO.eprintln Command.usage
      return 2
    | .ok command => do
      let outcome := command.run (← fetch command.source?)
      for line in command.log outcome ++ outcome.report do
        IO.eprintln line
      IO.print (String.ofList outcome.output)
      return outcome.code.toUInt32

end TextScan.CommandLine

def main (arguments : List String) : IO UInt32 :=
  TextScan.CommandLine.run arguments
