import TextPattern.Cli.Run

/-!
# The program

Reads the standard input if the command needs it and writes the report.
-/

open TextPattern

/-- All bytes of a stream, after those read already. -/
partial def readAll (stream : IO.FS.Stream) (bytes : ByteArray) :
    IO ByteArray := do
  let chunk ← stream.read 65536
  if chunk.isEmpty then return bytes else readAll stream (bytes ++ chunk)

def main (arguments : List String) : IO UInt32 := do
  let report ←
    match Cli.parseArguments arguments with
    | .error error => pure (Cli.usageReport error)
    | .ok command => do
        let input ←
          if command.readsInput then readAll (← IO.getStdin) .empty
          else pure .empty
        pure (command.run input)
  IO.print report.stdout
  IO.eprint report.stderr
  return report.code.toUInt32
