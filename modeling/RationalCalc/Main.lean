import RationalCalc.CommandLine.Run

/-!
The program: arguments, standard streams and exit code. Log lines go to standard error.
-/

open RationalCalc

def chunk : USize := 65536

partial def readAll (stream : IO.FS.Stream) (before : ByteArray) : IO ByteArray := do
  let bytes ← stream.read chunk
  if bytes.isEmpty then return before else readAll stream (before ++ bytes)

def main (arguments : List String) : IO UInt32 := do
  let input ←
    if CommandLine.readsInput arguments then readAll (← IO.getStdin) .empty else pure .empty
  let exit := CommandLine.run arguments input.toList true
  let stderr ← IO.getStderr
  exit.log.forM fun entry => stderr.putStrLn ("[" ++ entry ++ "]")
  stderr.putStr exit.stderr
  try
    let stdout ← IO.getStdout
    stdout.putStr exit.stdout
    stdout.flush
    return exit.code.toUInt32
  catch _ => return CommandLine.failure.toUInt32
