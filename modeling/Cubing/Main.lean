import Cubing.Shell.Session

/-!
# The command line

Reads lines at the prompt of a shell over a puzzle of the default size, until a
line asks to stop or there are no more lines. The journal goes to the standard
error stream.
-/
namespace Cubing

/-- Carries out the lines of a stream one by one. -/
partial def serve (input : IO.FS.Stream) (shell : Shell) : IO Unit := do
  let output ← IO.getStdout
  output.putStr shell.prompt
  output.flush
  let line ← input.getLine
  if line.isEmpty then return ()
  let answer := shell.run line
  output.putStr answer.output
  output.flush
  for entry in answer.journal do IO.eprintln entry
  if let some fault := answer.uncaught then IO.eprintln fault.message
  if answer.stop || answer.uncaught.isSome then return ()
  serve input answer.shell

end Cubing

def main : IO UInt32 := do
  IO.print Cubing.Shell.banner
  match Cubing.Shell.ofSize (.int Cubing.Puzzle.defaultSize) with
  | .ok shell =>
    Cubing.serve (← IO.getStdin) shell
    return 0
  | .error fault =>
    IO.eprintln fault.message
    return 1
