import Reckoner.Program

/-!
# Command

Reads the environment, runs the program and writes its output.
-/

open Reckoner

def main (arguments : List String) : IO UInt32 := do
  let environment : Environment := {
    logFilter := ← IO.getEnv "RUST_LOG"
    noColor := ← IO.getEnv "NO_COLOR"
    forceColor := ← IO.getEnv "CLICOLOR_FORCE" }
  let outcome := Program.run arguments environment
  (← IO.getStdout).putStr outcome.stdout
  (← IO.getStderr).putStr outcome.stderr
  return outcome.code.toUInt32
