import Muster.Cli.Daemon

/-!
The program. A line on standard input, or the end of it, interrupts a run.
-/

open Muster

def readIfPresent (path : String) : IO (Option ByteArray) := do
  try
    return some (← IO.FS.readBinFile path)
  catch _ =>
    return none

def report : Cli.Outcome → IO Unit
  | .helped => IO.print Cli.usage
  | .usageError => IO.eprint Cli.usage
  | .printed text => IO.print text
  | .failed failure => IO.eprintln ("Error: " ++ failure.message)
  | .ran summary => do
    let _ ← (← IO.getStdin).getLine
    IO.println summary

def main (arguments : List String) : IO UInt32 := do
  let path := (Cli.parse? arguments).bind Cli.Invocation.file?
  let file ← path.bindM readIfPresent
  let outcome := Cli.runCommand (fun _ => file) "localhost" .onceSettled arguments
  report outcome
  return outcome.exitCode.toUInt32
