import Colloquy.Run.Script
import Colloquy.Shell.Invoke

/-!
# Command line

Reads flow files from disk, carries out the command line and prints what it shows.
-/

namespace Colloquy

def readEntry (path : String) : IO (Option FileEntry) := do
  try
    return some (.file (← IO.FS.readFile path))
  catch
    | .noFileOrDirectory .. => return none
    | .inappropriateType .. => return some .directory
    | e => throw e

def plainEnvironment : Shell.Environment where
  width := 80
  app := .ofScripts []
  modules := []

end Colloquy

def main (args : List String) : IO UInt32 := do
  let result ← Colloquy.Shell.invoke Colloquy.plainEnvironment Colloquy.readEntry args
  for block in result.report.blocks do
    for line in block.draw do
      IO.println (String.ofList line)
  match result.stop with
  | .usage => IO.eprintln "Usage: validate PATH | run PATH [--flow FLOW] [--var NAME=VALUE]"
  | .escaped e => IO.eprintln ("Failed: " ++ e.message)
  | _ => pure ()
  return result.exitCode.toUInt32
