import Colloquy.Console.Table
import Colloquy.File.FlowFile
import Colloquy.Log.Level
import Colloquy.Run.Accessor

/-!
# Tasks of the command line

A task shows texts and tables on the console. An error of a flow or a flow file is shown and ends the
task; any other error escapes it. Either way what was shown before stays.
-/

namespace Colloquy

/-- Whether an error tells of a flow, a session or a flow file, so that it can be shown as it is. -/
def Error.isReportable : Error → Bool
  | .fault _ | .raised .. | .transportDown | .wrongCommand .. | .invalidWait _ | .dialogName _
  | .notCallable _ | .invalidRecord _ => false
  | _ => true

/-- Wording of an error on the console, which ends where faults of fields are told. -/
def Error.headline (e : Error) : String :=
  match e with
  | .unrecognized _ (some (.badFields _)) => String.ofList e.message.toList.dropLast
  | e => e.message

namespace Shell

open Console

/-- Why a command ended early. -/
inductive Stop where
  /-- The command line makes no sense. -/
  | usage
  /-- An error was shown. -/
  | shown
  /-- There is nothing more to do. -/
  | done
  | escaped (e : Error)

/-- What a command has done so far. -/
structure Report where
  /-- Level of the log. -/
  level : LogLevel := .atLeast .warning
  blocks : List Block := []

abbrev Task := EStateM Stop Report

/-- Surroundings in which commands run. -/
structure Environment where
  /-- Width of the console in cells. -/
  width : Nat
  app : Application
  /-- Modules by name; one without handlers has none. -/
  modules : List (String × Option Handlers)

namespace Task

/-- Shows a block, unless it cannot be laid out. -/
def display (block : Outcome Block) : Task Unit :=
  match block with
  | .ok b => modify fun r => { r with blocks := r.blocks ++ [b] }
  | .error f => throw (.escaped (.fault f))

def print (env : Environment) (markup : String) : Task Unit := Task.display (Block.ofText env.width markup)

def printTable (env : Environment) (t : Table) : Task Unit := Task.display (Block.ofTable env.width t)

/-- Runs a part; an error that can be shown is shown after some words and ends the command. -/
def reporting {α : Type} (env : Environment) (words : String) : Except Error α → Task α
  | .ok a => pure a
  | .error e => do
    if e.isReportable then
      print env ("[red]" ++ words ++ e.headline ++ "[/]")
      throw .shown
    else throw (.escaped e)

def setLevel (name : String) : Task Unit :=
  match LogLevel.ofName? name with
  | some level => modify fun r => { r with level }
  | none => throw (.escaped (.fault .badValue))

/-- Sets the level of the log as a flow file asks, unless the command line gave one. -/
def applyLevel (given : Option String) (file : FlowFile) : Task Unit :=
  match given with
  | some _ => pure ()
  | none => setLevel file.settings.logLevel

end Task

/-- The flows of a file with identities for their objects, and the first free identity. -/
def flowsOf (file : FlowFile) : Value × Nat := (Value.record file.flows).adopt false 0

end Shell

end Colloquy
