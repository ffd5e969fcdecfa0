import Colloquy.Shell.Arguments

/-!
# Commands of the command line

There are two commands: one validates a flow file, the other one runs a flow of it. Options in front
of the command hold for both.
-/

namespace Colloquy.Shell

def helpOption : OptionSpec := { name := "help", takesValue := false }

def commonOptions : List OptionSpec :=
  [{ name := "version", letter := some 'v', takesValue := false },
    { name := "log-level", letter := some 'l' }, helpOption]

def runOptions : List OptionSpec :=
  [{ name := "flow", letter := some 'f' }, { name := "module", letter := some 'm' },
    { name := "var" }, helpOption]

/-- What a command line asks for before its command is looked at. -/
inductive Request where
  | version
  | help
  /-- Runs a command; the level of the log may be given. -/
  | call (level : Option String) (command : String) (args : List String)

/-- Reads the options in front of the command; none if it makes no sense. -/
def Request.read (args : List String) : Option Request := do
  let a ← Arguments.read commonOptions false args
  match a.first? ["version", "help"] with
  | some name => return if name == "version" then .version else .help
  | none =>
    match a.operands with
    | command :: rest => return .call (a.value? "log-level") command rest
    | [] => none

inductive Command where
  | help
  | validate (path : String)
  /-- Runs a flow with handlers of a module and variables, each written `name=value`. -/
  | run (path flow : String) (moduleName : Option String) (assignments : List String)

namespace Command

def names : List String := ["validate", "run"]

def defaultFlow : String := "onStart"

/-- Reads the arguments of a command; none if they make no sense. -/
def read (name : String) (args : List String) : Option Command := do
  let a ← Arguments.read (if name == "run" then runOptions else [helpOption]) true args
  if (a.value? "help").isSome then return .help
  match a.operands with
  | [path] =>
    if name == "run" then
      return .run path ((a.value? "flow").getD defaultFlow) (a.value? "module") (a.values "var")
    else return .validate path
  | _ => none

end Command

/-- Reads variables, each written `name=value`; none if one has no name or no value. -/
def readVariables (assignments : List String) : Option (List (String × String)) :=
  assignments.mapM fun a =>
    let name := a.toList.takeWhile (· != '=')
    match a.toList.dropWhile (· != '=') with
    | _ :: value => if name.isEmpty then none else some (String.ofList name, String.ofList value)
    | [] => none

end Colloquy.Shell
