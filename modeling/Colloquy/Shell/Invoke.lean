import Colloquy.Shell.Trial
import Colloquy.Shell.Validation

/-!
# Carrying out a command line

The options in front of the command are looked at first, then the level of the log is set, then the
arguments of the command are read, and only then the flow file is loaded.
-/

namespace Colloquy.Shell

/-- How a command line ended, and what it did. -/
structure Result where
  stop : Stop
  report : Report

def Result.exitCode (r : Result) : Nat :=
  match r.stop with
  | .usage => 2
  | .shown | .escaped _ => 1
  | .done => 0

def versionText : String := "convoflow version 0.1.0"

def initialLevel (given : Option String) : String := (given.filter (!·.isEmpty)).getD "WARNING"

/-- A command that waits for its flow file. -/
structure Pending where
  path : String
  proceed : Except Error FlowFile → Task Unit

/-- Carries out a command line up to the point where its flow file is needed. -/
def plan (env : Environment) (args : List String) : Task Pending := do
  match Request.read args with
  | none => throw .usage
  | some .help => throw .done
  | some .version => do
    Task.display (.ok (.text [versionText.toList]))
    throw .done
  | some (.call level name rest) => do
    if !Command.names.contains name then throw .usage
    Task.setLevel (initialLevel level)
    match Command.read name rest with
    | none => throw .usage
    | some .help => throw .done
    | some (.validate path) => return ⟨path, validate env level path⟩
    | some (.run path flow moduleName assignments) =>
      return ⟨path, tryFlow env level flow moduleName assignments⟩

/-- Carries out a command line; `find` looks files up. -/
def invoke {m : Type → Type} [Monad m] (env : Environment) (find : String → m (Option FileEntry))
    (args : List String) : m Result := do
  match plan env args {} with
  | .error stop report => return ⟨stop, report⟩
  | .ok pending report =>
    match pending.proceed (← FlowFile.load find pending.path) report with
    | .ok _ report => return ⟨.done, report⟩
    | .error stop report => return ⟨stop, report⟩

end Colloquy.Shell
