import Colloquy.Dialog.Flows
import Colloquy.File.Load
import Colloquy.Shell.Task

/-!
# Validating a flow file

A flow file is valid if all its flows compile. Then the keys of its flows and its event handlers are
listed.
-/

namespace Colloquy.Shell

open Console

def flowTable (p : Program) (entries : List String) : Table where
  title := "Dialog " ++ p.dialog.name
  columns := [{ header := "Flow key" }, { header := "Entry", alignment := .centre }]
  rows := p.keys.map fun key => [key, if entries.contains key then "*" else ""]

def handlerTable (d : Dialog) : Table where
  title := "Event handlers"
  columns := [{ header := "Kind" }, { header := "Key" }]
  rows :=
    (d.results.map fun (key, _) =>
      ["result", " / ".intercalate ((key.sequence?.getD []).map Value.toText)]) ++
    (d.postbacks.map fun (key, _) => ["postback", key.toText]) ++
    (d.payloads.map fun (key, _) => ["payload", key.toText])

def validate (env : Environment) (level : Option String) (path : String)
    (loaded : Except Error FlowFile) : Task Unit := do
  let words := "Invalid flow file " ++ FilePath.shown path ++ ": "
  let file ← Task.reporting env words loaded
  Task.applyLevel level file
  let (p, entries) ← Task.reporting env words
    (Program.build (.str file.name) (flowsOf file).1 .none file.settings)
  let keys ← Task.reporting env words (entries.mapM fun (_, path) => p.key path.toValue)
  Task.printTable env (flowTable p keys)
  Task.printTable env (handlerTable p.dialog)
  Task.print env ("[green]OK[/] " ++ toString p.keys.length ++ " flow handlers compiled")

end Colloquy.Shell
