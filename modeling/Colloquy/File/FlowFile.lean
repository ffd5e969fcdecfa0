import Colloquy.Settings
import Colloquy.Value.Member

/-!
# Flow files

A flow file describes one dialog: its name, its flows by entry point and its settings.
-/

namespace Colloquy

structure FlowFile where
  name : String
  flows : Fields := []
  settings : Settings := {}

namespace FlowFile

/-- Reads the content of a flow file; unknown entries are ignored. -/
def read (v : Value) : Except (List FieldFault) FlowFile :=
  match v with
  | .dict _ entries =>
    let (nameFaults, name) :=
      Record.field entries ["name"] (.error .missing) (Record.simple Record.nonEmptyText) ""
    let (flowFaults, flows) := Record.field entries ["flows"] (.ok []) Record.mapping []
    let (settingFaults, settings) := Record.field entries ["settings"] (.ok {}) Settings.read {}
    let faults := nameFaults ++ flowFaults ++ settingFaults
    if faults.isEmpty then .ok { name, flows, settings } else .error faults
  | _ => .error [⟨[], .notRecord⟩]

def ofValue (source : String) (v : Value) : Except Error FlowFile :=
  match v with
  | .dict .. =>
    match read v with
    | .ok file => .ok file
    | .error faults => .error (.invalidFile source faults)
  | v => .error (.fileNotMapping source v.kindName)

def toValue (f : FlowFile) : Value :=
  .model .flowFile
    [("name", .str f.name), ("flows", .record f.flows), ("settings", f.settings.toValue)] []

end FlowFile

end Colloquy
