import Colloquy.Compile.Flow
import Colloquy.Value.Member

/-!
# The catalog of command types

Authors may compile a single command by the word for its type. Each type has a compiler with a name
of its own, which refuses commands of any other type.
-/

namespace Colloquy

def Command.ofRecord? (v : Value) : Option Command :=
  match v with
  | .model .. =>
    match Normal.element v with
    | .ok (.command c) => some c
    | _ => none
  | _ => none

inductive CommandCompiler where
  | message | conditional | switch | iteration | start | finish | set | exec | wait | break | continue
  | subFlow
deriving Repr, DecidableEq

namespace CommandCompiler

def name : CommandCompiler → String
  | .message => "MessageCompiler"
  | .conditional => "ConditionalCompiler"
  | .switch => "SwitchCompiler"
  | .iteration => "IterationCompiler"
  | .start => "StartCompiler"
  | .finish => "FinishCompiler"
  | .set => "SetCompiler"
  | .exec => "ExecCompiler"
  | .wait => "WaitCompiler"
  | .break => "BreakCompiler"
  | .continue => "ContinueCompiler"
  | .subFlow => "SubFlowCompiler"

def ofCommand : Command → CommandCompiler
  | .message .. => .message
  | .conditional .. => .conditional
  | .switch .. => .switch
  | .iteration .. => .iteration
  | .start .. => .start
  | .finish .. => .finish
  | .set .. => .set
  | .exec .. => .exec
  | .wait .. => .wait
  | .break .. => .break
  | .continue .. => .continue
  | .flow .. => .subFlow

def catalog : List (String × CommandCompiler) :=
  [("text", .message), ("image", .message), ("list", .message), ("carousel", .message),
    ("conditional", .conditional), ("switch", .switch), ("iteration", .iteration), ("start", .start),
    ("finish", .finish), ("set", .set), ("exec", .exec), ("wait", .wait), ("break", .break),
    ("continue", .continue), ("flow", .subFlow)]

/-- The catalog lists every command type, in the order in which types are listed to authors. -/
theorem map_fst_catalog : catalog.map (·.1) = Command.typeNames := rfl

theorem lookup_typeName (c : Command) : catalog.lookup c.typeName = some (ofCommand c) := by
  cases c with
  | message kind => cases kind <;> rfl
  | _ => rfl

def find (type : Value) : Except Error CommandCompiler :=
  if !type.hashable then .error (.fault .wrongType)
  else
    match type.text?.bind fun s => catalog.lookup s with
    | some c => .ok c
    | none => .error (.unknownCommandType type Command.typeNames)

def isTerminal : CommandCompiler → Bool
  | .finish | .break | .continue => true
  | _ => false

/-- Compiles a command record with a given compiler, outside of any loop. -/
def compile (compiler : CommandCompiler) (source : Value) (path : FlowPath) : Compile Unit :=
  match compiler with
  | .break => do throw (.outsideLoop .break (← Compile.key path))
  | .continue => do throw (.outsideLoop .continue (← Compile.key path))
  | compiler => do
    match Command.ofRecord? source with
    | some c =>
      if ofCommand c = compiler then
        let _ ← compileCommand c path {}
      else throw (.wrongCommand compiler.name c.model.name)
    | none => throw (.wrongCommand compiler.name source.kindName)

end CommandCompiler

end Colloquy
