import Colloquy.Error
import Colloquy.Text.CodeRange

/-!
# Building accessors

An accessor is a chain of steps that starts from all variables. A dotted path is a chain of members,
its empty segments left out.
-/

namespace Colloquy.Accessor

def members (path : String) : List Access :=
  ((Text.splitWhen (· == '.') path.toList).filter (!·.isEmpty)).map fun segment => .member (.str (String.ofList segment))

def along (path : Value) : Except Error (List Access) :=
  match path with
  | .str s | .markup s => .ok (members s)
  | .bytes _ => .error (.fault .wrongType)
  | _ => .error (.fault .missingMember)

def comparison? : String → Option Comparison
  | "gt" => some .gt
  | "gte" => some .gte
  | "lt" => some .lt
  | "lte" => some .lte
  | "equals" => some .equals
  | "not_equals" => some .notEquals
  | _ => none

def predicate? : String → Option Predicate
  | "is_truthy" => some .truthy
  | "is_falsy" => some .falsy
  | "is_none" => some .absent
  | "is_string" => some .text
  | "is_list" => some .sequence
  | "is_dict" => some .mapping
  | "is_number" => some .number
  | _ => none

def operation? : String → Option Operation
  | "add" => some .add
  | "sub" => some .sub
  | "mul" => some .mul
  | "div" => some .div
  | "pow" => some .pow
  | _ => none

/-- One more step. An accessor describes its steps as they are added, so a step that shows an integer too long to be
written is refused. -/
def described (step : Access) : Except Error (List Access) :=
  if step.unwritable then .error (.fault .badValue) else .ok [step]

theorem described_eq_ok {step : Access} {steps : List Access} :
    described step = .ok steps ↔ step.unwritable = false ∧ steps = [step] := by
  unfold described
  cases step.unwritable <;> simp [eq_comm]

def steps (name : String) (args : List Value) : Except Error (List Access) :=
  match name, args with
  | "attr", [v] => described (.member v)
  | "item", [v] => described (.item v)
  | "get", [path] => along path
  | "apply", fn :: args => if fn.isCallable then described (.apply fn args) else .error (.notCallable fn)
  | "call", name :: args => described (.call name args)
  | name, args =>
    match comparison? name, predicate? name, operation? name with
    | some op, _, _ =>
      match args with
      | [v] => described (.compare op v)
      | _ => .error (.fault .wrongType)
    | _, some p, _ => if args.isEmpty then described (.test p) else .error (.fault .wrongType)
    | _, _, some op =>
      match args with
      | [v] => described (.compute op v)
      | _ => .error (.fault .wrongType)
    | none, none, none =>
      if ["attr", "item", "get", "apply", "call"].contains name then .error (.fault .wrongType)
      else .error (.fault .missingMember)

def ofVariable (id : Identity) (name : Value) (further : Access) : Except Error Value := do
  return .accessor id ((← along name) ++ (← described further))

theorem ofVariable_text (id : Identity) (name : String) (further : Access) :
    ofVariable id (.str name) further =
      if further.unwritable then .error (.fault .badValue) else .ok (.accessor id (members name ++ [further])) := by
  unfold ofVariable described
  cases further.unwritable <;> rfl

end Colloquy.Accessor
