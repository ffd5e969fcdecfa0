import Colloquy.Error
import Colloquy.Value.Iteration

/-!
# Start parameters

Which dialog a start command starts, and with which arguments: a dialog name, a name with arguments
as a pair or as a mapping, or a handler that gives one of these.
-/

namespace Colloquy.StartParam

/-- Whether a parameter is only known when the command runs. -/
def isComputed (param : Value) : Bool :=
  param.isCallable ||
    match param with
    | .dict _ entries => Entries.hasName entries "exec"
    | _ => false

def check (param : Value) : Except Error Unit :=
  let fits : Bool :=
    isComputed param || param.text?.isSome ||
      (match param.sequence? with
        | some [first] | some [first, _] => first.text?.isSome || isComputed first
        | _ => false) ||
      (match param with
        | .dict _ entries => Entries.hasName entries "dialog"
        | _ => false)
  if fits then .ok () else .error (.invalidStart param)

/-- Dialog name and arguments of an expanded parameter. -/
def parse (value defaultArgs : Value) : Except Error (String × Value) :=
  let (name, args) : Value × Value :=
    match value.text?, value.sequence?, value with
    | some _, _, _ => (value, defaultArgs)
    | none, some [name], _ => (name, defaultArgs)
    | none, some [name, args], _ => (name, args)
    | none, none, .dict _ entries =>
      if Entries.hasName entries "dialog" then
        (Entries.named entries "dialog", (Entries.named? entries "args").getD defaultArgs)
      else (.none, defaultArgs)
    | _, _, _ => (.none, defaultArgs)
  match name.text? with
  | some s =>
    if s.isEmpty then .error (.invalidStart value)
    else if args.isNone || args.mapping?.isSome then .ok (s, args)
    else .error (.startArguments args)
  | none => .error (.invalidStart value)

def isTemplate (text : String) : Bool :=
  Value.holdsText ['\x7b', '\x7b'] text.toList || Value.holdsText ['\x7b', '%'] text.toList

def staticName (param : Value) : Option String :=
  let name : Value :=
    match param.sequence?, param with
    | some (first :: _), _ => first
    | _, .dict _ entries =>
      if Entries.hasName entries "exec" then param else Entries.named entries "dialog"
    | _, _ => param
  match name.text? with
  | some s => if isTemplate s then none else some s
  | none => none

end Colloquy.StartParam
