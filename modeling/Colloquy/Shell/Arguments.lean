/-!
# Arguments of a command line

Options are written `--name value`, `--name=value`, `-n value` or `-nvalue`, and short options
without a value may be joined. Two dashes alone end the options. What is no option is an operand.
-/

namespace Colloquy.Shell

structure OptionSpec where
  /-- Long name without its dashes. -/
  name : String
  letter : Option Char := none
  takesValue : Bool := true

/-- An option as it was given; one that takes no value has an empty one. -/
structure Setting where
  name : String
  value : String := ""

inductive Argument where
  | operand
  /-- Ends the options. -/
  | separator
  /-- Options that are complete. -/
  | settings (given : List Setting)
  /-- Options of which the last one takes its value from the next argument. -/
  | needsValue (given : List Setting) (name : String)

def readLetters (specs : List OptionSpec) : List Char → Option Argument
  | [] => some (.settings [])
  | c :: rest => do
    let spec ← specs.find? fun s => s.letter == some c
    if spec.takesValue then
      if rest.isEmpty then return .needsValue [] spec.name
      else return .settings [⟨spec.name, String.ofList rest⟩]
    else
      match ← readLetters specs rest with
      | .settings given => return .settings (⟨spec.name, ""⟩ :: given)
      | .needsValue given name => return .needsValue (⟨spec.name, ""⟩ :: given) name
      | other => return other

def readLong (specs : List OptionSpec) (cs : List Char) : Option Argument := do
  let name := String.ofList (cs.takeWhile (· != '='))
  let spec ← specs.find? fun s => s.name == name
  match cs.dropWhile (· != '='), spec.takesValue with
  | _ :: value, true => return .settings [⟨name, String.ofList value⟩]
  | _ :: _, false => none
  | [], true => return .needsValue [] name
  | [], false => return .settings [⟨name, ""⟩]

def readArgument (specs : List OptionSpec) (arg : String) : Option Argument :=
  match arg.toList with
  | ['-', '-'] => some .separator
  | '-' :: '-' :: cs => readLong specs cs
  | '-' :: c :: cs => readLetters specs (c :: cs)
  | _ => some .operand

/-- Options and operands of a command line. -/
structure Arguments where
  settings : List Setting := []
  operands : List String := []

namespace Arguments

def withSettings (a : Arguments) (given : List Setting) : Arguments :=
  { a with settings := given ++ a.settings }

/-- Reads a command line; none if an option is unknown or lacks its value. Unless `mixed` is set,
the first operand ends the options. -/
def read (specs : List OptionSpec) (mixed : Bool) : List String → Option Arguments
  | [] => some {}
  | arg :: rest => do
    match ← readArgument specs arg with
    | .separator => return { operands := rest }
    | .operand =>
      if mixed then
        let a ← read specs mixed rest
        return { a with operands := arg :: a.operands }
      else return { operands := arg :: rest }
    | .settings given => return (← read specs mixed rest).withSettings given
    | .needsValue given name =>
      match rest with
      | [] => none
      | value :: rest => return (← read specs mixed rest).withSettings (given ++ [⟨name, value⟩])

def values (a : Arguments) (name : String) : List String :=
  (a.settings.filter (·.name == name)).map (·.value)

def value? (a : Arguments) (name : String) : Option String := (a.values name).getLast?

def first? (a : Arguments) (names : List String) : Option String :=
  (a.settings.find? fun s => names.contains s.name).map (·.name)

end Arguments

end Colloquy.Shell
