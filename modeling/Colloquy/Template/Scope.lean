import Colloquy.Template.Check

/-!
# Names in templates

A template has a frame of names, and so has the body of every loop. Where the value of a name comes
from is settled before the frame is entered: a name that is read before it is assigned has the value
of the variable, or of the surrounding frame if that frame knows the name; a name that is assigned
first has no value until then. A name assigned in some branch of a condition only keeps the value
from outside in the others.
-/

namespace Colloquy.Template

mutual

def Expr.names : Expr → List String
  | .const _ => []
  | .name s => [s]
  | .list items => namesAll items
  | .tuple items => namesAll items
  | .dict entries => namesEntries entries
  | .negative e => e.names
  | .positive e => e.names
  | .not e => e.names
  | .binary _ a b => a.names ++ b.names
  | .concat parts => namesAll parts
  | .compare first rest => first.names ++ namesChain rest
  | .and a b => a.names ++ b.names
  | .or a b => a.names ++ b.names
  | .choice test yes no => test.names ++ yes.names ++ namesOption no
  | .member e _ => e.names
  | .item e key => e.names ++ key.names
  | .bounds start stop step => namesOption start ++ namesOption stop ++ namesOption step
  | .call fn args => fn.names ++ args.names
  | .filter e _ args => e.names ++ args.names
  | .test e _ args => e.names ++ args.names

def namesAll : List Expr → List String
  | [] => []
  | e :: es => e.names ++ namesAll es

def namesEntries : List (Expr × Expr) → List String
  | [] => []
  | (k, e) :: es => k.names ++ e.names ++ namesEntries es

def namesChain : List (Relation × Expr) → List String
  | [] => []
  | (_, e) :: es => e.names ++ namesChain es

def namesOption : Option Expr → List String
  | none => []
  | some e => e.names

def namesNamed : List (String × Expr) → List String
  | [] => []
  | (_, e) :: es => e.names ++ namesNamed es

def CallArgs.names : CallArgs → List String
  | .mk positional named rest others =>
    namesAll positional ++ namesNamed named ++ namesOption rest ++ namesOption others

end

/-- Where a name of a frame has its first value from. -/
inductive Origin where
  /-- The loop gives it. -/
  | loop
  /-- The variable of that name. -/
  | given
  /-- The surrounding frame. -/
  | outside
  /-- Nowhere: it is assigned before it is read. -/
  | nowhere
deriving Repr, DecidableEq

/-- Names of a frame, and those of them that are assigned. -/
structure Symbols where
  origins : List (String × Origin) := []
  assigned : List String := []

namespace Symbols

def has (s : Symbols) (name : String) : Bool := s.origins.any (·.1 == name)

def put (s : Symbols) (name : String) (origin : Origin) : Symbols :=
  { s with origins :=
      if s.has name then s.origins.map fun (n, o) => if n == name then (n, origin) else (n, o)
      else s.origins ++ [(name, origin)] }

/-- Notes that a name is read; `outer` tells the names of the surrounding frames. -/
def read (outer : String → Bool) (s : Symbols) (name : String) : Symbols :=
  if s.has name || outer name then s else s.put name .given

def readAll (outer : String → Bool) (s : Symbols) (names : List String) : Symbols :=
  names.foldl (read outer) s

def assign (outer : String → Bool) (s : Symbols) (name : String) : Symbols :=
  let s := { s with assigned := name :: s.assigned }
  if s.has name then s else s.put name (if outer name then .outside else .nowhere)

/-- Notes that a loop gives a name its value. -/
def give (s : Symbols) (name : String) : Symbols :=
  { s with assigned := name :: s.assigned }.put name .loop

/-- Joins the branches of a condition: a name assigned in some of them only comes from outside. -/
def join (outer : String → Bool) (s : Symbols) (branches : List Symbols) : Symbols :=
  let fresh := (branches.flatMap (·.assigned)).eraseDups.filter fun n => !s.assigned.contains n
  let partly := fresh.filter fun n => !branches.all (·.assigned.contains n)
  let merged := branches.foldl (fun acc b =>
    { b.origins.foldl (fun acc (n, o) => acc.put n o) acc with assigned := b.assigned ++ acc.assigned }) s
  partly.foldl (fun acc n => acc.put n (if outer n then .outside else .given)) merged

end Symbols

/-- Notes the names that a target assigns; the owner of a member is read. -/
def Target.note (outer : String → Bool) (s : Symbols) (t : Target) : Symbols :=
  match t with
  | .member owner _ => s.read outer owner
  | t => t.names.foldl (Symbols.assign outer) s

mutual

/-- Notes the names of a part of a template. -/
def Node.note (outer : String → Bool) (s : Symbols) : Node → Symbols
  | .data _ => s
  | .output e => s.readAll outer e.names
  | .branch [] otherwise => noteAll outer s otherwise
  | .branch ((e, body) :: more) otherwise =>
    let s := s.readAll outer e.names
    s.join outer [noteAll outer s body, noteBranches outer s more, noteAll outer s otherwise]
  | .loop _ source _ _ _ => s.readAll outer source.names
  | .assign target e => target.note outer (s.readAll outer e.names)
  | .capture target _ _ => target.note outer s
termination_by structural n => n

/-- Notes the names of parts of a template. -/
def noteAll (outer : String → Bool) (s : Symbols) : List Node → Symbols
  | [] => s
  | n :: ns => noteAll outer (n.note outer s) ns
termination_by structural ns => ns

/-- Notes the names of further branches of a condition, each taken as a condition of its own. -/
def noteBranches (outer : String → Bool) (s : Symbols) : List (Expr × List Node) → Symbols
  | [] => s
  | (e, body) :: rest =>
    let s := s.readAll outer e.names
    noteBranches outer (s.join outer [noteAll outer s body, s, s]) rest
termination_by structural bs => bs

end

/-- How far a loop is: the position of the current element, what the loop goes through, and the
element before. -/
structure LoopState where
  index : Nat
  source : Value
  previous : Option Value

/-- A frame while it is used: the slot of each of its names, and what the slots hold. A slot may be
empty. Names that differ in their spelling only share a slot. -/
structure Frame where
  slots : List (String × String) := []
  values : List (String × Option Value) := []
  /-- The loop whose body the frame belongs to. -/
  loop : Option LoopState := none

namespace Frame

def has (f : Frame) (name : String) : Bool := f.slots.any (·.1 == name)

def value (f : Frame) (name : String) : Option Value :=
  match f.slots.lookup name with
  | none => none
  | some slot => (f.values.lookup slot).join

def put (f : Frame) (name : String) (v : Option Value) : Frame :=
  let slot := (f.slots.lookup name).getD (Text.toPlain name)
  { f with values := (slot, v) :: f.values.filter (·.1 != slot) }

end Frame

/-- Frames around a place in a template, the innermost first, and the variables. -/
structure Scope where
  frames : List Frame
  given : Entries

namespace Scope

def has (s : Scope) (name : String) : Bool := s.frames.any (·.has name)

def value (s : Scope) (name : String) : Option Value :=
  match s.frames.find? (·.has name) with
  | some f => f.value name
  | none => Entries.named? s.given name

def enter (s : Scope) (symbols : Symbols) : Frame :=
  let frame : Frame := { slots := symbols.origins.map fun (n, _) => (n, Text.toPlain n) }
  symbols.origins.foldl (fun f (n, origin) =>
    match origin with
    | .loop => f
    | .given => f.put n (Entries.named? s.given n)
    | .outside => f.put n (s.value n)
    | .nowhere => f.put n none) frame

end Scope

end Colloquy.Template
