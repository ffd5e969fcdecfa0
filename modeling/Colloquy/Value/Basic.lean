import Colloquy.Fault

/-!
# Values

The data that flows through a conversation: session variables, parameters of commands, arguments
and results of handlers. Authors write them as plain data, so one type holds all kinds.

Lists and dictionaries are shared objects that a template or an accessor may change in place; each
carries the identity under which the heap knows its current content. Accessors and functions are
equal only to themselves, so they carry an identity too.
-/

namespace Colloquy

/-- Which object a value is. Objects made on the way are anonymous until they are stored. -/
inductive Identity where
  | anonymous
  | object (n : Nat)
  /-- Made out of the object `n`, and out of no other. -/
  | derived (n : Nat)
deriving Repr, DecidableEq, Inhabited

/-- How a parameter of a function takes its argument. -/
inductive ParameterKind where
  | positional
  | rest
  | named
  | otherNamed
deriving Repr, DecidableEq

structure Parameter where
  name : String
  kind : ParameterKind := .positional
  hasDefault : Bool := false
deriving Repr, DecidableEq

/-- A handler function as the flow sees it: its name and its signature. What it does is given by
the behaviour of the application. A function that suspends has to be awaited. -/
structure Function where
  id : Nat
  name : String
  params : List Parameter := []
  suspends : Bool := false
deriving Repr, DecidableEq

inductive Builtin where
  | len | abs | max | min | dict | int | str
  | range | lipsum | cycler | joiner | space
deriving Repr, DecidableEq

/-- Order comparisons and equality of accessors. -/
inductive Comparison where
  | gt | gte | lt | lte | equals | notEquals
deriving Repr, DecidableEq

inductive Predicate where
  | truthy | falsy | absent | text | sequence | mapping | number
deriving Repr, DecidableEq

inductive Operation where
  | add | sub | mul | div | pow
deriving Repr, DecidableEq

/-- Signals that end an iteration or a loop. -/
inductive Signal where
  | break
  | continue
deriving Repr, DecidableEq

inductive ViewKind where
  | keys | values | items
deriving Repr, DecidableEq

/-- Structured records with declared fields. -/
inductive ModelKind where
  | action | item | switchCase
  | textMessage | imageMessage | listMessage | carouselMessage
  | conditional | switch | iteration | start | finish | set | exec | wait | break | continue | flow
  | notification | sessionSnapshot | frame | messageData
  | flowFile | flowSettings
deriving Repr, DecidableEq

/-- A point in time; without a clock time it is a day. -/
structure Moment where
  year : Nat
  month : Nat
  day : Nat
  clock : Option (Nat × Nat × Nat × Nat) := none
  /-- Minutes east of the meridian. -/
  zone : Option Int := none
deriving Repr, DecidableEq

mutual

inductive Value where
  | none
  | bool (b : Bool)
  | int (n : Int)
  | float (x : Float)
  | complex (re im : Float)
  | str (s : String)
  /-- Text that is already safe to show, made by templates. -/
  | markup (s : String)
  | bytes (bs : List UInt8)
  | list (id : Identity) (items : List Value)
  | tuple (items : List Value)
  | dict (id : Identity) (entries : List (Value × Value))
  | set (items : List Value)
  | moment (m : Moment)
  | range (start stop step : Int)
  | view (kind : ViewKind) (id : Identity) (entries : List (Value × Value))
  /-- What is left of an iterator. -/
  | stream (typeName : String) (items : List Value)
  /-- The value of a name that a template does not know; members of it are undefined too if it
  is lenient. -/
  | undefined (lenient : Bool)
  | accessor (id : Identity) (steps : List Access)
  | function (f : Function)
  | builtin (b : Builtin)
  /-- A method bound to its receiver. -/
  | method (receiver : Value) (name : String)
  /-- A call that has still to be awaited. -/
  | pending (f : Function) (positional : List Value) (named : List (String × Value))
  /-- A parameter whose expanded value is inverted. -/
  | negated (param : Value)
  | model (kind : ModelKind) (fields extras : List (String × Value))
  | signal (s : Signal)
  | jump (path vars : Value)
  /-- Any other object, known by the name of its type. -/
  | object (typeName : String)

/-- One step of an accessor, applied to the value that the steps before it give. -/
inductive Access where
  | member (name : Value)
  | item (index : Value)
  | apply (fn : Value) (args : List Value)
  | call (method : Value) (args : List Value)
  | compare (op : Comparison) (other : Value)
  | test (p : Predicate)
  | compute (op : Operation) (other : Value)

end

instance : Inhabited Value := ⟨.none⟩

/-- Entries of a dictionary in the order in which their keys were first written. -/
abbrev Entries := List (Value × Value)

structure Arguments where
  positional : List Value
  named : List (String × Value) := []

namespace ModelKind

/-- Name of a record type, as shown in texts. -/
def name : ModelKind → String
  | .action => "Action"
  | .item => "Item"
  | .switchCase => "SwitchCase"
  | .textMessage => "TextCommand"
  | .imageMessage => "ImageCommand"
  | .listMessage => "ListCommand"
  | .carouselMessage => "CarouselCommand"
  | .conditional => "ConditionalCommand"
  | .switch => "SwitchCommand"
  | .iteration => "IterationCommand"
  | .start => "StartCommand"
  | .finish => "FinishCommand"
  | .set => "SetCommand"
  | .exec => "ExecCommand"
  | .wait => "WaitCommand"
  | .break => "BreakCommand"
  | .continue => "ContinueCommand"
  | .flow => "SubFlowCommand"
  | .notification => "Notification"
  | .sessionSnapshot => "SessionSnapshot"
  | .frame => "Frame"
  | .messageData => "MessageData"
  | .flowFile => "FlowFileConfig"
  | .flowSettings => "FlowSettings"

def isCommand : ModelKind → Bool
  | .textMessage | .imageMessage | .listMessage | .carouselMessage
  | .conditional | .switch | .iteration | .start | .finish | .set | .exec | .wait
  | .break | .continue | .flow => true
  | _ => false

end ModelKind

def Builtin.name : Builtin → String
  | .len => "len"
  | .abs => "abs"
  | .max => "max"
  | .min => "min"
  | .dict => "dict"
  | .int => "int"
  | .str => "str"
  | .range => "range"
  | .lipsum => "generate_lorem_ipsum"
  | .cycler => "Cycler"
  | .joiner => "Joiner"
  | .space => "Namespace"

def Builtin.isType : Builtin → Bool
  | .dict | .int | .str | .range | .cycler | .joiner | .space => true
  | _ => false

def Signal.name : Signal → String
  | .break => "break"
  | .continue => "continue"

namespace Value

def typeName : Value → String
  | .none => "NoneType"
  | .bool _ => "bool"
  | .int _ => "int"
  | .float _ => "float"
  | .complex .. => "complex"
  | .str _ => "str"
  | .markup _ => "Markup"
  | .bytes _ => "bytes"
  | .list .. => "list"
  | .tuple _ => "tuple"
  | .dict .. => "dict"
  | .set _ => "set"
  | .moment m => if m.clock.isSome then "datetime" else "date"
  | .range .. => "range"
  | .view .keys .. => "dict_keys"
  | .view .values .. => "dict_values"
  | .view .items .. => "dict_items"
  | .stream name _ => name
  | .undefined lenient => if lenient then "ChainableUndefined" else "Undefined"
  | .accessor .. => "Accessor"
  | .function _ => "function"
  | .builtin b => if b.isType then "type" else "builtin_function_or_method"
  | .method .. => "builtin_function_or_method"
  | .pending .. => "coroutine"
  | .negated _ => "Negated"
  | .model kind .. => kind.name
  | .signal _ => "Signal"
  | .jump .. => "Jump"
  | .object name => name

def record (entries : List (String × Value)) : Value :=
  .dict .anonymous (entries.map fun (k, v) => (.str k, v))

def ofList (items : List Value) : Value := .list .anonymous items

def isNone : Value → Bool
  | .none => true
  | _ => false

def ofOption : Option Value → Value
  | some v => v
  | .none => .none

def text? : Value → Option String
  | .str s => some s
  | .markup s => some s
  | _ => .none

def isNumber : Value → Bool
  | .int _ | .float _ => true
  | _ => false

def mapping? : Value → Option Entries
  | .dict _ entries => some entries
  | _ => .none

def sequence? : Value → Option (List Value)
  | .list _ items => some items
  | .tuple items => some items
  | _ => .none

def isCallable : Value → Bool
  | .accessor .. | .function _ | .builtin _ | .method .. => true
  | .undefined _ => true
  | .object name => name == "method" || name == "method-wrapper" || name == "type"
  | _ => false

/-- Truth of a value: empty collections, zeros, `False` and `None` are false. -/
def truthy : Value → Bool
  | .none => false
  | .bool b => b
  | .int n => n != 0
  | .float x => x != 0.0
  | .complex re im => re != 0.0 || im != 0.0
  | .str s => !s.isEmpty
  | .markup s => !s.isEmpty
  | .bytes bs => !bs.isEmpty
  | .list _ items => !items.isEmpty
  | .tuple items => !items.isEmpty
  | .dict _ entries => !entries.isEmpty
  | .set items => !items.isEmpty
  | .range start stop step => if step > 0 then start < stop else stop < start
  | .view _ _ entries => !entries.isEmpty
  | .undefined _ => false
  | _ => true

end Value

end Colloquy
