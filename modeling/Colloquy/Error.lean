import Colloquy.Value.Text

/-!
# Errors

Everything that can stop the reading, compiling or running of a flow, by cause. The wording of each
cause is given once, by `Error.message`; faults of evaluation have none.
-/

namespace Colloquy

open Text

/-- Why a field of a record is not acceptable. -/
inductive FieldDefect where
  | missing
  | notText
  | tooShort
  | notMapping
  | notList
  | notRecord
  | notChoice
  | notFloat
  | badFloatText
  | notInt
  | badIntText
  | hugeInt
  | fractionalInt
  | notFinite
  | notGreater
  | notAtLeast
  | badKey
  | notCallable
  | badTextBytes
deriving Repr, DecidableEq

def FieldDefect.code : FieldDefect → String
  | .missing => "missing"
  | .notText => "string_type"
  | .tooShort => "string_too_short"
  | .notMapping => "dict_type"
  | .notList => "list_type"
  | .notRecord => "model_type"
  | .notChoice => "literal_error"
  | .notFloat => "float_type"
  | .badFloatText => "float_parsing"
  | .notInt => "int_type"
  | .badIntText => "int_parsing"
  | .hugeInt => "int_parsing_size"
  | .fractionalInt => "int_from_float"
  | .notFinite => "finite_number"
  | .notGreater => "greater_than"
  | .notAtLeast => "greater_than_equal"
  | .badKey => "invalid_key"
  | .notCallable => "callable_type"
  | .badTextBytes => "string_unicode"

/-- A defect and the place where it was found, from the outside in. -/
structure FieldFault where
  place : List Value
  defect : FieldDefect

def FieldFault.under (step : Value) (faults : List FieldFault) : List FieldFault :=
  faults.map fun f => { f with place := step :: f.place }

inductive CommandDefect where
  | notFlow
  | untyped
  | unknownType (type : Value)
  | badFields (faults : List FieldFault)
  | switchWithoutValue
  | badForClause
  | badForInitializer
  | forWithoutVariable
  | badForIncrement
  | setWithoutMapping
  | subFlowWithoutId

def CommandDefect.message : CommandDefect → String
  | .notFlow => "expecting a string, mapping, handler or list"
  | .untyped => "cannot infer command type"
  | .unknownType type => "unknown type " ++ type.repr
  | .badFields _ => "<validation>"
  | .switchWithoutValue => "switch requires a 'switch' value"
  | .badForClause => "for expects [init, condition, increment]"
  | .badForInitializer => "for initializer must be a name or a mapping"
  | .forWithoutVariable => "numeric limit or increment requires a loop variable"
  | .badForIncrement => "for increment must be a number or a mapping"
  | .setWithoutMapping => "set expects a mapping of variable names to values"
  | .subFlowWithoutId => "an explicit flow requires an id"

/-- Kinds of errors that a handler function may raise by itself. -/
inductive RaisedKind where
  | value | key | runtime | connection | type
deriving Repr, DecidableEq

inductive Error where
  | fault (f : Fault)
  /-- Raised by a handler function on its own account. -/
  | raised (kind : RaisedKind) (message : String)
  | transportDown
  -- commands and what they hold
  | unrecognized (command : Value) (defect : Option CommandDefect)
  | notFlows (v : Value)
  | notCases (v : Value)
  | caseWithoutId (v : Value)
  | notItems (v : Value)
  | notItem (v : Value)
  | invalidItem (item : Value) (faults : List FieldFault)
  | notActions (v : Value)
  | invalidAction (action : Value) (faults : List FieldFault)
  | untypedAction (action : Value)
  | notAction (action : Value) (key : Value)
  | unknownCommandType (type : Value) (known : List String)
  | wrongCommand (compiler : String) (command : String)
  -- paths and keys
  | badPathId (id : Value)
  | badSegment (source : Value) (segment : String)
  | severalColons (key : Value)
  | foreignKey (key : Value) (dialog : String)
  | emptyPath
  | unexpectedPath (path : Value)
  | keyNotText (key : Value)
  | duplicateKey (key : String)
  | undefinedFlow (key : String) (suggestion : Option String)
  -- compiling
  | outsideLoop (signal : Signal) (key : String)
  | invalidStart (param : Value)
  | startArguments (args : Value)
  | actionWithoutFlow (id : Value) (type : String)
  | actionWithoutId (action : Value)
  | computedItemActions
  | computedActionFlow (id : Value)
  | computedActionType (id : Value) (type : String)
  -- running
  | undefinedHandler (name : String)
  | badArguments (name : String) (args : Value)
  | escapedSequence (signal : Signal) (key : String)
  | escapedHandler (signal : Signal) (key : String)
  | invalidWait (v : Value)
  | notCallable (v : Value)
  -- sessions
  | sessionWithoutId
  | variableName (v : Value)
  | untypedMessage (message : Value)
  | notMessage (v : Value)
  | sessionLocked
  -- dialogs, files and notifications
  | dialogName (v : Value)
  | notDialog (v : Value)
  | invalidNotification (faults : List FieldFault)
  | fileNotMapping (source typeName : String)
  | invalidFile (source : String) (faults : List FieldFault)
  | malformedFile (path : String)
  | fileMissing (path : String)
  | invalidRecord (faults : List FieldFault)

instance : Inhabited Error := ⟨.emptyPath⟩

def startHelp : String :=
  "expecting a dialog name, a [name, args] pair, a \x7bdialog, args\x7d mapping, " ++
    "or a handler returning one of these"

namespace Error

/-- Wording of an error; faults have none. -/
def message : Error → String
  | .fault _ => ""
  | .raised kind text => if kind == .key then quoted text else text
  | .transportDown => "transport unavailable"
  | .unrecognized command defect =>
    "Unrecognized command: " ++ command.repr ++
      (match defect with
        | some d => " (" ++ d.message ++ ")"
        | none => "")
  | .notFlows v => "Expecting a mapping describing flows, but received: " ++ v.repr
  | .notCases v => "Expecting a list or mapping of switch cases, but received: " ++ v.repr
  | .caseWithoutId v => "Switch case must be a mapping with an id, but received: " ++ v.repr
  | .notItems v => "Expecting a list or mapping describing items, but received: " ++ v.repr
  | .notItem v => "Expecting a mapping describing an item, but received: " ++ v.repr
  | .invalidItem item _ => "Invalid item " ++ item.repr ++ ": <validation>"
  | .notActions v => "Expecting a list or mapping describing actions, but received: " ++ v.repr
  | .invalidAction action _ => "Invalid action " ++ action.repr ++ ": <validation>"
  | .untypedAction action =>
    "Action type must be one of buy, link, postback, reply, share or locationRequest. " ++
      "Unable to infer type of " ++ action.repr
  | .notAction action key => "Unable to normalize action " ++ action.repr ++ " for id: " ++ key.toText
  | .unknownCommandType type known =>
    "Unknown command type: '" ++ type.toText ++ "'. Available: " ++
      (Value.ofList (known.map Value.str)).repr
  | .wrongCommand compiler command => compiler ++ " received wrong command type: " ++ command
  | .badPathId id =>
    "Invalid flow path id: " ++ id.repr ++
      (match id with
        | .bool _ => ""
        | _ => ". Ids may not be empty or contain '.', '#', ':', '|' or line breaks " ++
          "(a single leading '#' marks an absolute id)")
  | .badSegment source segment =>
    "Invalid flow key " ++ source.repr ++ ": bad segment " ++ quoted segment
  | .severalColons key => "Invalid flow key " ++ key.repr ++ ": more than one ':'"
  | .foreignKey key dialog =>
    "Flow key " ++ key.repr ++ " does not belong to dialog " ++ quoted dialog
  | .emptyPath => "Cannot derive a flow key from an empty path"
  | .unexpectedPath path =>
    "Unexpected flow path " ++ path.repr ++ ": expecting a sequence or string"
  | .keyNotText key => "Expecting a string flow key, but received " ++ key.repr
  | .duplicateKey key => "Attempt to create handler with duplicate flow key: " ++ key
  | .undefinedFlow key suggestion =>
    "Attempt to access undefined flow handler " ++ key ++
      (match suggestion with
        | some s => if s.isEmpty then "" else ". Did you mean " ++ s ++ "?"
        | none => "")
  | .outsideLoop signal key => "'" ++ signal.name ++ "' used outside of a loop at " ++ quoted key
  | .invalidStart param => "Invalid start parameter " ++ param.repr ++ ": " ++ startHelp
  | .startArguments args => "Start arguments must be a mapping, but received " ++ args.repr
  | .actionWithoutFlow id type =>
    "Action " ++ id.repr ++ " of type " ++ type ++
      " cannot carry a flow; only postback and reply actions can"
  | .actionWithoutId action => "Action " ++ action.repr ++ " needs an id"
  | .computedItemActions => "Computed items cannot carry computed actions"
  | .computedActionFlow id =>
    "Computed action " ++ id.repr ++ " cannot carry a flow; use thenFlow to refer to an existing one"
  | .computedActionType id type =>
    "Action " ++ id.repr ++ " of type " ++ type ++ " cannot carry a flow"
  | .undefinedHandler name => "Undefined handler: " ++ name
  | .badArguments name args =>
    "Undefined handler: " ++ name ++ " (expecting a mapping of arguments, but received " ++
      args.repr ++ ")"
  | .escapedSequence signal key => "'" ++ signal.name ++ "' escaped its loop in " ++ key
  | .escapedHandler signal key => "'" ++ signal.name ++ "' escaped flow handler " ++ key
  | .invalidWait v => "Invalid wait duration: " ++ v.repr
  | .notCallable v => "Expecting a function argument to apply, but received " ++ v.repr
  | .sessionWithoutId => "A session requires an id"
  | .variableName v => "Invalid variable name: " ++ v.repr
  | .untypedMessage m => "Unable to infer the type of message " ++ m.repr
  | .notMessage v => "Expecting a string or mapping message, but received " ++ v.repr
  | .sessionLocked => "Session locked: no operations allowed after start() or finish()"
  | .dialogName v => "Dialog name must be a non-empty string, got " ++ v.repr
  | .notDialog v => "Expecting a Dialog instance, but received " ++ v.repr
  | .invalidNotification _ => "Invalid notification: <validation>"
  | .fileNotMapping source typeName =>
    "Expecting a mapping at the top of " ++ source ++ ", got " ++ typeName
  | .invalidFile source _ => "Invalid flow file " ++ source ++ ": <validation>"
  | .malformedFile path => "Invalid YAML in " ++ path ++ ": <yaml>"
  | .fileMissing path => "Flow file not found: " ++ path
  | .invalidRecord _ => ""

def fieldFaults : Error → List FieldFault
  | .unrecognized _ (some (.badFields faults)) => faults
  | .invalidItem _ faults => faults
  | .invalidAction _ faults => faults
  | .invalidNotification faults => faults
  | .invalidFile _ faults => faults
  | .invalidRecord faults => faults
  | _ => []

end Error

end Colloquy
