import Colloquy.Template.Render
import Colloquy.Value.Size

/-!
# Expanding parameters

A parameter of a command is expanded when the command runs: handlers are called, texts rendered,
named handlers executed, and collections expanded element by element.

The elements of a collection are expanded side by side. Expansion goes in rounds: in each round
every element that can go on does so, in the order in which the elements are written. An element
that holds a collection itself starts the elements of that collection in the next round. A collection
hears of a finished element one round later and goes on one round after it has heard of all of them,
or of the first that failed. Elements that are still going when the whole expansion fails have the
rest of that round and one more.
-/

namespace Colloquy

structure Expander where
  app : Application
  handlers : Handlers
  vars : Value
  session : Value
  path : Value

/-- What is done with an expanded value. -/
inductive Expansion where
  /-- The value is inverted. -/
  | negate
  /-- The value is the arguments of a named handler. -/
  | execute (name : String)

inductive Collection where
  | items
  /-- Values that are `None` are left out. -/
  | entries (keys : List Value)

inductive Task where
  /-- Starts in the next round. -/
  | fresh (param : Value)
  /-- Waits for elements; `settled` once all of them are there or one failed. -/
  | group (collection : Collection) (after : List Expansion) (settled : Option (Except Error Unit))
      (elements : List Task)
  /-- Has ended; elements of a failed collection may still be going. -/
  | ended (result : Except Error Value) (heard : Bool) (orphans : List Task)

namespace Expander

def calls (param : Value) : Bool :=
  match param with
  | .model .. => false
  | v => v.isCallable

def execTarget (entries : Entries) : Value × Value :=
  let target := Entries.named entries "exec"
  let args := Entries.named entries "args"
  match target.sequence? with
  | some [name] => (name, args)
  | some [name, args] => (name, args)
  | _ => (target, args)

/-- Executes a named handler with the variables and arguments on top of them. -/
def execute (x : Expander) (name : String) (args : Value) : Run Value := do
  match ← Run.current args with
  | .dict _ entries =>
    match (← Run.current x.vars).mapping? with
    | some vars => executeHandler x.app x.handlers (.str name) (Entries.merge vars entries)
    | none => throw (.fault .wrongType)
  | args => throw (.badArguments name args)

def resume (x : Expander) (v : Value) : List Expansion → Run Value
  | [] => pure v
  | .negate :: rest => do x.resume (.bool !(← Run.current v).truthy) rest
  | .execute name :: rest => do x.resume (← x.execute name (← Run.store v)) rest

def Collection.build (c : Collection) (values : List Value) : Value :=
  match c with
  | .items => .ofList values
  | .entries keys =>
    .dict .anonymous ((keys.zip values).filter fun (_, v) => !v.isNone)

def outcome {α : Type} (r : Run α) : Run (Except Error α) := fun w =>
  match r w with
  | .ok a w => .ok (.ok a) w
  | .error e w => .ok (.error e) w

def ended (x : Expander) (after : List Expansion) (r : Run Value) : Run Task := do
  return .ended (← outcome (do x.resume (← r) after)) false []

/-- Starts the elements of a collection; an empty one is there at once. -/
def gather (x : Expander) (c : Collection) (after : List Expansion) (params : List Value) : Run Task :=
  if params.isEmpty then x.ended after (pure (Collection.build c []))
  else pure (.group c after none (params.map Task.fresh))

/-- Starts the expansion of a parameter with the current content of its objects. The fuel bounds how
deep arguments of named handlers and inverted parameters nest. -/
def begin (x : Expander) (fuel : Nat) (after : List Expansion) (param : Value) : Run Task :=
  match fuel with
  | 0 => throw (.fault .outOfFuel)
  | fuel + 1 =>
    match param with
    | .negated param => x.begin fuel (.negate :: after) param
    | .list _ items => x.gather .items after items
    | .tuple items => x.gather .items after items
    | .dict _ entries =>
      if Entries.hasName entries "exec" then
        let (name, args) := execTarget entries
        match name.text? with
        | none => x.ended after (throw (.undefinedHandler name.repr))
        | some name =>
          if args.isNone then x.ended after (x.execute name (.dict .anonymous []))
          else x.begin fuel (.execute name :: after) args
      else x.gather (.entries (entries.map (·.1))) after (entries.map (·.2))
    | v =>
      match v.text? with
      | some s => x.ended after (Template.render x.app s x.vars)
      | none =>
        if calls v then x.ended after (callHandler x.app v x.vars x.session x.path)
        else x.ended after (pure v)

def start (x : Expander) (param : Value) : Run Task := do
  let param ← Run.current param
  x.begin (param.size + 1) [] param

/-- Results of elements that have all ended well, or the error of the first that failed, as far as
the collection has heard of them. -/
def settle : List Task → Option (Except Error Unit)
  | [] => some (.ok ())
  | .ended (.error e) true _ :: _ => some (.error e)
  | .ended (.ok _) true _ :: rest => settle rest
  | _ :: rest =>
    match settle rest with
    | some (.error e) => some (.error e)
    | _ => none

def results : List Task → List Value
  | [] => []
  | .ended (.ok v) _ _ :: rest => v :: results rest
  | _ :: rest => results rest

def finish (x : Expander) (c : Collection) (after : List Expansion) (settled : Except Error Unit)
    (elements : List Task) : Run Task :=
  match settled with
  | .error e => pure (.ended (.error e) false elements)
  | .ok () => x.ended after (pure (Collection.build c (results elements)))

mutual

def round (x : Expander) : Task → Run Task
  | .fresh param => x.start param
  | .group c after none elements => do
    let elements ← x.roundAll elements
    return .group c after (settle elements) elements
  | .group c after (some settled) elements => do
    x.finish c after settled (← x.roundAll elements)
  | .ended result _ orphans => do
    return .ended result true (← x.roundAll orphans)

def roundAll (x : Expander) : List Task → Run (List Task)
  | [] => pure []
  | t :: ts => do
    let t ← x.round t
    return t :: (← x.roundAll ts)

end

/-- Goes round by round to the end of an expansion. -/
def complete (x : Expander) (fuel : Nat) (t : Task) : Run Value :=
  match fuel with
  | 0 => throw (.fault .outOfFuel)
  | fuel + 1 => do
    match t with
    | .ended (.ok v) _ _ => return v
    | .ended (.error e) _ orphans =>
      let _ ← x.roundAll orphans
      throw e
    | t => x.complete fuel (← x.round t)

/-- Rounds that suffice for a parameter: three for each level of nesting. Inverting a value takes none. -/
def rounds : Value → Nat
  | .negated param => rounds param
  | param => 3 * param.size + 3

theorem le_rounds (param : Value) : 6 ≤ rounds param := by
  fun_induction rounds param with
  | case1 param ih => exact ih
  | case2 param =>
    have hpos := param.size_pos
    omega

def expand (x : Expander) (param : Value) : Run Value := do
  x.complete (rounds (← Run.current param)) (← x.start param)

def expandGiven (x : Expander) (param : Value) : Run Value :=
  if param.isNone then pure .none else x.expand param

/-- Expands several parameters side by side. -/
def expandAll (x : Expander) (params : List Value) : Run (List Value) := do
  match ← x.complete (rounds (← Run.current (.ofList params))) (← x.gather .items [] params) with
  | .list _ items => return items
  | _ => return []

/-- Executes the handler that an `exec` mapping names. -/
def exec (x : Expander) (param : Value) : Run Value := do
  match ← Run.current param with
  | .dict id entries =>
    if Entries.hasName entries "exec" then x.expand (.dict id entries) else throw (.fault .missingKey)
  | _ => throw (.fault .wrongType)

end Expander

def startsPatternName (c : Char) : Bool := c.isAlpha || c == '_'

def isPatternName : List Char → Bool
  | [] => false
  | c :: cs => startsPatternName c && cs.all Text.isWordPart

/-- The names of a pattern such as `\x7ba, b\x7d`; none for a plain name. -/
def parseDestructuring (key : String) : Option (List String) :=
  match Number.stripBlanks key.toList with
  | '\x7b' :: rest =>
    if rest.getLast? == some '\x7d' then
      let names := (Text.splitWhen (· == ',') rest.dropLast).map Number.stripBlanks
      if names.all isPatternName then some (names.map String.ofList) else none
    else none
  | _ => none

namespace Expander

/-- Names and values that one entry of a `set` mapping assigns. -/
def assignments (key value : Value) : Run (List (Value × Value)) := do
  match key with
  | .str s | .markup s =>
    match parseDestructuring s with
    | none => return [(key, value)]
    | some names => do
      let value ← Run.current value
      names.mapM fun name => do return (.str name, ← Run.ofOutcome (value.lookup (.str name)))
  | .bytes _ => throw (.fault .wrongType)
  | _ => throw (.fault .missingMember)

/-- Expands a `set` mapping. Values that are `None` are kept, and a pattern assigns the members of
its value. -/
def expandSet (x : Expander) (param : Value) : Run Value := do
  let param ← Run.current param
  let keys ← Run.ofOutcome param.elements
  let params ← keys.mapM fun k => Run.ofOutcome (param.subscript k)
  let values ← x.expandAll params
  let assigned ← (keys.zip values).mapM fun (k, v) => assignments k v
  Run.store (.dict .anonymous (Entries.ofList assigned.flatten))

end Expander

end Colloquy
