import Colloquy.Run.Accessor
import Colloquy.Template.Scope

/-!
# Rendering templates

A template is rendered with the variables of a handler. Lists are gone through by position, so that
a loop sees elements that its own body appends. The most recently used templates are kept prepared.
-/

namespace Colloquy.Template

/-- Most elements that a loop may go through. -/
def loopBound : Nat := 1000000

def Scope.loop? (s : Scope) (name : String) : Option LoopState :=
  if name == "loop" then (s.frames.find? (·.has name)).bind (·.loop) else none

def loopMember (l : LoopState) (name : String) : Run Value := do
  let items := (← Run.current l.source).elements?.getD []
  let length := items.length
  match name with
  | "index" => return .int (l.index + 1)
  | "index0" => return .int l.index
  | "revindex" => return .int ((length : Int) - l.index)
  | "revindex0" => return .int ((length : Int) - l.index - 1)
  | "first" => return .bool (l.index == 0)
  | "last" => return .bool (length ≤ l.index + 1)
  | "length" => return .int length
  | "depth" => return .int 1
  | "depth0" => return .int 0
  | "previtem" => return l.previous.getD missing
  | "nextitem" => return items[l.index + 1]?.getD missing
  | _ => return missing

/-- Calls a method of a loop: `cycle` gives its arguments in turn. -/
def loopCall (l : LoopState) (name : String) (args : Arguments) : Run Value :=
  match name, args.positional, args.named with
  | "cycle", first :: rest, [] => pure ((first :: rest).getD (l.index % (rest.length + 1)) first)
  | "cycle", _, _ => throw (.fault .wrongType)
  | name, _, _ => do
    match ← loopMember l name with
    | .undefined _ => throw (.fault .undefinedOperand)
    | _ => throw (.fault .wrongType)

def Scope.loopMethod? (s : Scope) : Expr → Option (LoopState × String)
  | .member (.name n) m => (s.loop? n).map fun l => (l, m)
  | _ => none

def currentAll (vs : List Value) : Run (List Value) := vs.mapM Run.current

mutual

def Expr.eval (app : Application) (scope : Scope) : Expr → Run Value
  | .const v => if unnamed v then throw (.fault .unboundName) else Run.store v
  | .name s =>
    match scope.value s with
    | some v => Run.current v
    | none => pure (if (scope.loop? s).isSome then .object "LoopContext" else missing)
  | .list items => do Run.store (.ofList (← evalAll app scope items))
  | .tuple items => do return .tuple (← evalAll app scope items)
  | .dict entries => do
    Run.store (← Run.ofOutcome (dictOf (← evalEntries app scope entries)))
  | .negative e => do Run.ofOutcome (← e.eval app scope).neg
  | .positive e => do Run.ofOutcome (← e.eval app scope).pos
  | .not e => do return .bool !(← e.eval app scope).truthy
  | .binary op a b => do
    let v ← a.eval app scope
    let w ← b.eval app scope
    Run.store (← Run.ofOutcome (op.apply (← Run.current v) w))
  | .concat parts => do
    Run.ofOutcome (concatTexts (← currentAll (← evalAll app scope parts)))
  | .compare first rest => do evalChain app scope (← first.eval app scope) rest
  | .and a b => do
    let v ← a.eval app scope
    if v.truthy then b.eval app scope else return v
  | .or a b => do
    let v ← a.eval app scope
    if v.truthy then return v else b.eval app scope
  | .choice test yes no => do
    if (← test.eval app scope).truthy then yes.eval app scope
    else return (← evalOption app scope no).getD (.undefined false)
  | .member (.name n) name => do
    match scope.loop? n, scope.value n with
    | some l, _ => loopMember l name
    | none, some v => Run.ofOutcome (getMember (← Run.current v) name)
    | none, none => Run.ofOutcome (getMember missing name)
  | .member e name => do Run.ofOutcome (getMember (← e.eval app scope) name)
  | .item e (.bounds start stop step) => do
    let v ← e.eval app scope
    let start ← evalOption app scope start
    let stop ← evalOption app scope stop
    let step ← evalOption app scope step
    Run.store (← Run.ofOutcome
      (getSlice (← Run.current v) (.ofOption start) (.ofOption stop) (.ofOption step)))
  | .item e key => do
    let v ← e.eval app scope
    let k ← key.eval app scope
    Run.ofOutcome (getItem (← Run.current v) k)
  | .bounds .. => throw (.fault .malformedCall)
  | .call fn args => do
    match scope.loopMethod? fn with
    | some (l, name) => loopCall l name (← evalArgs app scope args)
    | none =>
      let f ← fn.eval app scope
      let args ← evalArgs app scope args
      Run.store (← callValue app f args)
  | .filter e name args => do
    let v ← e.eval app scope
    let args ← evalArgs app scope args
    match filter? name with
    | some f => Run.store (← Run.ofOutcome (f (← Run.current v) args))
    | none => throw (.fault (if args.named.isEmpty then .templateFailure else .wrongType))
  | .test e name args => do
    let v ← e.eval app scope
    let args ← evalArgs app scope args
    match test? name with
    | some f => return .bool (← Run.ofOutcome (f (← Run.current v) args))
    | none => throw (.fault (if args.named.isEmpty then .templateFailure else .wrongType))

/-- Evaluates expressions from the first to the last. -/
def evalAll (app : Application) (scope : Scope) : List Expr → Run (List Value)
  | [] => pure []
  | e :: es => do
    let v ← e.eval app scope
    return v :: (← evalAll app scope es)

def evalEntries (app : Application) (scope : Scope) : List (Expr × Expr) → Run (List (Value × Value))
  | [] => pure []
  | (k, e) :: es => do
    let key ← k.eval app scope
    let v ← e.eval app scope
    return (key, v) :: (← evalEntries app scope es)

/-- Evaluates a chain of comparisons; it ends with the first that does not hold. -/
def evalChain (app : Application) (scope : Scope) (v : Value) : List (Relation × Expr) → Run Value
  | [] => pure (.bool true)
  | (r, e) :: rest => do
    let w ← e.eval app scope
    if ← Run.ofOutcome (r.holds (← Run.current v) w) then evalChain app scope w rest
    else return .bool false
termination_by structural rest => rest

def evalOption (app : Application) (scope : Scope) : Option Expr → Run (Option Value)
  | none => pure none
  | some e => do return some (← e.eval app scope)

def evalNamed (app : Application) (scope : Scope) : List (String × Expr) → Run (List (String × Value))
  | [] => pure []
  | (k, e) :: es => do
    let v ← e.eval app scope
    return (k, v) :: (← evalNamed app scope es)

def evalArgs (app : Application) (scope : Scope) : CallArgs → Run Arguments
  | .mk positional named rest others => do
    let positional ← evalAll app scope positional
    let named ← evalNamed app scope named
    let rest ← evalOption app scope rest
    let others ← evalOption app scope others
    let positional ← currentAll positional
    let named ← named.mapM fun (k, v) => do return (k, ← Run.current v)
    Run.ofOutcome (completeArgs positional named rest others)

end

mutual

def Target.assign (frame : Frame) (v : Value) : Target → Run Frame
  | .name s => pure (frame.put s (some v))
  | .member .. => throw (.fault .templateFailure)
  | .tuple parts => do
    let items ← Run.ofOutcome (← Run.current v).elements
    if items.length = parts.length then assignAll frame items parts else throw (.fault .badValue)
termination_by structural t => t

def assignAll (frame : Frame) (vs : List Value) : List Target → Run Frame
  | [] => pure frame
  | t :: ts => do
    let frame ← t.assign frame (vs.headD .none)
    assignAll frame vs.tail ts
termination_by structural ts => ts

end

mutual

def Target.hasMember : Target → Bool
  | .name _ => false
  | .member .. => true
  | .tuple parts => anyMember parts

def anyMember : List Target → Bool
  | [] => false
  | t :: ts => t.hasMember || anyMember ts

end

/-- Goes through elements by position; the text of all rounds, and whether there was one. -/
def each (fetch : Nat → Run (Option Value)) (step : Nat → Value → Run (Option String)) (fuel i : Nat)
    (text : String) (some? : Bool) : Run (String × Bool) :=
  match fuel with
  | 0 => throw (.fault .outOfFuel)
  | fuel + 1 => do
    match ← fetch i with
    | none => return (text, some?)
    | some v =>
      match ← step i v with
      | some t => each fetch step fuel (i + 1) (text ++ t) true
      | none => each fetch step fuel (i + 1) text some?

/-- Elements of a value by position: those of a list as they are at that moment. -/
def fetchFrom (v : Value) : Run (Nat → Run (Option Value)) := do
  match v with
  | .list (.object _) _ => return fun i => do return ((← Run.current v).elements?.getD [])[i]?
  | v =>
    let cells := (← Run.ofOutcome v.elements).toArray
    return fun i => return cells[i]?

/-- Names given by a loop, and those that its test or body knows besides. -/
def loopSymbols (target : Target) : Symbols := target.names.foldl Symbols.give {}

mutual

def Node.render (app : Application) (outer : Scope) (frame : Frame) : Node → Run (String × Frame)
  | .data text => pure (text, frame)
  | .output e => do
    let v ← e.eval app { outer with frames := frame :: outer.frames }
    return (← Run.ofOutcome (shownText v), frame)
  | .branch tests otherwise => renderBranches app outer frame (renderAll app outer frame otherwise) tests
  | .assign target e => do
    if target.hasMember then throw (.fault .templateFailure)
    let v ← e.eval app { outer with frames := frame :: outer.frames }
    return ("", ← target.assign frame v)
  | .capture target filters body => do
    if target.hasMember then throw (.fault .templateFailure)
    let scope : Scope := { outer with frames := frame :: outer.frames }
    let inner := scope.enter (noteAll scope.has {} body)
    let (text, inner) ← renderAll app scope inner body
    let v ← filters.foldlM (fun v f => do
      let args ← evalArgs app { scope with frames := inner :: scope.frames } f.args
      match filter? f.name with
      | some g => Run.ofOutcome (g v args)
      | none => throw (.fault .rejectedTemplate)) (Value.str text)
    return ("", ← target.assign frame v)
  | .loop target source test body otherwise => do
    let scope : Scope := { outer with frames := frame :: outer.frames }
    let source ← source.eval app scope
    let bodySymbols := noteAll scope.has ((loopSymbols target).give "loop") body
    let passes (v : Value) : Run Bool :=
      match test with
      | none => pure true
      | some e => do
        let inner := scope.enter ((loopSymbols target).readAll scope.has e.names)
        let inner ← target.assign inner v
        return (← e.eval app { scope with frames := inner :: scope.frames }).truthy
    -- a test is asked ahead of the loop if the body may ask how the loop goes on
    let ahead := test.isSome && (noteAll (fun _ => false) (loopSymbols target) body).has "loop"
    let source ← if ahead then do
        pure (.tuple (← (← Run.ofOutcome source.elements).filterM passes))
      else pure source
    let fetch ← fetchFrom source
    let round (i : Nat) (v : Value) : Run (Option String) := do
      if ahead || (← passes v) then
        let inner ← target.assign (scope.enter bodySymbols) v
        let previous ← if i = 0 then pure none else fetch (i - 1)
        let (text, _) ← renderAll app scope { inner with loop := some ⟨i, source, previous⟩ } body
        return some text
      else return none
    let (text, found) ← each fetch round loopBound 0 "" false
    if found || otherwise.isEmpty then return (text, frame)
    let (last, _) ← renderAll app scope (scope.enter (noteAll scope.has {} otherwise)) otherwise
    return (text ++ last, frame)
termination_by structural n => n

def renderAll (app : Application) (outer : Scope) (frame : Frame) : List Node → Run (String × Frame)
  | [] => pure ("", frame)
  | n :: ns => do
    let (text, frame) ← n.render app outer frame
    let (more, frame) ← renderAll app outer frame ns
    return (text ++ more, frame)
termination_by structural ns => ns

def renderBranches (app : Application) (outer : Scope) (frame : Frame)
    (otherwise : Run (String × Frame)) : List (Expr × List Node) → Run (String × Frame)
  | [] => otherwise
  | (e, body) :: rest => do
    if (← e.eval app { outer with frames := frame :: outer.frames }).truthy then
      renderAll app outer frame body
    else renderBranches app outer frame otherwise rest
termination_by structural bs => bs

end

def globals : Entries :=
  [("range", .range), ("dict", .dict), ("lipsum", .lipsum), ("cycler", .cycler), ("joiner", .joiner),
    ("namespace", .space)].map fun (name, b) => (.str name, .builtin b)

def isTemplate (text : String) : Bool :=
  Value.holdsText ['\x7b', '\x7b'] text.toList || Value.holdsText ['\x7b', '%'] text.toList

def renderNodes (app : Application) (nodes : List Node) (vars : Entries) : Run String := do
  if !vars.all (fun (k, _) => k.text?.isSome) then throw (.fault .wrongType)
  let scope : Scope := { frames := [], given := Entries.merge globals vars }
  let frame := scope.enter (noteAll (fun _ => false) {} nodes)
  return (← renderAll app scope frame nodes).1

/-- Keeps a template; the one that was not used for the longest time makes place for it. -/
def keep (text : String) : Run Unit := do
  let w ← get
  if w.templateLimit < 1 then throw (.fault .badValue)
  let kept := w.templates.filter (· != text) ++ [text]
  set { w with templates := kept.drop (kept.length - w.templateLimit.toNat) }

/-- Renders a text with variables; a text that is no template is left as it is. -/
def render (app : Application) (text : String) (vars : Value) : Run Value := do
  if !isTemplate text then return .str text
  let nodes ← Run.ofOutcome (prepare text)
  keep text
  let entries ← Run.ofOutcome (entriesOf (← Run.current vars))
  return .str (← renderNodes app nodes entries)

end Colloquy.Template
