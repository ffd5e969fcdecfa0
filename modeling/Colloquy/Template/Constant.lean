import Colloquy.Template.Filter
import Colloquy.Template.Tree

/-!
# Constant parts of templates

An expression without variables and calls has its value before the template runs. Such expressions
are evaluated once, when a template is prepared. A constant that shows nowhere but inside another
expression has to have a written form: an infinite number or `nan` has none there, so that using it
fails.
-/

namespace Colloquy.Template

/-- Applies an arithmetic operator; a text is a format for `%`. -/
def Operator.apply (op : Operator) (v w : Value) : Outcome Value :=
  match op with
  | .add => v.add w
  | .sub => v.sub w
  | .mul => v.mul w
  | .div => v.div w
  | .floorDiv => v.floorDiv w
  | .pow => v.pow w
  | .mod =>
    match v with
    | .str s => do return .str (← Format.percent s w false)
    | .markup s => do return .markup (← Format.percent s w true)
    | v => v.mod w

def Relation.holds (r : Relation) (v w : Value) : Outcome Bool :=
  match r with
  | .eq => .ok (v.eq w)
  | .ne => .ok (v.neq w)
  | .lt => v.order .lt w
  | .le => v.order .le w
  | .gt => v.order .gt w
  | .ge => v.order .ge w
  | .within => v.member w
  | .notWithin => do return !(← v.member w)

def concatTexts (vs : List Value) : Outcome Value := do
  return .str (String.join (← vs.mapM Value.toText?))

/-- Dictionary of entries whose keys have to be usable as keys. -/
def dictOf (entries : List (Value × Value)) : Outcome Value :=
  if entries.all fun (k, _) => k.hashable then .ok (.dict .anonymous (Entries.ofList entries))
  else .error .wrongType

/-- Arguments of a call completed by collections of further ones. -/
def completeArgs (positional : List Value) (named : List (String × Value)) (rest others : Option Value) :
    Outcome Arguments := do
  let more ← match rest with
    | none => pure []
    | some v => v.elements
  let extra ← match others with
    | none => pure []
    | some (.dict _ entries) => entries.mapM fun (k, v) =>
        match k.text? with
        | some name => if named.any (·.1 == name) then .error .wrongType else .ok (name, v)
        | none => .error .wrongType
    | some (.undefined _) => .error .undefinedOperand
    | some _ => .error .wrongType
  return ⟨positional ++ more, named ++ extra⟩

mutual

/-- Value of a constant expression; none if it is not constant or fails. -/
def constant : Expr → Option Value
  | .const v => some v
  | .name _ => none
  | .list items => (constants items).map Value.ofList
  | .tuple items => (constants items).map Value.tuple
  | .dict entries => do (dictOf (← constantEntries entries)).toOption
  | .negative e => do (← constant e).neg.toOption
  | .positive e => do (← constant e).pos.toOption
  | .not e => do return .bool !(← constant e).truthy
  | .binary op a b => do
    let v ← constant a
    let w ← constant b
    (op.apply v w).toOption
  | .concat parts => do (concatTexts (← constants parts)).toOption
  | .compare first rest => do constantChain (← constant first) rest
  | .and a b => do
    let v ← constant a
    if v.truthy then constant b else return v
  | .or a b => do
    let v ← constant a
    if v.truthy then return v else constant b
  | .choice test yes no => do
    if (← constant test).truthy then constant yes
    else
      match ← constant? no with
      | some v => return v
      | none => none
  | .member e name => do (getMember (← constant e) name).toOption
  | .item e (.bounds start stop step) => do
    let v ← constant e
    let start ← constant? start
    let stop ← constant? stop
    let step ← constant? step
    match getSlice v (.ofOption start) (.ofOption stop) (.ofOption step) with
    | .ok w => return w
    | .error .wrongType => return missing
    | .error _ => none
  | .item e key => do
    let v ← constant e
    let k ← constant key
    (getItem v k).toOption
  | .bounds .. => none
  | .call .. => none
  | .filter e name args => do
    let f ← filter? name
    let v ← constant e
    let args ← constantArgs args
    (f v args).toOption
  | .test e name args => do
    let f ← test? name
    let v ← constant e
    let args ← constantArgs args
    return .bool (← (f v args).toOption)

def constants : List Expr → Option (List Value)
  | [] => some []
  | e :: es => do return (← constant e) :: (← constants es)

def constantEntries : List (Expr × Expr) → Option (List (Value × Value))
  | [] => some []
  | (k, e) :: es => do return (← constant k, ← constant e) :: (← constantEntries es)

def constantChain (v : Value) : List (Relation × Expr) → Option Value
  | [] => some (.bool true)
  | (r, e) :: rest => do
    let w ← constant e
    if ← (r.holds v w).toOption then constantChain w rest else return .bool false

def constant? : Option Expr → Option (Option Value)
  | none => some none
  | some e => do return some (← constant e)

def constantNamed : List (String × Expr) → Option (List (String × Value))
  | [] => some []
  | (k, e) :: es => do return (k, ← constant e) :: (← constantNamed es)

def constantArgs : CallArgs → Option Arguments
  | .mk positional named rest others => do
    let positional ← constants positional
    let named ← constantNamed named
    let rest ← constant? rest
    let others ← constant? others
    (completeArgs positional named rest others).toOption

end

mutual

/-- Whether a constant can be written down inside a prepared template. -/
def writable : Value → Bool
  | .none | .bool _ | .int _ | .float _ | .complex .. | .range .. | .str _ | .markup _ => true
  | .list _ items => writableAll items
  | .tuple items => writableAll items
  | .dict _ entries => writableEntries entries
  | _ => false

def writableAll : List Value → Bool
  | [] => true
  | v :: vs => writable v && writableAll vs

def writableEntries : Entries → Bool
  | [] => true
  | (k, v) :: es => writable k && writable v && writableEntries es

end

mutual

/-- Whether a constant holds a number without a written form. -/
def unnamed : Value → Bool
  | .float x => !Number.isFinite x
  | .complex re im => !Number.isFinite re || !Number.isFinite im
  | .list _ items => unnamedAny items
  | .tuple items => unnamedAny items
  | .dict _ entries => unnamedEntry entries
  | _ => false

/-- Whether one of the constants holds such a number. -/
def unnamedAny : List Value → Bool
  | [] => false
  | v :: vs => unnamed v || unnamedAny vs

def unnamedEntry : Entries → Bool
  | [] => false
  | (k, v) :: es => unnamed k || unnamed v || unnamedEntry es

end

def orConstant (e folded : Expr) : Expr :=
  match constant e with
  | some v => if writable v then .const v else folded
  | none => folded

mutual

/-- Puts constants in the place of constant parts. -/
def Expr.fold : Expr → Expr
  | .const v => .const v
  | .name s => .name s
  | .list items => .list (foldAll items)
  | .tuple items => .tuple (foldAll items)
  | .dict entries => .dict (foldEntries entries)
  | .negative e => orConstant (.negative e) (.negative e.fold)
  | .positive e => orConstant (.positive e) (.positive e.fold)
  | .not e => orConstant (.not e) (.not e.fold)
  | .binary op a b => orConstant (.binary op a b) (.binary op a.fold b.fold)
  | .concat parts => orConstant (.concat parts) (.concat (foldAll parts))
  | .compare first rest => orConstant (.compare first rest) (.compare first.fold (foldChain rest))
  | .and a b => orConstant (.and a b) (.and a.fold b.fold)
  | .or a b => orConstant (.or a b) (.or a.fold b.fold)
  | .choice test yes no => orConstant (.choice test yes no) (.choice test.fold yes.fold (foldOption no))
  | .member e name => orConstant (.member e name) (.member e.fold name)
  | .item e key => orConstant (.item e key) (.item e.fold key.fold)
  | .bounds start stop step => .bounds (foldOption start) (foldOption stop) (foldOption step)
  | .call fn args => .call fn.fold args.fold
  | .filter e name args => orConstant (.filter e name args) (.filter e.fold name args.fold)
  | .test e name args => orConstant (.test e name args) (.test e.fold name args.fold)

def foldAll : List Expr → List Expr
  | [] => []
  | e :: es => e.fold :: foldAll es

def foldEntries : List (Expr × Expr) → List (Expr × Expr)
  | [] => []
  | (k, e) :: es => (k.fold, e.fold) :: foldEntries es

def foldChain : List (Relation × Expr) → List (Relation × Expr)
  | [] => []
  | (r, e) :: es => (r, e.fold) :: foldChain es

def foldOption : Option Expr → Option Expr
  | none => none
  | some e => some e.fold

def foldNamed : List (String × Expr) → List (String × Expr)
  | [] => []
  | (k, e) :: es => (k, e.fold) :: foldNamed es

def CallArgs.fold : CallArgs → CallArgs
  | .mk positional named rest others =>
    .mk (foldAll positional) (foldNamed named) (foldOption rest) (foldOption others)

end

/-- Text that an expression shows: nothing for `None`. -/
def shownText (v : Value) : Outcome String :=
  match v with
  | .none => .ok ""
  | v => v.toText?

mutual

def Node.fold : Node → Outcome Node
  | .data text => .ok (.data text)
  | .output e =>
    match constant e with
    | some v => do return .data (← shownText v)
    | none => .ok (.output e.fold)
  | .branch tests otherwise => do return .branch (← foldTests tests) (← foldNodes otherwise)
  | .loop target source test body otherwise => do
    return .loop target source.fold (test.map Expr.fold) (← foldNodes body) (← foldNodes otherwise)
  | .assign target e => .ok (.assign target e.fold)
  | .capture target filters body => do
    return .capture target (filters.map fun f => { f with args := f.args.fold }) (← foldNodes body)

def foldNodes : List Node → Outcome (List Node)
  | [] => .ok []
  | n :: ns => do
    let n ← n.fold
    return n :: (← foldNodes ns)

def foldTests : List (Expr × List Node) → Outcome (List (Expr × List Node))
  | [] => .ok []
  | (e, ns) :: rest => do
    let ns ← foldNodes ns
    return (e.fold, ns) :: (← foldTests rest)

end

end Colloquy.Template
