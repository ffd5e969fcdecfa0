import Colloquy.Value.Json
import Colloquy.Value.Member

/-!
# Filters and tests

Filters turn a value into another one, tests ask something of a value. All of them are functions of
values alone. Members that templates ask for need not exist: what is missing is undefined, and
members of an undefined value are undefined again.
-/

namespace Colloquy.Template

open Text Number TextMethod

def missing : Value := .undefined true

def getMember (v : Value) (name : String) : Outcome Value :=
  match v with
  | .undefined true => .ok missing
  | .undefined false => .error .undefinedOperand
  | v =>
    match v.memberNamed? name with
    | some w => .ok w
    | none =>
      match v.subscript (.str name) with
      | .ok w => .ok w
      | .error _ => .ok missing

/-- Element of a value for `value[key]`: elements come before members. -/
def getItem (v key : Value) : Outcome Value :=
  match v with
  | .undefined true => .ok missing
  | .undefined false => .error .undefinedOperand
  | v =>
    match v.subscript key with
    | .ok w => .ok w
    | .error _ =>
      match key.text? with
      | some name => .ok ((v.memberNamed? name).getD missing)
      | none => .ok missing

def getSlice (v start stop step : Value) : Outcome Value :=
  match v with
  | .undefined true => .ok missing
  | .undefined false => .error .undefinedOperand
  | v => v.slice start stop step

def pathParts (path : Value) : Outcome (List Value) :=
  match path with
  | .none => .ok []
  | .str s | .markup s =>
    (splitWhen (· == '.') s.toList).mapM fun part =>
      if !part.isEmpty && part.all isDigit then
        match readInt? 10 (String.ofList part) with
        | some n => .ok (.int n)
        | none => .error .badValue
      else .ok (.str (String.ofList part))
  | v => .ok [v]

def follow (parts : List Value) (v : Value) : Outcome Value := parts.foldlM getItem v

def ignoreCase (v : Value) : Value :=
  match v with
  | .str s => .str (toLower s)
  | .markup s => .markup (toLower s)
  | v => v

/-- The text of a value; safe text stays safe. -/
def softText (v : Value) : Outcome Value :=
  match v with
  | .str _ | .markup _ => .ok v
  | v => do return .str (← v.toText?)

def mapText (f : String → String) (v : Value) : Outcome Value := do
  match ← softText v with
  | .markup s => return .markup (f s)
  | .str s => return .str (f s)
  | w => return w

def separatesWords (c : Char) : Bool :=
  isBlank c || c == '-' || c == '(' || c == '\x7b' || c == '[' || c == '<'

/-- Words with a capital letter at the start and small letters after it. -/
def titleWords (cs : List Char) : String :=
  let groups := cs.splitBy fun a b => separatesWords a == separatesWords b
  String.join (groups.map fun g =>
    match g with
    | [] => ""
    | c :: rest => toUpper (String.singleton c) ++ toLower (String.ofList rest))

/-- Arguments bound to parameters by position or name; `required` of them have to be given. -/
def bindArgs (args : Arguments) (names : List String) (required : Nat) : Outcome (List (Option Value)) := do
  if names.length < args.positional.length then .error .wrongType
  if !args.named.all (fun (k, _) => (names.drop args.positional.length).contains k) then .error .wrongType
  let values := (List.range names.length).map fun i => argument args i (names.getD i "")
  if (values.take required).all Option.isSome then return values else .error .wrongType

/-- Elements in reverse order, for values that have one. -/
def reversed? (v : Value) : Option (List Value) :=
  match v with
  | .set _ | .stream .. | .model .. => none
  | v => v.elements?.map List.reverse

def reversedName : Value → String
  | .list .. => "list_reverseiterator"
  | .dict .. => "dict_reversekeyiterator"
  | .range .. => "range_iterator"
  | _ => "reversed"

/-- Sum of values from left to right, texts excepted. -/
def sumOf (start : Value) (items : List Value) : Outcome Value :=
  match start with
  | .str _ | .markup _ | .bytes _ => .error .wrongType
  | start => items.foldlM Value.add start

/-- The element with the greatest or least key; of equal ones the first. -/
def extremeBy (test : OrderTest) (key : Value → Outcome Value) : List Value → Outcome Value
  | [] => .ok missing
  | v :: vs => do
    let first ← key v
    let (best, _) ← vs.foldlM (fun (best, bestKey) w => do
      let k ← key w
      return if ← k.order test bestKey then (w, k) else (best, bestKey)) (v, first)
    return best

/-- Smallest and greatest number of places that rounding looks at. -/
def roundLimits : Int × Int := (-308, 323)

/-- A number rounded to places, halves to the even neighbour. -/
def roundTo (v : Value) (places : Value) : Outcome Value :=
  match v, places with
  | .float x, .none =>
    match roundPlaces x 0 with
    | some y => Format.asInteger (.float y) |>.map Value.int
    | none => .error .overflow
  | .float x, places =>
    match places.index? with
    | none => .error .wrongType
    | some n =>
      if roundLimits.2 < n || !isFinite x then .ok (.float x)
      else if n < roundLimits.1 then .ok (.float (0.0 * x))
      else
        match roundPlaces x n with
        | some y => .ok (.float y)
        | none => .error .overflow
  | v, places =>
    match v.index?, places with
    | none, _ => .error .wrongType
    | some n, .none => .ok (.int n)
    | some n, places =>
      match places.index? with
      | none => .error .wrongType
      | some k =>
        if 0 ≤ k then .ok (.int n)
        else if n.natAbs < Nat.pow 10 ((-k).toNat - 1) then .ok (.int 0)
        else
          let unit := Nat.pow 10 (-k).toNat
          let m := Binary.roundDiv n.natAbs unit * unit
          .ok (.int (if n < 0 then -(m : Int) else m))

def wholeNumber (up : Bool) (v : Value) : Outcome Int :=
  match v with
  | .float x =>
    match (if up then ceiling? x else floor? x) with
    | some n => .ok n
    | none => if x.isNaN then .error .badValue else .error .overflow
  | v =>
    match v.index? with
    | some n => .ok n
    | none => .error .wrongType

def safeJson (v indent : Value) : Outcome Value := do
  let indent ← match indent with
    | .none => pure none
    | .str s | .markup s => pure (some s)
    | v =>
      match v.index? with
      | some n => pure (some (String.ofList (List.replicate n.toNat ' ')))
      | none => .error .wrongType
  let text ← Json.write { indent, sortKeys := true } 0 v
  return .markup (String.join (text.toList.map fun c =>
    if c == '<' || c == '>' || c == '&' || c.toNat == 0x27 then "\\u" ++ hexText 4 c.toNat
    else String.singleton c))

def isUndefined : Value → Bool
  | .undefined _ => true
  | _ => false

def intOr (v default base : Value) : Outcome Value :=
  let direct : Outcome Int :=
    match v.text? with
    | some s =>
      match base.index? with
      | none => .error .wrongType
      | some b =>
        if b != 0 && (b < 2 || 36 < b) then .error .badValue
        else
          match readInt? b.toNat s with
          | some n => .ok n
          | none => .error .badValue
    | none => toInteger v
  match direct with
  | .ok n => .ok (.int n)
  | .error .wrongType | .error .badValue =>
    match toFloating v with
    | .ok x =>
      match Format.asInteger (.float x) with
      | .ok n => .ok (.int n)
      | .error _ => .ok default
    | .error .wrongType | .error .badValue | .error .overflow => .ok default
    | .error f => .error f
  | .error f => .error f

def floatOr (v default : Value) : Outcome Value :=
  match toFloating v with
  | .ok x => .ok (.float x)
  | .error .wrongType | .error .badValue => .ok default
  | .error f => .error f

def sortBy (key : Value → Outcome Value) (down : Value) (items : List Value) : Outcome Value := do
  let keyed ← items.mapM fun v => do return (← key v, v)
  let down ← intArg down
  let lt := fun (a b : Value × Value) => a.1.order .lt b.1
  let sorted ← if down != 0 then Sort.sortDown lt keyed else Sort.sort lt keyed
  return .ofList (sorted.map (·.2))

def filter? (name : String) : Option (Value → Arguments → Outcome Value) :=
  let plain (f : Value → Outcome Value) : Value → Arguments → Outcome Value := fun v args => do
    let _ ← bindArgs args [] 0
    f v
  match name with
  | "upper" => some (plain (mapText toUpper))
  | "lower" => some (plain (mapText toLower))
  | "capitalize" => some (plain (mapText capitalize))
  | "title" => some (plain fun v => do
      return .str (titleWords ((← softText v).text?.getD "").toList))
  | "string" => some (plain softText)
  | "length" | "count" => some fun v args => do
      checkPlain args 0 0
      return .int (← v.length)
  | "abs" => some fun v args => do
      checkPlain args 0 0
      v.abs
  | "list" => some (plain fun v => do return .ofList (← v.elements))
  | "first" => some (plain fun v => do return (← v.elements).head?.getD missing)
  | "last" => some (plain fun v =>
      match reversed? v with
      | some items => .ok (items.head?.getD missing)
      | none => .error .wrongType)
  | "reverse" => some (plain fun v =>
      match v with
      | .str s => .ok (.str (String.ofList s.toList.reverse))
      | .markup s => .ok (.markup (String.ofList s.toList.reverse))
      | v =>
        match reversed? v with
        | some items => .ok (.stream (reversedName v) items)
        | none =>
          match v.elements? with
          | some items => .ok (.ofList items.reverse)
          | none => .error .badFilterArgument)
  | "default" | "d" => some fun v args => do
      match ← bindArgs args ["default_value", "boolean"] 0 with
      | [d, boolean] =>
        let d := d.getD (.str "")
        if isUndefined v || ((boolean.getD (.bool false)).truthy && !v.truthy) then return d else return v
      | _ => .error .wrongType
  | "join" => some fun v args => do
      match ← bindArgs args ["d", "attribute"] 0 with
      | [d, path] =>
        let separator ← (d.getD (.str "")).toText?
        let parts ← pathParts (path.getD .none)
        let texts ← (← v.elements).mapM fun item => do (← follow parts item).toText?
        return .str (separator.intercalate texts)
      | _ => .error .wrongType
  | "trim" => some fun v args => do
      match ← bindArgs args ["chars"] 0 with
      | [chars] =>
        let s ← softText v
        let trimmed ← TextMethod.strip "strip" (s.text?.getD "").toList ⟨chars.toList, []⟩
        match s, trimmed with
        | .markup _, .str t => return .markup t
        | _, t => return t
      | _ => .error .wrongType
  | "replace" => some fun v args => do
      match ← bindArgs args ["old", "new", "count"] 2 with
      | [some old, some new, count] =>
        let s ← v.toText?
        let old ← old.toText?
        let new ← new.toText?
        let count ← match count with
          | none | some .none => pure none
          | some c => limitArg (some c)
        return .str (String.ofList (replaceIn old.toList new.toList s.toList count))
      | _ => .error .wrongType
  | "int" => some fun v args => do
      match ← bindArgs args ["default", "base"] 0 with
      | [d, base] => intOr v (d.getD (.int 0)) (base.getD (.int 10))
      | _ => .error .wrongType
  | "float" => some fun v args => do
      match ← bindArgs args ["default"] 0 with
      | [d] => floatOr v (d.getD (.float 0.0))
      | _ => .error .wrongType
  | "sum" => some fun v args => do
      match ← bindArgs args ["attribute", "start"] 0 with
      | [path, start] =>
        let parts ← pathParts (path.getD .none)
        let items ← v.elements
        let start := start.getD (.int 0)
        let _ ← sumOf start []
        let items ← items.mapM (follow parts)
        sumOf start items
      | _ => .error .wrongType
  | "max" => some (fun v args => extremeFilter .gt v args)
  | "min" => some (fun v args => extremeFilter .lt v args)
  | "sort" => some fun v args => do
      match ← bindArgs args ["reverse", "case_sensitive", "attribute"] 0 with
      | [down, sensitive, path] =>
        let sensitive := (sensitive.getD (.bool false)).truthy
        let fields : List Value := match path.getD .none with
          | .str s | .markup s => (splitWhen (· == ',') s.toList).map fun p => .str (String.ofList p)
          | a => [a]
        let paths ← fields.mapM pathParts
        let key (item : Value) : Outcome Value := do
          let keys ← paths.mapM fun parts => do
            let k ← follow parts item
            return if sensitive then k else ignoreCase k
          return .ofList keys
        sortBy key (down.getD (.bool false)) (← v.elements)
      | _ => .error .wrongType
  | "round" => some fun v args => do
      match ← bindArgs args ["precision", "method"] 0 with
      | [precision, method] =>
        let precision := precision.getD (.int 0)
        match (method.getD (.str "common")).text? with
        | some "common" => roundTo v precision
        | some "ceil" | some "floor" =>
          let up := (method.getD .none).text? == some "ceil"
          let unit ← Value.pow (.int 10) precision
          let scaled ← v.mul unit
          Value.div (.int (← wholeNumber up scaled)) unit
        | _ => if (method.getD (.str "")).hashable then .error .badFilterArgument else .error .wrongType
      | _ => .error .wrongType
  | "tojson" => some fun v args => do
      match ← bindArgs args ["indent"] 0 with
      | [indent] => safeJson v (indent.getD .none)
      | _ => .error .wrongType
  | "items" => some (plain fun v =>
      match v with
      | .undefined _ => .ok (.stream "generator" [])
      | .dict _ entries => .ok (.stream "generator" (viewItems .items entries))
      | _ => .error .wrongType)
  | "safe" => some (plain fun v => do return .markup ((← softText v).text?.getD ""))
  | "escape" | "e" => some (plain fun v => do return .markup (← softText v).escaped)
  | _ => none
where
  /-- Greatest or least element, texts compared without regard to case unless asked otherwise. -/
  extremeFilter (test : OrderTest) (v : Value) (args : Arguments) : Outcome Value := do
    match ← bindArgs args ["case_sensitive", "attribute"] 0 with
    | [sensitive, path] =>
      let sensitive := (sensitive.getD (.bool false)).truthy
      let parts ← pathParts (path.getD .none)
      let key (item : Value) : Outcome Value := do
        let k ← follow parts item
        return if sensitive then k else ignoreCase k
      extremeBy test key (← v.elements)
    | _ => .error .wrongType

/-- Whether two values are one and the same object. Small integers and single characters are shared. -/
def sameObject : Value → Value → Bool
  | .none, .none => true
  | .bool a, .bool b => a == b
  | .int a, .int b => a == b && -5 ≤ a && a ≤ 256
  | .str a, .str b => a == b
  | .list a _, .list b _ => a == b && a != .anonymous
  | .dict a _, .dict b _ => a == b && a != .anonymous
  | .tuple [], .tuple [] => true
  | .function f, .function g => f.id == g.id
  | .builtin a, .builtin b => a == b
  | .accessor a _, .accessor b _ => a == b && a != .anonymous
  | .signal a, .signal b => a == b
  | _, _ => false

def relationTest? : String → Option OrderTest
  | "lt" | "lessthan" | "<" => some .lt
  | "le" | "<=" => some .le
  | "gt" | "greaterthan" | ">" => some .gt
  | "ge" | ">=" => some .ge
  | _ => none

def test? (name : String) : Option (Value → Arguments → Outcome Bool) :=
  let plain (f : Value → Outcome Bool) : Value → Arguments → Outcome Bool := fun v args => do
    let _ ← bindArgs args [] 0
    f v
  let binary (param : String) (f : Value → Value → Outcome Bool) : Value → Arguments → Outcome Bool :=
    fun v args => do
      match ← bindArgs args [param] 1 with
      | [some w] => f v w
      | _ => .error .wrongType
  let remainder (v w : Value) : Outcome Value :=
    match v with
    | .str s => do return .str (← Format.percent s w false)
    | v => v.mod w
  match name with
  | "defined" => some (plain fun v => .ok (!isUndefined v))
  | "undefined" => some (plain fun v => .ok (isUndefined v))
  | "none" => some (plain fun v => .ok v.isNone)
  | "boolean" => some (plain fun v => .ok (match v with | .bool _ => true | _ => false))
  | "true" => some (plain fun v => .ok (match v with | .bool b => b | _ => false))
  | "false" => some (plain fun v => .ok (match v with | .bool b => !b | _ => false))
  | "integer" => some (plain fun v => .ok (match v with | .int _ => true | _ => false))
  | "float" => some (plain fun v => .ok (match v with | .float _ => true | _ => false))
  | "odd" => some (plain fun v => do return (← remainder v (.int 2)).eq (.int 1))
  | "even" => some (plain fun v => do return (← remainder v (.int 2)).eq (.int 0))
  | "divisibleby" => some (binary "num" fun v w => do return (← remainder v w).eq (.int 0))
  | "number" => some (plain fun v => .ok v.numeral?.isSome)
  | "string" => some (plain fun v => .ok v.text?.isSome)
  | "mapping" => some (plain fun v => .ok v.mapping?.isSome)
  | "sequence" => some (plain fun v => .ok (match v with
      | .str _ | .markup _ | .bytes _ | .list .. | .tuple _ | .dict .. | .range .. | .undefined _ => true
      | _ => false))
  | "iterable" => some (plain fun v => .ok v.elements?.isSome)
  | "callable" => some (plain fun v => .ok v.isCallable)
  | "escaped" => some (plain fun v => .ok (match v with | .markup _ => true | _ => false))
  | "lower" => some (plain fun v => do
      return (← TextMethod.call Value.memberNamed (← v.toText?) "islower" ⟨[], []⟩).truthy)
  | "upper" => some (plain fun v => do
      return (← TextMethod.call Value.memberNamed (← v.toText?) "isupper" ⟨[], []⟩).truthy)
  | "sameas" => some (binary "other" fun v w => .ok (sameObject v w))
  | "in" => some (binary "seq" fun v w => v.member w)
  | "eq" | "equalto" | "==" => some (binary "" fun v w => .ok (v.eq w))
  | "ne" | "!=" => some (binary "" fun v w => .ok (v.neq w))
  | name => (relationTest? name).map fun test => binary "" fun v w => v.order test w

end Colloquy.Template
