import Colloquy.Value.Sort
import Colloquy.Value.TextMethod

/-!
# Methods and builtins

Methods of lists, dictionaries, numbers and bytes, and the functions that are always there. A method
may change its receiver: it then gives the new content beside its result, and whoever made the call
stores that content.
-/

namespace Colloquy

open Number TextMethod

/-- Result of a method and the new content of its receiver, if it changed. -/
abbrev MethodResult := Outcome (Value × Option Value)

def unchanged (v : Value) : MethodResult := .ok (v, none)

def changed (receiver : Value) : MethodResult := .ok (.none, some receiver)

def entriesOf (v : Value) : Outcome Entries :=
  match v with
  | .dict _ entries => .ok entries
  | v => do
    let pairs ← (← v.elements).mapM fun item => do
      match ← item.elements with
      | [k, w] => if k.hashable then pure (k, w) else .error .wrongType
      | _ => .error .badValue
    return Entries.ofList pairs

def namedEntries (named : List (String × Value)) : Entries :=
  named.map fun (k, v) => (.str k, v)

def toInteger (v : Value) : Outcome Int :=
  match v with
  | .float x => Format.asInteger (.float x)
  | .str s | .markup s =>
    match readInt? 10 s with
    | some n => .ok n
    | none => .error .badValue
  | .bytes bs =>
    match readInt? 10 (String.ofList (bs.map fun b => Char.ofNat b.toNat)) with
    | some n => .ok n
    | none => .error .badValue
  | .undefined _ => .error .undefinedOperand
  | v =>
    match v.index? with
    | some n => .ok n
    | none => .error .wrongType

def toFloating (v : Value) : Outcome Float :=
  match v with
  | .float x => .ok x
  | .str s | .markup s =>
    match readFloat? s with
    | some x => .ok x
    | none => .error .badValue
  | .bytes bs =>
    match readFloat? (String.ofList (bs.map fun b => Char.ofNat b.toNat)) with
    | some x => .ok x
    | none => .error .badValue
  | .undefined _ => .error .undefinedOperand
  | v =>
    match v.index? with
    | some n => Numeral.toFloat n
    | none => .error .wrongType

/-- Greatest or least of several values; of equal ones the first. -/
def extreme (test : OrderTest) : List Value → Outcome Value
  | [] => .error .badValue
  | v :: vs => vs.foldlM (fun best w => do return if ← w.order test best then w else best) v

def Builtin.apply (b : Builtin) (args : Arguments) : Outcome Value := do
  match b with
  | .len => checkPlain args 1 1; return .int (← (args.positional.getD 0 .none).length)
  | .abs => checkPlain args 1 1; (args.positional.getD 0 .none).abs
  | .max | .min =>
    let test : OrderTest := if b == .max then .gt else .lt
    match args.positional with
    | [] => .error .wrongType
    | [v] =>
      if !args.named.all (fun (k, _) => k == "default") then .error .wrongType
      match ← v.elements, args.named with
      | [], [(_, w)] => return w
      | items, _ => extreme test items
    | items => if args.named.isEmpty then extreme test items else .error .wrongType
  | .dict =>
    match args.positional with
    | [] => return .dict .anonymous (namedEntries args.named)
    | [v] => return .dict .anonymous (Entries.merge (← entriesOf v) (namedEntries args.named))
    | _ => .error .wrongType
  | .int =>
    checkPlain args 0 2
    match args.positional with
    | [] => return .int 0
    | [v] => return .int (← toInteger v)
    | v :: base :: _ =>
      let base ← intArg base
      let s ← match v with
        | .str s | .markup s => pure s
        | .bytes bs => pure (String.ofList (bs.map fun b => Char.ofNat b.toNat))
        | _ => .error .wrongType
      if base != 0 && (base < 2 || 36 < base) then .error .badValue
      match readInt? base.toNat s with
      | some n => return .int n
      | none => .error .badValue
  | .str =>
    match args.positional with
    | [] => return .str ""
    | [v] => return .str (← v.toText?)
    | _ => .error .wrongType
  | .range =>
    checkPlain args 1 3
    match ← args.positional.mapM intArg with
    | [stop] => return .range 0 stop 1
    | [start, stop] => return .range start stop 1
    | [start, stop, step] => if step = 0 then .error .badValue else return .range start stop step
    | _ => .error .wrongType
  | .space => return .dict .anonymous (Entries.merge (← match args.positional with
      | [] => pure []
      | [v] => entriesOf v
      | _ => .error .wrongType) (namedEntries args.named))
  | .lipsum | .cycler | .joiner => .error .wrongType

def indexIn (items : List Value) (args : Arguments) : Outcome Value := do
  checkPlain args 1 3
  let v := args.positional.getD 0 .none
  let (start, stop) ← window items.length (args.positional.drop 1)
  match ((items.take stop).drop start).findIdx? (·.same v) with
  | some i => return .int (start + i)
  | none => .error .badValue

def countOf (items : List Value) (args : Arguments) : Outcome Value := do
  checkPlain args 1 1
  return .int (items.countP (·.same (args.positional.getD 0 .none)))

def listMethod (id : Identity) (items : List Value) (name : String) (args : Arguments) :
    MethodResult := do
  let store (items : List Value) : Option Value := some (.list id items)
  let first := args.positional.getD 0 .none
  match name with
  | "append" => checkPlain args 1 1; return (.none, store (items ++ [first]))
  | "extend" => checkPlain args 1 1; return (.none, store (items ++ (← first.elements)))
  | "insert" =>
    checkPlain args 2 2
    let i ← intArg first
    let i := if i < 0 then (i + items.length).toNat else min i.toNat items.length
    return (.none, store (items.insertIdx i (args.positional.getD 1 .none)))
  | "pop" =>
    checkPlain args 0 1
    let i ← if args.positional.isEmpty then pure (-1) else intArg first
    match Value.position? items.length i with
    | some n => return (items.getD n .none, store (items.eraseIdx n))
    | none => .error .badIndex
  | "remove" =>
    checkPlain args 1 1
    match items.findIdx? (·.same first) with
    | some n => return (.none, store (items.eraseIdx n))
    | none => .error .badValue
  | "clear" => checkPlain args 0 0; return (.none, store [])
  | "reverse" => checkPlain args 0 0; return (.none, store items.reverse)
  | "copy" => checkPlain args 0 0; return (.ofList items, none)
  | "count" => unchanged (← countOf items args)
  | "index" => unchanged (← indexIn items args)
  | "sort" =>
    if !args.positional.isEmpty || !args.named.all (fun (k, _) => k == "key" || k == "reverse") then
      .error .wrongType
    let down ← match args.named.lookup "reverse" with
      | none => pure false
      | some v => do pure ((← intArg v) != 0)
    let keys ← match args.named.lookup "key" with
      | none | some .none => pure (items.map fun v => (v, v))
      | some (.builtin b) => items.mapM fun v => do return (← b.apply ⟨[v], []⟩, v)
      | some _ => .error .wrongType
    let lt := fun (a b : Value × Value) => a.1.order .lt b.1
    let sorted ← if down then Sort.sortDown lt keys else Sort.sort lt keys
    return (.none, store (sorted.map (·.2)))
  | _ => .error .missingMember

def dictMethod (id : Identity) (entries : Entries) (name : String) (args : Arguments) :
    MethodResult := do
  let store (entries : Entries) : Option Value := some (.dict id entries)
  let first := args.positional.getD 0 .none
  let second := args.positional.getD 1 .none
  let checkKey : Outcome Unit := if first.hashable then .ok () else .error .wrongType
  match name with
  | "get" =>
    checkPlain args 1 2
    checkKey
    unchanged ((Entries.get? entries first).getD second)
  | "keys" => checkPlain args 0 0; unchanged (.view .keys id entries)
  | "values" => checkPlain args 0 0; unchanged (.view .values id entries)
  | "items" => checkPlain args 0 0; unchanged (.view .items id entries)
  | "copy" => checkPlain args 0 0; unchanged (.dict .anonymous entries)
  | "clear" => checkPlain args 0 0; return (.none, store [])
  | "pop" =>
    checkPlain args 1 2
    checkKey
    match Entries.get? entries first with
    | some v => return (v, store (Entries.erase entries first))
    | none => if args.positional.length = 2 then unchanged second else .error .missingKey
  | "popitem" =>
    checkPlain args 0 0
    match entries.getLast? with
    | some (k, v) => return (.tuple [k, v], store entries.dropLast)
    | none => .error .missingKey
  | "setdefault" =>
    checkPlain args 1 2
    checkKey
    match Entries.get? entries first with
    | some v => unchanged v
    | none => return (second, store (entries ++ [(first, second)]))
  | "update" =>
    let others ← match args.positional with
      | [] => pure []
      | [v] => entriesOf v
      | _ => .error .wrongType
    return (.none, store (Entries.merge (Entries.merge entries others) (namedEntries args.named)))
  | _ => .error .missingMember

/-- Hexadecimal text of a number, as `0x1.8000000000000p+0`. -/
def hexFloat (x : Float) : String :=
  match Binary.ofFloat x with
  | .nan => "nan"
  | .infinite negative => if negative then "-inf" else "inf"
  | .finite negative m e =>
    let sign := if negative then "-" else ""
    if m = 0 then sign ++ "0x0.0p+0"
    else
      let (lead, fraction) := if m < Nat.pow 2 52 then ("0", m) else ("1", m - Nat.pow 2 52)
      let power := e + 52
      sign ++ "0x" ++ lead ++ "." ++ Text.hexText 13 fraction ++ "p" ++
        (if power < 0 then "-" else "+") ++ intText power.natAbs

def intMethod (n : Int) (name : String) (args : Arguments) : Outcome Value := do
  match name with
  | "bit_length" => checkPlain args 0 0; return .int (if n = 0 then 0 else n.natAbs.log2 + 1)
  | "bit_count" =>
    checkPlain args 0 0
    return .int ((Nat.toDigits 2 n.natAbs).count '1')
  | "conjugate" => checkPlain args 0 0; return .int n
  | "as_integer_ratio" => checkPlain args 0 0; return .tuple [.int n, .int 1]
  | "is_integer" => checkPlain args 0 0; return .bool true
  | "to_bytes" =>
    checkNamed args 2 ["length", "byteorder", "signed"]
    let length ← ((argument args 0 "length").map intArg).getD (.ok 1)
    let order ← ((argument args 1 "byteorder").map textArg).getD (.ok "big".toList)
    let signed := (args.named.lookup "signed").elim false Value.truthy
    if length < 0 then .error .badValue
    let size := length.toNat
    if n < 0 && !signed then .error .overflow
    let bound : Int := if signed then Nat.pow 2 (8 * size) / 2 else Nat.pow 2 (8 * size)
    if bound ≤ n || n < -bound then .error .overflow
    let m := (n % Nat.pow 2 (8 * size)).toNat
    let little := (List.range size).map fun i => UInt8.ofNat (m / Nat.pow 256 i % 256)
    match String.ofList order with
    | "big" => return .bytes little.reverse
    | "little" => return .bytes little
    | _ => .error .badValue
  | _ => .error .missingMember

def floatMethod (x : Float) (name : String) (args : Arguments) : Outcome Value := do
  checkPlain args 0 0
  match name with
  | "is_integer" => return .bool (isIntegral x)
  | "conjugate" => return .float x
  | "hex" => return .str (hexFloat x)
  | "as_integer_ratio" =>
    match ratio? x with
    | some (num, den) =>
      let g := Nat.gcd num.natAbs den
      return .tuple [.int (num / g), .int (den / g)]
    | none => if x.isNaN then .error .badValue else .error .overflow
  | _ => .error .missingMember

def byteText (bs : List UInt8) : String := String.ofList (bs.map fun b => Char.ofNat b.toNat)

def bytesToText : Value → Value
  | .bytes bs => .str (byteText bs)
  | .str _ => .none
  | .tuple items => .tuple (items.map fun v => match v with | .bytes bs => .str (byteText bs) | v => v)
  | .list id items =>
    .list id (items.map fun v => match v with | .bytes bs => .str (byteText bs) | v => v)
  | v => v

def textToBytes : Value → Value :=
  let back (s : String) : Value := .bytes (s.toList.map fun c => UInt8.ofNat c.toNat)
  fun v => match v with
    | .str s => back s
    | .tuple items => .tuple (items.map fun v => match v with | .str s => back s | v => v)
    | .list id items => .list id (items.map fun v => match v with | .str s => back s | v => v)
    | v => v

def bytesMethod (member : Value → String → Outcome Value) (bs : List UInt8) (name : String)
    (args : Arguments) : Outcome Value := do
  let ascii (f : Char → Char) : Value :=
    .bytes (bs.map fun b => if b.toNat < 128 then UInt8.ofNat (f (Char.ofNat b.toNat)).toNat else b)
  match name with
  | "upper" => checkPlain args 0 0; return ascii Char.toUpper
  | "lower" => checkPlain args 0 0; return ascii Char.toLower
  | "hex" => return .str (String.join (bs.map fun b => Text.hexText 2 b.toNat))
  | "decode" =>
    checkNamed args 2 ["encoding", "errors"]
    let encoding ← ((argument args 0 "encoding").map textArg).getD (.ok "utf-8".toList)
    match encodingName (String.ofList encoding) with
    | some "utf-8" =>
      match String.fromUTF8? ⟨bs.toArray⟩ with
      | some s => return .str s
      | none => .error .undecodable
    | some "ascii" => if bs.all (·.toNat < 128) then return .str (byteText bs) else .error .undecodable
    | some _ => return .str (byteText bs)
    | none => .error .unknownEncoding
  | _ =>
    let args : Arguments := ⟨args.positional.map bytesToText, args.named⟩
    return textToBytes (← TextMethod.call member (byteText bs) name args)

def operatorMethod (v : Value) (name : String) (args : Arguments) : MethodResult := do
  let other := args.positional.getD 0 .none
  let number := v.numeral?.isSome
  let orOther (r : Outcome Value) : MethodResult :=
    match r with
    | .ok w => unchanged w
    | .error .wrongType => if number then unchanged (.object "NotImplementedType") else .error .wrongType
    | .error e => .error e
  let compared (test : OrderTest) : MethodResult :=
    match v.order test other with
    | .ok b => unchanged (.bool b)
    | .error .wrongType => unchanged (.object "NotImplementedType")
    | .error e => .error e
  match name with
  | "__len__" => checkPlain args 0 0; unchanged (.int (← v.length))
  | "__bool__" => checkPlain args 0 0; unchanged (.bool v.truthy)
  | "__str__" => checkPlain args 0 0; unchanged (.str (← v.toText?))
  | "__repr__" => checkPlain args 0 0; unchanged (.str (← v.repr?))
  | "__int__" | "__trunc__" | "__index__" => checkPlain args 0 0; unchanged (.int (← toInteger v))
  | "__float__" => checkPlain args 0 0; unchanged (.float (← toFloating v))
  | "__abs__" => checkPlain args 0 0; unchanged (← v.abs)
  | "__neg__" => checkPlain args 0 0; unchanged (← v.neg)
  | "__pos__" => checkPlain args 0 0; unchanged (← v.pos)
  | "__iter__" => checkPlain args 0 0; unchanged (.stream (v.typeName ++ "_iterator") (← v.elements))
  | "__getitem__" => checkPlain args 1 1; unchanged (← v.subscript other)
  | "__contains__" => checkPlain args 1 1; unchanged (.bool (← other.member v))
  | "__eq__" => checkPlain args 1 1; unchanged (.bool (v.eq other))
  | "__ne__" => checkPlain args 1 1; unchanged (.bool (v.neq other))
  | "__lt__" => checkPlain args 1 1; compared .lt
  | "__le__" => checkPlain args 1 1; compared .le
  | "__gt__" => checkPlain args 1 1; compared .gt
  | "__ge__" => checkPlain args 1 1; compared .ge
  | "__add__" => checkPlain args 1 1; orOther (v.add other)
  | "__sub__" => checkPlain args 1 1; orOther (v.sub other)
  | "__mul__" | "__rmul__" => checkPlain args 1 1; orOther (v.mul other)
  | "__truediv__" => checkPlain args 1 1; orOther (v.div other)
  | "__floordiv__" => checkPlain args 1 1; orOther (v.floorDiv other)
  | "__mod__" =>
    checkPlain args 1 1
    match v with
    | .str s => unchanged (.str (← Format.percent s other false))
    | .markup s => unchanged (.markup (← Format.percent s other true))
    | _ => orOther (v.mod other)
  | "__pow__" => checkPlain args 1 1; orOther (v.pow other)
  | "__radd__" => checkPlain args 1 1; orOther (other.add v)
  | "__rsub__" => checkPlain args 1 1; orOther (other.sub v)
  | "__format__" =>
    checkPlain args 1 1
    unchanged (.str (← Format.formatValue v (String.ofList (← textArg other))))
  | "__setitem__" =>
    checkPlain args 2 2
    let w := args.positional.getD 1 .none
    match v with
    | .dict id entries =>
      if other.hashable then changed (.dict id (Entries.insert entries other w)) else .error .wrongType
    | .list id items =>
      match Value.position? items.length (← intArg other) with
      | some n => changed (.list id (items.set n w))
      | none => .error .badIndex
    | _ => .error .missingMember
  | "__delitem__" =>
    checkPlain args 1 1
    match v with
    | .dict id entries =>
      if Entries.contains entries other then changed (.dict id (Entries.erase entries other))
      else .error .missingKey
    | .list id items =>
      match Value.position? items.length (← intArg other) with
      | some n => changed (.list id (items.eraseIdx n))
      | none => .error .badIndex
    | _ => .error .missingMember
  | _ => .error .missingMember

/-- Texts made by a method of safe text are safe. -/
def asMarkup : Value → Value
  | .str s => .markup s
  | .list id items => .list id (items.map fun v => match v with | .str s => .markup s | v => v)
  | .tuple items => .tuple (items.map fun v => match v with | .str s => .markup s | v => v)
  | v => v

def Value.callMethod (member : Value → String → Outcome Value) (v : Value) (name : String)
    (args : Arguments) : MethodResult :=
  if name.startsWith "__" then operatorMethod v name args
  else
    match v with
    | .str s => do unchanged (← TextMethod.call member s name args)
    | .markup s =>
      match name with
      | "striptags" | "unescape" => unchanged (.str s)
      | "join" => do
        let pieces ← (← (args.positional.getD 0 .none).elements).mapM fun v => do
          match v.text? with
          | some _ => pure v.escaped.toList
          | Option.none => .error .wrongType
        unchanged (.markup (String.ofList (List.intercalate s.toList pieces)))
      | "replace" => do
        let args := { args with positional := args.positional.map fun v =>
          match v with | .str _ => .str v.escaped | v => v }
        unchanged (asMarkup (← TextMethod.call member s name args))
      | _ => do unchanged (asMarkup (← TextMethod.call member s name args))
    | .bytes bs => do unchanged (← bytesMethod member bs name args)
    | .list id items => listMethod id items name args
    | .tuple items =>
      match name with
      | "count" => do unchanged (← countOf items args)
      | "index" => do unchanged (← indexIn items args)
      | _ => .error .missingMember
    | .range start stop step =>
      match name with
      | "count" => do unchanged (← countOf (rangeItems start stop step) args)
      | "index" => do unchanged (← indexIn (rangeItems start stop step) args)
      | _ => .error .missingMember
    | .dict id entries => dictMethod id entries name args
    | .bool b => do unchanged (← intMethod (if b then 1 else 0) name args)
    | .int n => do unchanged (← intMethod n name args)
    | .float x => do unchanged (← floatMethod x name args)
    | .moment m =>
      match name with
      | "isoformat" => unchanged (.str (m.text.replace " " "T"))
      | _ => .error .missingMember
    | _ => .error .missingMember

end Colloquy
