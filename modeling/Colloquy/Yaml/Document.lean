import Colloquy.Value.Equality
import Colloquy.Yaml.Node

/-!
# Values of YAML documents

What the nodes of a document stand for. A collection is filled after the collections around it, level
by level, so of several defects the one in the outermost collection is told. Entries of a mapping may
be merged from other mappings: they come before its own entries, and its own ones win.
-/

namespace Colloquy.Yaml

def endless : Value := .object "..."

mutual

def isEndless : Value → Bool
  | .object name => name == "..."
  | .list _ items => isAnyEndless items
  | .tuple items => isAnyEndless items
  | .dict _ entries => isEntryEndless entries
  | _ => false
termination_by structural v => v

def isAnyEndless : List Value → Bool
  | [] => false
  | v :: vs => isEndless v || isAnyEndless vs
termination_by structural vs => vs

def isEntryEndless : List (Value × Value) → Bool
  | [] => false
  | (_, v) :: es => isEndless v || isEntryEndless es
termination_by structural es => es

end

/-! ## Scalars -/

namespace Construct

def truth (text : String) : Except Defect Value :=
  let word := text.toLower
  if ["yes", "true", "on"].contains word then .ok (.bool true)
  else if ["no", "false", "off"].contains word then .ok (.bool false)
  else .error (.fault .missingKey)

def digits (base : Nat) (cs : List Char) : Except Defect Int :=
  match Number.readInt? base (String.ofList cs) with
  | some n => .ok n
  | none => .error (.fault .badValue)

/-- A number whose digits are separated by colons, to the base sixty. -/
def sexagesimal {α : Type} [Add α] [Mul α] [OfNat α 0] [OfNat α 1] [OfNat α 60] (parts : List α) : α :=
  (parts.reverse.foldl (fun (sum, base) d => (sum + d * base, base * 60)) ((0 : α), (1 : α))).1

/-- Sign and absolute text of a number without underscores. -/
def signed (cs : List Char) : Except Defect (Bool × List Char) :=
  match cs.filter (· != '_') with
  | [] => .error (.fault .badIndex)
  | '-' :: rest => .ok (true, rest)
  | '+' :: rest => .ok (false, rest)
  | rest => .ok (false, rest)

def integer (text : String) : Except Defect Value := do
  let (negative, body) ← signed text.toList
  let n ← match body with
    | [] => .error (.fault .badIndex)
    | ['0'] => .ok 0
    | '0' :: 'b' :: ds => digits 2 ds
    | '0' :: 'x' :: ds => digits 16 ds
    | '0' :: _ => digits 8 body
    | _ =>
      if body.contains ':' then ((Text.splitWhen (· == ':') body).mapM (digits 10)).map sexagesimal
      else digits 10 body
  return .int (if negative then -n else n)

/-- The text of a floating point number as a number. -/
def decimal (cs : List Char) : Except Defect Float :=
  match Number.readFloat? (String.ofList cs) with
  | some x => .ok x
  | none => .error (.fault .badValue)

def floating (text : String) : Except Defect Value := do
  let (negative, body) ← signed text.toLower.toList
  let sign : Float := if negative then -1.0 else 1.0
  if body == ".inf".toList then return .float (sign * (1.0 / 0.0))
  else if body == ".nan".toList then return .float (0.0 / 0.0)
  else if body.contains ':' then
    return .float (sign * sexagesimal (← (Text.splitWhen (· == ':') body).mapM decimal))
  else return .float (sign * (← decimal body))

def number (cs : List Char) : Nat := cs.foldl (fun n c => 10 * n + (c.toNat - '0'.toNat)) 0

def isLeap (year : Nat) : Bool := (year % 4 == 0 && year % 100 != 0) || year % 400 == 0

def monthLength (year month : Nat) : Nat :=
  if month == 2 then (if isLeap year then 29 else 28)
  else if [4, 6, 9, 11].contains month then 30 else 31

def micros (fraction : List Char) : Nat :=
  let shown := fraction.take 6
  number (shown ++ List.replicate (6 - shown.length) '0')

def moment (text : String) : Except Defect Value := do
  match Scalar.moment? (Scalar.withoutBreak text.toList) with
  | none => .error (.fault .missingMember)
  | some m =>
    let year := number m.year
    let month := number m.month
    let day := number m.day
    let zone : Option Int := m.zone.map fun (east, hours, minutes) =>
      let size : Int := 60 * number hours + number minutes
      if east then size else -size
    let validDay : Bool := 1 ≤ year && 1 ≤ month && month ≤ 12 && 1 ≤ day && day ≤ monthLength year month
    let validZone : Bool := zone.all fun z => z.natAbs < 24 * 60
    let clock := m.clock.map fun (h, min, s, f) => (number h, number min, number s, micros f)
    let validClock : Bool := clock.all fun (h, min, s, _) => h < 24 && min < 60 && s < 60
    if validDay && validZone && validClock then return .moment { year, month, day, clock, zone }
    else .error (.fault .badValue)

def sextet? (c : Char) : Option Nat :=
  if 'A' ≤ c && c ≤ 'Z' then some (c.toNat - 'A'.toNat)
  else if 'a' ≤ c && c ≤ 'z' then some (c.toNat - 'a'.toNat + 26)
  else if c.isDigit then some (c.toNat - '0'.toNat + 52)
  else if c == '+' then some 62
  else if c == '/' then some 63
  else none

/-- Bytes of base 64 digits; other characters are skipped. `count` digits of the current group have
been read, `held` are the bits left of them and `pads` the signs that fill it up. -/
def base64 (count held pads : Nat) : List Char → Except Defect (List UInt8)
  | [] => if count == 0 then .ok [] else .error .malformed
  | c :: cs =>
    if c == '=' then
      if 2 ≤ count && 4 ≤ count + pads + 1 then .ok []
      else base64 count held (pads + 1) cs
    else
      match sextet? c with
      | none => base64 count held pads cs
      | some d =>
        match count with
        | 0 => base64 1 d 0 cs
        | 1 => do return (held * 4 + d / 16).toUInt8 :: (← base64 2 (d % 16) 0 cs)
        | 2 => do return (held * 16 + d / 4).toUInt8 :: (← base64 3 (d % 4) 0 cs)
        | _ => do return (held * 64 + d).toUInt8 :: (← base64 0 0 0 cs)

def binary (text : String) : Except Defect Value :=
  if text.toList.any fun c => 127 < c.toNat then .error .malformed
  else (base64 0 0 0 text.toList).map Value.bytes

def kindOf? (tag : String) : Option String :=
  if tag.startsWith (standardTag "") then some (tag.drop (standardTag "").length).toString else none

def scalar (tag text : String) : Except Defect Value :=
  match kindOf? tag with
  | some "null" => .ok .none
  | some "bool" => truth text
  | some "int" => integer text
  | some "float" => floating text
  | some "binary" => binary text
  | some "timestamp" => moment text
  | some "str" => .ok (.str text)
  | _ => .error .malformed

/-! ## Collections -/

/-- Defects with the level at which they show, in the order of the document. -/
abbrev Defects := List (Nat × Defect)

def firstDefect (defects : Defects) : Option Defect :=
  let outermost := defects.foldl (fun least (level, _) => min least level) (defects.headD (0, .malformed)).1
  (defects.find? fun (level, _) => level == outermost).map (·.2)

/-- Whether a tag marks merged entries. -/
def isMerge (key : Node) : Bool :=
  match key with
  | .scalar tag _ _ => tag == standardTag "merge"
  | _ => false

/-- The mark of a default entry counts as a text where it is a key. -/
def plainKey (key : Node) : Node :=
  match key with
  | .scalar tag text anchor => if tag == standardTag "value" then .scalar (standardTag "str") text anchor else key
  | key => key

abbrev Anchors := List (String × Node)

def resolve (anchors : Anchors) (n : Node) : Node :=
  match n with
  | .alias name => (anchors.lookup name).getD n
  | n => n

/-- Entries of a mapping with merged ones in front. A mapping that merges itself adds nothing. -/
def flatten (anchors : Anchors) : Nat → List (Node × Node) → Except Defect (List (Node × Node))
  | 0, pairs => .ok pairs
  | n + 1, pairs => do
    let merged ← (pairs.filter fun (k, _) => isMerge k).mapM fun (_, source) =>
      match resolve anchors source with
      | .mapping _ inner _ => flatten anchors n inner
      | .sequence _ items _ => do
        let parts ← items.mapM fun item =>
          match resolve anchors item with
          | .mapping _ inner _ => flatten anchors n inner
          | _ => .error .malformed
        return parts.reverse.flatten
      | _ => .error .malformed
    let own := (pairs.filter fun (k, _) => !isMerge k).map fun (k, v) => (plainKey k, v)
    return merged.flatten ++ own

def scalarText (anchors : Anchors) : Nat → Node → Option String
  | 0, _ => none
  | n + 1, node =>
    match resolve anchors node with
    | .scalar _ text _ => some text
    | .mapping _ pairs _ => do
      let isDefault (key : Node) : Bool :=
        match key with
        | .scalar tag _ _ => tag == standardTag "value"
        | _ => false
      let (_, v) ← pairs.find? fun (k, _) => isDefault k
      scalarText anchors n v
    | _ => none

def collect (parts : List (Defects × Value)) : Defects × List Value :=
  (parts.flatMap (·.1), parts.map (·.2))

/-- The value of a node, with the defects in it; `level` is that of the collection around it, and
`open_` are the anchors of the nodes around it. -/
def object (anchors : Anchors) : Nat → Nat → List String → Node → Defects × Value
  | 0, level, _, _ => ([(level, .malformed)], .none)
  | n + 1, level, open_, node =>
    let bad : Defects × Value := ([(level, .malformed)], .none)
    let late : Defects × Value := ([(level + 1, .malformed)], .none)
    let inside (anchor : Option String) : List String := anchor.toList ++ open_
    let child (anchor : Option String) (c : Node) : Defects × Value :=
      object anchors n (level + 1) (inside anchor) c
    let asScalar (tag : String) : Defects × Value :=
      match scalarText anchors (n + 1) node with
      | some text =>
        match scalar tag text with
        | .ok v => ([], v)
        | .error d => ([(level, d)], .none)
      | none => bad
    let entries (anchor : Option String) (pairs : List (Node × Node)) : Defects × List (Value × Value) :=
      match flatten anchors n pairs with
      | .error d => ([(level + 1, d)], [])
      | .ok pairs =>
        let built := pairs.map fun (k, v) =>
          let key := child anchor k
          let unhashable := if key.2.hashable && !isEndless key.2 then [] else [(level + 1, Defect.malformed)]
          let value := child anchor v
          (key.1 ++ unhashable ++ value.1, (key.2, value.2))
        (built.flatMap (·.1), built.map (·.2))
    let single (anchor : Option String) (item : Node) : Defects × Value :=
      match resolve anchors item with
      | .mapping _ [(k, v)] _ =>
        let key := child anchor k
        let value := child anchor v
        (key.1 ++ value.1, .tuple [key.2, value.2])
      | _ => late
    match node with
    | .alias name =>
      if open_.contains name then ([], endless)
      else
        match anchors.lookup name with
        | some target => object anchors n level open_ target
        | none => bad
    | .scalar tag _ _ =>
      match kindOf? tag with
      | some "seq" | some "map" | some "set" | some "omap" | some "pairs" => late
      | _ => asScalar tag
    | .sequence tag items anchor =>
      match kindOf? tag with
      | some "seq" =>
        let (defects, values) := collect (items.map (child anchor))
        (defects, .ofList values)
      | some "omap" | some "pairs" =>
        let (defects, values) := collect (items.map (single anchor))
        (defects, .ofList values)
      | some "map" | some "set" => late
      | _ => bad
    | .mapping tag pairs anchor =>
      match kindOf? tag with
      | some "map" =>
        let (defects, es) := entries anchor pairs
        (defects, .dict .anonymous (Entries.ofList es))
      | some "set" =>
        let (defects, es) := entries anchor pairs
        (defects, .set ((Entries.ofList es).map (·.1)))
      | some "seq" | some "omap" | some "pairs" => late
      | _ => asScalar tag

end Construct

mutual

/-- How many nodes there are below a node and itself. -/
def Node.size : Node → Nat
  | .scalar .. => 1
  | .sequence _ items _ => sizes items + 1
  | .mapping _ pairs _ => pairSizes pairs + 1
  | .alias _ => 1
termination_by structural n => n

/-- How many nodes there are in and below several nodes. -/
def Node.sizes : List Node → Nat
  | [] => 0
  | n :: ns => n.size + sizes ns
termination_by structural ns => ns

/-- How many nodes there are in and below entries. -/
def Node.pairSizes : List (Node × Node) → Nat
  | [] => 0
  | (k, v) :: ps => k.size + v.size + pairSizes ps
termination_by structural ps => ps

end

mutual

def Node.anchors : Node → List (String × Node)
  | .scalar tag text anchor => anchor.toList.map fun a => (a, .scalar tag text anchor)
  | .sequence tag items anchor =>
    (anchor.toList.map fun a => (a, .sequence tag items anchor)) ++ anchorsIn items
  | .mapping tag pairs anchor =>
    (anchor.toList.map fun a => (a, .mapping tag pairs anchor)) ++ anchorsInPairs pairs
  | .alias _ => []
termination_by structural n => n

def Node.anchorsIn : List Node → List (String × Node)
  | [] => []
  | n :: ns => n.anchors ++ anchorsIn ns
termination_by structural ns => ns

def Node.anchorsInPairs : List (Node × Node) → List (String × Node)
  | [] => []
  | (k, v) :: ps => k.anchors ++ v.anchors ++ anchorsInPairs ps
termination_by structural ps => ps

end

def Node.value (root : Node) : Except Defect Value :=
  let anchors := root.anchors
  let fuel := (anchors.length + 1) * (root.size + 1)
  let (defects, v) := Construct.object anchors fuel 0 [] root
  match Construct.firstDefect defects with
  | some d => .error d
  | none => .ok v

/-- Lines that end in any way end in a line feed. -/
def unifyBreaks : List Char → List Char
  | '\r' :: '\n' :: cs => '\n' :: unifyBreaks cs
  | '\r' :: cs => '\n' :: unifyBreaks cs
  | c :: cs => c :: unifyBreaks cs
  | [] => []

/-- The value of a YAML text; `None` if the text is empty. -/
def load (text : String) : Except Defect Value := do
  match ← Node.ofText (unifyBreaks text.toList) with
  | some root => root.value
  | none => return .none

end Colloquy.Yaml
