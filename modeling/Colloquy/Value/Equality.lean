import Colloquy.Number.Binary
import Colloquy.Value.Basic

/-!
# Equality and order of values

Numbers are compared by their exact value whatever their kind, so `1`, `1.0` and `True` are equal.
Lists equal only lists and tuples only tuples. Functions and accessors equal only themselves. Inside
a collection a value also matches itself when it is not equal to itself, which concerns `nan` only.
-/

namespace Colloquy

open Number

inductive Numeral where
  | int (n : Int)
  | float (x : Float)
  | complex (re im : Float)

/-- The number that a value stands for; truth values count as zero and one. -/
def Value.numeral? : Value → Option Numeral
  | .bool b => some (.int (if b then 1 else 0))
  | .int n => some (.int n)
  | .float x => some (.float x)
  | .complex re im => some (.complex re im)
  | _ => Option.none

namespace Numeral

/-- Order of two real numbers; `nan` and complex numbers have none. -/
def compare? : Numeral → Numeral → Option Ordering
  | .int a, .int b => some (compare a b)
  | .int a, .float y => compareIntFloat a y
  | .float x, .int b => (compareIntFloat b x).map Ordering.swap
  | .float x, .float y => compareFloat x y
  | _, _ => none

def beq : Numeral → Numeral → Bool
  | .complex a b, .complex c d => a == c && b == d
  | .complex a b, other => b == 0.0 && compare? (.float a) other == some .eq
  | other, .complex a b => b == 0.0 && compare? other (.float a) == some .eq
  | a, b => compare? a b == some .eq

end Numeral

def rangeLength (start stop step : Int) : Nat :=
  if step > 0 then (if start < stop then ((stop - start - 1) / step + 1).toNat else 0)
  else if step < 0 then (if stop < start then ((start - stop - 1) / (-step) + 1).toNat else 0)
  else 0

/-- Ranges are equal if they run through the same numbers. -/
def rangeEq (a b c d e f : Int) : Bool :=
  let n := rangeLength a b c
  n == rangeLength d e f && (n == 0 || (a == d && (n == 1 || c == f)))

namespace Value

/-- Whether both values are the number that is not equal to itself. -/
def bothNan : Value → Value → Bool
  | .float x, .float y => x.isNaN && y.isNaN
  | _, _ => false

def eqAtom : Value → Value → Bool
  | .none, .none => true
  | .bytes a, .bytes b => a == b
  | .moment a, .moment b => a == b
  | .range a b c, .range d e f => rangeEq a b c d e f
  | .undefined a, .undefined b => a == b
  | .accessor a _, .accessor b _ => a == b && a != .anonymous
  | .function f, .function g => f.id == g.id
  | .builtin a, .builtin b => a == b
  | .signal a, .signal b => a == b
  | a, b =>
    match a.numeral?, b.numeral? with
    | some x, some y => x.beq y
    | _, _ =>
      match a.text?, b.text? with
      | some s, some t => s == t
      | _, _ => false

mutual

def eq : Value → Value → Bool
  | .list _ xs, .list _ ys => eqAll xs ys
  | .tuple xs, .tuple ys => eqAll xs ys
  | .dict _ es, .dict _ fs => es.length == fs.length && eqEntries es fs
  | .set xs, .set ys => xs.length == ys.length && subset xs ys
  | .view .values _ _, .view .values _ _ => false
  | .view k _ es, .view l _ fs => k == l && es.length == fs.length && eqKeys k es fs
  | .negated v, .negated w => eq v w
  | .model k fs xs, .model l gs ys =>
    k == l && fs.length == gs.length && eqFields fs gs && xs.length == ys.length && eqFields xs ys
  | .jump p v, .jump q w => eq p q && eq v w
  | v, w => eqAtom v w

def eqAll : List Value → List Value → Bool
  | [], [] => true
  | x :: xs, y :: ys => (eq x y || bothNan x y) && eqAll xs ys
  | _, _ => false

/-- Whether every element of the first list occurs in the second. -/
def subset : List Value → List Value → Bool
  | [], _ => true
  | x :: xs, ys => ys.any (fun y => eq x y || bothNan x y) && subset xs ys

/-- Whether every entry of the first list occurs in the second. -/
def eqEntries : Entries → Entries → Bool
  | [], _ => true
  | (k, v) :: es, fs =>
    fs.any (fun (l, w) => (eq k l || bothNan k l) && (eq v w || bothNan v w)) && eqEntries es fs

/-- Whether every key, or every entry, of the first view occurs in the second. -/
def eqKeys (kind : ViewKind) : Entries → Entries → Bool
  | [], _ => true
  | (k, v) :: es, fs =>
    fs.any (fun (l, w) => eq k l && (kind == .keys || eq v w)) && eqKeys kind es fs

/-- Whether every field of the first record occurs in the second. -/
def eqFields : List (String × Value) → List (String × Value) → Bool
  | [], _ => true
  | (k, v) :: es, fs =>
    fs.any (fun (l, w) => k == l && (eq v w || bothNan v w)) && eqFields es fs

end

def same (v w : Value) : Bool := eq v w || bothNan v w

def occursIn (v : Value) (items : List Value) : Bool := items.any (same v)

mutual

def hashable : Value → Bool
  | .list .. | .dict .. | .set _ | .negated _ | .model .. => false
  | .view kind .. => kind == .values
  | .tuple items => hashableAll items
  | .jump p v => hashable p && hashable v
  | _ => true

def hashableAll : List Value → Bool
  | [] => true
  | v :: vs => hashable v && hashableAll vs

end

end Value

namespace Entries

def get? (entries : Entries) (key : Value) : Option Value :=
  (entries.find? fun (k, _) => k.same key).map (·.2)

def named? (entries : Entries) (name : String) : Option Value := get? entries (.str name)

def named (entries : Entries) (name : String) : Value := .ofOption (named? entries name)

def contains (entries : Entries) (key : Value) : Bool := (get? entries key).isSome

def hasName (entries : Entries) (name : String) : Bool := (named? entries name).isSome

/-- Stores a value: a known key keeps its place and its spelling, a new one goes to the end. -/
def insert (entries : Entries) (key value : Value) : Entries :=
  match entries with
  | [] => [(key, value)]
  | (k, v) :: rest => if k.same key then (k, value) :: rest else (k, v) :: insert rest key value

def erase (entries : Entries) (key : Value) : Entries :=
  entries.filter fun (k, _) => !k.same key

/-- Stores all entries of the second mapping in the first. -/
def merge (entries others : Entries) : Entries :=
  others.foldl (fun acc (k, v) => insert acc k v) entries

/-- Mapping with the given entries; of equal keys the first place and the last value count. -/
def ofList (entries : List (Value × Value)) : Entries := merge [] entries

def put (entries : Entries) (name : String) (value : Value) : Entries :=
  insert entries (.str name) value

end Entries

/-- Strictness and direction of an order comparison. -/
inductive OrderTest where
  | lt | le | gt | ge
deriving Repr, DecidableEq

def OrderTest.accepts : OrderTest → Ordering → Bool
  | .lt, o => o == .lt
  | .le, o => o != .gt
  | .gt, o => o == .gt
  | .ge, o => o != .lt

namespace Value

/-- Order of values without parts: numbers, texts, bytes and days. -/
def orderAtom (test : OrderTest) (v w : Value) : Except Fault Bool :=
  match v.numeral?, w.numeral? with
  | some (.complex ..), some _ => .error .wrongType
  | some _, some (.complex ..) => .error .wrongType
  | some a, some b => .ok ((a.compare? b).elim false test.accepts)
  | _, _ =>
    match v.text?, w.text? with
    | some s, some t => .ok (test.accepts (compareOfLessAndEq s t))
    | _, _ =>
      match v, w with
      | .bytes a, .bytes b =>
        .ok (test.accepts (compareOfLessAndEq (a.map UInt8.toNat) (b.map UInt8.toNat)))
      | .moment a, .moment b =>
        if a.clock.isSome == b.clock.isSome && a.zone.isSome == b.zone.isSome then
          let key (m : Moment) : List Int :=
            let (h, mi, s, us) := m.clock.getD (0, 0, 0, 0)
            [m.year, m.month, m.day, h * 60 + mi - m.zone.getD 0, s, us]
          .ok (test.accepts (compareOfLessAndEq (key a) (key b)))
        else .error .wrongType
      | .undefined _, _ => .error .undefinedOperand
      | _, .undefined _ => .error .undefinedOperand
      | _, _ => .error .wrongType

mutual

/-- Order of values; values of different kinds have none. -/
def order (test : OrderTest) : Value → Value → Except Fault Bool
  | .list _ xs, .list _ ys => orderAll test xs ys
  | .tuple xs, .tuple ys => orderAll test xs ys
  | .set xs, .set ys =>
    let below := subset xs ys
    let above := subset ys xs
    .ok (match test with
      | .lt => below && !above
      | .le => below
      | .gt => above && !below
      | .ge => above)
  | v, w => orderAtom test v w

/-- Lexicographic order: the first elements that differ decide, else the lengths. -/
def orderAll (test : OrderTest) : List Value → List Value → Except Fault Bool
  | [], [] => .ok (test.accepts .eq)
  | [], _ :: _ => .ok (test.accepts .lt)
  | _ :: _, [] => .ok (test.accepts .gt)
  | x :: xs, y :: ys => if x.same y then orderAll test xs ys else order test x y

end

/-- Equality as an operator: an undefined value equals an undefined value only. -/
def neq (v w : Value) : Bool := !eq v w

end Value

end Colloquy
