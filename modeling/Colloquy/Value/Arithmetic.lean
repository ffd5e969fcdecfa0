import Colloquy.Value.Equality

/-!
# Arithmetic on values

Integers are exact and of any size; an operation with a floating point number is done in double
precision, and a quotient always is. Texts, lists and tuples are joined by addition and repeated by
multiplication.
-/

namespace Colloquy

open Number

/-- Result of an operation on values. -/
abbrev Outcome := Except Fault

namespace Numeral

def toValue : Numeral → Value
  | .int n => .int n
  | .float x => .float x
  | .complex re im => .complex re im

/-- The floating point number nearest to an integer, if it is in range. -/
def toFloat (n : Int) : Outcome Float :=
  let x := floatOfInt n
  if isFinite x then .ok x else .error .overflow

/-- Both numbers in one kind, the wider of the two. -/
def widen : Numeral → Numeral → Outcome (Numeral × Numeral)
  | .int a, .int b => .ok (.int a, .int b)
  | .int a, .float y => do return (.float (← toFloat a), .float y)
  | .float x, .int b => do return (.float x, .float (← toFloat b))
  | .int a, .complex c d => do return (.complex (← toFloat a) 0.0, .complex c d)
  | .complex a b, .int c => do return (.complex a b, .complex (← toFloat c) 0.0)
  | .float a, .complex c d => .ok (.complex a 0.0, .complex c d)
  | .complex a b, .float c => .ok (.complex a b, .complex c 0.0)
  | a, b => .ok (a, b)

def add (a b : Numeral) : Outcome Numeral := do
  match ← widen a b with
  | (.int a, .int b) => return .int (a + b)
  | (.float a, .float b) => return .float (a + b)
  | (.complex a b, .complex c d) => return .complex (a + c) (b + d)
  | _ => .error .wrongType

def sub (a b : Numeral) : Outcome Numeral := do
  match ← widen a b with
  | (.int a, .int b) => return .int (a - b)
  | (.float a, .float b) => return .float (a - b)
  | (.complex a b, .complex c d) => return .complex (a - c) (b - d)
  | _ => .error .wrongType

def mul (a b : Numeral) : Outcome Numeral := do
  match ← widen a b with
  | (.int a, .int b) => return .int (a * b)
  | (.float a, .float b) => return .float (a * b)
  | (.complex a b, .complex c d) => return .complex (a * c - b * d) (a * d + b * c)
  | _ => .error .wrongType

/-- Quotient of two integers, rounded once. -/
def divInt (a b : Int) : Outcome Float :=
  if b = 0 then .error .divisionByZero
  else
    let x := Binary.ofRatio ((a < 0) != (b < 0)) a.natAbs b.natAbs
    if isFinite x then .ok x else .error .overflow

/-- Quotient of complex numbers, scaled by the larger part of the divisor. -/
def divComplex (a b c d : Float) : Outcome Numeral :=
  if c == 0.0 && d == 0.0 then .error .divisionByZero
  else if d.abs ≤ c.abs then
    let r := d / c
    let s := c + d * r
    .ok (.complex ((a + b * r) / s) ((b - a * r) / s))
  else
    let r := c / d
    let s := c * r + d
    .ok (.complex ((a * r + b) / s) ((b * r - a) / s))

/-- True division: always a floating point number. -/
def div (a b : Numeral) : Outcome Numeral := do
  match a, b with
  | .int a, .int b => return .float (← divInt a b)
  | a, b =>
    match ← widen a b with
    | (.float a, .float b) => if b == 0.0 then .error .divisionByZero else return .float (a / b)
    | (.complex a b, .complex c d) => divComplex a b c d
    | _ => .error .wrongType

/-- Floor quotient and remainder of floating point numbers; the remainder has the sign of the
divisor. -/
def divModFloat (a b : Float) : Float × Float :=
  let m := if isFinite a && isFinite b then remainder a b
    else if isFinite a && !b.isNaN then a else 0.0 / 0.0
  let q := (a - m) / b
  let (m, q) :=
    if m != 0.0 then
      if (b < 0.0) != (m < 0.0) then (m + b, q - 1.0) else (m, q)
    else (Binary.withSign (isNegative b) 0, q)
  if q != 0.0 then
    let f := q.floor
    (if q - f > 0.5 then f + 1.0 else f, m)
  else (Binary.withSign (isNegative (a / b)) 0, m)

def floorDiv (a b : Numeral) : Outcome Numeral := do
  match ← widen a b with
  | (.int a, .int b) => if b = 0 then .error .divisionByZero else return .int (Int.fdiv a b)
  | (.float a, .float b) =>
    if b == 0.0 then .error .divisionByZero else return .float (divModFloat a b).1
  | _ => .error .wrongType

def mod (a b : Numeral) : Outcome Numeral := do
  match ← widen a b with
  | (.int a, .int b) => if b = 0 then .error .divisionByZero else return .int (Int.fmod a b)
  | (.float a, .float b) =>
    if b == 0.0 then .error .divisionByZero else return .float (divModFloat a b).2
  | _ => .error .wrongType

/-- Power of complex numbers by polar coordinates. -/
def powComplex (a b c d : Float) : Outcome Numeral :=
  if c == 0.0 && d == 0.0 then .ok (.complex 1.0 0.0)
  else if a == 0.0 && b == 0.0 then
    if d != 0.0 || c < 0.0 then .error .divisionByZero else .ok (.complex 0.0 0.0)
  else
    let size := (a * a + b * b).sqrt
    let size := if b == 0.0 then a.abs else if a == 0.0 then b.abs else size
    let angle := Float.atan2 b a
    let length := size.pow c
    let phase := angle * c
    let (length, phase) :=
      if d == 0.0 then (length, phase)
      else (length / (angle * d).exp, phase + d * size.log)
    .ok (.complex (length * phase.cos) (length * phase.sin))

/-- Power of floating point numbers; a root of a negative number is complex. -/
def powFloat (a b : Float) : Outcome Numeral :=
  if b == 0.0 || a == 1.0 then .ok (.float 1.0)
  else if a.isNaN || b.isNaN then .ok (.float (0.0 / 0.0))
  else if !isFinite a || !isFinite b then .ok (.float (a.pow b))
  else if a == 0.0 && b < 0.0 then .error .divisionByZero
  else if a < 0.0 && !isIntegral b then powComplex a 0.0 b 0.0
  else
    let x := a.pow b
    if isFinite x then .ok (.float x) else .error .overflow

def pow (a b : Numeral) : Outcome Numeral := do
  match ← widen a b with
  | (.int a, .int b) =>
    if 0 ≤ b then return .int (Int.pow a b.toNat)
    else if a = 0 then .error .divisionByZero
    else powFloat (← toFloat a) (← toFloat b)
  | (.float a, .float b) => powFloat a b
  | (.complex a b, .complex c d) => powComplex a b c d
  | _ => .error .wrongType

def neg : Numeral → Numeral
  | .int n => .int (-n)
  | .float x => .float (-x)
  | .complex re im => .complex (-re) (-im)

/-- Absolute value; that of a complex number is its distance from zero. -/
def abs : Numeral → Numeral
  | .int n => .int n.natAbs
  | .float x => .float x.abs
  | .complex re im => .float ((re * re + im * im).sqrt)

end Numeral

/-- Text with the characters that mean something in markup replaced. -/
def escapeMarkup (s : String) : String :=
  String.join (s.toList.map fun c =>
    if c == '&' then "&amp;" else if c == '<' then "&lt;" else if c == '>' then "&gt;"
    else if c == '"' then "&#34;" else if c.toNat == 0x27 then "&#39;" else String.singleton c)

namespace Value

/-- Text that may stand in markup: safe text as it is, any other text escaped. -/
def escaped : Value → String
  | .markup s => s
  | v => escapeMarkup (match v with | .str s => s | _ => "")

/-- An operation on two numbers, given as values. -/
def numeric (op : Numeral → Numeral → Outcome Numeral) (v w : Value) : Outcome Value :=
  match v.numeral?, w.numeral? with
  | some a, some b => (op a b).map Numeral.toValue
  | _, _ =>
    match v, w with
    | .undefined _, _ => .error .undefinedOperand
    | _, .undefined _ => .error .undefinedOperand
    | _, _ => .error .wrongType

def index? : Value → Option Int
  | .int n => some n
  | .bool b => some (if b then 1 else 0)
  | _ => Option.none

/-- A list several times over; not at all if the count is negative. -/
def repeated {α : Type} (items : List α) (count : Int) : List α :=
  (List.replicate count.toNat items).flatten

def repeat? (v : Value) (count : Int) : Option Value :=
  match v with
  | .str s => some (.str (String.ofList (repeated s.toList count)))
  | .markup s => some (.markup (String.ofList (repeated s.toList count)))
  | .bytes bs => some (.bytes (repeated bs count))
  | .list _ items => some (.ofList (repeated items count))
  | .tuple items => some (.tuple (repeated items count))
  | _ => Option.none

def add (v w : Value) : Outcome Value :=
  match v, w with
  | .str s, .str t => .ok (.str (s ++ t))
  | .markup s, .str t => .ok (.markup (s ++ escapeMarkup t))
  | .markup s, .markup t => .ok (.markup (s ++ t))
  | .str s, .markup t => .ok (.markup (escapeMarkup s ++ t))
  | .list _ xs, .list _ ys => .ok (.ofList (xs ++ ys))
  | .tuple xs, .tuple ys => .ok (.tuple (xs ++ ys))
  | .bytes a, .bytes b => .ok (.bytes (a ++ b))
  | v, w => numeric Numeral.add v w

def sub (v w : Value) : Outcome Value :=
  match v, w with
  | .set xs, .set ys => .ok (.set (xs.filter fun x => !x.occursIn ys))
  | v, w => numeric Numeral.sub v w

def repeats : Value → Bool
  | .str _ | .markup _ | .bytes _ | .list .. | .tuple _ => true
  | _ => false

/-- Repetition by a count, which has to fit a machine word. -/
def repeatBy (v : Value) (count : Int) : Outcome Value :=
  if count < -(Nat.pow 2 63) ∨ Nat.pow 2 63 ≤ count then .error .overflow
  else
    match v.repeat? count with
    | some r => .ok r
    | Option.none => .error .wrongType

def mul (v w : Value) : Outcome Value :=
  match v.index?, w.index? with
  | _, some count => if v.repeats then v.repeatBy count else numeric Numeral.mul v w
  | some count, Option.none => if w.repeats then w.repeatBy count else numeric Numeral.mul v w
  | _, _ => numeric Numeral.mul v w

def div (v w : Value) : Outcome Value := numeric Numeral.div v w

def floorDiv (v w : Value) : Outcome Value := numeric Numeral.floorDiv v w

def mod (v w : Value) : Outcome Value := numeric Numeral.mod v w

def pow (v w : Value) : Outcome Value := numeric Numeral.pow v w

def neg (v : Value) : Outcome Value :=
  match v.numeral? with
  | some a => .ok a.neg.toValue
  | Option.none =>
    match v with
    | .undefined _ => .error .undefinedOperand
    | _ => .error .wrongType

/-- A number unchanged; a truth value becomes an integer. -/
def pos (v : Value) : Outcome Value :=
  match v.numeral? with
  | some a => .ok a.toValue
  | Option.none =>
    match v with
    | .undefined _ => .error .undefinedOperand
    | _ => .error .wrongType

def abs (v : Value) : Outcome Value :=
  match v.numeral? with
  | some a => .ok a.abs.toValue
  | Option.none => .error .wrongType

end Value

end Colloquy
