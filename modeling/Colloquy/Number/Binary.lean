/-!
# Binary floating point numbers, exactly

A finite number of double precision is a mantissa times a power of two. `Binary.ofFloat` takes a
number apart, `Binary.ofRatio` puts the number nearest to a quotient together (a tie goes to the
even mantissa), and everything between is exact arithmetic on natural numbers.
-/

namespace Colloquy.Number

/-- A number of double precision by its kind: `finite neg m e` is `m * 2 ^ e`, negated if `neg`. -/
inductive Binary where
  | nan
  | infinite (negative : Bool)
  | finite (negative : Bool) (mantissa : Nat) (exponent : Int)
deriving Repr, DecidableEq

namespace Binary

/-- Takes a number apart by its 64 bits. -/
def ofFloat (x : Float) : Binary :=
  let bits := x.toBits.toNat
  let negative := bits / Nat.pow 2 63 == 1
  let exponent : Nat := bits / Nat.pow 2 52 % 2048
  let fraction := bits % Nat.pow 2 52
  if exponent = 2047 then
    if fraction = 0 then .infinite negative else .nan
  else if exponent = 0 then .finite negative fraction (-1074)
  else .finite negative (fraction + Nat.pow 2 52) ((exponent : Int) - 1075)

def withSign (negative : Bool) (bits : Nat) : Float :=
  Float.ofBits (UInt64.ofNat (if negative then bits + Nat.pow 2 63 else bits))

/-- Quotient rounded to the nearest natural number, a tie to the even one. -/
def roundDiv (num den : Nat) : Nat :=
  let q := num / den
  let r := num % den
  if den < 2 * r ∨ (2 * r = den ∧ q % 2 = 1) then q + 1 else q

/-- Largest `e` with `2 ^ e ≤ num / den`, for positive `num` and `den`. -/
def binaryExponent (num den : Nat) : Int :=
  let e : Int := (num.log2 : Int) - den.log2
  if den * Nat.pow 2 e.toNat ≤ num * Nat.pow 2 (-e).toNat then e else e - 1

/-- The number nearest to `num / den`; too large a quotient gives an infinite number. -/
def ofRatio (negative : Bool) (num den : Nat) : Float :=
  if num = 0 then withSign negative 0
  else
    let unit := max (binaryExponent num den - 52) (-1074)
    let q := roundDiv (num * Nat.pow 2 (-unit).toNat) (den * Nat.pow 2 unit.toNat)
    if q < Nat.pow 2 52 then withSign negative q
    else
      let (q, biased) := if q = Nat.pow 2 53 then (Nat.pow 2 52, unit + 1076) else (q, unit + 1075)
      if 2047 ≤ biased then withSign negative (2047 * Nat.pow 2 52)
      else withSign negative (biased.toNat * Nat.pow 2 52 + (q - Nat.pow 2 52))

end Binary

def floatOfInt (n : Int) : Float :=
  Binary.ofRatio (n < 0) n.natAbs 1

/-- Numerator of `m * 2 ^ e` over the denominator `2 ^ (-e)`. -/
def Binary.ratio (mantissa : Nat) (exponent : Int) : Nat × Nat :=
  (mantissa * Nat.pow 2 exponent.toNat, Nat.pow 2 (-exponent).toNat)

/-- A finite number as an exact quotient with its sign. -/
def ratio? (x : Float) : Option (Int × Nat) :=
  match Binary.ofFloat x with
  | .finite negative m e =>
    let (num, den) := Binary.ratio m e
    some (if negative then -(num : Int) else num, den)
  | _ => none

/-- Whether the sign of the number is negative, negative zero included. -/
def isNegative (x : Float) : Bool :=
  x.toBits.toNat / Nat.pow 2 63 == 1

def isFinite (x : Float) : Bool :=
  match Binary.ofFloat x with
  | .finite .. => true
  | _ => false

/-- Integer part of a finite number, towards zero. -/
def truncate? (x : Float) : Option Int :=
  match Binary.ofFloat x with
  | .finite negative m e =>
    let (num, den) := Binary.ratio m e
    some (if negative then -((num / den : Nat) : Int) else (num / den : Nat))
  | _ => none

/-- Largest integer at or below a finite number. -/
def floor? (x : Float) : Option Int :=
  (ratio? x).map fun (num, den) => Int.fdiv num den

/-- Smallest integer at or above a finite number. -/
def ceiling? (x : Float) : Option Int :=
  (ratio? x).map fun (num, den) => -Int.fdiv (-num) den

def isIntegral (x : Float) : Bool :=
  match ratio? x with
  | some (num, den) => num % den == 0
  | none => false

def compareIntFloat (n : Int) (x : Float) : Option Ordering :=
  match Binary.ofFloat x with
  | .nan => none
  | .infinite negative => some (if negative then .gt else .lt)
  | .finite .. => (ratio? x).map fun (num, den) => compare (n * den) num

/-- Order of two numbers; `nan` has none. -/
def compareFloat (x y : Float) : Option Ordering :=
  if x < y then some .lt else if x == y then some .eq else if y < x then some .gt else none

/-- Remainder with the sign of the dividend, for finite `x` and finite `y ≠ 0`. -/
def remainder (x y : Float) : Float :=
  match ratio? x, ratio? y with
  | some (a, b), some (c, d) =>
    let scaled := (a.natAbs * d) % (c.natAbs * b)
    Binary.ofRatio (isNegative x) scaled (b * d)
  | _, _ => 0.0 / 0.0

end Colloquy.Number
