import Colloquy.Number.Binary

/-!
# Decimal texts of numbers

The text of a number has the fewest digits that read back as the same number; of the texts with
that many digits the nearest one is taken. Numbers whose exponent lies in `[-4, 16)` are written
positionally, all others with an exponent of at least two digits.
-/

namespace Colloquy.Number

/-- Digits of a natural number in base ten. -/
def digits (n : Nat) : List Char := Nat.toDigits 10 n

/-- Largest `e` with `10 ^ e ≤ num / den`, for positive `num` and `den`. -/
def decimalExponent (num den : Nat) : Int :=
  let e : Int := ((digits num).length : Int) - (digits den).length
  if den * Nat.pow 10 e.toNat ≤ num * Nat.pow 10 (-e).toNat then e else e - 1

/-- A decimal number `coefficient * 10 ^ exponent`. -/
structure Decimal where
  coefficient : Nat
  exponent : Int
deriving Repr, DecidableEq

/-- Bounds of the interval of reals that round to `m * 2 ^ e`, in units of `2 ^ (e - 2)`. Below a
power of two the gap is half as wide. -/
def roundingBounds (m : Nat) (e : Int) : Nat × Nat :=
  (if m = Nat.pow 2 52 ∧ -1074 < e then 4 * m - 1 else 4 * m - 2, 4 * m + 2)

def compareScaled (v : Nat) (e : Int) (c : Nat) (u : Int) : Ordering :=
  compare (v * Nat.pow 2 (e - 2).toNat * Nat.pow 10 (-u).toNat)
    (c * Nat.pow 10 u.toNat * Nat.pow 2 (2 - e).toNat)

/-- Whether `c * 10 ^ u` reads back as `m * 2 ^ e`; the ends of the interval do if `m` is even. -/
def readsBack (m : Nat) (e : Int) (c : Nat) (u : Int) : Bool :=
  let (low, high) := roundingBounds m e
  match compareScaled low e c u, compareScaled high e c u with
  | .lt, .gt => true
  | .eq, _ => m % 2 == 0
  | _, .eq => m % 2 == 0
  | _, _ => false

/-- First grid of `count`, `count + 1`, … digits with a point that reads back. -/
def shortestFrom (m : Nat) (e : Int) (top : Int) (count tries : Nat) : Decimal :=
  let u := top + 1 - count
  let (num, den) := Binary.ratio m e
  let below := num * Nat.pow 10 (-u).toNat / (den * Nat.pow 10 u.toNat)
  match tries with
  | 0 => ⟨below, u⟩
  | tries + 1 =>
    match readsBack m e below u, readsBack m e (below + 1) u with
    | true, false => ⟨below, u⟩
    | false, true => ⟨below + 1, u⟩
    | true, true =>
      -- the nearer of the two, a tie to the even one
      match compareScaled (8 * m) e (2 * below + 1) u with
      | .lt => ⟨below, u⟩
      | .gt => ⟨below + 1, u⟩
      | .eq => ⟨if below % 2 = 0 then below else below + 1, u⟩
    | false, false => shortestFrom m e top (count + 1) tries

def shortest (m : Nat) (e : Int) : Decimal :=
  let (num, den) := Binary.ratio m e
  shortestFrom m e (decimalExponent num den) 1 17

/-- Digits without the zeros at their end, and the number of zeros dropped. -/
def trimZeros (ds : List Char) : List Char × Nat :=
  let kept := (ds.reverse.dropWhile (· == '0')).reverse
  (kept, ds.length - kept.length)

/-- Exponent text: a sign and at least two digits. -/
def exponentText (e : Int) : String :=
  let ds := digits e.natAbs
  (if e < 0 then "-" else "+") ++ (if ds.length < 2 then "0" else "") ++ String.ofList ds

def Decimal.text (d : Decimal) : String :=
  let (ds, dropped) := trimZeros (digits d.coefficient)
  -- the value is 0.d₁d₂… times ten to the power of `point`
  let point : Int := d.exponent + dropped + ds.length
  let scientific := point - 1
  if -4 ≤ scientific ∧ scientific < 16 then
    if point ≤ 0 then "0." ++ String.ofList (List.replicate (-point).toNat '0') ++ String.ofList ds
    else
      let k := point.toNat
      if ds.length ≤ k then
        String.ofList ds ++ String.ofList (List.replicate (k - ds.length) '0') ++ ".0"
      else String.ofList (ds.take k) ++ "." ++ String.ofList (ds.drop k)
  else
    let mantissa := match ds with
      | [] => "0"
      | [c] => String.singleton c
      | c :: cs => String.singleton c ++ "." ++ String.ofList cs
    mantissa ++ "e" ++ exponentText scientific

/-- Text of a number: `1.0`, `0.1`, `1e+16`, `-0.0`, `inf`, `nan`. -/
def floatText (x : Float) : String :=
  match Binary.ofFloat x with
  | .nan => "nan"
  | .infinite negative => if negative then "-inf" else "inf"
  | .finite negative m e =>
    let text := if m = 0 then "0.0" else (shortest m e).text
    if negative then "-" ++ text else text

def intText (n : Int) : String :=
  if n < 0 then "-" ++ String.ofList (digits n.natAbs) else String.ofList (digits n.natAbs)

/-- Longest decimal text of an integer, in digits. -/
def maxIntDigits : Nat := 4300

/-- Text of `num / den` with the given number of places, a tie to the even digit. -/
def fixedText (num den places : Nat) : String :=
  let n := Binary.roundDiv (num * Nat.pow 10 places) den
  let ds := digits n
  let ds := List.replicate (places + 1 - ds.length) '0' ++ ds
  let whole := ds.take (ds.length - places)
  if places = 0 then String.ofList whole
  else String.ofList whole ++ "." ++ String.ofList (ds.drop (ds.length - places))

/-- Coefficient of `places + 1` digits and exponent of `num / den`, rounded. -/
def scientificParts (num den places : Nat) : Nat × Int :=
  if num = 0 then (0, 0)
  else
    let e := decimalExponent num den
    let u := e - places
    let c := Binary.roundDiv (num * Nat.pow 10 (-u).toNat) (den * Nat.pow 10 u.toNat)
    if c = Nat.pow 10 (places + 1) then (Nat.pow 10 places, e + 1) else (c, e)

def scientificText (num den places : Nat) : String :=
  let (c, e) := scientificParts num den places
  let ds := digits c
  let ds := ds ++ List.replicate (places + 1 - ds.length) '0'
  let mantissa := match ds with
    | [] => "0"
    | d :: rest => if rest.isEmpty then String.singleton d else String.singleton d ++ "." ++ String.ofList rest
  mantissa ++ "e" ++ exponentText e

/-- A number rounded to decimal places, negative places counting before the point; `none` if the
result is too large. -/
def roundPlaces (x : Float) (places : Int) : Option Float :=
  match Binary.ofFloat x with
  | .finite negative m e =>
    let (num, den) := Binary.ratio m e
    let n := Binary.roundDiv (num * Nat.pow 10 places.toNat) (den * Nat.pow 10 (-places).toNat)
    let y := Binary.ofRatio negative (n * Nat.pow 10 (-places).toNat) (Nat.pow 10 places.toNat)
    if isFinite y then some y else none
  | _ => some x

end Colloquy.Number
