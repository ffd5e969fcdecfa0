import Colloquy.Number.Shortest
import Colloquy.Text.Class

/-!
# Reading numbers

Texts of integers and of floating point numbers. Blanks around a number are ignored, single
underscores may stand between digits, digits of every script count, and a decimal text is rounded
once, to the nearest number.
-/

namespace Colloquy.Number

open Text

def stripBlanks (cs : List Char) : List Char :=
  ((cs.dropWhile isBlank).reverse.dropWhile isBlank).reverse

/-- Digits of every script written as ASCII digits; other characters stay. -/
def plainDigit (c : Char) : Char :=
  match decimalValue? c with
  | some n => Char.ofNat ('0'.toNat + n)
  | none => c

def takeSign : List Char → Bool × List Char
  | '-' :: cs => (true, cs)
  | '+' :: cs => (false, cs)
  | cs => (false, cs)

def digitValue? (c : Char) : Option Nat :=
  if '0' ≤ c ∧ c ≤ '9' then some (c.toNat - '0'.toNat)
  else if 'a' ≤ c ∧ c ≤ 'z' then some (c.toNat - 'a'.toNat + 10)
  else if 'A' ≤ c ∧ c ≤ 'Z' then some (c.toNat - 'A'.toNat + 10)
  else none

def readDigits (base : Nat) : List Char → Option Nat
  | cs =>
    let rec go (value : Nat) (afterDigit : Bool) : List Char → Option Nat
      | [] => if afterDigit then some value else none
      | '_' :: rest => if afterDigit then go value false rest else none
      | c :: rest =>
        match digitValue? c with
        | some d => if d < base then go (base * value + d) true rest else none
        | none => none
    go 0 false cs

/-- Base announced by a leading `0x`, `0o` or `0b`, and what follows it. -/
def takeBase : List Char → Option (Nat × List Char)
  | '0' :: c :: cs =>
    if c == 'x' || c == 'X' then some (16, cs)
    else if c == 'o' || c == 'O' then some (8, cs)
    else if c == 'b' || c == 'B' then some (2, cs)
    else none
  | _ => none

/-- Digits after a base prefix may start with one underscore. -/
def afterBase : List Char → List Char
  | '_' :: cs => if cs.head? == some '_' then '_' :: cs else cs
  | cs => cs

/-- Reads an integer in a base; base zero takes the base from the prefix. -/
def readInt? (base : Nat) (text : String) : Option Int :=
  let cs := (stripBlanks text.toList).map plainDigit
  let (negative, cs) := takeSign cs
  let value :=
    match takeBase cs with
    | some (b, rest) =>
      if base = b ∨ base = 0 then
        match readDigits b (afterBase rest) with
        | some n => some n
        | none => if base = 0 then none else readDigits base cs
      else if base = 0 then none
      else readDigits base cs
    | none =>
      if base = 0 then
        -- a decimal literal may not start with a zero unless it is zero
        match readDigits 10 cs with
        | some n => if cs.head? == some '0' && n != 0 then none else some n
        | none => none
      else readDigits base cs
  let tooLong := (base == 10 || base == 0) && (takeBase cs).isNone &&
    maxIntDigits < (cs.filter (· != '_')).length
  if tooLong then none
  else value.map fun n => if negative then -(n : Int) else n

/-- The parts of a decimal text: digits before and after the point, and the exponent. -/
structure DecimalText where
  whole : List Char
  fraction : List Char
  exponent : Int

/-- Takes digits with single underscores between them; gives the digits and the rest. -/
def takeDigits (cs : List Char) : List Char × List Char :=
  let rec go (taken : List Char) : List Char → List Char × List Char
    | [] => (taken.reverse, [])
    | c :: rest =>
      if c.isDigit then go (c :: taken) rest
      else
        match c, rest with
        | '_', d :: _ => if !taken.isEmpty && d.isDigit then go taken rest else (taken.reverse, c :: rest)
        | _, _ => (taken.reverse, c :: rest)
  go [] cs

def readExponent? : List Char → Option Int
  | [] => some 0
  | c :: cs =>
    if c == 'e' || c == 'E' then
      let (negative, cs) := takeSign cs
      match takeDigits cs with
      | ([], _) => none
      | (ds, []) => let n := ds.foldl (fun n d => 10 * n + (d.toNat - '0'.toNat)) 0
                    some (if negative then -(n : Int) else n)
      | _ => none
    else none

def readDecimal? (cs : List Char) : Option DecimalText :=
  let (whole, rest) := takeDigits cs
  match rest with
  | '.' :: rest =>
    let (fraction, rest) := match rest with
      | '_' :: _ => ([], rest)
      | _ => takeDigits rest
    if whole.isEmpty && fraction.isEmpty then none
    else (readExponent? rest).map fun e => ⟨whole, fraction, e⟩
  | rest =>
    if whole.isEmpty then none
    else (readExponent? rest).map fun e => ⟨whole, [], e⟩

/-- The number nearest to a decimal text. Exponents far outside the range of double precision are
cut, which changes no result. -/
def DecimalText.toFloat (negative : Bool) (d : DecimalText) : Float :=
  let ds := d.whole ++ d.fraction
  let c := ds.foldl (fun n x => 10 * n + (x.toNat - '0'.toNat)) 0
  let e := d.exponent - d.fraction.length
  if c = 0 then Binary.withSign negative 0
  else
    let magnitude := e + (digits c).length
    if 400 < magnitude then Binary.withSign negative (2047 * Nat.pow 2 52)
    else if magnitude < -400 then Binary.withSign negative 0
    else Binary.ofRatio negative (c * Nat.pow 10 e.toNat) (Nat.pow 10 (-e).toNat)

/-- Reads the words for infinite numbers and for `nan`, in any case. -/
def readSpecial? (negative : Bool) (cs : List Char) : Option Float :=
  let word := String.ofList (cs.map Char.toLower)
  if word == "inf" || word == "infinity" then some (Binary.withSign negative (2047 * Nat.pow 2 52))
  else if word == "nan" then some (0.0 / 0.0)
  else none

def readFloat? (text : String) : Option Float :=
  let cs := (stripBlanks text.toList).map plainDigit
  let (negative, cs) := takeSign cs
  match readSpecial? negative cs with
  | some x => some x
  | none => (readDecimal? cs).map (·.toFloat negative)

end Colloquy.Number
