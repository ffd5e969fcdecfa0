import Colloquy.Number.Read
import Colloquy.Value.Equality

/-!
# Reading JSON

Reads JSON text into values. Members of an object keep their order; of two members with one name the
first keeps its place and takes the value of the last. A number with a point or an exponent is a
floating point number, any other one an integer of any size.

Each reader takes as much of the text as it needs and gives back the rest.
-/

namespace Colloquy.Json

open Text

def skipBlanks (cs : List Char) : List Char :=
  cs.dropWhile fun c => c == ' ' || c == '\n' || c == '\t' || c == '\r'

def readCode (cs : List Char) : Option (Nat × List Char) :=
  let digits := cs.take 4
  if digits.length = 4 && digits.all isHexDigit then
    some (hexNumber digits, cs.drop 4)
  else none

/-- The character of an escape with a code; two codes may stand for one character. -/
def readEscapedCode (cs : List Char) : Option (Char × List Char) := do
  let (high, rest) ← readCode cs
  match rest with
  | '\\' :: 'u' :: more =>
    if 0xD800 ≤ high && high < 0xDC00 then
      match readCode more with
      | some (low, after) =>
        if 0xDC00 ≤ low && low < 0xE000 then
          return (Char.ofNat (0x10000 + (high - 0xD800) * 0x400 + (low - 0xDC00)), after)
        else return (Char.ofNat 0xFFFD, rest)
      | none => return (Char.ofNat 0xFFFD, rest)
    else return (Char.ofNat high, rest)
  | _ => return (if 0xD800 ≤ high && high < 0xE000 then Char.ofNat 0xFFFD else Char.ofNat high, rest)

def readText : Nat → List Char → List Char → Option (String × List Char)
  | 0, _, _ => none
  | _ + 1, out, '"' :: cs => some (String.ofList out.reverse, cs)
  | n + 1, out, '\\' :: 'u' :: cs => do
    let (c, rest) ← readEscapedCode cs
    readText n (c :: out) rest
  | n + 1, out, '\\' :: c :: cs =>
    match c with
    | 'n' => readText n ('\n' :: out) cs
    | 't' => readText n ('\t' :: out) cs
    | 'r' => readText n ('\r' :: out) cs
    | 'b' => readText n (Char.ofNat 8 :: out) cs
    | 'f' => readText n (Char.ofNat 12 :: out) cs
    | '"' | '\\' | '/' => readText n (c :: out) cs
    | _ => none
  | n + 1, out, c :: cs => if c == '\\' || c.toNat < 32 then none else readText n (c :: out) cs
  | _ + 1, _, [] => none

def isNumberPart (c : Char) : Bool := c.isDigit || c == '-' || c == '+' || c == '.' || c == 'e' || c == 'E'

def readNumber (cs : List Char) : Option (Value × List Char) :=
  let word := cs.takeWhile isNumberPart
  let rest := cs.dropWhile isNumberPart
  if word.isEmpty then none
  else if word.any fun c => c == '.' || c == 'e' || c == 'E' then
    (Number.readFloat? (String.ofList word)).map fun x => (.float x, rest)
  else
    let (negative, digits) := Number.takeSign word
    if digits.isEmpty || !digits.all Char.isDigit then none
    else
      let n : Nat := digits.foldl (fun n c => 10 * n + (c.toNat - '0'.toNat)) 0
      some (.int (if negative then -(n : Int) else n), rest)

mutual

def readValue : Nat → List Char → Option (Value × List Char)
  | 0, _ => none
  | n + 1, cs =>
    match skipBlanks cs with
    | '\x7b' :: cs =>
      match skipBlanks cs with
      | '\x7d' :: cs => some (.dict .anonymous [], cs)
      | cs => readMembers n [] cs
    | '[' :: cs =>
      match skipBlanks cs with
      | ']' :: cs => some (.ofList [], cs)
      | cs => readItems n [] cs
    | '"' :: cs => (readText (cs.length + 1) [] cs).map fun (s, cs) => (.str s, cs)
    | 't' :: 'r' :: 'u' :: 'e' :: cs => some (.bool true, cs)
    | 'f' :: 'a' :: 'l' :: 's' :: 'e' :: cs => some (.bool false, cs)
    | 'n' :: 'u' :: 'l' :: 'l' :: cs => some (.none, cs)
    | cs => readNumber cs

def readItems : Nat → List Value → List Char → Option (Value × List Char)
  | 0, _, _ => none
  | n + 1, out, cs => do
    let (v, cs) ← readValue n cs
    match skipBlanks cs with
    | ',' :: cs => readItems n (v :: out) cs
    | ']' :: cs => return (.ofList (v :: out).reverse, cs)
    | _ => none

def readMembers : Nat → Entries → List Char → Option (Value × List Char)
  | 0, _, _ => none
  | n + 1, out, cs => do
    match skipBlanks cs with
    | '"' :: cs =>
      let (name, cs) ← readText (cs.length + 1) [] cs
      match skipBlanks cs with
      | ':' :: cs =>
        let (v, cs) ← readValue n cs
        let out := Entries.put out name v
        match skipBlanks cs with
        | ',' :: cs => readMembers n out cs
        | '\x7d' :: cs => return (.dict .anonymous out, cs)
        | _ => none
      | _ => none
    | _ => none

end

def read? (text : String) : Option Value :=
  let cs := text.toList
  match readValue (2 * cs.length + 2) cs with
  | some (v, rest) => if (skipBlanks rest).isEmpty then some v else none
  | none => none

end Colloquy.Json
