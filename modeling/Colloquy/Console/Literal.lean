import Colloquy.Number.Read
import Colloquy.Text.Case

/-!
# Literals

A tag of markup may name an action with arguments that are written as literals: texts, numbers,
`True`, `False`, `None`, an ellipsis, and tuples, sets and mappings of these. Only whether a text is
a literal matters. Members of sets and keys of mappings have to be hashable.
-/

namespace Colloquy.Console

open Text

/-- What a literal is, as far as others that hold it care. -/
inductive Literal where
  /-- A number without a sign. -/
  | number (imaginary : Bool)
  /-- A number with a sign. -/
  | signed (imaginary : Bool)
  | other (hashable : Bool)

namespace Literal

def isHashable : Literal → Bool
  | .other h => h
  | _ => true

/-- A reader of a literal gives the text after it. -/
abbrev Reader (α : Type) := List Char → Option (α × List Char)

/-- Skips blanks and comments; line ends only inside brackets. -/
def skip (inside comment : Bool) : List Char → List Char
  | [] => []
  | '\\' :: '\n' :: rest => skip inside comment rest
  | c :: rest =>
    if c == '\n' then
      if inside then skip inside false rest else c :: rest
    else if comment || c == ' ' || c == '\t' || c == '\x0c' || c == '\r' then skip inside comment rest
    else if c == '#' then skip inside true rest
    else c :: rest

/-- Whether a character opens or closes a text. -/
def isQuote (c : Char) : Bool := c == '"' || c.toNat == 0x27

structure Quoting where
  quote : Char
  /-- Whether the quote is written three times. -/
  triple : Bool
  /-- Whether backslashes stand for themselves. -/
  raw : Bool
  /-- Whether the text is one of bytes. -/
  bytes : Bool

/-- Number of hexadecimal digits that an escape needs. -/
def Quoting.digitsAfter (q : Quoting) (c : Char) : Nat :=
  match c with
  | 'x' => 2
  | 'u' => if q.bytes then 0 else 4
  | 'U' => if q.bytes then 0 else 8
  | _ => 0

def Quoting.acceptsEscape (q : Quoting) (c : Char) (rest : List Char) : Bool :=
  let n := q.digitsAfter c
  let digits := rest.take n
  q.raw || (digits.length == n && digits.all isHexDigit &&
    hexNumber (digits.map Char.toLower) ≤ 0x10ffff)

/-- Goes on behind a text whose opening quotes were read. -/
def afterText (q : Quoting) : List Char → Option (List Char)
  | [] => none
  | '\\' :: c :: rest => if q.acceptsEscape c rest then afterText q rest else none
  | [c] => if c == q.quote && !q.triple then some [] else none
  | c :: d :: rest =>
    if c == q.quote && (!q.triple || (d == q.quote && rest.head? == some q.quote)) then
      some (if q.triple then rest.drop 1 else d :: rest)
    else if (c == '\n' && !q.triple) || (q.bytes && 128 ≤ c.toNat) then none
    else afterText q (d :: rest)

/-- Reads one text, given how its letters in front describe it. -/
def text (raw bytes : Bool) : Reader Unit
  | a :: b :: c :: rest =>
    if a == b && b == c then (afterText ⟨a, true, raw, bytes⟩ rest).map ((), ·)
    else (afterText ⟨a, false, raw, bytes⟩ (b :: c :: rest)).map ((), ·)
  | a :: rest => (afterText ⟨a, false, raw, bytes⟩ rest).map ((), ·)
  | [] => none

/-- Letters in front of a text, as whether it is raw and whether it is one of bytes. -/
def textKinds : List (String × Bool × Bool) :=
  [("", false, false), ("u", false, false), ("r", true, false), ("b", false, true),
    ("br", true, true), ("rb", true, true)]

def startsText? (cs : List Char) : Option (Bool × Bool × List Char) := do
  let letters := cs.takeWhile Char.isAlpha
  let rest := cs.drop letters.length
  if !(rest.head?.elim false isQuote) then none
  let (raw, bytes) ← textKinds.lookup (toLower (String.ofList letters))
  return (raw, bytes, rest)

/-- Reads texts that follow each other; all of them are of bytes or none. -/
def texts (fuel : Nat) (inside : Bool) (before : Option Bool) (cs : List Char) : Option (List Char) :=
  match fuel with
  | 0 => none
  | fuel + 1 =>
    match startsText? (skip inside false cs) with
    | none => before.map fun _ => cs
    | some (raw, bytes, rest) =>
      if before.elim false (· != bytes) then none
      else (text raw bytes rest).bind fun ((), rest) => texts fuel inside (some bytes) rest

def isNumberPart (c : Char) : Bool := c.isAlphanum || c == '_' || c == '.'

/-- Splits a number off; the sign of an exponent belongs to it. -/
def takeNumber (cs : List Char) : List Char × List Char :=
  let (digits, rest) := cs.span isNumberPart
  match digits.getLast?, rest with
  | some e, sign :: more =>
    if (e == 'e' || e == 'E') && (sign == '+' || sign == '-') && (Number.takeBase digits).isNone then
      let (exponent, rest) := more.span isNumberPart
      (digits ++ sign :: exponent, rest)
    else (digits, rest)
  | _, _ => (digits, rest)

/-- Whether a text is a number with a point or an exponent, or digits only. -/
def isDecimalNumber (cs : List Char) : Bool :=
  cs.all (fun c => c.isDigit || c == '_' || c == '.' || c == 'e' || c == 'E' || c == '+' || c == '-') &&
    (Number.readFloat? (String.ofList cs)).isSome

def unsigned : Reader Literal := fun cs =>
  let (body, rest) := takeNumber cs
  let based := (Number.takeBase body).isSome
  let last := body.getLastD ' '
  if !based && (last == 'j' || last == 'J') then
    if isDecimalNumber body.dropLast then some (.number true, rest) else none
  else if (Number.readInt? 0 (String.ofList body)).isSome then some (.number false, rest)
  else if !based && body.any (fun c => c == '.' || c == 'e' || c == 'E') && isDecimalNumber body then
    some (.number false, rest)
  else none

mutual

def atom (fuel : Nat) (inside : Bool) (cs : List Char) : Option (Literal × List Char) :=
  match fuel with
  | 0 => none
  | fuel + 1 =>
    match cs with
    | '(' :: rest =>
      match skip true false rest with
      | ')' :: rest => some (.other true, rest)
      | rest => do
        let (first, rest) ← item fuel true rest
        match skip true false rest with
        | ')' :: rest => return (first, rest)
        | rest =>
          let (hashable, rest) ← items fuel true first.isHashable rest
          match rest with
          | ')' :: rest => return (.other hashable, rest)
          | _ => none
    | '\x7b' :: rest =>
      match skip true false rest with
      | '\x7d' :: rest => some (.other false, rest)
      | rest => do
        let (first, rest) ← item fuel true rest
        let (hashable, rest) ← match skip true false rest with
          | ':' :: _ => entries fuel first.isHashable rest
          | _ => items fuel true first.isHashable rest
        match rest with
        | '\x7d' :: rest => if hashable then return (.other false, rest) else none
        | _ => none
    | '.' :: '.' :: '.' :: rest => some (.other true, rest)
    | cs =>
      match cs.head? with
      | none => none
      | some c =>
        if c.isDigit || c == '.' then unsigned cs
        else if (startsText? cs).isSome then (texts (cs.length + 1) inside none cs).map (.other true, ·)
        else
          let (word, rest) := cs.span isWordPart
          match String.ofList word, skip inside false rest with
          | "True", _ | "False", _ | "None", _ => some (.other true, rest)
          | "set", '(' :: more =>
            match skip true false more with
            | ')' :: rest => some (.other false, rest)
            | _ => none
          | _, _ => none

def signedItem (fuel : Nat) (inside : Bool) (cs : List Char) : Option (Literal × List Char) :=
  match fuel with
  | 0 => none
  | fuel + 1 =>
    match skip inside false cs with
    | c :: rest =>
      if c == '+' || c == '-' then
        match signedItem fuel inside rest with
        | some (.number imaginary, rest) => some (.signed imaginary, rest)
        | _ => none
      else atom fuel inside (c :: rest)
    | [] => none

/-- Reads a literal; a real and an imaginary number may be added. -/
def item (fuel : Nat) (inside : Bool) (cs : List Char) : Option (Literal × List Char) :=
  match fuel with
  | 0 => none
  | fuel + 1 => do
    let (left, rest) ← signedItem fuel inside cs
    match skip inside false rest with
    | c :: more =>
      if c == '+' || c == '-' then
        match left, signedItem fuel inside more with
        | .number false, some (.number true, rest) | .signed false, some (.number true, rest) =>
          some (.other true, rest)
        | _, _ => none
      else return (left, rest)
    | [] => return (left, rest)

/-- Reads the members after the first one up to a bracket or the end; `hashable` tells of those
before. -/
def items (fuel : Nat) (inside hashable : Bool) (cs : List Char) : Option (Bool × List Char) :=
  match fuel with
  | 0 => none
  | fuel + 1 =>
    match skip inside false cs with
    | ',' :: rest =>
      match skip inside false rest with
      | [] => some (hashable, [])
      | c :: rest =>
        if c == ')' || c == '\x7d' then some (hashable, c :: rest)
        else do
          let (next, rest) ← item fuel inside (c :: rest)
          items fuel inside (hashable && next.isHashable) rest
    | rest => some (hashable, rest)

/-- Reads the value of a key that was read and the entries after it. -/
def entries (fuel : Nat) (hashable : Bool) (cs : List Char) : Option (Bool × List Char) :=
  match fuel with
  | 0 => none
  | fuel + 1 =>
    match skip true false cs with
    | ':' :: rest => do
      let (_, rest) ← item fuel true rest
      match skip true false rest with
      | ',' :: rest =>
        match skip true false rest with
        | '\x7d' :: rest => return (hashable, '\x7d' :: rest)
        | rest => do
          let (key, rest) ← item fuel true rest
          entries fuel (hashable && key.isHashable) rest
      | rest => return (hashable, rest)
    | _ => none

end

def isLiteral (cs : List Char) : Bool :=
  let fuel := 4 * cs.length + 4
  let read := do
    let (first, rest) ← item fuel false cs
    items fuel false first.isHashable rest
  match read with
  | some (_, []) => true
  | _ => false

end Literal

end Colloquy.Console
