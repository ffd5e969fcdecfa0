import Colloquy.Number.Read
import Colloquy.Text.Case
import Colloquy.Value.Iteration

/-!
# Formatted texts

Two ways to put values into a text: conversions that start with a percent sign (`%05.2f`), and
format specifications (`>8.3f`). Both share the texts of numbers and the padding.
-/

namespace Colloquy.Format

open Number Text

/-- Fixed, exponent and general notation of a finite number without its sign. -/
def finiteBody (kind : Char) (places : Nat) (alternate : Bool) (num den : Nat) : String :=
  let dotted (s : String) : String :=
    if alternate && !s.contains '.' then
      match s.toList.span (· != 'e') with
      | (m, e) => String.ofList (m ++ ['.'] ++ e)
    else s
  if kind == 'f' then dotted (fixedText num den places)
  else if kind == 'e' then dotted (scientificText num den places)
  else
    let p := if places = 0 then 1 else places
    let (_, x) := scientificParts num den (p - 1)
    let trim (s : String) : String :=
      if alternate || !s.contains '.' then s
      else String.ofList (((s.toList.reverse.dropWhile (· == '0')).dropWhile (· == '.')).reverse)
    if -4 ≤ x ∧ x < p then dotted (trim (fixedText num den ((p : Int) - 1 - x).toNat))
    else
      let s := scientificText num den (p - 1)
      let (m, e) := s.toList.span (· != 'e')
      dotted (trim (String.ofList m)) ++ String.ofList e

/-- A number in one of the notations `e`, `f` and `g`: whether it is negative, and its digits. -/
def floatBody (kind : Char) (places : Nat) (alternate : Bool) (x : Float) : Bool × String :=
  match Binary.ofFloat x with
  | .nan => (false, "nan")
  | .infinite negative => (negative, "inf")
  | .finite negative m e =>
    let (num, den) := Binary.ratio m e
    (negative, finiteBody kind places alternate num den)

/-- Digits of a natural number in a base, with capital letters if asked for. -/
def digitsIn (base n : Nat) (upper : Bool) : String :=
  let s := String.ofList (Nat.toDigits base n)
  if upper then s.toUpper else s

/-- Flags, width and precision of a percent conversion. -/
structure Conversion where
  left : Bool := false
  zero : Bool := false
  plus : Bool := false
  space : Bool := false
  alternate : Bool := false
  width : Nat := 0
  precision : Option Nat := none

/-- Fills a text with blanks up to the width. -/
def Conversion.pad (c : Conversion) (s : String) : String :=
  let fill := String.ofList (List.replicate (c.width - s.length) ' ')
  if c.left then s ++ fill else fill ++ s

/-- Sign, lead and digits of a number, filled with zeros or blanks up to the width. -/
def Conversion.padNumber (c : Conversion) (negative : Bool) (lead body : String) : String :=
  let sign := if negative then "-" else if c.plus then "+" else if c.space then " " else ""
  if c.zero && !c.left then
    sign ++ lead ++
      String.ofList (List.replicate (c.width - (sign ++ lead ++ body).length) '0') ++ body
  else c.pad (sign ++ lead ++ body)

def Conversion.withPrecision (c : Conversion) (body : String) : String :=
  String.ofList (List.replicate (c.precision.getD 0 - body.length) '0') ++ body

def asInteger : Value → Outcome Int
  | .float x =>
    match Binary.ofFloat x with
    | .nan => .error .badValue
    | .infinite _ => .error .overflow
    | .finite .. => .ok ((truncate? x).getD 0)
  | v =>
    match v.index? with
    | some n => .ok n
    | none => .error .wrongType

def asFloat (v : Value) : Outcome Float :=
  match v.numeral? with
  | some (.int n) => Numeral.toFloat n
  | some (.float x) => .ok x
  | _ => .error .wrongType

def asciiRepr (v : Value) : Outcome String := do
  return String.join ((← v.repr?).toList.map fun c =>
    if c.toNat < 128 then String.singleton c
    else if c.toNat < 0x100 then "\\x" ++ hexText 2 c.toNat
    else if c.toNat < 0x10000 then "\\u" ++ hexText 4 c.toNat
    else "\\U" ++ hexText 8 c.toNat)

def convert (c : Conversion) (kind : Char) (v : Value) : Outcome String :=
  let cut (s : String) : String := match c.precision with
    | some n => (s.take n).toString
    | none => s
  if kind == 's' then do return c.pad (cut (← v.toText?))
  else if kind == 'r' then do return c.pad (cut (← v.repr?))
  else if kind == 'a' then do return c.pad (cut (← asciiRepr v))
  else if kind == 'c' then
    match v with
    | .str s => if s.length = 1 then .ok (c.pad s) else .error .wrongType
    | _ =>
      match v.index? with
      | some n => if 0 ≤ n ∧ n < 0x110000 then .ok (c.pad (String.singleton (Char.ofNat n.toNat)))
        else .error .overflow
      | none => .error .wrongType
  else if kind == 'd' || kind == 'i' || kind == 'u' then do
    let n ← asInteger v
    if Value.tooLong n then .error .badValue
    return c.padNumber (n < 0) "" (c.withPrecision (String.ofList (digits n.natAbs)))
  else if kind == 'x' || kind == 'X' || kind == 'o' then
    match v.index? with
    | some n =>
      let base := if kind == 'o' then 8 else 16
      let lead := if !c.alternate then "" else if kind == 'o' then "0o" else if kind == 'x' then "0x" else "0X"
      .ok (c.padNumber (n < 0) lead (c.withPrecision (digitsIn base n.natAbs (kind == 'X'))))
    | none => .error .wrongType
  else do
    let x ← asFloat v
    let (negative, body) := floatBody kind.toLower (c.precision.getD 6) c.alternate x
    let body := if kind.isUpper then body.toUpper else body
    let c := if isFinite x then c else { c with zero := false }
    return c.padNumber negative "" body

/-- Where the values of a percent format come from. -/
structure Source where
  whole : Value
  rest : List Value
  keyed : Bool

def Source.next (s : Source) : Outcome (Value × Source) :=
  match s.rest with
  | v :: rest => .ok (v, { s with rest })
  | [] => .error .wrongType

def takeFlags (c : Conversion) : List Char → Conversion × List Char
  | '-' :: cs => takeFlags { c with left := true } cs
  | '0' :: cs => takeFlags { c with zero := true } cs
  | '+' :: cs => takeFlags { c with plus := true } cs
  | ' ' :: cs => takeFlags { c with space := true } cs
  | '#' :: cs => takeFlags { c with alternate := true } cs
  | cs => (c, cs)

/-- Reads a natural number, which may be missing. -/
def takeNat (cs : List Char) : Option Nat × List Char :=
  match cs.span Char.isDigit with
  | ([], rest) => (none, rest)
  | (ds, rest) => (some (ds.foldl (fun n d => 10 * n + (d.toNat - '0'.toNat)) 0), rest)

/-- Key in parentheses after a percent sign; parentheses may nest. -/
def takeKey (depth : Nat) (key : List Char) : List Char → Option (String × List Char)
  | [] => none
  | ')' :: cs =>
    match depth with
    | 0 => some (String.ofList key.reverse, cs)
    | depth + 1 => takeKey depth (')' :: key) cs
  | '(' :: cs => takeKey (depth + 1) ('(' :: key) cs
  | c :: cs => takeKey depth (c :: key) cs

/-- Value that a star in a conversion stands for. -/
def starred (s : Source) : Outcome (Int × Source) := do
  let (v, s) ← s.next
  match v.index? with
  | some n => return (n, s)
  | none => .error .wrongType

/-- Reads width and precision after the flags. -/
def takeSizes (c : Conversion) (s : Source) (cs : List Char) : Outcome (Conversion × Source × List Char) := do
  let (c, s, cs) ← match cs with
    | '*' :: rest => do
      let (n, s) ← starred s
      pure ({ c with width := n.natAbs, left := c.left || n < 0 }, s, rest)
    | _ => let (w, rest) := takeNat cs
           pure ({ c with width := w.getD 0 }, s, rest)
  match cs with
  | '.' :: '*' :: rest => do
    let (n, s) ← starred s
    return ({ c with precision := some n.toNat }, s, rest)
  | '.' :: rest =>
    let (p, rest) := takeNat rest
    return ({ c with precision := some (p.getD 0) }, s, rest)
  | _ => return (c, s, cs)

/-- Fills the conversions of a text; `fuel` bounds the number of characters. -/
def fill (fuel : Nat) (s : Source) (safe : Bool) (out : String) (cs : List Char) : Outcome (String × Source) :=
  match fuel with
  | 0 => .ok (out, s)
  | fuel + 1 =>
    match cs with
    | [] => .ok (out, s)
    | '%' :: '%' :: rest => fill fuel s safe (out ++ "%") rest
    | '%' :: rest => do
      let (s, key, rest) ← match rest with
        | '(' :: more =>
          if !s.keyed then .error .wrongType
          else match takeKey 0 [] more with
            | some (key, more) => do
              let v ← s.whole.subscript (.str key)
              pure ({ s with rest := [v] }, true, more)
            | none => .error .badValue
        | _ => pure (s, false, rest)
      let (c, rest) := takeFlags {} rest
      let (c, s, rest) ← takeSizes c s rest
      let rest := rest.dropWhile fun x => x == 'h' || x == 'l' || x == 'L'
      match rest with
      | [] => .error .badValue
      | kind :: rest =>
        let (v, s) ← s.next
        if "diouxXeEfFgGcrsa".contains kind then
          let piece ← convert c kind v
          let piece := if safe then
              match v with
              | .markup _ => piece
              | _ => if kind == 's' || kind == 'r' || kind == 'a' then escapeMarkup piece else piece
            else piece
          let s := if key then { s with rest := [] } else s
          fill fuel s safe (out ++ piece) rest
        else .error .badValue
    | c :: rest => fill fuel s safe (out.push c) rest

def percent (text : String) (args : Value) (safe : Bool) : Outcome String := do
  let source : Source := match args with
    | .tuple items => ⟨args, items, false⟩
    | .dict .. => ⟨args, [args], true⟩
    | .list .. => ⟨args, [args], true⟩
    | _ => ⟨args, [args], false⟩
  let (out, source) ← fill (text.length + 1) source safe "" text.toList
  if !source.keyed && !source.rest.isEmpty then .error .wrongType
  return out

structure Spec where
  fill : Char := ' '
  align : Char
  sign : Option Char := none
  /-- Whether a zero never has a minus sign. -/
  plainZero : Bool := false
  alternate : Bool := false
  width : Nat := 0
  mark : Option Char := none
  precision : Option Nat := none
  kind : Option Char := none

/-- Whether a character tells where a text stands in its width. -/
def isAlignment (c : Char) : Bool := c == '<' || c == '>' || c == '=' || c == '^'

/-- Fill character and alignment at the start of a specification, as far as they are given. -/
def takeAlignment : List Char → Option Char × Option Char × List Char
  | f :: a :: rest =>
    if isAlignment a then (some f, some a, rest)
    else if isAlignment f then (none, some f, a :: rest)
    else (none, none, f :: a :: rest)
  | [a] => if isAlignment a then (none, some a, []) else (none, none, [a])
  | [] => (none, none, [])

/-- Splits off a character if it is one of those that are asked for. -/
def takeOne (p : Char → Bool) : List Char → Option Char × List Char
  | c :: rest => if p c then (some c, rest) else (none, c :: rest)
  | [] => (none, [])

/-- Reads a number in digits of any script. -/
def takeCount (cs : List Char) : Option Nat × List Char :=
  match cs.span isDecimal with
  | ([], rest) => (none, rest)
  | (ds, rest) => (some (ds.foldl (fun n d => 10 * n + (decimalValue? d).getD 0) 0), rest)

def allowsMark (kind : Option Char) (mark : Char) : Bool :=
  match kind with
  | none => true
  | some k => "defgEFG%".contains k || (mark == '_' && "boxX".contains k)

/-- Reads a format specification for values that are aligned by default as given. A leading zero
fills with zeros, between sign and digits if numbers are aligned to the right. -/
def readSpec? (align : Char) (text : String) : Option Spec := do
  let (given, aligned, cs) := takeAlignment text.toList
  let (sign, cs) := takeOne (fun c => c == '+' || c == '-' || c == ' ') cs
  let (plainZero, cs) := takeOne (· == 'z') cs
  let (alternate, cs) := takeOne (· == '#') cs
  let (zero, cs) := takeOne (fun c => c == '0' && given.isNone) cs
  let (width, cs) := takeCount cs
  let (mark, cs) := takeOne (fun c => c == ',' || c == '_') cs
  let (point, cs) := takeOne (· == '.') cs
  let (precision, cs) := if point.isSome then takeCount cs else (none, cs)
  if point.isSome && precision.isNone then none
  let kind ← match cs with
    | [] => some none
    | [k] => some (some k)
    | _ => none
  if mark.elim false (!allowsMark kind ·) then none
  return {
    fill := given.getD (if zero.isSome then '0' else ' ')
    align := aligned.getD (if zero.isSome && align == '>' then '=' else align)
    sign, mark, precision, kind
    plainZero := plainZero.isSome
    alternate := alternate.isSome
    width := width.getD 0 }

/-- Aligns a text in the width of a specification. -/
def Spec.place (spec : Spec) (sign body : String) : String :=
  let missing := spec.width - (sign ++ body).length
  let fill (n : Nat) : String := String.ofList (List.replicate n spec.fill)
  match spec.align with
  | '<' => sign ++ body ++ fill missing
  | '^' => fill (missing / 2) ++ sign ++ body ++ fill (missing - missing / 2)
  | '=' => sign ++ fill missing ++ body
  | _ => fill missing ++ sign ++ body

def Spec.signText (spec : Spec) (negative : Bool) : String :=
  if negative then "-"
  else match spec.sign with
    | some '+' => "+"
    | some ' ' => " "
    | _ => ""

/-- Groups of digits from the right, filled with zeros up to a width; digits and result are in
reverse order. -/
def groupsUpTo (size : Nat) (mark : Char) (fuel : Nat) (width : Int) (ds : List Char) : List Char :=
  match fuel with
  | 0 => ds
  | fuel + 1 =>
    let len := (min (size : Int) (max (max (ds.length : Int) width) 1)).toNat
    let group := ds.take len ++ List.replicate (len - ds.length) '0'
    let rest := ds.drop len
    let width := width - len
    if rest.isEmpty && width ≤ 0 then group else group ++ mark :: groupsUpTo size mark fuel (width - 1) rest

/-- Sign, digits before the point and the rest of a number, grouped and aligned. Zeros that fill up
the width are grouped too. -/
def Spec.placeNumber (spec : Spec) (size : Nat) (sign : String) (ds : List Char) (rest : String) : String :=
  match spec.mark with
  | none => spec.place sign (String.ofList ds ++ rest)
  | some mark =>
    if ds.isEmpty then spec.place sign rest
    else
      let width : Int :=
        if spec.fill == '0' && spec.align == '=' then (spec.width : Int) - (sign ++ rest).length else 0
      let ds := (groupsUpTo size mark (ds.length + spec.width + 1) width ds.reverse).reverse
      spec.place sign (String.ofList ds ++ rest)

/-- A number with a precision and no kind: as few digits as possible, and at least one after the
point. -/
def preciseBody (places : Nat) (alternate : Bool) (x : Float) : Bool × String :=
  match Binary.ofFloat x with
  | .finite negative m e =>
    let (num, den) := Binary.ratio m e
    let p := if places = 0 then 1 else places
    let (_, exponent) := scientificParts num den (p - 1)
    if -4 ≤ exponent ∧ exponent < (p : Int) - 1 then
      let body := finiteBody 'g' p alternate num den
      (negative, if body.contains '.' then body else body ++ ".0")
    else
      let (mantissa, power) := (scientificText num den (p - 1)).toList.span (· != 'e')
      let trimmed := if alternate || !mantissa.contains '.' then mantissa
        else ((mantissa.reverse.dropWhile (· == '0')).dropWhile (· == '.')).reverse
      let pointed := if alternate && !trimmed.contains '.' then trimmed ++ ['.'] else trimmed
      (negative, String.ofList (pointed ++ power))
  | _ => floatBody 'g' places alternate x

/-- The shortest text of a number that reads back; the alternate form always has a point. -/
def shortestBody (alternate : Bool) (x : Float) : Bool × String :=
  let body := floatText x.abs
  let (mantissa, power) := body.toList.span (· != 'e')
  (isNegative x && !x.isNaN,
    if alternate && isFinite x && !mantissa.contains '.' then String.ofList (mantissa ++ '.' :: power)
    else body)

/-- Text of a floating point number under a specification. -/
def formatFloat (spec : Spec) (x : Float) : Outcome String := do
  let places := spec.precision.getD 6
  let (negative, body) ← match spec.kind, spec.precision with
    | none, none => pure (shortestBody spec.alternate x)
    | none, some p => pure (preciseBody p spec.alternate x)
    | some '%', _ =>
      let (negative, body) := floatBody 'f' places spec.alternate (x * 100.0)
      pure (negative, body ++ "%")
    | some k, _ =>
      if "eEfFgGn".contains k then
        let (negative, body) := floatBody (if k == 'n' then 'g' else k.toLower) places spec.alternate x
        pure (negative, if k.isUpper then body.toUpper else body)
      else .error .badValue
  let isZero := !((body.toList.takeWhile fun c => c != 'e' && c != 'E').any fun c => c != '0' && c != '.' && c != '%')
  let negative := negative && !(spec.plainZero && isZero)
  let (ds, rest) := body.toList.span Char.isDigit
  return spec.placeNumber 3 (spec.signText negative) ds (String.ofList rest)

def formatInt (spec : Spec) (n : Int) : Outcome String :=
  let k := spec.kind.getD 'd'
  if "eEfFgG%".contains k then do formatFloat spec (← Numeral.toFloat n)
  else if spec.precision.isSome || spec.plainZero then .error .badValue
  else if k == 'c' then
    if spec.sign.isSome || spec.alternate then .error .badValue
    else if 0 ≤ n ∧ n < 0x110000 then .ok (spec.place "" (String.singleton (Char.ofNat n.toNat)))
    else .error .overflow
  else
    let sign := spec.signText (n < 0)
    if k == 'd' || k == 'n' then
      if Value.tooLong n then .error .badValue else .ok (spec.placeNumber 3 sign (digits n.natAbs) "")
    else if k == 'x' || k == 'X' || k == 'o' || k == 'b' then
      let base := if k == 'o' then 8 else if k == 'b' then 2 else 16
      let lead := if spec.alternate then String.ofList ['0', k] else ""
      .ok (spec.placeNumber 4 (sign ++ lead) (digitsIn base n.natAbs (k == 'X')).toList "")
    else .error .badValue

def formatText (spec : Spec) (s : String) : Outcome String :=
  if spec.kind.isSome && spec.kind != some 's' then .error .badValue
  else if spec.sign.isSome || spec.plainZero || spec.alternate || spec.mark.isSome || spec.align == '=' then
    .error .badValue
  else
    let s := match spec.precision with
      | some p => (s.take p).toString
      | none => s
    .ok (spec.place "" s)

def formatValue (v : Value) (spec : String) : Outcome String :=
  if spec.isEmpty then v.toText?
  else
    match v with
    | .str s | .markup s =>
      match readSpec? '<' spec with
      | some sp => formatText sp s
      | none => .error .badValue
    | .float x =>
      match readSpec? '>' spec with
      | some sp => formatFloat sp x
      | none => .error .badValue
    | _ =>
      match v.index? with
      | some n =>
        match readSpec? '>' spec with
        | some sp => formatInt sp n
        | none => .error .badValue
      | none => .error .wrongType

end Colloquy.Format
