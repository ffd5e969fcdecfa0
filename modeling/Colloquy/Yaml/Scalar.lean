import Colloquy.Number.Read
import Colloquy.Yaml.Token

/-!
# Tags of plain scalars

A scalar without quotes and without a tag gets its tag from its text: truth values, integers with
binary, octal, hexadecimal and base sixty notation, floating point numbers, points in time, the
missing value, and the marks of merged and default entries. Anything else is a text. A line break at
the end of the text does not count.
-/

namespace Colloquy.Yaml

def standardTag (kind : String) : String := "tag:yaml.org,2002:" ++ kind

namespace Scalar

def truthWords : List String :=
  ["yes", "Yes", "YES", "no", "No", "NO", "true", "True", "TRUE", "false", "False", "FALSE",
    "on", "On", "ON", "off", "Off", "OFF"]

def missingWords : List String := ["~", "null", "Null", "NULL"]

def isSpacedDigit (c : Char) : Bool := c.isDigit || c == '_'

/-- Whether a text is a digit, then digits and underscores. -/
def isSpacedNumber (isFirst : Char → Bool) : List Char → Bool
  | c :: cs => isFirst c && cs.all isSpacedDigit
  | [] => false

/-- Whether a text is a number below sixty. -/
def isSixtieth : List Char → Bool
  | [c] => c.isDigit
  | [b, c] => '0' ≤ b && b ≤ '5' && c.isDigit
  | _ => false

/-- Whether a text is a number in base sixty. -/
def isSexagesimal (isFirst : Char → Bool) (cs : List Char) : Bool :=
  match Text.splitWhen (· == ':') cs with
  | first :: second :: rest => isSpacedNumber isFirst first && (second :: rest).all isSixtieth
  | _ => false

/-- Whether a text is not empty and made of characters of a class. -/
def isWord (isPart : Char → Bool) (cs : List Char) : Bool := !cs.isEmpty && cs.all isPart

def unsigned (cs : List Char) : List Char :=
  match cs with
  | '+' :: rest | '-' :: rest => rest
  | _ => cs

def isPositiveDigit (c : Char) : Bool := '1' ≤ c && c ≤ '9'

def isInteger (cs : List Char) : Bool :=
  let body := unsigned cs
  (match body with
    | '0' :: 'b' :: ds => isWord (fun c => c == '0' || c == '1' || c == '_') ds
    | '0' :: 'x' :: ds => isWord (fun c => Text.isHexDigit c || c == '_') ds
    | ['0'] => true
    | '0' :: ds => isWord (fun c => ('0' ≤ c && c ≤ '7') || c == '_') ds
    | _ => false) ||
    isSpacedNumber isPositiveDigit body || isSexagesimal isPositiveDigit body

def isExponent : List Char → Bool
  | [] => true
  | e :: sign :: ds => (e == 'e' || e == 'E') && (sign == '+' || sign == '-') && isWord Char.isDigit ds
  | _ => false

def isFloating (cs : List Char) : Bool :=
  let body := unsigned cs
  let (whole, rest) := body.span (· != '.')
  let hasFraction : Bool := match rest with
    | '.' :: fraction =>
      let (_, exponent) := fraction.span isSpacedDigit
      (isSpacedNumber Char.isDigit whole && isExponent exponent) ||
        (isSexagesimal Char.isDigit whole && exponent.isEmpty)
    | _ => false
  let isFraction : Bool := match cs with
    | '.' :: d :: fraction => d.isDigit && isExponent (fraction.dropWhile isSpacedDigit)
    | _ => false
  hasFraction || isFraction ||
    [".inf", ".Inf", ".INF"].contains (String.ofList body) ||
    [".nan", ".NaN", ".NAN"].contains (String.ofList cs)

/-- Parts of a point in time as they are written. -/
structure MomentText where
  year : List Char
  month : List Char
  day : List Char
  /-- Hour, minute, second and fraction. -/
  clock : Option (List Char × List Char × List Char × List Char) := none
  /-- Whether the zone is east of the meridian, with its hours and minutes. -/
  zone : Option (Bool × List Char × List Char) := none

def takeDigits (least most : Nat) (cs : List Char) : Option (List Char × List Char) :=
  let ds := (cs.take most).takeWhile Char.isDigit
  if ds.length < least then none else some (ds, cs.drop ds.length)

def after (c : Char) : List Char → Option (List Char)
  | d :: cs => if d == c then some cs else none
  | [] => none

def isGap (c : Char) : Bool := c == ' ' || c == '\t'

def zone? (cs : List Char) : Option (Option (Bool × List Char × List Char)) :=
  match cs.dropWhile isGap with
  | [] => if cs.isEmpty then some none else none
  | ['Z'] => some (some (true, [], []))
  | sign :: rest => do
    if sign != '+' && sign != '-' then none
    let (hours, rest) ← takeDigits 1 2 rest
    match rest with
    | [] => return some (sign == '+', hours, [])
    | ':' :: rest =>
      let (minutes, rest) ← takeDigits 2 2 rest
      if rest.isEmpty then return some (sign == '+', hours, minutes) else none
    | _ => none

def moment? (cs : List Char) : Option MomentText := do
  let (year, rest) ← takeDigits 4 4 cs
  let (month, rest) ← takeDigits 1 2 (← after '-' rest)
  let (day, rest) ← takeDigits 1 2 (← after '-' rest)
  match rest with
  | [] => return { year, month, day }
  | c :: more =>
    let rest ← if c == 'T' || c == 't' then some more
      else if isGap c then some (more.dropWhile isGap) else none
    let (hour, rest) ← takeDigits 1 2 rest
    let (minute, rest) ← takeDigits 2 2 (← after ':' rest)
    let (second, rest) ← takeDigits 2 2 (← after ':' rest)
    let (fraction, rest) := match rest with
      | '.' :: rest => (rest.takeWhile Char.isDigit, rest.dropWhile Char.isDigit)
      | _ => ([], rest)
    return { year, month, day, clock := some (hour, minute, second, fraction), zone := ← zone? rest }

def isMoment (cs : List Char) : Bool :=
  match moment? cs with
  | some m => m.clock.isSome || (m.month.length == 2 && m.day.length == 2)
  | none => false

def withoutBreak (cs : List Char) : List Char :=
  if cs.getLast? == some '\n' then cs.dropLast else cs

def kind (text : String) : String :=
  let cs := withoutBreak text.toList
  let word := String.ofList cs
  if text.isEmpty then "null"
  else if truthWords.contains word then "bool"
  else if isFloating cs then "float"
  else if isInteger cs then "int"
  else if cs == ['<', '<'] then "merge"
  else if missingWords.contains word then "null"
  else if isMoment cs then "timestamp"
  else if cs == ['='] then "value"
  else if cs == ['!'] || cs == ['&'] || cs == ['*'] then "yaml"
  else "str"

end Scalar

end Colloquy.Yaml
