import Colloquy.Fault
import Colloquy.Number.Read
import Colloquy.Text.Quoted

/-!
# Tokens of templates

A template is text with tags in it: `\x7b\x7b … \x7d\x7d` shows a value, `\x7b% … %\x7d` holds a statement and
`\x7b# … #\x7d` a comment. A minus sign next to a delimiter removes the blanks on that side, and what stands
between `raw` and `endraw` is plain text. Line ends are written as one character, and one line end
at the end of a template is dropped.
-/

namespace Colloquy.Template

open Text Number

inductive Token where
  | data (text : String)
  | openOutput
  | closeOutput
  | openTag
  | closeTag
  | name (text : String)
  | int (n : Int)
  | float (x : Float)
  | text (s : String)
  | mark (s : String)
deriving Inhabited

namespace Token

def isName (t : Token) (word : String) : Bool :=
  match t with
  | .name s => s == word
  | _ => false

def isMark (t : Token) (word : String) : Bool :=
  match t with
  | .mark s => s == word
  | _ => false

end Token

/-- Writes every line end as a single line feed. -/
def joinLines : List Char → List Char
  | [] => []
  | '\r' :: '\n' :: cs => '\n' :: joinLines cs
  | '\r' :: cs => '\n' :: joinLines cs
  | c :: cs => c :: joinLines cs

/-- The text of a template with plain line ends and without the last one. -/
def sourceChars (text : String) : List Char :=
  let cs := joinLines text.toList
  if cs.getLast? == some '\n' then cs.dropLast else cs

def dropLastBlanks (cs : List Char) : List Char := (cs.reverse.dropWhile isBlank).reverse

def after? (lead cs : List Char) : Option (List Char) :=
  if lead.isPrefixOf cs then some (cs.drop lead.length) else none

def startsTag : List Char → Bool
  | '\x7b' :: c :: _ => c == '\x7b' || c == '%' || c == '#'
  | _ => false

/-- Plain text up to the next tag, and the rest. -/
def takeData : List Char → List Char × List Char
  | [] => ([], [])
  | c :: cs =>
    if startsTag (c :: cs) then ([], c :: cs)
    else
      let (data, rest) := takeData cs
      (c :: data, rest)

/-- A sign after an opening delimiter: whether it removes blanks, and the rest. -/
def takeControl : List Char → Bool × List Char
  | '-' :: cs => (true, cs)
  | '+' :: cs => (false, cs)
  | cs => (false, cs)

def tagEnd? (cs : List Char) : Option (List Char) :=
  match cs with
  | '-' :: '%' :: '\x7d' :: rest => some (rest.dropWhile isBlank)
  | '+' :: '%' :: '\x7d' :: rest => some rest
  | '%' :: '\x7d' :: rest => some rest
  | _ => none

def outputEnd? (cs : List Char) : Option (List Char) :=
  match cs with
  | '-' :: '\x7d' :: '\x7d' :: rest => some (rest.dropWhile isBlank)
  | '\x7d' :: '\x7d' :: rest => some rest
  | _ => none

def commentEnd? : List Char → Option (List Char)
  | [] => none
  | '-' :: '#' :: '\x7d' :: rest => some (rest.dropWhile isBlank)
  | '+' :: '#' :: '\x7d' :: rest => some rest
  | '#' :: '\x7d' :: rest => some rest
  | _ :: cs => commentEnd? cs

/-- A tag with a single word: whether its sign removes the blanks before it, and the rest. -/
def wordTag? (word : String) (allowPlus : Bool) (cs : List Char) : Option (Bool × List Char) := do
  let rest ← after? ['\x7b', '%'] cs
  let (strips, rest) := takeControl rest
  let rest ← after? word.toList (rest.dropWhile isBlank)
  let rest := rest.dropWhile isBlank
  if !allowPlus && rest.head? == some '+' then none
  let rest ← tagEnd? rest
  return (strips, rest)

/-- Plain text up to the end of a raw section, and the rest after it. -/
def takeRaw : List Char → Option (List Char × List Char)
  | [] => none
  | c :: cs =>
    match wordTag? "endraw" true (c :: cs) with
    | some (_, rest) => some ([], rest)
    | none => (takeRaw cs).map fun (data, rest) => (c :: data, rest)

/-- Whether the tag that ends a raw section removes the blanks before it. -/
def rawStrips : List Char → Bool
  | [] => false
  | c :: cs =>
    match wordTag? "endraw" true (c :: cs) with
    | some (strips, _) => strips
    | none => rawStrips cs

def takeDigitRun (cs : List Char) : List Char × List Char :=
  let rec go (taken : List Char) : List Char → List Char × List Char
    | [] => (taken.reverse, [])
    | c :: rest =>
      if isDecimal c then go (c :: taken) rest
      else
        match c, rest with
        | '_', d :: _ =>
          if !taken.isEmpty && isDecimal d then go (c :: taken) rest else (taken.reverse, c :: rest)
        | _, _ => (taken.reverse, c :: rest)
  go [] cs

def takeExponent (cs : List Char) : Option (List Char × List Char) :=
  match cs with
  | c :: rest =>
    if c == 'e' || c == 'E' then
      let (sign, rest) := match rest with
        | '+' :: r => (['+'], r)
        | '-' :: r => (['-'], r)
        | r => ([], r)
      match takeDigitRun rest with
      | ([], _) => none
      | (ds, rest) => some (c :: sign ++ ds, rest)
    else none
  | [] => none

def takeFloat (cs : List Char) : Option (List Char × List Char) :=
  match takeDigitRun cs with
  | ([], _) => none
  | (whole, rest) =>
    match rest with
    | '.' :: more =>
      match takeDigitRun more with
      | ([], _) => none
      | (fraction, rest) =>
        let digits := whole ++ '.' :: fraction
        match takeExponent rest with
        | some (e, rest) => some (digits ++ e, rest)
        | none => some (digits, rest)
    | rest => (takeExponent rest).map fun (e, rest) => (whole ++ e, rest)

/-- Digits of a class, each after an underscore at most. -/
def takeMarked (p : Char → Bool) : List Char → List Char × List Char
  | '_' :: c :: cs =>
    if p c then
      let (ds, rest) := takeMarked p cs
      (c :: ds, rest)
    else ([], '_' :: c :: cs)
  | c :: cs =>
    if p c then
      let (ds, rest) := takeMarked p cs
      (c :: ds, rest)
    else ([], c :: cs)
  | [] => ([], [])

def takeInteger (cs : List Char) : Option (List Char × List Char) :=
  let based : Option (List Char × List Char) :=
    match cs with
    | '0' :: b :: rest =>
      let digit? : Option (Char → Bool) :=
        if b == 'b' || b == 'B' then some fun c => c == '0' || c == '1'
        else if b == 'o' || b == 'O' then some fun c => '0' ≤ c && c ≤ '7'
        else if b == 'x' || b == 'X' then some fun c => ((digitValue? c).getD 36) < 16
        else none
      match digit? with
      | some p =>
        match takeMarked p rest with
        | ([], _) => none
        | (ds, rest) => some ('0' :: b :: ds, rest)
      | none => none
    | _ => none
  match based with
  | some r => some r
  | none =>
    match cs with
    | '0' :: rest =>
      let (zeros, rest) := takeMarked (· == '0') rest
      some ('0' :: zeros, rest)
    | c :: rest =>
      if '1' ≤ c && c ≤ '9' then
        let (ds, rest) := takeMarked isDecimal rest
        some (c :: ds, rest)
      else none
    | [] => none

/-- A quoted text without its quotes, escapes left as they are, and the rest. -/
def takeQuoted (quote : Char) : List Char → Option (List Char × List Char)
  | [] => none
  | '\\' :: c :: cs => (takeQuoted quote cs).map fun (s, rest) => ('\\' :: c :: s, rest)
  | c :: cs =>
    if c == quote then some ([], cs)
    else if c == '\\' then none
    else (takeQuoted quote cs).map fun (s, rest) => (c :: s, rest)

/-- Writes characters outside ASCII as escapes. -/
def escapeWide (cs : List Char) : List Char :=
  cs.flatMap fun c =>
    let n := c.toNat
    if n < 0x80 then [c]
    else if n < 0x100 then '\\' :: 'x' :: (hexText 2 n).toList
    else if n < 0x10000 then '\\' :: 'u' :: (hexText 4 n).toList
    else '\\' :: 'U' :: (hexText 8 n).toList

/-- The character with a code of `count` hexadecimal digits, and the rest. -/
def takeHex (count : Nat) (cs : List Char) : Option (Char × List Char) :=
  let ds := cs.take count
  if ds.length = count && ds.all (fun c => ((digitValue? c).getD 36) < 16) then
    let n := hexNumber (ds.map Char.toLower)
    if n < 0x110000 then
      some (if 0xD800 ≤ n && n < 0xE000 then Char.ofNat 0xFFFD else Char.ofNat n, cs.drop count)
    else none
  else none

def simpleEscape? (c : Char) : Option Char :=
  match c with
  | 'n' => some '\n'
  | 't' => some '\t'
  | 'r' => some '\r'
  | 'a' => some (Char.ofNat 7)
  | 'b' => some (Char.ofNat 8)
  | 'f' => some (Char.ofNat 12)
  | 'v' => some (Char.ofNat 11)
  | '\\' => some '\\'
  | '"' => some '"'
  | c => if c.toNat == 0x27 then some c else none

def unescape (fuel : Nat) (cs : List Char) : Option (List Char) :=
  match fuel with
  | 0 => some []
  | fuel + 1 =>
    match cs with
    | [] => some []
    | '\\' :: c :: rest =>
      match simpleEscape? c with
      | some d => (unescape fuel rest).map (d :: ·)
      | none =>
        if c == '\n' then unescape fuel rest
        else if '0' ≤ c && c ≤ '7' then
          let ds := (c :: rest.take 2).takeWhile fun d => '0' ≤ d && d ≤ '7'
          let n := ds.foldl (fun n d => 8 * n + (d.toNat - '0'.toNat)) 0
          (unescape fuel ((c :: rest).drop ds.length)).map (Char.ofNat n :: ·)
        else if c == 'x' || c == 'u' || c == 'U' then
          match takeHex (if c == 'x' then 2 else if c == 'u' then 4 else 8) rest with
          | some (d, rest) => (unescape fuel rest).map (d :: ·)
          | none => none
        else if c == 'N' then none
        else (unescape fuel rest).map ('\\' :: c :: ·)
    | c :: rest => (unescape fuel rest).map (c :: ·)

def textOf (raw : List Char) : Except Fault String :=
  let cs := escapeWide raw
  match unescape (cs.length + 1) cs with
  | some s => .ok (String.ofList s)
  | none => .error .malformedTemplate

def marks : List String :=
  ["//", "**", "==", "!=", ">=", "<=", "+", "-", "/", "*", "%", "~", "[", "]", "(", ")", "\x7b", "\x7d",
    ">", "<", "=", ".", ":", "|", ",", ";"]

def closing? : String → Option String
  | "(" => some ")"
  | "[" => some "]"
  | "\x7b" => some "\x7d"
  | _ => none

def track (stack : List String) (mark : String) : Except Fault (List String) :=
  match closing? mark with
  | some c => .ok (c :: stack)
  | none =>
    if mark == ")" || mark == "]" || mark == "\x7d" then
      match stack with
      | c :: rest => if c == mark then .ok rest else .error .malformedTemplate
      | [] => .error .malformedTemplate
    else .ok stack

/-- One token of an expression and the rest; `afterDot` tells whether a dot stands right before. -/
def takeToken (afterDot : Bool) (cs : List Char) : Except Fault (Token × List Char) :=
  let number? := if afterDot then none else takeFloat cs
  match number? with
  | some (ds, rest) =>
    let plain := ds.filter (· != '_')
    if plain.all (·.toNat < 128) then
      match readFloat? (String.ofList plain) with
      | some x => .ok (.float x, rest)
      | none => .error .malformedTemplate
    else .error .malformedCall
  | none =>
    match takeInteger cs with
    | some (ds, rest) =>
      match readInt? 0 (String.ofList ds) with
      | some n => .ok (.int n, rest)
      | none => .error .badValue
    | none =>
      let isPart (c : Char) : Bool := isWordPart c || continuesIdentifier c
      match cs.takeWhile isPart with
      | [] =>
        match cs with
        | [] => .error .malformedTemplate
        | c :: rest =>
          if c == '"' || c.toNat == 0x27 then
            match takeQuoted c rest with
            | some (raw, rest) => do return (.text (← textOf raw), rest)
            | none => .error .malformedTemplate
          else
            match marks.find? fun m => m.toList.isPrefixOf cs with
            | some m => .ok (.mark m, cs.drop m.length)
            | none => .error .malformedTemplate
      | word =>
        let s := String.ofList word
        if isIdentifier s then .ok (.name s, cs.drop word.length) else .error .malformedTemplate

def takeExpression (fuel : Nat) (end? : List Char → Option (List Char)) (close : Token)
    (stack : List String) (afterDot : Bool) (cs : List Char) : Except Fault (List Token × List Char) :=
  match fuel with
  | 0 => .error .outOfFuel
  | fuel + 1 =>
    match cs with
    | [] => .ok ([], [])
    | c :: _ =>
      match (if stack.isEmpty then end? cs else none) with
      | some rest => .ok ([close], rest)
      | none =>
        if isBlank c then takeExpression fuel end? close stack false (cs.dropWhile isBlank)
        else do
          let (token, rest) ← takeToken afterDot cs
          let stack ← match token with
            | .mark m => track stack m
            | _ => pure stack
          let (tokens, rest) ← takeExpression fuel end? close stack (token.isMark ".") rest
          return (token :: tokens, rest)

/-- A token for plain text, unless it is empty. -/
def dataToken (strips : Bool) (cs : List Char) : List Token :=
  let cs := if strips then dropLastBlanks cs else cs
  if cs.isEmpty then [] else [.data (String.ofList cs)]

def scan (fuel : Nat) (cs : List Char) : Except Fault (List Token) :=
  match fuel with
  | 0 => .error .outOfFuel
  | fuel + 1 =>
    let (data, rest) := takeData cs
    if rest.isEmpty then .ok (dataToken false data)
    else
      match wordTag? "raw" false rest with
      | some (strips, body) =>
        match takeRaw body with
        | none => .error .malformedTemplate
        | some (raw, rest) => do
          return dataToken strips data ++ dataToken (rawStrips body) raw ++ (← scan fuel rest)
      | none =>
        let kind := rest.getD 1 ' '
        let (strips, body) := takeControl (rest.drop 2)
        if kind == '#' then
          match commentEnd? body with
          | none => .error .malformedTemplate
          | some rest => do return dataToken strips data ++ (← scan fuel rest)
        else do
          let output := kind == '\x7b'
          let (tokens, rest) ← takeExpression (body.length + 1)
            (if output then outputEnd? else tagEnd?) (if output then .closeOutput else .closeTag) [] false body
          return dataToken strips data ++ [if output then .openOutput else .openTag] ++ tokens ++
            (← scan fuel rest)

def tokens (text : String) : Except Fault (List Token) :=
  let cs := sourceChars text
  scan (cs.length + 1) cs

end Colloquy.Template
