import Colloquy.Value.Sort
import Colloquy.Value.Text

/-!
# JSON text of values

Values written as JSON: characters outside ASCII are escaped, tuples are written like lists, and a
key that is no text is written as the text of its value.
-/

namespace Colloquy.Json

open Number Text

/-- How JSON is laid out: on one line, or with one line for each element. -/
structure Layout where
  indent : Option String := none
  sortKeys : Bool := false

/-- Escapes of one character inside a text. -/
def escapeChar (c : Char) : String :=
  if c == '"' then "\\\""
  else if c == '\\' then "\\\\"
  else if c == '\n' then "\\n"
  else if c == '\r' then "\\r"
  else if c == '\t' then "\\t"
  else if c.toNat == 8 then "\\b"
  else if c.toNat == 12 then "\\f"
  else if 32 ≤ c.toNat && c.toNat < 127 then String.singleton c
  else if c.toNat < 0x10000 then "\\u" ++ hexText 4 c.toNat
  else
    let n := c.toNat - 0x10000
    "\\u" ++ hexText 4 (0xD800 + n / 0x400) ++ "\\u" ++ hexText 4 (0xDC00 + n % 0x400)

def quote (s : String) : String := "\"" ++ String.join (s.toList.map escapeChar) ++ "\""

def floatSource (x : Float) : String :=
  if x.isNaN then "NaN" else if x == 1.0 / 0.0 then "Infinity" else if x == -1.0 / 0.0 then "-Infinity"
  else floatText x

def keyText : Value → Outcome String
  | .str s | .markup s => .ok s
  | .float x => .ok (floatSource x)
  | .bool b => .ok (if b then "true" else "false")
  | .none => .ok "null"
  | .int n => (Value.int n).toText?
  | _ => .error .wrongType

def enclose (layout : Layout) (depth : Nat) (left right : String) (parts : List String) : String :=
  match parts, layout.indent with
  | [], _ => left ++ right
  | parts, none => left ++ ", ".intercalate parts ++ right
  | parts, some indent =>
    let line (d : Nat) : String := "\n" ++ String.join (List.replicate d indent)
    left ++ line (depth + 1) ++ ("," ++ line (depth + 1)).intercalate parts ++ line depth ++ right

def sortMembers (members : List (Value × String)) : Outcome (List (Value × String)) :=
  Sort.sort (fun a b => a.1.order .lt b.1) members

mutual

/-- JSON text of a value inside `depth` brackets. -/
def write (layout : Layout) (depth : Nat) : Value → Outcome String
  | .none => .ok "null"
  | .bool b => .ok (if b then "true" else "false")
  | .int n => (Value.int n).toText?
  | .float x => .ok (floatSource x)
  | .str s => .ok (quote s)
  | .markup s => .ok (quote s)
  | .list _ items => do return enclose layout depth "[" "]" (← writeAll layout (depth + 1) items)
  | .tuple items => do return enclose layout depth "[" "]" (← writeAll layout (depth + 1) items)
  | .dict _ entries => do
    let members ← writeEntries layout (depth + 1) entries
    let members ← if layout.sortKeys then sortMembers members else pure members
    let parts ← members.mapM fun (k, text) => do return quote (← keyText k) ++ ": " ++ text
    return enclose layout depth "\x7b" "\x7d" parts
  | _ => .error .wrongType

def writeAll (layout : Layout) (depth : Nat) : List Value → Outcome (List String)
  | [] => .ok []
  | v :: vs => do
    let text ← write layout depth v
    return text :: (← writeAll layout depth vs)

/-- Keys with the JSON texts of their values. -/
def writeEntries (layout : Layout) (depth : Nat) : Entries → Outcome (List (Value × String))
  | [] => .ok []
  | (k, v) :: es => do
    let text ← write layout depth v
    return (k, text) :: (← writeEntries layout depth es)

end

end Colloquy.Json
