import Colloquy.Text.Class

/-!
# Quoted texts

A text is quoted with single quotes, or with double quotes if it holds a single quote and no double
one. Characters that are not printable are written by their number.
-/

namespace Colloquy.Text

/-- Lower-case hexadecimal digits of `n`, with leading zeros up to `width`. -/
def hexText (width n : Nat) : String :=
  let ds := Nat.toDigits 16 n
  String.ofList (List.replicate (width - ds.length) '0' ++ ds)

def quoteFor (cs : List Char) : Char :=
  if cs.contains (Char.ofNat 0x27) && !cs.contains '"' then '"' else (Char.ofNat 0x27)

def quoteChar (quote c : Char) : String :=
  if c == quote || c == '\\' then String.ofList ['\\', c]
  else if c == '\n' then "\\n"
  else if c == '\r' then "\\r"
  else if c == '\t' then "\\t"
  else if isPrintable c then String.singleton c
  else if c.toNat < 0x100 then "\\x" ++ hexText 2 c.toNat
  else if c.toNat < 0x10000 then "\\u" ++ hexText 4 c.toNat
  else "\\U" ++ hexText 8 c.toNat

def quoted (s : String) : String :=
  let quote := quoteFor s.toList
  String.singleton quote ++ String.join (s.toList.map (quoteChar quote)) ++ String.singleton quote

def quoteByte (quote : Char) (b : UInt8) : String :=
  let c := Char.ofNat b.toNat
  if c == quote || c == '\\' then String.ofList ['\\', c]
  else if c == '\n' then "\\n"
  else if c == '\r' then "\\r"
  else if c == '\t' then "\\t"
  else if ' ' ≤ c ∧ c ≤ '~' then String.singleton c
  else "\\x" ++ hexText 2 b.toNat

def quotedBytes (bytes : List UInt8) : String :=
  let quote := quoteFor (bytes.map fun b => Char.ofNat b.toNat)
  "b" ++ String.singleton quote ++ String.join (bytes.map (quoteByte quote)) ++ String.singleton quote

end Colloquy.Text
