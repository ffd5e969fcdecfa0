import Colloquy.Console.Emoji
import Colloquy.Console.Literal
import Colloquy.Console.Style

/-!
# Console markup

Texts for the console hold tags in square brackets: `[red]` opens a style, `[/red]` closes it and
`[/]` closes whatever was opened last. A backslash in front of a tag makes it plain text. The shown
text has no tags any more, and the names of emoji in it are replaced.
-/

namespace Colloquy.Console

open Text

/-- A tag: a name, and parameters after an equals sign. -/
structure Tag where
  name : String
  parameters : Option String := none

/-- A part of a text with markup. -/
inductive Piece where
  | plain (cs : List Char)
  | tag (t : Tag)

namespace Markup

def startsTag (c : Char) : Bool :=
  ('a' ≤ c && c ≤ 'z') || c == '#' || c == '/' || c == '@'

/-- The content of a tag, and what follows it; the text starts at its bracket. -/
def tagAt? : List Char → Option (List Char × List Char)
  | '[' :: c :: rest =>
    if startsTag c then
      match rest.dropWhile (fun d => d != '[' && d != ']') with
      | ']' :: after => some (c :: rest.takeWhile (fun d => d != '[' && d != ']'), after)
      | _ => none
    else none
  | _ => none

def Tag.ofContent (content : List Char) : Tag :=
  let name := String.ofList (content.takeWhile (· != '='))
  match content.dropWhile (· != '=') with
  | _ :: parameters => { name, parameters := some (String.ofList parameters) }
  | [] => { name }

def plainPiece (cs : List Char) : List Piece := if cs.isEmpty then [] else [.plain cs]

/-- What a tag after backslashes comes to: each pair of them is one, a single one makes the tag
plain text. -/
def escapedTag (slashes : Nat) (content : List Char) : List Piece :=
  plainPiece (List.replicate (slashes / 2) '\\') ++
    [if slashes % 2 == 1 then .plain ('[' :: content ++ [']']) else .tag (Tag.ofContent content)]

/-- Parts of a text; `plain` is the plain text before in reverse order. -/
def split (fuel : Nat) (plain : List Char) (cs : List Char) : List Piece :=
  match fuel, cs with
  | 0, _ | _, [] => plainPiece plain.reverse
  | fuel + 1, c :: rest =>
    let slashes := (c :: rest).takeWhile (· == '\\')
    match tagAt? ((c :: rest).drop slashes.length) with
    | some (content, after) =>
      plainPiece plain.reverse ++ escapedTag slashes.length content ++ split fuel [] after
    | none => split fuel (c :: plain) rest

def pieces (cs : List Char) : List Piece := split (cs.length + 1) [] cs

/-- Brackets after a backslash that start no tag. -/
def unescape : List Char → List Char
  | '\\' :: '[' :: rest => '[' :: unescape rest
  | c :: rest => c :: unescape rest
  | [] => []

/-- Control characters that are never shown. -/
def isHidden (c : Char) : Bool :=
  let n := c.toNat
  n == 7 || n == 8 || n == 11 || n == 12 || n == 13

def shown (cs : List Char) : List Char := (expandEmoji (unescape cs)).filter (!isHidden ·)

/-- Whether the parameters of an action tag make sense: a name with literal arguments in round
brackets, or a literal. -/
def acceptsParameters (parameters : String) : Bool :=
  let cs := Number.stripBlanks parameters.toList
  match cs.dropWhile (fun c => isWordPart c || c == '.') with
  | [] => true
  | '(' :: rest =>
    if rest.getLast? == some ')' && !rest.contains '\n' then Literal.isLiteral ('(' :: rest)
    else Literal.isLiteral cs
  | _ => Literal.isLiteral cs

def checkClosed (t : Tag) : Outcome Unit :=
  if t.name.toList.head? == some '@' && !t.parameters.elim true (fun p => p.isEmpty || acceptsParameters p) then
    .error .malformedMarkup
  else .ok ()

def closeNamed (name : String) : List Tag → Option (Tag × List Tag)
  | [] => none
  | t :: rest =>
    if t.name == name then some (t, rest)
    else (closeNamed name rest).map fun (closed, others) => (closed, t :: others)

def closed? (opened : List Tag) (name : List Char) : Outcome (Option (Tag × List Tag)) :=
  match name, opened with
  | [], [] => .ok none
  | [], last :: others => .ok (some (last, others))
  | name, opened => do return closeNamed (← Style.normalize (String.ofList name)) opened

/-- The open tags after one more tag; the one opened last comes first. -/
def step (opened : List Tag) (t : Tag) : Outcome (List Tag) :=
  match t.name.toList with
  | '/' :: name => do
    match ← closed? opened (Number.stripBlanks name) with
    | some (t, others) => do
      checkClosed t
      return others
    | none => .error .malformedMarkup
  | _ => do return { t with name := ← Style.normalize t.name } :: opened

def render (opened : List Tag) : List Piece → Outcome (List Char)
  | [] => .ok []
  | .plain cs :: rest => do return shown cs ++ (← render opened rest)
  | .tag t :: rest => do render (← step opened t) rest

end Markup

def plainText (markup : String) : Outcome (List Char) :=
  Markup.render [] (Markup.pieces markup.toList)

end Colloquy.Console
