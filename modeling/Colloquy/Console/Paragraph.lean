import Colloquy.Console.CellWidth
import Colloquy.Console.Markup

/-!
# Fitting text into a width

A text is broken into lines at the blanks between words. A word that is wider than a line is either
folded over several lines or cut off with an ellipsis.
-/

namespace Colloquy.Console

open Text

/-- What happens to a word that is wider than a line. -/
inductive Overflow where
  | fold | ellipsis
deriving DecidableEq

/-- Where a text stands in the room that it has. -/
inductive Alignment where
  | left | centre
deriving DecidableEq

namespace Paragraph

def tabSize : Nat := 8

/-- Tabs replaced by blanks up to the next tab stop, from a column on. -/
def expandTabs (column : Nat) : List Char → List Char
  | [] => []
  | c :: rest =>
    if c == '\t' then
      let n := tabSize - column % tabSize
      List.replicate n ' ' ++ expandTabs (column + n) rest
    else c :: expandTabs (column + charWidth c) rest

/-- Words of a line with the blanks after them; the first one also has those before it. -/
def words (fuel : Nat) (cs : List Char) : List (List Char) :=
  match fuel with
  | 0 => []
  | fuel + 1 =>
    let before := cs.takeWhile isBlank
    let rest := cs.drop before.length
    let word := rest.takeWhile (!isBlank ·)
    let rest := rest.drop word.length
    let after := rest.takeWhile isBlank
    if word.isEmpty then [] else (before ++ word ++ after) :: words fuel (rest.drop after.length)

def trimEnd (cs : List Char) : List Char := (cs.reverse.dropWhile isBlank).reverse

/-- Cuts a word into parts that fit a width; `part` is the current one in reverse order and `used`
its width. -/
def chop (width used : Nat) (part : List Char) : List Char → List (List Char)
  | [] => [part.reverse]
  | c :: rest =>
    if width < used + charWidth c then part.reverse :: chop width (charWidth c) [c] rest
    else chop width (used + charWidth c) (c :: part) rest

structure Breaking where
  /-- Finished lines, the last one first. -/
  done : List (List Char) := []
  line : List Char := []
  /-- Cells taken on the line. -/
  used : Nat := 0
  /-- Whether some of the text was placed. -/
  started : Bool := false

namespace Breaking

/-- Starts a new line with a text, unless the text is the first of all. -/
def next (b : Breaking) (cs : List Char) : Breaking :=
  { done := if b.started then b.line :: b.done else b.done
    line := cs
    used := textWidth cs
    started := b.started || !cs.isEmpty }

def place (width : Nat) (overflow : Overflow) (b : Breaking) (word : List Char) : Breaking :=
  let size := textWidth (trimEnd word)
  if b.used + size ≤ width then
    { b with line := b.line ++ word, used := b.used + textWidth word, started := true }
  else if width < size && overflow == .fold then (chop width 0 [] word).foldl next b
  else b.next word

def lines (b : Breaking) : List (List Char) := (b.line :: b.done).reverse

end Breaking

def breakLine (width : Nat) (overflow : Overflow) (cs : List Char) : List (List Char) :=
  match words (cs.length + 1) cs with
  | [] => [cs]
  | ws => (ws.foldl (Breaking.place width overflow) {}).lines

/-- Drops blanks at the end as long as there are more characters than cells. -/
def dropExcess (width : Nat) (cs : List Char) : List Char :=
  let blanks := (cs.reverse.takeWhile isBlank).length
  cs.take (cs.length - min blanks (cs.length - width))

/-- Looks for a part of a text from its start on that takes a number of cells, by halving; a wide
character that sticks out by one cell is replaced by a blank. -/
def cutSearch (cs : List Char) (total : Nat) (fuel start stop : Nat) : List Char :=
  match fuel with
  | 0 => cs.take total
  | fuel + 1 =>
    let pos := (start + stop) / 2
    let before := cs.take (pos + 1)
    let size := textWidth before
    if size == total + 1 && (before.getLast?.elim 0 charWidth) == 2 then before.dropLast ++ [' ']
    else if size == total then before
    else if total < size then cutSearch cs total fuel start pos
    else cutSearch cs total fuel pos stop

/-- Cuts a text that is wider than a number of cells. -/
def cut (total : Nat) (cs : List Char) : List Char :=
  if total == 0 then []
  else if textWidth cs ≤ total then cs ++ List.replicate (total - textWidth cs) ' '
  else cutSearch cs total (cs.length + 2) 0 cs.length

/-- Cuts a line to a width, with an ellipsis if the text asks for one. -/
def truncate (width : Nat) (overflow : Overflow) (cs : List Char) : List Char :=
  if textWidth cs ≤ width then cs
  else
    match overflow with
    | .ellipsis => cut (width - 1) cs ++ ['…']
    | .fold => cut width cs

/-- Lines of a text in a width; a centred line has no blanks at its end. -/
def wrap (width : Nat) (overflow : Overflow) (alignment : Alignment) (cs : List Char) :
    List (List Char) :=
  (splitWhen (· == '\n') cs).flatMap fun line =>
    (breakLine width overflow (expandTabs 0 line)).map fun part =>
      let part := dropExcess width part
      truncate width overflow (if alignment == .centre then trimEnd part else part)

end Paragraph

end Colloquy.Console
