/-!
# Closest texts

How alike two texts are: twice the number of characters in matching blocks, over the number of all
characters. The longest common block is taken first, then the blocks to its left and right. In a
pattern of 200 characters and more, characters that occur in more than one place in a hundred do not
start a block.
-/

namespace Colloquy.Suggestion

/-- A pattern with the characters that do not start a block. -/
structure Pattern where
  cells : Array Char
  frequent : List Char

namespace Pattern

def ofText (s : String) : Pattern :=
  let cells := s.toList.toArray
  let n := cells.size
  let frequent := if n < 200 then []
    else s.toList.eraseDups.filter fun c => n / 100 + 1 < cells.count c
  ⟨cells, frequent⟩

end Pattern

/-- A common block: where it starts in both texts and how long it is. -/
structure Block where
  left : Nat
  right : Nat
  size : Nat

/-- Lengths of the common blocks that end at position `i` of the first text and at each position of
the second, from those that end one before. -/
def extendRow (p : Pattern) (c : Char) (lo hi : Nat) (row : Array Nat) : Array Nat :=
  ((List.range' lo (hi - lo)).foldl (fun next j =>
    if p.cells[j]? == some c && !p.frequent.contains c then
      next.setIfInBounds (j + 1) (row.getD j 0 + 1)
    else next) (Array.replicate (p.cells.size + 1) 0))

/-- Longest block found in a row of blocks that all end at position `i`. -/
def bestInRow (i lo hi : Nat) (row : Array Nat) (best : Block) : Block :=
  (List.range' lo (hi - lo)).foldl (fun best j =>
    let k := row.getD (j + 1) 0
    if best.size < k then ⟨i + 1 - k, j + 1 - k, k⟩ else best) best

/-- Longest block between two windows, by rows of the first text. -/
def scanRows (text : Array Char) (p : Pattern) (lo hi : Nat) (row : Array Nat) (best : Block) :
    List Nat → Block
  | [] => best
  | i :: is =>
    match text[i]? with
    | none => best
    | some c =>
      let row := extendRow p c lo hi row
      scanRows text p lo hi row (bestInRow i lo hi row best) is

def growLeft (text : Array Char) (p : Pattern) (alo blo : Nat) (b : Block) (fuel : Nat) : Block :=
  match fuel with
  | 0 => b
  | fuel + 1 =>
    if alo < b.left && blo < b.right && text[b.left - 1]? == p.cells[b.right - 1]? then
      growLeft text p alo blo ⟨b.left - 1, b.right - 1, b.size + 1⟩ fuel
    else b

def growRight (text : Array Char) (p : Pattern) (ahi bhi : Nat) (b : Block) (fuel : Nat) : Block :=
  match fuel with
  | 0 => b
  | fuel + 1 =>
    if b.left + b.size < ahi && b.right + b.size < bhi &&
        text[b.left + b.size]? == p.cells[b.right + b.size]? then
      growRight text p ahi bhi ⟨b.left, b.right, b.size + 1⟩ fuel
    else b

def longest (text : Array Char) (p : Pattern) (alo ahi blo bhi : Nat) : Block :=
  let found := scanRows text p blo bhi (Array.replicate (p.cells.size + 1) 0) ⟨alo, blo, 0⟩
    (List.range' alo (ahi - alo))
  growRight text p ahi bhi (growLeft text p alo blo found text.size) text.size

/-- Number of characters in matching blocks of two windows; `fuel` bounds the depth of cutting. -/
def matched (text : Array Char) (p : Pattern) (fuel alo ahi blo bhi : Nat) : Nat :=
  match fuel with
  | 0 => 0
  | fuel + 1 =>
    let b := longest text p alo ahi blo bhi
    if b.size = 0 then 0
    else
      let left := if alo < b.left && blo < b.right then matched text p fuel alo b.left blo b.right else 0
      let right := if b.left + b.size < ahi && b.right + b.size < bhi then
          matched text p fuel (b.left + b.size) ahi (b.right + b.size) bhi
        else 0
      left + b.size + right

def ratio (s : String) (p : Pattern) : Nat × Nat :=
  let text := s.toList.toArray
  let total := text.size + p.cells.size
  if total = 0 then (1, 1)
  else (2 * matched text p (text.size + 1) 0 text.size 0 p.cells.size, total)

/-- Whether the first scored text is better: more alike, or as alike and greater as a text. -/
def better (a b : (Nat × Nat) × String) : Bool :=
  let x := a.1.1 * b.1.2
  let y := b.1.1 * a.1.2
  y < x || (x == y && b.2 < a.2)

def closest (word : String) (texts : List String) : Option String :=
  let p := Pattern.ofText word
  (texts.foldl (fun best s =>
    let scored := (ratio s p, s)
    match best with
    | none => some scored
    | some b => if better scored b then some scored else some b) none).map (·.2)

end Colloquy.Suggestion
