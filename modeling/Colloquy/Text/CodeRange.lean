/-!
# Sets and maps of code points

Character classes of the Unicode standard are kept as short texts: a set is a list of ranges such
as `41-5a aa b5`, a letter map is a list of runs such as `61-7a~20` (every code point of the run
moves down by `20`). This module reads those texts once and answers membership by halving.
-/

namespace Colloquy.Text

/-- Value of a lower-case hexadecimal digit; any other character counts as zero. -/
def hexValue (c : Char) : Nat :=
  if '0' ≤ c ∧ c ≤ '9' then c.toNat - '0'.toNat
  else if 'a' ≤ c ∧ c ≤ 'f' then c.toNat - 'a'.toNat + 10
  else 0

def isHexDigit (c : Char) : Bool :=
  c.isDigit || ('a' ≤ c && c ≤ 'f') || ('A' ≤ c && c ≤ 'F')

def hexNumber (digits : List Char) : Nat :=
  digits.foldl (fun n c => 16 * n + hexValue c) 0

def splitWhen {α : Type} (p : α → Bool) (xs : List α) : List (List α) :=
  xs.foldr (fun x pieces =>
    match pieces with
    | [] => if p x then [[], []] else [[x]]
    | piece :: rest => if p x then [] :: piece :: rest else (x :: piece) :: rest) [[]]

/-- Words of a text, separated by spaces and line breaks. -/
def wordsOf (text : String) : List (List Char) :=
  (splitWhen (fun c => c == ' ' || c == '\n') text.toList).filter (!·.isEmpty)

/-- Sorted, disjoint, inclusive ranges of code points. -/
structure CodeRanges where
  bounds : Array (Nat × Nat)

namespace CodeRanges

/-- Reads one range, `lo-hi` or a single code point. -/
def rangeOfText (word : List Char) : Nat × Nat :=
  match splitWhen (· == '-') word with
  | [lo, hi] => (hexNumber lo, hexNumber hi)
  | _ => (hexNumber word, hexNumber word)

def ofText (text : String) : CodeRanges :=
  ⟨((wordsOf text).map rangeOfText).toArray⟩

/-- Index of the last range that starts at or below `n`, found by halving `[lo, hi)`. -/
def search (bounds : Array (Nat × Nat)) (n lo hi : Nat) : Nat :=
  if h : lo + 1 < hi then
    let mid := (lo + hi) / 2
    if (bounds.getD mid (0, 0)).1 ≤ n then search bounds n mid hi else search bounds n lo mid
  else lo
termination_by hi - lo
decreasing_by all_goals omega

def find? (ranges : CodeRanges) (n : Nat) : Option (Nat × Nat) :=
  let (lo, hi) := ranges.bounds.getD (search ranges.bounds n 0 ranges.bounds.size) (1, 0)
  if lo ≤ n ∧ n ≤ hi then some (lo, hi) else none

def contains (ranges : CodeRanges) (n : Nat) : Bool :=
  (ranges.find? n).isSome

end CodeRanges

/-- A run of code points that all move by the same distance: every one, or every other one. -/
structure Shift where
  stride : Nat
  down : Bool
  distance : Nat

/-- A map of letters: runs that shift, and letters that become several. -/
structure LetterMap where
  runs : CodeRanges
  shifts : Array Shift
  specials : List (Nat × List Char)

namespace LetterMap

/-- Reads a run such as `61-7a~20` or, for every other code point, `101-12f/~1`. -/
def runOfText (word : List Char) : (Nat × Nat) × Shift :=
  let (range, rest) := word.span (fun c => c != '+' && c != '~' && c != '/')
  let stride := if rest.head? == some '/' then 2 else 1
  let rest := rest.dropWhile (· == '/')
  (CodeRanges.rangeOfText range, ⟨stride, rest.head? == some '~', hexNumber (rest.drop 1)⟩)

def specialOfText (word : List Char) : Nat × List Char :=
  match splitWhen (· == '=') word with
  | [code, images] => (hexNumber code, (splitWhen (· == ',') images).map fun d => Char.ofNat (hexNumber d))
  | _ => (0, [])

def ofText (runs specials : String) : LetterMap :=
  let entries := (wordsOf runs).map runOfText
  ⟨⟨(entries.map (·.1)).toArray⟩, (entries.map (·.2)).toArray, (wordsOf specials).map specialOfText⟩

/-- Moves a code point by the first run that holds it with the right stride. The text lists runs
by their first code point, and runs with stride two may interleave, so a few are tried. -/
def shift (map : LetterMap) (n index tries : Nat) : Option Nat :=
  match tries with
  | 0 => none
  | tries + 1 =>
    match map.runs.bounds[index]?, map.shifts[index]? with
    | some (lo, hi), some s =>
      if lo ≤ n ∧ n ≤ hi ∧ (n - lo) % s.stride = 0 then
        some (if s.down then n - s.distance else n + s.distance)
      else if index = 0 then none
      else map.shift n (index - 1) tries
    | _, _ => none

/-- Image of a character: itself, its shifted form or its special form. -/
def apply (map : LetterMap) (c : Char) : List Char :=
  match map.specials.lookup c.toNat with
  | some image => image
  | none =>
    let start := CodeRanges.search map.runs.bounds c.toNat 0 map.runs.bounds.size
    match map.shift c.toNat start 4 with
    | some n => [Char.ofNat n]
    | none => [c]

end LetterMap

end Colloquy.Text
