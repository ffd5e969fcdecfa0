import Colloquy.Value.Arithmetic

/-!
# Sorting

A stable sort by a comparison that may fail. The run that the list starts with is kept (or turned
round if it strictly falls), and every later element is put in its place by halving.
-/

namespace Colloquy.Sort

variable {α : Type}

/-- Place of `x` among the sorted elements `[lo, hi)`: after all that are not greater. -/
def place (lt : α → α → Outcome Bool) (x : α) (cells : Array α) (lo hi : Nat) : Outcome Nat :=
  if _h : lo < hi then
    let mid := lo + (hi - lo) / 2
    match cells[mid]? with
    | none => .ok lo
    | some y => do
      if ← lt x y then place lt x cells lo mid else place lt x cells (mid + 1) hi
  else .ok lo
termination_by hi - lo
decreasing_by all_goals omega

def insertAll (lt : α → α → Outcome Bool) (cells : Array α) : List α → Outcome (Array α)
  | [] => .ok cells
  | x :: xs => do
    let i ← place lt x cells 0 cells.size
    insertAll lt (cells.insertIdxIfInBounds i x) xs

/-- Elements of the run that goes on after `last`: each next one falls, or none does. -/
def takeRun (lt : α → α → Outcome Bool) (falling : Bool) (run : List α) (last : α) :
    List α → Outcome (List α × List α)
  | [] => .ok (run.reverse, [])
  | x :: xs => do
    let falls ← lt x last
    if falls == falling then takeRun lt falling (x :: run) x xs
    else return (run.reverse, x :: xs)

/-- Sorts a list by `lt`, keeping the order of equal elements. -/
def sort (lt : α → α → Outcome Bool) : List α → Outcome (List α)
  | x :: y :: rest => do
    let falling ← lt y x
    let (run, rest) ← takeRun lt falling [y, x] y rest
    let run := if falling then run.reverse else run
    return (← insertAll lt run.toArray rest).toList
  | xs => .ok xs

/-- Sorts a list from the greatest to the least, keeping the order of equal elements. -/
def sortDown (lt : α → α → Outcome Bool) (xs : List α) : Outcome (List α) := do
  return (← sort lt xs.reverse).reverse

end Colloquy.Sort
