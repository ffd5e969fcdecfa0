import Colloquy.Value.Basic

/-!
# Size of values

How many values a value is made of, counting itself. The size of a part is less than the size of the
whole, so sizes bound how long a computation over parts can go on.
-/

namespace Colloquy.Value

mutual

def size : Value → Nat
  | .list _ items => 1 + sizeAll items
  | .tuple items => 1 + sizeAll items
  | .dict _ entries => 1 + sizeEntries entries
  | .negated param => 1 + size param
  | _ => 1

def sizeAll : List Value → Nat
  | [] => 0
  | v :: vs => size v + sizeAll vs

/-- Number of values that entries are made of, keys not counted. -/
def sizeEntries : Entries → Nat
  | [] => 0
  | (_, v) :: es => size v + sizeEntries es

end

theorem size_pos (v : Value) : 0 < v.size := by
  cases v <;> simp only [size] <;> omega

theorem size_le_sizeAll {v : Value} {vs : List Value} (h : v ∈ vs) : v.size ≤ sizeAll vs := by
  induction vs with
  | nil => cases h
  | cons w ws ih =>
    rcases List.mem_cons.mp h with rfl | h
    · simp only [sizeAll]; omega
    · have := ih h
      simp only [sizeAll]; omega

end Colloquy.Value
