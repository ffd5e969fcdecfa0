import Mathlib.Algebra.Order.Field.Rat
import Mathlib.Data.Prod.Lex
import Mathlib.Data.String.Basic
import Colloquy.Flow.Suggestion

/-!
# The closest text

Texts are ranked by how much they are like a word, and those that are alike by the order of texts. The closest text is
the one that ranks highest. So texts that come in addition change what is closest only by being closest themselves.
-/

namespace Colloquy.Suggestion

def rank (scored : (Nat × Nat) × String) : ℚ ×ₗ String := toLex (scored.1.1 / scored.1.2, scored.2)

def score (word s : String) : (Nat × Nat) × String := (ratio s (Pattern.ofText word), s)

private theorem score_pos (word s : String) : 0 < (score word s).1.2 := by
  unfold score ratio
  dsimp only
  split
  · exact Nat.one_pos
  · rename_i h
    exact Nat.pos_of_ne_zero h

private theorem better_iff {a b : (Nat × Nat) × String} (ha : 0 < a.1.2) (hb : 0 < b.1.2) :
    better a b = true ↔ rank b < rank a := by
  have hless : b.1.1 * a.1.2 < a.1.1 * b.1.2 ↔ (b.1.1 / b.1.2 : ℚ) < a.1.1 / a.1.2 := by
    rw [div_lt_div_iff₀ (by exact_mod_cast hb) (by exact_mod_cast ha)]
    exact_mod_cast Iff.rfl
  have hsame : a.1.1 * b.1.2 = b.1.1 * a.1.2 ↔ (b.1.1 / b.1.2 : ℚ) = a.1.1 / a.1.2 := by
    rw [div_eq_div_iff (by exact_mod_cast hb.ne') (by exact_mod_cast ha.ne'), eq_comm]
    exact_mod_cast Iff.rfl
  unfold better rank
  rw [Prod.Lex.toLex_lt_toLex]
  simp [hless, hsame]

/-- The better one of the best text so far and a further one. -/
def pick (word : String) (best : Option ((Nat × Nat) × String)) (s : String) : Option ((Nat × Nat) × String) :=
  match best with
  | none => some (score word s)
  | some b => if better (score word s) b then some (score word s) else some b

private theorem foldl_pick (word b : String) (texts : List String) :
    ∃ t ∈ b :: texts, texts.foldl (pick word) (some (score word b)) = some (score word t) ∧
      ∀ s ∈ b :: texts, rank (score word s) ≤ rank (score word t) := by
  induction texts generalizing b with
  | nil => exact ⟨b, List.mem_singleton_self b, rfl, fun s hs => by rw [List.mem_singleton.mp hs]⟩
  | cons s rest ih =>
    rw [List.foldl_cons, pick]
    have hbetter := better_iff (score_pos word s) (score_pos word b)
    cases hs : better (score word s) (score word b) with
    | true =>
      obtain ⟨t, hmem, heq, hbest⟩ := ih s
      have hlt := hbetter.mp hs
      refine ⟨t, List.mem_cons_of_mem _ hmem, heq, List.forall_mem_cons.mpr ⟨?_, hbest⟩⟩
      exact hlt.le.trans (hbest s List.mem_cons_self)
    | false =>
      obtain ⟨t, hmem, heq, hbest⟩ := ih b
      have hle : rank (score word s) ≤ rank (score word b) := not_lt.mp fun hlt => by simp [hbetter.mpr hlt] at hs
      obtain ⟨hfirst, hrest⟩ := List.forall_mem_cons.mp hbest
      refine ⟨t, ?_, heq, ?_⟩
      · exact (List.mem_cons.mp hmem).elim (fun h => h ▸ List.mem_cons_self)
          fun h => List.mem_cons_of_mem _ (List.mem_cons_of_mem _ h)
      · exact List.forall_mem_cons.mpr ⟨hfirst, List.forall_mem_cons.mpr ⟨hle.trans hfirst, hrest⟩⟩

private theorem closest_eq_none {word : String} {texts : List String} : closest word texts = none ↔ texts = [] := by
  cases texts with
  | nil => simp [closest]
  | cons s rest =>
    obtain ⟨t, -, heq, -⟩ := foldl_pick word s rest
    have hclosest : closest word (s :: rest) = (rest.foldl (pick word) (some (score word s))).map (·.2) := rfl
    simp [hclosest, heq]

theorem closest_eq_some {word t : String} {texts : List String} :
    closest word texts = some t ↔ t ∈ texts ∧ ∀ s ∈ texts, rank (score word s) ≤ rank (score word t) := by
  cases texts with
  | nil => simp [closest]
  | cons s rest =>
    obtain ⟨best, hmem, heq, hbest⟩ := foldl_pick word s rest
    have hclosest : closest word (s :: rest) = some best := by
      change (rest.foldl (pick word) (some (score word s))).map (·.2) = some best
      rw [heq]
      rfl
    rw [hclosest]
    constructor
    · intro h
      cases h
      exact ⟨hmem, hbest⟩
    · rintro ⟨ht, hhighest⟩
      have hrank := le_antisymm (hbest t ht) (hhighest best hmem)
      exact congrArg some (congrArg (fun r => (ofLex r).2) hrank).symm

theorem closest_of_subset (word : String) {texts more : List String} (h : texts ⊆ more) :
    closest word more = closest word texts ∨ ∃ t, closest word more = some t ∧ t ∉ texts := by
  cases hmore : closest word more with
  | none =>
    rw [closest_eq_none.mp hmore] at h
    rw [List.subset_nil.mp h]
    exact .inl rfl
  | some t =>
    obtain ⟨-, hhighest⟩ := closest_eq_some.mp hmore
    by_cases ht : t ∈ texts
    · exact .inl (closest_eq_some.mpr ⟨ht, fun s hs => hhighest s (h hs)⟩).symm
    · exact .inr ⟨t, rfl, ht⟩

end Colloquy.Suggestion
