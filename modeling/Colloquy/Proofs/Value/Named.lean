import Colloquy.Flow.Record

/-!
# Named values

Values are kept under names in the order in which the names came up. A value that is put under a name takes the place
of the one that is there, and otherwise it comes last.
-/

namespace Colloquy

variable {α : Type} {named entries : List (String × α)} {entry new : String × α} {name : String}

/-- Puts a value under its name: a known name keeps its place, a new one comes last. -/
def putNamed (named : List (String × α)) (new : String × α) : List (String × α) :=
  if named.any (·.1 == new.1) then named.map fun (k, a) => if k == new.1 then (k, new.2) else (k, a)
  else named ++ [new]

theorem putField_eq (fields : Fields) (name : String) (v : Value) :
    Record.putField fields name v = putNamed fields (name, v) := rfl

private theorem any_name_iff : named.any (·.1 == name) = true ↔ name ∈ named.map Prod.fst := by
  rw [List.any_eq_true, List.mem_map]
  simp only [beq_iff_eq]

theorem mem_putNamed (h : entry ∈ putNamed named new) : entry ∈ named ∨ entry = new := by
  unfold putNamed at h
  split at h
  · obtain ⟨⟨k, a⟩, hold, rfl⟩ := List.mem_map.mp h
    by_cases hk : k = new.1
    · exact .inr (by simp [hk])
    · exact .inl (by simpa [hk] using hold)
  · exact (List.mem_append.mp h).imp_right List.mem_singleton.mp

private theorem map_fst_putNamed : (putNamed named new).map Prod.fst =
    if new.1 ∈ named.map Prod.fst then named.map Prod.fst else named.map Prod.fst ++ [new.1] := by
  unfold putNamed
  by_cases h : new.1 ∈ named.map Prod.fst
  · rw [if_pos (any_name_iff.mpr h), if_pos h, List.map_map]
    refine List.map_congr_left fun old _ => ?_
    simp only [Function.comp_apply]
    split <;> rfl
  · rw [if_neg (mt any_name_iff.mp h), if_neg h]
    simp

theorem mem_map_fst_putNamed :
    name ∈ (putNamed named new).map Prod.fst ↔ name ∈ named.map Prod.fst ∨ name = new.1 := by
  rw [map_fst_putNamed]
  split
  · rename_i hknown
    exact ⟨.inl, fun h => h.elim id fun heq => heq ▸ hknown⟩
  · rw [List.mem_append, List.mem_singleton]

private theorem putNamed_of_new (h : new.1 ∉ named.map Prod.fst) : putNamed named new = named ++ [new] :=
  if_neg (mt any_name_iff.mp h)

theorem nodup_putNamed (h : (named.map Prod.fst).Nodup) (new : String × α) :
    ((putNamed named new).map Prod.fst).Nodup := by
  by_cases hknown : new.1 ∈ named.map Prod.fst
  · rw [map_fst_putNamed, if_pos hknown]
    exact h
  · rw [map_fst_putNamed, if_neg hknown]
    refine List.nodup_append.mpr ⟨h, List.pairwise_singleton _ _, fun old hold name hname heq => hknown ?_⟩
    rwa [← List.mem_singleton.mp hname, ← heq]

theorem nodup_foldl_putNamed (entries : List (String × α)) (h : (named.map Prod.fst).Nodup) :
    ((entries.foldl putNamed named).map Prod.fst).Nodup :=
  List.foldlRecOn (motive := fun acc : List (String × α) => (acc.map Prod.fst).Nodup) entries _ h
    fun _ hacc entry _ => nodup_putNamed hacc entry

theorem foldl_putNamed (h : ((named ++ entries).map Prod.fst).Nodup) :
    entries.foldl putNamed named = named ++ entries := by
  induction entries generalizing named with
  | nil => exact (List.append_nil named).symm
  | cons entry rest ih =>
    have hnew : entry.1 ∉ named.map Prod.fst := by
      rw [List.map_append] at h
      exact fun hold => (List.nodup_append.mp h).2.2 _ hold _ List.mem_cons_self rfl
    rw [List.foldl_cons, putNamed_of_new hnew, ih (by simpa using h)]
    simp

private theorem mem_putNamed_self (named : List (String × α)) (new : String × α) : new ∈ putNamed named new := by
  unfold putNamed
  split
  · rename_i hknown
    obtain ⟨old, hold, hname⟩ := List.any_eq_true.mp hknown
    exact List.mem_map.mpr ⟨old, hold, by simp [beq_iff_eq.mp hname]⟩
  · exact List.mem_append_right _ (List.mem_singleton_self new)

private theorem mem_putNamed_of_ne (h : entry ∈ named) (hne : entry.1 ≠ new.1) : entry ∈ putNamed named new := by
  unfold putNamed
  split
  · exact List.mem_map.mpr ⟨entry, h, by simp [hne]⟩
  · exact List.mem_append_left _ h

theorem mem_foldl_putNamed_of_last {before after : List (String × α)} (h : entry.1 ∉ after.map Prod.fst) :
    entry ∈ (before ++ entry :: after).foldl putNamed named := by
  rw [List.foldl_append, List.foldl_cons]
  refine List.foldlRecOn (motive := (entry ∈ ·)) after _ (mem_putNamed_self _ entry) fun acc hacc new hnew => ?_
  exact mem_putNamed_of_ne hacc fun heq => h (heq ▸ List.mem_map_of_mem hnew)

theorem mem_map_fst_foldl_putNamed :
    name ∈ (entries.foldl putNamed named).map Prod.fst ↔ name ∈ named.map Prod.fst ∨ name ∈ entries.map Prod.fst := by
  induction entries generalizing named with
  | nil => simp
  | cons entry rest ih => rw [List.foldl_cons, ih, mem_map_fst_putNamed, List.map_cons, List.mem_cons, or_assoc]

end Colloquy
