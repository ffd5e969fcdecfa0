import Colloquy.Proofs.Compile.Growth
import Colloquy.Value.Heap

/-!
# Entries under their names

What is stored under a name after entries were changed: by storing something, by giving every value its
current content, or by leaving entries out.
-/

namespace Colloquy

namespace Value

theorem refreshAll_eq_map (content : Nat → Option Value) (items : List Value) :
    refreshAll content items = items.map (refresh content) := by
  induction items with
  | nil => rfl
  | cons v rest ih => simp [refreshAll, ih]

theorem refreshEntries_eq_map (content : Nat → Option Value) (entries : Entries) :
    refreshEntries content entries = entries.map fun (k, v) => (k, refresh content v) := by
  induction entries with
  | nil => rfl
  | cons entry rest ih => simp [refreshEntries, ih]

private theorem eq_of_text? {other : Value} {s : String} (hother : other.text? = some s) (k : Value) :
    k.eq other = (k.text? == some s) := by
  cases other with
  | str | markup =>
    obtain rfl := Option.some.inj hother
    cases k <;> simp [eq, eqAtom, text?, numeral?]
  | _ => cases hother

theorem same_of_text? {other : Value} {s : String} (hother : other.text? = some s) (k : Value) :
    k.same other = (k.text? == some s) := by
  have hnan : bothNan k other = false := by
    cases other with
    | str | markup => cases k <;> rfl
    | _ => cases hother
  rw [same, hnan, Bool.or_false, eq_of_text? hother]

private theorem text?_of_same {k other : Value} (h : k.same other = true) : k.text? = other.text? := by
  cases hother : other.text? with
  | some s => simpa [same_of_text? hother] using h
  | none =>
    cases k with
    | str | markup => cases other <;> simp [same, bothNan, eq, eqAtom, text?, numeral?] at h hother
    | _ => rfl

end Value

namespace Entries

variable {entries : Entries} {name other : String}

def mapValues (f : Value → Value) (entries : Entries) : Entries := entries.map fun (k, v) => (k, f v)

theorem mapValues_mapValues (f g : Value → Value) (entries : Entries) :
    mapValues f (mapValues g entries) = mapValues (fun v => f (g v)) entries := by
  simp [mapValues]

theorem map_fst_mapValues (f : Value → Value) (entries : Entries) :
    (mapValues f entries).map (·.1) = entries.map (·.1) := by
  simp [mapValues]

theorem map_snd_mapValues (f : Value → Value) (entries : Entries) :
    (mapValues f entries).map (·.2) = entries.map fun e => f e.2 := by
  simp [mapValues]

theorem named?_mapValues (f : Value → Value) (entries : Entries) (name : String) :
    named? (mapValues f entries) name = (named? entries name).map f := by
  unfold named? get? mapValues
  rw [List.find?_map]
  simp only [Option.map_map]
  rfl

theorem hasName_mapValues (f : Value → Value) (entries : Entries) (name : String) :
    hasName (mapValues f entries) name = hasName entries name := by
  simp [hasName, named?_mapValues]

theorem named?_cons (k v : Value) (rest : Entries) (name : String) :
    named? ((k, v) :: rest) name = if k.text? = some name then some v else named? rest name := by
  unfold named? get?
  rw [List.find?_cons]
  by_cases h : k.text? = some name
  · simp [Value.same_str, h]
  · have hsame : k.same (.str name) = false := by simpa [Value.same_str] using h
    simp [hsame, h]

theorem named?_fields (fields : List (String × Value)) (name : String) :
    named? (fields.map fun (k, v) => (Value.str k, v)) name = fields.lookup name := by
  induction fields with
  | nil => rfl
  | cons field rest ih =>
    obtain ⟨k, v⟩ := field
    rw [List.map_cons, named?_cons, ih, List.lookup_cons]
    by_cases h : k = name
    · simp [Value.text?, h]
    · have hne : (name == k) = false := by simpa using Ne.symm h
      simp [Value.text?, h, hne]

theorem mem_of_named? {v : Value} (h : named? entries name = some v) : ∃ k, (k, v) ∈ entries := by
  obtain ⟨entry, hfind, rfl⟩ := Option.map_eq_some_iff.mp h
  exact ⟨entry.1, List.mem_of_find?_eq_some hfind⟩

theorem named?_insert (entries : Entries) (key v : Value) (name : String) :
    named? (insert entries key v) name = if key.text? = some name then some v else named? entries name := by
  induction entries with
  | nil => rw [insert, named?_cons]
  | cons entry rest ih =>
    obtain ⟨k, own⟩ := entry
    unfold insert
    cases hsame : k.same key with
    | true =>
      simp only [if_true, named?_cons, Value.text?_of_same hsame]
      split <;> rfl
    | false =>
      simp only [Bool.false_eq_true, if_false, named?_cons, ih]
      by_cases hk : k.text? = some name
      · have hkey : key.text? ≠ some name := fun hkey => by simp [Value.same_of_text? hkey, hk] at hsame
        simp [hk, hkey]
      · simp [hk]

theorem named?_put_self (entries : Entries) (name : String) (v : Value) :
    named? (put entries name v) name = some v := by
  simp [put, named?_insert, Value.text?]

theorem named?_put_of_ne (h : name ≠ other) (entries : Entries) (v : Value) :
    named? (put entries other v) name = named? entries name := by
  simp [put, named?_insert, Value.text?, Ne.symm h]

/-- No name occurs twice. -/
def Distinct (entries : Entries) : Prop :=
  entries.Pairwise fun a b => ∀ name, a.1.text? = some name → b.1.text? ≠ some name

theorem distinct_mapValues {f : Value → Value} : (mapValues f entries).Distinct ↔ entries.Distinct := by
  rw [Distinct, mapValues, List.pairwise_map]
  rfl

theorem distinct_iff : entries.Distinct ↔
    (entries.map Prod.fst).Pairwise fun a b => ∀ name, a.text? = some name → b.text? ≠ some name := by
  rw [List.pairwise_map]
  rfl

private theorem key_of_mem_insert {key v : Value} {entry : Value × Value} (h : entry ∈ insert entries key v) :
    entry.1 = key ∨ ∃ own, (entry.1, own) ∈ entries := by
  induction entries with
  | nil => exact .inl (by rw [List.mem_singleton.mp h])
  | cons first rest ih =>
    unfold insert at h
    split at h
    · rcases List.mem_cons.mp h with rfl | h
      · exact .inr ⟨first.2, List.mem_cons_self⟩
      · exact .inr ⟨entry.2, List.mem_cons_of_mem _ h⟩
    · rcases List.mem_cons.mp h with rfl | h
      · exact .inr ⟨first.2, List.mem_cons_self⟩
      · exact (ih h).imp_right fun ⟨own, hown⟩ => ⟨own, List.mem_cons_of_mem _ hown⟩

theorem forall_insert {P : Value → Prop} {v : Value} (h : ∀ entry ∈ entries, P entry.2) (hv : P v) (key : Value) :
    ∀ entry ∈ insert entries key v, P entry.2 := by
  induction entries with
  | nil => exact List.forall_mem_singleton.mpr hv
  | cons entry rest ih =>
    obtain ⟨hfirst, hrest⟩ := List.forall_mem_cons.mp h
    unfold insert
    split
    · exact List.forall_mem_cons.mpr ⟨hv, hrest⟩
    · exact List.forall_mem_cons.mpr ⟨hfirst, ih hrest⟩

theorem forall_merge {P : Value → Prop} {others : Entries} (h : ∀ entry ∈ entries, P entry.2)
    (h' : ∀ entry ∈ others, P entry.2) : ∀ entry ∈ merge entries others, P entry.2 := by
  induction others generalizing entries with
  | nil => exact h
  | cons entry rest ih =>
    obtain ⟨hfirst, hrest⟩ := List.forall_mem_cons.mp h'
    exact ih (forall_insert h hfirst entry.1) hrest

theorem Distinct.insert (h : entries.Distinct) (key v : Value) : (insert entries key v).Distinct := by
  induction entries with
  | nil => exact List.pairwise_singleton _ _
  | cons entry rest ih =>
    obtain ⟨k, own⟩ := entry
    obtain ⟨hfirst, hrest⟩ := List.pairwise_cons.mp h
    unfold Entries.insert
    cases hsame : k.same key with
    | true => exact List.pairwise_cons.mpr ⟨hfirst, hrest⟩
    | false =>
      refine List.pairwise_cons.mpr ⟨fun b hb name hk hbname => ?_, ih hrest⟩
      obtain hkey | ⟨own', hown⟩ := key_of_mem_insert hb
      · simp [Value.same_of_text? (hkey ▸ hbname : key.text? = some name), hk] at hsame
      · exact hfirst (b.1, own') hown name hk hbname

theorem distinct_ofList (entries : List (Value × Value)) : Distinct (ofList entries) := by
  have hmerge (acc : Entries) (hacc : acc.Distinct) : (merge acc entries).Distinct := by
    induction entries generalizing acc with
    | nil => exact hacc
    | cons entry rest ih => exact ih _ (hacc.insert entry.1 entry.2)
  exact hmerge [] .nil

theorem key_of_mem_merge {others : Entries} {entry : Value × Value} (h : entry ∈ merge entries others) :
    entry.1 ∈ entries.map Prod.fst ∨ entry.1 ∈ others.map Prod.fst := by
  induction others generalizing entries with
  | nil => exact .inl (List.mem_map_of_mem h)
  | cons other rest ih =>
    obtain hkey | hkey := ih h
    · obtain ⟨first, hfirst, hkey⟩ := List.mem_map.mp hkey
      obtain hnew | ⟨own, hown⟩ := key_of_mem_insert hfirst
      · exact .inr (hkey ▸ hnew ▸ List.mem_cons_self)
      · exact .inl (List.mem_map.mpr ⟨_, hown, hkey⟩)
    · exact .inr (List.mem_cons_of_mem _ hkey)

theorem named?_merge {others : Entries} (h : others.Distinct) (entries : Entries) (name : String) :
    named? (merge entries others) name = (named? others name).or (named? entries name) := by
  induction others generalizing entries with
  | nil => rfl
  | cons entry rest ih =>
    obtain ⟨k, v⟩ := entry
    obtain ⟨hfirst, hrest⟩ := List.pairwise_cons.mp h
    have hstep : merge entries ((k, v) :: rest) = merge (Entries.insert entries k v) rest := rfl
    rw [hstep, ih hrest, named?_insert, named?_cons]
    by_cases hk : k.text? = some name
    · have hnone : named? rest name = none := by
        refine Option.map_eq_none_iff.mpr (List.find?_eq_none.mpr fun b hb => ?_)
        simpa [Value.same_str] using hfirst b hb name hk
      simp [hk, hnone]
    · simp [hk]

/-- What is found among merged entries depends on what was found before, also if values are only compared as far as
`f` tells them apart. -/
theorem map_named?_merge {f : Value → Value} {entries' : Entries}
    (h : (named? entries name).map f = (named? entries' name).map f) (others : Entries) :
    (named? (merge entries others) name).map f = (named? (merge entries' others) name).map f := by
  induction others generalizing entries entries' with
  | nil => exact h
  | cons entry rest ih =>
    refine ih ?_
    rw [named?_insert, named?_insert]
    split
    · rfl
    · exact h

theorem named?_merge_congr {entries' : Entries} (h : named? entries name = named? entries' name) (others : Entries) :
    named? (merge entries others) name = named? (merge entries' others) name := by
  simpa using map_named?_merge (f := fun v => v) (by simpa using h) others

/-- Entries that are left out do not hide others: what is found was found before, or nothing of that name is
left in front of it. -/
theorem named?_filter_of_keeps {keep : Value × Value → Bool} {v : Value} (h : named? entries name = some v)
    (hkeep : ∀ k, keep (k, v) = true) : named? (entries.filter keep) name = some v := by
  induction entries with
  | nil => cases h
  | cons entry rest ih =>
    obtain ⟨k, own⟩ := entry
    rw [named?_cons] at h
    by_cases hk : k.text? = some name
    · simp only [hk, if_true] at h
      obtain rfl := Option.some.inj h
      rw [List.filter_cons_of_pos (hkeep k), named?_cons]
      simp [hk]
    · simp only [hk, if_false] at h
      cases hown : keep (k, own) with
      | true =>
        rw [List.filter_cons_of_pos hown, named?_cons]
        simpa [hk] using ih h
      | false =>
        rw [List.filter_cons_of_neg (by simp [hown])]
        exact ih h

theorem named?_filter_of_none {keep : Value × Value → Bool} (h : named? entries name = none) :
    named? (entries.filter keep) name = none := by
  have hnone := List.find?_eq_none.mp (Option.map_eq_none_iff.mp h)
  refine Option.map_eq_none_iff.mpr (List.find?_eq_none.mpr fun entry hentry => ?_)
  exact hnone entry ((List.mem_filter.mp hentry).1)

end Entries

namespace Heap

theorem current_list (heap : Heap) (items : List Value) :
    heap.current (.list .anonymous items) = .list .anonymous (items.map heap.current) := by
  unfold current
  cases heap.contents.isEmpty with
  | true => simp
  | false => simp [Value.refresh, Value.refreshAll_eq_map]

/-- The current content of an anonymous dictionary is that of its values. -/
theorem current_dict (heap : Heap) (entries : Entries) :
    heap.current (.dict .anonymous entries) = .dict .anonymous (Entries.mapValues heap.current entries) := by
  unfold current Entries.mapValues
  cases heap.contents.isEmpty with
  | true => simp
  | false => simp [Value.refresh, Value.refreshEntries_eq_map]

/-- A value in which no objects occur is always the same. -/
theorem current_of_refresh {v : Value} (h : ∀ content, v.refresh content = v) (heap : Heap) : heap.current v = v := by
  unfold current
  split
  · rfl
  · exact h _

theorem current_none (heap : Heap) : heap.current .none = .none :=
  current_of_refresh (fun _ => rfl) heap

theorem current_str (heap : Heap) (s : String) : heap.current (.str s) = .str s :=
  current_of_refresh (fun _ => rfl) heap

theorem current_text (heap : Heap) {v : Value} {s : String} (hv : v.text? = some s) : heap.current v = v := by
  cases v with
  | str | markup => exact current_of_refresh (fun _ => rfl) heap
  | _ => cases hv

end Heap

end Colloquy
