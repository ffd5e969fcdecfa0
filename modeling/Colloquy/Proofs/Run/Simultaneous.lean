import Mathlib.Data.List.Perm.Basic
import Colloquy.Proofs.Run.Navigation
import Colloquy.Proofs.Run.Purity

/-!
# Simultaneous assignment

A `set` assigns all its names at once: each value is what its parameter expands to alone before anything is assigned, a
pattern gives each of its names the member of that name, and the last entry that assigns a name gives its value. So the
order of entries that assign different names makes no difference.
-/

namespace Colloquy

open Run

/-! ## Bindings -/

/-- Names that a key of a `set` assigns. -/
def targets (key : String) : List String := (parseDestructuring key).getD [key]

def lastNamed (bindings : Fields) (name : String) : Option Value := bindings.reverse.lookup name

private theorem Value.lookup_str_ne_error {v : Value} (name : String) (f : Fault) : v.lookup
    (.str name) ≠ .error f := by
  intro h
  obtain ⟨hkey⟩ | ⟨-, hx⟩ := lookup_eq_error_iff.mp h
  cases hkey

private theorem lastNamed_cons (key : String) (v : Value) (rest : Fields) (name : String) :
    lastNamed ((key, v) :: rest) name = (lastNamed rest name).or (if key = name then some v else none) := by
  unfold lastNamed
  rw [List.reverse_cons, List.lookup_append, List.lookup_cons, List.lookup_nil]
  by_cases h : key = name
  · simp [h]
  · have hne : (name == key) = false := beq_false_of_ne (Ne.symm h)
    simp [h, hne]

namespace Heap

def member (heap : Heap) (v : Value) (name : String) : Value :=
  match (heap.current v).lookup (.str name) with
  | .ok member => member
  | .error _ => .none

/-- What one entry of a `set` assigns, once its value is there. -/
def bound (heap : Heap) (key : String) (v : Value) : Fields :=
  match parseDestructuring key with
  | some names => names.map fun name => (name, heap.member v name)
  | none => [(key, v)]

/-- What the entries of a `set` assign, in order. -/
def bindings (heap : Heap) (values : Fields) : Fields := values.flatMap fun entry => heap.bound entry.1 entry.2

/-- A value as far as it can be told from others, if there is one. -/
def seen (heap : Heap) (v : Option Value) : Option Value := v.map (Value.anonymize heap.knows)

/-- A mapping has exactly the names of some bindings, each once and with the last value. -/
structure Binds (heap : Heap) (entries : Entries) (bindings : Fields) : Prop where
  keyed : ∀ entry ∈ entries, ∃ name ∈ bindings.map Prod.fst, entry.1 = .str name
  distinct : entries.Distinct
  seen : ∀ name, heap.seen (Entries.named? entries name) = heap.seen (lastNamed bindings name)

variable {heap heap' : Heap} {v u : Value} {bindings : Fields}

private theorem lookup_member (heap : Heap) (v : Value) (name : String) :
    (heap.current v).lookup (.str name) = .ok (heap.member v name) := by
  unfold member
  cases h : (heap.current v).lookup (.str name) with
  | ok member => rfl
  | error f => exact absurd h (Value.lookup_str_ne_error name f)

private theorem Agrees.member (h : heap.Agrees v u) (name : String) :
    heap.Agrees (heap.member v name) (heap.member u name) := by
  obtain ⟨other, hother, hagrees⟩ := h.current.lookup (heap.lookup_member v name)
  obtain rfl := Except.ok.inj ((heap.lookup_member u name).symm.trans hother)
  exact hagrees

private theorem map_fst_bound (heap : Heap) (key : String) (v : Value) :
    (heap.bound key v).map Prod.fst = targets key := by
  unfold bound targets
  cases parseDestructuring key with
  | none => rfl
  | some names => simp [Function.comp_def]

private theorem map_fst_bindings (heap : Heap) (values : Fields) :
    (heap.bindings values).map Prod.fst = values.flatMap fun entry => targets entry.1 := by
  simp only [bindings, List.map_flatMap, map_fst_bound]

private theorem bindings_congr (h : heap'.contents = heap.contents) : heap'.bindings = heap.bindings := by
  funext values
  unfold bindings bound member
  rw [current_congr h]

/-- The same name with values that agree. -/
def Likewise (heap : Heap) (a b : String × Value) : Prop := a.1 = b.1 ∧ heap.Agrees a.2 b.2

private theorem seen_lookup {values others : Fields} (h : List.Forall₂ heap.Likewise values others) (name : String) :
    heap.seen (values.lookup name) = heap.seen (others.lookup name) := by
  induction h with
  | nil => rfl
  | @cons a b _ _ hab _ ih =>
    rw [List.lookup_cons, List.lookup_cons, hab.1]
    split
    · exact congrArg some hab.2
    · exact ih

private theorem seen_bindings {values others : Fields} (h : List.Forall₂ heap.Likewise values others) (name : String) :
    heap.seen (lastNamed (heap.bindings values) name) = heap.seen (lastNamed (heap.bindings others) name) := by
  have hbound (a b : String × Value) (hab : heap.Likewise a b) :
      List.Forall₂ heap.Likewise (heap.bound a.1 a.2) (heap.bound b.1 b.2) := by
    obtain ⟨key, v⟩ := a
    obtain ⟨_, u⟩ := b
    obtain ⟨rfl, hv⟩ := hab
    unfold bound
    dsimp only
    cases parseDestructuring key with
    | none => exact .cons ⟨rfl, hv⟩ .nil
    | some names =>
      rw [List.forall₂_map_left_iff, List.forall₂_map_right_iff, List.forall₂_same]
      exact fun name _ => ⟨rfl, hv.member name⟩
  exact seen_lookup (List.forall₂_reverse_iff.mpr (List.rel_flatMap h hbound)) name

end Heap

private theorem lookup_perm {fields others : Fields} (h : fields.Perm others) (hnodup : (fields.map Prod.fst).Nodup)
    (name : String) : fields.lookup name = others.lookup name := by
  induction h with
  | nil => rfl
  | cons field _ ih =>
    rw [List.lookup_cons, List.lookup_cons, ih (List.nodup_cons.mp hnodup).2]
  | swap a b rest =>
    have hne : a.1 ≠ b.1 := fun heq => (List.nodup_cons.mp hnodup).1 (by simp [heq])
    rw [List.lookup_cons, List.lookup_cons, List.lookup_cons, List.lookup_cons]
    by_cases ha : name = a.1
    · have hb : (name == b.1) = false := beq_false_of_ne (ha ▸ hne)
      rw [hb]
    · rw [beq_false_of_ne ha]
  | trans h _ ih ih' => exact (ih hnodup).trans (ih' ((h.map Prod.fst).nodup_iff.mp hnodup))

private theorem lookup_of_mem {fields : Fields} (hnodup : (fields.map Prod.fst).Nodup) {field : String × Value}
    (h : field ∈ fields) : fields.lookup field.1 = some field.2 := by
  obtain ⟨before, rest, rfl⟩ := List.append_of_mem h
  rw [lookup_perm List.perm_middle hnodup, List.lookup_cons_self]

private theorem lastNamed_perm {bindings others : Fields} (h : bindings.Perm others)
    (hnodup : (bindings.map Prod.fst).Nodup) (name : String) : lastNamed bindings name = lastNamed others name := by
  refine lookup_perm ((bindings.reverse_perm.trans h).trans others.reverse_perm.symm) ?_ name
  rw [List.map_reverse]
  exact (List.reverse_perm _).nodup_iff.mpr hnodup

namespace Entries

private theorem named?_ofList (bindings : Fields) (name : String) :
    named? (ofList (bindings.map fun (k, v) => (Value.str k, v))) name = lastNamed bindings name := by
  have hmerge (entries : Entries) : named? (merge entries (bindings.map fun (k, v) => (Value.str k, v))) name =
      (lastNamed bindings name).or (named? entries name) := by
    induction bindings generalizing entries with
    | nil => rfl
    | cons binding rest ih =>
      obtain ⟨key, v⟩ := binding
      have hstep : merge entries (((key, v) :: rest).map fun (k, v) => (Value.str k, v)) =
          merge (insert entries (.str key) v) (rest.map fun (k, v) => (Value.str k, v)) := rfl
      rw [hstep, ih, named?_insert, lastNamed_cons, Option.or_assoc]
      by_cases h : key = name
      · simp [Value.text?, h]
      · simp [Value.text?, h]
  exact (hmerge []).trans (Option.or_none)

end Entries

namespace Heap

variable {heap : Heap} {entries : Entries} {bindings others : Fields}

private theorem seen_named? (heap : Heap) (entries : Entries) (name : String) :
    heap.seen (Entries.named? entries name) = Entries.named? (Value.anonymizeEntries heap.knows entries) name := by
  rw [Value.anonymizeEntries_eq_mapValues, Entries.named?_mapValues]
  rfl

private theorem binds_ofList (heap : Heap) (bindings : Fields) :
    heap.Binds (Entries.ofList (bindings.map fun (name, v) => (.str name, v))) bindings where
  keyed entry hentry := by
    obtain hkey | hkey := Entries.key_of_mem_merge hentry
    · cases hkey
    · rw [List.map_map] at hkey
      obtain ⟨binding, hmem, hkey⟩ := List.mem_map.mp hkey
      exact ⟨binding.1, List.mem_map_of_mem hmem, hkey.symm⟩
  distinct := Entries.distinct_ofList _
  seen name := by rw [Entries.named?_ofList]

private theorem Binds.of_likewise {values others : Fields} (h : heap.Binds entries (heap.bindings values))
    (hlikewise : List.Forall₂ heap.Likewise values others) : heap.Binds entries (heap.bindings others) where
  keyed entry hentry := by
    have hkeys : values.map Prod.fst = others.map Prod.fst := by
      rw [← List.forall₂_eq_eq_eq, List.forall₂_map_left_iff, List.forall₂_map_right_iff]
      exact hlikewise.imp fun _ _ h => h.1
    obtain ⟨name, hmem, hkey⟩ := h.keyed entry hentry
    refine ⟨name, ?_, hkey⟩
    rw [map_fst_bindings, ← List.flatMap_map] at hmem ⊢
    rwa [← hkeys]
  distinct := h.distinct
  seen name := (h.seen name).trans (seen_bindings hlikewise name)

private theorem Binds.perm (h : heap.Binds entries bindings) (hperm : bindings.Perm others)
    (hnodup : (bindings.map Prod.fst).Nodup) : heap.Binds entries others where
  keyed entry hentry := by
    obtain ⟨name, hmem, hkey⟩ := h.keyed entry hentry
    exact ⟨name, (hperm.map Prod.fst).mem_iff.mp hmem, hkey⟩
  distinct := h.distinct
  seen name := by rw [h.seen name, lastNamed_perm hperm hnodup]

private theorem Binds.adopt (h : heap.Binds entries bindings) {next : Nat}
    (hnext : ∀ n, next ≤ n → heap.knows n = false) :
    heap.Binds (Value.adoptEntries false next entries).1 bindings := by
  have hkeys : (Value.adoptEntries false next entries).1.map Prod.fst = entries.map Prod.fst := by
    clear h hnext
    induction entries generalizing next with
    | nil => rfl
    | cons entry rest ih => exact congrArg (entry.1 :: ·) ih
  refine ⟨fun entry hentry => ?_, ?_, fun name => ?_⟩
  · have hmem : entry.1 ∈ entries.map Prod.fst := hkeys ▸ List.mem_map_of_mem hentry
    obtain ⟨other, hother, hkey⟩ := List.mem_map.mp hmem
    exact hkey ▸ h.keyed other hother
  · exact Entries.distinct_iff.mpr (hkeys ▸ Entries.distinct_iff.mp h.distinct)
  · rw [seen_named?, (Value.anonymizeEntries_adoptEntries entries hnext).1, ← seen_named?, h.seen]

private theorem likewise_zip {own : Fields} {values : List Value}
    (h : List.Forall₂ heap.Agrees (own.map Prod.snd) values) :
    List.Forall₂ heap.Likewise ((own.map Prod.fst).zip values) own := by
  induction own generalizing values with
  | nil => exact .nil
  | cons entry rest ih =>
    cases h with
    | cons hfirst hrest => exact .cons ⟨rfl, Eq.symm hfirst⟩ (ih hrest)

end Heap

/-! ## Setting -/

namespace Expander

variable {x : Expander} {w w' : World} {fields own : Fields}

/-- The keys of a `set` with what the values expand to, each alone. -/
def ExpandsEach (x : Expander) (w : World) (fields own : Fields) : Prop :=
  List.Forall₂ (fun field value => field.1 = value.1 ∧ ∃ w', x.expand field.2 w = .ok value.2 w') fields own

/-- The values of a `set` have no side effects, and nothing changes their objects any more. -/
structure SideEffectFree (x : Expander) (w : World) (fields : Fields) : Prop where
  kept : ∀ field ∈ fields, w.heap.Keeps (w.heap.current field.2)
  harmless : ∀ field ∈ fields, x.Harmless w (w.heap.current field.2)

private theorem SideEffectFree.of_subset {fields' : Fields} (h : x.SideEffectFree w fields) (hsub : fields' ⊆ fields) :
    x.SideEffectFree w fields' :=
  ⟨fun field hmem => h.kept field (hsub hmem), fun field hmem => h.harmless field (hsub hmem)⟩

private theorem expand_current {param : Value} (h : w.heap.current (w.heap.current param) = w.heap.current param) :
    x.expand (w.heap.current param) w = x.expand param w := by
  rw [expand_eq, h, ← expand_eq]

private theorem ExpandsEach.map_fst (h : x.ExpandsEach w fields own) : own.map Prod.fst = fields.map Prod.fst := by
  have heq : fields.map Prod.fst = own.map Prod.fst := by
    rw [← List.forall₂_eq_eq_eq, List.forall₂_map_left_iff, List.forall₂_map_right_iff]
    exact h.imp fun _ _ h => h.1
  exact heq.symm

private theorem ExpandsEach.perm {fields' : Fields} (h : x.ExpandsEach w fields own) (hperm : fields'.Perm fields)
    (hnodup : (fields.flatMap fun field => targets field.1).Nodup) : ∃ own', x.ExpandsEach w fields' own' ∧
      (w.heap.bindings own').Perm (w.heap.bindings own) ∧ ((w.heap.bindings own').map Prod.fst).Nodup := by
  obtain ⟨own', hown', hperm'⟩ := List.perm_comp_forall₂ hperm h
  have hbindings : (w.heap.bindings own').Perm (w.heap.bindings own) := hperm'.flatMap_right _
  have htargets : (w.heap.bindings own).map Prod.fst = fields.flatMap fun field => targets field.1 := by
    rw [Heap.map_fst_bindings, ← List.flatMap_map, h.map_fst, List.flatMap_map]
  refine ⟨own', hown', hbindings, ?_⟩
  rw [(hbindings.map Prod.fst).nodup_iff, htargets]
  exact hnodup

theorem assignments_str (key : String) (v : Value) (w : World) :
    assignments (.str key) v w = .ok ((w.heap.bound key v).map fun (name, v) => (.str name, v)) w := by
  unfold assignments Heap.bound
  dsimp only
  cases parseDestructuring key with
  | none => rfl
  | some names =>
    dsimp only
    rw [bind_ok (current_eq v w), List.map_map]
    refine mapM_ok fun name _ => ?_
    rw [Heap.lookup_member]
    rfl

private theorem expandSet_eq (hfields : (fields.map Prod.fst).Nodup) : x.expandSet (.record fields) w = (do
    let values ← x.expandAll (fields.map fun field : String × Value => w.heap.current field.2)
    let assigned ← ((fields.map fun field : String × Value => Value.str field.1).zip values).mapM
      fun entry : Value × Value => assignments entry.1 entry.2
    Run.store (.dict .anonymous (Entries.ofList assigned.flatten))) w := by
  let shown : Fields := fields.map fun field => (field.1, w.heap.current field.2)
  have hcurrent : w.heap.current (.record fields) = .record shown := by
    rw [Value.record, Heap.current_dict, Entries.mapValues, List.map_map, Value.record, List.map_map]
    rfl
  have hkeys : (Value.record shown).elements = .ok (fields.map fun field => .str field.1) := by
    simp [shown, Value.record, Value.elements, Value.elements?]
  have hdifferent : (shown.map Prod.fst).Nodup := by
    rw [List.map_map]
    exact hfields
  have hparams : (fields.map fun field => Value.str field.1).mapM
      (fun key => Run.ofOutcome ((Value.record shown).subscript key)) w =
        .ok (fields.map fun field => w.heap.current field.2) w := by
    rw [List.mapM_map]
    refine mapM_ok fun field hmem => ?_
    have hshown : (field.1, w.heap.current field.2) ∈ shown := List.mem_map_of_mem hmem
    have hget : Entries.get? (shown.map fun (k, v) => (Value.str k, v)) (.str field.1) =
        some (w.heap.current field.2) :=
      (Entries.named?_fields shown field.1).trans (lookup_of_mem hdifferent hshown)
    have hsubscript : (Value.record shown).subscript (.str field.1) = .ok (w.heap.current field.2) := by
      rw [Value.record, Value.subscript, hget]
      rfl
    rw [Function.comp_apply, hsubscript]
    rfl
  rw [expandSet, bind_ok (current_eq _ w), hcurrent, hkeys]
  change ((fields.map fun field => Value.str field.1).mapM
    (fun key => Run.ofOutcome ((Value.record shown).subscript key)) >>= _) w = _
  rw [bind_ok hparams]

private theorem expandSet_of_expandAll (hfields : (fields.map Prod.fst).Nodup) {values : List Value}
    (hvalues : x.expandAll (fields.map fun field => w.heap.current field.2) w = .ok values w') :
    x.expandSet (.record fields) w = Run.store (.dict .anonymous (Entries.ofList
      ((w'.heap.bindings ((fields.map Prod.fst).zip values)).map fun (name, v) => (.str name, v)))) w' := by
  have hassigned : ((fields.map fun field => Value.str field.1).zip values).mapM
      (fun entry => assignments entry.1 entry.2) w' = .ok (((fields.map Prod.fst).zip values).map fun entry =>
        (w'.heap.bound entry.1 entry.2).map fun (name, v) => (.str name, v)) w' := by
    have hzip : (fields.map fun field => Value.str field.1).zip values =
        ((fields.map Prod.fst).zip values).map (Prod.map Value.str id) := by
      rw [← List.zip_map_left, List.map_map]
      rfl
    rw [hzip, List.mapM_map]
    exact mapM_ok fun entry _ => assignments_str entry.1 entry.2 w'
  rw [expandSet_eq hfields, bind_ok hvalues, bind_ok hassigned, Heap.bindings, List.map_flatMap, List.flatMap_def]

private theorem expandSet_of_expandsEach (hfields : (fields.map Prod.fst).Nodup) (hfresh : w.heap.Fresh)
    (hfree : x.SideEffectFree w fields) (h : x.ExpandsEach w fields own) :
    ∃ n entries w', x.expandSet (.record fields) w = .ok (.dict (.object n) entries) w' ∧ w.Unaffected w' ∧
      w.heap.knows n = false ∧ w.heap.Binds entries (w.heap.bindings own) := by
  have hvalues : List.Forall₂ (fun param v => ∃ w', x.expand param w = .ok v w')
      (fields.map fun field => w.heap.current field.2) (own.map Prod.snd) := by
    rw [List.forall₂_map_left_iff, List.forall₂_map_right_iff]
    refine forall₂_of_mem h fun field hmem value hvalue => ?_
    rw [expand_current (hfree.kept field hmem _ .refl)]
    exact hvalue.2
  obtain ⟨values, w', hexpand, hw', hagrees⟩ := expandAll_of_expand (List.forall_mem_map.mpr hfree.kept)
    (List.forall_mem_map.mpr hfree.harmless) hvalues
  have hnew (n : Nat) (hn : w'.heap.next ≤ n) : w.heap.knows n = false := by
    rw [Heap.knows, hfresh n (Nat.le_trans hw'.next hn)]
    rfl
  have hbinds : w.heap.Binds (Entries.ofList
      ((w'.heap.bindings ((fields.map Prod.fst).zip values)).map fun (name, v) => (.str name, v)))
      (w.heap.bindings own) := by
    rw [Heap.bindings_congr hw'.contents, ← h.map_fst]
    exact (w.heap.binds_ofList _).of_likewise (Heap.likewise_zip hagrees)
  refine ⟨w'.heap.next, _, _, (expandSet_of_expandAll hfields hexpand).trans (store_dict _ w'),
    ⟨hw'.session, hw'.contents, hw'.templateLimit, ?_⟩, hnew _ (Nat.le_refl _),
    hbinds.adopt fun n hn => hnew n (Nat.le_of_succ_le hn)⟩
  exact Nat.le_trans hw'.next (Nat.le_of_succ_le (Value.le_adoptEntries false _ _))

private theorem expand_of_expandSet (hfields : (fields.map Prod.fst).Nodup) (hfree : x.SideEffectFree w fields)
    {v : Value}
    (h : x.expandSet (.record fields) w = .ok v w') : ∀ field ∈ fields, ∃ u w'', x.expand field.2 w = .ok u w'' := by
  rw [expandSet_eq hfields] at h
  obtain ⟨values, w₁, hvalues, -⟩ := bind_eq_ok h
  have hexpand := expand_of_expandAll (List.forall_mem_map.mpr hfree.kept) (List.forall_mem_map.mpr hfree.harmless)
    hvalues
  intro field hmem
  rw [← expand_current (hfree.kept field hmem _ .refl)]
  exact hexpand _ (List.mem_map_of_mem hmem)

/-- Entries that assign different names bind the same in every order. -/
theorem expandSet_perm (hfields : (fields.map Prod.fst).Nodup) (hfresh : w.heap.Fresh)
    (hfree : x.SideEffectFree w fields) (hown : x.ExpandsEach w fields own) {fields' : Fields}
    (hperm : fields'.Perm fields) (hnodup : (fields.flatMap fun field => targets field.1).Nodup) :
    ∃ n entries w', x.expandSet (.record fields') w = .ok (.dict (.object n) entries) w' ∧ w.Unaffected w' ∧
      w.heap.Binds entries (w.heap.bindings own) := by
  obtain ⟨own', hown', hbindings, hdifferent⟩ := hown.perm hperm hnodup
  obtain ⟨n, entries, w', hset, hw', -, hbinds⟩ := expandSet_of_expandsEach
    ((hperm.map Prod.fst).nodup_iff.mpr hfields) hfresh (hfree.of_subset hperm.subset) hown'
  exact ⟨n, entries, w', hset, hw', hbinds.perm hbindings hdifferent⟩

private theorem exists_expandsEach (h : ∀ field ∈ fields, ∃ v w', x.expand field.2 w = .ok v w') :
    ∃ own, x.ExpandsEach w fields own := by
  induction fields with
  | nil => exact ⟨[], .nil⟩
  | cons field rest ih =>
    obtain ⟨⟨v, hv⟩, hrest⟩ := List.forall_mem_cons.mp h
    obtain ⟨own, hown⟩ := ih hrest
    exact ⟨(field.1, v) :: own, .cons ⟨rfl, hv⟩ hown⟩

end Expander

/-! ## Variables after a set -/

private theorem ne_empty_of_mem_targets {key name : String} (hkey : key ≠ "") (h : name ∈ targets key) : name ≠ "" := by
  unfold targets at h
  cases hparse : parseDestructuring key with
  | none =>
    rw [hparse] at h
    rwa [List.mem_singleton.mp h]
  | some names =>
    rw [hparse] at h
    have hname : ∃ cs, isPatternName cs = true ∧ String.ofList cs = name := by
      unfold parseDestructuring at hparse
      split at hparse
      · split at hparse
        · dsimp only at hparse
          split at hparse
          · rename_i hall
            obtain rfl := Option.some.inj hparse
            obtain ⟨cs, hcs, rfl⟩ := List.mem_map.mp h
            exact ⟨cs, List.all_eq_true.mp hall cs hcs, rfl⟩
          · cases hparse
        · cases hparse
      · cases hparse
    obtain ⟨cs, hcs, rfl⟩ := hname
    cases cs with
    | nil => cases hcs
    | cons c rest => exact fun heq => by simpa using congrArg String.toList heq

namespace Heap

variable {heap : Heap} {a b a' b' : Option Value}

private theorem seen_or (h : heap.seen a = heap.seen a') (h' : heap.seen b = heap.seen b') :
    heap.seen (a.or b) = heap.seen (a'.or b') := by
  cases a <;> cases a' <;> first | exact h' | exact h | cases h

private theorem seen_map_current (h : heap.seen a = heap.seen b) :
    heap.seen (a.map heap.current) = heap.seen (b.map heap.current) := by
  cases a with
  | none =>
    cases b with
    | none => rfl
    | some u => cases h
  | some v =>
    cases b with
    | none => cases h
    | some u =>
      have hagrees : heap.Agrees v u := Option.some.inj h
      exact congrArg some hagrees.current

variable {entries : Entries} {bindings : Fields}

private theorem Binds.distinct_current (h : heap.Binds entries bindings) :
    (Entries.mapValues heap.current entries).Distinct :=
  Entries.distinct_iff.mpr (Entries.map_fst_mapValues _ entries ▸ Entries.distinct_iff.mp h.distinct)

private theorem Binds.seen_current (h : heap.Binds entries bindings) (name : String) :
    heap.seen (Entries.named? (Entries.mapValues heap.current entries) name) =
      heap.seen ((lastNamed bindings name).map heap.current) := by
  rw [Entries.named?_mapValues]
  exact seen_map_current (h.seen name)

end Heap

private theorem Expander.ExpandsEach.ne_empty {x : Expander} {w : World} {fields own : Fields}
    (h : x.ExpandsEach w fields own)
    (hnames : ∀ field ∈ fields, field.1 ≠ "") {name : String} (hname : name ∈ (w.heap.bindings own).map Prod.fst) :
    name ≠ "" := by
  rw [Heap.map_fst_bindings] at hname
  obtain ⟨value, hvalue, hname⟩ := List.mem_flatMap.mp hname
  obtain ⟨field, hfield, heq⟩ := List.mem_map.mp (h.map_fst ▸ List.mem_map_of_mem hvalue)
  exact ne_empty_of_mem_targets (heq ▸ hnames field hfield) hname

/-- After a set, what it binds shows up on top of the variables `env` of the run and, each name in its scope, on top of
those of the session. -/
structure Assignment (w : World) (env : Entries) (bindings : Fields) (vars : Value) (w' : World) : Prop where
  contents : w'.heap.contents = w.heap.contents
  run : ∃ n entries, vars = .dict (.object n) entries ∧ ∀ name, w.heap.seen (Entries.named? entries name) =
    w.heap.seen (((lastNamed bindings name).map w.heap.current).or (Entries.named? env name))
  session : ∀ scope name, w.heap.seen (Entries.named? (w'.session.entriesIn scope) name) =
    w.heap.seen (if variableScope name = scope then
      ((lastNamed bindings name).map w.heap.current).or (Entries.named? (w.session.entriesIn scope) name)
    else Entries.named? (w.session.entriesIn scope) name)

private theorem Assignment.perm {w w' : World} {env : Entries} {bindings others : Fields} {vars : Value}
    (h : Assignment w env bindings vars w') (hperm : bindings.Perm others) (hnodup : (bindings.map Prod.fst).Nodup) :
    Assignment w env others vars w' := by
  have hlast : lastNamed bindings = lastNamed others := funext (lastNamed_perm hperm hnodup)
  exact ⟨h.contents, hlast ▸ h.run, hlast ▸ h.session⟩

namespace Machine

variable {m : Machine} {at_ : FlowPath} {vars : Value} {w w' : World} {fields own : Fields}

private theorem runSteps_set (m : Machine) (key : String) (path : FlowPath) (targets : Targets) (vars : Value)
    (at_ : FlowPath)
    (fields : Fields) (rest : List Step) : m.runSteps key path targets vars (.set at_ fields :: rest) =
      m.assign at_ fields vars >>= fun vars => m.runSteps key path targets vars rest := by
  rw [runSteps, runStep, assign]
  simp only [bind_assoc, pure_bind]

private theorem assign_of_expandsEach (hfields : (fields.map Prod.fst).Nodup) (hnames : ∀ field ∈ fields, field.1 ≠ "")
    (hfresh : w.heap.Fresh) (hfree : (m.expander vars at_).SideEffectFree w fields)
    (hown : (m.expander vars at_).ExpandsEach w fields own) (hlocked : w.session.locked = false) {id : Identity}
    {env : Entries} (hvars : w.heap.current vars = .dict id env) :
    ∃ v w', m.assign at_ fields vars w = .ok v w' ∧ Assignment w env (w.heap.bindings own) v w' := by
  obtain ⟨n, entries, w₁, hset, hw₁, hn, hbinds⟩ :=
    Expander.expandSet_of_expandsEach hfields hfresh hfree hown
  let shown := Entries.mapValues w.heap.current entries
  have hshown : w₁.heap.current (.dict (.object n) entries) = .dict (.object n) shown := by
    rw [hw₁.current]
    exact Heap.current_unchanged (Option.isNone_iff_eq_none.mp (by simpa [Heap.knows] using hn)) entries
  have hproper : ∀ entry ∈ shown, ∃ name, entry.1 = .str name ∧ name ≠ "" := by
    refine List.forall_mem_map.mpr fun entry hmem => ?_
    obtain ⟨name, hname, hkey⟩ := hbinds.keyed entry hmem
    exact ⟨name, hkey, hown.ne_empty hnames hname⟩
  obtain ⟨s', hsave, hsession⟩ := Session.save_of_names (hw₁.session ▸ hlocked) hproper (.object n)
  let w₂ : World := { w₁ with session := s' }
  have hsetVariables : m.setVariables at_ fields vars w = .ok shown w₂ := by
    rw [setVariables, bind_ok hset, bind_ok (current_eq _ w₁), hshown, bind_ok (onSession_ok hsave)]
    rfl
  have hcurrent : w₂.heap.current vars = .dict id env := (congrFun hw₁.current vars).trans hvars
  have hoverlay : overlay vars shown w₂ = Run.store (.dict .anonymous (Entries.merge env shown)) w₂ := by
    rw [overlay, bind_ok (current_eq vars w₂), hcurrent]
  have hnew (n : Nat) (hn : w₂.heap.next + 1 ≤ n) : w.heap.knows n = false := by
    have hle : w.heap.next ≤ w₂.heap.next := hw₁.next
    rw [Heap.knows, hfresh n (by omega)]
    rfl
  refine ⟨_, _, (bind_ok hsetVariables).trans (hoverlay.trans (store_dict _ w₂)), hw₁.contents,
    ⟨_, _, rfl, fun name => ?_⟩, fun scope name => ?_⟩
  · rw [Heap.seen_named?, (Value.anonymizeEntries_adoptEntries _ hnew).1, ← Heap.seen_named?,
      Entries.named?_merge hbinds.distinct_current]
    exact Heap.seen_or (hbinds.seen_current name) rfl
  · change w.heap.seen (Entries.named? (s'.entriesIn scope) name) = _
    rw [hsession, hw₁.session]
    split
    · rw [Entries.named?_merge hbinds.distinct_current]
      exact Heap.seen_or (hbinds.seen_current name) rfl
    · rfl

private theorem assign_eq_ok (hfields : (fields.map Prod.fst).Nodup) (hfresh : w.heap.Fresh)
    (hfree : (m.expander vars at_).SideEffectFree w fields) {v : Value}
    (h : m.assign at_ fields vars w = .ok v w') : w.session.locked = false ∧
      (∃ id env, w.heap.current vars = .dict id env) ∧ ∃ own, (m.expander vars at_).ExpandsEach w fields own := by
  obtain ⟨values, w₂, hset, hoverlay⟩ := bind_eq_ok h
  obtain ⟨u, w₁, hexpand, hsave⟩ := bind_eq_ok hset
  have heach := Expander.expand_of_expandSet hfields hfree hexpand
  obtain ⟨own, hown⟩ := Expander.exists_expandsEach heach
  obtain ⟨n, entries, w₁', hexpand', hw₁, -, -⟩ :=
    Expander.expandSet_of_expandsEach hfields hfresh hfree hown
  cases hexpand.symm.trans hexpand'
  rw [bind_ok (current_eq _ w₁)] at hsave
  obtain ⟨_, w₂', hsave, hvalues⟩ := bind_eq_ok hsave
  cases hvalues
  cases hsaved : Session.save (w₁.heap.current (.dict (.object n) entries)) w₁.session with
  | error e s =>
    rw [onSession_error hsaved] at hsave
    cases hsave
  | ok _ s =>
    rw [onSession_ok hsaved] at hsave
    cases hsave
    have hlocked : w.session.locked = false := by
      cases hlock : w.session.locked with
      | false => rfl
      | true =>
        rw [Session.save_locked _ (hw₁.session ▸ hlock)] at hsaved
        cases hsaved
    have hcurrent : ({ w₁ with session := s } : World).heap.current vars = w.heap.current vars :=
      congrFun hw₁.current vars
    rw [overlay, bind_ok (current_eq vars _), hcurrent] at hoverlay
    cases hvars : w.heap.current vars with
    | dict id env => exact ⟨hlocked, ⟨id, env, rfl⟩, own, hown⟩
    | _ =>
      rw [hvars] at hoverlay
      cases hoverlay

/-- Entries that assign different names set the same variables in every order. -/
theorem assign_perm (hfields : (fields.map Prod.fst).Nodup) (hnames : ∀ field ∈ fields, field.1 ≠ "")
    (hfresh : w.heap.Fresh) (hfree : (m.expander vars at_).SideEffectFree w fields)
    (hown : (m.expander vars at_).ExpandsEach w fields own) {fields' : Fields} (hperm : fields'.Perm fields)
    (hnodup : (fields.flatMap fun field => targets field.1).Nodup) {v : Value}
    (h : m.assign at_ fields vars w = .ok v w') : ∃ v' w'' id env, w.heap.current vars = .dict id env ∧
      m.assign at_ fields' vars w = .ok v' w'' ∧ Assignment w env (w.heap.bindings own) v w' ∧
        Assignment w env (w.heap.bindings own) v' w'' := by
  obtain ⟨hlocked, ⟨id, env, hvars⟩, -⟩ := assign_eq_ok hfields hfresh hfree h
  obtain ⟨v₁, w₁, hassign, hspec⟩ := assign_of_expandsEach hfields hnames hfresh hfree hown hlocked hvars
  cases h.symm.trans hassign
  obtain ⟨own', hown', hbindings, hdifferent⟩ := hown.perm hperm hnodup
  obtain ⟨v', w'', hassign', hspec'⟩ := assign_of_expandsEach ((hperm.map Prod.fst).nodup_iff.mpr hfields)
    (fun field hmem => hnames field (hperm.mem_iff.mp hmem)) hfresh (hfree.of_subset hperm.subset) hown' hlocked hvars
  exact ⟨v', w'', id, env, hvars, hassign', hspec, hspec'.perm hbindings hdifferent⟩

/-- A set assigns all its names at once, where handlers and templates have no side effects. Its values expand together
if and only if each of them expands alone in the world before; then exactly its names are bound, each to the last value,
and nothing has changed. The step goes on with what is assigned that way. If all names are different, the order of the
entries makes no difference, neither to what is bound nor to the variables of the run and of the session once they are
set. -/
theorem set_is_simultaneous (m : Machine) (at_ : FlowPath) (vars : Value) {fields : Fields} {w : World}
    (hfields : (fields.map Prod.fst).Nodup) (hnames : ∀ field ∈ fields, field.1 ≠ "") (hfresh : w.heap.Fresh)
    (hfree : (m.expander vars at_).SideEffectFree w fields) :
    let x := m.expander vars at_
    (∀ key path jumps rest, m.runSteps key path jumps vars (.set at_ fields :: rest) =
        m.assign at_ fields vars >>= fun vars => m.runSteps key path jumps vars rest) ∧
      ((∃ v w', x.expandSet (.record fields) w = .ok v w') ↔
        ∀ field ∈ fields, ∃ v w', x.expand field.2 w = .ok v w') ∧
      ∀ own, x.ExpandsEach w fields own →
        (∃ n entries w', x.expandSet (.record fields) w = .ok (.dict (.object n) entries) w' ∧ w.Unaffected w' ∧
          w.heap.Binds entries (w.heap.bindings own)) ∧
        ∀ fields', fields'.Perm fields → (fields.flatMap fun field => targets field.1).Nodup →
          (∃ n entries w', x.expandSet (.record fields') w = .ok (.dict (.object n) entries) w' ∧ w.Unaffected w' ∧
            w.heap.Binds entries (w.heap.bindings own)) ∧
          ∀ v w', m.assign at_ fields vars w = .ok v w' → ∃ v' w'' id env, w.heap.current vars = .dict id env ∧
            m.assign at_ fields' vars w = .ok v' w'' ∧ Assignment w env (w.heap.bindings own) v w' ∧
              Assignment w env (w.heap.bindings own) v' w'' := by
  intro x
  refine ⟨fun key path jumps rest => runSteps_set m key path jumps vars at_ fields rest,
    ⟨fun ⟨v, w', h⟩ => Expander.expand_of_expandSet hfields hfree h, fun h => ?_⟩, fun own hown => ⟨?_, ?_⟩⟩
  · obtain ⟨own, hown⟩ := Expander.exists_expandsEach h
    obtain ⟨n, entries, w', hset, -⟩ := Expander.expandSet_of_expandsEach hfields hfresh hfree hown
    exact ⟨_, w', hset⟩
  · obtain ⟨n, entries, w', hset, hw', -, hbinds⟩ := Expander.expandSet_of_expandsEach hfields hfresh hfree hown
    exact ⟨n, entries, w', hset, hw', hbinds⟩
  · intro fields' hperm hnodup
    exact ⟨Expander.expandSet_perm hfields hfresh hfree hown hperm hnodup,
      fun v w' hassign => assign_perm hfields hnames hfresh hfree hown hperm hnodup hassign⟩

/-- A variable takes the value of another one while that is assigned by a pattern, together with a name that the value
of the pattern does not have. -/
theorem pattern_and_name_are_simultaneous :
    let m : Machine := ⟨⟨fun _ _ => pure (.record [("b", .int 1)])⟩, [], { dialog := { name := "Trial" } }⟩
    let w : World := { session := { id := .str "s" } }
    let x := m.expander (.record [("b", .int 2)]) []
    ∃ n entries w', x.expandSet (.record [("\x7bb, c\x7d", .function ⟨0, "f", [], false⟩),
        ("a", .accessor .anonymous [.member (.str "b")])]) w = .ok (.dict (.object n) entries) w' ∧
      w.Unaffected w' ∧ w.heap.Binds entries [("b", .int 1), ("c", .none), ("a", .int 2)] := by
  intro m w x
  let fields : Fields := [("\x7bb, c\x7d", .function ⟨0, "f", [], false⟩),
    ("a", .accessor .anonymous [.member (.str "b")])]
  have hfunction : x.Harmless w (.function ⟨0, "f", [], false⟩) :=
    Expander.harmless_of_asked nofun rfl fun w₁ hw₁ => ⟨_, rfl, hw₁.session, hw₁.contents, hw₁.templateLimit, hw₁.next⟩
  have haccessor : x.Harmless w (.accessor .anonymous [.member (.str "b")]) := by
    refine Expander.harmless_of_asked (v := .int 2) nofun rfl fun w₁ hw₁ => ⟨w₁, ?_, hw₁⟩
    obtain ⟨session, ⟨next, contents⟩, templates, limit, calls, slept, logs, notes⟩ := w₁
    obtain rfl : contents = [] := hw₁.contents
    with_unfolding_all rfl
  have hfree : x.SideEffectFree w fields :=
    ⟨fun field _ part _ => Heap.current_of_isEmpty rfl part, by simpa [fields, w] using ⟨hfunction, haccessor⟩⟩
  have hown : x.ExpandsEach w fields [("\x7bb, c\x7d", .record [("b", .int 1)]), ("a", .int 2)] :=
    .cons ⟨rfl, _, by with_unfolding_all rfl⟩ (.cons ⟨rfl, w, by with_unfolding_all rfl⟩ .nil)
  have hbindings : w.heap.bindings [("\x7bb, c\x7d", .record [("b", .int 1)]), ("a", .int 2)] =
      [("b", .int 1), ("c", .none), ("a", .int 2)] := by
    with_unfolding_all rfl
  have hset := set_is_simultaneous m [] (.record [("b", .int 2)]) (by decide) (by decide) (fun _ _ => rfl) hfree
  rw [← hbindings]
  exact (hset.2.2 _ hown).1

/-- Whether an expansion succeeds with a dict that has nothing under a name. -/
def givesNone (name : String) : EStateM.Result Error World Value → Bool
  | .ok (.dict _ entries) _ => (Entries.named? entries name).any Value.isNone
  | _ => false

private theorem exists_of_givesNone {name : String} {r : EStateM.Result Error World Value}
    (h : givesNone name r = true) :
    ∃ id entries w, r = .ok (.dict id entries) w ∧ Entries.named? entries name = some .none := by
  unfold givesNone at h
  split at h
  · obtain ⟨v, hnamed, hnone⟩ := (Option.any_eq_true _ _).mp h
    cases v with
    | none => exact ⟨_, _, _, rfl, hnamed⟩
    | _ => cases hnone
  · cases h

/-- Where a template takes the last element from a list, an entry after it that reads this element finds nothing, though
it expands to the element alone. -/
theorem popping_template_is_seen_by_later_entries :
    let vars : Value := .record [("xs", .list (.object 0) [.int 1, .int 2])]
    let x : Expander := ⟨⟨fun _ _ => pure .none⟩, [], vars, sessionValue, .tuple []⟩
    let w : World := { session := { id := .str "s" }, heap := { next := 1 } }
    let item : Value := .accessor .anonymous [.member (.str "xs"), .item (.int 1)]
    x.expand item w = .ok (.int 2) w ∧ ∃ id entries w',
      x.expandSet (.record [("a", .str "\x7b\x7b xs.pop() \x7d\x7d"), ("b", item)]) w = .ok (.dict id entries) w' ∧
        Entries.named? entries "b" = some .none := by
  intro vars x w item
  exact ⟨by with_unfolding_all rfl, exists_of_givesNone (by decide +kernel)⟩

end Machine

end Colloquy
