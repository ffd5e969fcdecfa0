import Colloquy.Proofs.Value.Entries

/-!
# Shared objects that change

An object keeps its identity and its kind, and what is known of it is never forgotten. So a value that was brought up
to date once can be brought up to date again later, and giving identities to objects that have them changes
nothing.
-/

namespace Colloquy

namespace Value

/-! ## Values whose objects have identities -/

mutual

/-- All lists and dictionaries that a value consists of have an identity. -/
def Owned : Value → Prop
  | .list id _ | .dict id _ => id ≠ .anonymous
  | .tuple items => AllOwned items
  | .negated v => v.Owned
  | _ => True

/-- All lists and dictionaries that values consist of have an identity. -/
def AllOwned : List Value → Prop
  | [] => True
  | v :: vs => v.Owned ∧ AllOwned vs

end

mutual

private theorem adopt_of_owned (v : Value) (h : v.Owned) (next : Nat) : v.adopt false next = (v, next) := by
  cases v with
  | list id items | dict id entries =>
    have hid : (id == .anonymous) = false := by simpa [Owned] using h
    simp [adopt, hid]
  | tuple items =>
    rw [adopt, adoptAll_of_owned items h next]
  | negated v =>
    rw [adopt, adopt_of_owned v h next]
  | _ => rfl
termination_by structural v

theorem adoptAll_of_owned (vs : List Value) (h : AllOwned vs) (next : Nat) :
    adoptAll false next vs = (vs, next) := by
  match vs with
  | [] => rfl
  | v :: rest =>
    rw [adoptAll, adopt_of_owned v h.1 next]
    dsimp only
    rw [adoptAll_of_owned rest h.2 next]
termination_by structural vs

end

mutual

private theorem owned_adopt (v : Value) (next : Nat) : (v.adopt false next).1.Owned := by
  cases v with
  | list id items | dict id entries =>
    rw [adopt]
    split
    · simp [Owned]
    · rename_i hid
      simpa [Owned] using hid
  | tuple items => exact allOwned_adoptAll items next
  | negated v => exact owned_adopt v next
  | _ => trivial
termination_by structural v

private theorem allOwned_adoptAll (vs : List Value) (next : Nat) : AllOwned (adoptAll false next vs).1 := by
  match vs with
  | [] => trivial
  | v :: rest => exact ⟨owned_adopt v next, allOwned_adoptAll rest _⟩
termination_by structural vs

end

theorem adoptEntries_of_owned {entries : Entries} (h : ∀ entry ∈ entries, entry.2.Owned) (next : Nat) :
    adoptEntries false next entries = (entries, next) := by
  induction entries with
  | nil => rfl
  | cons entry rest ih =>
    obtain ⟨hfirst, hrest⟩ := List.forall_mem_cons.mp h
    obtain ⟨k, v⟩ := entry
    rw [adoptEntries, adopt_of_owned v hfirst]
    dsimp only
    rw [ih hrest]

theorem owned_adoptEntries (entries : Entries) (next : Nat) :
    ∀ entry ∈ (adoptEntries false next entries).1, entry.2.Owned := by
  induction entries generalizing next with
  | nil => nofun
  | cons entry rest ih =>
    obtain ⟨k, v⟩ := entry
    exact List.forall_mem_cons.mpr ⟨owned_adopt v next, ih _⟩

theorem named?_adoptEntries {entries : Entries} {name : String}
    (h : ∀ v, Entries.named? entries name = some v → v.Owned) (next : Nat) :
    Entries.named? (adoptEntries false next entries).1 name = Entries.named? entries name := by
  induction entries generalizing next with
  | nil => rfl
  | cons entry rest ih =>
    obtain ⟨k, v⟩ := entry
    rw [adoptEntries]
    rw [Entries.named?_cons] at h ⊢
    by_cases hk : k.text? = some name
    · simp only [hk, if_true, Option.some.injEq, forall_eq'] at h
      simp [adopt_of_owned v h, Entries.named?_cons, hk]
    · simp only [hk, if_false] at h
      simp [Entries.named?_cons, hk, ih h]

/-! ## Objects that change -/

def isDict : Value → Bool
  | .dict .. => true
  | _ => false

/-- A value is the object of an identity: a list or a dictionary. -/
def IsObject (n : Nat) (v : Value) : Prop :=
  (∃ items, v = .list (.object n) items) ∨ ∃ entries, v = .dict (.object n) entries

private theorem IsObject.owned {n : Nat} {v : Value} (h : v.IsObject n) : v.Owned := by
  obtain ⟨items, rfl⟩ | ⟨entries, rfl⟩ := h <;> simp [Owned]

/-- All that a list or a dictionary holds has identities. -/
def Filled : Value → Prop
  | .list _ items => AllOwned items
  | .dict _ entries => ∀ entry ∈ entries, entry.2.Owned
  | _ => True

variable {content content' : Nat → Option Value}

private theorem IsObject.refresh {n : Nat} {v c : Value} (h : v.IsObject n) (hc : content n = some c) :
    v.refresh content = c := by
  obtain ⟨items, rfl⟩ | ⟨entries, rfl⟩ := h <;> simp [Value.refresh, hc]

private theorem IsObject.unique {n m : Nat} {v : Value} (h : v.IsObject n) (h' : v.IsObject m) : n = m := by
  obtain ⟨items, rfl⟩ | ⟨entries, rfl⟩ := h
  · obtain ⟨items', heq⟩ | ⟨entries', heq⟩ := h' <;> cases heq
    rfl
  · obtain ⟨items', heq⟩ | ⟨entries', heq⟩ := h' <;> cases heq
    rfl

private theorem refresh_eq_of_isObject (hcontent : ∀ n c, content n = some c → c.IsObject n) {v : Value} {n : Nat}
    (h : (v.refresh content).IsObject n) {c : Value} (hc : content n = some c) : v.refresh content = c := by
  have hknown (m : Nat) (own : Value) (hown : own.IsObject m) (heq : v.refresh content = own.refresh content) :
      v.refresh content = c := by
    cases hm : content m with
    | some known =>
      rw [hown.refresh hm] at heq
      rw [heq] at h ⊢
      obtain rfl := (hcontent m known hm).unique h
      exact Option.some.inj (hm.symm.trans hc)
    | none =>
      have hobject : (own.refresh content).IsObject m := by
        obtain ⟨items, rfl⟩ | ⟨entries, rfl⟩ := hown <;> simp [refresh, hm, IsObject]
      obtain rfl := hobject.unique (heq ▸ h)
      rw [hm] at hc
      cases hc
  cases v with
  | list id items =>
    cases id with
    | object m => exact hknown m _ (.inl ⟨_, rfl⟩) rfl
    | _ => simp [refresh, IsObject] at h
  | dict id entries =>
    cases id with
    | object m => exact hknown m _ (.inr ⟨_, rfl⟩) rfl
    | _ => simp [refresh, IsObject] at h
  | view kind id entries =>
    cases id with
    | object m =>
      rw [refresh] at h
      split at h <;> simp [IsObject] at h
    | _ => simp [refresh, IsObject] at h
  | _ => simp [refresh, IsObject] at h

mutual

private theorem owned_refresh (hcontent : ∀ n c, content n = some c → c.IsObject n) (v : Value) (h : v.Owned) :
    (v.refresh content).Owned := by
  cases v with
  | list id items | dict id entries =>
    cases id with
    | object n =>
      rw [refresh]
      split
      · rename_i c hc
        exact (hcontent n c hc).owned
      · simp [Owned]
    | _ => exact h
  | tuple items => exact allOwned_refreshAll hcontent items h
  | negated v => exact owned_refresh hcontent v h
  | view kind id entries =>
    cases id with
    | object n =>
      rw [refresh]
      split <;> trivial
    | _ => trivial
  | _ => trivial
termination_by structural v

private theorem allOwned_refreshAll (hcontent : ∀ n c, content n = some c → c.IsObject n) (vs : List Value)
    (h : AllOwned vs) :
    AllOwned (refreshAll content vs) := by
  match vs with
  | [] => trivial
  | v :: rest => exact ⟨owned_refresh hcontent v h.1, allOwned_refreshAll hcontent rest h.2⟩
termination_by structural vs

end

private theorem owned_refreshEntries (hcontent : ∀ n c, content n = some c → c.IsObject n) {entries : Entries}
    (h : ∀ entry ∈ entries, entry.2.Owned) : ∀ entry ∈ refreshEntries content entries, entry.2.Owned := by
  rw [refreshEntries_eq_map]
  intro entry hentry
  obtain ⟨own, hown, rfl⟩ := List.mem_map.mp hentry
  exact owned_refresh hcontent own.2 (h own hown)

/-- What is known later knows all that was known before, and objects stay of their kind. -/
def Extends (content content' : Nat → Option Value) : Prop :=
  ∀ n c, content n = some c → c.IsObject n ∧ ∃ c', content' n = some c' ∧ c'.isDict = c.isDict

mutual

private theorem refresh_refresh (h : Extends content content') (h' : ∀ n c, content' n = some c → c.IsObject n)
    (v : Value) :
    (v.refresh content).refresh content' = v.refresh content' := by
  cases v with
  | list id items =>
    cases id with
    | object n =>
      cases hc : content n with
      | some c =>
        obtain ⟨hobject, c', hc', -⟩ := h n c hc
        simp [refresh, hc, hobject.refresh hc', hc']
      | none =>
        cases hc' : content' n with
        | some c' => simp [refresh, hc, hc']
        | none => simp [refresh, hc, hc', refreshAll_refreshAll h h' items]
    | _ => simp [refresh, refreshAll_refreshAll h h' items]
  | dict id entries =>
    cases id with
    | object n =>
      cases hc : content n with
      | some c =>
        obtain ⟨hobject, c', hc', -⟩ := h n c hc
        simp [refresh, hc, hobject.refresh hc', hc']
      | none =>
        cases hc' : content' n with
        | some c' => simp [refresh, hc, hc']
        | none => simp [refresh, hc, hc', refreshEntries_refreshEntries h h' entries]
    | _ => simp [refresh, refreshEntries_refreshEntries h h' entries]
  | view kind id entries =>
    have hentries := refreshEntries_refreshEntries h h' entries
    cases id with
    | object n =>
      cases hc : content n with
      | some c =>
        obtain ⟨hobject, c', hc', hkind⟩ := h n c hc
        obtain ⟨items, rfl⟩ | ⟨current, rfl⟩ := hobject
        · obtain ⟨items', rfl⟩ | ⟨current', rfl⟩ := h' n c' hc'
          · simp [refresh, hc, hc', hentries]
          · cases hkind
        · obtain ⟨items', rfl⟩ | ⟨current', rfl⟩ := h' n c' hc'
          · cases hkind
          · simp [refresh, hc, hc']
      | none =>
        cases hc' : content' n with
        | some c' =>
          obtain ⟨items', rfl⟩ | ⟨current', rfl⟩ := h' n c' hc' <;> simp [refresh, hc, hc', hentries]
        | none => simp [refresh, hc, hc', hentries]
    | _ => simp [refresh, hentries]
  | tuple items => simp [refresh, refreshAll_refreshAll h h' items]
  | stream name items => simp [refresh, refreshAll_refreshAll h h' items]
  | method receiver name => simp [refresh, refresh_refresh h h' receiver]
  | negated v => simp [refresh, refresh_refresh h h' v]
  | model kind fields extras =>
    simp [refresh, refreshFields_refreshFields h h' fields, refreshFields_refreshFields h h' extras]
  | jump path vars => simp [refresh, refresh_refresh h h' vars]
  | _ => rfl
termination_by structural v

theorem refreshAll_refreshAll (h : Extends content content') (h' : ∀ n c, content' n = some c → c.IsObject n)
    (vs : List Value) : refreshAll content' (refreshAll content vs) = refreshAll content' vs := by
  match vs with
  | [] => rfl
  | v :: rest => simp [refreshAll, refresh_refresh h h' v, refreshAll_refreshAll h h' rest]
termination_by structural vs

theorem refreshEntries_refreshEntries (h : Extends content content') (h' : ∀ n c, content' n = some c → c.IsObject n)
    (entries : List (Value × Value)) :
    refreshEntries content' (refreshEntries content entries) = refreshEntries content' entries := by
  match entries with
  | [] => rfl
  | (k, v) :: rest => simp [refreshEntries, refresh_refresh h h' v, refreshEntries_refreshEntries h h' rest]
termination_by structural entries

theorem refreshFields_refreshFields (h : Extends content content') (h' : ∀ n c, content' n = some c → c.IsObject n)
    (fields : List (String × Value)) :
    refreshFields content' (refreshFields content fields) = refreshFields content' fields := by
  match fields with
  | [] => rfl
  | (k, v) :: rest => simp [refreshFields, refresh_refresh h h' v, refreshFields_refreshFields h h' rest]
termination_by structural fields

end

end Value

namespace Heap

variable {heap heap' heap'' : Heap}

/-- Whatever changed is known under its own identity, and what it holds has identities. -/
def Keyed (heap : Heap) : Prop := ∀ n v, heap.contents.lookup n = some v → v.IsObject n ∧ v.Filled

theorem keyed_of_nil (h : heap.contents = []) : heap.Keyed := by simp [Keyed, h]

/-- How a heap may change: objects change in place and stay of their kind, and changes are not forgotten. -/
def Grows (heap heap' : Heap) : Prop :=
  heap.Keyed → heap'.Keyed ∧
    ∀ n v, heap.contents.lookup n = some v → ∃ v', heap'.contents.lookup n = some v' ∧ v'.isDict = v.isDict

theorem Grows.of_contents (h : heap'.contents = heap.contents) : heap.Grows heap' := fun hkeyed =>
  ⟨fun n v hv => hkeyed n v (h ▸ hv), fun _ v hv => ⟨v, h ▸ hv, rfl⟩⟩

theorem Grows.refl (heap : Heap) : heap.Grows heap := .of_contents rfl

theorem Grows.trans (h : heap.Grows heap') (h' : heap'.Grows heap'') : heap.Grows heap'' := by
  intro hkeyed
  obtain ⟨hkeyed', hknown⟩ := h hkeyed
  obtain ⟨hkeyed'', hknown'⟩ := h' hkeyed'
  refine ⟨hkeyed'', fun n v hv => ?_⟩
  obtain ⟨v', hv', hkind⟩ := hknown n v hv
  obtain ⟨v'', hv'', hkind'⟩ := hknown' n v' hv'
  exact ⟨v'', hv'', hkind'.trans hkind⟩

theorem content_eq_none {n : Nat} (h : heap.contents.lookup n = none) (depth : Nat) : heap.content depth n = none := by
  cases depth <;> simp [content, h]

private theorem content_eq_some (hkeyed : heap.Keyed) (depth : Nat) {n : Nat} {v : Value}
    (h : heap.contents.lookup n = some v) :
    ∃ c, heap.content (depth + 1) n = some c ∧ c.IsObject n ∧ c.isDict = v.isDict := by
  obtain ⟨items, rfl⟩ | ⟨entries, rfl⟩ := (hkeyed n v h).1
  · refine ⟨.list (.object n) (Value.refreshAll (heap.content depth) items), ?_, .inl ⟨_, rfl⟩, rfl⟩
    rw [content, h]
    rfl
  · refine ⟨.dict (.object n) (Value.refreshEntries (heap.content depth) entries), ?_, .inr ⟨_, rfl⟩, rfl⟩
    rw [content, h]
    rfl

private theorem isObject_content (hkeyed : heap.Keyed) (depth n : Nat) (c : Value) (h : heap.content depth n = some c) :
    c.IsObject n := by
  cases depth with
  | zero => cases h
  | succ depth =>
    cases hl : heap.contents.lookup n with
    | none =>
      rw [content_eq_none hl] at h
      cases h
    | some v =>
      obtain ⟨c', hc', hobject, -⟩ := content_eq_some hkeyed depth hl
      obtain rfl := Option.some.inj (hc'.symm.trans h)
      exact hobject

private theorem filled_content (hkeyed : heap.Keyed) (depth n : Nat) (c : Value) (h : heap.content depth n = some c) :
    c.Filled := by
  cases depth with
  | zero => cases h
  | succ depth =>
    cases hl : heap.contents.lookup n with
    | none =>
      rw [content_eq_none hl] at h
      cases h
    | some v =>
      rw [content, hl] at h
      obtain ⟨⟨items, rfl⟩ | ⟨entries, rfl⟩, hfilled⟩ := hkeyed n v hl
      · obtain rfl := Option.some.inj h
        exact Value.allOwned_refreshAll (isObject_content hkeyed depth) items hfilled
      · obtain rfl := Option.some.inj h
        exact Value.owned_refreshEntries (isObject_content hkeyed depth) hfilled

theorem isObject_current (hkeyed : heap.Keyed) {n : Nat} {v : Value} (h : v.IsObject n) (hfilled : v.Filled) :
    (heap.current v).IsObject n ∧ (heap.current v).Filled := by
  unfold current
  split
  · exact ⟨h, hfilled⟩
  · cases hc : heap.content heap.contents.length n with
    | some c =>
      rw [h.refresh hc]
      exact ⟨isObject_content hkeyed _ n c hc, filled_content hkeyed _ n c hc⟩
    | none =>
      have hcontent := isObject_content hkeyed heap.contents.length
      obtain ⟨items, rfl⟩ | ⟨entries, rfl⟩ := h
      · rw [Value.refresh, hc]
        exact ⟨.inl ⟨_, rfl⟩, Value.allOwned_refreshAll hcontent items hfilled⟩
      · rw [Value.refresh, hc]
        exact ⟨.inr ⟨_, rfl⟩, Value.owned_refreshEntries hcontent hfilled⟩

theorem owned_current (hkeyed : heap.Keyed) {v : Value} (h : v.Owned) : (heap.current v).Owned := by
  unfold current
  split
  · exact h
  · exact Value.owned_refresh (isObject_content hkeyed _) v h

theorem Grows.current_current (h : heap.Grows heap') (hkeyed : heap.Keyed) (v : Value) :
    heap'.current (heap.current v) = heap'.current v := by
  obtain ⟨hkeyed', hknown⟩ := h hkeyed
  cases hcontents : heap.contents with
  | nil => rw [current_of_isEmpty hcontents]
  | cons entry rest =>
    cases hcontents' : heap'.contents with
    | nil =>
      obtain ⟨n, own⟩ := entry
      obtain ⟨v', hv', -⟩ := hknown n own (by simp [hcontents])
      simp [hcontents'] at hv'
    | cons entry' rest' =>
      have hcurrent (v : Value) : heap.current v = v.refresh (heap.content (rest.length + 1)) := by
        simp [current, hcontents]
      have hcurrent' (v : Value) : heap'.current v = v.refresh (heap'.content (rest'.length + 1)) := by
        simp [current, hcontents']
      rw [hcurrent, hcurrent', hcurrent']
      refine Value.refresh_refresh (fun n c hc => ⟨isObject_content hkeyed _ n c hc, ?_⟩)
        (isObject_content hkeyed' _) v
      cases hl : heap.contents.lookup n with
      | none =>
        rw [content_eq_none hl] at hc
        cases hc
      | some own =>
        obtain ⟨c₀, hc₀, -, hkind⟩ := content_eq_some hkeyed rest.length hl
        obtain rfl := Option.some.inj (hc₀.symm.trans hc)
        obtain ⟨own', hown', hkind'⟩ := hknown n own hl
        obtain ⟨c', hc', -, hkind''⟩ := content_eq_some hkeyed' rest'.length hown'
        exact ⟨c', hc', hkind''.trans (hkind'.trans hkind.symm)⟩

/-! ## Changing an object -/

/-- A list or dictionary and what it is after a change in place. -/
inductive Changed : Value → Value → Prop where
  | list (id : Identity) (items items' : List Value) : Changed (.list id items) (.list id items')
  | dict (id : Identity) (entries entries' : Entries) : Changed (.dict id entries) (.dict id entries')

private theorem lookup_filter_ne (contents : List (Nat × Value)) {n m : Nat} (h : m ≠ n) :
    (contents.filter (·.1 != n)).lookup m = contents.lookup m := by
  induction contents with
  | nil => rfl
  | cons entry rest ih =>
    obtain ⟨k, v⟩ := entry
    by_cases hk : k = n
    · subst hk
      have hne : (m == k) = false := by simpa using h
      simp [List.lookup_cons, hne, ih]
    · simp [List.lookup_cons, hk, ih]

private theorem grows_write {n : Nat} {v : Value} (hv : v.IsObject n) (hfilled : v.Filled)
    (hkind : heap.Keyed → ∀ own, heap.contents.lookup n = some own → v.isDict = own.isDict) (next : Nat) :
    heap.Grows ({ heap with next }.write n v) := by
  intro hkeyed
  have hlookup (m : Nat) (hm : m ≠ n) : ({ heap with next }.write n v).contents.lookup m = heap.contents.lookup m := by
    have hne : (m == n) = false := by simpa using hm
    simp [write, List.lookup_cons, hne, lookup_filter_ne _ hm]
  have hself : ({ heap with next }.write n v).contents.lookup n = some v := by simp [write]
  refine ⟨fun m own hm => ?_, fun m own hm => ?_⟩
  · by_cases h : m = n
    · subst h
      obtain rfl := Option.some.inj (hself.symm.trans hm)
      exact ⟨hv, hfilled⟩
    · exact hkeyed m own ((hlookup m h).symm.trans hm)
  · by_cases h : m = n
    · subst h
      exact ⟨v, hself, hkind hkeyed own hm⟩
    · exact ⟨own, (hlookup m h).trans hm, rfl⟩

private theorem isDict_current (hkeyed : heap.Keyed) {v : Value} {n : Nat} (h : (heap.current v).IsObject n)
    {own : Value} (hl : heap.contents.lookup n = some own) : (heap.current v).isDict = own.isDict := by
  cases hcontents : heap.contents with
  | nil => simp [hcontents] at hl
  | cons entry rest =>
    have hcurrent : heap.current v = v.refresh (heap.content (rest.length + 1)) := by simp [current, hcontents]
    obtain ⟨c, hc, -, hkind⟩ := content_eq_some hkeyed rest.length hl
    rw [hcurrent] at h ⊢
    rw [Value.refresh_eq_of_isObject (isObject_content hkeyed _) h hc, hkind]

theorem Changed.grows {v changed : Value} (h : Changed (heap.current v) changed) {n : Nat} (hn : changed.IsObject n) :
    heap.Grows ((heap.storeContent changed).2.write n (heap.storeContent changed).1) := by
  generalize hu : heap.current v = u at h
  cases h with
  | list id items items' =>
    obtain ⟨_, heq⟩ | ⟨_, heq⟩ := hn <;> cases heq
    refine grows_write (.inl ⟨_, rfl⟩) (Value.allOwned_adoptAll items' _) (fun hkeyed own hl => ?_) _
    have hobject : (heap.current v).IsObject n := .inl ⟨items, hu⟩
    rw [← isDict_current hkeyed hobject hl, hu]
    rfl
  | dict id entries entries' =>
    obtain ⟨_, heq⟩ | ⟨_, heq⟩ := hn <;> cases heq
    refine grows_write (.inr ⟨_, rfl⟩) (Value.owned_adoptEntries entries' _) (fun hkeyed own hl => ?_) _
    have hobject : (heap.current v).IsObject n := .inr ⟨entries, hu⟩
    rw [← isDict_current hkeyed hobject hl, hu]
    rfl

end Heap

end Colloquy
