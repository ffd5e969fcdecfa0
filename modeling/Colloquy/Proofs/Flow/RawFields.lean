import Colloquy.Proofs.Flow.Key
import Colloquy.Proofs.Flow.Rereading
import Colloquy.Proofs.Value.Entries

/-!
# Records written out

A record is written out with its fields under the names that authors use, and without those that are `None`. What a
reader finds in it under a name is the field of that name, if it is given; extra fields come back as they are, unless
one of them goes by the second name of a field that is missing.
-/

namespace Colloquy

mutual

theorem Value.toRaw_of_recordFree (v : Value) (h : v.recordFree = true) : v.toRaw = v := by
  cases v with
  | model => cases h
  | list id items => exact congrArg (Value.list id) (rawAll_of_recordFree items h)
  | tuple items => exact congrArg Value.tuple (rawAll_of_recordFree items h)
  | dict id entries => exact congrArg (Value.dict id) (rawEntries_of_recordFree entries h)
  | _ => rfl
termination_by structural v

theorem rawAll_of_recordFree (vs : List Value) (h : recordFreeAll vs = true) : rawAll vs = vs := by
  match vs, h with
  | [], _ => rfl
  | v :: rest, h =>
    obtain ⟨hv, hrest⟩ := recordFreeAll_cons.mp h
    rw [rawAll, Value.toRaw_of_recordFree v hv, rawAll_of_recordFree rest hrest]
termination_by structural vs

theorem rawEntries_of_recordFree (entries : List (Value × Value)) (h : recordFreeEntries entries = true) :
    rawEntries entries = entries := by
  match entries, h with
  | [], _ => rfl
  | (k, v) :: rest, h =>
    obtain ⟨⟨-, hv⟩, hrest⟩ := recordFreeEntries_cons.mp h
    rw [rawEntries, Value.toRaw_of_recordFree v hv, rawEntries_of_recordFree rest hrest]
termination_by structural entries

end

theorem rawAll_eq_map (vs : List Value) : rawAll vs = vs.map Value.toRaw := by
  induction vs with
  | nil => rfl
  | cons v rest ih => rw [rawAll, ih, List.map_cons]

theorem toRaw_record {fields : Fields} (h : Fields.Plain fields) : (Value.record fields).toRaw = .record fields := by
  refine Value.toRaw_of_recordFree _ (recordFreeEntries_iff.mpr fun entry hentry => ?_)
  obtain ⟨field, hfield, rfl⟩ := List.mem_map.mp hentry
  exact ⟨rfl, h.recordFree field hfield⟩

/-! ## Fields by their names -/

def Fields.entries (fields : Fields) : Entries := fields.map fun (k, v) => (.str k, v)

/-- What is written of a field: nothing if it is `None`. -/
def Value.given (v : Value) : Option Value := if v.isNone then Option.none else some v

theorem Value.given_getD (v : Value) : v.given.getD .none = v := by
  cases v <;> rfl

theorem Value.given_eq_some {v : Value} (h : v.isNone = false) : v.given = some v := if_neg (by simp [h])

private theorem Value.ofOption_given (v : Value) : .ofOption v.given = v := by
  cases v <;> rfl

theorem Value.given_map_toRaw {v : Value} (h : v.recordFree = true) : v.given.map Value.toRaw = v.given := by
  unfold given
  split
  · rfl
  · rw [Option.map_some, toRaw_of_recordFree v h]

private theorem lookup_rawFields_cons (kind : ModelKind) (k : String) (v : Value) (fields : Fields) (name : String) :
    (rawFields kind ((k, v) :: fields)).lookup name =
      if kind.alias k = name then (v.given.map Value.toRaw).or ((rawFields kind fields).lookup name)
      else (rawFields kind fields).lookup name := by
  rw [rawFields, Value.given]
  cases hv : v.isNone with
  | true => simp
  | false =>
    rw [if_neg Bool.false_ne_true, List.lookup_cons]
    by_cases hk : kind.alias k = name
    · simp [hk]
    · have hne : (name == kind.alias k) = false := by simpa using Ne.symm hk
      simp [hk, hne]

private theorem lookup_eq_none {fields : Fields} {name : String} (h : name ∉ fields.map Prod.fst) :
    fields.lookup name = none := by
  rw [List.lookup_eq_none_iff]
  intro field hfield
  have hne : name ≠ field.1 := fun heq => h (heq ▸ List.mem_map_of_mem hfield)
  simpa using hne

private theorem map_fst_rawFields_subset (kind : ModelKind) (fields : Fields) :
    ∀ name ∈ (rawFields kind fields).map Prod.fst, name ∈ fields.map fun field => kind.alias field.1 := by
  induction fields with
  | nil => exact List.forall_mem_nil _
  | cons field rest ih =>
    obtain ⟨k, v⟩ := field
    intro name hname
    unfold rawFields at hname
    split at hname
    · exact List.mem_cons_of_mem _ (ih name hname)
    · rcases List.mem_cons.mp hname with rfl | hrest
      · exact List.mem_cons_self
      · exact List.mem_cons_of_mem _ (ih name hrest)

/-- What is written under a name: the field that authors know by it, if it is given. -/
def rawField (kind : ModelKind) (fields : Fields) (name : String) : Option Value :=
  ((fields.map fun field => (kind.alias field.1, field.2)).lookup name).bind fun v => v.given.map Value.toRaw

private theorem lookup_rawFields {kind : ModelKind} {fields : Fields}
    (h : (fields.map fun field => kind.alias field.1).Nodup)
    (name : String) : (rawFields kind fields).lookup name = rawField kind fields name := by
  induction fields with
  | nil => rfl
  | cons first rest ih =>
    obtain ⟨k, v⟩ := first
    obtain ⟨hnew, hdistinct⟩ := List.nodup_cons.mp h
    rw [lookup_rawFields_cons, rawField, List.map_cons, List.lookup_cons]
    by_cases hk : kind.alias k = name
    · subst hk
      have hnone : (rawFields kind rest).lookup (kind.alias k) = none :=
        lookup_eq_none fun hname => hnew (map_fst_rawFields_subset kind rest _ hname)
      simp [hnone]
    · have hne : (name == kind.alias k) = false := by simpa using Ne.symm hk
      rw [if_neg hk, ih hdistinct, rawField, hne]

private theorem named?_raw {kind : ModelKind} {fields : Fields} (h : (fields.map fun field => kind.alias field.1).Nodup)
    (extras : Fields) (name : String) :
    Entries.named? (rawFields kind fields ++ extras).entries name =
      (rawField kind fields name).or (extras.lookup name) := by
  rw [Fields.entries, Entries.named?_fields, List.lookup_append, lookup_rawFields h]

private theorem rawExtras_of_given {extras : Fields} (h : ∀ field ∈ extras, field.2.recordFree = true)
    (hgiven : ∀ field ∈ extras, field.2.isNone = false) : rawExtras extras = extras := by
  induction extras with
  | nil => rfl
  | cons field rest ih =>
    obtain ⟨k, v⟩ := field
    obtain ⟨hv, hrest⟩ := List.forall_mem_cons.mp h
    obtain ⟨hgivenv, hgivenrest⟩ := List.forall_mem_cons.mp hgiven
    rw [rawExtras, if_neg (by simp [hgivenv]), Value.toRaw_of_recordFree v hv, ih hrest hgivenrest]

private theorem isNone_toRaw (v : Value) : v.toRaw.isNone = v.isNone := by
  cases v <;> rfl

private theorem isNone_of_mem_rawExtras {extras : Fields} {field : String × Value} (h : field ∈ rawExtras extras) :
    field.2.isNone = false := by
  induction extras with
  | nil => cases h
  | cons first rest ih =>
    obtain ⟨k, v⟩ := first
    unfold rawExtras at h
    split at h
    · exact ih h
    · rename_i hv
      rcases List.mem_cons.mp h with rfl | hrest
      · simpa [isNone_toRaw] using hv
      · exact ih hrest

namespace Normal

/-! ## Nested parts by their names -/

theorem made_of_one {α β : Type} {x : Except Error α} {f : α → β} (hf : ∀ {a b}, f a = f b → a = b) {a : α} :
    (do return f (← x)) = .ok (f a) ↔ x = .ok a := by
  constructor
  · intro h
    obtain ⟨b, hb, h⟩ := bind_eq_ok.mp h
    rwa [← hf (Except.ok.inj h)]
  · rintro rfl
    rfl

theorem made_of_two {α β γ : Type} {x : Except Error α} {y : Except Error β} {f : α → β → γ}
    (hf : ∀ {a b a' b'}, f a' b' = f a b → a' = a ∧ b' = b) {a : α} {b : β} :
    (do return f (← x) (← y)) = .ok (f a b) ↔ x = .ok a ∧ y = .ok b := by
  constructor
  · intro h
    obtain ⟨a', ha, h⟩ := bind_eq_ok.mp h
    obtain ⟨b', hb, h⟩ := bind_eq_ok.mp h
    obtain ⟨rfl, rfl⟩ := hf (Except.ok.inj h)
    exact ⟨ha, hb⟩
  · rintro ⟨rfl, rfl⟩
    rfl

theorem flowUnder_eq (name : String) (entries : Entries) :
    flowUnder name entries = ((Entries.named? entries name).map flow).getD (.ok []) := by
  induction entries with
  | nil => rfl
  | cons entry rest ih =>
    obtain ⟨k, v⟩ := entry
    rw [flowUnder, ih, Entries.named?_cons, Value.same_str]
    by_cases h : k.text? = some name <;> simp [h]

theorem actionsUnder_eq (default name : String) (entries : Entries) :
    actionsUnder default name entries =
      ((Entries.named? entries name).map (actions (.str default))).getD (.ok .absent) := by
  induction entries with
  | nil => rfl
  | cons entry rest ih =>
    obtain ⟨k, v⟩ := entry
    rw [actionsUnder, ih, Entries.named?_cons, Value.same_str]
    by_cases h : k.text? = some name <;> simp [h]

theorem itemsUnder_eq (name : String) (entries : Entries) :
    itemsUnder name entries = ((Entries.named? entries name).map items).getD (.ok .absent) := by
  induction entries with
  | nil => rfl
  | cons entry rest ih =>
    obtain ⟨k, v⟩ := entry
    rw [itemsUnder, ih, Entries.named?_cons, Value.same_str]
    by_cases h : k.text? = some name <;> simp [h]

theorem casesUnder_eq (name : String) (entries : Entries) :
    casesUnder name entries = ((Entries.named? entries name).map cases).getD (.ok []) := by
  induction entries with
  | nil => rfl
  | cons entry rest ih =>
    obtain ⟨k, v⟩ := entry
    rw [casesUnder, ih, Entries.named?_cons, Value.same_str]
    by_cases h : k.text? = some name <;> simp [h]

/-! ## Fields of commands -/

theorem commandType_of_given {entries : Entries} {word : String} (h : Entries.named? entries "type" = some (.str word))
    (hword : word.isEmpty = false) : commandType entries = .str word := by
  unfold commandType
  rw [Entries.named, h]
  exact if_pos (by simpa [Value.ofOption, Value.truthy] using hword)

theorem givenId_of_given {entries : Entries} {id : String} (h : Entries.named? entries "id" = some (.str id))
    (default : String) : givenId entries default = .ok id := by
  unfold givenId
  rw [Entries.named, h]
  rfl

theorem named_of_given {entries : Entries} {name : String} {v : Value} (h : Entries.named? entries name = v.given) :
    Entries.named entries name = v := by
  rw [Entries.named, h, Value.ofOption_given]

theorem given_of_raw {entries : Entries} {name : String} {v : Value} (hv : v.recordFree = true)
    (h : Entries.named? entries name = v.given.map Value.toRaw) : Entries.named? entries name = v.given := by
  rw [h, Value.given_map_toRaw hv]

/-- The readers of what is nested in a mapping. -/
def Parts.under (entries : Entries) : Parts :=
  ⟨fun name => flowUnder name entries, fun default name => actionsUnder default name entries,
    fun name => itemsUnder name entries, fun name => casesUnder name entries⟩

theorem flowUnder_of_given {entries : Entries} {name : String} {f : Flow}
    (h : Entries.named? entries name = some (Value.ofList (flowValues f)).toRaw) :
    flowUnder name entries = elements (rawAll (flowValues f)) := by
  rw [flowUnder_eq, h]
  rfl

/-- Reads back the flow that was written, if there was one. -/
def rereadOption : Option Flow → Except Error (Option Flow)
  | none => .ok none
  | some f => do return some (← elements (rawAll (flowValues f)))

theorem givenFlow_of_given {entries : Entries} {name : String} {flow : Option Flow}
    (h : Entries.named? entries name = (optionalFlowValue flow).given.map Value.toRaw) :
    givenFlow entries (.under entries) name = rereadOption flow := by
  unfold givenFlow
  cases flow with
  | none =>
    rw [Entries.named, h]
    rfl
  | some f =>
    have hsome : (Entries.named entries name).isNone = false := by
      rw [Entries.named, h]
      rfl
    rw [hsome, if_neg Bool.false_ne_true]
    change (do return some (← flowUnder name entries)) = _
    rw [flowUnder_of_given h]
    rfl

theorem rereadOption_eq_ok {flow : Option Flow} :
    rereadOption flow = .ok flow ↔ ∀ f ∈ flow, elements (rawAll (flowValues f)) = .ok f := by
  cases flow with
  | none => simp [rereadOption]
  | some f =>
    rw [rereadOption, made_of_one Option.some.inj]
    simp

variable {entries : Entries} {id : String}

theorem element_raw (kind : ModelKind) (fields extras : Fields) (c : Command) :
    element (Value.model kind fields extras).toRaw = .ok (.command c) ↔
      command (.record (rawFields kind fields ++ rawExtras extras)) (rawFields kind fields ++ rawExtras extras).entries
        (.under (rawFields kind fields ++ rawExtras extras).entries) = .ok c := by
  rw [show element (Value.model kind fields extras).toRaw =
    command (.record (rawFields kind fields ++ rawExtras extras)) (rawFields kind fields ++ rawExtras extras).entries
      (.under (rawFields kind fields ++ rawExtras extras).entries) >>= fun c => .ok (.command c) from rfl]
  simp [bind_eq_ok]

theorem named?_rawFields {kind : ModelKind} {fields : Fields} (aliases : List String)
    (haliases : fields.map (fun field => kind.alias field.1) = aliases) (hdistinct : aliases.Nodup) (name : String) :
    Entries.named? (rawFields kind fields ++ rawExtras []).entries name =
      rawField kind fields name :=
  (named?_raw (haliases ▸ hdistinct) [] name).trans Option.or_none

theorem element_raw_iff {kind : ModelKind} {fields : Fields} {c : Command} {P : Prop} (aliases : List String)
    (haliases : fields.map (fun field => kind.alias field.1) = aliases) (hdistinct : aliases.Nodup)
    (h : ∀ raw entries, (∀ name, Entries.named? entries name = rawField kind fields name) →
      (command raw entries (.under entries) = .ok c ↔ P)) :
    element (Value.model kind fields []).toRaw = .ok (.command c) ↔ P := by
  rw [element_raw]
  exact h _ _ (named?_rawFields aliases haliases hdistinct)

theorem element_raw_eq {kind : ModelKind} {fields : Fields} {c : Command} (aliases : List String)
    (haliases : fields.map (fun field => kind.alias field.1) = aliases) (hdistinct : aliases.Nodup)
    (h : ∀ raw entries, (∀ name, Entries.named? entries name = rawField kind fields name) →
      command raw entries (.under entries) = .ok c) :
    element (Value.model kind fields []).toRaw = .ok (.command c) :=
  (element_raw_iff aliases haliases hdistinct fun raw entries hraw => iff_true_intro (h raw entries hraw)).mpr trivial

private theorem foldl_putField {fields : Fields} (faults : List FieldFault) (h : (fields.map Prod.fst).Nodup) :
    fields.foldl (fun (acc : List FieldFault × Fields) field => (acc.1, Record.putField acc.2 field.1 field.2))
      (faults, []) = (faults, fields) := by
  have hkept : fields.foldl putNamed [] = fields := foldl_putNamed h
  exact (List.foldl_hom (fun kept : Fields => (faults, kept)) fun _ _ => rfl).trans (congrArg (Prod.mk faults) hkept)

theorem textEntries_fields {fields : Fields} (h : (fields.map Prod.fst).Nodup) :
    Record.textEntries fields.entries = ([], fields) := by
  unfold Record.textEntries
  rw [Fields.entries, List.foldl_map]
  exact foldl_putField [] h

theorem givenEntries_record (fields : Fields) :
    givenEntries (.record fields) = .ok fields.entries := by
  cases fields <;> rfl

/-! ## Extra fields -/

def usedNames (entries : Entries) (known : List (List String)) : List String :=
  known.filterMap fun names => (Record.find? entries names).map (·.1)

private theorem extras_fields {fields : Fields} {known : List (List String)} {used : List String}
    (hused : usedNames fields.entries known = used)
    (h : ((fields.filter fun field => !used.contains field.1).map Prod.fst).Nodup) :
    Record.extras fields.entries known =
      ([], fields.filter fun field => !used.contains field.1) := by
  have hfold := foldl_putField [] h
  rw [List.foldl_filter] at hfold
  unfold Record.extras
  rw [show (known.filterMap fun names => (Record.find? fields.entries names).map (·.1)) = used
    from hused, Fields.entries, List.foldl_map]
  refine Eq.trans (congrArg (fun f => List.foldl f ([], []) fields) (funext fun acc => funext fun field => ?_)) hfold
  by_cases hmem : field.1 ∈ used <;> simp [Value.text?, hmem]

private theorem map_fst_rawExtras_sublist (extras : Fields) : ((rawExtras extras).map Prod.fst).Sublist
    (extras.map Prod.fst) := by
  induction extras with
  | nil => exact List.Sublist.refl _
  | cons field rest ih =>
    obtain ⟨k, v⟩ := field
    rw [rawExtras]
    split
    · exact ih.cons _
    · exact ih.cons_cons _

/-- What a record with extra fields keeps when it is written out: all extra fields are given, and none goes by the
second name of a field that is not. -/
structure Survive (others : List (String × Value)) (extras : Fields) : Prop where
  given : ∀ field ∈ extras, field.2.isNone = false
  apart : ∀ other ∈ others, other.2.isNone = true → other.1 ∉ extras.map Prod.fst

private theorem extras_raw_eq {kind : ModelKind} {fields extras : Fields} {known : List (List String)}
    (hextras : Fields.Extra known extras)
    (hfields : ∀ field ∈ fields, ∃ names ∈ known, names.head? = some (kind.alias field.1)) :
    let entries : Entries := (rawFields kind fields ++ rawExtras extras).entries
    (Record.extras entries known).1 = [] ∧ ((Record.extras entries known).2 = extras ↔
      ∀ field ∈ extras, field.2.isNone = false ∧ field.1 ∉ usedNames entries known) := by
  intro entries
  have hused : ∀ field ∈ rawFields kind fields, field.1 ∈ usedNames entries known := by
    rintro ⟨name, v⟩ hfield
    obtain ⟨field, hmem, rfl⟩ := List.mem_map.mp (map_fst_rawFields_subset kind fields name (List.mem_map_of_mem hfield))
    obtain ⟨names, hnames, hhead⟩ := hfields field hmem
    exact used_of_head hnames hhead (List.mem_map.mpr ⟨_, List.mem_append_left _ hfield, rfl⟩) rfl
  have hfilter : (rawFields kind fields ++ rawExtras extras).filter
      (fun field => !(usedNames entries known).contains field.1) =
        (rawExtras extras).filter fun field => !(usedNames entries known).contains field.1 := by
    rw [List.filter_append, List.filter_eq_nil_iff.mpr fun field hfield => by simpa using hused field hfield,
      List.nil_append]
  have hdistinct : (((rawFields kind fields ++ rawExtras extras).filter
      fun field => !(usedNames entries known).contains field.1).map Prod.fst).Nodup := by
    rw [hfilter]
    exact ((List.filter_sublist.map _).trans (map_fst_rawExtras_sublist extras)).nodup hextras.distinct
  rw [extras_fields rfl hdistinct, hfilter]
  refine ⟨rfl, fun heq field hfield => ?_, fun h => ?_⟩
  · rw [← heq] at hfield
    obtain ⟨hmem, hunused⟩ := List.mem_filter.mp hfield
    exact ⟨isNone_of_mem_rawExtras hmem, by simpa using hunused⟩
  · rw [rawExtras_of_given hextras.recordFree fun field hfield => (h field hfield).1]
    exact List.filter_eq_self.mpr fun field hfield => by simpa using (h field hfield).2

private theorem lookup_ne_none {extras : Fields} {name : String} (h : name ∈ extras.map Prod.fst) :
    extras.lookup name ≠ none := by
  intro hnone
  obtain ⟨field, hfield, rfl⟩ := List.mem_map.mp h
  exact absurd (List.lookup_eq_none_iff.mp hnone field hfield) (by simp)

private theorem unused_iff {known : List (List String)} {others : List (String × Value)} {extras : Fields}
    (hextras : Fields.Extra known extras) (hknown : ∀ names ∈ known, (∃ name, names = [name]) ∨
      ∃ other ∈ others, ∃ name, names = [name, other.1] ∧ Entries.named? entries name = other.2.given)
    (hothers : ∀ other ∈ others, (∃ name, [name, other.1] ∈ known ∧ Entries.named? entries name = other.2.given) ∧
      Entries.named? entries other.1 = extras.lookup other.1) :
    (∀ field ∈ extras, field.1 ∉ usedNames entries known) ↔
      ∀ other ∈ others, other.2.isNone = true → other.1 ∉ extras.map Prod.fst := by
  constructor
  · intro hunused other hother hnone hmem
    obtain ⟨⟨name, hname, hgiven⟩, hfound⟩ := hothers other hother
    obtain ⟨v, hv⟩ := Option.ne_none_iff_exists'.mp (lookup_ne_none hmem)
    rw [Value.given, if_pos hnone] at hgiven
    rw [hv] at hfound
    obtain ⟨field, hfield, heq⟩ := List.mem_map.mp hmem
    refine hunused field hfield (List.mem_filterMap.mpr ⟨_, hname, ?_⟩)
    simp [Record.find?, hgiven, hfound, heq]
  · intro hapart field hfield hused
    obtain ⟨names, hnames, hfound⟩ := List.mem_filterMap.mp hused
    obtain ⟨⟨found, _⟩, hfind, heq⟩ := Option.map_eq_some_iff.mp hfound
    have hmem := (find?_eq_some hfind).1
    have hhead := hextras.unknown names hnames field hfield
    rcases hknown names hnames with ⟨name, rfl⟩ | ⟨other, hother, name, rfl, hgiven⟩
    · rw [← heq, List.mem_singleton.mp hmem] at hhead
      exact hhead rfl
    · rcases List.mem_cons.mp hmem with hfirst | hsecond
      · rw [← heq, hfirst] at hhead
        exact hhead rfl
      · cases hnone : other.2.isNone with
        | true =>
          refine hapart other hother hnone (List.mem_map.mpr ⟨field, hfield, ?_⟩)
          rw [← heq, List.mem_singleton.mp hsecond]
        | false =>
          rw [Value.given_eq_some hnone] at hgiven
          simp only [Record.find?, hgiven, Option.some.injEq, Prod.mk.injEq] at hfind
          rw [← heq, ← hfind.1] at hhead
          exact hhead rfl

private theorem value_of_given {name other : String} {v : Value} {extras : Fields}
    (hname : Entries.named? entries name = v.given) (hother : Entries.named? entries other = extras.lookup other)
    (hapart : v.isNone = true → other ∉ extras.map Prod.fst) : Record.value entries [name, other] = v := by
  unfold Record.value
  cases hnone : v.isNone with
  | true =>
    rw [Record.find?, hname, Value.given, if_pos hnone]
    dsimp only
    rw [Record.find?, hother, lookup_eq_none (hapart hnone)]
    cases v <;> first | rfl | cases hnone
  | false =>
    rw [Record.find?, hname, Value.given_eq_some hnone]
    rfl

private theorem named?_of_head {kind : ModelKind} {fields extras : Fields} {known : List (List String)}
    (h : (fields.map fun field => kind.alias field.1).Nodup) (hextras : Fields.Extra known extras)
    {names : List String} (hnames : names ∈ known) {name : String} (hhead : names.head? = some name) :
    Entries.named? (rawFields kind fields ++ rawExtras extras).entries name =
      rawField kind fields name := by
  have hnone : (rawExtras extras).lookup name = none := by
    refine lookup_eq_none fun hmem => ?_
    obtain ⟨field, hfield, rfl⟩ := List.mem_map.mp ((map_fst_rawExtras_sublist extras).subset hmem)
    exact hextras.unknown names hnames field hfield hhead
  rw [named?_raw h, hnone, Option.or_none]

private theorem named?_of_second {kind : ModelKind} {fields extras : Fields} {known : List (List String)}
    (h : (fields.map fun field => kind.alias field.1).Nodup) {name : String}
    (hname : rawField kind fields name = none) (hextras : Fields.Extra known extras)
    (hgiven : ∀ field ∈ extras, field.2.isNone = false) :
    Entries.named? (rawFields kind fields ++ rawExtras extras).entries name =
      extras.lookup name := by
  rw [named?_raw h, hname, Option.none_or, rawExtras_of_given hextras.recordFree hgiven]

private theorem extras_raw_eq_iff {kind : ModelKind} {fields extras : Fields} {known : List (List String)}
    {others : List (String × Value)} (h : (fields.map fun field => kind.alias field.1).Nodup)
    (hextras : Fields.Extra known extras)
    (hfields : ∀ field ∈ fields, ∃ names ∈ known, names.head? = some (kind.alias field.1))
    (hknown : ∀ names ∈ known, (∃ name, names = [name]) ∨
      ∃ other ∈ others, ∃ name, names = [name, other.1] ∧ rawField kind fields name = other.2.given)
    (hothers : ∀ other ∈ others, (∃ name, [name, other.1] ∈ known ∧ rawField kind fields name = other.2.given) ∧
      rawField kind fields other.1 = none) :
    let entries : Entries := (rawFields kind fields ++ rawExtras extras).entries
    (Record.extras entries known).1 = [] ∧
      ((Record.extras entries known).2 = extras ↔ Survive others extras) := by
  intro entries
  obtain ⟨hfaults, hkept⟩ := extras_raw_eq hextras hfields
  have hhead {name : String} {names : List String} (hnames : names ∈ known) (hname : names.head? = some name) :
      Entries.named? entries name = rawField kind fields name := named?_of_head h hextras hnames hname
  have hunused (hgiven : ∀ field ∈ extras, field.2.isNone = false) :
      (∀ field ∈ extras, field.1 ∉ usedNames entries known) ↔
        ∀ other ∈ others, other.2.isNone = true → other.1 ∉ extras.map Prod.fst := by
    refine unused_iff hextras (fun names hnames => (hknown names hnames).imp id ?_) fun other hother => ?_
    · rintro ⟨other, hother, name, rfl, hfield⟩
      exact ⟨other, hother, name, rfl, (hhead hnames rfl).trans hfield⟩
    · obtain ⟨⟨name, hname, hfield⟩, hnone⟩ := hothers other hother
      exact ⟨⟨name, hname, (hhead hname rfl).trans hfield⟩, named?_of_second h hnone hextras hgiven⟩
  refine ⟨hfaults, hkept.trans ⟨fun hall => ?_, fun hsurvive field hfield => ?_⟩⟩
  · have hgiven : ∀ field ∈ extras, field.2.isNone = false := fun field hfield => (hall field hfield).1
    exact ⟨hgiven, (hunused hgiven).mp fun field hfield => (hall field hfield).2⟩
  · exact ⟨hsurvive.given field hfield, (hunused hsurvive.given).mpr hsurvive.apart field hfield⟩

/-- What a reader finds in a record with extra fields that was written out: each field under its first name, no fault,
and the extra fields if they survive. -/
structure Written (kind : ModelKind) (fields extras : Fields) (known : List (List String))
    (others : List (String × Value)) (entries : Entries) : Prop where
  head : ∀ names ∈ known, ∀ name, names.head? = some name → Entries.named? entries name = rawField kind fields name
  second : ∀ other ∈ others, Survive others extras → Entries.named? entries other.1 = extras.lookup other.1
  faults : (Record.extras entries known).1 = []
  kept : (Record.extras entries known).2 = extras ↔ Survive others extras

theorem written_raw {kind : ModelKind} {fields extras : Fields} {known : List (List String)}
    {others : List (String × Value)} (aliases : List String)
    (haliases : fields.map (fun field => kind.alias field.1) = aliases) (hdistinct : aliases.Nodup)
    (hheads : ∀ name ∈ aliases, ∃ names ∈ known, names.head? = some name) (hextras : Fields.Extra known extras)
    (hknown : ∀ names ∈ known, (∃ name, names = [name]) ∨
      ∃ other ∈ others, ∃ name, names = [name, other.1] ∧ rawField kind fields name = other.2.given)
    (hothers : ∀ other ∈ others, (∃ name, [name, other.1] ∈ known ∧ rawField kind fields name = other.2.given) ∧
      rawField kind fields other.1 = none) :
    Written kind fields extras known others
      (rawFields kind fields ++ rawExtras extras).entries := by
  have hfields : ∀ field ∈ fields, ∃ names ∈ known, names.head? = some (kind.alias field.1) := fun field hfield =>
    hheads _ (haliases ▸ List.mem_map_of_mem hfield)
  have hdistinct : (fields.map fun field => kind.alias field.1).Nodup := haliases ▸ hdistinct
  obtain ⟨hfaults, hkept⟩ := extras_raw_eq_iff hdistinct hextras hfields hknown hothers
  exact {
    head := fun names hnames name hhead => named?_of_head hdistinct hextras hnames hhead
    second := fun other hother hsurvive => named?_of_second hdistinct (hothers other hother).2 hextras hsurvive.given
    faults := hfaults
    kept := hkept }

section Written

variable {kind : ModelKind} {fields extras : Fields} {known : List (List String)} {others : List (String × Value)}
  {entries : Entries} (h : Written kind fields extras known others entries)
include h

theorem Written.single {name : String} {v : Value} (hnames : [name] ∈ known) (hv : v.recordFree = true)
    (hraw : rawField kind fields name = v.given.map Value.toRaw) : Entries.named? entries name = v.given :=
  given_of_raw hv ((h.head [name] hnames name rfl).trans hraw)

theorem Written.either {name : String} {other : String × Value} (hother : other ∈ others)
    (hnames : [name, other.1] ∈ known) (hraw : rawField kind fields name = other.2.given)
    (hsurvive : Survive others extras) : Record.value entries [name, other.1] = other.2 :=
  value_of_given ((h.head _ hnames name rfl).trans hraw) (h.second other hother hsurvive)
    (hsurvive.apart other hother)

end Written

end Normal

end Colloquy
