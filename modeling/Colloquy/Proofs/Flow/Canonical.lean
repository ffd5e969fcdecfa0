import Colloquy.Proofs.Flow.Normal
import Colloquy.Proofs.Value.Entries

/-!
# Canonical flows

What normal forms look like, at every depth. Elements are commands or handlers, computed actions and items are
handlers, items have ids, and parameters are what was written: no record occurs in them, and of fields with the same
name there is only one. Whatever is written without records has such a normal form, if it has one at all.
-/

namespace Colloquy

/-! ## Values without records -/

mutual

/-- Whether no record occurs in a value. Data and handlers are free of records. -/
def Value.recordFree : Value → Bool
  | .model .. => false
  | .list _ items | .tuple items | .set items | .stream _ items => recordFreeAll items
  | .dict _ entries | .view _ _ entries => recordFreeEntries entries
  | _ => true
termination_by structural v => v

def recordFreeAll : List Value → Bool
  | [] => true
  | v :: vs => v.recordFree && recordFreeAll vs
termination_by structural vs => vs

def recordFreeEntries : List (Value × Value) → Bool
  | [] => true
  | (k, v) :: rest => k.recordFree && v.recordFree && recordFreeEntries rest
termination_by structural entries => entries

end

theorem recordFreeAll_cons {v : Value} {vs : List Value} :
    recordFreeAll (v :: vs) = true ↔ v.recordFree = true ∧ recordFreeAll vs = true := by
  simp [recordFreeAll]

theorem recordFreeEntries_cons {k v : Value} {rest : Entries} :
    recordFreeEntries ((k, v) :: rest) = true ↔
      (k.recordFree = true ∧ v.recordFree = true) ∧ recordFreeEntries rest = true := by
  simp [recordFreeEntries]

private theorem recordFreeAll_iff {vs : List Value} : recordFreeAll vs = true ↔ ∀ v ∈ vs, v.recordFree = true := by
  induction vs with
  | nil => simp [recordFreeAll]
  | cons v vs ih => simp [recordFreeAll_cons, ih]

theorem recordFreeEntries_iff {entries : Entries} :
    recordFreeEntries entries = true ↔ ∀ entry ∈ entries, entry.1.recordFree = true ∧ entry.2.recordFree = true := by
  induction entries with
  | nil => simp [recordFreeEntries]
  | cons entry rest ih =>
    obtain ⟨k, v⟩ := entry
    simp [recordFreeEntries_cons, ih]

namespace Value

theorem recordFree_of_isCallable {v : Value} (h : v.isCallable = true) : v.recordFree = true := by
  cases v <;> first | rfl | cases h

theorem recordFree_ofText? (s : Option String) : (ofText? s).recordFree = true := by
  cases s <;> rfl

private theorem recordFree_ofOption {v : Option Value} (h : ∀ w ∈ v, w.recordFree = true) :
    (ofOption v).recordFree = true := by
  cases v with
  | none => rfl
  | some w => exact h w rfl

private theorem recordFree_elements {v : Value} {items : List Value} (hv : v.recordFree = true)
    (h : v.elements = .ok items) :
    ∀ w ∈ items, w.recordFree = true := by
  unfold elements at h
  cases helements : v.elements? with
  | none =>
    rw [helements] at h
    cases h
  | some found =>
    rw [helements] at h
    cases h
    cases v with
    | list _ vs | tuple vs | set vs | stream _ vs =>
      cases helements
      exact recordFreeAll_iff.mp hv
    | dict _ entries =>
      cases helements
      intro w hw
      obtain ⟨entry, hentry, rfl⟩ := List.mem_map.mp hw
      exact (recordFreeEntries_iff.mp hv entry hentry).1
    | view kind _ entries =>
      cases helements
      have hentries := recordFreeEntries_iff.mp hv
      cases kind <;> intro w hw <;> obtain ⟨entry, hentry, rfl⟩ := List.mem_map.mp hw
      · exact (hentries entry hentry).1
      · exact (hentries entry hentry).2
      · simp [recordFree, recordFreeAll, hentries entry hentry]
    | str | markup | bytes | range =>
      cases helements
      intro w hw
      obtain ⟨_, _, rfl⟩ := List.mem_map.mp hw
      rfl
    | undefined =>
      cases helements
      exact List.forall_mem_nil _
    | _ => cases helements <;> cases hv

end Value

/-! ## Fields -/

/-- Fields as a mapping can have them: no two of one name, and no record occurs in their values. -/
structure Fields.Plain (fields : Fields) : Prop where
  distinct : (fields.map Prod.fst).Nodup
  recordFree : ∀ field ∈ fields, field.2.recordFree = true

/-- Extra fields as reading leaves them: none of them goes by the name that authors give to a known field. -/
structure Fields.Extra (known : List (List String)) (extras : Fields) : Prop extends Fields.Plain extras where
  unknown : ∀ names ∈ known, ∀ field ∈ extras, names.head? ≠ some field.1

private theorem Fields.plain_nil : Fields.Plain [] := ⟨List.nodup_nil, List.forall_mem_nil _⟩

private theorem Fields.extra_nil (known : List (List String)) : Fields.Extra known [] :=
  ⟨Fields.plain_nil, fun _ _ => List.forall_mem_nil _⟩

theorem Fields.Extra.spares {known : List (List String)} {extras : Fields} (h : Fields.Extra known extras) :
    SparesFields known extras := fun field hfield hknown => h.unknown _ hknown field hfield rfl

private theorem Fields.Plain.putField {fields : Fields} (h : fields.Plain) (name : String) {v : Value}
    (hv : v.recordFree = true) : Fields.Plain (Record.putField fields name v) where
  distinct := nodup_putNamed h.distinct (name, v)
  recordFree := by
    intro field hfield
    rw [putField_eq] at hfield
    rcases mem_putNamed hfield with hold | rfl
    · exact h.recordFree field hold
    · exact hv

def Entries.RecordFree (entries : Entries) : Prop := ∀ entry ∈ entries, entry.2.recordFree = true

theorem Entries.recordFree_of_dict {id : Identity} {entries : Entries} (h : (Value.dict id entries).recordFree = true) :
    Entries.RecordFree entries := fun entry hentry => (recordFreeEntries_iff.mp h entry hentry).2

private theorem Entries.RecordFree.get? {entries : Entries} (h : Entries.RecordFree entries) {key v : Value}
    (hget : Entries.get? entries key = some v) : v.recordFree = true := by
  obtain ⟨entry, hentry, rfl⟩ := Option.map_eq_some_iff.mp hget
  exact h entry (List.mem_of_find?_eq_some hentry)

private theorem Entries.RecordFree.named {entries : Entries} (h : Entries.RecordFree entries) (name : String) :
    (Entries.named entries name).recordFree = true := Value.recordFree_ofOption fun _ hv => h.get? hv

namespace Normal

private theorem textEntries_plain {entries : Entries} (h : Entries.RecordFree entries) :
    Fields.Plain (Record.textEntries entries).2 := by
  unfold Record.textEntries
  refine List.foldlRecOn (motive := fun acc : List FieldFault × Fields => Fields.Plain acc.2) entries _
    Fields.plain_nil ?_
  rintro acc hacc entry hentry
  split
  · exact hacc.putField _ (h entry hentry)
  · exact hacc

theorem used_of_head {entries : Entries} {fields : List (List String)} {names : List String} {name : String}
    {k v : Value} (hfield : names ∈ fields) (hhead : names.head? = some name) (hmem : (k, v) ∈ entries)
    (hk : k.text? = some name) :
    name ∈ fields.filterMap fun names => (Record.find? entries names).map (·.1) := by
  obtain ⟨rest, rfl⟩ : ∃ rest, names = name :: rest := by
    cases names with
    | nil => cases hhead
    | cons first rest => exact ⟨rest, by rw [Option.some.inj hhead]⟩
  refine List.mem_filterMap.mpr ⟨_, hfield, ?_⟩
  have hsame : k.same (.str name) = true := by simp [Value.same_str, hk]
  cases hfind : Entries.named? entries name with
  | some found => simp [Record.find?, hfind]
  | none => exact absurd hsame (List.find?_eq_none.mp (Option.map_eq_none_iff.mp hfind) (k, v) hmem)

private theorem extras_extra {entries : Entries} (h : Entries.RecordFree entries) (fields : List (List String)) :
    Fields.Extra fields (Record.extras entries fields).2 := by
  unfold Record.extras
  dsimp only
  refine List.foldlRecOn (motive := fun acc : List FieldFault × Fields => Fields.Extra fields acc.2) entries _
    (Fields.extra_nil fields) ?_
  rintro ⟨faults, kept⟩ hkept ⟨k, v⟩ hmem
  dsimp only
  cases hk : k.text? with
  | none => exact hkept
  | some name =>
    dsimp only
    split
    · exact hkept
    · rename_i hunused
      refine ⟨hkept.toPlain.putField name (h (k, v) hmem), fun names hnames field hfield hhead => ?_⟩
      rcases mem_putField hfield with hold | heq
      · exact hkept.unknown names hnames field hold hhead
      · exact hunused (List.contains_iff_mem.mpr (used_of_head hnames (heq ▸ hhead) hmem hk))

theorem find?_eq_some {entries : Entries} {names : List String} {name : String} {v : Value}
    (h : Record.find? entries names = some (name, v)) : name ∈ names ∧ Entries.named? entries name = some v := by
  induction names with
  | nil => cases h
  | cons first rest ih =>
    unfold Record.find? at h
    split at h
    · rename_i hfound
      cases h
      exact ⟨List.mem_cons_self, hfound⟩
    · exact ⟨List.mem_cons_of_mem _ (ih h).1, (ih h).2⟩

private theorem value_recordFree {entries : Entries} (h : Entries.RecordFree entries) (names : List String) :
    (Record.value entries names).recordFree = true := by
  refine Value.recordFree_ofOption fun v hv => ?_
  obtain ⟨⟨name, _⟩, hfind, rfl⟩ := Option.map_eq_some_iff.mp hv
  exact h.get? (find?_eq_some hfind).2

end Normal

/-! ## Canonical form -/

/-- What a message shows was written without records. -/
structure MessageBody.Canonical (body : MessageBody) : Prop where
  text : body.text.recordFree = true
  mediaUrl : body.mediaUrl.recordFree = true
  mediaType : body.mediaType.recordFree = true
  extras : Fields.Extra Normal.messageFields body.extras

/-- An action was written without records. Its text is missing if it shares something, and otherwise only if its id is
missing too. -/
structure ActionInfo.Canonical (info : ActionInfo) : Prop where
  text : info.text.recordFree = true
  uri : info.uri.recordFree = true
  payload : info.payload.recordFree = true
  amount : info.amount.recordFree = true
  currency : info.currency.recordFree = true
  thenFlow : info.thenFlow.recordFree = true
  shared : info.kind = .share → info.text = .none
  labelled : info.kind ≠ .share → info.text = .none → info.id = none
  extras : Fields.Extra Normal.actionFields info.extras

/-- An item has an id and was written without records. -/
structure ItemInfo.Canonical (info : ItemInfo) : Prop where
  id : info.id.isSome = true
  title : info.title.recordFree = true
  description : info.description.recordFree = true
  mediaUrl : info.mediaUrl.recordFree = true
  mediaType : info.mediaType.recordFree = true
  extras : Fields.Extra Normal.itemFields info.extras

mutual

/-- An element of a canonical flow is a canonical command or a handler. -/
def Element.Canonical : Element → Prop
  | .command c => c.Canonical
  | .handler h => h.isCallable = true
  | .deferred .. | .invalid .. => False
termination_by structural e => e

/-- A command whose nested flows are canonical, and whose parameters are free of records. -/
def Command.Canonical : Command → Prop
  | .message _ _ body actions items => body.Canonical ∧ actions.Canonical ∧ items.Canonical
  | .conditional _ test yes no => test.recordFree = true ∧ FlowCanonical yes ∧ FlowCanonical no
  | .switch _ value cases default => value.recordFree = true ∧ CasesCanonical cases ∧ OptionCanonical default
  | .iteration _ init condition increment body =>
    Fields.Plain init ∧ condition.recordFree = true ∧ Fields.Plain increment ∧ FlowCanonical body
  | .start _ target args resume => target.recordFree = true ∧ args.recordFree = true ∧ OptionCanonical resume
  | .finish _ result => result.recordFree = true
  | .set _ values => Fields.Plain values
  | .exec _ target args => target.recordFree = true ∧ args.recordFree = true
  | .wait _ seconds => seconds.recordFree = true
  | .break _ | .continue _ => True
  | .flow _ body => FlowCanonical body
termination_by structural c => c

def FlowCanonical : List Element → Prop
  | [] => True
  | e :: rest => e.Canonical ∧ FlowCanonical rest
termination_by structural flow => flow

def OptionCanonical : Option (List Element) → Prop
  | none => True
  | some flow => FlowCanonical flow
termination_by structural flow => flow

def CasesCanonical : List Case → Prop
  | [] => True
  | c :: rest => c.Canonical ∧ CasesCanonical rest
termination_by structural cases => cases

def Case.Canonical : Case → Prop
  | .mk _ value body => value.recordFree = true ∧ FlowCanonical body
termination_by structural c => c

def Actions.Canonical : Actions → Prop
  | .absent => True
  | .fixed actions => ActionsCanonical actions
  | .computed h => h.isCallable = true
termination_by structural actions => actions

def ActionsCanonical : List Action → Prop
  | [] => True
  | a :: rest => a.Canonical ∧ ActionsCanonical rest
termination_by structural actions => actions

def Action.Canonical : Action → Prop
  | .mk info flow => info.Canonical ∧ OptionCanonical flow
termination_by structural a => a

def Items.Canonical : Items → Prop
  | .absent => True
  | .fixed items => ItemsCanonical items
  | .computed h => h.isCallable = true
termination_by structural items => items

def ItemsCanonical : List Item → Prop
  | [] => True
  | i :: rest => i.Canonical ∧ ItemsCanonical rest
termination_by structural items => items

def Item.Canonical : Item → Prop
  | .mk info actions => info.Canonical ∧ actions.Canonical
termination_by structural i => i

end

namespace Normal

private theorem plainText_canonical {text : Value} (h : text.recordFree = true) : (plainText text).Canonical :=
  ⟨⟨h, rfl, rfl, Fields.extra_nil _⟩, trivial, trivial⟩

/-! ## Commands -/

/-- The nested parts of a mapping are canonical, or they fail with ordinary errors. -/
structure Parts.Canonical (parts : Parts) : Prop where
  flow : ∀ name, Reads FlowCanonical (parts.flow name)
  actions : ∀ name, Reads Actions.Canonical (parts.actions "reply" name)
  items : ∀ name, Reads Items.Canonical (parts.items name)
  cases : ∀ name, Reads CasesCanonical (parts.cases name)

variable {parts : Parts} {entries : Entries}

private theorem givenFlow_canonical (h : parts.Canonical) (entries : Entries) (name : String) :
    Reads OptionCanonical (givenFlow entries parts name) :=
  .ite (fun _ => trivial) fun _ => (h.flow name).bind fun _ hflow => hflow

private theorem message_canonical (h : parts.Canonical) (raw : Value) (hentries : Entries.RecordFree entries)
    (kind : MessageKind) : Reads Command.Canonical (message raw entries parts kind) := by
  unfold message
  dsimp only
  refine .branch (P := Actions.Canonical) (fun _ => trivial) (fun _ => h.actions _) fun actions hactions => ?_
  refine .branch (P := Items.Canonical) (fun _ => trivial) (fun _ => h.items _) fun items hitems => ?_
  have hbody : MessageBody.Canonical
      { text := Entries.named entries "text"
        mediaUrl := Record.value entries ["mediaUrl", "media_url"]
        mediaType := Record.value entries ["mediaType", "media_type"]
        extras := (Record.extras entries messageFields).2 } :=
    ⟨hentries.named _, value_recordFree hentries _, value_recordFree hentries _, extras_extra hentries _⟩
  exact checked_reads ⟨hbody, hactions, hitems⟩ _ _

private theorem conditional_canonical (h : parts.Canonical) (hentries : Entries.RecordFree entries) :
    Reads Command.Canonical (conditional entries parts) := by
  unfold conditional
  dsimp only
  refine (h.flow _).bind fun _ hyes => (h.flow _).bind fun _ hno => (givenId_ordinary _ _).bind fun _ _ => ?_
  refine ⟨?_, hyes, hno⟩
  split
  · rfl
  · cases hif : Entries.named? entries "if" with
    | none => exact hentries.named _
    | some test => exact hentries.get? hif

private theorem switch_canonical (h : parts.Canonical) (raw : Value) (hentries : Entries.RecordFree entries) :
    Reads Command.Canonical (switch raw entries parts) := by
  unfold switch
  split
  · rfl
  · rename_i value hvalue
    dsimp only
    refine .branch (P := CasesCanonical) (fun _ => h.cases _) (fun _ => trivial) fun cases hcases => ?_
    refine (givenFlow_canonical h _ _).bind fun default hdefault => ?_
    exact (givenId_ordinary _ _).bind fun _ _ => ⟨hentries.get? hvalue, hcases, hdefault⟩

/-- The parts of a loop were written without records. -/
def Clause.RecordFree (clause : Clause) : Prop :=
  Entries.RecordFree clause.1 ∧ clause.2.1.recordFree = true ∧ Entries.RecordFree clause.2.2

private theorem recordFree_sequence? {v : Value} {vs : List Value} (hv : v.recordFree = true)
    (h : v.sequence? = some vs) :
    ∀ w ∈ vs, w.recordFree = true := by
  cases v with
  | list | tuple =>
    cases h
    exact recordFreeAll_iff.mp hv
  | _ => cases h

private theorem recordFree_getD {vs : List Value} (h : ∀ v ∈ vs, v.recordFree = true) (i : Nat) :
    (vs.getD i .none).recordFree = true := by
  rw [List.getD_eq_getElem?_getD]
  cases hi : vs[i]? with
  | none => rfl
  | some v => exact h v (List.mem_of_getElem? hi)

private theorem forClause_recordFree (id : Identity) {clause : Value} (hclause : clause.recordFree = true) :
    Reads Clause.RecordFree (forClause id clause) := by
  unfold forClause
  extract_lets fail withParts
  have hfail {α : Type} {P : α → Prop} (d : CommandDefect) : Reads P (fail (α := α) d) := rfl
  have hparts (parts : List Value) (hfree : ∀ v ∈ parts, v.recordFree = true) :
      Reads Clause.RecordFree (withParts parts) := by
    unfold withParts
    extract_lets limit withInit
    have hinit (init : Entries) (hinit : Entries.RecordFree init) : Reads Clause.RecordFree (withInit init) := by
      unfold withInit
      extract_lets first required withCondition
      have hrequired : Ordinary required := .ite (fun _ => hfail _) fun _ => trivial
      have hcondition (condition : Value) (hcondition : condition.recordFree = true) :
          Reads Clause.RecordFree (withCondition condition) := by
        unfold withCondition
        extract_lets withIncrement
        have hincrement (increment : Entries) (hincrement : Entries.RecordFree increment) :
            Reads Clause.RecordFree (withIncrement increment) := ⟨hinit, hcondition, hincrement⟩
        have hthird := recordFree_getD hfree 2
        split
        · refine hincrement _ fun entry hentry => ?_
          split at hentry
          · cases hentry
          · rw [List.mem_singleton.mp hentry]
            rfl
        · rename_i heq
          rw [heq] at hthird
          exact hincrement _ (Entries.recordFree_of_dict hthird)
        · refine .ite (fun _ => hrequired.bind fun own _ => hincrement _ ?_) fun _ =>
            (hfail (P := fun _ => False) _).bind fun _ hfalse => hfalse.elim
          exact List.forall_mem_singleton.mpr hthird
      refine .ite (fun _ => hcondition _ rfl) fun _ => .ite (fun _ => ?_) fun _ => hcondition _ (recordFree_getD hfree 1)
      refine hrequired.bind fun own _ => Reads.bind (P := fun v => v.recordFree = true) ?_ fun _ h => hcondition _ h
      exact (along_ordinary own).bind fun _ _ => (described_ordinary _).bind fun _ _ => rfl
    have hfirst := recordFree_getD hfree 0
    split
    · exact hinit _ (List.forall_mem_singleton.mpr rfl)
    · exact hinit _ (List.forall_mem_singleton.mpr rfl)
    · exact hinit _ (List.forall_mem_nil _)
    · rename_i heq
      rw [heq] at hfirst
      exact hinit _ (Entries.recordFree_of_dict hfirst)
    · exact (hfail (P := fun _ => False) _).bind fun _ hfalse => hfalse.elim
  split
  · rename_i parts hsequence
    exact .ite (fun _ => hparts parts (recordFree_sequence? hclause hsequence)) fun _ =>
      (hfail (P := fun _ => False) _).bind fun _ hfalse => hfalse.elim
  · exact (hfail (P := fun _ => False) _).bind fun _ hfalse => hfalse.elim

private theorem recordFree_entriesOf {v : Value} {pairs : Entries} (hv : v.recordFree = true)
    (h : entriesOf v = .ok pairs) :
    Entries.RecordFree pairs :=
  forall_entriesOf (P := fun v => v.recordFree = true) Value.recordFree_elements Entries.recordFree_of_dict hv h

private theorem givenEntries_recordFree {v : Value} (hv : v.recordFree = true) : Reads Entries.RecordFree
    (givenEntries v) := by
  refine .ite (fun _ => ?_) fun _ => List.forall_mem_nil _
  cases h : entriesOf v with
  | ok pairs => exact recordFree_entriesOf hv h
  | error f => rfl

private theorem iteration_canonical (h : parts.Canonical) {raw : Value} (hentries : Entries.RecordFree entries) :
    Reads Command.Canonical (iteration raw entries parts) := by
  unfold iteration
  dsimp only
  have hrest (clause : Clause) (hclause : Clause.RecordFree clause) : Reads Command.Canonical (do
      let body ← parts.flow "do"
      let id ← givenId entries "loop"
      checked raw
        (FieldFault.under (.str "init") (Record.textEntries clause.1).1 ++
          FieldFault.under (.str "increment") (Record.textEntries clause.2.2).1)
        (.iteration id (Record.textEntries clause.1).2 clause.2.1 (Record.textEntries clause.2.2).2 body)) :=
    (h.flow _).bind fun body hbody => (givenId_ordinary _ _).bind fun id _ =>
      checked_reads (P := Command.Canonical) (a := .iteration id _ _ _ body)
        ⟨textEntries_plain hclause.1, hclause.2.1, textEntries_plain hclause.2.2, hbody⟩ _ _
  split
  · rename_i clause hfor
    exact (forClause_recordFree _ (hentries.get? hfor)).bind fun clause hclause => hrest clause hclause
  · refine (givenEntries_recordFree (hentries.named _)).bind fun init hinit => ?_
    refine (givenEntries_recordFree (hentries.named _)).bind fun increment hincrement => ?_
    refine hrest (init, _, increment) ⟨hinit, ?_, hincrement⟩
    split
    · rename_i hwhile
      exact hentries.get? hwhile
    · rfl
    · cases hcondition : Entries.named? entries "condition" with
      | none => rfl
      | some condition => exact hentries.get? hcondition

private theorem set_canonical (raw : Value) (hentries : Entries.RecordFree entries) :
    Reads Command.Canonical (set raw entries) := by
  unfold set
  have hset := hentries.named "set"
  split
  · rename_i heq
    rw [heq] at hset
    exact (givenId_ordinary _ _).bind fun _ _ =>
      checked_reads (P := Command.Canonical) (a := .set _ _) (textEntries_plain (Entries.recordFree_of_dict hset)) _ _
  · rfl

private theorem command_canonical (h : parts.Canonical) (raw : Value) (hentries : Entries.RecordFree entries) :
    Reads Command.Canonical (command raw entries parts) := by
  have hid {f : String → Command} (default : String) (hf : ∀ id, (f id).Canonical) :
      Reads Command.Canonical (do return f (← givenId entries default)) :=
    (givenId_ordinary entries default).bind fun id _ => hf id
  unfold command
  dsimp only
  split
  · rfl
  · split
    · exact message_canonical h _ hentries _
    · split
      · exact conditional_canonical h hentries
      · exact switch_canonical h _ hentries
      · exact iteration_canonical h hentries
      · exact (givenFlow_canonical h _ _).bind fun _ hresume => hid _ fun _ =>
          ⟨hentries.named _, hentries.named _, hresume⟩
      · exact hid _ fun _ => hentries.named _
      · exact set_canonical _ hentries
      · exact hid _ fun _ => ⟨hentries.named _, hentries.named _⟩
      · refine hid _ fun _ => ?_
        have hseconds : (Entries.named? entries "seconds").getD (.int 0) |>.recordFree := by
          cases hgiven : Entries.named? entries "seconds" with
          | none => rfl
          | some seconds => exact hentries.get? hgiven
        cases hgiven : Entries.named? entries "wait" with
        | none => exact hseconds
        | some seconds => exact hentries.get? hgiven
      · exact hid _ fun _ => trivial
      · exact hid _ fun _ => trivial
      · exact .ite (fun _ => rfl) fun _ => (h.flow _).bind fun _ hbody => hid _ fun _ => hbody
      · rfl

/-! ## Actions and items -/

theorem actionKind_name (kind : ActionKind) : actionKind (.str kind.name) = .ok kind := by
  cases kind <;> rfl

private theorem ofText?_eq_none {s : Option String} (h : Value.ofText? s = .none) : s = none := by
  cases s with
  | none => rfl
  | some s => cases h

private theorem id_of_label_eq_none {kind : ActionKind} {given : Value} {keyIsText : Bool} {key id : Option String}
    (hkind : kind ≠ .share) (h : (if kind == .share then Value.none else if !given.isNone then given
      else .ofText? (if keyIsText && key.isSome then key else id)) = .none) : id = none := by
  rw [if_neg (by simpa using hkind)] at h
  split at h
  · rename_i hgiven
    rw [h] at hgiven
    cases hgiven
  · have hlabel := ofText?_eq_none h
    split at hlabel
    · rename_i hkey
      simp [hlabel] at hkey
    · exact hlabel

private theorem actionInfo_canonical (raw : Value) (hentries : Entries.RecordFree entries) (key : Option String)
    (keyIsText : Bool) (kind : ActionKind) {flow : Except Error (Option Flow)} (hflow : Reads OptionCanonical flow) :
    Reads Action.Canonical (actionInfo raw entries key keyIsText kind flow) := by
  unfold actionInfo
  extract_lets given withId
  have hid (id : Option String) : Reads Action.Canonical (withId id) := by
    refine hflow.bind fun flow hflow => .ite (fun _ => rfl) fun _ => ⟨?_, hflow⟩
    constructor
    case text =>
      dsimp only
      split
      · rfl
      · split
        · exact hentries.named _
        · exact Value.recordFree_ofText? _
    case uri | payload | amount | currency => exact hentries.named _
    case thenFlow => exact value_recordFree hentries _
    case shared =>
      rintro rfl
      rfl
    case labelled =>
      intro hkind htext
      exact id_of_label_eq_none hkind htext
    case extras => exact extras_extra hentries actionFields
  split
  · exact hid _
  · exact hid _
  · exact (idText_ordinary _).bind fun id _ => hid _

private theorem flowAction_canonical (key : Option String) {default : Value}
    (hdefault : actionKind default ≠ .ok .share)
    {flow : Flow} (hflow : FlowCanonical flow) : Reads Action.Canonical (flowAction key default flow) := by
  unfold flowAction
  split
  · rename_i kind hkind
    refine ⟨?_, hflow⟩
    constructor
    case text => exact Value.recordFree_ofText? _
    case uri | payload | amount | currency | thenFlow => rfl
    case shared =>
      intro hshare
      rw [hkind] at hdefault
      exact absurd (congrArg Except.ok hshare) hdefault
    case labelled => exact fun _ htext => ofText?_eq_none htext
    case extras => exact Fields.extra_nil _
  · rfl

private theorem itemInfo_canonical (raw : Value) (hentries : Entries.RecordFree entries) (id : String)
    (title : Option String) {actions : Except Error Actions} (hactions : Reads Actions.Canonical actions) :
    Reads Item.Canonical (itemInfo raw entries id title actions) := by
  refine hactions.bind fun actions hactions => .ite (fun _ => rfl) fun _ => ⟨?_, hactions⟩
  refine ⟨rfl, ?_, hentries.named _, value_recordFree hentries _, value_recordFree hentries _, extras_extra hentries _⟩
  dsimp only
  split
  · exact Value.recordFree_ofText? _
  · exact hentries.named _

/-! ## Whatever is written without records -/

-- The recursion is along the value, as in the readers, and it never comes to a record.
mutual

theorem element_canonical (v : Value) (hv : v.recordFree = true) : Reads Element.Canonical (element v) := by
  cases v with
  | str | markup => exact plainText_canonical rfl
  | model => cases hv
  | dict id entries =>
    exact (command_canonical ⟨fun name => flowUnder_canonical name entries hv,
      fun name => actionsUnder_canonical "reply" nofun name entries hv,
      fun name => itemsUnder_canonical name entries hv, fun name => casesUnder_canonical name entries hv⟩ _
      (Entries.recordFree_of_dict hv)).bind fun _ hc => hc
  | _ =>
    unfold element
    exact .ite (fun h => h) fun _ => rfl
termination_by structural v

theorem flow_canonical (v : Value) (hv : v.recordFree = true) : Reads FlowCanonical (flow v) := by
  cases v with
  | none => trivial
  | list _ vs | tuple vs => exact elements_canonical vs hv
  | str | markup => exact ⟨plainText_canonical rfl, trivial⟩
  | model => cases hv
  | dict id entries =>
    exact (command_canonical ⟨fun name => flowUnder_canonical name entries hv,
      fun name => actionsUnder_canonical "reply" nofun name entries hv,
      fun name => itemsUnder_canonical name entries hv, fun name => casesUnder_canonical name entries hv⟩ _
      (Entries.recordFree_of_dict hv)).bind fun _ hc => ⟨hc, trivial⟩
  | _ =>
    unfold flow
    exact .ite (fun h => ⟨h, trivial⟩) fun _ => rfl
termination_by structural v

theorem elements_canonical (vs : List Value) (hvs : recordFreeAll vs = true) : Reads FlowCanonical (elements vs) := by
  match vs, hvs with
  | [], _ => trivial
  | v :: vs, hvs =>
    obtain ⟨hv, hvs⟩ := recordFreeAll_cons.mp hvs
    exact (element_canonical v hv).bind fun _ he => (elements_canonical vs hvs).bind fun _ hrest => ⟨he, hrest⟩
termination_by structural vs

theorem flowUnder_canonical (name : String) (entries : Entries) (h : recordFreeEntries entries = true) :
    Reads FlowCanonical (flowUnder name entries) := by
  match entries, h with
  | [], _ => trivial
  | (k, v) :: rest, h =>
    obtain ⟨⟨-, hv⟩, hrest⟩ := recordFreeEntries_cons.mp h
    exact .ite (fun _ => flow_canonical v hv) fun _ => flowUnder_canonical name rest hrest
termination_by structural entries

theorem actions_canonical (default : Value) (hdefault : actionKind default ≠ .ok .share) (v : Value)
    (hv : v.recordFree = true) : Reads Actions.Canonical (actions default v) := by
  cases v with
  | list _ vs | tuple vs => exact (actionList_canonical default hdefault vs hv).bind fun _ h => h
  | dict _ entries => exact (actionMap_canonical default hdefault entries hv).bind fun _ h => h
  | _ =>
    unfold actions
    exact .ite (fun h => h) fun _ => rfl
termination_by structural v

theorem actionList_canonical (default : Value) (hdefault : actionKind default ≠ .ok .share) (vs : List Value)
    (hvs : recordFreeAll vs = true) : Reads ActionsCanonical (actionList default vs) := by
  match vs, hvs with
  | [], _ => trivial
  | v :: vs, hvs =>
    obtain ⟨hv, hvs⟩ := recordFreeAll_cons.mp hvs
    refine (ownId_ordinary v).bind fun id _ => (action_canonical default hdefault id false v hv).bind fun _ ha => ?_
    exact (actionList_canonical default hdefault vs hvs).bind fun _ hrest => ⟨ha, hrest⟩
termination_by structural vs

theorem actionMap_canonical (default : Value) (hdefault : actionKind default ≠ .ok .share) (entries : Entries)
    (h : recordFreeEntries entries = true) : Reads ActionsCanonical (actionMap default entries) := by
  match entries, h with
  | [], _ => trivial
  | (k, v) :: rest, h =>
    obtain ⟨⟨-, hv⟩, hrest⟩ := recordFreeEntries_cons.mp h
    refine (idText_ordinary k).bind fun id _ =>
      (action_canonical default hdefault (some id) true v hv).bind fun _ ha => ?_
    exact (actionMap_canonical default hdefault rest hrest).bind fun _ hrest => ⟨ha, hrest⟩
termination_by structural entries

theorem actionsUnder_canonical (default : String) (hdefault : actionKind (.str default) ≠ .ok .share) (name : String)
    (entries : Entries) (h : recordFreeEntries entries = true) :
    Reads Actions.Canonical (actionsUnder default name entries) := by
  match entries, h with
  | [], _ => trivial
  | (k, v) :: rest, h =>
    obtain ⟨⟨-, hv⟩, hrest⟩ := recordFreeEntries_cons.mp h
    exact .ite (fun _ => actions_canonical _ hdefault v hv) fun _ =>
      actionsUnder_canonical default hdefault name rest hrest
termination_by structural entries

theorem action_canonical (default : Value) (hdefault : actionKind default ≠ .ok .share) (key : Option String)
    (keyIsText : Bool) (v : Value) (hv : v.recordFree = true) :
    Reads Action.Canonical (action default key keyIsText v) := by
  cases v with
  | model => cases hv
  | dict id entries =>
    unfold action
    have hentries := Entries.recordFree_of_dict hv
    split
    · refine actionInfo_canonical _ hentries _ _ _ (.ite (fun _ => trivial) fun _ => ?_)
      exact (flowUnder_canonical "then" entries hv).bind fun _ h => h
    · refine .ite (fun _ => rfl) fun _ => .ite (fun _ => ?_) fun _ => rfl
      exact (command_canonical ⟨fun name => flowUnder_canonical name entries hv,
        fun name => actionsUnder_canonical "reply" nofun name entries hv,
        fun name => itemsUnder_canonical name entries hv, fun name => casesUnder_canonical name entries hv⟩ _
        hentries).bind fun _ hc => flowAction_canonical key hdefault ⟨hc, trivial⟩
  | list _ vs | tuple vs => exact (elements_canonical vs hv).bind fun _ h => flowAction_canonical key hdefault h
  | str | markup => exact flowAction_canonical key hdefault ⟨plainText_canonical rfl, trivial⟩
  | _ =>
    unfold action
    exact .ite (fun h => flowAction_canonical key hdefault ⟨h, trivial⟩) fun _ => rfl
termination_by structural v

theorem items_canonical (v : Value) (hv : v.recordFree = true) : Reads Items.Canonical (items v) := by
  cases v with
  | list _ vs | tuple vs => exact (itemList_canonical 0 vs hv).bind fun _ h => h
  | dict _ entries => exact (itemMap_canonical entries hv).bind fun _ h => h
  | _ =>
    unfold items
    exact .ite (fun h => h) fun _ => rfl
termination_by structural v

theorem itemList_canonical (position : Nat) (vs : List Value) (hvs : recordFreeAll vs = true) :
    Reads ItemsCanonical (itemList position vs) := by
  match vs, hvs with
  | [], _ => trivial
  | v :: vs, hvs =>
    obtain ⟨hv, hvs⟩ := recordFreeAll_cons.mp hvs
    refine (ownId_ordinary v).bind fun id _ => (item_canonical _ none v hv).bind fun _ hi => ?_
    exact (itemList_canonical (position + 1) vs hvs).bind fun _ hrest => ⟨hi, hrest⟩
termination_by structural vs

theorem itemMap_canonical (entries : Entries) (h : recordFreeEntries entries = true) :
    Reads ItemsCanonical (itemMap entries) := by
  match entries, h with
  | [], _ => trivial
  | (k, v) :: rest, h =>
    obtain ⟨⟨-, hv⟩, hrest⟩ := recordFreeEntries_cons.mp h
    refine (idText_ordinary k).bind fun key _ => (item_canonical key (some key) v hv).bind fun _ hi => ?_
    exact (itemMap_canonical rest hrest).bind fun _ hrest => ⟨hi, hrest⟩
termination_by structural entries

theorem itemsUnder_canonical (name : String) (entries : Entries) (h : recordFreeEntries entries = true) :
    Reads Items.Canonical (itemsUnder name entries) := by
  match entries, h with
  | [], _ => trivial
  | (k, v) :: rest, h =>
    obtain ⟨⟨-, hv⟩, hrest⟩ := recordFreeEntries_cons.mp h
    exact .ite (fun _ => items_canonical v hv) fun _ => itemsUnder_canonical name rest hrest
termination_by structural entries

theorem item_canonical (id : String) (title : Option String) (v : Value) (hv : v.recordFree = true) :
    Reads Item.Canonical (item id title v) := by
  cases v with
  | model => cases hv
  | dict _ entries =>
    refine itemInfo_canonical _ (Entries.recordFree_of_dict hv) _ _ (.ite (fun _ => trivial) fun _ => ?_)
    exact actionsUnder_canonical "postback" nofun "actions" entries hv
  | _ => rfl
termination_by structural v

theorem cases_canonical (v : Value) (hv : v.recordFree = true) : Reads CasesCanonical (cases v) := by
  cases v with
  | list _ vs | tuple vs => exact caseList_canonical vs hv
  | dict _ entries => exact caseMap_canonical entries hv
  | _ => rfl
termination_by structural v

theorem caseList_canonical (vs : List Value) (hvs : recordFreeAll vs = true) : Reads CasesCanonical (caseList vs) := by
  match vs, hvs with
  | [], _ => trivial
  | v :: vs, hvs =>
    obtain ⟨hv, hvs⟩ := recordFreeAll_cons.mp hvs
    exact (case_canonical v hv).bind fun _ hc => (caseList_canonical vs hvs).bind fun _ hrest => ⟨hc, hrest⟩
termination_by structural vs

theorem caseMap_canonical (entries : Entries) (h : recordFreeEntries entries = true) :
    Reads CasesCanonical (caseMap entries) := by
  match entries, h with
  | [], _ => trivial
  | (k, v) :: rest, h =>
    obtain ⟨⟨-, hv⟩, hrest⟩ := recordFreeEntries_cons.mp h
    refine (idText_ordinary k).bind fun id _ => (flow_canonical v hv).bind fun _ hbody => ?_
    exact (caseMap_canonical rest hrest).bind fun _ hrest => ⟨⟨rfl, hbody⟩, hrest⟩
termination_by structural entries

theorem casesUnder_canonical (name : String) (entries : Entries) (h : recordFreeEntries entries = true) :
    Reads CasesCanonical (casesUnder name entries) := by
  match entries, h with
  | [], _ => trivial
  | (k, v) :: rest, h =>
    obtain ⟨⟨-, hv⟩, hrest⟩ := recordFreeEntries_cons.mp h
    exact .ite (fun _ => cases_canonical v hv) fun _ => casesUnder_canonical name rest hrest
termination_by structural entries

theorem case_canonical (v : Value) (hv : v.recordFree = true) : Reads Case.Canonical («case» v) := by
  cases v with
  | model => cases hv
  | dict _ entries =>
    refine .ite (fun _ => rfl) fun _ => (idText_ordinary _).bind fun id _ => ?_
    exact (flowUnder_canonical "do" entries hv).bind fun _ hbody =>
      ⟨(Entries.recordFree_of_dict hv).named _, hbody⟩
  | _ => rfl
termination_by structural v

end

end Normal

end Colloquy
