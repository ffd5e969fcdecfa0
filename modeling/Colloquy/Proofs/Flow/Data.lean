import Colloquy.Dialog.Flows
import Colloquy.Proofs.Flow.Authoring
import Colloquy.Proofs.Flow.Parts
import Colloquy.Proofs.Flow.Reads

/-!
# Reading flows that are data

A flow file holds data: scalars, lists and mappings. Whatever stands there in the place of a flow, reading it gives
flows without invalid elements or fails with an authoring error. There are two exceptions: loops whose variables cannot
be told, which are not looked at before they are used, and integers that are too long to be written.
-/

namespace Colloquy

/-- Whether a value is a scalar, as the keys of mappings in a file are. -/
def Value.isScalar : Value → Bool
  | .none | .bool _ | .int _ | .float _ | .str _ => true
  | _ => false

/-- If a `for` clause has a number as its limit, then its variable has a text as its name. -/
def NamesVariable (clause : Value) : Prop :=
  ∀ parts id first value rest, clause.sequence? = some parts →
    parts.getD 0 .none = .dict id ((first, value) :: rest) → (parts.getD 1 .none).isNumber = true →
    first = .none ∨ ∃ name, first = .str name

/-- What a loop sets can be told: its clause has a variable to compare, or else what is set first and after each round
can be read as a mapping. -/
structure ReadableLoop (entries : Entries) : Prop where
  clause : ∀ clause, Entries.named? entries "for" = some clause → NamesVariable clause
  given : Entries.named? entries "for" = none → ∀ name ∈ ["init", "increment"],
    (Entries.named entries name).truthy = true → ∃ pairs, entriesOf (Entries.named entries name) = .ok pairs

/-- Data of a flow file: scalars, lists and mappings with scalars as keys, without integers that are too long to be
written and without loops that cannot be read. -/
inductive Value.Legible : Value → Prop where
  | none : Legible .none
  | bool (b : Bool) : Legible (.bool b)
  | int (n : Int) (h : (Value.int n).unwritable = false) : Legible (.int n)
  | float (x : Float) : Legible (.float x)
  | str (s : String) : Legible (.str s)
  | list {id : Identity} {items : List Value} (h : ∀ v ∈ items, Legible v) : Legible (.list id items)
  | dict {id : Identity} {entries : Entries}
      (keys : ∀ entry ∈ entries, entry.1.isScalar = true ∧ entry.1.unwritable = false)
      (values : ∀ entry ∈ entries, Legible entry.2)
      (loop : (commandType entries).text? = some "iteration" → ReadableLoop entries) :
      Legible (.dict id entries)

/-- A part that stands for something, and whose numbers can be written. -/
structure FlowPart.IsIntact (part : FlowPart) : Prop where
  valid : ∀ cause, part ≠ .invalid cause
  writable : part.Writable

private theorem FlowPart.IsIntact.of_command {c : Command} (h : (FlowPart.command c).Writable) :
    (FlowPart.command c).IsIntact where
  valid _ hinvalid := by cases hinvalid
  writable := h

/-- Among the parts of a flow there is no invalid element and no number that is too long to be written. -/
def Intact (parts : List FlowPart) : Prop := ∀ part ∈ parts, part.IsIntact

namespace Intact

variable {parts more : List FlowPart}

private theorem nil : Intact [] := List.forall_mem_nil _

private theorem cons {part : FlowPart} (hpart : part.IsIntact) (h : Intact parts) : Intact (part :: parts) :=
  List.forall_mem_cons.mpr ⟨hpart, h⟩

private theorem append (h : Intact parts) (h' : Intact more) : Intact (parts ++ more) :=
  List.forall_mem_append.mpr ⟨h, h'⟩

private theorem single {c : Command} (h : Intact c.parts) : Intact (flowParts [.command c]) := append h nil

end Intact

private theorem Authored.pure {α : Type} {P : α → Prop} {a : α} (h : P a) : Authored P (Pure.pure a) := h

private theorem Authored.branch {α β : Type} {P : α → Prop} {Q : β → Prop} {p : Prop} [Decidable p]
    {x y : Except Error α}
    {f : α → Except Error β} (hx : p → Authored P x) (hy : ¬p → Authored P y) (hf : ∀ a, P a → Authored Q (f a)) :
    Authored Q (if p then x >>= f else y >>= f) :=
  .ite (fun h => (hx h).bind hf) fun h => (hy h).bind hf

namespace Value

variable {v : Value} {id : Identity} {vs : List Value} {entries : Entries}

private theorem unwritableAny_eq_false (h : ∀ v ∈ vs, v.unwritable = false) : unwritableAny vs = false := by
  induction vs with
  | nil => rfl
  | cons v rest ih =>
    obtain ⟨hfirst, hrest⟩ := List.forall_mem_cons.mp h
    simp [unwritableAny, hfirst, ih hrest]

private theorem unwritableEntry_eq_false (hkeys : ∀ entry ∈ entries, entry.1.unwritable = false)
    (hvalues : ∀ entry ∈ entries, entry.2.unwritable = false) : unwritableEntry entries = false := by
  induction entries with
  | nil => rfl
  | cons entry rest ih =>
    obtain ⟨hkey, hkeys⟩ := List.forall_mem_cons.mp hkeys
    obtain ⟨hvalue, hvalues⟩ := List.forall_mem_cons.mp hvalues
    simp [unwritableEntry, hkey, hvalue, ih hkeys hvalues]

private theorem Legible.unwritable_eq_false (h : v.Legible) : v.unwritable = false := by
  induction h with
  | int n h => exact h
  | list _ ih => exact unwritableAny_eq_false ih
  | dict keys _ _ ih => exact unwritableEntry_eq_false (fun entry hentry => (keys entry hentry).2) ih
  | _ => rfl

private theorem legible_of_isScalar (hscalar : v.isScalar = true) (h : v.unwritable = false) : v.Legible := by
  cases v with
  | none => exact .none
  | bool b => exact .bool b
  | int n => exact .int n h
  | float x => exact .float x
  | str s => exact .str s
  | _ => cases hscalar

private theorem Legible.elements (h : v.Legible) (helements : v.elements = .ok vs) : ∀ w ∈ vs, w.Legible := by
  cases h with
  | str s =>
    cases helements
    intro w hw
    obtain ⟨_, -, rfl⟩ := List.mem_map.mp hw
    exact .str _
  | list h =>
    cases helements
    exact h
  | dict keys values loop =>
    cases helements
    intro w hw
    obtain ⟨entry, hentry, rfl⟩ := List.mem_map.mp hw
    exact legible_of_isScalar (keys entry hentry).1 (keys entry hentry).2
  | _ => cases helements

private theorem Legible.values (h : (Value.dict id entries).Legible) : ∀ entry ∈ entries, entry.2.Legible := by
  cases h with
  | dict keys values loop => exact values

private theorem Legible.ofValue_ne (h : v.Legible) (name : String) : FlowKey.ofValue name v ≠ .error
    (.fault .badValue) := by
  have hnaming {x : Except Error String} (hx : Misnames x) : x ≠ .error (.fault .badValue) :=
    fun he => absurd (hx _ he) (by decide)
  cases h with
  | str s => exact hnaming (FlowKey.misnames_ofText _ _)
  | list h =>
    exact hnaming (FlowKey.misnames_ofIds (unwritableAny_eq_false fun w hw => (h w hw).unwritable_eq_false) _)
  | _ => nofun

private theorem Legible.named? (h : ∀ entry ∈ entries, entry.2.Legible) {name : String}
    (hv : Entries.named? entries name = some v) :
    v.Legible := by
  obtain ⟨entry, hfind, rfl⟩ := Option.map_eq_some_iff.mp hv
  exact h entry (List.mem_of_find?_eq_some hfind)

private theorem Legible.value (h : ∀ entry ∈ entries, entry.2.Legible) (names : List String) :
    (Record.value entries names).Legible := by
  unfold Record.value
  induction names with
  | nil => exact .none
  | cons name rest ih =>
    rw [Record.find?]
    cases hv : Entries.named? entries name with
    | none => exact ih
    | some v => exact Legible.named? h hv

private theorem Legible.getD (h : ∀ w ∈ vs, w.Legible) (i : Nat) : (vs.getD i .none).Legible := by
  rw [List.getD_eq_getElem?_getD]
  cases hv : vs[i]? with
  | none => exact .none
  | some w => exact h w (List.mem_of_getElem? hv)

private theorem Legible.named (h : ∀ entry ∈ entries, entry.2.Legible) (name : String) :
    (Entries.named entries name).Legible := by
  unfold Entries.named
  cases hv : Entries.named? entries name with
  | none => exact .none
  | some v => exact Legible.named? h hv

end Value

namespace Normal

open Value

private theorem liftFault_ok {α : Type} {x : Outcome α} {a : α} (h : x = .ok a) : BlamesAuthor (liftFault x) := by
  rw [h]
  trivial

private theorem idText_authored {v : Value} (h : v.unwritable = false) : BlamesAuthor (idText v) :=
  liftFault_ok (if_neg (by simp [h]))

private theorem givenId_authored {entries : Entries} (h : ∀ entry ∈ entries, entry.2.Legible) (default : String) :
    BlamesAuthor (givenId entries default) :=
  .ite (fun _ => trivial) fun _ => idText_authored (Legible.named h "id").unwritable_eq_false

private theorem checked_authored {α : Type} {P : α → Prop} {a : α} (h : P a) (raw : Value) (faults : List FieldFault) :
    Authored P (checked raw faults a) := .ite (fun _ => h) fun _ => rfl

private theorem ownId_authored {v : Value} (h : v.Legible) : BlamesAuthor (ownId v) := by
  refine .ite (fun _ => trivial) fun _ => (idText_authored ?_).bind fun _ _ => trivial
  cases h with
  | dict keys values loop => exact (Legible.named values "id").unwritable_eq_false
  | _ => rfl

/-! ## Commands -/

/-- The nested parts of a mapping are intact, or they fail with authoring errors. -/
structure Parts.Readable (parts : Parts) : Prop where
  flow : ∀ name, Authored (fun flow => Intact (flowParts flow)) (parts.flow name)
  actions : ∀ name, Authored (fun actions => Intact actions.parts) (parts.actions "reply" name)
  items : ∀ name, Authored (fun items => Intact items.parts) (parts.items name)
  cases : ∀ name, Authored (fun cases => Intact (casesParts cases)) (parts.cases name)

variable {parts : Parts} {entries : Entries}

private theorem givenFlow_authored (h : parts.Readable) (entries : Entries) (name : String) :
    Authored (fun flow => Intact (optionParts flow)) (givenFlow entries parts name) :=
  .ite (fun _ => .nil) fun _ => (h.flow name).bind fun _ hflow => hflow

private theorem message_authored (h : parts.Readable) (raw : Value) (entries : Entries) (kind : MessageKind) :
    Authored (fun c => Intact c.parts) (message raw entries parts kind) := by
  unfold message
  dsimp only
  refine .branch (fun _ => .pure .nil) (fun _ => h.actions _) fun actions hactions => ?_
  refine .branch (fun _ => .pure .nil) (fun _ => h.items _) fun items hitems => ?_
  exact checked_authored (.cons (.of_command trivial) (hactions.append hitems)) _ _

private theorem conditional_authored (h : parts.Readable) (hvalues : ∀ entry ∈ entries, entry.2.Legible) :
    Authored (fun c => Intact c.parts) (conditional entries parts) :=
  (h.flow _).bind fun _ hyes => (h.flow _).bind fun _ hno => (givenId_authored hvalues _).bind fun _ _ =>
    .cons (.of_command trivial) (hyes.append hno)

private theorem switch_authored (h : parts.Readable) (raw : Value) (hvalues : ∀ entry ∈ entries, entry.2.Legible) :
    Authored (fun c => Intact c.parts) (switch raw entries parts) := by
  unfold switch
  split
  · rfl
  · dsimp only
    refine .branch (fun _ => h.cases _) (fun _ => .pure .nil) fun cases hcases => ?_
    refine (givenFlow_authored h _ _).bind fun default hdefault => ?_
    exact (givenId_authored hvalues _).bind fun _ _ => .cons (.of_command trivial) (hcases.append hdefault)

def Adds (increment : Entries) : Prop := ∀ entry ∈ increment, entry.2.unwritable = false

private theorem forClause_authored (id : Identity) {clause : Value} (hlegible : clause.Legible)
    (h : NamesVariable clause) :
    Authored (fun clause => Adds clause.2.2) (forClause id clause) := by
  unfold forClause
  extract_lets fail withParts
  have hfail {α : Type} {P : α → Prop} (d : CommandDefect) : Authored P (fail (α := α) d) := rfl
  have hparts (parts : List Value) (hclause : clause.sequence? = some parts) :
      Authored (fun clause => Adds clause.2.2) (withParts parts) := by
    unfold withParts
    extract_lets limit withInit
    have hpart (i : Nat) : (parts.getD i .none).Legible := by
      refine Legible.getD ?_ i
      cases hlegible with
      | list hitems => exact Option.some.inj hclause ▸ hitems
      | _ => cases hclause
    have hinit (init : Entries) (hvariable : limit.isNumber = true → ∀ entry, init.head? = some entry →
        entry.1 = .none ∨ ∃ name, entry.1 = .str name) : Authored (fun clause => Adds clause.2.2) (withInit init) := by
      unfold withInit
      extract_lets first required withCondition
      have hrequired : BlamesAuthor required := .ite (fun _ => hfail _) fun _ => trivial
      have hcondition (condition : Value) : Authored (fun clause => Adds clause.2.2) (withCondition condition) := by
        unfold withCondition
        extract_lets withIncrement
        have hincrement {increment : Entries} (hadds : Adds increment) :
            Authored (fun clause => Adds clause.2.2) (withIncrement increment) := hadds
        have hthird := hpart 2
        split
        · refine hincrement ?_
          split
          · exact List.forall_mem_nil _
          · exact List.forall_mem_singleton.mpr (tooLong_of_digit (by decide))
        · rename_i heq
          rw [heq] at hthird
          exact hincrement fun entry hentry => (hthird.values entry hentry).unwritable_eq_false
        · refine .ite (fun _ => hrequired.bind fun _ _ => hincrement ?_) fun _ => ?_
          · exact List.forall_mem_singleton.mpr hthird.unwritable_eq_false
          · exact (hfail (P := fun _ => False) _).bind fun _ hfalse => hfalse.elim
      refine .ite (fun _ => hcondition _) fun _ => .ite (fun hnumber => ?_) fun _ => hcondition _
      -- the condition compares the variable with a number, and only a text is the path of an accessor
      have hnamed : Authored (fun first => ∃ name, first = .str name) required := by
        refine .ite (fun _ => hfail _) fun hsome => ?_
        have hfirst : first = (init.head?.map (·.1)).getD .none := rfl
        change ∃ name, first = .str name
        cases hhead : init.head? with
        | none =>
          rw [hhead] at hfirst
          exact absurd (congrArg Value.isNone hfirst) hsome
        | some entry =>
          rw [hhead] at hfirst
          rw [hfirst] at hsome ⊢
          exact (hvariable hnumber entry hhead).resolve_left fun hnone => hsome (congrArg Value.isNone hnone)
      refine hnamed.bind fun own hown => ?_
      obtain ⟨name, rfl⟩ := hown
      have haccessor : BlamesAuthor (Accessor.ofVariable id (.str name) (.compare .lt limit)) := by
        rw [Accessor.ofVariable_text, Access.unwritable, (hpart 1).unwritable_eq_false]
        trivial
      exact haccessor.bind fun _ _ => hcondition _
    split
    · exact hinit _ fun _ entry hentry => .inr ⟨_, by cases hentry; rfl⟩
    · exact hinit _ fun _ entry hentry => .inr ⟨_, by cases hentry; rfl⟩
    · exact hinit _ fun _ entry hentry => by cases hentry
    · rename_i own entries hfirst
      refine hinit _ fun hnumber entry hentry => ?_
      cases entries with
      | nil => cases hentry
      | cons init rest =>
        cases hentry
        exact h parts own entry.1 entry.2 rest hclause hfirst hnumber
    · exact (hfail (P := fun _ => False) _).bind fun _ hfalse => hfalse.elim
  split
  · rename_i parts hclause
    exact .ite (fun _ => hparts parts hclause) fun _ => (hfail (P := fun _ => False) _).bind fun _ hfalse => hfalse.elim
  · exact (hfail (P := fun _ => False) _).bind fun _ hfalse => hfalse.elim

private theorem givenEntries_authored {v : Value} (hlegible : v.Legible)
    (h : v.truthy = true → ∃ pairs, entriesOf v = .ok pairs) : Authored Adds (givenEntries v) := by
  refine .ite (fun htruthy => ?_) fun _ => List.forall_mem_nil _
  obtain ⟨pairs, hpairs⟩ := h htruthy
  have hvalues := forall_entriesOf (P := Value.Legible) Legible.elements Legible.values hlegible hpairs
  rw [hpairs]
  exact fun entry hentry => (hvalues entry hentry).unwritable_eq_false

private theorem exists_incrementValues {increment : Entries} (h : Adds increment) :
    ∃ values, incrementValues? (Record.textEntries increment).2 = .ok values := by
  refine ⟨_, incrementValues?_ok (Bool.eq_false_iff.mpr ?_)⟩
  rw [Ne, addsTooLong, List.any_eq_true]
  rintro ⟨field, hfield, hlong⟩
  simp [forall_textEntries (P := fun v => v.unwritable = false) h field hfield] at hlong

private theorem iteration_authored (h : parts.Readable) (raw : Value) (hvalues : ∀ entry ∈ entries, entry.2.Legible)
    (hloop : ReadableLoop entries) : Authored (fun c => Intact c.parts) (iteration raw entries parts) := by
  unfold iteration
  dsimp only
  have hrest (clause : Clause) (hadds : Adds clause.2.2) : Authored (fun c => Intact c.parts) (do
      let body ← parts.flow "do"
      let id ← givenId entries "loop"
      checked raw
        (FieldFault.under (.str "init") (Record.textEntries clause.1).1 ++
          FieldFault.under (.str "increment") (Record.textEntries clause.2.2).1)
        (Command.iteration id (Record.textEntries clause.1).2 clause.2.1 (Record.textEntries clause.2.2).2 body)) :=
    (h.flow _).bind fun _ hbody => (givenId_authored hvalues _).bind fun _ _ =>
      checked_authored (.cons (.of_command (exists_incrementValues hadds)) hbody) _ _
  split
  · rename_i clause hfor
    exact (forClause_authored _ (Legible.named? hvalues hfor) (hloop.clause clause hfor)).bind hrest
  · rename_i hfor
    refine (givenEntries_authored (Legible.named hvalues _) (hloop.given hfor "init" (by simp))).bind fun init _ => ?_
    refine (givenEntries_authored (Legible.named hvalues _) (hloop.given hfor "increment" (by simp))).bind ?_
    exact fun increment hadds => hrest (init, _, increment) hadds

private theorem set_authored (raw : Value) (hvalues : ∀ entry ∈ entries, entry.2.Legible) :
    Authored (fun c => Intact c.parts) (set raw entries) := by
  unfold set
  split
  · exact (givenId_authored hvalues _).bind fun _ _ => checked_authored (.cons (.of_command trivial) .nil) _ _
  · rfl

private theorem command_authored (h : parts.Readable) (raw : Value) (hvalues : ∀ entry ∈ entries, entry.2.Legible)
    (hloop : (commandType entries).text? = some "iteration" → ReadableLoop entries) :
    Authored (fun c => Intact c.parts) (command raw entries parts) := by
  have hid {f : String → Command} (default : String) (hf : ∀ id, Intact (f id).parts) :
      Authored (fun c => Intact c.parts) (do return f (← givenId entries default)) :=
    (givenId_authored hvalues default).bind fun id _ => hf id
  unfold command
  dsimp only
  split
  · rfl
  · rename_i word hword
    split
    · exact message_authored h _ _ _
    · split
      · exact conditional_authored h hvalues
      · exact switch_authored h _ hvalues
      · exact iteration_authored h _ hvalues (hloop hword)
      · exact (givenFlow_authored h _ _).bind fun _ hresume => hid _ fun _ => .cons (.of_command trivial) hresume
      · exact hid _ fun _ => .cons (.of_command trivial) .nil
      · exact set_authored _ hvalues
      · exact hid _ fun _ => .cons (.of_command trivial) .nil
      · exact hid _ fun _ => .cons (.of_command trivial) .nil
      · exact hid _ fun _ => .cons (.of_command trivial) .nil
      · exact hid _ fun _ => .cons (.of_command trivial) .nil
      · exact .ite (fun _ => rfl) fun _ => (h.flow _).bind fun _ hbody => hid _ fun _ => .cons (.of_command trivial) hbody
      · rfl

private theorem actionInfo_authored (raw : Value) (hvalues : ∀ entry ∈ entries, entry.2.Legible) (key : Option String)
    (keyIsText : Bool) (kind : ActionKind) {flow : Except Error (Option Flow)}
    (hflow : Authored (fun flow => Intact (optionParts flow)) flow) :
    Authored (fun a => Intact a.parts) (actionInfo raw entries key keyIsText kind flow) := by
  unfold actionInfo
  extract_lets given withId
  have hid (id : Option String) : Authored (fun a => Intact a.parts) (withId id) := by
    refine hflow.bind fun flow hflow => ?_
    exact .ite (fun _ => rfl) fun _ => .cons ⟨nofun, (Legible.value hvalues _).ofValue_ne⟩ hflow
  split
  · exact hid _
  · exact hid _
  · rename_i v _ hnamed
    have hv : v.Legible := by
      have hlegible := Legible.named hvalues "id"
      rwa [Entries.named, hnamed] at hlegible
    exact (idText_authored hv.unwritable_eq_false).bind fun id _ => hid _

private theorem flowAction_authored (key : Option String) {default : Value}
    (hdefault : ∃ kind, actionKind default = .ok kind) {flow : Flow} (hflow : Intact (flowParts flow)) :
    Authored (fun a => Intact a.parts) (flowAction key default flow) := by
  obtain ⟨kind, hkind⟩ := hdefault
  unfold flowAction
  rw [hkind]
  exact .cons ⟨nofun, Value.Legible.none.ofValue_ne⟩ hflow

private theorem itemInfo_authored (raw : Value) (entries : Entries) (id : String) (title : Option String)
    {actions : Except Error Actions} (hactions : Authored (fun actions => Intact actions.parts) actions) :
    Authored (fun i => Intact i.parts) (itemInfo raw entries id title actions) := by
  refine hactions.bind fun actions hactions => ?_
  exact .ite (fun _ => rfl) fun _ => .cons ⟨nofun, trivial⟩ hactions

/-! ## All that is written -/

mutual

theorem element_authored {v : Value} (h : v.Legible) : Authored (fun e => Intact e.parts) (element v) := by
  cases h with
  | str s => exact .pure (.cons (.of_command trivial) .nil)
  | dict keys values loop => exact (command_authored (under_readable values) _ values loop).bind fun _ hc => hc
  | _ => rfl
termination_by (sizeOf v, 0)

private theorem flow_authored {v : Value} (h : v.Legible) : Authored (fun flow => Intact (flowParts flow))
    (flow v) := by
  cases h with
  | none => exact .pure .nil
  | str s => exact .pure (.cons (.of_command trivial) .nil)
  | list h => exact elements_authored h
  | dict keys values loop =>
    exact (command_authored (under_readable values) _ values loop).bind fun _ hc => .single hc
  | _ => rfl
termination_by (sizeOf v, 0)

theorem elements_authored {vs : List Value} (h : ∀ v ∈ vs, v.Legible) :
    Authored (fun flow => Intact (flowParts flow)) (elements vs) := by
  match vs with
  | [] => exact .pure .nil
  | v :: vs =>
    obtain ⟨hv, hvs⟩ := List.forall_mem_cons.mp h
    exact (element_authored hv).bind fun _ he => (elements_authored hvs).bind fun _ hrest => he.append hrest
termination_by (sizeOf vs, 0)

/-- What stands under the names of a mapping can be read. -/
theorem under_readable {entries : Entries} (h : ∀ entry ∈ entries, entry.2.Legible) :
    Parts.Readable ⟨fun name => flowUnder name entries, fun default name => actionsUnder default name entries,
      fun name => itemsUnder name entries, fun name => casesUnder name entries⟩ :=
  ⟨fun name => flowUnder_authored name h, fun name => actionsUnder_authored name h ⟨.reply, rfl⟩,
    fun name => itemsUnder_authored name h, fun name => casesUnder_authored name h⟩
termination_by (sizeOf entries, 1)

theorem flowUnder_authored (name : String) {entries : Entries} (h : ∀ entry ∈ entries, entry.2.Legible) :
    Authored (fun flow => Intact (flowParts flow)) (flowUnder name entries) := by
  match entries with
  | [] => exact .pure .nil
  | (k, v) :: rest =>
    obtain ⟨hv, hrest⟩ := List.forall_mem_cons.mp h
    exact .ite (fun _ => flow_authored hv) fun _ => flowUnder_authored name hrest
termination_by (sizeOf entries, 0)

theorem actions_authored {default v : Value} (hdefault : ∃ kind, actionKind default = .ok kind) (h : v.Legible) :
    Authored (fun actions => Intact actions.parts) (actions default v) := by
  cases h with
  | list h => exact (actionList_authored hdefault h).bind fun _ hactions => hactions
  | dict keys values loop =>
    exact (actionMap_authored hdefault (fun entry hentry => (keys entry hentry).2) values).bind fun _ hactions => hactions
  | _ => rfl
termination_by (sizeOf v, 0)

theorem actionList_authored {default : Value} (hdefault : ∃ kind, actionKind default = .ok kind) {vs : List Value}
    (h : ∀ v ∈ vs, v.Legible) : Authored (fun actions => Intact (actionsParts actions)) (actionList default vs) := by
  match vs with
  | [] => exact .pure .nil
  | v :: vs =>
    obtain ⟨hv, hvs⟩ := List.forall_mem_cons.mp h
    refine (ownId_authored hv).bind fun id _ => (action_authored hdefault id false hv).bind fun _ ha => ?_
    exact (actionList_authored hdefault hvs).bind fun _ hrest => ha.append hrest
termination_by (sizeOf vs, 0)

theorem actionMap_authored {default : Value} (hdefault : ∃ kind, actionKind default = .ok kind) {entries : Entries}
    (hkeys : ∀ entry ∈ entries, entry.1.unwritable = false) (h : ∀ entry ∈ entries, entry.2.Legible) :
    Authored (fun actions => Intact (actionsParts actions)) (actionMap default entries) := by
  match entries with
  | [] => exact .pure .nil
  | (k, v) :: rest =>
    obtain ⟨hk, hkeys⟩ := List.forall_mem_cons.mp hkeys
    obtain ⟨hv, hvalues⟩ := List.forall_mem_cons.mp h
    refine (idText_authored hk).bind fun id _ => (action_authored hdefault (some id) true hv).bind fun _ ha => ?_
    exact (actionMap_authored hdefault hkeys hvalues).bind fun _ hrest => ha.append hrest
termination_by (sizeOf entries, 0)

theorem actionsUnder_authored {default : String} (name : String) {entries : Entries}
    (h : ∀ entry ∈ entries, entry.2.Legible) (hdefault : ∃ kind, actionKind (.str default) = .ok kind) :
    Authored (fun actions => Intact actions.parts) (actionsUnder default name entries) := by
  match entries with
  | [] => exact .pure .nil
  | (k, v) :: rest =>
    obtain ⟨hv, hrest⟩ := List.forall_mem_cons.mp h
    exact .ite (fun _ => actions_authored hdefault hv) fun _ => actionsUnder_authored name hrest hdefault
termination_by (sizeOf entries, 0)

theorem action_authored {default : Value} (hdefault : ∃ kind, actionKind default = .ok kind) (key : Option String)
    (keyIsText : Bool) {v : Value} (h : v.Legible) :
    Authored (fun a => Intact a.parts) (action default key keyIsText v) := by
  cases h with
  | str s => exact flowAction_authored key hdefault (.cons ⟨nofun, trivial⟩ .nil)
  | list h => exact (elements_authored h).bind fun _ hflow => flowAction_authored key hdefault hflow
  | dict keys values loop =>
    unfold action
    split
    · refine actionInfo_authored _ values _ _ _ (.ite (fun _ => .nil) fun _ => ?_)
      exact (flowUnder_authored "then" values).bind fun _ hflow => hflow
    · refine .ite (fun _ => rfl) fun _ => .ite (fun _ => ?_) fun _ => rfl
      refine (command_authored (under_readable values) _ values loop).bind fun _ hc => ?_
      exact flowAction_authored key hdefault (.single hc)
  | _ => rfl
termination_by (sizeOf v, 0)

theorem items_authored {v : Value} (h : v.Legible) : Authored (fun items => Intact items.parts) (items v) := by
  cases h with
  | list h => exact (itemList_authored 0 h).bind fun _ hitems => hitems
  | dict keys values loop =>
    exact (itemMap_authored (fun entry hentry => (keys entry hentry).2) values).bind fun _ hitems => hitems
  | _ => rfl
termination_by (sizeOf v, 0)

theorem itemList_authored (position : Nat) {vs : List Value} (h : ∀ v ∈ vs, v.Legible) :
    Authored (fun items => Intact (itemsParts items)) (itemList position vs) := by
  match vs with
  | [] => exact .pure .nil
  | v :: vs =>
    obtain ⟨hv, hvs⟩ := List.forall_mem_cons.mp h
    refine (ownId_authored hv).bind fun id _ => (item_authored _ none hv).bind fun _ hi => ?_
    exact (itemList_authored (position + 1) hvs).bind fun _ hrest => hi.append hrest
termination_by (sizeOf vs, 0)

theorem itemMap_authored {entries : Entries} (hkeys : ∀ entry ∈ entries, entry.1.unwritable = false)
    (h : ∀ entry ∈ entries, entry.2.Legible) : Authored (fun items => Intact (itemsParts items)) (itemMap entries) := by
  match entries with
  | [] => exact .pure .nil
  | (k, v) :: rest =>
    obtain ⟨hk, hkeys⟩ := List.forall_mem_cons.mp hkeys
    obtain ⟨hv, hvalues⟩ := List.forall_mem_cons.mp h
    refine (idText_authored hk).bind fun key _ => (item_authored key (some key) hv).bind fun _ hi => ?_
    exact (itemMap_authored hkeys hvalues).bind fun _ hrest => hi.append hrest
termination_by (sizeOf entries, 0)

theorem itemsUnder_authored (name : String) {entries : Entries} (h : ∀ entry ∈ entries, entry.2.Legible) :
    Authored (fun items => Intact items.parts) (itemsUnder name entries) := by
  match entries with
  | [] => exact .pure .nil
  | (k, v) :: rest =>
    obtain ⟨hv, hrest⟩ := List.forall_mem_cons.mp h
    exact .ite (fun _ => items_authored hv) fun _ => itemsUnder_authored name hrest
termination_by (sizeOf entries, 0)

theorem item_authored (id : String) (title : Option String) {v : Value} (h : v.Legible) :
    Authored (fun i => Intact i.parts) (item id title v) := by
  cases h with
  | dict keys values loop =>
    refine itemInfo_authored _ _ _ _ (.ite (fun _ => .pure .nil) fun _ => ?_)
    exact actionsUnder_authored "actions" values ⟨.postback, rfl⟩
  | _ => rfl
termination_by (sizeOf v, 0)

theorem cases_authored {v : Value} (h : v.Legible) : Authored (fun cases => Intact (casesParts cases)) (cases v) := by
  cases h with
  | list h => exact caseList_authored h
  | dict keys values loop => exact caseMap_authored (fun entry hentry => (keys entry hentry).2) values
  | _ => rfl
termination_by (sizeOf v, 0)

theorem caseList_authored {vs : List Value} (h : ∀ v ∈ vs, v.Legible) :
    Authored (fun cases => Intact (casesParts cases)) (caseList vs) := by
  match vs with
  | [] => exact .pure .nil
  | v :: vs =>
    obtain ⟨hv, hvs⟩ := List.forall_mem_cons.mp h
    exact (case_authored hv).bind fun _ hc => (caseList_authored hvs).bind fun _ hrest => hc.append hrest
termination_by (sizeOf vs, 0)

theorem caseMap_authored {entries : Entries} (hkeys : ∀ entry ∈ entries, entry.1.unwritable = false)
    (h : ∀ entry ∈ entries, entry.2.Legible) : Authored (fun cases => Intact (casesParts cases)) (caseMap entries) := by
  match entries with
  | [] => exact .pure .nil
  | (k, v) :: rest =>
    obtain ⟨hk, hkeys⟩ := List.forall_mem_cons.mp hkeys
    obtain ⟨hv, hvalues⟩ := List.forall_mem_cons.mp h
    refine (idText_authored hk).bind fun id _ => (flow_authored hv).bind fun body hbody => ?_
    have hcase : Intact (Case.mk id .none body).parts := .cons ⟨nofun, trivial⟩ hbody
    exact (caseMap_authored hkeys hvalues).bind fun _ hrest => hcase.append hrest
termination_by (sizeOf entries, 0)

theorem casesUnder_authored (name : String) {entries : Entries} (h : ∀ entry ∈ entries, entry.2.Legible) :
    Authored (fun cases => Intact (casesParts cases)) (casesUnder name entries) := by
  match entries with
  | [] => exact .pure .nil
  | (k, v) :: rest =>
    obtain ⟨hv, hrest⟩ := List.forall_mem_cons.mp h
    exact .ite (fun _ => cases_authored hv) fun _ => casesUnder_authored name hrest
termination_by (sizeOf entries, 0)

theorem case_authored {v : Value} (h : v.Legible) : Authored (fun c => Intact c.parts) («case» v) := by
  cases h with
  | dict keys values loop =>
    refine .ite (fun _ => rfl) fun _ => ?_
    refine (idText_authored (Legible.named values "id").unwritable_eq_false).bind fun id _ => ?_
    exact (flowUnder_authored "do" values).bind fun _ hbody => .cons ⟨nofun, trivial⟩ hbody
  | _ => rfl
termination_by (sizeOf v, 0)

end

private theorem flows_authored {v : Value} (h : v.Legible) :
    Authored (fun flows => ∀ entry ∈ flows, Intact (flowParts entry.2)) (flows v) := by
  cases h with
  | dict keys values loop =>
    refine Authored.bind (P := fun named => ∀ entry ∈ named, Intact (flowParts entry.2)) (.mapM ?_) fun named hnamed => ?_
    · rintro ⟨k, v⟩ hentry
      refine (idText_authored (keys _ hentry).2).bind fun _ _ => ?_
      exact (flow_authored (values _ hentry)).bind fun _ hflow => hflow
    · exact forall_of_lastWins (P := fun flow => Intact (flowParts flow)) hnamed
  | _ => rfl

theorem described_authored {source : Value} (h : source.Legible) :
    Authored (fun flows => ∀ entry ∈ flows, Intact (flowParts entry.2)) (described source) :=
  .ite (fun _ => flows_authored h) fun _ => fun _ hentry => absurd hentry List.not_mem_nil

end Normal

end Colloquy
