import Colloquy.Proofs.Compile.DefaultIds
import Colloquy.Proofs.Flow.Authoring
import Colloquy.Proofs.Flow.Parts

/-!
# What compiling writes down

What compiling a part of a flow writes down is settled by the flow, the path and the name of the dialog: flows,
warnings, references and entries of tables, in a fixed order. The program that it is written into has no say in this,
except that a key which is already taken ends it. So all of compiling comes down to one list of entries and what it ends
with.
-/

namespace Colloquy

/-- Paths that come of a path when ids of a certain kind are appended to it. -/
inductive FlowPath.Leads (ids : String → Prop) (root : FlowPath) : FlowPath → Prop where
  | refl : Leads ids root root
  | append {path id own} (before : Leads ids root path) (hid : ids id) (hpath : FlowPath.append path id = .ok own) :
      Leads ids root own

/-- Ids under which the compiler itself puts parts of a command. -/
def innerIds : List String := ["then", "else", "end", "default", "loop", "do", "continue", "init", "increment"]

/-- Which ids are appended to paths, and which errors occur, while flows are compiled: those of the compiler itself,
and those that parts of the flow bring along. -/
structure CompileRule where
  ids : String → Prop
  fails : Error → Prop
  inner : ∀ id ∈ innerIds, ids id
  numbered : ∀ index, ids (continuationId index)
  authoring : ∀ e, e.isAuthoring = true → fails e

/-- What a part brings along follows a rule. -/
structure FlowPart.Obeys (r : CompileRule) (part : FlowPart) : Prop where
  ids : ∀ id ∈ part.ids, r.ids id
  fails : ∀ cause, part = .invalid cause → r.fails cause
  written : r.fails (.fault .badValue) ∨ part.Writable

/-- The numbers of a path can be written, or a rule allows that they cannot. -/
def FlowPath.Obeys (r : CompileRule) (path : FlowPath) : Prop :=
  r.fails (.fault .badValue) ∨ path.any Segment.tooLong = false

private theorem FlowPath.append_writable {path own : FlowPath} {id : String} (h : path.any Segment.tooLong = false)
    (hpath : FlowPath.append path id = .ok own) : own.any Segment.tooLong = false :=
  FlowKey.tooLong_appendIds h rfl hpath

/-- A path that comes of another one as a rule allows. -/
structure CompileRule.Places (r : CompileRule) (root path : FlowPath) : Prop where
  leads : root.Leads r.ids path
  obeys : path.Obeys r

theorem CompileRule.Places.refl {r : CompileRule} {root : FlowPath} (h : r.fails (.fault .badValue)) :
    r.Places root root := ⟨.refl, .inl h⟩

theorem CompileRule.Places.append {r : CompileRule} {root path own : FlowPath} {id : String} (h : r.Places root path)
    (hid : r.ids id) (hpath : FlowPath.append path id = .ok own) : r.Places root own :=
  ⟨h.leads.append hid hpath, h.obeys.imp_right fun hshort => FlowPath.append_writable hshort hpath⟩

private theorem CompileRule.fails_of_blames (r : CompileRule) {α : Type} {x : Except Error α} (h : BlamesAuthor x)
    {e : Error}
      (he : x = .error e) : r.fails e := r.authoring e (h.error he)

private theorem CompileRule.fails_of_unkeyed (r : CompileRule) {α : Type} {x : Except Error α} (h : Unkeyed x)
    (hwritten : r.fails (.fault .badValue) ∨ x ≠ .error (.fault .badValue)) {e : Error} (he : x = .error e) :
    r.fails e := by
  rcases h e he with rfl | hnaming
  · exact hwritten.resolve_right fun hother => hother he
  · exact r.authoring e (Error.isAuthoring_of_isNaming hnaming)

namespace Program

/-- Something that compiling writes down. -/
inductive Entry where
  | register (key : String) (handler : FlowHandler)
  | warn (message : String)
  | refer (key : String)
  | await (target : Value) (tag : String) (path : FlowPath)
  | offer (kind : ActionKind) (key : String) (path : FlowPath)

def Entry.key? : Entry → Option String
  | .register key _ => some key
  | _ => none

def Takes (entries : List Entry) (key : String) : Prop := ∃ entry ∈ entries, entry.key? = some key

/-- Writes an entry down, unless its key is taken. -/
def enter (p : Program) : Entry → Except Error Program
  | .register key handler => p.add key handler
  | .warn message => .ok (p.warned message)
  | .refer key => .ok (p.referring key)
  | .await target tag path => .ok (p.awaiting target tag path)
  | .offer kind key path => .ok (p.offering kind key path)

/-- Writes entries down one after the other up to one whose key is taken, and else comes to an end. -/
def perform {α : Type} (p : Program) (ending : Except Error α) : List Entry → EStateM.Result Error Program α
  | [] =>
    match ending with
    | .ok a => .ok a p
    | .error e => .error e p
  | entry :: rest =>
    match p.enter entry with
    | .ok q => q.perform ending rest
    | .error e => .error e p

/-- An entry that belongs to a flow compiled at `root` in the dialog called `name`. Whoever picks a button or hands over
a result is led to a flow whose key is known. -/
inductive Entry.Sound (r : CompileRule) (root : FlowPath) (name : String) (known : String → Prop) : Entry → Prop where
  | register {path key handler} (hpath : root.Leads r.ids path) (hkey : FlowKey.ofPath name path = .ok key) :
      Sound r root name known (.register key handler)
  | warn (message) : Sound r root name known (.warn message)
  | refer (key) : Sound r root name known (.refer key)
  | await {target tag path} (hkey : FlowKey.ofPath name path = .ok tag) (hknown : known tag) :
      Sound r root name known (.await target tag path)
  | offer {kind key path} (hkey : FlowKey.ofPath name path = .ok key) (hknown : known key) :
      Sound r root name known (.offer kind key path)

/-- Entries that belong to a flow. The keys that are taken by some are known to those after them. -/
def AllSound (r : CompileRule) (root : FlowPath) (name : String) (known : String → Prop) : List Entry → Prop
  | [] => True
  | entry :: rest =>
    entry.Sound r root name known ∧ AllSound r root name (fun key => known key ∨ entry.key? = some key) rest

section Entries

variable {α β : Type} {r : CompileRule} {root : FlowPath} {name : String} {known other : String → Prop} {p q : Program}
  {entry : Entry} {entries more : List Entry}

private theorem Entry.Sound.mono (h : entry.Sound r root name known) (hknown : ∀ key, known key → other key) :
    entry.Sound r root name other := by
  cases h with
  | register hpath hkey => exact .register hpath hkey
  | warn message => exact .warn message
  | refer key => exact .refer key
  | await hkey htag => exact .await hkey (hknown _ htag)
  | offer hkey hown => exact .offer hkey (hknown _ hown)

private theorem AllSound.mono (h : AllSound r root name known entries) (hknown : ∀ key, known key → other key) :
    AllSound r root name other entries := by
  induction entries generalizing known other with
  | nil => trivial
  | cons entry rest ih => exact ⟨h.1.mono hknown, ih h.2 fun key => Or.imp_left (hknown key)⟩

private theorem AllSound.append (h : AllSound r root name known entries)
    (hmore : AllSound r root name (fun key => known key ∨ Takes entries key) more) :
    AllSound r root name known (entries ++ more) := by
  induction entries generalizing known with
  | nil => exact hmore.mono fun key hkey => hkey.elim id fun ⟨_, hmem, _⟩ => absurd hmem List.not_mem_nil
  | cons entry rest ih =>
    refine ⟨h.1, ih h.2 (hmore.mono fun key hkey => ?_)⟩
    rcases hkey with hkey | ⟨own, hmem, hown⟩
    · exact .inl (.inl hkey)
    · rcases List.mem_cons.mp hmem with rfl | hmem
      · exact .inl (.inr hown)
      · exact .inr ⟨own, hmem, hown⟩

theorem name_of_enter (h : p.enter entry = .ok q) : q.dialog.name = p.dialog.name := by
  cases entry with
  | register key handler =>
    obtain ⟨-, rfl⟩ := add_eq_ok.mp h
    rfl
  | offer kind key path =>
    cases h
    unfold offering
    split <;> rfl
  | _ =>
    cases h
    rfl

theorem enter_eq_error {e : Error} (h : p.enter entry = .error e) :
    ∃ key handler, entry = .register key handler ∧ p.flows.lookup key ≠ none ∧ e = .duplicateKey key := by
  cases entry with
  | register key handler =>
    change p.add key handler = .error e at h
    unfold add at h
    rw [any_eq_isSome_lookup] at h
    split at h
    · rename_i htaken
      cases h
      exact ⟨key, handler, rfl, Option.isSome_iff_ne_none.mp htaken, rfl⟩
    · cases h
  | _ => cases h

theorem name_of_perform {ending : Except Error α} {a : α} (h : p.perform ending entries = .ok a q) :
    q.dialog.name = p.dialog.name := by
  induction entries generalizing p with
  | nil =>
    cases ending <;> cases h
    rfl
  | cons entry rest ih =>
    unfold perform at h
    split at h
    · rename_i s hs
      exact (ih h).trans (name_of_enter hs)
    · cases h

private theorem perform_append (p : Program) (a : α) (ending : Except Error β) (entries more : List Entry) :
    p.perform ending (entries ++ more) =
      match p.perform (.ok a) entries with
      | .ok _ q => q.perform ending more
      | .error e q => .error e q := by
  induction entries generalizing p with
  | nil => rfl
  | cons entry rest ih =>
    rw [List.cons_append, perform, perform]
    cases p.enter entry with
    | error e => rfl
    | ok q => exact ih q

theorem perform_ending (p : Program) (a : α) (ending : Except Error β) (entries : List Entry) :
    p.perform ending entries =
      match p.perform (.ok a) entries with
      | .ok _ q => q.perform ending []
      | .error e q => .error e q := by
  have h := perform_append p a ending entries []
  rwa [List.append_nil] at h

end Entries

end Program

open Program

namespace Compile

variable {α β : Type} {r : CompileRule} {root : FlowPath} {name : String} {known other gained : String → Prop}

/-- What is written down in a dialog is settled: entries that belong to the flow at `root`, and how it ends. If it does
not fail, certain keys are taken. -/
def Scripted (r : CompileRule) (root : FlowPath) (name : String) (known gained : String → Prop) (x : Compile α) :
    Prop :=
  ∃ entries ending, AllSound r root name known entries ∧ (∀ e, ending = .error e → r.fails e) ∧
    (∀ a, ending = .ok a → ∀ key, gained key → Takes entries key) ∧
    ∀ p, p.dialog.name = name → x p = p.perform ending entries

/-- Nothing is said about which keys are taken. -/
abbrev Writes (r : CompileRule) (root : FlowPath) (name : String) (known : String → Prop) (x : Compile α) : Prop :=
  Scripted r root name known (fun _ => False) x

namespace Scripted

private theorem pure (a : α) : Writes r root name known (pure a : Compile α) :=
  ⟨[], .ok a, trivial, nofun, fun _ _ _ h => h.elim, fun _ _ => rfl⟩

private theorem throw {e : Error} (h : r.fails e) : Scripted r root name known gained (throw e : Compile α) :=
  ⟨[], .error e, trivial, fun _ he => by cases he; exact h, nofun, fun _ _ => rfl⟩

private theorem bind {x : Compile α} {f : α → Compile β} (hx : Scripted r root name known other x)
    (hf : ∀ a, Scripted r root name (fun key => known key ∨ other key) gained (f a)) :
    Scripted r root name known gained (x >>= f) := by
  obtain ⟨entries, ending, hsound, hfails, htakes, hperform⟩ := hx
  have hbind (p : Program) (hp : p.dialog.name = name) : (x >>= f) p =
      match p.perform ending entries with
      | .ok a q => f a q
      | .error e q => .error e q := by
    rw [← hperform p hp]
    change EStateM.bind x f p = _
    unfold EStateM.bind
    cases x p <;> rfl
  cases ending with
  | error e =>
    refine ⟨entries, .error e, hsound, fun e' he => by cases he; exact hfails e rfl, nofun, fun p hp => ?_⟩
    rw [hbind p hp, perform_ending p () (.error e : Except Error α), perform_ending p () (.error e : Except Error β)]
    cases p.perform (.ok ()) entries <;> rfl
  | ok a =>
    obtain ⟨more, ending, hmore, hfails', htakes', hperform'⟩ := hf a
    refine ⟨entries ++ more, ending, hsound.append (hmore.mono ?_), hfails', fun b hb key hkey => ?_, fun p hp => ?_⟩
    · exact fun key => Or.imp_right (htakes a rfl key)
    · obtain ⟨entry, hmem, hkey⟩ := htakes' b hb key hkey
      exact ⟨entry, List.mem_append_right _ hmem, hkey⟩
    · rw [hbind p hp, perform_append p a]
      cases hr : p.perform (.ok a) entries with
      | error e q => rfl
      | ok a' q =>
        have ha : a' = a := by
          rw [perform_ending p () (.ok a)] at hr
          cases hs : p.perform (.ok ()) entries <;> rw [hs] at hr <;> cases hr
          rfl
        exact ha ▸ hperform' q ((name_of_perform hr).trans hp)

private theorem before {x : Compile α} {f : α → Compile β} (hx : Scripted r root name known other x)
    (hf : ∀ a, Scripted r root name known gained (f a)) : Scripted r root name known gained (x >>= f) := by
  refine hx.bind fun a => ?_
  obtain ⟨entries, ending, hsound, hrest⟩ := hf a
  exact ⟨entries, ending, hsound.mono fun _ => .inl, hrest⟩

private theorem writes {x : Compile α} (h : Scripted r root name known gained x) : Writes r root name known x := by
  obtain ⟨entries, ending, hsound, hfails, -, hperform⟩ := h
  exact ⟨entries, ending, hsound, hfails, fun _ _ _ h => h.elim, hperform⟩

private theorem read {x : Except Error β} (hfails : ∀ {e}, x = .error e → r.fails e) {y : Compile β}
    (hy : ∀ p, p.dialog.name = name → y p = Compile.ofExcept x p) {f : β → Compile α}
    (hf : ∀ b, x = .ok b → Scripted r root name known gained (f b)) : Scripted r root name known gained (y >>= f) := by
  have hbind (p : Program) (hp : p.dialog.name = name) : (y >>= f) p = (Compile.ofExcept x >>= f) p := by
    change EStateM.bind y f p = EStateM.bind (Compile.ofExcept x) f p
    unfold EStateM.bind
    rw [hy p hp]
  cases x with
  | error e => exact ⟨[], .error e, trivial, fun _ he => by cases he; exact hfails rfl, nofun, hbind⟩
  | ok b =>
    obtain ⟨entries, ending, hsound, hrest, htakes, hperform⟩ := hf b rfl
    exact ⟨entries, ending, hsound, hrest, htakes, fun p hp => (hbind p hp).trans (hperform p hp)⟩

private theorem append {path : FlowPath} {id : String} {f : FlowPath → Compile α}
    (hf : ∀ own, FlowPath.append path id = .ok own → Scripted r root name known gained (f own)) :
    Scripted r root name known gained (append path id >>= f) :=
  read (r.fails_of_blames (FlowKey.misnames_append path id).blamesAuthor) (fun _ _ => rfl) hf

private theorem key {path : FlowPath} {f : String → Compile α} (hpath : path.Obeys r)
    (hf : ∀ key, FlowKey.ofPath name path = .ok key → Scripted r root name known gained (f key)) :
    Scripted r root name known gained (Compile.key path >>= f) := by
  have hwritten : r.fails (.fault .badValue) ∨ FlowKey.ofPath name path ≠ .error (.fault .badValue) :=
    hpath.imp_right fun hshort hlong => nomatch FlowKey.misnames_ofPath hshort name _ hlong
  refine read (r.fails_of_unkeyed (FlowKey.unkeyed_ofPath name path) hwritten) (fun p hp => ?_) hf
  rw [← hp]
  rfl

private theorem enter {entry : Program.Entry} (h : entry.Sound r root name known) {x : Compile PUnit}
    (hx : ∀ p, x p = p.perform (.ok ⟨⟩) [entry]) : Scripted r root name known (entry.key? = some ·) x :=
  ⟨[entry], .ok ⟨⟩, ⟨h, trivial⟩, nofun, fun _ _ _ hkey => ⟨entry, List.mem_singleton_self _, hkey⟩, fun p _ => hx p⟩

private theorem register {path : FlowPath} (hpath : r.Places root path) (h : FlowHandler) :
    Scripted r root name known (FlowKey.ofPath name path = .ok ·) (Compile.register path h) := by
  refine key hpath.obeys fun key hkey => ?_
  have hentry : Scripted r root name known ((Entry.register key h).key? = some ·)
      (do let p ← get; set (← Compile.ofExcept (p.add key h)) : Compile Unit) := by
    refine enter (.register hpath.leads hkey) fun p => ?_
    rw [perform, Program.enter]
    change EStateM.bind (Compile.ofExcept (p.add key h)) (fun q => set q) p = _
    cases p.add key h <;> rfl
  obtain ⟨entries, ending, hsound, hfails, htakes, hperform⟩ := hentry
  refine ⟨entries, ending, hsound, hfails, fun a ha own hown => htakes a ha own ?_, hperform⟩
  rw [hkey] at hown
  exact congrArg some (Except.ok.inj hown)

private theorem refer {target : Value}
    (h : r.fails (.fault .badValue) ∨ FlowKey.ofValue name target ≠ .error (.fault .badValue)) :
    Writes r root name known (Compile.refer target) := by
  have hrefer (p : Program) (hp : p.dialog.name = name) : Compile.refer target p =
      (Compile.ofExcept (FlowKey.ofValue name target) >>= fun key => do set (p.referring key); return key : Compile _) p := by
    rw [← hp]
    rfl
  cases hkey : FlowKey.ofValue name target with
  | error e =>
    have hfails : r.fails e := r.fails_of_unkeyed (FlowKey.unkeyed_ofValue name target) h hkey
    rw [hkey] at hrefer
    exact ⟨[], .error e, trivial, fun _ he => by cases he; exact hfails, nofun, hrefer⟩
  | ok key =>
    rw [hkey] at hrefer
    exact ⟨[.refer key], .ok key, ⟨.refer key, trivial⟩, nofun, fun _ _ _ h => h.elim, hrefer⟩

private theorem checkFlow {flow : Flow} (h : ∀ part ∈ flowParts flow, part.Obeys r) :
    Writes r root name known (checkFlow flow) := by
  unfold Colloquy.checkFlow
  split
  · rename_i e he
    exact .throw ((h _ (mem_flowParts_of_fault he)).fails e rfl)
  · exact .pure ()

end Scripted

end Compile

private theorem ItemInfo.places_actionRoot (info : ItemInfo) {actions : Actions} {r : CompileRule}
    {root path own : FlowPath} (hids : ∀ id ∈ (FlowPart.item info).ids, r.ids id) (hpath : r.Places root path)
    (h : info.actionRoot actions path = .ok own) : r.Places root own := by
  unfold actionRoot at h
  split at h
  · rename_i heq
    exact hpath.append (hids _ (by simp [FlowPart.ids, heq])) h
  · cases h
    exact hpath

open Compile

section Rule

variable {r : CompileRule} {root : FlowPath} {name : String} {known : String → Prop}

theorem incrementFlow_obeys (increment : Fields) : ∀ part ∈ flowParts (incrementFlow increment), part.Obeys r := by
  intro part hpart
  obtain ⟨values, rfl⟩ := mem_flowParts_incrementFlow hpart
  constructor
  · intro id hid
    rw [List.mem_singleton.mp hid]
    exact r.inner "increment" (by decide)
  · rintro cause ⟨⟩
  · exact .inr trivial

theorem loopTail_obeys (body : Flow) (increment : Fields) :
    ∀ part ∈ flowParts (loopTail body increment), part.Obeys r := by
  unfold loopTail
  split
  · rintro part ⟨⟩
  · exact incrementFlow_obeys increment

mutual

theorem scripted_compileFlow {flow : Flow} (h : ∀ part ∈ flowParts flow, part.Obeys r) {path : FlowPath}
    (hpath : r.Places root path) (targets : Targets) (index : Nat) :
    Scripted r root name known (FlowKey.ofPath name path = .ok ·) (compileFlow flow path targets index) := by
  rw [compileFlow]
  refine (Scripted.checkFlow h).before fun _ => .key hpath.obeys fun key _ => ?_
  exact (writes_compileElements h hpath targets index).before fun steps => .register hpath _
termination_by (flowWeight flow, 2)

theorem writes_compileElements {flow : Flow} (h : ∀ part ∈ flowParts flow, part.Obeys r) {path : FlowPath}
    (hpath : r.Places root path) (targets : Targets) (index : Nat) :
    Writes r root name known (compileElements flow path targets index) := by
  match flow with
  | [] =>
    rw [compileElements]
    exact .pure _
  | e :: rest =>
    have hpos := e.weight_pos
    obtain ⟨hfirst, hrest⟩ := List.forall_mem_append.mp h
    cases he : e.command? with
    | none =>
      rw [compileElements_handler he]
      exact (writes_compileElements hrest hpath targets index).before fun _ => .pure _
    | some c =>
      rw [Element.parts_of_command? he] at hfirst
      have hle := Element.weight_le_of_command? he
      have hcommand (targets : Targets) : Writes r root name known (compileCommand c path targets) :=
        writes_compileCommand hfirst hpath targets
      cases hb : c.breaksFlow with
      | false =>
        rw [compileElements_plain he hb]
        refine (hcommand targets).before fun step => ?_
        exact (writes_compileElements hrest hpath targets index).before fun _ => .pure _
      | true =>
        match rest with
        | [] =>
          rw [compileElements_last he hb]
          exact (hcommand targets).before fun _ => .pure _
        | next :: rest =>
          cases ht : c.isTerminal with
          | true =>
            rw [compileElements_terminal he hb ht]
            refine .key hpath.obeys fun key _ => ?_
            have hwarn : Writes r root name known (Compile.warn (unreachableWarning c (next :: rest) key)) :=
              (Scripted.enter (.warn _) fun _ => rfl).writes
            exact hwarn.before fun _ => (hcommand targets).before fun _ => .pure _
          | false =>
            rw [compileElements_broken he hb ht]
            refine (writes_compileContinuation hrest hpath targets (index + 1)).before fun own => ?_
            exact (hcommand _).before fun _ => .pure _
termination_by (flowWeight flow, 1)
decreasing_by
  all_goals
    simp only [flowWeight, Prod.lex_def]
    omega

theorem writes_compileContinuation {rest : Flow} (h : ∀ part ∈ flowParts rest, part.Obeys r) {path : FlowPath}
    (hpath : r.Places root path) (targets : Targets) (index : Nat) :
    Writes r root name known (compileContinuation rest path targets index) := by
  match rest with
  | [] =>
    rw [compileContinuation]
    exact .pure _
  | first :: tail =>
    obtain ⟨hfirst, htail⟩ := List.forall_mem_append.mp h
    cases hs : first.subFlow? with
    | none =>
      rw [compileContinuation_unspliced hs]
      refine .append fun own hown => ?_
      exact (scripted_compileFlow h (hpath.append (r.numbered index) hown) targets index).before fun _ => .pure _
    | some named =>
      obtain ⟨id, body⟩ := named
      have hlt := Element.flowWeight_lt_of_subFlow? hs
      rw [Element.parts_of_subFlow? hs] at hfirst
      obtain ⟨hself, hbody⟩ := List.forall_mem_cons.mp hfirst
      have hsplice : ∀ part ∈ flowParts (body ++ tail), part.Obeys r := by
        rw [flowParts_append]
        exact List.forall_mem_append.mpr ⟨hbody, htail⟩
      rw [compileContinuation_spliced hs]
      refine .append fun own hown => ?_
      have hown := hpath.append (hself.ids id (List.mem_singleton_self id)) hown
      exact (scripted_compileFlow hsplice hown targets index).before fun _ => .pure _
termination_by (flowWeight rest, 3)
decreasing_by
  · exact Prod.Lex.right _ (by omega)
  · simp only [flowWeight_append, flowWeight, Prod.lex_def]
    omega

theorem writes_compileCommand {c : Command} (h : ∀ part ∈ c.parts, part.Obeys r) {path : FlowPath}
    (hpath : r.Places root path) (targets : Targets) :
    Writes r root name known (compileCommand c path targets) := by
  have hid := (h _ c.self_mem_parts).ids c.id (List.mem_singleton_self _)
  have hinner {id : String} {path own : FlowPath} (hpath : r.Places root path) (hmem : id ∈ innerIds)
      (hown : FlowPath.append path id = .ok own) : r.Places root own := hpath.append (r.inner id hmem) hown
  have hempty : ∀ part ∈ flowParts [], part.Obeys r := nofun
  match c with
  | .message kind id body actions items =>
    obtain ⟨hactions, hitems⟩ := List.forall_mem_append.mp (List.forall_mem_cons.mp h).2
    rw [compileCommand.eq_def]
    refine .append fun own _ => (writes_compileActions hactions hpath targets).before fun plan => ?_
    cases hfixed : items with
    | absent | computed => exact .pure _
    | fixed list =>
      have hweight : itemsWeight list = items.weight := by rw [hfixed, Items.weight]
      rw [hfixed] at hitems
      exact (writes_compileItems hitems hpath targets).before fun _ => .pure _
  | .conditional id test yes no =>
    obtain ⟨hyes, hno⟩ := List.forall_mem_append.mp (List.forall_mem_cons.mp h).2
    rw [compileCommand.eq_def]
    refine .append fun root hroot => .append fun yesPath hy => .append fun noPath hn => ?_
    have hroot := hpath.append hid hroot
    refine (scripted_compileFlow hyes (hinner hroot (by decide) hy) targets 0).before fun _ => ?_
    exact (scripted_compileFlow hno (hinner hroot (by decide) hn) targets 0).before fun _ => .pure _
  | .switch id value cases default =>
    obtain ⟨hcases, hdefault⟩ := List.forall_mem_append.mp (List.forall_mem_cons.mp h).2
    rw [compileCommand.eq_def]
    refine .append fun root hroot => .append fun exit hexit => ?_
    have hroot := hpath.append hid hroot
    refine (scripted_compileFlow hempty (hinner hroot (by decide) hexit) targets 0).before fun _ => ?_
    cases hsome : default with
    | none => exact (writes_compileCases hcases hroot _ _).before fun _ => .pure _
    | some body =>
      have hweight : flowWeight body = optionWeight default := by rw [hsome, optionWeight]
      rw [hsome] at hdefault
      refine .append fun own hown => ?_
      refine (scripted_compileFlow hdefault (hinner hroot (by decide) hown) _ 0).before fun _ => ?_
      exact (writes_compileCases hcases hroot _ _).before fun _ => .pure _
  | .iteration id init condition increment body =>
    have htail := flowWeight_loopTail_le body increment
    have hincrement := flowWeight_incrementFlow_le increment
    have hbody := (List.forall_mem_cons.mp h).2
    have hrepeated : ∀ part ∈ flowParts (body ++ loopTail body increment), part.Obeys r := by
      rw [flowParts_append]
      exact List.forall_mem_append.mpr ⟨hbody, loopTail_obeys body increment⟩
    have hwritten : r.fails (.fault .badValue) ∨ incrementValues? increment ≠ .error (.fault .badValue) :=
      (List.forall_mem_cons.mp h).1.written.imp_right fun ⟨values, hvalues⟩ hlong => nomatch hvalues.symm.trans hlong
    rw [compileCommand.eq_def]
    refine .append fun root hroot => .append fun loop hloop => .append fun own hown => ?_
    refine .append fun again hagain => .append fun exit hexit => ?_
    have hroot := hpath.append hid hroot
    refine .read (r.fails_of_unkeyed (unkeyed_incrementValues? increment) hwritten) (fun _ _ => rfl) fun _ _ => ?_
    refine (Scripted.checkFlow hbody).before fun _ => ?_
    refine (scripted_compileFlow hempty (hinner hroot (by decide) hexit) targets 0).before fun _ => ?_
    refine (scripted_compileFlow hrepeated (hinner hroot (by decide) hown) _ 0).before fun _ => ?_
    refine (scripted_compileFlow (incrementFlow_obeys increment) (hinner hroot (by decide) hagain) _ 0).before fun _ => ?_
    refine (Scripted.register (hinner hroot (by decide) hloop) _).before fun _ => ?_
    split
    · exact .pure _
    · exact .append fun _ _ => .pure _
  | .start id target args resume =>
    have hweight := flowWeight_getD resume
    have hresume : ∀ part ∈ flowParts (resume.getD []), part.Obeys r := by
      rw [flowParts_getD]
      exact (List.forall_mem_cons.mp h).2
    have hcheck := StartParam.check_blamesAuthor target
    cases hlast : resume.isNone && targets.next.isNone with
    | true =>
      obtain ⟨hnone, hnext⟩ := Bool.and_eq_true_iff.mp hlast
      obtain rfl := Option.isNone_iff_eq_none.mp hnone
      rw [compileCommand_startLast _ _ _ _ (Option.isNone_iff_eq_none.mp hnext)]
      exact .read (r.fails_of_blames hcheck) (fun _ _ => rfl) fun _ _ => .append fun _ _ => .pure _
    | false =>
      rw [compileCommand_start _ _ _ _ hlast]
      refine .read (r.fails_of_blames hcheck) (fun _ _ => rfl) fun _ _ => .append fun own hown => ?_
      have hown := hpath.append hid hown
      refine (scripted_compileFlow hresume hown targets 0).bind fun _ => .key hown.obeys fun tag htag => ?_
      exact (Scripted.enter (.await htag (.inr htag)) fun _ => rfl).before fun _ => .pure _
  | .finish id result | .set id values | .exec id target args | .wait id seconds =>
    rw [compileCommand.eq_def]
    exact .append fun _ _ => .pure _
  | .break id | .continue id =>
    rw [compileCommand.eq_def]
    dsimp only
    split
    · exact .key hpath.obeys fun key _ => .throw (r.authoring _ rfl)
    · exact .pure _
  | .flow id body =>
    have hbody := (List.forall_mem_cons.mp h).2
    rw [compileCommand.eq_def]
    refine .append fun own hown => ?_
    exact (scripted_compileFlow hbody (hpath.append hid hown) targets 0).before fun _ => .pure _
termination_by (c.weight, 0)
decreasing_by
  all_goals
    simp only [Command.weight, flowWeight, flowWeight_append, Prod.lex_def]
    omega

theorem writes_compileCases {cases : List Case} (h : ∀ part ∈ casesParts cases, part.Obeys r) {path : FlowPath}
    (hpath : r.Places root path) (targets : Targets) (next : FlowPath) :
    Writes r root name known (compileCases cases path targets next) := by
  match cases with
  | [] =>
    rw [compileCases]
    exact .pure _
  | .mk id value body :: rest =>
    obtain ⟨hcase, hrest⟩ := List.forall_mem_append.mp h
    obtain ⟨hself, hbody⟩ := List.forall_mem_cons.mp hcase
    rw [compileCases]
    refine (writes_compileCases hrest hpath targets next).before fun later => .append fun own hown => ?_
    have hown := hpath.append (hself.ids id (List.mem_singleton_self id)) hown
    exact (scripted_compileFlow hbody hown _ 0).before fun _ => .pure _
termination_by (casesWeight cases, 0)
decreasing_by
  all_goals
    simp only [casesWeight, Case.weight, Prod.lex_def]
    omega

theorem writes_compileActions {actions : Actions} (h : ∀ part ∈ actions.parts, part.Obeys r) {path : FlowPath}
    (hpath : r.Places root path) (targets : Targets) :
    Writes r root name known (compileActions actions path targets) := by
  match actions with
  | .absent | .computed _ =>
    rw [compileActions]
    exact .pure _
  | .fixed list =>
    rw [compileActions]
    exact (writes_compileActionList h hpath targets).before fun _ => .pure _
termination_by (actions.weight, 2)
decreasing_by
  simp only [Actions.weight]
  exact Prod.Lex.right _ (by omega)

theorem writes_compileActionList {actions : List Action} (h : ∀ part ∈ actionsParts actions, part.Obeys r)
    {path : FlowPath} (hpath : r.Places root path) (targets : Targets) :
    Writes r root name known (compileActionList actions path targets) := by
  match actions with
  | [] =>
    rw [compileActionList]
    exact .pure _
  | a :: rest =>
    obtain ⟨hfirst, hrest⟩ := List.forall_mem_append.mp h
    rw [compileActionList]
    refine (writes_compileAction hfirst hpath targets).before fun params => ?_
    exact (writes_compileActionList hrest hpath targets).before fun _ => .pure _
termination_by (actionsWeight actions, 1)
decreasing_by
  all_goals
    have : 0 < a.weight := by cases a; simp only [Action.weight]; omega
    simp only [actionsWeight, Prod.lex_def]
    omega

theorem writes_compileAction {a : Action} (h : ∀ part ∈ a.parts, part.Obeys r) {path : FlowPath}
    (hpath : r.Places root path) (targets : Targets) :
    Writes r root name known (compileAction a path targets) := by
  match a with
  | .mk info flow =>
    obtain ⟨hself, hflow⟩ := List.forall_mem_cons.mp h
    rw [compileAction.eq_def]
    dsimp only
    split
    · split
      · exact .throw (r.authoring _ rfl)
      · exact .pure _
    · split
      · exact (Scripted.refer (hself.written.imp_right fun h => h name)).before fun _ => .pure _
      · split
        · exact .pure _
        · split
          · exact .throw (r.authoring _ rfl)
          · rename_i id hid
            refine .append fun own hown => ?_
            have hown := hpath.append (hself.ids id (by simp [FlowPart.ids, hid])) hown
            have hoffer : Writes r root name (fun key => known key ∨ FlowKey.ofPath name own = .ok key) (do
                let key ← Compile.key own
                modify fun p => p.offering info.kind key own
                return Entries.put info.params "payload" (.str key)) :=
              .key hown.obeys fun key hkey => (Scripted.enter (.offer hkey (.inr hkey)) fun _ => rfl).before fun _ => .pure _
            cases hsome : flow with
            | none => exact (scripted_compileFlow (by simp [flowParts]) hown _ 0).bind fun _ => hoffer
            | some body =>
              have hweight : flowWeight body = optionWeight flow := by rw [hsome, optionWeight]
              rw [hsome] at hflow
              exact (scripted_compileFlow hflow hown _ 0).bind fun _ => hoffer
termination_by (a.weight, 0)
decreasing_by
  all_goals
    simp only [Action.weight, flowWeight, Prod.lex_def]
    omega

theorem writes_compileItems {items : List Item} (h : ∀ part ∈ itemsParts items, part.Obeys r) {path : FlowPath}
    (hpath : r.Places root path) (targets : Targets) :
    Writes r root name known (compileItems items path targets) := by
  match items with
  | [] =>
    rw [compileItems]
    exact .pure _
  | .mk info actions :: rest =>
    obtain ⟨hitem, hrest⟩ := List.forall_mem_append.mp h
    obtain ⟨hself, hactions⟩ := List.forall_mem_cons.mp hitem
    rw [compileItems]
    refine .read (r.fails_of_blames (info.misnames_actionRoot actions path).blamesAuthor) (fun _ _ => rfl) fun own hown => ?_
    have hown := info.places_actionRoot hself.ids hpath hown
    refine (writes_compileActions hactions hown targets).before fun plan => ?_
    exact (writes_compileItems hrest hpath targets).before fun _ => .pure _
termination_by (itemsWeight items, 0)
decreasing_by
  all_goals
    simp only [itemsWeight, Item.weight, Prod.lex_def]
    omega

end

end Rule

end Colloquy
