import Colloquy.Proofs.Compile.Changes
import Colloquy.Proofs.Dialog.Build
import Colloquy.Proofs.Flow.KeysBelow
import Colloquy.Proofs.Session.Effects

/-!
# Compiling only extends a dialog

Whatever was compiled into a dialog before, with or without success, one more flow leaves all that is registered as
it is, and what it adds is registered at its path and further down. Whoever picks a button or hands over a result
finds a flow that is registered, also if compiling stopped halfway.
-/

namespace Colloquy

theorem FlowPath.Leads.relative {root path : FlowPath} (h : root.Leads (fun id => isAbsolute id = false) path) :
    ∃ more : FlowPath, path = root ++ more ∧ more.Plain := by
  induction h with
  | refl => exact ⟨[], by simp, nofun⟩
  | append before hid hpath ih =>
    obtain ⟨more, rfl, hmore⟩ := ih
    obtain ⟨rfl, hsegment⟩ := append_relative hid hpath
    exact ⟨_, List.append_assoc .., hmore.extend hsegment⟩

private theorem EventTable.mem_put {table : EventTable} {key : Value} {handler : EventHandler}
    {entry : Value × EventHandler}
    (h : entry ∈ table.put key handler) : entry.1 = key ∨ ∃ own ∈ table, entry.1 = own.1 := by
  induction table with
  | nil => exact .inl (by rw [List.mem_singleton.mp h])
  | cons first rest ih =>
    unfold put at h
    split at h
    · rcases List.mem_cons.mp h with rfl | h
      · exact .inr ⟨first, List.mem_cons_self, rfl⟩
      · exact .inr ⟨entry, List.mem_cons_of_mem _ h, rfl⟩
    · rcases List.mem_cons.mp h with rfl | h
      · exact .inr ⟨_, List.mem_cons_self, rfl⟩
      · obtain heq | ⟨own, hown, heq⟩ := ih h
        · exact .inl heq
        · exact .inr ⟨own, List.mem_cons_of_mem _ hown, heq⟩

namespace Program

variable {p q : Program} {ids : String → Prop} {root : FlowPath}

/-- Each payload, each postback and the tag of each result is the key of a registered flow. -/
structure Tabled (p : Program) : Prop where
  payloads : ∀ entry ∈ p.dialog.payloads, ∃ key, entry.1 = .str key ∧ key ∈ p.keys
  postbacks : ∀ entry ∈ p.dialog.postbacks, ∃ key, entry.1 = .str key ∧ key ∈ p.keys
  results : ∀ entry ∈ p.dialog.results, ∃ dialog tag, entry.1 = Dialog.resultKey (.str dialog) (.str tag) ∧ tag ∈ p.keys

/-- A program keeps what was registered, and what it has in addition is registered below a key. -/
structure GrowsBelow (base : Except Error String) (p q : Program) : Prop where
  keeps : ∀ key handler, p.flows.lookup key = some handler → q.flows.lookup key = some handler
  below : ∀ key ∈ q.keys, key ∈ p.keys ∨ ∃ own, base = .ok own ∧ FlowKey.Below own key

/-! ## One change -/

private theorem Change.grows (h : Change ids root p q) : p.Extends q := by
  cases h with
  | register hpath hkey hadd => exact extends_of_add hadd
  | warn message => exact p.extends_warned message
  | refer key => exact p.extends_referring key
  | await target hkey hl => exact p.extends_awaiting target _ _
  | offer kind hkey hl => exact p.extends_offering kind _ _

private theorem Change.mem_keys (h : Change ids root p q) {key : String} (hkey : key ∈ q.keys) :
    key ∈ p.keys ∨ ∃ path, root.Leads ids path ∧ p.pathKey path = .ok key := by
  cases h with
  | register hpath hown hadd =>
    rename_i path own handler
    obtain ⟨-, rfl⟩ := add_eq_ok.mp hadd
    have hkey : key ∈ p.keys ++ [own] := by simpa [keys] using hkey
    rcases List.mem_append.mp hkey with hold | hnew
    · exact .inl hold
    · exact .inr ⟨path, hpath, List.mem_singleton.mp hnew ▸ hown⟩
  | warn | refer | await => exact .inl hkey
  | offer kind hown hl =>
    unfold offering at hkey
    split at hkey <;> exact .inl hkey

private theorem Change.keys_subset (h : Change ids root p q) : p.keys ⊆ q.keys := by
  cases h with
  | register hpath hkey hadd =>
    obtain ⟨-, rfl⟩ := add_eq_ok.mp hadd
    simp [keys]
  | warn | refer | await => exact List.Subset.refl _
  | offer kind hkey hl =>
    unfold offering
    split <;> exact List.Subset.refl _

private theorem Tabled.mono (h : p.Tabled) (hkeys : p.keys ⊆ q.keys) (hp : q.dialog.payloads = p.dialog.payloads)
    (hb : q.dialog.postbacks = p.dialog.postbacks) (hr : q.dialog.results = p.dialog.results) : q.Tabled where
  payloads entry hentry := by
    obtain ⟨key, heq, hkey⟩ := h.payloads entry (hp ▸ hentry)
    exact ⟨key, heq, hkeys hkey⟩
  postbacks entry hentry := by
    obtain ⟨key, heq, hkey⟩ := h.postbacks entry (hb ▸ hentry)
    exact ⟨key, heq, hkeys hkey⟩
  results entry hentry := by
    obtain ⟨dialog, tag, heq, hkey⟩ := h.results entry (hr ▸ hentry)
    exact ⟨dialog, tag, heq, hkeys hkey⟩

private theorem keyed_put {table : EventTable} (h : ∀ entry ∈ table, ∃ key, entry.1 = .str key ∧ key ∈ p.keys)
    {own : String} (hown : own ∈ p.keys) (handler : EventHandler) :
    ∀ entry ∈ table.put (.str own) handler, ∃ key, entry.1 = .str key ∧ key ∈ p.keys := by
  intro entry hentry
  rcases EventTable.mem_put hentry with heq | ⟨old, hold, heq⟩
  · exact ⟨own, heq, hown⟩
  · rw [heq]
    exact h old hold

private theorem Change.tabled (h : Change ids root p q) (hp : p.Tabled) : q.Tabled := by
  have hkeys := h.keys_subset
  cases h with
  | register hpath hkey hadd =>
    obtain ⟨-, rfl⟩ := add_eq_ok.mp hadd
    exact hp.mono hkeys rfl rfl rfl
  | warn | refer => exact hp.mono hkeys rfl rfl rfl
  | await target hkey hl =>
    rename_i path tag
    refine ⟨hp.payloads, hp.postbacks, fun entry hentry => ?_⟩
    rcases EventTable.mem_put hentry with heq | ⟨old, hold, heq⟩
    · exact ⟨_, tag, heq, lookup_ne_none_iff.mp hl⟩
    · rw [heq]
      exact hp.results old hold
  | offer kind hkey hl =>
    unfold offering
    split
    · exact ⟨keyed_put hp.payloads (lookup_ne_none_iff.mp hl) _, hp.postbacks, hp.results⟩
    · exact ⟨hp.payloads, keyed_put hp.postbacks (lookup_ne_none_iff.mp hl) _, hp.results⟩

/-! ## All changes -/

private theorem Changes.grows (h : p.Changes ids root q) : p.Extends q := by
  induction h with
  | refl => exact .refl p
  | tail _ hlast ih => exact ih.trans hlast.grows

private theorem Changes.tabled (h : p.Changes ids root q) (hp : p.Tabled) : q.Tabled := by
  induction h with
  | refl => exact hp
  | tail _ hlast ih => exact hlast.tabled ih

private theorem Changes.mem_keys (h : p.Changes ids root q) {key : String} (hkey : key ∈ q.keys) :
    key ∈ p.keys ∨ ∃ path, root.Leads ids path ∧ p.pathKey path = .ok key := by
  induction h with
  | refl => exact .inl hkey
  | tail before hlast ih =>
    rcases hlast.mem_keys hkey with hold | ⟨path, hpath, hown⟩
    · exact ih hold
    · exact .inr ⟨path, hpath, (pathKey_congr (Changes.grows before).name path).symm.trans hown⟩

/-! ## One more flow -/

/-- Programs that compiling leads to: a dialog is made, flows are compiled into it, whether they can be or not, and
one of its entry points starts it. -/
inductive Reached : Program → Prop where
  | made {name modelName settings} {p : Program} (h : Program.make name modelName settings = .ok p) : Reached p
  | compiled {p : Program} (h : Reached p) (flow path targets index) :
      Reached (finalState (compileFlow flow path targets index p))
  | started {p : Program} (h : Reached p) (entries) : Reached (p.startingWith entries)

end Program

open Compile Program

/-- The rule of flows whose ids may be absolute. -/
def CompileRule.free : CompileRule where
  ids _ := True
  fails _ := True
  inner _ _ := trivial
  numbered _ := trivial
  authoring _ _ := trivial

/-- The rule of flows that stay below their paths. -/
def CompileRule.relative : CompileRule where
  ids id := FlowPath.isAbsolute id = false
  fails _ := True
  inner := by decide
  numbered := continuationId_relative
  authoring _ _ := trivial

theorem FlowPart.obeys_free (part : FlowPart) : part.Obeys .free :=
  ⟨fun _ _ => trivial, fun _ _ => trivial, .inl trivial⟩

variable {p q : Program} {flow : Flow}

private theorem Compile.Makes.changes {α : Type} {r : CompileRule} {root : FlowPath} {x : Compile α}
    (h : Makes r root x p) :
    p.Changes r.ids root (finalState (x p)) := by
  unfold Makes at h
  cases hr : x p with
  | ok a q =>
    rw [hr] at h
    exact h
  | error e q =>
    rw [hr] at h
    exact h.1

private theorem changes_compileFlow (flow : Flow) (path : FlowPath) (targets : Targets) (index : Nat) (p : Program) :
    p.Changes (fun _ => True) path (finalState (compileFlow flow path targets index p)) :=
  (makes_compileFlow (fun part _ => part.obeys_free) (.refl trivial) targets index p).changes

private theorem Program.Reached.tabled (h : p.Reached) : p.Tabled := by
  induction h with
  | made h =>
    obtain ⟨own, rfl⟩ := make_eq h
    exact ⟨nofun, nofun, nofun⟩
  | @compiled p h flow path targets index ih => exact (changes_compileFlow flow path targets index p).tabled ih
  | @started p h entries ih =>
    unfold startingWith
    split
    · exact ih.mono (List.Subset.refl _) rfl rfl rfl
    · exact ih

private theorem Program.Reached.entryPoints {flows : List (String × Flow)} {entries : List (String × FlowPath)}
    (hp : p.Reached) (h : entryPoints flows p = .ok entries q) : q.Reached := by
  induction flows generalizing entries p with
  | nil =>
    rw [Compile.entryPoints] at h
    obtain ⟨-, rfl⟩ := pure_eq_ok.mp h
    exact hp
  | cons entry rest ih =>
    rw [Compile.entryPoints] at h
    obtain ⟨path, -, h⟩ := append_bind_eq_ok.mp h
    obtain ⟨_, next, hflow, h⟩ := bind_eq_ok.mp h
    obtain ⟨more, _, hmore, h⟩ := bind_eq_ok.mp h
    obtain ⟨-, rfl⟩ := pure_eq_ok.mp h
    have hnext := hp.compiled entry.2 path {} 0
    rw [hflow] at hnext
    exact ih hnext hmore

private theorem Program.Reached.of_build {name source modelName : Value} {settings : Settings}
    {entries : List (String × FlowPath)} (h : Program.build name source modelName settings = .ok (p, entries)) :
    p.Reached := by
  obtain ⟨made, hmade, flows, q, -, hentries, -, rfl⟩ := build_steps h
  exact ((Reached.made hmade).entryPoints hentries).started entries

private theorem finalState_compileFlow_of_noKey {path : FlowPath} {e : Error} (h : p.pathKey path = .error e)
    (targets : Targets) (index : Nat) : finalState (compileFlow flow path targets index p) = p := by
  have hkey : Compile.key path p = .error e p := by
    change Compile.ofExcept (p.pathKey path) p = .error e p
    rw [h]
    rfl
  rw [compileFlow]
  change finalState (EStateM.bind (checkFlow flow) _ p) = p
  unfold checkFlow EStateM.bind
  cases flow.findSome? Element.fault? with
  | some cause => rfl
  | none =>
    change finalState (EStateM.bind (Compile.key path) _ p) = p
    unfold EStateM.bind
    rw [hkey]
    rfl

private theorem FlowPath.isAbsolute_of_noHash {id : String} (h : '#' ∉ id.toList) : isAbsolute id = false := by
  unfold isAbsolute
  cases hid : id.toList with
  | nil => rfl
  | cons c cs =>
    rw [hid] at h
    have hc : c ≠ '#' := fun heq => h (heq ▸ List.mem_cons_self)
    simpa using hc

private theorem growsBelow_compileFlow (hids : ∀ part ∈ flowParts flow, ∀ id ∈ part.ids, '#' ∉ id.toList)
    (path : FlowPath) (targets : Targets) (index : Nat) :
    GrowsBelow (p.pathKey path) p (finalState (compileFlow flow path targets index p)) := by
  cases hbase : p.pathKey path with
  | error e =>
    rw [finalState_compileFlow_of_noKey hbase]
    exact ⟨fun _ _ hl => hl, fun key hkey => .inl hkey⟩
  | ok base =>
    have hobeys : ∀ part ∈ flowParts flow, part.Obeys .relative := fun part hpart =>
      ⟨fun id hid => FlowPath.isAbsolute_of_noHash (hids part hpart id hid), fun _ _ => trivial, .inl trivial⟩
    have hmakes : Makes .relative path (compileFlow flow path targets index) p :=
      makes_compileFlow hobeys (.refl trivial) targets index p
    have hchanges := hmakes.changes
    refine ⟨fun key handler => hchanges.grows.flows key handler, fun key hkey => ?_⟩
    refine (hchanges.mem_keys hkey).imp_right fun ⟨own, hown, hkey⟩ => ⟨base, rfl, ?_⟩
    obtain ⟨more, rfl, hmore⟩ := hown.relative
    exact FlowKey.below_of_append hmore hbase hkey

theorem finalState_bind_of_keeps {α β : Type} {x : Compile α} {f : α → Compile β}
    (h : ∀ a q, finalState (f a q) = q) : finalState ((x >>= f) p) = finalState (x p) := by
  change finalState (EStateM.bind x f p) = finalState (x p)
  unfold EStateM.bind
  cases x p with
  | ok a q => exact h a q
  | error e q => rfl

theorem finalState_checkReferences (p : Program) : finalState (checkReferences p) = p := by
  rcases checkReferences_cases p with ⟨hok, -⟩ | ⟨key, hmissing⟩
  · rw [hok]
    rfl
  · rw [hmissing]
    rfl

def Compile.locate (name : String) (source path : Value) : Except Error (Flow × FlowPath) := do
  let key ← FlowKey.ofValue name path
  let segments ← FlowKey.toPath (.str key)
  let flow ← Normal.flow source
  return (flow, segments.map Segment.name)

/-- Adding a flow is reading it, which depends on nothing but the name of the dialog, compiling it, and the check of
references. -/
theorem addFlow_eq (source path : Value) (p : Program) :
    addFlow source path p =
      match locate p.dialog.name source path with
      | .ok (flow, own) => (compileFlow flow own {} 0 >>= fun _ => checkReferences) p
      | .error e => .error e p := by
  have hget (f : Program → Compile Unit) : (get >>= f) p = f p p := rfl
  unfold addFlow locate
  rw [hget, Program.key]
  cases FlowKey.ofValue p.dialog.name path with
  | error e => rfl
  | ok key =>
    change (Compile.ofExcept (FlowKey.toPath (.str key)) >>= _ : Compile Unit) p = _
    simp only [bind, Except.bind]
    cases FlowKey.toPath (.str key) with
    | error e => rfl
    | ok segments => cases Normal.flow source <;> rfl

private theorem locate_eq_ok {name : String} {source path : Value} {flow : Flow} {own : FlowPath}
    (h : locate name source path = .ok (flow, own)) :
    Normal.flow source = .ok flow ∧ FlowKey.ofPath name own = FlowKey.ofValue name path := by
  unfold locate at h
  cases hkey : FlowKey.ofValue name path with
  | error e => simp [hkey, bind, Except.bind] at h
  | ok key =>
    cases hsegments : FlowKey.toPath (.str key) with
    | error e => simp [hkey, hsegments, bind, Except.bind] at h
    | ok segments =>
      cases hflow : Normal.flow source with
      | error e => simp [hkey, hsegments, hflow, bind, Except.bind] at h
      | ok own =>
        simp only [hkey, hsegments, hflow, bind, Except.bind, pure, Except.pure, Except.ok.injEq, Prod.mk.injEq] at h
        obtain ⟨rfl, rfl⟩ := h
        exact ⟨rfl, FlowKey.ofPath_of_toPath hkey hsegments⟩

private theorem finalState_addFlow (source path : Value) (p : Program) :
    finalState (addFlow source path p) = p ∨ ∃ flow own, Normal.flow source = .ok flow ∧
      p.pathKey own = p.key path ∧ finalState (addFlow source path p) = finalState (compileFlow flow own {} 0 p) := by
  rw [addFlow_eq]
  cases hlocate : locate p.dialog.name source path with
  | error e => exact .inl rfl
  | ok located =>
    obtain ⟨hflow, hkey⟩ := locate_eq_ok hlocate
    exact .inr ⟨located.1, located.2, hflow, hkey, finalState_bind_of_keeps fun _ => finalState_checkReferences⟩

/-- Whatever was compiled into a dialog before, one more flow without absolute ids keeps all that is registered, adds
keys at its path and below, and leaves no table with a key that is not registered. -/
theorem compiling_extends_below (hp : p.Reached) :
    (∀ flow path targets index, (∀ part ∈ flowParts flow, ∀ id ∈ part.ids, '#' ∉ id.toList) →
      let q := finalState (compileFlow flow path targets index p)
      GrowsBelow (p.pathKey path) p q ∧ q.Tabled) ∧
    ∀ source path, (∀ flow, Normal.flow source = .ok flow →
        ∀ part ∈ flowParts flow, ∀ id ∈ part.ids, '#' ∉ id.toList) →
      let q := finalState (addFlow source path p)
      GrowsBelow (p.key path) p q ∧ q.Tabled := by
  have hcompiled (flow : Flow) (path : FlowPath) (targets : Targets) (index : Nat) :=
    (hp.compiled flow path targets index).tabled
  refine ⟨fun flow path targets index hids => ⟨growsBelow_compileFlow hids path targets index, hcompiled ..⟩, ?_⟩
  intro source path hids
  obtain hsame | ⟨flow, own, hflow, hkey, hq⟩ := finalState_addFlow source path p
  · rw [hsame]
    exact ⟨⟨fun _ _ hl => hl, fun key hkey => .inl hkey⟩, hp.tabled⟩
  · rw [hq, ← hkey]
    exact ⟨growsBelow_compileFlow (hids flow hflow) own {} 0, hcompiled ..⟩

/-- A question that starts a dialog is compiled at its start once more, which fails. -/
theorem question_extends_below : ∃ p, Program.build (.str "Trial") question .none {} =
    .ok (p, [("onStart", [.name "onStart"])]) ∧
      let q := finalState (compileFlow questionFlow [.name "onStart"] {} 0 p)
      q.flows.lookup "Trial:onStart" = p.flows.lookup "Trial:onStart" ∧ q.Tabled := by
  obtain ⟨p, hbuild, hl⟩ := build_question
  refine ⟨p, hbuild, ?_⟩
  obtain ⟨hgrows, htabled⟩ := (compiling_extends_below (.of_build hbuild)).1 questionFlow [.name "onStart"] {} 0
    (by decide)
  exact ⟨(hgrows.keeps _ _ hl).trans hl.symm, htabled⟩

end Colloquy
