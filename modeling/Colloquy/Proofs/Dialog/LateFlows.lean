import Colloquy.Proofs.Dialog.Extending
import Colloquy.Proofs.Flow.Closest

/-!
# Flows that come late

A flow that is compiled into a dialog later may fail to compile, and what was compiled before the error stays. Later
calls do not see this residue unless they get in its way: one that takes a key of it fails, one that refers to a flow
of it finds the flow, and a reference of it that leads nowhere fails every call.
-/

namespace Colloquy

/-- What a call leaves behind that fails: flows, and references to flows. -/
structure Residue where
  flows : List (String × FlowHandler) := []
  references : List String := []

namespace Residue

/-- Keys of the flows that were left behind. -/
def keys (left : Residue) : List String := left.flows.map (·.1)

/-- Under which payloads and postbacks something may have been left behind. -/
def Offers (left : Residue) (v : Value) : Prop := ∃ key ∈ left.keys, v = .str key

/-- Under which keys of results something may have been left behind. -/
def Awaits (left : Residue) (v : Value) : Prop :=
  ∃ dialog, ∃ tag ∈ left.keys, v = Dialog.resultKey (.str dialog) (.str tag)

end Residue

namespace EventTable

/-- Two tables agree on everything that is told apart from certain keys. -/
def AgreeBut (own : Value → Prop) (table other : EventTable) : Prop :=
  ∀ v, (∀ key, own key → key.same v = false) → other.get? v = table.get? v

variable {own more : Value → Prop} {table other : EventTable} {key : Value}

private theorem AgreeBut.mono (h : AgreeBut own table other) (hmore : ∀ key, own key → more key) :
    AgreeBut more table other :=
  fun v hv => h v fun key hkey => hv key (hmore key hkey)

private theorem AgreeBut.put (h : AgreeBut own table other) (hkey : key.Sharp) (handler : EventHandler) :
    AgreeBut own (table.put key handler) (other.put key handler) := by
  intro v hv
  rw [get?_put_eq hkey, get?_put_eq hkey, h v hv]

private theorem AgreeBut.put_own (h : AgreeBut own table other) (hkey : key.Sharp) (hown : own key)
    (handler : EventHandler) :
    AgreeBut own table (other.put key handler) := by
  intro v hv
  rw [get?_put_eq hkey, hv key hown]
  exact h v hv

end EventTable

namespace Program

/-- A program without anything that compiling writes down. -/
def bare (p : Program) : Program :=
  { p with
    flows := [], references := [], warnings := []
    dialog := { p.dialog with results := [], postbacks := [], payloads := [] } }

/-- The second program is the first one with a residue of a call that failed. -/
structure DifferBy (left : Residue) (p q : Program) : Prop where
  bare : q.bare = p.bare
  flows : ∃ before after, p.flows = before ++ after ∧ q.flows = before ++ left.flows ++ after
  fresh : ∀ key ∈ left.keys, key ∉ p.keys
  references : ∃ before after, p.references = before ++ after ∧ q.references = before ++ left.references ++ after
  payloads : p.dialog.payloads.AgreeBut left.Offers q.dialog.payloads
  postbacks : p.dialog.postbacks.AgreeBut left.Offers q.dialog.postbacks
  results : p.dialog.results.AgreeBut left.Awaits q.dialog.results

structure Leaves (left : Residue) (p q : Program) : Prop extends p.DifferBy left q where
  last : q.flows = p.flows ++ left.flows
  noted : q.references = p.references ++ left.references

variable {left : Residue} {p q p' q' : Program} {entry : Entry}

private theorem DifferBy.name (h : p.DifferBy left q) : q.dialog.name = p.dialog.name := congrArg (·.dialog.name) h.bare

private theorem DifferBy.settings (h : p.DifferBy left q) : q.settings = p.settings := congrArg (·.settings) h.bare

private theorem DifferBy.mem_keys (h : p.DifferBy left q) (key : String) :
    key ∈ q.keys ↔ key ∈ p.keys ∨ key ∈ left.keys := by
  obtain ⟨before, after, hp, hq⟩ := h.flows
  simp only [keys, Residue.keys, hp, hq, List.map_append, List.mem_append]
  tauto

private theorem lookup_eq_none_iff {key : String} : p.flows.lookup key = none ↔ key ∉ p.keys := by
  rw [keys, ← lookup_ne_none_iff, not_not]

private theorem DifferBy.enter (h : p.DifferBy left q) (hq : q.enter entry = .ok q') :
    ∃ p', p.enter entry = .ok p' ∧ p'.DifferBy left q' := by
  cases entry with
  | register key handler =>
    obtain ⟨hfree, rfl⟩ := add_eq_ok.mp hq
    have hkeys := h.mem_keys key
    have hfree := lookup_eq_none_iff.mp hfree
    have hp : p.flows.lookup key = none := lookup_eq_none_iff.mpr fun hmem => hfree (hkeys.mpr (.inl hmem))
    obtain ⟨before, after, hflows, hq⟩ := h.flows
    refine ⟨_, add_eq_ok.mpr ⟨hp, rfl⟩, h.bare, ⟨before, after ++ [(key, handler)], ?_, ?_⟩, fun own hown => ?_,
      h.references, h.payloads, h.postbacks, h.results⟩
    · rw [hflows, List.append_assoc]
    · rw [hq, List.append_assoc]
    · have hne : own ≠ key := fun heq => hfree (hkeys.mpr (.inr (heq ▸ hown)))
      have hold := h.fresh own hown
      simpa [keys, hne] using hold
  | warn message =>
    cases hq
    exact ⟨_, rfl, h.bare, h.flows, h.fresh, h.references, h.payloads, h.postbacks, h.results⟩
  | refer key =>
    cases hq
    obtain ⟨before, after, hp, hq⟩ := h.references
    refine ⟨_, rfl, h.bare, h.flows, h.fresh, ⟨before, after ++ [key], ?_, ?_⟩, h.payloads, h.postbacks, h.results⟩
    · rw [referring, hp, List.append_assoc]
    · rw [referring, hq, List.append_assoc]
  | await target tag path =>
    cases hq
    have hresults : (p.awaiting target tag path).dialog.results.AgreeBut left.Awaits
        (q.awaiting target tag path).dialog.results := by
      have hname := resultName_congr h.settings target
      unfold awaiting
      rw [hname]
      exact h.results.put (Value.sharp_resultKey _ tag) _
    exact ⟨_, rfl, h.bare, h.flows, h.fresh, h.references, h.payloads, h.postbacks, hresults⟩
  | offer kind key path =>
    cases hq
    refine ⟨_, rfl, ?_⟩
    have hput {table other : EventTable} (h : table.AgreeBut left.Offers other) (handler : EventHandler) :=
      h.put (Value.sharp_str key) handler
    unfold offering
    split
    · exact ⟨h.bare, h.flows, h.fresh, h.references, hput h.payloads _, h.postbacks, h.results⟩
    · exact ⟨h.bare, h.flows, h.fresh, h.references, h.payloads, hput h.postbacks _, h.results⟩

private theorem DifferBy.refuse (h : p.DifferBy left q) {e : Error} (hq : q.enter entry = .error e) :
    p.enter entry = .error e ∨ ∃ key ∈ left.keys, e = .duplicateKey key := by
  obtain ⟨key, handler, rfl, htaken, rfl⟩ := enter_eq_error hq
  rcases (h.mem_keys key).mp (lookup_ne_none_iff.mp htaken) with hold | hleft
  · left
    change p.add key handler = _
    unfold add
    rw [any_eq_isSome_lookup, if_pos (Option.isSome_iff_ne_none.mpr (lookup_ne_none_iff.mpr hold))]
  · exact .inr ⟨key, hleft, rfl⟩

private theorem DifferBy.perform {α : Type} (h : p.DifferBy left q) (ending : Except Error α) (entries : List Entry) :
    (∃ a p' q', p.perform ending entries = .ok a p' ∧ q.perform ending entries = .ok a q' ∧ p'.DifferBy left q') ∨
    (∃ e p' q', p.perform ending entries = .error e p' ∧ q.perform ending entries = .error e q' ∧ p'.DifferBy left q') ∨
    ∃ key ∈ left.keys, ∃ q', q.perform ending entries = .error (.duplicateKey key) q' := by
  induction entries generalizing p q with
  | nil =>
    cases ending with
    | ok a => exact .inl ⟨a, p, q, rfl, rfl, h⟩
    | error e => exact .inr (.inl ⟨e, p, q, rfl, rfl, h⟩)
  | cons entry rest ih =>
    unfold Program.perform
    cases hq : q.enter entry with
    | ok q' =>
      obtain ⟨p', hp, h'⟩ := h.enter hq
      rw [hp]
      exact ih h'
    | error e =>
      rcases h.refuse hq with hp | ⟨key, hkey, rfl⟩
      · rw [hp]
        exact .inr (.inl ⟨e, p, q, rfl, rfl, h⟩)
      · exact .inr (.inr ⟨key, hkey, q, rfl⟩)

private theorem Leaves.refl (p : Program) : p.Leaves {} p where
  bare := rfl
  flows := ⟨p.flows, [], by simp, by simp⟩
  fresh := nofun
  references := ⟨p.references, [], by simp, by simp⟩
  payloads := fun _ _ => rfl
  postbacks := fun _ _ => rfl
  results := fun _ _ => rfl
  last := by simp
  noted := by simp

private theorem Leaves.enter {r : CompileRule} {root : FlowPath} {name : String} {known : String → Prop}
    (h : p.Leaves left q)
    (hsound : entry.Sound r root name known) (hknown : ∀ key, known key → key ∈ left.keys)
    (hq : q.enter entry = .ok q') :
    ∃ more, p.Leaves more q' ∧ ∀ key, known key ∨ entry.key? = some key → key ∈ more.keys := by
  cases hsound with
  | @register path key handler hpath hkey =>
    obtain ⟨hfree, rfl⟩ := add_eq_ok.mp hq
    have hfree := lookup_eq_none_iff.mp hfree
    let more : Residue := { left with flows := left.flows ++ [(key, handler)] }
    have hmem (own : String) : own ∈ more.keys ↔ own ∈ left.keys ∨ own = key := by
      simp [more, Residue.keys]
    have hlast : q.flows ++ [(key, handler)] = p.flows ++ more.flows := by rw [h.last, List.append_assoc]
    have hoffers (v : Value) (hv : left.Offers v) : more.Offers v := by
      obtain ⟨own, hown, rfl⟩ := hv
      exact ⟨own, (hmem own).mpr (.inl hown), rfl⟩
    have hawaits (v : Value) (hv : left.Awaits v) : more.Awaits v := by
      obtain ⟨dialog, tag, htag, rfl⟩ := hv
      exact ⟨dialog, tag, (hmem tag).mpr (.inl htag), rfl⟩
    refine ⟨more, ⟨⟨h.bare, ⟨p.flows, [], by simp, by simpa using hlast⟩, fun own hown => ?_, h.references,
      h.payloads.mono hoffers, h.postbacks.mono hoffers, h.results.mono hawaits⟩, hlast, h.noted⟩, fun own hown => ?_⟩
    · rcases (hmem own).mp hown with hown | rfl
      · exact h.fresh own hown
      · exact fun hold => hfree ((h.mem_keys own).mpr (.inl hold))
    · exact (hmem own).mpr (hown.imp (hknown own) fun heq => (Option.some.inj heq).symm)
  | warn message =>
    cases hq
    exact ⟨left, ⟨⟨h.bare, h.flows, h.fresh, h.references, h.payloads, h.postbacks, h.results⟩, h.last, h.noted⟩,
      fun key hkey => hknown key (hkey.resolve_right nofun)⟩
  | refer key =>
    cases hq
    have hnoted : q.references ++ [key] = p.references ++ (left.references ++ [key]) := by
      rw [h.noted, List.append_assoc]
    exact ⟨{ left with references := left.references ++ [key] }, ⟨⟨h.bare, h.flows, h.fresh,
      ⟨p.references, [], by simp, by simpa [referring] using hnoted⟩, h.payloads, h.postbacks, h.results⟩, h.last, hnoted⟩,
      fun key hkey => hknown key (hkey.resolve_right nofun)⟩
  | @await target tag path hkey htag =>
    cases hq
    have hresults := h.results.put_own (Value.sharp_resultKey (q.resultName target) tag) ⟨_, tag, hknown tag htag, rfl⟩
      (.resume path.toValue)
    exact ⟨left, ⟨⟨h.bare, h.flows, h.fresh, h.references, h.payloads, h.postbacks, hresults⟩, h.last, h.noted⟩,
      fun key hkey => hknown key (hkey.resolve_right nofun)⟩
  | @offer kind key path hkey hown =>
    cases hq
    have hput {table other : EventTable} (h : table.AgreeBut left.Offers other) :=
      h.put_own (Value.sharp_str key) ⟨key, hknown key hown, rfl⟩ (.resume path.toValue)
    refine ⟨left, ?_, fun key hkey => hknown key (hkey.resolve_right nofun)⟩
    unfold offering
    split
    · exact ⟨⟨h.bare, h.flows, h.fresh, h.references, hput h.payloads, h.postbacks, h.results⟩, h.last, h.noted⟩
    · exact ⟨⟨h.bare, h.flows, h.fresh, h.references, h.payloads, hput h.postbacks, h.results⟩, h.last, h.noted⟩

private theorem Leaves.perform {α : Type} {r : CompileRule} {root : FlowPath} {name : String} {known : String → Prop}
    {ending : Except Error α} {entries : List Entry} (h : p.Leaves left q) (hsound : AllSound r root name known entries)
    (hknown : ∀ key, known key → key ∈ left.keys) :
    ∃ more, p.Leaves more (finalState (q.perform ending entries)) := by
  induction entries generalizing left q known with
  | nil => cases ending <;> exact ⟨left, h⟩
  | cons entry rest ih =>
    unfold Program.perform
    cases hq : q.enter entry with
    | error e => exact ⟨left, h⟩
    | ok q' =>
      obtain ⟨more, hmore, hknown⟩ := h.enter hsound.1 hknown hq
      exact ih hmore hsound.2 hknown

end Program

open Compile
open Program (any_eq_isSome_lookup lookup_ne_none_iff)

namespace Residue

/-- Errors are the same, only that one suggests a flow that was left behind. -/
inductive Agree (left : Residue) : Error → Error → Prop where
  | same (e) : Agree left e e
  | suggested {key own} (s) (hown : own ∈ left.keys) :
      Agree left (.undefinedFlow key s) (.undefinedFlow key (some own))

inductive Compares (left : Residue) : EStateM.Result Error Program Unit → EStateM.Result Error Program Unit → Prop where
  | ok {p q : Program} (h : p.DifferBy left q) : Compares left (.ok () p) (.ok () q)
  | error {e e'} {p q : Program} (he : left.Agree e e') (h : p.DifferBy left q) : Compares left (.error e p) (.error e' q)
  /-- The call takes a key that was left behind. -/
  | taken {x key q} (hkey : key ∈ left.keys) : Compares left x (.error (.duplicateKey key) q)
  /-- A flow that was left behind is what is referred to. -/
  | found {key own s} {p : Program} {y} (hkey : p.key (.str key) = .ok own) (hown : own ∈ left.keys)
      (h : p.DifferBy left (finalState y)) : Compares left (.error (.undefinedFlow key s) p) y
  /-- A reference that was left behind leads nowhere. -/
  | dangling {x key s q} (hkey : key ∈ left.references) (hother : ∀ s p, x ≠ .error (.undefinedFlow key s) p)
      (h : (finalState x).DifferBy left q) : Compares left x (.error (.undefinedFlow key s) q)

variable {left : Residue} {p q : Program}

private theorem agree_suggest (h : p.DifferBy left q) (key : String) :
    left.Agree (.undefinedFlow key (p.suggest key)) (.undefinedFlow key (q.suggest key)) := by
  have hsub : p.keys ⊆ q.keys := fun own hown => (h.mem_keys own).mpr (.inl hown)
  unfold Program.suggest
  rcases Suggestion.closest_of_subset key hsub with heq | ⟨own, heq, hnew⟩
  · rw [heq]
    exact .same _
  · rw [heq]
    have hown := (Suggestion.closest_eq_some.mp heq).1
    exact .suggested _ (((h.mem_keys own).mp hown).resolve_left hnew)

private theorem contains_cases (h : p.DifferBy left q) (key : String) :
    q.contains (.str key) = p.contains (.str key) ∨
      q.contains (.str key) = true ∧ ∃ own ∈ left.keys, p.key (.str key) = .ok own := by
  have hname : q.key (.str key) = p.key (.str key) := by
    unfold Program.key
    rw [h.name]
  unfold Program.contains
  rw [hname]
  cases hkey : p.key (.str key) with
  | error e => exact .inl rfl
  | ok own =>
    have hany (p : Program) : p.flows.any (·.1 == own) = true ↔ own ∈ p.keys := by
      rw [any_eq_isSome_lookup, Option.isSome_iff_ne_none]
      exact lookup_ne_none_iff
    dsimp only
    by_cases hown : own ∈ left.keys
    · right
      exact ⟨(hany q).mpr ((h.mem_keys own).mpr (.inr hown)), own, hown, rfl⟩
    · left
      rw [Bool.eq_iff_iff, hany, hany, h.mem_keys own, or_iff_left hown]

private theorem find?_cases {α : Type} {f g : α → Bool} (h : ∀ a, g a = true → f a = true) (items : List α) :
    items.find? f = items.find? g ∨ ∃ a, items.find? f = some a ∧ f a = true ∧ g a = false := by
  induction items with
  | nil => exact .inl rfl
  | cons a rest ih =>
    cases hf : f a with
    | false =>
      have hg : g a = false := Bool.eq_false_iff.mpr fun hg => by simp [h a hg] at hf
      simpa [List.find?_cons, hf, hg] using ih
    | true =>
      cases hg : g a with
      | false => exact .inr ⟨a, by simp [hf], hf, hg⟩
      | true => exact .inl (by simp [hf, hg])

/-- The first reference that leads nowhere is the same with and without a residue, leads to a flow that was left
behind, or was left behind itself. -/
theorem loose?_cases (h : p.DifferBy left q) :
    q.loose? = p.loose? ∨
      (∃ key own, p.loose? = some key ∧ p.key (.str key) = .ok own ∧ own ∈ left.keys) ∨
      ∃ key, q.loose? = some key ∧ key ∈ left.references ∧ p.loose? ≠ some key := by
  obtain ⟨before, after, hp, hq⟩ := h.references
  have hloose (key : String) : (!q.contains (.str key)) = true → (!p.contains (.str key)) = true := by
    rcases contains_cases h key with heq | ⟨hfound, -⟩
    · rw [heq]
      exact id
    · simp [hfound]
  unfold Program.loose?
  rw [hp, hq]
  rcases find?_cases hloose (before ++ after) with heq | ⟨key, hfirst, hnowhere, hsomewhere⟩
  · rw [heq, List.find?_append, List.find?_append, List.find?_append]
    cases before.find? fun key => !q.contains (.str key) with
    | some key => exact .inl rfl
    | none =>
      cases hleft : left.references.find? fun key => !q.contains (.str key) with
      | none => exact .inl rfl
      | some key =>
        by_cases hsame : (after.find? fun key => !q.contains (.str key)) = some key
        · exact .inl hsame.symm
        · exact .inr (.inr ⟨key, rfl, List.mem_of_find?_eq_some hleft, hsame⟩)
  · right; left
    rcases contains_cases h key with heq | ⟨-, own, hown, hkey⟩
    · rw [heq, hnowhere] at hsomewhere
      cases hsomewhere
    · exact ⟨key, own, hfirst, hkey, hown⟩

private theorem compares_checkReferences (h : p.DifferBy left q) : left.Compares (checkReferences p)
    (checkReferences q) := by
  have hstate : finalState (checkReferences q) = q := finalState_checkReferences q
  rcases loose?_cases h with hsame | ⟨key, own, hp, hkey, hown⟩ | ⟨key, hq, hleft, hp⟩
  · rw [checkReferences_eq, checkReferences_eq, hsame]
    cases p.loose? with
    | none => exact .ok h
    | some key => exact .error (agree_suggest h key) h
  · rw [checkReferences_eq p, hp]
    exact .found hkey hown (hstate.symm ▸ h)
  · have hfinal := finalState_checkReferences p
    rw [checkReferences_eq q, hq]
    refine .dangling hleft (fun s r hr => hp ?_) (hfinal.symm ▸ h)
    rw [checkReferences_eq] at hr
    cases hloose : p.loose? with
    | none => simp [hloose] at hr
    | some other =>
      rw [hloose] at hr
      cases hr
      rfl

private theorem exists_entries (flow : Flow) (own : FlowPath) (name : String) :
    ∃ entries ending, Program.AllSound .free own name (fun _ => False) entries ∧
      ∀ p : Program, p.dialog.name = name → compileFlow flow own {} 0 p = p.perform ending entries := by
  have hobeys : ∀ part ∈ flowParts flow, part.Obeys .free := fun part _ => part.obeys_free
  have hscripted : Scripted .free own name (fun _ => False) (FlowKey.ofPath name own = .ok ·) (compileFlow flow own {} 0) :=
    scripted_compileFlow hobeys (.refl trivial) {} 0
  obtain ⟨entries, ending, hsound, -, -, hperform⟩ := hscripted
  exact ⟨entries, ending, hsound, hperform⟩

/-- A call ends the same way with and without a residue, or gets in touch with it. -/
theorem compares_addFlow (h : p.DifferBy left q) (source path : Value) :
    left.Compares (addFlow source path p) (addFlow source path q) := by
  rw [addFlow_eq source path p, addFlow_eq source path q, h.name]
  cases locate p.dialog.name source path with
  | error e => exact .error (.same e) h
  | ok located =>
    obtain ⟨flow, own⟩ := located
    obtain ⟨entries, ending, -, hperform⟩ := exists_entries flow own p.dialog.name
    have hbind (p : Program) : (compileFlow flow own {} 0 >>= fun _ => checkReferences) p =
        match compileFlow flow own {} 0 p with
        | .ok _ q => checkReferences q
        | .error e q => .error e q := by
      change EStateM.bind _ _ p = _
      unfold EStateM.bind
      cases compileFlow flow own {} 0 p <;> rfl
    dsimp only
    rw [hbind, hbind, hperform p rfl, hperform q h.name]
    rcases h.perform ending entries with ⟨a, p', q', hp, hq, h'⟩ | ⟨e, p', q', hp, hq, h'⟩ | ⟨key, hkey, q', hq⟩
    · rw [hp, hq]
      exact compares_checkReferences h'
    · rw [hp, hq]
      exact .error (.same e) h'
    · rw [hq]
      exact .taken hkey

private theorem leaves_addFlow (source path : Value) (p : Program) :
    ∃ left, p.Leaves left (finalState (addFlow source path p)) := by
  rw [addFlow_eq]
  cases locate p.dialog.name source path with
  | error e => exact ⟨{}, .refl p⟩
  | ok located =>
    obtain ⟨flow, own⟩ := located
    obtain ⟨entries, ending, hsound, hperform⟩ := exists_entries flow own p.dialog.name
    dsimp only
    rw [finalState_bind_of_keeps fun _ => finalState_checkReferences, hperform p rfl]
    exact (Program.Leaves.refl p).perform hsound nofun

end Residue

/-- The program after calls that compile flows, whether these fail or not. -/
def Program.called (p : Program) (calls : List (Value × Value)) : Program :=
  calls.foldl (fun p call => finalState (addFlow call.1 call.2 p)) p

namespace Residue

variable {left : Residue} {p q : Program}

/-- None of the calls takes a key that was left behind. -/
def Spared (left : Residue) (q : Program) : List (Value × Value) → Prop
  | [] => True
  | (source, path) :: rest =>
    (∀ key ∈ left.keys, ∀ r, addFlow source path q ≠ .error (.duplicateKey key) r) ∧
      left.Spared (finalState (addFlow source path q)) rest

private theorem Compares.differBy {x y : EStateM.Result Error Program Unit} (h : left.Compares x y)
    (hspared : ∀ key ∈ left.keys, ∀ r, y ≠ .error (.duplicateKey key) r) :
    (finalState x).DifferBy left (finalState y) := by
  cases h with
  | ok h => exact h
  | error he h => exact h
  | taken hkey => exact absurd rfl (hspared _ hkey _)
  | found hkey hown h => exact h
  | dangling hkey hother h => exact h

private theorem differBy_called {calls : List (Value × Value)} (h : p.DifferBy left q) (hspared : left.Spared q calls) :
    (p.called calls).DifferBy left (q.called calls) := by
  induction calls generalizing p q with
  | nil => exact h
  | cons call rest ih => exact ih ((compares_addFlow h call.1 call.2).differBy hspared.1) hspared.2

end Residue

/-- A call that fails to compile a flow into a dialog keeps what was there before. It leaves its flows and references
up to the error, unless the path or the flow cannot even be read, and what it enters in tables belongs to these flows.
Whatever is called later, and as long as no key is taken that was left behind, each call ends as if the one that failed
had never been made, but where it refers to a flow that was left behind or is stopped by a reference that was. -/
theorem late_failure_leaves_residue {source path : Value} {p q : Program} {e : Error}
    (h : addFlow source path p = .error e q) :
    ∃ left : Residue, p.DifferBy left q ∧ q.flows = p.flows ++ left.flows ∧
      q.references = p.references ++ left.references ∧
      (∀ e, locate p.dialog.name source path = .error e → q = p) ∧
      ∀ calls, left.Spared q calls → ∀ source path,
        left.Compares (addFlow source path (p.called calls)) (addFlow source path (q.called calls)) := by
  obtain ⟨left, hleft⟩ := Residue.leaves_addFlow source path p
  rw [h] at hleft
  refine ⟨left, hleft.toDifferBy, hleft.last, hleft.noted, fun cause hlocate => ?_, fun calls hspared source path => ?_⟩
  · rw [addFlow_eq, hlocate] at h
    cases h
    rfl
  · exact Residue.compares_addFlow (Residue.differBy_called hleft.toDifferBy hspared) source path

/-- A message with a button that leads to a flow which is not there. -/
def pick : Value :=
  .ofList [.record [("text", .str "Pick"), ("actions", .ofList [.record [("id", .str "go"), ("type", .str "postback"),
    ("text", .str "Go"), ("thenFlow", .str "other")]])]]

def pickFlow : Flow :=
  [.command (.message .text "text" { text := .str "Pick" }
    (.fixed [.mk { id := some "go", kind := .postback, text := .str "Go", thenFlow := .str "other" } none]) .absent)]

def sayFlow (text : String) : Flow := [.command (.message .text "text" { text := .str text } .absent .absent)]

def emptyDialog : Program := { dialog := { name := "Trial", wildcard := .str "*" } }

private theorem locate_pick : locate "Trial" pick (.str "extra") = .ok (pickFlow, [.name "extra"]) := by
  with_unfolding_all rfl

private theorem locate_say : locate "Trial" (.str "Hello") (.str "more") = .ok (sayFlow "Hello", [.name "more"]) := by
  with_unfolding_all rfl

private theorem addFlow_of_compiles {source path : Value} {flow : Flow} {own : FlowPath} {p q : Program}
    (hlocate : locate p.dialog.name source path = .ok (flow, own)) (h : Compiles (.flow flow own {} 0) p q) :
    addFlow source path p = checkReferences q := by
  rw [addFlow_eq, hlocate]
  dsimp only
  change EStateM.bind _ _ p = _
  unfold EStateM.bind
  rw [h.succeeds]

/-- A dialog in which the message was compiled, and nothing else. -/
def pickedDialog (handler : FlowHandler) : Program :=
  { emptyDialog with flows := [("Trial:extra", handler)], references := ["Trial:other"] }

private theorem addFlow_pick : ∃ handler, addFlow pick (.str "extra") emptyDialog =
    .error (.undefinedFlow "Trial:other" (some "Trial:extra")) (pickedDialog handler) := by
  have hrefer : emptyDialog.key (.str "other") = .ok "Trial:other" := by with_unfolding_all rfl
  have hkey : emptyDialog.pathKey [.name "extra"] = .ok "Trial:extra" := rfl
  have h : Compiles (.flow pickFlow [.name "extra"] {} 0) emptyDialog (pickedDialog _) :=
    .flow rfl hkey
      (.plain rfl rfl (.message rfl (.fixedActions (.actionCons (.reference rfl rfl hrefer) .actionNil)) .noItems) .nil)
      hkey (Program.add_eq_ok.mpr ⟨rfl, rfl⟩)
  have hloose (handler : FlowHandler) : (pickedDialog handler).loose? = some "Trial:other" := by with_unfolding_all rfl
  have hsuggest (handler : FlowHandler) : (pickedDialog handler).suggest "Trial:other" = some "Trial:extra" :=
    Suggestion.closest_eq_some.mpr ⟨List.mem_singleton_self _, fun s hs => by rw [List.mem_singleton.mp hs]⟩
  have hcall := addFlow_of_compiles locate_pick h
  rw [checkReferences_eq, hloose] at hcall
  dsimp only at hcall
  rw [hsuggest] at hcall
  exact ⟨_, hcall⟩

private theorem addFlow_say {p : Program} (hname : p.dialog.name = "Trial")
    (hfree : p.flows.lookup "Trial:more" = none) :
    ∃ handler, addFlow (.str "Hello") (.str "more") p =
      checkReferences { p with flows := p.flows ++ [("Trial:more", handler)] } := by
  have hkey : p.pathKey [.name "more"] = .ok "Trial:more" := by
    unfold Program.pathKey
    rw [hname]
    rfl
  have h : Compiles (.flow (sayFlow "Hello") [.name "more"] {} 0) p _ :=
    .flow rfl hkey (.plain rfl rfl (.message rfl .noActions .noItems) .nil) hkey (Program.add_eq_ok.mpr ⟨hfree, rfl⟩)
  exact ⟨_, addFlow_of_compiles (hname ▸ locate_say) h⟩

/-- A message whose button leads nowhere leaves its flow and the reference behind. -/
theorem pick_leaves_residue : ∃ (handler : FlowHandler) (left : Residue),
    addFlow pick (.str "extra") emptyDialog =
      .error (.undefinedFlow "Trial:other" (some "Trial:extra")) (pickedDialog handler) ∧
    left.keys = ["Trial:extra"] ∧ left.references = ["Trial:other"] ∧
    left.Compares (addFlow (.str "Hello") (.str "more") emptyDialog)
      (addFlow (.str "Hello") (.str "more") (pickedDialog handler)) := by
  obtain ⟨handler, h⟩ := addFlow_pick
  obtain ⟨left, -, hflows, hreferences, -, hcompares⟩ := late_failure_leaves_residue h
  have hkeys : left.flows = [("Trial:extra", handler)] := hflows.symm
  refine ⟨handler, left, h, by simp [Residue.keys, hkeys], hreferences.symm, hcompares [] trivial _ _⟩

/-- Because of this residue, a flow that could be compiled into the dialog cannot be compiled into it any more. -/
theorem failed_pick_stops_later_calls : ∃ p q later e r,
    Program.build (.str "Trial") .none .none {} = .ok (p, []) ∧
    addFlow pick (.str "extra") p = .error (.undefinedFlow "Trial:other" (some "Trial:extra")) q ∧
    q.keys ≠ p.keys ∧ q.references ≠ p.references ∧
    addFlow (.str "Hello") (.str "more") p = .ok () later ∧ addFlow (.str "Hello") (.str "more") q = .error e r := by
  obtain ⟨handler, hpick⟩ := addFlow_pick
  obtain ⟨first, hfirst⟩ := addFlow_say (p := emptyDialog) rfl rfl
  obtain ⟨second, hsecond⟩ := addFlow_say (p := pickedDialog handler) rfl rfl
  have hloose : ({ pickedDialog handler with
      flows := (pickedDialog handler).flows ++ [("Trial:more", second)] } : Program).loose? = some "Trial:other" := by
    with_unfolding_all rfl
  rw [checkReferences_eq] at hfirst hsecond
  rw [hloose] at hsecond
  exact ⟨emptyDialog, pickedDialog handler, _, _, _, rfl, hpick, nofun, nofun, hfirst, hsecond⟩

end Colloquy
