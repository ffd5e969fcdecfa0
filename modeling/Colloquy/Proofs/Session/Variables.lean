import Colloquy.Proofs.Session.Effects
import Colloquy.Proofs.Value.Sharing

/-!
# Variables of a session

Each variable lives in the scope that its name tells, so in a session that only ever set its variables no scope
hides another one: what handlers see under a name is what was set last. What was saved last is all that a later
request needs to see the same, but for the variables of the request itself.
-/

namespace Colloquy

namespace Session

variable {s s' : Session}

private theorem entriesIn_withVariables (s : Session) (entries : Entries) (scope other : VariableScope) :
    (s.withVariables entries scope).entriesIn other = if scope = other then entries else s.entriesIn other := by
  cases scope <;> cases other <;> rfl

theorem entriesIn_assign (s : Session) (name : String) (v : Value) (scope : VariableScope) :
    (s.assign name v).entriesIn scope =
      if variableScope name = scope then Entries.put (s.entriesIn scope) name v else s.entriesIn scope := by
  unfold assign
  rw [entriesIn_withVariables]
  split
  · rename_i h
    rw [h]
  · rfl

/-- Every variable is in the scope of its name and occurs once, and its objects have identities. -/
structure Orderly (s : Session) : Prop where
  placed : ∀ scope name, Entries.named? (s.entriesIn scope) name ≠ none → variableScope name = scope
  distinct : ∀ scope, (s.entriesIn scope).Distinct
  owned : ∀ scope, ∀ entry ∈ s.entriesIn scope, entry.2.Owned

theorem Orderly.of_entriesIn (h : s.Orderly) (hsame : ∀ scope, s'.entriesIn scope = s.entriesIn scope) :
    s'.Orderly where
  placed scope := hsame scope ▸ h.placed scope
  distinct scope := hsame scope ▸ h.distinct scope
  owned scope := hsame scope ▸ h.owned scope

private theorem Orderly.assign (h : s.Orderly) (name : String) {v : Value} (hv : v.Owned) :
    (s.assign name v).Orderly where
  placed scope other hother := by
    rw [entriesIn_assign] at hother
    split at hother
    · rename_i hscope
      by_cases hname : other = name
      · rw [hname, hscope]
      · rw [Entries.named?_put_of_ne hname] at hother
        exact h.placed scope other hother
    · exact h.placed scope other hother
  distinct scope := by
    rw [entriesIn_assign]
    split
    · exact (h.distinct scope).insert _ _
    · exact h.distinct scope
  owned scope := by
    rw [entriesIn_assign]
    split
    · exact Entries.forall_insert (h.owned scope) hv _
    · exact h.owned scope

private theorem Orderly.named?_handlerVars (h : s.Orderly) (name : String) :
    Entries.named? (s.handlerVars .none) name = Entries.named? (s.entriesIn (variableScope name)) name := by
  have hother (scope : VariableScope) (hne : variableScope name ≠ scope) :
      Entries.named? (s.entriesIn scope) name = none := by
    cases hnamed : Entries.named? (s.entriesIn scope) name with
    | none => rfl
    | some v => exact absurd (h.placed scope name (by simp [hnamed])) hne
  have hvars : s.handlerVars .none =
      Entries.merge (Entries.merge (s.entriesIn .globals) (s.entriesIn .locals)) (s.entriesIn .volatiles) := rfl
  rw [hvars, Entries.named?_merge (h.distinct _), Entries.named?_merge (h.distinct _)]
  cases hscope : variableScope name with
  | volatiles => simp [hother .locals (by simp [hscope]), hother .globals (by simp [hscope])]
  | globals => simp [hother .locals (by simp [hscope]), hother .volatiles (by simp [hscope])]
  | locals => simp [hother .volatiles (by simp [hscope]), hother .globals (by simp [hscope])]

theorem named?_handlerVars_of_ne (s : Session) {name : String} (hname : name ≠ "value") (v : Value) :
    Entries.named? (s.handlerVars v) name = Entries.named? (s.handlerVars .none) name := by
  unfold handlerVars
  dsimp only
  cases v.isNone with
  | true => rfl
  | false => exact Entries.named?_put_of_ne hname _ v

private theorem Orderly.named?_assign (h : s.Orderly) (name : String) {v : Value} (hv : v.Owned) (other : String) :
    Entries.named? ((s.assign name v).handlerVars .none) other =
      if name = other then some v else Entries.named? (s.handlerVars .none) other := by
  rw [(h.assign name hv).named?_handlerVars, h.named?_handlerVars, entriesIn_assign]
  by_cases hname : name = other
  · subst hname
    simp [Entries.named?_put_self]
  · rw [if_neg hname]
    split
    · exact Entries.named?_put_of_ne (Ne.symm hname) _ v
    · rfl

theorem Orderly.owned_handlerVars (h : s.Orderly) : ∀ entry ∈ s.handlerVars .none, entry.2.Owned :=
  Entries.forall_merge (Entries.forall_merge (h.owned .globals) (h.owned .locals)) (h.owned .volatiles)

/-! ## Setting -/

theorem Orderly.after_setAll (h : s.Orderly) {entries : Entries} (howned : ∀ entry ∈ entries, entry.2.Owned) :
    (finalState (setAll entries s)).Orderly := by
  induction entries generalizing s with
  | nil => exact h
  | cons entry rest ih =>
    obtain ⟨k, v⟩ := entry
    obtain ⟨hfirst, hrest⟩ := List.forall_mem_cons.mp howned
    rw [setAll_cons, setOne_eq]
    cases k.text? with
    | none => exact h
    | some name =>
      cases hempty : name.isEmpty with
      | true => simpa [hempty, finalState] using h
      | false => simpa [hempty] using ih (h.assign name hfirst) hrest

theorem Orderly.named?_setAll (h : s.Orderly) {entries : Entries} (howned : ∀ entry ∈ entries, entry.2.Owned)
    (hset : Session.setAll entries s = .ok () s') (name : String) :
    Entries.named? (s'.handlerVars .none) name = Entries.named? (Entries.merge (s.handlerVars .none) entries) name := by
  induction entries generalizing s with
  | nil =>
    obtain rfl : s = s' := by
      cases hset
      rfl
    rfl
  | cons entry rest ih =>
    obtain ⟨k, v⟩ := entry
    obtain ⟨hfirst, hrest⟩ := List.forall_mem_cons.mp howned
    rw [setAll_cons, setOne_eq] at hset
    cases hk : k.text? with
    | none =>
      rw [hk] at hset
      cases hset
    | some own =>
      rw [hk] at hset
      cases hempty : own.isEmpty with
      | true =>
        simp only [hempty, if_true] at hset
        cases hset
      | false =>
        simp only [hempty] at hset
        have hfirst' : Entries.named? ((s.assign own v).handlerVars .none) name =
            Entries.named? (Entries.insert (s.handlerVars .none) k v) name := by
          rw [h.named?_assign own hfirst, Entries.named?_insert, hk]
          simp only [Option.some.injEq]
        exact (ih (h.assign own hfirst) hrest hset).trans (Entries.named?_merge_congr hfirst' rest)

private theorem save_eq_ok {values : Value} (h : save values s = .ok () s') :
    ∃ s₁, (if values.truthy then set values .none else pure ()) s = .ok () s₁ ∧
      s' = s₁.record (.saved ⟨s₁.globals, s₁.locals⟩) := by
  cases hlock : s.locked with
  | true =>
    rw [save_locked values hlock] at h
    cases h
  | false =>
    rw [save_eq values hlock] at h
    generalize (if values.truthy then set values .none else pure () : Effect Unit) s = r at h
    cases r with
    | ok u s₁ =>
      cases h
      exact ⟨s₁, rfl, rfl⟩
    | error e s₁ => cases h

theorem save_object_eq_ok {values : Value} {n : Nat} (hobject : values.IsObject n) (h : save values s = .ok () s') :
    ∃ s₁, setAll (values.mapping?.getD []) s = .ok () s₁ ∧ s' = s₁.record (.saved ⟨s₁.globals, s₁.locals⟩) := by
  obtain ⟨s₁, hset, rfl⟩ := save_eq_ok h
  refine ⟨s₁, ?_, rfl⟩
  obtain ⟨items, rfl⟩ | ⟨entries, rfl⟩ := hobject
  · cases items with
    | nil => exact hset
    | cons => cases hset
  · cases entries with
    | nil => exact hset
    | cons entry rest =>
      have hentries : set (.dict (.object n) (entry :: rest)) .none s = setAll (entry :: rest) s := set_eq_setAll _ _ s
      exact hentries.symm.trans hset

theorem entriesIn_record (s : Session) (event : SessionEvent) (scope : VariableScope) :
    (s.record event).entriesIn scope = s.entriesIn scope := by
  cases scope <;> rfl

private theorem setAll_of_names (h : ∀ entry ∈ entries, ∃ name, entry.1 = .str name ∧ name ≠ "") (s : Session) :
    ∃ s', setAll entries s = .ok () s' ∧ ∀ scope name, Entries.named? (s'.entriesIn scope) name =
      if variableScope name = scope then Entries.named? (Entries.merge (s.entriesIn scope) entries) name
      else Entries.named? (s.entriesIn scope) name := by
  induction entries generalizing s with
  | nil => exact ⟨s, rfl, fun scope name => (ite_self _).symm⟩
  | cons entry rest ih =>
    obtain ⟨⟨own, hown, hne⟩, hrest⟩ := List.forall_mem_cons.mp h
    obtain ⟨_, v⟩ := entry
    obtain rfl : _ = Value.str own := hown
    obtain ⟨s', hset, hvars⟩ := ih hrest (s.assign own v)
    refine ⟨s', ?_, fun scope name => ?_⟩
    · rw [setAll_cons, setOne_eq]
      simpa [Value.text?, hne] using hset
    · rw [hvars, entriesIn_assign]
      by_cases hname : variableScope name = scope
      · rw [if_pos hname, if_pos hname]
        refine Entries.named?_merge_congr ?_ rest
        by_cases hscope : variableScope own = scope
        · rw [if_pos hscope]
          rfl
        · have hother : own ≠ name := fun heq => hscope (heq ▸ hname)
          rw [if_neg hscope, Entries.named?_insert, if_neg (by simpa [Value.text?] using hother)]
      · rw [if_neg hname, if_neg hname]
        split
        · rename_i hscope
          have hother : name ≠ own := fun heq => hname (heq ▸ hscope)
          exact Entries.named?_put_of_ne hother _ v
        · rfl

theorem save_of_names (hlocked : s.locked = false) (h : ∀ entry ∈ entries, ∃ name, entry.1 = .str name ∧ name ≠ "")
    (id : Identity) : ∃ s', save (.dict id entries) s = .ok () s' ∧ ∀ scope name,
      Entries.named? (s'.entriesIn scope) name =
        if variableScope name = scope then Entries.named? (Entries.merge (s.entriesIn scope) entries) name
        else Entries.named? (s.entriesIn scope) name := by
  obtain ⟨s', hset, hvars⟩ := setAll_of_names h s
  refine ⟨s'.record (.saved ⟨s'.globals, s'.locals⟩), ?_, fun scope name => by rw [entriesIn_record, hvars]⟩
  have hassign : (if (Value.dict id entries).truthy then set (.dict id entries) .none else pure () : Effect Unit) s =
      .ok () s' := by
    rw [← hset]
    cases entries with
    | nil => rfl
    | cons entry rest => exact set_eq_setAll (.dict id (entry :: rest)) .none s
  rw [save_eq _ hlocked, hassign]

/-! ## Effects that leave variables alone -/

/-- The second session has the variables of the first one, and nothing was saved in between. -/
structure SameVariables (s s' : Session) : Prop where
  entriesIn : ∀ scope, s'.entriesIn scope = s.entriesIn scope
  saves : s'.saves = s.saves

theorem SameVariables.refl (s : Session) : s.SameVariables s := ⟨fun _ => rfl, rfl⟩

theorem SameVariables.trans {s₁ : Session} (h : s.SameVariables s₁) (h' : s₁.SameVariables s') : s.SameVariables s' :=
  ⟨fun scope => (h'.entriesIn scope).trans (h.entriesIn scope), h'.saves.trans h.saves⟩

theorem SameVariables.handlerVars (h : s.SameVariables s') (v : Value) : s'.handlerVars v = s.handlerVars v := by
  have hglobals : s'.globals = s.globals := h.entriesIn .globals
  have hlocals : s'.locals = s.locals := h.entriesIn .locals
  have hvolatiles : s'.volatiles = s.volatiles := h.entriesIn .volatiles
  rw [Session.handlerVars, hglobals, hlocals, hvolatiles, Session.handlerVars]

theorem sameVariables_record (event : SessionEvent) (h : ∀ snapshot, event ≠ .saved snapshot) (s : Session) :
    s.SameVariables (s.record event) := by
  refine ⟨entriesIn_record s event, ?_⟩
  cases event with
  | saved snapshot => exact absurd rfl (h snapshot)
  | _ => simp [record, Session.saves]

private theorem sameVariables_lock (s : Session) : s.SameVariables { s with locked := true } :=
  ⟨fun scope => by cases scope <;> rfl, rfl⟩

theorem send_sameVariables (message : Value) (s : Session) : s.SameVariables (finalState (send message s)) := by
  cases hlock : s.locked with
  | true =>
    rw [send_locked message hlock]
    exact .refl s
  | false =>
    rw [send_eq message hlock]
    cases posted message with
    | ok sent => exact sameVariables_record (.sent sent) (fun _ h => by cases h) s
    | error e => exact .refl s

theorem start_sameVariables (dialog tag locals : Value) (s : Session) :
    s.SameVariables (finalState (start dialog tag locals s)) := by
  cases hlock : s.locked with
  | true =>
    rw [start, transfer_locked _ hlock]
    exact .refl s
  | false =>
    rw [start_eq dialog tag locals hlock]
    cases newFrame dialog tag locals with
    | error e => exact .refl s
    | ok frame =>
      dsimp only
      split
      · exact .refl s
      · exact s.sameVariables_lock.trans (sameVariables_record (.started frame) (fun _ h => by cases h) _)

theorem finish_sameVariables (result : Value) (s : Session) : s.SameVariables (finalState (finish result s)) := by
  cases hlock : s.locked with
  | true =>
    rw [finish, transfer_locked _ hlock]
    exact .refl s
  | false =>
    rw [finish_eq result hlock]
    split
    · exact .refl s
    · exact s.sameVariables_lock.trans (sameVariables_record (.finished result) (fun _ h => by cases h) _)

/-! ## Sessions that were only ever set -/

/-- Sessions whose variables were all written by setting and saving them, from empty scopes on and also in earlier
requests. What is set consists of objects that have their identity. -/
inductive Written : Session → Prop where
  | empty {s : Session} (globals : s.globals = []) (locals : s.locals = []) (volatiles : s.volatiles = []) : Written s
  | set {s : Session} (before : Written s) (name value : Value) (owned : ∀ entry ∈ assigned name value, entry.2.Owned) :
      Written (finalState (Session.set name value s))
  | save {s : Session} (before : Written s) (values : Value) (owned : ∀ entry ∈ assigned values .none, entry.2.Owned) :
      Written (finalState (Session.save values s))
  /-- Other effects do not write variables. -/
  | other {s s' : Session} (before : Written s) (globals : s'.globals = s.globals) (locals : s'.locals = s.locals)
      (volatiles : s'.volatiles = s.volatiles) : Written s'
  /-- The next request has the variables but the volatile ones. -/
  | successor {s : Session} (before : Written s) : Written s.successor

theorem Written.orderly (h : s.Written) : s.Orderly := by
  induction h with
  | @empty s globals locals volatiles =>
    have hempty (scope : VariableScope) : s.entriesIn scope = [] := by cases scope <;> assumption
    refine ⟨fun scope name hname => ?_, fun scope => ?_, fun scope => ?_⟩
    · rw [hempty] at hname
      exact absurd rfl hname
    · rw [hempty]
      exact List.Pairwise.nil
    · rw [hempty]
      nofun
  | @set s before name value owned ih =>
    rw [set_eq_setAll]
    exact ih.after_setAll owned
  | @save s before values owned ih =>
    have hset : (finalState (Session.set values .none s)).Orderly := by
      rw [set_eq_setAll]
      exact ih.after_setAll owned
    cases hlock : s.locked with
    | true =>
      rw [save_locked values hlock]
      exact ih
    | false =>
      rw [save_eq values hlock]
      cases values.truthy with
      | false => exact ih.of_entriesIn fun scope => entriesIn_record s _ scope
      | true =>
        simp only [if_true]
        cases hr : Session.set values .none s with
        | ok u s₁ =>
          rw [hr] at hset
          exact hset.of_entriesIn fun scope => entriesIn_record s₁ _ scope
        | error e s₁ =>
          rw [hr] at hset
          exact hset
  | other before globals locals volatiles ih =>
    refine ih.of_entriesIn fun scope => ?_
    cases scope with
    | volatiles => exact volatiles
    | globals => exact globals
    | locals => exact locals
  | successor before ih =>
    refine ⟨fun scope name hname => ?_, fun scope => ?_, fun scope => ?_⟩
    · cases scope with
      | volatiles => exact absurd rfl hname
      | globals => exact ih.placed .globals name hname
      | locals => exact ih.placed .locals name hname
    · cases scope with
      | volatiles => exact List.Pairwise.nil
      | globals => exact ih.distinct .globals
      | locals => exact ih.distinct .locals
    · cases scope with
      | volatiles => nofun
      | globals => exact ih.owned .globals
      | locals => exact ih.owned .locals

/-! ## What was saved -/

/-- The variables that were saved last since an earlier moment; those of that moment if none were saved. -/
def lastSaved (before after : Session) : Snapshot :=
  (after.saves.drop before.saves.length).getLast?.getD ⟨before.globals, before.locals⟩

/-- A fresh session with the variables that were saved last, their values as they were in the heap of the save. -/
def rebuilt (heap : Heap) (before after : Session) : Session :=
  { after.successor with
    globals := (lastSaved before after).globals.mapValues heap.current
    locals := (lastSaved before after).locals.mapValues heap.current }

/-- Whatever was set since an earlier moment was saved, too. -/
structure Persisted (before after : Session) : Prop where
  saves : before.saves <+: after.saves
  globals : after.globals = (lastSaved before after).globals
  locals : after.locals = (lastSaved before after).locals

theorem Persisted.refl (s : Session) : s.Persisted s := by
  refine ⟨List.prefix_refl _, ?_, ?_⟩ <;> simp [lastSaved]

theorem Persisted.keep {before : Session} (h : before.Persisted s) (hsaves : s'.saves = s.saves)
    (hglobals : s'.globals = s.globals) (hlocals : s'.locals = s.locals) : before.Persisted s' := by
  have hlast : lastSaved before s' = lastSaved before s := by rw [lastSaved, hsaves, lastSaved]
  exact ⟨hsaves ▸ h.saves, hlast ▸ hglobals.trans h.globals, hlast ▸ hlocals.trans h.locals⟩

theorem Persisted.saved {before : Session} (h : before.saves <+: s.saves) :
    before.Persisted (s.record (.saved ⟨s.globals, s.locals⟩)) := by
  obtain ⟨new, hnew⟩ := h
  have hsaves : (s.record (.saved ⟨s.globals, s.locals⟩)).saves = s.saves ++ [⟨s.globals, s.locals⟩] := by
    simp [record, Session.saves]
  have hlast : lastSaved before (s.record (.saved ⟨s.globals, s.locals⟩)) = ⟨s.globals, s.locals⟩ := by
    rw [lastSaved, hsaves, ← hnew, List.append_assoc, List.drop_left]
    simp
  refine ⟨?_, by rw [hlast]; rfl, by rw [hlast]; rfl⟩
  rw [hsaves, ← hnew, List.append_assoc]
  exact List.prefix_append _ _

/-- A session that is rebuilt from what was saved shows handlers the same, but for volatile variables, with the values
of that moment. -/
theorem Persisted.named?_rebuilt {before : Session} (h : before.Persisted s) (horderly : s.Orderly) (heap : Heap)
    {name : String} (hname : variableScope name ≠ .volatiles) :
    Entries.named? ((rebuilt heap before s).handlerVars .none) name =
      (Entries.named? (s.handlerVars .none) name).map heap.current := by
  have hrebuilt : (rebuilt heap before s).handlerVars .none =
      Entries.merge (s.globals.mapValues heap.current) (s.locals.mapValues heap.current) := by
    rw [h.globals, h.locals]
    rfl
  have hvars : s.handlerVars .none = Entries.merge (Entries.merge s.globals s.locals) s.volatiles := rfl
  have hvolatile : Entries.named? s.volatiles name = none := by
    cases hnamed : Entries.named? s.volatiles name with
    | none => rfl
    | some v =>
      have hsome : Entries.named? (s.entriesIn .volatiles) name ≠ none := by simp [entriesIn, hnamed]
      exact absurd (horderly.placed .volatiles name hsome) hname
  have hlocals : s.locals.Distinct := horderly.distinct .locals
  have hvolatiles : s.volatiles.Distinct := horderly.distinct .volatiles
  rw [hrebuilt, hvars, Entries.named?_merge hvolatiles, hvolatile, Option.none_or, Entries.named?_merge hlocals,
    Entries.named?_merge (Entries.distinct_mapValues.mpr hlocals), Entries.named?_mapValues, Entries.named?_mapValues,
    Option.map_or]

end Session

end Colloquy
