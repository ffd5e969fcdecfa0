import Colloquy.Proofs.Session.Variables

/-!
# Sessions read their own writes

A variable is written to the scope that its name tells, but it is read from the first scope that binds it. Writing
never touches the scopes in front of the variable's own, so what was assigned last is what is read, unless the
session came with such a binding: that one is read however often the variable is set.
-/

namespace Colloquy

/-- Scopes whose variables hide those of a scope. -/
def VariableScope.inFront : VariableScope → List VariableScope
  | .volatiles => []
  | .locals => [.volatiles]
  | .globals => [.volatiles, .locals]

namespace Session

variable {s : Session} {name : String}

/-- What hides a variable: the binding of its name in a scope in front of its own. -/
def hiding? (s : Session) (name : String) : Option Value :=
  (variableScope name).inFront.findSome? fun scope => Entries.named? (s.entriesIn scope) name

private theorem get?_eq_findSome? (s : Session) (name : String) :
    s.get? (.str name) =
      [VariableScope.volatiles, .locals, .globals].findSome? fun scope => Entries.named? (s.entriesIn scope) name := by
  simp only [List.findSome?_cons, List.findSome?_nil]
  unfold get? Entries.named? entriesIn
  cases Entries.get? s.volatiles (.str name) <;> cases Entries.get? s.locals (.str name) <;>
    cases Entries.get? s.globals (.str name) <;> rfl

private theorem named?_handlerVars (hdistinct : ∀ scope, (s.entriesIn scope).Distinct) (name : String) :
    Entries.named? (s.handlerVars .none) name = s.get? (.str name) := by
  have hvars : s.handlerVars .none =
      Entries.merge (Entries.merge (s.entriesIn .globals) (s.entriesIn .locals)) (s.entriesIn .volatiles) := rfl
  rw [hvars, Entries.named?_merge (hdistinct _), Entries.named?_merge (hdistinct _)]
  rfl

private theorem get_str (s : Session) (name : String) (default : Value) :
    s.get (.str name) default = .ok ((s.get? (.str name)).getD default) := rfl

/-! ## One assignment -/

private theorem named?_entriesIn_assign (s : Session) (own : String) (v : Value) (scope : VariableScope)
    (name : String) :
    Entries.named? ((s.assign own v).entriesIn scope) name =
      if own = name ∧ variableScope name = scope then some v else Entries.named? (s.entriesIn scope) name := by
  rw [entriesIn_assign]
  by_cases hname : own = name
  · subst hname
    by_cases hscope : variableScope own = scope
    · simp [hscope, Entries.named?_put_self]
    · simp [hscope]
  · simp only [hname, false_and, if_false]
    split
    · exact Entries.named?_put_of_ne (Ne.symm hname) _ v
    · rfl

private theorem distinct_assign (hdistinct : ∀ scope, (s.entriesIn scope).Distinct) (own : String) (v : Value)
    (scope : VariableScope) : ((s.assign own v).entriesIn scope).Distinct := by
  rw [entriesIn_assign]
  split
  · exact (hdistinct scope).insert _ _
  · exact hdistinct scope

private theorem hiding?_assign (s : Session) (own : String) (v : Value) (name : String) :
    (s.assign own v).hiding? name = s.hiding? name := by
  unfold hiding?
  cases hscope : variableScope name <;>
    simp [VariableScope.inFront, named?_entriesIn_assign, hscope, List.findSome?_cons]

private theorem get?_eq_or (s : Session) (name : String) :
    s.get? (.str name) =
      (s.hiding? name).or ((Entries.named? (s.entriesIn (variableScope name)) name).or (s.get? (.str name))) := by
  rw [get?_eq_findSome?]
  unfold hiding?
  cases variableScope name <;> simp only [VariableScope.inFront, List.findSome?_cons, List.findSome?_nil] <;>
    cases Entries.named? (s.entriesIn .volatiles) name <;> cases Entries.named? (s.entriesIn .locals) name <;>
      cases Entries.named? (s.entriesIn .globals) name <;> rfl

private theorem get?_assign (s : Session) (own : String) (v : Value) (name : String) :
    (s.assign own v).get? (.str name) =
      if own = name then (s.hiding? name).or (some v) else s.get? (.str name) := by
  by_cases hname : own = name
  · subst hname
    rw [get?_eq_or, hiding?_assign, named?_entriesIn_assign]
    simp
  · simp only [get?_eq_findSome?, named?_entriesIn_assign, hname, false_and, if_false]

/-! ## Many assignments -/

def assignAll (s : Session) (log : List (String × Value)) : Session :=
  log.foldl (fun s (own, v) => s.assign own v) s

def lastAssigned (log : List (String × Value)) (name : String) : Option Value := log.reverse.lookup name

private theorem lastAssigned_cons (own : String) (v : Value) (log : List (String × Value)) (name : String) :
    lastAssigned ((own, v) :: log) name = (lastAssigned log name).or (if own = name then some v else none) := by
  unfold lastAssigned
  rw [List.reverse_cons, List.lookup_append, List.lookup_cons, List.lookup_nil]
  by_cases hname : own = name
  · simp [hname]
  · have hne : (name == own) = false := by simpa using Ne.symm hname
    simp [hname, hne]

private theorem get?_assignAll (s : Session) (log : List (String × Value)) (name : String) :
    (s.assignAll log).get? (.str name) =
      match lastAssigned log name with
      | some v => (s.hiding? name).or (some v)
      | none => s.get? (.str name) := by
  induction log generalizing s with
  | nil => rfl
  | cons entry rest ih =>
    obtain ⟨own, v⟩ := entry
    have hrest : s.assignAll ((own, v) :: rest) = (s.assign own v).assignAll rest := rfl
    rw [hrest, ih, lastAssigned_cons, hiding?_assign, get?_assign]
    by_cases hname : own = name <;> cases lastAssigned rest name <;> simp [hname]

private theorem distinct_assignAll (hdistinct : ∀ scope, (s.entriesIn scope).Distinct) (log : List (String × Value))
    (scope : VariableScope) : ((s.assignAll log).entriesIn scope).Distinct := by
  induction log generalizing s with
  | nil => exact hdistinct scope
  | cons entry rest ih => exact ih (distinct_assign hdistinct entry.1 entry.2)

/-! ## Setting and saving -/

/-- The variables that setting entries assigns: those in front of the first one whose name is none. -/
def assignments : Entries → List (String × Value)
  | [] => []
  | (k, v) :: rest =>
    match k.text? with
    | some own => if own.isEmpty then [] else (own, v) :: assignments rest
    | none => []

private theorem finalState_setAll (entries : Entries) (s : Session) :
    finalState (setAll entries s) = s.assignAll (assignments entries) := by
  induction entries generalizing s with
  | nil => rfl
  | cons entry rest ih =>
    obtain ⟨k, v⟩ := entry
    rw [setAll_cons, setOne_eq]
    unfold assignments
    cases k.text? with
    | none => rfl
    | some own =>
      cases hempty : own.isEmpty with
      | true => simp [hempty, finalState, assignAll]
      | false =>
        simp only [hempty]
        exact ih (s.assign own v)

/-- A call that writes variables of a session. -/
inductive Write where
  | set (name value : Value)
  | save (values : Value)

namespace Write

def perform : Write → Effect Unit
  | .set name value => Session.set name value
  | .save values => Session.save values

/-- What the call assigns in a session that is not locked, in order. -/
def assignments : Write → List (String × Value)
  | .set name value => Session.assignments (assigned name value)
  | .save values => if values.truthy then Session.assignments (assigned values .none) else []

private theorem finalState_perform (write : Write) (hlock : s.locked = false) :
    (finalState (write.perform s)).locked = false ∧
      ∀ scope, (finalState (write.perform s)).entriesIn scope = (s.assignAll write.assignments).entriesIn scope := by
  have hset (name value : Value) : (finalState (Session.set name value s)).locked = false := by
    have hassigns := assigns_set name value s
    cases hr : Session.set name value s with
    | ok u s' =>
      rw [hr] at hassigns
      exact hassigns.locked.trans hlock
    | error e s' =>
      rw [hr] at hassigns
      exact hassigns.1.locked.trans hlock
  cases write with
  | set name value =>
    refine ⟨hset name value, fun scope => ?_⟩
    rw [perform, set_eq_setAll, finalState_setAll]
    rfl
  | save values =>
    have hassign := finalState_setAll (assigned values .none) s
    rw [← set_eq_setAll] at hassign
    simp only [perform, assignments, save_eq values hlock]
    cases values.truthy with
    | false => exact ⟨hlock, entriesIn_record s _⟩
    | true =>
      have hlocked := hset values .none
      simp only [if_true, ← hassign]
      cases hr : Session.set values .none s with
      | ok u s' =>
        rw [hr] at hlocked
        exact ⟨hlocked, entriesIn_record s' _⟩
      | error e s' =>
        rw [hr] at hlocked
        exact ⟨hlocked, fun _ => rfl⟩

end Write

/-- The session after a sequence of calls, whether they fail or not. -/
def performAll (s : Session) (writes : List Write) : Session :=
  writes.foldl (fun s write => finalState (write.perform s)) s

private theorem assignAll_congr {s' : Session} (h : ∀ scope, s'.entriesIn scope = s.entriesIn scope)
    (log : List (String × Value)) (scope : VariableScope) :
    (s'.assignAll log).entriesIn scope = (s.assignAll log).entriesIn scope := by
  induction log generalizing s s' with
  | nil => exact h scope
  | cons entry rest ih =>
    refine ih fun scope => ?_
    rw [entriesIn_assign, entriesIn_assign, h]

private theorem entriesIn_performAll (hlock : s.locked = false) (writes : List Write) (scope : VariableScope) :
    (s.performAll writes).entriesIn scope = (s.assignAll (writes.flatMap (·.assignments))).entriesIn scope := by
  induction writes generalizing s with
  | nil => rfl
  | cons write rest ih =>
    obtain ⟨hlocked, hentries⟩ := write.finalState_perform hlock
    have hall : s.assignAll ((write :: rest).flatMap (·.assignments)) =
        (s.assignAll write.assignments).assignAll (rest.flatMap (·.assignments)) := by
      simp [assignAll]
    exact (ih hlocked).trans ((assignAll_congr hentries _ scope).trans (by rw [hall]))

/-- What is read after a sequence of calls: the value that was assigned last, unless the variable is hidden. -/
theorem get?_performAll (hlock : s.locked = false) (writes : List Write) (name : String) :
    (s.performAll writes).get? (.str name) =
      match lastAssigned (writes.flatMap (·.assignments)) name with
      | some v => (s.hiding? name).or (some v)
      | none => s.get? (.str name) := by
  rw [← get?_assignAll, get?_eq_findSome?, get?_eq_findSome?]
  simp only [entriesIn_performAll hlock]

private theorem distinct_performAll (hlock : s.locked = false) (hdistinct : ∀ scope, (s.entriesIn scope).Distinct)
    (writes : List Write) (scope : VariableScope) : ((s.performAll writes).entriesIn scope).Distinct := by
  rw [entriesIn_performAll hlock]
  exact distinct_assignAll hdistinct _ scope

private theorem locked_of_make {id globals frame volatiles : Value} (h : make id globals frame volatiles = .ok s) :
    s.locked = false := by
  unfold make at h
  simp only [bind, Except.bind, pure, Except.pure] at h
  split at h
  · cases h
  split at h
  · cases h
  split at h
  · cases h
  split at h
  · cases h
  split at h
  · cases h
  cases h
  rfl

/-- Whatever a session was made from and however it is written: what was assigned last to a variable is what the
session and its handlers read, unless the session was made with a binding that hides the variable. Then that binding
is what they read. A variable that is not assigned keeps its value. The mappings that the session is made from hold no
name twice. -/
theorem sessions_read_their_writes {id globals frame volatiles : Value}
    (hmade : make id globals frame volatiles = .ok s) (hdistinct : ∀ scope, (s.entriesIn scope).Distinct)
    (writes : List Write) (name : String) (default : Value) :
    (∀ v, lastAssigned (writes.flatMap (·.assignments)) name = some v → s.hiding? name = none →
      (s.performAll writes).get (.str name) default = .ok v ∧
        Entries.named? ((s.performAll writes).handlerVars .none) name = some v) ∧
    (∀ own, s.hiding? name = some own →
      (s.performAll writes).get (.str name) default = .ok own ∧
        Entries.named? ((s.performAll writes).handlerVars .none) name = some own) ∧
    (lastAssigned (writes.flatMap (·.assignments)) name = none →
      (s.performAll writes).get (.str name) default = s.get (.str name) default ∧
        Entries.named? ((s.performAll writes).handlerVars .none) name = Entries.named? (s.handlerVars .none) name) := by
  have hlock := locked_of_make hmade
  have hread := get?_performAll hlock writes name
  rw [named?_handlerVars (distinct_performAll hlock hdistinct writes), named?_handlerVars hdistinct, get_str, get_str]
  refine ⟨fun v hlast hfree => ?_, fun own hown => ?_, fun hlast => ?_⟩
  · have hv : (s.performAll writes).get? (.str name) = some v := by simpa [hlast, hfree] using hread
    exact ⟨by rw [hv]; rfl, hv⟩
  · have hv : (s.performAll writes).get? (.str name) = some own := by
      have hbefore : s.get? (.str name) = some own := by rw [get?_eq_or, hown, Option.some_or]
      rw [hread]
      split
      · rw [hown, Option.some_or]
      · exact hbefore
    exact ⟨by rw [hv]; rfl, hv⟩
  · have hv : (s.performAll writes).get? (.str name) = s.get? (.str name) := by simpa [hlast] using hread
    exact ⟨by rw [hv], hv⟩

/-- A session whose frame was started with a variable that is spelled like a global one. -/
def capitalized : Session := { id := .str "s1", locals := [(.str "Name", .int 1)] }

private theorem make_capitalized :
    make (.str "s1") .none (.dict .anonymous [(.str "locals", .dict .anonymous [(.str "Name", .int 1)])]) .none =
      .ok capitalized := by
  have hframe (name : String) (v : Value) :
      Entries.named [(.str "locals", v)] name = if "locals" = name then v else .none := by
    rw [Entries.named, Entries.named?_cons]
    split <;> simp_all [Value.text?, Entries.named?, Entries.get?, Value.ofOption]
  simp [make, givenMapping, entriesOf, Value.truthy, hframe, capitalized, bind, Except.bind, pure, Except.pure]

private theorem distinct_capitalized (scope : VariableScope) : (capitalized.entriesIn scope).Distinct := by
  cases scope
  · exact List.Pairwise.nil
  · exact List.Pairwise.nil
  · exact List.pairwise_singleton _ _

theorem capitalized_reads_its_writes :
    (capitalized.performAll [.set (.str "count") (.int 2), .save (.dict .anonymous [(.str "count", .int 3)])]).get
      (.str "count") .none = .ok (.int 3) :=
  ((sessions_read_their_writes make_capitalized distinct_capitalized
    [.set (.str "count") (.int 2), .save (.dict .anonymous [(.str "count", .int 3)])] "count" .none).1
    (.int 3) rfl rfl).1

/-- A local variable that the session was made with hides a global one: what is written to that is not read. -/
theorem hidden_writes_are_not_read :
    ¬ ∀ (id globals frame volatiles : Value) (s : Session), make id globals frame volatiles = .ok s →
      (∀ scope, (s.entriesIn scope).Distinct) → ∀ (writes : List Write) (name : String) (v : Value),
        lastAssigned (writes.flatMap (·.assignments)) name = some v →
          (s.performAll writes).get (.str name) .none = .ok v ∧
            Entries.named? ((s.performAll writes).handlerVars .none) name = some v := by
  intro h
  have hhidden : capitalized.hiding? "Name" = some (.int 1) := by
    have hscope : variableScope "Name" = .globals := by decide
    have hlocals : Entries.named? capitalized.locals "Name" = some (.int 1) := by
      rw [capitalized, Entries.named?_cons]
      rfl
    have hvolatiles : Entries.named? capitalized.volatiles "Name" = none := rfl
    simp only [hiding?, hscope, VariableScope.inFront, List.findSome?_cons, entriesIn, hvolatiles, hlocals]
  have hread := (h _ _ _ _ _ make_capitalized distinct_capitalized [.set (.str "Name") (.int 2)] "Name" (.int 2) rfl).1
  rw [get_str, get?_performAll rfl] at hread
  simp [Write.assignments, assigned, assignments, Value.text?, lastAssigned, hhidden] at hread

end Session

end Colloquy
