import Colloquy.Run.Expand
import Colloquy.Proofs.Template.Contract

/-!
# Contracts of expansions

Whatever a parameter holds, its expansion keeps to the contract of the functions of the application: in
each of its rounds, and also where it fails and leaves elements that are still going.
-/

namespace Colloquy

open Run

variable {c : Contract}

/-- A failure that is kept as a value is one that the contract allows. -/
def Contract.Grants {α : Type} (c : Contract) (result : Except Error α) : Prop :=
  ∀ e, result = .error e → c.stops e

private theorem Contract.grants_ok {α : Type} (c : Contract) (a : α) : c.Grants (.ok a) := nofun

private theorem Contract.grants_error {α : Type} {e : Error} (h : c.stops e) : c.Grants
    (.error e : Except Error α) := by
  rintro _ ⟨⟩
  exact h

mutual

/-- All failures in an expansion are ones that a contract allows. -/
def Task.Lawful (c : Contract) : Task → Prop
  | .fresh _ => True
  | .group _ _ settled elements => (∀ result, settled = some result → c.Grants result) ∧ AllLawful c elements
  | .ended result _ orphans => c.Grants result ∧ AllLawful c orphans

/-- All failures in several expansions are ones that a contract allows. -/
def AllLawful (c : Contract) : List Task → Prop
  | [] => True
  | t :: ts => t.Lawful c ∧ AllLawful c ts

end

namespace Expander

variable {x : Expander}

private theorem allLawful_fresh (params : List Value) : AllLawful c (params.map Task.fresh) := by
  induction params with
  | nil => trivial
  | cons param rest ih => exact ⟨trivial, ih⟩

private theorem ensures_outcome {α : Type} {r : Run α} (h : Meets c r) : Ensures c c.Grants (outcome r) := by
  intro w hw
  have hr := h w hw
  unfold outcome
  cases hresult : r w with
  | ok a w' =>
    rw [hresult] at hr
    exact ⟨hr.1, c.grants_ok a⟩
  | error e w' =>
    rw [hresult] at hr
    exact ⟨hr.1, c.grants_error hr.2⟩

private theorem grants_settle {elements : List Task} (h : AllLawful c elements) {result : Except Error Unit}
    (hsettle : settle elements = some result) : c.Grants result := by
  induction elements generalizing result with
  | nil =>
    obtain rfl : Except.ok () = result := by simpa [settle] using hsettle
    exact c.grants_ok ()
  | cons t rest ih =>
    have hrest {e : Error} (he : settle rest = some (.error e)) : c.stops e := ih h.2 he e rfl
    unfold settle at hsettle
    split at hsettle
    · rename_i heq
      cases heq
    · rename_i heq
      obtain ⟨rfl, -⟩ := List.cons.inj heq
      cases hsettle
      exact c.grants_error (h.1.1 _ rfl)
    · rename_i heq
      obtain ⟨-, rfl⟩ := List.cons.inj heq
      exact ih h.2 hsettle
    · rename_i heq
      obtain ⟨-, rfl⟩ := List.cons.inj heq
      split at hsettle
      · rename_i he
        cases hsettle
        exact c.grants_error (hrest he)
      · cases hsettle

section Steps

variable (happ : x.app.Meets c)
include happ

private theorem meets_execute (name : String) (args : Value) : Meets c (x.execute name args) := by
  refine (meets_current args).bind fun args => ?_
  split
  · refine (meets_current x.vars).bind fun vars => ?_
    cases vars.mapping? with
    | none => exact .fault _
    | some vars => exact meets_executeHandler happ x.handlers _ _
  · exact .throw (c.ordinary rfl)

private theorem meets_resume (v : Value) (after : List Expansion) : Meets c (x.resume v after) := by
  induction after generalizing v with
  | nil => exact .pure v
  | cons expansion rest ih =>
    cases expansion with
    | negate => exact (meets_current v).bind fun _ => ih _
    | execute name => exact (meets_store v).bind fun v => (meets_execute happ name v).bind fun v => ih v

private theorem ensures_ended (after : List Expansion) {r : Run Value} (hr : Meets c r) :
    Ensures c (Task.Lawful c) (x.ended after r) := by
  refine (ensures_outcome (hr.bind fun v => meets_resume happ v after)).bind fun result hresult => ?_
  exact .pure ⟨hresult, trivial⟩

private theorem ensures_gather (collection : Collection) (after : List Expansion) (params : List Value) :
    Ensures c (Task.Lawful c) (x.gather collection after params) := by
  unfold gather
  split
  · exact ensures_ended happ after (.pure _)
  · exact .pure ⟨nofun, allLawful_fresh params⟩

private theorem ensures_begin (fuel : Nat) (after : List Expansion) (param : Value) :
    Ensures c (Task.Lawful c) (x.begin fuel after param) := by
  induction fuel generalizing after param with
  | zero => exact .throw (c.ordinary rfl)
  | succ fuel ih =>
    unfold begin
    dsimp only
    split
    · exact ih _ _
    · exact ensures_gather happ _ _ _
    · exact ensures_gather happ _ _ _
    · split
      · split
        · exact ensures_ended happ after (.throw (c.ordinary rfl))
        · split
          · exact ensures_ended happ after (meets_execute happ _ _)
          · exact ih _ _
      · exact ensures_gather happ _ _ _
    · split
      · exact ensures_ended happ after (Template.meets_renderText happ _ _)
      · split
        · exact ensures_ended happ after (meets_callHandler happ _ _ _ _)
        · exact ensures_ended happ after (.pure _)

private theorem ensures_start (param : Value) : Ensures c (Task.Lawful c) (x.start param) :=
  Ensures.bind (meets_current param) fun _ _ => ensures_begin happ _ _ _

private theorem ensures_finish (collection : Collection) (after : List Expansion) {settled : Except Error Unit}
    (hsettled : c.Grants settled) {elements : List Task} (helements : AllLawful c elements) :
    Ensures c (Task.Lawful c) (x.finish collection after settled elements) := by
  cases settled with
  | error e => exact .pure ⟨c.grants_error (hsettled e rfl), helements⟩
  | ok => exact ensures_ended happ after (.pure _)

omit happ

mutual

private theorem ensures_round (happ : x.app.Meets c) (t : Task) (ht : t.Lawful c) :
    Ensures c (Task.Lawful c) (x.round t) := by
  match t with
  | .fresh param => exact ensures_start happ param
  | .group collection after none elements =>
    refine (ensures_roundAll happ elements ht.2).bind fun elements helements => ?_
    exact .pure ⟨fun result => grants_settle helements, helements⟩
  | .group collection after (some settled) elements =>
    refine (ensures_roundAll happ elements ht.2).bind fun elements helements => ?_
    exact ensures_finish happ collection after (ht.1 settled rfl) helements
  | .ended result heard orphans =>
    exact (ensures_roundAll happ orphans ht.2).bind fun orphans horphans => .pure ⟨ht.1, horphans⟩

private theorem ensures_roundAll (happ : x.app.Meets c) (ts : List Task) (hts : AllLawful c ts) :
    Ensures c (AllLawful c) (x.roundAll ts) := by
  match ts with
  | [] => exact .pure trivial
  | t :: rest =>
    refine (ensures_round happ t hts.1).bind fun t ht => ?_
    exact (ensures_roundAll happ rest hts.2).bind fun rest hrest => .pure ⟨ht, hrest⟩

end

variable (happ : x.app.Meets c)
include happ

private theorem meets_complete (fuel : Nat) (t : Task) (ht : t.Lawful c) : Meets c (x.complete fuel t) := by
  induction fuel generalizing t with
  | zero => exact .fault _
  | succ fuel ih =>
    unfold complete
    split
    · exact .pure _
    · exact (ensures_roundAll happ _ ht.2).bind fun _ _ => .throw (ht.1 _ rfl)
    · exact (ensures_round happ t ht).bind fun t ht => ih t ht

theorem meets_expand (param : Value) : Meets c (x.expand param) := by
  refine (meets_current param).bind fun _ => ?_
  exact (ensures_start happ param).bind fun t ht => meets_complete happ _ t ht

theorem meets_expandGiven (param : Value) : Meets c (x.expandGiven param) := by
  unfold expandGiven
  split
  · exact .pure _
  · exact meets_expand happ param

private theorem meets_expandAll (params : List Value) : Meets c (x.expandAll params) := by
  refine (meets_current _).bind fun _ => (ensures_gather happ _ _ params).bind fun t ht => ?_
  refine (meets_complete happ _ t ht).bind fun v => ?_
  cases v <;> exact .pure _

theorem meets_exec (param : Value) : Meets c (x.exec param) := by
  refine (meets_current param).bind fun param => ?_
  cases param with
  | dict id entries =>
    dsimp only
    split
    · exact meets_expand happ _
    · exact .fault _
  | _ => exact .fault _

omit happ in
private theorem meets_assignments (key value : Value) : Meets c (assignments key value) := by
  unfold assignments
  split
  · split
    · exact .pure _
    · refine (meets_current value).bind fun value => .mapM fun name _ => ?_
      exact (Meets.ofOutcome _).map _
  · split
    · exact .pure _
    · refine (meets_current value).bind fun value => .mapM fun name _ => ?_
      exact (Meets.ofOutcome _).map _
  · exact .fault _
  · exact .fault _

theorem meets_expandSet (param : Value) : Meets c (x.expandSet param) := by
  refine (meets_current param).bind fun param => (Meets.ofOutcome _).bind fun keys => ?_
  refine (Meets.mapM fun _ _ => .ofOutcome _).bind fun params => (meets_expandAll happ params).bind fun values => ?_
  exact (Meets.mapM fun _ _ => meets_assignments _ _).bind fun _ => meets_store _

end Steps

end Expander

end Colloquy
