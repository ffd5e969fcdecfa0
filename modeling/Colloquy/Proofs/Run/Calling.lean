import Colloquy.Proofs.Flow.Canonical
import Colloquy.Proofs.Run.Contract

/-!
# Handlers get what their signatures ask for

A call binds if there is neither too much nor too little for the parameters of the function. A value handler is called
with as many of the variables, the session and the path as it has places for; a named handler is called bare, with the
variables as a whole, or with those that are named like its parameters, as its signature tells. So it shows in the
signature alone whether a value handler can be called, and in the signature and the names of the variables whether a
named one can.
-/

namespace Colloquy

namespace Parameter

/-- Whether a call has to bring a value for the parameter. -/
def isRequired (p : Parameter) : Bool := (p.kind == .positional || p.kind == .named) && !p.hasDefault

/-- What a parameter is bound to if a call brings something for it, or nothing. -/
def receive (p : Parameter) : Option Value → Outcome (Option Value)
  | some v => .ok (some v)
  | none => if p.hasDefault then .ok none else .error .wrongType

private theorem receive_eq_ok {p : Parameter} {given taken : Option Value} (h : p.receive given = .ok taken) :
    taken = given := by
  unfold receive at h
  split at h
  · cases h
    rfl
  · split at h <;> cases h
    rfl

private theorem receives_iff {p : Parameter} {given : Option Value} :
    (∃ taken, p.receive given = .ok taken) ↔ given.isSome = true ∨ p.hasDefault = true := by
  unfold receive
  cases given with
  | some v => simp
  | none => cases p.hasDefault <;> simp

end Parameter

namespace Function

/-- What every signature keeps to: no two parameters share a name, and after a positional parameter with a default no
positional one without follows. -/
structure WellFormed (f : Function) : Prop where
  distinct : (f.params.map (·.name)).Nodup
  defaults : f.positionals.Pairwise fun p q => p.hasDefault = true → q.hasDefault = true

def required (f : Function) : List Parameter := f.positionals.filter (!·.hasDefault)

/-- Every parameter that goes by its name alone has a default. -/
def NamedOptional (f : Function) : Prop := ∀ p ∈ f.params, p.kind = .named → p.hasDefault = true

/-- The arguments of a call go with the signature. -/
def Binds (f : Function) (args : Arguments) : Prop := ∃ bound, f.bind args = .ok bound

variable {f : Function} {args : Arguments} {p : Parameter} {i : Nat}

private theorem mem_positionals : p ∈ f.positionals ↔ p ∈ f.params ∧ p.kind = .positional := by
  simp [positionals]

/-! ## One parameter -/

private theorem WellFormed.findIdx_eq (h : f.WellFormed) (hp : f.positionals[i]? = some p) :
    f.positionals.findIdx (·.name == p.name) = i := by
  obtain ⟨hi, rfl⟩ := List.getElem?_eq_some_iff.mp hp
  have hdistinct : (f.positionals.map (·.name)).Nodup := h.distinct.sublist (List.filter_sublist.map _)
  refine (List.findIdx_eq hi).mpr ⟨by simp, fun j hj => ?_⟩
  have hne : f.positionals[j].name ≠ f.positionals[i].name := by
    have hpairs := List.pairwise_iff_getElem.mp hdistinct j i (by simp; omega) (by simpa using hi) hj
    simpa using hpairs
  simpa using hne

private theorem bindOne_eq_error {fault : Fault} (h : f.bindOne args p = .error fault) : fault = .wrongType := by
  unfold bindOne at h
  split at h
  · cases h
  · cases h
  · split at h
    · cases h
    · split at h <;> cases h
      rfl
  · dsimp only at h
    split at h
    · cases h
      rfl
    · cases h
    · cases h
    · split at h <;> cases h
      rfl

private theorem WellFormed.bindOne_given (h : f.WellFormed) (hp : f.positionals[i]? = some p) (given : List Value) :
    f.bindOne ⟨given, []⟩ p = p.receive given[i]? := by
  have hkind := (mem_positionals.mp (List.mem_of_getElem? hp)).2
  unfold bindOne Parameter.receive
  rw [hkind]
  dsimp only
  rw [h.findIdx_eq hp]
  cases given[i]? <;> rfl

private theorem bindOne_of_named (hkind : p.kind = .named) (args : Arguments) :
    f.bindOne args p = p.receive (args.named.lookup p.name) := by
  unfold bindOne Parameter.receive
  cases args.named.lookup p.name <;> simp only [hkind]

private theorem bindOne_of_name (hkind : p.kind = .positional ∨ p.kind = .named) (named : List (String × Value)) :
    f.bindOne ⟨[], named⟩ p = p.receive (named.lookup p.name) := by
  rcases hkind with hkind | hkind
  · unfold bindOne Parameter.receive
    rw [hkind]
    dsimp only
    rw [List.getElem?_nil]
    cases named.lookup p.name <;> rfl
  · exact bindOne_of_named hkind _

private theorem bindOne_of_collecting (hkind : p.kind = .rest ∨ p.kind = .otherNamed) (args : Arguments) :
    ∃ taken, f.bindOne args p = .ok taken := by
  unfold bindOne
  rcases hkind with hkind | hkind <;> rw [hkind] <;> exact ⟨_, rfl⟩

/-! ## All parameters -/

/-- No argument of a call is left over. -/
def Fits (f : Function) (args : Arguments) : Prop :=
  (args.positional.length ≤ f.positionals.length ∨ f.takesRest = true) ∧ ∀ entry ∈ args.named, f.accepts entry.1 = true

/-- What is bound of parameters: those whose defaults count are left out. -/
def kept (taken : List (String × Option Value)) : List (String × Value) :=
  taken.filterMap fun (name, v) => v.map fun v => (name, v)

private theorem placesFit_iff : (decide (f.positionals.length < args.positional.length) && !f.takesRest) = false ↔
    args.positional.length ≤ f.positionals.length ∨ f.takesRest = true := by
  cases f.takesRest <;> simp

private theorem namesFit_iff : (!args.named.all fun (k, _) => f.accepts k) = false ↔
    ∀ entry ∈ args.named, f.accepts entry.1 = true := by
  simp

private theorem bind_of_fits (h : f.Fits args) :
    f.bind args = (f.params.mapM fun p => do return (p.name, ← f.bindOne args p)).map kept := by
  unfold bind
  rw [placesFit_iff.mpr h.1, namesFit_iff.mpr h.2]
  rfl

private theorem bind_of_not_fits (h : ¬f.Fits args) : f.bind args = .error .wrongType := by
  unfold bind
  by_cases hplaces : args.positional.length ≤ f.positionals.length ∨ f.takesRest = true
  · have hnames : ¬∀ entry ∈ args.named, f.accepts entry.1 = true := fun hnames => h ⟨hplaces, hnames⟩
    rw [placesFit_iff.mpr hplaces, Bool.of_not_eq_false (mt namesFit_iff.mp hnames)]
    rfl
  · rw [Bool.of_not_eq_false (mt placesFit_iff.mp hplaces)]
    rfl

private theorem mapM_isOk {ε α β : Type} {g : α → Except ε β} {as : List α} :
    (∃ bs, as.mapM g = .ok bs) ↔ ∀ a ∈ as, ∃ b, g a = .ok b := by
  induction as with
  | nil => exact ⟨fun _ => List.forall_mem_nil _, fun _ => ⟨[], rfl⟩⟩
  | cons a rest ih =>
    rw [List.forall_mem_cons, ← ih, List.mapM_cons]
    constructor
    · rintro ⟨bs, h⟩
      obtain ⟨b, hb, h⟩ := Normal.bind_eq_ok.mp h
      obtain ⟨bs', hbs, -⟩ := Normal.bind_eq_ok.mp h
      exact ⟨⟨b, hb⟩, bs', hbs⟩
    · rintro ⟨⟨b, hb⟩, bs, hbs⟩
      exact ⟨b :: bs, by rw [hb, hbs]; rfl⟩

private theorem binds_iff : f.Binds args ↔ f.Fits args ∧ ∀ p ∈ f.params, ∃ taken, f.bindOne args p = .ok taken := by
  by_cases hfits : f.Fits args
  · have hmap : f.Binds args ↔ ∃ taken, f.params.mapM (fun p => do return (p.name, ← f.bindOne args p)) = .ok taken := by
      unfold Binds
      rw [bind_of_fits hfits]
      cases f.params.mapM fun p => do return (p.name, ← f.bindOne args p) with
      | ok taken => exact ⟨fun _ => ⟨_, rfl⟩, fun _ => ⟨_, rfl⟩⟩
      | error e => exact ⟨nofun, nofun⟩
    rw [hmap, mapM_isOk]
    simp only [hfits, true_and]
    refine forall₂_congr fun p _ => ?_
    cases f.bindOne args p with
    | ok taken => exact ⟨fun _ => ⟨_, rfl⟩, fun _ => ⟨_, rfl⟩⟩
    | error e => exact ⟨nofun, nofun⟩
  · refine iff_of_false ?_ fun h => hfits h.1
    rintro ⟨bound, hbound⟩
    rw [bind_of_not_fits hfits] at hbound
    cases hbound

private theorem mapM_eq_error {ε α β : Type} {g : α → Except ε β} {as : List α} {e : ε} (h : as.mapM g = .error e) :
    ∃ a ∈ as, g a = .error e := by
  induction as with
  | nil => cases h
  | cons a rest ih =>
    rw [List.mapM_cons] at h
    cases ha : g a with
    | error e' =>
      rw [ha] at h
      cases h
      exact ⟨a, List.mem_cons_self, ha⟩
    | ok b =>
      rw [ha] at h
      cases hrest : rest.mapM g with
      | error e' =>
        rw [hrest] at h
        cases h
        obtain ⟨a', hmem, ha'⟩ := ih hrest
        exact ⟨a', List.mem_cons_of_mem _ hmem, ha'⟩
      | ok bs =>
        rw [hrest] at h
        cases h

private theorem bind_of_not_binds (h : ¬f.Binds args) : f.bind args = .error .wrongType := by
  by_cases hfits : f.Fits args
  · cases hbind : f.bind args with
    | ok bound => exact absurd ⟨bound, hbind⟩ h
    | error fault =>
      rw [bind_of_fits hfits] at hbind
      cases hmap : f.params.mapM fun p => do return (p.name, ← f.bindOne args p) with
      | ok taken =>
        rw [hmap] at hbind
        cases hbind
      | error fault' =>
        rw [hmap] at hbind
        cases hbind
        obtain ⟨p, -, hp⟩ := mapM_eq_error hmap
        cases hone : f.bindOne args p with
        | ok taken =>
          rw [hone] at hp
          cases hp
        | error fault' =>
          rw [hone] at hp
          cases hp
          rw [bindOne_eq_error hone]
  · exact bind_of_not_fits hfits

private theorem lookup_kept_cons (name other : String) (v : Option Value) (rest : List (String × Option Value)) :
    (kept ((name, v) :: rest)).lookup other =
      if other = name then v.or ((kept rest).lookup other) else (kept rest).lookup other := by
  cases v with
  | none => simp [kept]
  | some v =>
    change List.lookup other ((name, v) :: kept rest) = _
    rw [List.lookup_cons]
    by_cases h : other = name
    · simp [h]
    · simp [h, beq_false_of_ne h]

private theorem lookup_of_mapM {g : Parameter → Outcome (Option Value)} {params : List Parameter}
    (hdistinct : (params.map (·.name)).Nodup) {taken : List (String × Option Value)}
    (h : (params.mapM fun p => do return (p.name, ← g p)) = .ok taken) :
    (∀ p ∈ params, g p = .ok ((kept taken).lookup p.name)) ∧
      ∀ name ∉ params.map (·.name), (kept taken).lookup name = none := by
  induction params generalizing taken with
  | nil =>
    cases h
    exact ⟨List.forall_mem_nil _, fun _ _ => rfl⟩
  | cons p rest ih =>
    obtain ⟨hnew, hrest⟩ := List.nodup_cons.mp hdistinct
    rw [List.mapM_cons] at h
    obtain ⟨entry, hentry, h⟩ := Normal.bind_eq_ok.mp h
    obtain ⟨v, hv, hentry⟩ := Normal.bind_eq_ok.mp hentry
    obtain ⟨taken, htaken, h⟩ := Normal.bind_eq_ok.mp h
    cases hentry
    cases h
    obtain ⟨hbound, hunbound⟩ := ih hrest htaken
    refine ⟨List.forall_mem_cons.mpr ⟨?_, fun q hq => ?_⟩, fun name hname => ?_⟩
    · rw [lookup_kept_cons, if_pos rfl, hunbound p.name hnew, Option.or_none]
      exact hv
    · have hne : q.name ≠ p.name := fun heq => hnew (List.mem_map.mpr ⟨q, hq, heq⟩)
      rw [lookup_kept_cons, if_neg hne]
      exact hbound q hq
    · obtain ⟨hne, hname⟩ := not_or.mp (mt List.mem_cons.mpr hname)
      rw [lookup_kept_cons, if_neg hne]
      exact hunbound name hname

private theorem WellFormed.lookup_bound (h : f.WellFormed) {bound : List (String × Value)}
    (hbound : f.bind args = .ok bound) (hp : p ∈ f.params) : f.bindOne args p = .ok (bound.lookup p.name) := by
  have hfits : f.Fits args := (binds_iff.mp ⟨bound, hbound⟩).1
  rw [bind_of_fits hfits] at hbound
  cases hmap : f.params.mapM fun p => do return (p.name, ← f.bindOne args p) with
  | ok taken =>
    rw [hmap] at hbound
    cases hbound
    exact (lookup_of_mapM h.distinct hmap).1 p hp
  | error fault =>
    rw [hmap] at hbound
    cases hbound

/-! ## Calls by place and by name -/

private theorem length_required_le_iff {params : List Parameter}
    (h : params.Pairwise fun p q => p.hasDefault = true → q.hasDefault = true) (n : Nat) :
    (params.filter (!·.hasDefault)).length ≤ n ↔ ∀ i p, params[i]? = some p → i < n ∨ p.hasDefault = true := by
  induction params generalizing n with
  | nil => simp
  | cons p rest ih =>
    obtain ⟨hfirst, hrest⟩ := List.pairwise_cons.mp h
    cases hp : p.hasDefault with
    | true =>
      have hall : ∀ q ∈ p :: rest, q.hasDefault = true := List.forall_mem_cons.mpr ⟨hp, fun q hq => hfirst q hq hp⟩
      refine iff_of_true ?_ fun i q hq => .inr (hall q (List.mem_of_getElem? hq))
      rw [List.filter_eq_nil_iff.mpr fun q hq => by simp [hall q hq]]
      exact Nat.zero_le n
    | false =>
      rw [List.filter_cons_of_pos (by simp [hp]), List.length_cons]
      cases n with
      | zero =>
        refine iff_of_false (by omega) fun hall => ?_
        have hp' := hall 0 p rfl
        simp [hp] at hp'
      | succ n =>
        rw [Nat.add_le_add_iff_right, ih hrest]
        constructor
        · intro hall i q hq
          cases i with
          | zero => exact .inl (Nat.succ_pos n)
          | succ i => exact (hall i q hq).imp_left Nat.succ_lt_succ
        · intro hall i q hq
          exact (hall (i + 1) q hq).imp_left Nat.lt_of_succ_lt_succ

/-- A call without named arguments binds if the positional parameters without a default get something and there is a
place for every argument. -/
theorem WellFormed.binds_given_iff (h : f.WellFormed) (given : List Value) :
    f.Binds ⟨given, []⟩ ↔ (given.length ≤ f.positionals.length ∨ f.takesRest = true) ∧
      f.required.length ≤ given.length ∧ f.NamedOptional := by
  have hfits : f.Fits ⟨given, []⟩ ↔ given.length ≤ f.positionals.length ∨ f.takesRest = true :=
    and_iff_left (List.forall_mem_nil _)
  rw [binds_iff, hfits, required, length_required_le_iff h.defaults]
  refine and_congr_right fun _ => ⟨fun hall => ⟨fun i p hp => ?_, fun p hp hkind => ?_⟩, fun hall p hp => ?_⟩
  · have htaken := hall p (mem_positionals.mp (List.mem_of_getElem? hp)).1
    rw [h.bindOne_given hp, Parameter.receives_iff] at htaken
    simpa using htaken
  · have htaken := hall p hp
    rw [bindOne_of_named hkind, Parameter.receives_iff] at htaken
    simpa using htaken
  · cases hkind : p.kind with
    | positional =>
      obtain ⟨i, hi⟩ := List.mem_iff_getElem?.mp (mem_positionals.mpr ⟨hp, hkind⟩)
      rw [h.bindOne_given hi, Parameter.receives_iff]
      simpa using hall.1 i p hi
    | named =>
      rw [bindOne_of_named hkind, Parameter.receives_iff]
      exact .inr (hall.2 p hp hkind)
    | rest => exact bindOne_of_collecting (.inl hkind) _
    | otherNamed => exact bindOne_of_collecting (.inr hkind) _

/-- A call with nothing but named arguments binds if every one of them has a parameter and every parameter without a
default is named. -/
theorem binds_named_iff (named : List (String × Value)) :
    f.Binds ⟨[], named⟩ ↔ (∀ entry ∈ named, f.accepts entry.1 = true) ∧
      ∀ p ∈ f.params, p.isRequired = true → (named.lookup p.name).isSome = true := by
  have hfits : f.Fits ⟨[], named⟩ ↔ ∀ entry ∈ named, f.accepts entry.1 = true :=
    and_iff_right (.inl (Nat.zero_le _))
  rw [binds_iff, hfits]
  refine and_congr_right fun _ => forall₂_congr fun p _ => ?_
  have hnamed (hkind : p.kind = .positional ∨ p.kind = .named) :
      (∃ taken, f.bindOne ⟨[], named⟩ p = .ok taken) ↔ (p.isRequired = true → (named.lookup p.name).isSome = true) := by
    rw [bindOne_of_name hkind, Parameter.receives_iff]
    unfold Parameter.isRequired
    rcases hkind with hkind | hkind <;> cases p.hasDefault <;> simp [hkind]
  cases hkind : p.kind with
  | positional => exact hnamed (.inl hkind)
  | named => exact hnamed (.inr hkind)
  | rest => exact iff_of_true (bindOne_of_collecting (.inl hkind) _) (by simp [Parameter.isRequired, hkind])
  | otherNamed => exact iff_of_true (bindOne_of_collecting (.inr hkind) _) (by simp [Parameter.isRequired, hkind])

private theorem WellFormed.bound_by_place (h : f.WellFormed) {given : List Value} {bound : List (String × Value)}
    (hbound : f.bind ⟨given, []⟩ = .ok bound) (hp : f.positionals[i]? = some p) : bound.lookup p.name = given[i]? := by
  have htaken := h.lookup_bound hbound (mem_positionals.mp (List.mem_of_getElem? hp)).1
  rw [h.bindOne_given hp] at htaken
  exact Parameter.receive_eq_ok htaken

private theorem WellFormed.bound_by_name (h : f.WellFormed) {named bound : List (String × Value)}
    (hbound : f.bind ⟨[], named⟩ = .ok bound) (hp : p ∈ f.params) (hkind : p.kind = .positional ∨ p.kind = .named) :
    bound.lookup p.name = named.lookup p.name := by
  have htaken := h.lookup_bound hbound hp
  rw [bindOne_of_name hkind] at htaken
  exact Parameter.receive_eq_ok htaken

/-! ## Calls of handlers -/

def call (f : Function) (app : Application) (args : Arguments) : Run Value := do
  awaited app (← callFunction app f args)

/-- What a function does with the values bound to its parameters, up to its result. -/
def complete (f : Function) (app : Application) (bound : List (String × Value)) : Run Value := do
  let v ← app.behave f bound
  if f.suspends then return v else awaited app v

/-- The world once a call was made. -/
def seen (f : Function) (args : Arguments) (w : World) : World :=
  { w with calls := w.calls ++ [⟨f.name, args.positional.length, sortedNames (args.named.map (·.1))⟩] }

private theorem call_of_bind {bound : List (String × Value)} (h : f.bind args = .ok bound) (app : Application)
    (w : World) :
    f.call app args w = f.complete app bound (f.seen args w) := by
  have hrun : runFunction app f args w = app.behave f bound (f.seen args w) := by
    unfold runFunction
    rw [h]
    rfl
  unfold call callFunction complete
  cases f.suspends with
  | true =>
    refine hrun.trans ?_
    change _ = EStateM.bind (app.behave f bound) pure (f.seen args w)
    unfold EStateM.bind
    cases app.behave f bound (f.seen args w) <;> rfl
  | false =>
    change EStateM.bind (runFunction app f args) (awaited app) w = EStateM.bind (app.behave f bound) (awaited app) _
    unfold EStateM.bind
    rw [hrun]

private theorem call_of_not_binds (h : ¬f.Binds args) (app : Application) (w : World) :
    f.call app args w = .error (.fault .wrongType) (f.seen args w) := by
  have hrun : runFunction app f args w = .error (.fault .wrongType) (f.seen args w) := by
    unfold runFunction
    rw [bind_of_not_binds h]
    rfl
  unfold call callFunction
  cases f.suspends with
  | true => exact hrun
  | false => exact Run.bind_error hrun

private theorem WellFormed.callHandler (h : f.WellFormed) (app : Application) (vars session path : Value) :
    ∃ given, given = (if f.takesRest then [vars, session, path] else [vars, session, path].take f.positionals.length) ∧
      callHandler app (.function f) vars session path = f.call app ⟨given, []⟩ ∧
      (f.Binds ⟨given, []⟩ ↔ f.required.length ≤ 3 ∧ f.NamedOptional) := by
  refine ⟨_, rfl, ?_, ?_⟩
  · unfold Colloquy.callHandler positionalArity
    dsimp only
    cases f.takesRest <;> rfl
  · have hrequired : f.required.length ≤ f.positionals.length := List.length_filter_le _ _
    rw [h.binds_given_iff, ← and_assoc]
    refine and_congr_left fun _ => ?_
    cases f.takesRest with
    | true => simp
    | false =>
      have hgiven : ([vars, session, path].take f.positionals.length).length = min f.positionals.length 3 :=
        List.length_take
      simp only [Bool.false_eq_true, if_false, hgiven, or_false]
      omega

/-- Whether a named handler gets the variables as a whole. -/
def takesWhole (f : Function) : Bool :=
  f.params.length == 1 || f.params.head?.any (·.name == "vars") || f.takesRest

def namedVariables (f : Function) (vars : Entries) : List (String × Value) :=
  vars.filterMap fun (k, v) =>
    match k with
    | .str s => if f.params.any (·.name == s) then some (s, v) else none
    | _ => none

private theorem mem_namedVariables {vars : Entries} {s : String} {v : Value} :
    (s, v) ∈ f.namedVariables vars ↔ (.str s, v) ∈ vars ∧ s ∈ f.params.map (·.name) := by
  unfold namedVariables
  rw [List.mem_filterMap]
  constructor
  · rintro ⟨⟨k, w⟩, hmem, hsome⟩
    dsimp only at hsome
    split at hsome
    · split at hsome
      · rename_i hany
        cases hsome
        exact ⟨hmem, by simpa using hany⟩
      · cases hsome
    · cases hsome
  · rintro ⟨hmem, hname⟩
    have hany : f.params.any (·.name == s) = true := by simpa using hname
    exact ⟨(.str s, v), hmem, by simp [hany]⟩

private theorem handlerArguments_eq (f : Function) (vars : Entries) : handlerArguments (.function f) vars =
    if f.params = [] then ⟨[], []⟩
    else if f.takesWhole then ⟨[.dict .anonymous vars], []⟩
    else ⟨[], f.namedVariables vars⟩ := by
  unfold handlerArguments takesWhole namedVariables
  dsimp only
  match hparams : f.params with
  | [] => rfl
  | [p] => rfl
  | p :: q :: rest => rfl

private theorem accepts_of_name {name : String} (hrest : f.takesRest = false) (hname : name ∈ f.params.map (·.name)) :
    f.accepts name = true := by
  obtain ⟨p, hp, rfl⟩ := List.mem_map.mp hname
  unfold accepts
  cases hkind : p.kind with
  | rest =>
    have htakes : f.takesRest = true := List.any_eq_true.mpr ⟨p, hp, by simp [hkind]⟩
    rw [htakes] at hrest
    cases hrest
  | otherNamed =>
    have htakes : f.takesOthers = true := List.any_eq_true.mpr ⟨p, hp, by simp [hkind]⟩
    rw [htakes, Bool.true_or]
  | _ =>
    refine Bool.or_eq_true_iff.mpr (.inr (List.any_eq_true.mpr ⟨p, hp, ?_⟩))
    simp [hkind]

private theorem isSome_lookup_iff {named : List (String × Value)} {name : String} :
    (named.lookup name).isSome = true ↔ ∃ v, (name, v) ∈ named := by
  rw [List.lookup_isSome_iff]
  simp

/-- A named handler is called bare, with the variables as a whole, or with those that are named like its parameters. -/
theorem WellFormed.executeHandler (h : f.WellFormed) (app : Application) {handlers : Handlers} {name : Value}
    (hfind : findHandler handlers name = .ok (.function f)) (vars : Entries) :
    ∃ args, executeHandler app handlers name vars = f.call app args ∧
      (f.params = [] → args = ⟨[], []⟩ ∧ f.Binds args) ∧
      (f.takesWhole = true → args = ⟨[.dict .anonymous vars], []⟩ ∧
        (f.Binds args ↔ (f.positionals ≠ [] ∨ f.takesRest = true) ∧ f.required.length ≤ 1 ∧ f.NamedOptional)) ∧
      (f.params ≠ [] → f.takesWhole = false → args.positional = [] ∧
        (∀ s v, (s, v) ∈ args.named ↔ (.str s, v) ∈ vars ∧ s ∈ f.params.map (·.name)) ∧
        (f.Binds args ↔ ∀ p ∈ f.params, p.isRequired = true → ∃ v, (.str p.name, v) ∈ vars)) := by
  refine ⟨handlerArguments (.function f) vars, ?_, fun hbare => ?_, fun hwhole => ?_, fun hparams hwhole => ?_⟩
  · unfold Colloquy.executeHandler
    rw [hfind]
    rfl
  · rw [handlerArguments_eq, if_pos hbare]
    refine ⟨rfl, [], ?_⟩
    rw [bind_of_fits ⟨.inl (Nat.zero_le _), List.forall_mem_nil _⟩, hbare]
    rfl
  · have hparams : f.params ≠ [] := by
      intro hbare
      simp [takesWhole, takesRest, hbare] at hwhole
    rw [handlerArguments_eq, if_neg hparams, if_pos hwhole]
    refine ⟨rfl, (h.binds_given_iff _).trans (and_congr_left fun _ => ?_)⟩
    simp [Nat.one_le_iff_ne_zero]
  · rw [handlerArguments_eq, if_neg hparams, hwhole]
    have hrest : f.takesRest = false := by
      unfold takesWhole at hwhole
      exact (Bool.or_eq_false_iff.mp hwhole).2
    have haccepted : ∀ entry ∈ f.namedVariables vars, f.accepts entry.1 = true := fun entry hentry =>
      accepts_of_name hrest (mem_namedVariables.mp hentry).2
    refine ⟨rfl, fun s v => mem_namedVariables, (binds_named_iff _).trans ((and_iff_right haccepted).trans ?_)⟩
    refine forall₂_congr fun p hp => imp_congr_right fun _ => ?_
    rw [isSome_lookup_iff]
    have hname : p.name ∈ f.params.map (·.name) := List.mem_map.mpr ⟨p, hp, rfl⟩
    simp only [mem_namedVariables, hname, and_true]

structure CalledBySignature (f : Function) (app : Application) : Prop where
  /-- A value handler gets the first of the variables, the session and the path, one for each place it has, and all
  three if it takes any number. -/
  value : ∀ vars session path, ∃ given,
    given = (if f.takesRest then [vars, session, path] else [vars, session, path].take f.positionals.length) ∧
      Colloquy.callHandler app (.function f) vars session path = f.call app ⟨given, []⟩ ∧
      (f.Binds ⟨given, []⟩ ↔ f.required.length ≤ 3 ∧ f.NamedOptional)
  /-- A named handler is called bare, with the variables as a whole, or with those that are named like its
  parameters. -/
  named : ∀ handlers name vars, findHandler handlers name = .ok (.function f) →
    ∃ args, Colloquy.executeHandler app handlers name vars = f.call app args ∧
      (f.params = [] → args = ⟨[], []⟩ ∧ f.Binds args) ∧
      (f.takesWhole = true → args = ⟨[.dict .anonymous vars], []⟩ ∧
        (f.Binds args ↔ (f.positionals ≠ [] ∨ f.takesRest = true) ∧ f.required.length ≤ 1 ∧ f.NamedOptional)) ∧
      (f.params ≠ [] → f.takesWhole = false → args.positional = [] ∧
        (∀ s v, (s, v) ∈ args.named ↔ (.str s, v) ∈ vars ∧ s ∈ f.params.map (·.name)) ∧
        (f.Binds args ↔ ∀ p ∈ f.params, p.isRequired = true → ∃ v, (.str p.name, v) ∈ vars))
  places : ∀ given bound, f.bind ⟨given, []⟩ = .ok bound → ∀ (i : Nat) (p : Parameter), f.positionals[i]? = some p →
    bound.lookup p.name = given[i]?
  names : ∀ named bound, f.bind ⟨[], named⟩ = .ok bound → ∀ p ∈ f.params, p.kind = .positional ∨ p.kind = .named →
    bound.lookup p.name = named.lookup p.name
  /-- A call that binds runs the function with what was bound. -/
  runs : ∀ args bound, f.bind args = .ok bound → ∀ w, f.call app args w = f.complete app bound (f.seen args w)
  /-- A call that does not bind fails before the function does anything. -/
  refuses : ∀ args, ¬f.Binds args → ∀ w, f.call app args w = .error (.fault .wrongType) (f.seen args w)

/-- The signature alone tells how a function is called as a handler, and whether the call binds. -/
theorem signature_tells_calls (h : f.WellFormed) (app : Application) : f.CalledBySignature app where
  value := h.callHandler app
  named := fun _ _ vars hfind => h.executeHandler app hfind vars
  places := fun _ _ hbound _ _ hp => h.bound_by_place hbound hp
  names := fun _ _ hbound _ hp hkind => h.bound_by_name hbound hp hkind
  runs := fun _ _ hbound w => call_of_bind hbound app w
  refuses := fun _ hunbound w => call_of_not_binds hunbound app w

/-- A named handler that wants a name is called without one, though a variable goes by the name of its option. -/
theorem nameless_greeting_is_refused :
    let greet : Function := ⟨7, "greet", [{ name := "name" }, { name := "tone", kind := .named, hasDefault := true }], false⟩
    let w : World := { session := { id := .str "s" } }
    greet.WellFormed ∧ ∃ w', Colloquy.executeHandler ⟨fun _ _ => pure .none⟩ [(.str "greet", .function greet)] (.str "greet")
      [(.str "tone", .str "warm")] w = .error (.fault .wrongType) w' := by
  intro greet w
  have hwell : greet.WellFormed := ⟨by decide, by decide⟩
  have hcalls := signature_tells_calls hwell ⟨fun _ _ => pure .none⟩
  obtain ⟨args, hcall, -, -, hnamed⟩ :=
    hcalls.named [(.str "greet", .function greet)] (.str "greet") [(.str "tone", .str "warm")] (by with_unfolding_all rfl)
  obtain ⟨-, -, hbinds⟩ := hnamed (by decide) (by decide)
  have hunbound : ¬greet.Binds args := by
    intro hbound
    obtain ⟨v, hv⟩ := hbinds.mp hbound { name := "name" } (by decide) (by decide)
    simp at hv
  rw [hcall]
  exact ⟨hwell, _, hcalls.refuses args hunbound w⟩

end Function

end Colloquy
