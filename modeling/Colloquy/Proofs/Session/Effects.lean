import Colloquy.Session

/-!
# What the effects of a session do

Setting variables changes nothing but variables, and it fails for a name that is none. Saving and sending add
one event to the history, or they fail and add none. A transfer happens at most once: it leaves the session
locked, and in a locked session nothing happens any more. A transfer that fails leaves the session as it was.
-/

namespace Colloquy

/-- The state that a computation leaves behind, however it ends. -/
def finalState {ε σ α : Type} : EStateM.Result ε σ α → σ
  | .ok _ s => s
  | .error _ s => s

namespace Session

variable {s : Session}

private theorem checkLock_eq (s : Session) :
    checkLock s = if s.locked then .error .sessionLocked s else .ok () s := by
  change (if s.locked = true then throw .sessionLocked else pure () : Effect Unit) s = _
  cases s.locked <;> rfl

theorem checkLock_bind_locked {α : Type} (effect : Effect α) (h : s.locked = true) :
    (checkLock >>= fun _ => effect) s = .error .sessionLocked s := by
  change EStateM.bind checkLock _ s = _
  simp only [EStateM.bind, checkLock_eq, h, if_true]

theorem checkLock_bind {α : Type} (effect : Effect α) (h : s.locked = false) :
    (checkLock >>= fun _ => effect) s = effect s := by
  change EStateM.bind checkLock _ s = _
  simp only [EStateM.bind, checkLock_eq, h, Bool.false_eq_true, if_false]

theorem transfer_locked {α : Type} (effect : Effect α) (h : s.locked = true) :
    transfer effect s = .error .sessionLocked s := checkLock_bind_locked _ h

theorem transfer_eq {α : Type} (effect : Effect α) (h : s.locked = false) :
    transfer effect s =
      match effect { s with locked := true } with
      | .ok a s => .ok a s
      | .error e s => .error e { s with locked := false } := by
  rw [transfer, checkLock_bind _ h]
  change EStateM.tryCatch effect (fun e => do modify ({ · with locked := false }); throw e)
    { s with locked := true } = _
  delta EStateM.tryCatch
  dsimp only
  cases effect { s with locked := true } <;> rfl

private theorem givenMapping_error {v : Value} {e : Error} (h : givenMapping v = .error e) : ∃ f, e = .fault f := by
  unfold givenMapping at h
  split at h
  · split at h
    · cases h
    · cases h
      exact ⟨_, rfl⟩
  · cases h

theorem newFrame_error {dialog tag locals : Value} {e : Error} (h : newFrame dialog tag locals = .error e) :
    ∃ f, e = .fault f := by
  unfold newFrame at h
  split at h
  · cases h
    exact ⟨_, rfl⟩
  · cases hlocals : givenMapping locals with
    | ok entries =>
      rw [hlocals] at h
      cases h
    | error e' =>
      rw [hlocals] at h
      cases h
      exact givenMapping_error hlocals

theorem start_eq (dialog tag locals : Value) (h : s.locked = false) :
    start dialog tag locals s =
      match newFrame dialog tag locals with
      | .error e => .error e s
      | .ok frame =>
        if s.transportDown then .error .transportDown s
        else .ok () ({ s with locked := true }.record (.started frame)) := by
  obtain ⟨_, _, _, _, _, _, _, locked, down, _⟩ := s
  obtain rfl : locked = false := h
  rw [start, transfer_eq _ rfl]
  cases newFrame dialog tag locals with
  | error e => rfl
  | ok frame => cases down <;> rfl

theorem finish_eq (result : Value) (h : s.locked = false) :
    finish result s =
      if s.transportDown then .error .transportDown s
      else .ok () ({ s with locked := true }.record (.finished result)) := by
  obtain ⟨_, _, _, _, _, _, _, locked, down, _⟩ := s
  obtain rfl : locked = false := h
  rw [finish, transfer_eq _ rfl]
  cases down <;> rfl

/-! ## Variables -/

/-- The second session came from the first one without any effect: at most variables differ. -/
structure Quiet (s s' : Session) : Prop where
  history : s'.history = s.history
  locked : s'.locked = s.locked
  transportDown : s'.transportDown = s.transportDown

theorem Quiet.refl (s : Session) : s.Quiet s := ⟨rfl, rfl, rfl⟩

private theorem Quiet.trans {s₁ s₂ : Session} (h : s.Quiet s₁) (h' : s₁.Quiet s₂) : s.Quiet s₂ :=
  ⟨h'.history.trans h.history, h'.locked.trans h.locked, h'.transportDown.trans h.transportDown⟩

theorem quiet_assign (s : Session) (name : String) (value : Value) : s.Quiet (s.assign name value) := by
  unfold assign withVariables
  dsimp only
  split <;> exact ⟨rfl, rfl, rfl⟩

theorem setOne_eq (name value : Value) (s : Session) :
    setOne name value s =
      match name.text? with
      | some n => if n.isEmpty then .error (.variableName name) s else .ok () (s.assign n value)
      | none => .error (.variableName name) s := by
  unfold setOne
  cases name.text? with
  | none => rfl
  | some n => cases h : n.isEmpty <;> simp only [h] <;> rfl

/-- How setting variables may end. -/
def Assigns (s : Session) : EStateM.Result Error Session Unit → Prop
  | .ok _ s' => s.Quiet s'
  | .error e s' => s.Quiet s' ∧ ∃ name, e = .variableName name

private theorem assigns_setOne (name value : Value) (s : Session) : s.Assigns (setOne name value s) := by
  rw [setOne_eq]
  split
  · split
    · exact ⟨.refl s, name, rfl⟩
    · exact s.quiet_assign _ value
  · exact ⟨.refl s, name, rfl⟩

abbrev setAll (entries : Entries) : Effect Unit := entries.forM fun (k, v) => setOne k v

theorem setAll_cons (k v : Value) (rest : Entries) (s : Session) :
    setAll ((k, v) :: rest) s =
      match setOne k v s with
      | .ok _ s' => setAll rest s'
      | .error e s' => .error e s' := by
  change EStateM.bind (setOne k v) (fun _ => setAll rest) s = _
  unfold EStateM.bind
  cases setOne k v s <;> rfl

theorem assigns_setAll (entries : Entries) (s : Session) : s.Assigns (setAll entries s) := by
  induction entries generalizing s with
  | nil => exact .refl s
  | cons entry rest ih =>
    obtain ⟨k, v⟩ := entry
    have hfirst := assigns_setOne k v s
    rw [setAll_cons]
    cases h : setOne k v s with
    | error e s₁ =>
      rw [h] at hfirst
      exact hfirst
    | ok _ s₁ =>
      rw [h] at hfirst
      have hrest := ih s₁
      dsimp only
      cases h' : setAll rest s₁ with
      | ok _ s₂ =>
        rw [h'] at hrest
        exact Quiet.trans hfirst hrest
      | error e s₂ =>
        rw [h'] at hrest
        exact ⟨Quiet.trans hfirst hrest.1, hrest.2⟩

/-- What is assigned when something is set: every entry of a mapping, or one variable. -/
def assigned (name value : Value) : Entries :=
  match name with
  | .dict _ entries => entries
  | name => [(name, value)]

theorem set_eq_setAll (name value : Value) (s : Session) : set name value s = setAll (assigned name value) s := by
  have hone (key : Value) : setOne key value s = setAll [(key, value)] s := by
    rw [setAll_cons]
    cases setOne key value s <;> rfl
  unfold set assigned
  cases name with
  | dict id entries => rfl
  | _ => simp only [hone]

theorem assigns_set (name value : Value) (s : Session) : s.Assigns (set name value s) := by
  rw [set_eq_setAll]
  exact assigns_setAll _ s

theorem save_eq (values : Value) (h : s.locked = false) :
    save values s =
      match (if values.truthy then set values .none else pure () : Effect Unit) s with
      | .ok _ s' => .ok () (s'.record (.saved ⟨s'.globals, s'.locals⟩))
      | .error e s' => .error e s' := by
  rw [save, checkLock_bind _ h]
  cases values.truthy with
  | false => rfl
  | true =>
    change EStateM.bind (set values .none) _ s = _
    unfold EStateM.bind
    simp only [if_true]
    cases set values .none s <;> rfl

theorem save_locked (values : Value) (h : s.locked = true) : save values s = .error .sessionLocked s :=
  checkLock_bind_locked _ h

theorem posted_error {message : Value} {e : Error} (h : posted message = .error e) :
    e = .untypedMessage message ∨ e = .notMessage message ∨ e = .fault .badValue := by
  unfold posted at h
  split at h
  · cases h
  · cases h
  · split at h
    · cases h
      exact .inl rfl
    · extract_lets params at h
      split at h <;> cases h
      exact .inr (.inr rfl)
  · cases h
    exact .inr (.inl rfl)

theorem send_eq (message : Value) (h : s.locked = false) :
    send message s =
      match posted message with
      | .ok entries => .ok () (s.record (.sent entries))
      | .error e => .error e s := by
  rw [send.eq_def, checkLock_bind _ h]
  cases posted message <;> rfl

theorem send_locked (message : Value) (h : s.locked = true) : send message s = .error .sessionLocked s :=
  checkLock_bind_locked _ h

end Session

end Colloquy
