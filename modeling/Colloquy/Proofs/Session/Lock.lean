import Colloquy.Proofs.Session.Effects

/-!
# The lock of a session

A session does nothing by itself: messages, saves and transfers are carried out by a transport, and any of them may
fail, or be interrupted together with the request. Whatever happens and in whatever order the calls are made, at most
one transfer comes through, and the session is locked from then on and at no other time. What is refused by the lock
does not reach the transport.
-/

namespace Colloquy

/-- How carrying out an event ends without an error. The cancellation of a request interrupts it, and what looks after
errors does not notice. -/
inductive Delivery where
  | done | interrupted
deriving DecidableEq

abbrev Transport := SessionEvent → Effect Delivery

namespace Transport

/-- A transport leaves the lock alone, however it ends. -/
structure KeepsLock (t : Transport) : Prop where
  locked : ∀ event s, (finalState (t event s)).locked = s.locked

/-- What an honest transport fails to do has not happened. The lock does not depend on this, only what a transfer that
fails leaves behind. -/
structure Honest (t : Transport) : Prop extends KeepsLock t where
  unchanged : ∀ {event s e s'}, t event s = .error e s' → s' = s

/-- A transport that comes to its end or fails with an error. -/
def Uninterrupted (t : Transport) : Prop := ∀ event s s', t event s ≠ .ok .interrupted s'

/-- The transport of sessions in memory notes down what is done. Transfers fail while it is down. -/
def memory : Transport := fun event => do
  match event with
  | .started _ | .finished _ => if (← getThe Session).transportDown then throw Error.transportDown
  | _ => pure ()
  modify (·.record event)
  return .done

def broken (e : Error) : Transport := fun _ => throw e

def cancelled : Transport := fun _ => pure .interrupted

/-- Carries out an event, unless there is no such event to begin with. -/
def carry (t : Transport) : Except Error SessionEvent → Effect Delivery
  | .error e => throw e
  | .ok event => t event

private theorem memory_eq (event : SessionEvent) (s : Session) :
    memory event s =
      match event with
      | .started _ | .finished _ =>
        if s.transportDown then .error .transportDown s else .ok .done (s.record event)
      | _ => .ok .done (s.record event) := by
  have hdown (own : SessionEvent) : (do
      if (← getThe Session).transportDown then throw Error.transportDown
      modify (·.record own)
      return Delivery.done : Effect Delivery) s =
        if s.transportDown then .error .transportDown s else .ok .done (s.record own) := by
    change (if s.transportDown then throw Error.transportDown >>= fun _ => (do modify (·.record own); return Delivery.done)
      else (do modify (·.record own); return Delivery.done) : Effect Delivery) s = _
    cases s.transportDown <;> rfl
  cases event with
  | started frame => exact hdown (.started frame)
  | finished result => exact hdown (.finished result)
  | _ => rfl

private theorem honest_memory : memory.Honest where
  locked event s := by
    rw [memory_eq]
    split
    · split <;> rfl
    · split <;> rfl
    · rfl
  unchanged {event s e s'} h := by
    rw [memory_eq] at h
    split at h
    · split at h <;> cases h
      rfl
    · split at h <;> cases h
      rfl
    · cases h

private theorem uninterrupted_memory : memory.Uninterrupted := by
  intro event s s' h
  rw [memory_eq] at h
  split at h
  · split at h <;> cases h
  · split at h <;> cases h
  · cases h

private theorem honest_broken (e : Error) : (broken e).Honest where
  locked _ _ := rfl
  unchanged h := by
    cases h
    rfl

end Transport

namespace Session

variable {s : Session} {t : Transport}

inductive Call where
  | set (name value : Value)
  | save (values : Value)
  | send (message : Value)
  | start (dialog tag locals : Value)
  | finish (result : Value)

namespace Call

/-- Makes the call in a session in memory. -/
def perform : Call → Effect Unit
  | .set name value => Session.set name value
  | .save values => Session.save values
  | .send message => Session.send message
  | .start dialog tag locals => Session.start dialog tag locals
  | .finish result => Session.finish result

/-- The transfer that the call asks for, with its arguments converted. -/
def handover? : Call → Option (Except Error SessionEvent)
  | .start dialog tag locals => some ((newFrame dialog tag locals).map .started)
  | .finish result => some (.ok (.finished result))
  | _ => none

/-- Whether the call is refused by a locked session. -/
def isEffect : Call → Bool
  | .set _ _ => false
  | _ => true

def through (t : Transport) : Call → Effect Delivery
  | .set name value => do
    Session.set name value
    return .done
  | .save values => do
    checkLock
    if values.truthy then Session.set values .none
    let s ← getThe Session
    t (.saved ⟨s.globals, s.locals⟩)
  | .send message => do
    checkLock
    t.carry ((posted message).map .sent)
  | .start dialog tag locals =>
    transfer (t.carry ((newFrame dialog tag locals).map .started))
  | .finish result => transfer (t (.finished result))

private theorem through_locked (c : Call) (hc : c.isEffect = true) (h : s.locked = true) :
    c.through t s = .error .sessionLocked s := by
  cases c with
  | set name value => cases hc
  | start dialog tag locals => exact transfer_locked _ h
  | finish result => exact transfer_locked _ h
  | _ => exact checkLock_bind_locked _ h

private theorem through_save (values : Value) (h : s.locked = false) :
    (Call.save values).through t s =
      match (if values.truthy then Session.set values .none else pure () : Effect Unit) s with
      | .ok _ s' => t (.saved ⟨s'.globals, s'.locals⟩) s'
      | .error e s' => .error e s' := by
  rw [through, checkLock_bind _ h]
  cases values.truthy with
  | false => rfl
  | true =>
    change EStateM.bind (Session.set values .none) _ s = _
    unfold EStateM.bind
    simp only [if_true]
    cases Session.set values .none s <;> rfl

private theorem through_send (message : Value) (h : s.locked = false) :
    (Call.send message).through t s = t.carry ((posted message).map .sent) s := checkLock_bind _ h

private theorem through_set (name value : Value) (s : Session) :
    (Call.set name value).through t s =
      match Session.set name value s with
      | .ok _ s' => .ok .done s'
      | .error e s' => .error e s' := by
  change EStateM.bind (Session.set name value) _ s = _
  unfold EStateM.bind
  cases Session.set name value s <;> rfl

/-- In an unlocked session a transfer locks, and the lock is taken back when the transport fails with an error. -/
theorem through_transfer {c : Call} {event : Except Error SessionEvent} (hc : c.handover? = some event)
    (h : s.locked = false) :
    c.through t s =
      match t.carry event { s with locked := true } with
      | .ok ending s' => .ok ending s'
      | .error e s' => .error e { s' with locked := false } := by
  have htransfer : c.through t s = transfer (t.carry event) s := by
    cases c with
    | start | finish =>
      cases hc
      rfl
    | _ => cases hc
  rw [htransfer, transfer_eq _ h]
  cases t.carry event { s with locked := true } <;> rfl

/-- What a call does in a session in memory: nothing interrupts it. -/
def performed (c : Call) : Effect Delivery := do
  c.perform
  return .done

private theorem performed_eq (c : Call) (s : Session) :
    c.performed s =
      match c.perform s with
      | .ok _ s' => .ok .done s'
      | .error e s' => .error e s' := by
  change EStateM.bind c.perform _ s = _
  unfold EStateM.bind
  cases c.perform s <;> rfl

private theorem through_memory (c : Call) (s : Session) : c.through .memory s = c.performed s := by
  rw [performed_eq]
  cases hlock : s.locked with
  | true =>
    cases c with
    | set name value => exact through_set name value s
    | save values => rw [through_locked _ rfl hlock, perform, save_locked values hlock]
    | send message => rw [through_locked _ rfl hlock, perform, send_locked message hlock]
    | start dialog tag locals => rw [through_locked _ rfl hlock, perform, Session.start, transfer_locked _ hlock]
    | finish result => rw [through_locked _ rfl hlock, perform, Session.finish, transfer_locked _ hlock]
  | false =>
    cases c with
    | set name value => exact through_set name value s
    | save values =>
      rw [through_save values hlock, perform, save_eq values hlock]
      generalize (if values.truthy then Session.set values .none else pure () : Effect Unit) s = set
      cases set <;> rfl
    | send message =>
      rw [through_send message hlock, perform, send_eq message hlock]
      cases posted message <;> rfl
    | start dialog tag locals =>
      obtain ⟨_, _, _, _, _, _, _, locked, down, _⟩ := s
      obtain rfl : locked = false := hlock
      rw [through_transfer rfl rfl, perform, start_eq dialog tag locals rfl]
      cases newFrame dialog tag locals with
      | error e => rfl
      | ok frame => cases down <;> rfl
    | finish result =>
      obtain ⟨_, _, _, _, _, _, _, locked, down, _⟩ := s
      obtain rfl : locked = false := hlock
      rw [through_transfer rfl rfl, perform, finish_eq result rfl]
      cases down <;> rfl

end Call

/-! ## One call -/

/-- How a transfer ends that does not fail: it succeeds, or it is interrupted. -/
def Call.transfers? (c : Call) (t : Transport) (s : Session) : Option Delivery :=
  match c.handover?, c.through t s with
  | some _, .ok ending _ => some ending
  | _, _ => none

private theorem locked_set (name value : Value) (s : Session) :
    (finalState (Session.set name value s)).locked = s.locked := by
  have hassigns := assigns_set name value s
  cases hr : Session.set name value s with
  | ok u s' =>
    rw [hr] at hassigns
    exact hassigns.locked
  | error e s' =>
    rw [hr] at hassigns
    exact hassigns.1.locked

private theorem locked_through_set (name value : Value) (s : Session) :
    (finalState ((Call.set name value).through t s)).locked = s.locked := by
  have hset := locked_set name value s
  rw [Call.through_set]
  cases hr : Session.set name value s with
  | ok u s' =>
    rw [hr] at hset
    exact hset
  | error e s' =>
    rw [hr] at hset
    exact hset

private theorem locked_carry (ht : t.KeepsLock) (event : Except Error SessionEvent) (s : Session) :
    (finalState (t.carry event s)).locked = s.locked := by
  cases event with
  | error e => rfl
  | ok event => exact ht.locked event s

private theorem through_failed (ht : t.Honest) {c : Call} {event : Except Error SessionEvent}
    (hc : c.handover? = some event) (h : s.locked = false) {e : Error} {s' : Session}
    (hfails : t.carry event { s with locked := true } = .error e s') : c.through t s = .error e s := by
  have hs' : s' = { s with locked := true } := by
    cases event with
    | error e => cases hfails; rfl
    | ok event => exact ht.unchanged hfails
  obtain ⟨_, _, _, _, _, _, _, locked, _, _⟩ := s
  obtain rfl : locked = false := h
  rw [Call.through_transfer hc rfl, hfails, hs']

private theorem locked_through (ht : t.KeepsLock) (c : Call) (s : Session) :
    (finalState (c.through t s)).locked.toNat = s.locked.toNat + (c.transfers? t s).isSome.toNat := by
  unfold Call.transfers?
  cases hlock : s.locked with
  | true =>
    cases c with
    | set name value =>
      simp [Call.handover?, locked_through_set, hlock]
    | _ =>
      rw [Call.through_locked _ (by rfl) hlock]
      simp [Call.handover?, finalState, hlock]
  | false =>
    cases hc : c.handover? with
    | none =>
      -- nothing takes the lock, neither the session nor the transport
      have hopen : (finalState (c.through t s)).locked = false := by
        cases c with
        | set name value => exact (locked_through_set name value s).trans hlock
        | send message =>
          rw [Call.through_send message hlock]
          exact (locked_carry ht _ s).trans hlock
        | save values =>
          have hset : (finalState ((if values.truthy then Session.set values .none else pure () : Effect Unit) s)).locked =
              s.locked := by
            split
            · exact locked_set values .none s
            · rfl
          rw [Call.through_save values hlock]
          split
          · rename_i u s' hr
            rw [hr] at hset
            exact (locked_carry ht (.ok (.saved ⟨s'.globals, s'.locals⟩)) s').trans (hset.trans hlock)
          · rename_i e s' hr
            rw [hr] at hset
            exact hset.trans hlock
        | start dialog tag locals => cases hc
        | finish result => cases hc
      simp [hopen]
    | some event =>
      -- the transport meets a session that is locked already, and only an error unlocks it again
      have hcarry := locked_carry ht event { s with locked := true }
      rw [Call.through_transfer hc hlock]
      cases hr : t.carry event { s with locked := true } with
      | ok ending s' =>
        rw [hr] at hcarry
        have htaken : s'.locked = true := hcarry
        simp [finalState, htaken]
      | error e s' => rfl

private theorem transfers?_ne_interrupted (ht : t.Uninterrupted) (c : Call) (s : Session) :
    c.transfers? t s ≠ some .interrupted := by
  intro h
  unfold Call.transfers? at h
  split at h
  · rename_i event ending s' hc hthrough
    obtain rfl := Option.some.inj h
    cases hlock : s.locked with
    | true =>
      have hrefused : c.through t s = .error .sessionLocked s := by
        refine Call.through_locked c ?_ hlock
        cases c with
        | set name value => cases hc
        | _ => rfl
      cases hrefused.symm.trans hthrough
    | false =>
      rw [Call.through_transfer hc hlock] at hthrough
      split at hthrough
      · rename_i ending s'' hr
        cases hthrough
        cases event with
        | error e => cases hr
        | ok event => exact ht event _ _ hr
      · cases hthrough
  · cases h

/-! ## Sequences of calls -/

/-- A call and the transport that it meets. -/
structure Attempt where
  call : Call
  transport : Transport

/-- The session after a sequence of calls, whether they fail or not. -/
def afterAll (s : Session) (attempts : List Attempt) : Session :=
  attempts.foldl (fun s a => finalState (a.call.through a.transport s)) s

/-- Number of transfers in a sequence of calls that end in a certain way. -/
def transfers (s : Session) (ending : Delivery) : List Attempt → Nat
  | [] => 0
  | a :: rest =>
    (decide (a.call.transfers? a.transport s = some ending)).toNat +
      (finalState (a.call.through a.transport s)).transfers ending rest

private theorem toNat_isSome (ending : Option Delivery) :
    ending.isSome.toNat = (decide (ending = some .done)).toNat + (decide (ending = some .interrupted)).toNat := by
  rcases ending with _ | ⟨_ | _⟩ <;> rfl

private theorem locked_afterAll (s : Session) (attempts : List Attempt)
    (hkeeps : ∀ a ∈ attempts, a.transport.KeepsLock) :
    (s.afterAll attempts).locked.toNat =
      s.locked.toNat + (s.transfers .done attempts + s.transfers .interrupted attempts) := by
  induction attempts generalizing s with
  | nil => rfl
  | cons a rest ih =>
    obtain ⟨ha, hrest⟩ := List.forall_mem_cons.mp hkeeps
    have hfirst := locked_through ha a.call s
    rw [toNat_isSome] at hfirst
    have hothers := ih (finalState (a.call.through a.transport s)) hrest
    have hafter : s.afterAll (a :: rest) = (finalState (a.call.through a.transport s)).afterAll rest := rfl
    rw [hafter, transfers, transfers]
    omega

/-- A start that is interrupted leaves a locked session, although nothing was started. -/
example : (({ id := .str "s1" } : Session).afterAll [⟨.start (.str "Survey") .none .none, .cancelled⟩]) =
    { id := .str "s1", locked := true } := rfl

private theorem transfers_interrupted (s : Session) (attempts : List Attempt)
    (h : ∀ a ∈ attempts, a.transport.Uninterrupted) : s.transfers .interrupted attempts = 0 := by
  induction attempts generalizing s with
  | nil => rfl
  | cons a rest ih =>
    obtain ⟨ha, hrest⟩ := List.forall_mem_cons.mp h
    rw [transfers, ih _ hrest, decide_eq_false (transfers?_ne_interrupted ha a.call s)]
    rfl

/-- A start fails, the next one succeeds, and the message after it is refused. -/
def retriedStart : List Attempt :=
  [⟨.start (.str "Survey") .none .none, .broken .transportDown⟩, ⟨.start (.str "Survey") .none .none, .memory⟩,
    ⟨.send (.str "too late"), .memory⟩]

end Session

end Colloquy
