import Colloquy.Compile.Message
import Colloquy.Proofs.Session.Effects

/-!
# Events that close a request

After a frame was started or finished the session belongs to someone else, and after a question it is the user's
turn. A request goes on as long as it has only done other things.
-/

namespace Colloquy

def Value.offersReply : Value → Bool
  | .dict _ entries => repliesIn (Entries.named entries "actions")
  | _ => false

/-- Whether a message that was sent offers a reply, itself or on one of its items. -/
def Entries.offersReply (message : Entries) : Bool :=
  repliesIn (Entries.named message "actions") ||
    match Entries.named message "items" with
    | .list _ items => items.any Value.offersReply
    | _ => false

namespace SessionEvent

/-- Whether a frame was started or finished. -/
def isTransfer : SessionEvent → Bool
  | .started _ | .finished _ => true
  | _ => false

/-- Whether nothing may come after an event: it is a transfer or an open question. -/
def closes : SessionEvent → Bool
  | .sent message => Entries.offersReply message
  | event => event.isTransfer

private theorem closes_of_isTransfer {event : SessionEvent} (h : event.isTransfer = true) : event.closes = true := by
  cases event with
  | started | finished => rfl
  | _ => cases h

end SessionEvent

namespace Session

variable {s s₁ s₂ : Session}

/-- All that the first session has done since, up to the second one, is open, and neither of them is locked more
than the other. -/
structure GoesOn (s s' : Session) : Prop where
  locked : s'.locked = s.locked
  history : ∃ events, s'.history = s.history ++ events ∧ ∀ event ∈ events, event.closes = false

/-- The last thing that the first session has done since, up to the second one, closes, and all before is open. -/
def Closes (s s' : Session) : Prop :=
  ∃ events last, s'.history = s.history ++ (events ++ [last]) ∧ (∀ event ∈ events, event.closes = false) ∧
    last.closes = true

private theorem GoesOn.of_quiet (h : s.Quiet s₁) : s.GoesOn s₁ := ⟨h.locked, [], by simp [h.history], nofun⟩

theorem GoesOn.refl (s : Session) : s.GoesOn s := .of_quiet (.refl s)

theorem GoesOn.trans (h : s.GoesOn s₁) (h' : s₁.GoesOn s₂) : s.GoesOn s₂ := by
  obtain ⟨events, hevents, hopen⟩ := h.history
  obtain ⟨events', hevents', hopen'⟩ := h'.history
  refine ⟨h'.locked.trans h.locked, events ++ events', ?_, ?_⟩
  · rw [hevents', hevents, List.append_assoc]
  · exact List.forall_mem_append.mpr ⟨hopen, hopen'⟩

theorem GoesOn.closes (h : s.GoesOn s₁) (h' : s₁.Closes s₂) : s.Closes s₂ := by
  obtain ⟨events, hevents, hopen⟩ := h.history
  obtain ⟨events', last, hevents', hopen', hlast⟩ := h'
  refine ⟨events ++ events', last, ?_, List.forall_mem_append.mpr ⟨hopen, hopen'⟩, hlast⟩
  rw [hevents', hevents, List.append_assoc, List.append_assoc]

theorem goesOn_record (event : SessionEvent) (h : event.closes = false) (s : Session) : s.GoesOn (s.record event) :=
  ⟨rfl, [event], rfl, by simpa using h⟩

theorem closes_record (event : SessionEvent) (h : event.closes = true) (s : Session) : s.Closes (s.record event) :=
  ⟨[], event, rfl, nofun, h⟩

/-- What a session did until it was left, closed or not: nothing but the last event closes, so at most one frame was
started or finished. -/
theorem events_of_goesOn_or_closes (h : s.GoesOn s₁ ∨ s.Closes s₁) :
    ∃ events, s₁.history = s.history ++ events ∧ (∀ event ∈ events.dropLast, event.closes = false) ∧
      events.countP SessionEvent.isTransfer ≤ 1 := by
  have hcount (events : List SessionEvent) (hopen : ∀ event ∈ events, event.closes = false) :
      events.countP SessionEvent.isTransfer = 0 := by
    refine List.countP_eq_zero.mpr fun event hevent htransfer => ?_
    exact Bool.noConfusion ((hopen event hevent).symm.trans (SessionEvent.closes_of_isTransfer htransfer))
  obtain ⟨-, events, hevents, hopen⟩ | ⟨events, last, hevents, hopen, -⟩ := h
  · exact ⟨events, hevents, fun event hevent => hopen event (List.dropLast_subset events hevent), by
      simp [hcount events hopen]⟩
  · refine ⟨events ++ [last], hevents, by simpa using hopen, ?_⟩
    rw [List.countP_append, hcount events hopen, Nat.zero_add]
    exact List.countP_le_length

/-! ## Effects -/

def Opens (effect : Effect Unit) (s : Session) : Prop :=
  match effect s with
  | .ok _ s' => s.GoesOn s'
  | .error e s' => s.GoesOn s' ∧ e ≠ .sessionLocked

theorem save_opens (values : Value) (hlock : s.locked = false) : Opens (save values) s := by
  have hset : s.Assigns ((if values.truthy then set values .none else pure ()) s) := by
    split
    · exact s.assigns_set values .none
    · exact .refl s
  unfold Opens
  rw [save_eq values hlock]
  generalize (if values.truthy then set values .none else pure () : Effect Unit) s = r at hset
  cases r with
  | ok u s' => exact (GoesOn.of_quiet hset).trans (goesOn_record _ rfl s')
  | error e s' =>
    obtain ⟨hquiet, name, rfl⟩ := hset
    exact ⟨.of_quiet hquiet, nofun⟩

/-- An effect that, in an unlocked session, closes the request or fails and changes nothing. -/
def Shuts (effect : Effect Unit) (s : Session) : Prop :=
  match effect s with
  | .ok _ s' => s.Closes s'
  | .error e s' => s' = s ∧ e ≠ .sessionLocked

theorem start_shuts (dialog tag locals : Value) (hlock : s.locked = false) : Shuts (start dialog tag locals) s := by
  unfold Shuts
  rw [start_eq dialog tag locals hlock]
  cases hframe : newFrame dialog tag locals with
  | error e =>
    obtain ⟨f, rfl⟩ := newFrame_error hframe
    exact ⟨rfl, nofun⟩
  | ok frame =>
    cases s.transportDown with
    | true => exact ⟨rfl, nofun⟩
    | false => exact closes_record (.started frame) rfl s

theorem finish_shuts (result : Value) (hlock : s.locked = false) : Shuts (finish result) s := by
  unfold Shuts
  rw [finish_eq result hlock]
  cases s.transportDown with
  | true => exact ⟨rfl, nofun⟩
  | false => exact closes_record (.finished result) rfl s

end Session

end Colloquy
