import Colloquy.App.Dispatch
import Colloquy.Proofs.Compile.Growth
import Colloquy.Proofs.Flow.KeysBelow

/-!
# Where notifications go

Which handler a notification picks is said by a relation that follows the words of the dialog: the event, what the
user picked or said, and what is registered for it. It picks one handler at most, and dispatching calls this one or
notes that there is none. Keys come from outside, so a key may be anything at all; a key of another dialog is no key of
this one.
-/

namespace Colloquy

namespace FlowKey

private theorem ofText_foreign {dialog other : String} (hother : other ≠ dialog) (rest key : String) :
    ofText dialog (other ++ ":" ++ rest) ≠ .ok key := by
  have htext : (other ++ ":" ++ rest).toList = other.toList ++ ':' :: rest.toList := by simp [String.toList_append]
  have hback := Text.intercalate_splitWhen ':' other.toList
  have hsplit := Text.splitWhen_append_cons (p := (· == ':')) (c := ':') (by rfl) other.toList rest.toList
  intro h
  unfold ofText pieces at h
  rw [htext, hsplit] at h
  -- one colon means that the qualifier is all of the other name
  match ho : Text.splitWhen (· == ':') other.toList, hr : Text.splitWhen (· == ':') rest.toList with
  | [], _ => exact absurd ho (Text.splitWhen_ne_nil _)
  | _, [] => exact absurd hr (Text.splitWhen_ne_nil _)
  | [piece], [_] =>
    rw [ho, List.intercalate_singleton] at hback
    simp [ho, hr, hback, hother] at h
  | [_], _ :: _ :: _ => simp [ho, hr] at h
  | _ :: _ :: [], _ :: _ => simp [ho, hr] at h
  | _ :: _ :: _ :: _, _ :: _ => simp [ho, hr] at h

end FlowKey

/-! ## Handlers of keys -/

namespace Program

variable {p : Program} {table : EventTable} {key : String} {handler other : EventHandler}

/-- The handler that answers a key: the one that a table holds for it, or else the flow of the dialog that has it. -/
inductive Serves (p : Program) (table : EventTable) (key : String) : EventHandler → Prop
  | registered {handler : EventHandler} (hentry : table.get? (.str key) = some handler) (hset : handler.isSet = true) :
    Serves p table key handler
  | flow {flow : FlowHandler} (hfree : ∀ handler, table.get? (.str key) = some handler → handler.isSet = false)
    (hflow : p.find (.str key) = .ok flow) : Serves p table key (.resume (.str key))

private theorem contains_iff_find (p : Program) (path : Value) :
    p.contains path = true ↔ ∃ flow, p.find path = .ok flow := by
  unfold contains find
  cases p.key path with
  | error e => simp [bind, Except.bind]
  | ok key =>
    dsimp only
    rw [any_eq_isSome_lookup]
    cases hlookup : p.flows.lookup key <;> simp [bind, Except.bind, pure, Except.pure, hlookup]

private theorem serves_iff (p : Program) (table : EventTable) (key : String) (handler : EventHandler) :
    ((table.get? (.str key)).filter EventHandler.isSet).or (p.flowHandler? (.str key)) = some handler ↔
      p.Serves table key handler := by
  have hflow : p.flowHandler? (.str key) = some handler ↔
      (∃ flow, p.find (.str key) = .ok flow) ∧ EventHandler.resume (.str key) = handler := by
    unfold flowHandler?
    rw [← contains_iff_find]
    cases p.contains (.str key) <;> simp
  rw [Option.or_eq_some_iff, Option.filter_eq_some_iff, Option.filter_eq_none_iff, hflow]
  constructor
  · rintro (⟨hentry, hset⟩ | ⟨hfree, ⟨flow, hfind⟩, rfl⟩)
    · exact .registered hentry hset
    · exact .flow (fun own hown => by simpa using hfree own hown) hfind
  · intro h
    cases h with
    | registered hentry hset => exact .inl ⟨hentry, hset⟩
    | flow hfree hfind => exact .inr ⟨fun own hown => by simp [hfree own hown], ⟨_, hfind⟩, rfl⟩

private theorem Serves.unique (h : p.Serves table key handler) (h' : p.Serves table key other) : handler = other := by
  rw [← serves_iff] at h h'
  exact Option.some.inj (h.symm.trans h')

/-- A key that another dialog qualifies is answered by what is registered for this very text, and by no flow. -/
theorem Serves.registered_of_foreign {qualifier rest : String} (h : p.Serves table (qualifier ++ ":" ++ rest) handler)
    (hqualifier : qualifier ≠ p.dialog.name) : table.get? (.str (qualifier ++ ":" ++ rest)) = some handler := by
  cases h with
  | registered hentry => exact hentry
  | flow _ hflow =>
    cases hkey : p.key (.str (qualifier ++ ":" ++ rest)) with
    | error e => simp [find, hkey, bind, Except.bind] at hflow
    | ok own => exact absurd hkey (FlowKey.ofText_foreign hqualifier rest own)

end Program

namespace DialogApp

variable {m : Machine} {n : Notification} {d : MessageData} {handler other : EventHandler} {value own : Value}

/-! ## What a notification picks -/

def Carries (text : Option String) (key : String) : Prop := text = some key ∧ key ≠ ""

/-- What is picked by something that a user said or picked. -/
inductive PicksInput (m : Machine) (d : MessageData) : EventHandler → Value → Prop
  | payload {key : String} {handler : EventHandler} (hkey : Carries d.payload key)
    (hserves : m.program.Serves m.program.dialog.payloads key handler) : PicksInput m d handler (.ofText? d.text)
  | postback {key : String} {handler : EventHandler} (hpayload : ∀ key, ¬Carries d.payload key)
    (hkey : Carries d.postback key) (hserves : m.program.Serves m.program.dialog.postbacks key handler) :
    PicksInput m d handler d.args
  | intent {intent : String} {handler : EventHandler} (hpayload : ∀ key, ¬Carries d.payload key)
    (hpostback : ∀ key, ¬Carries d.postback key) (hintent : Carries d.intent intent)
    (hentry : m.program.dialog.intents.get? (.str intent) = some handler) (hset : handler.isSet = true) :
    PicksInput m d handler (.record d.entities)
  | default {handler : EventHandler} (hpayload : ∀ key, ¬Carries d.payload key)
    (hpostback : ∀ key, ¬Carries d.postback key)
    (hfree : ∀ intent handler, Carries d.intent intent →
      m.program.dialog.intents.get? (.str intent) = some handler → handler.isSet = false)
    (hdefault : m.program.dialog.default = some handler) : PicksInput m d handler d.toValue

inductive Picks (m : Machine) (n : Notification) : EventHandler → Value → Prop
  | start {handler : EventHandler} (hevent : n.event = "frame_start") (hstart : m.program.dialog.start = some handler) :
    Picks m n handler .none
  | result {frame : DialogFrame} {handler : EventHandler} (hevent : n.event = "frame_result" ∨ n.event = "frame_end")
    (hframe : n.session.completed = some frame)
    (hresult : m.program.dialog.resultHandler? (.ofText? frame.dialog) (.ofText? frame.tag) = some handler) :
    Picks m n handler frame.result
  | input {handler : EventHandler} {value : Value} (hevent : n.event = "frame_input" ∨ n.event = "frame_message")
    (hinput : PicksInput m n.data handler value) : Picks m n handler value
  | default {handler : EventHandler} (hevent : n.event = "frame_default")
    (hdefault : m.program.dialog.default = some handler) : Picks m n handler n.data.toValue

private theorem Carries.unique {text : Option String} {key key' : String} (h : Carries text key)
    (h' : Carries text key') :
    key = key' :=
  Option.some.inj (h.1.symm.trans h'.1)

private theorem PicksInput.unique (h : PicksInput m d handler value) (h' : PicksInput m d other own) :
    handler = other ∧ value = own := by
  cases h with
  | payload hkey hserves =>
    cases h' with
    | payload hkey' hserves' =>
      obtain rfl := hkey.unique hkey'
      exact ⟨hserves.unique hserves', rfl⟩
    | postback hpayload | intent hpayload | default hpayload => exact absurd hkey (hpayload _)
  | postback hpayload hkey hserves =>
    cases h' with
    | payload hkey' => exact absurd hkey' (hpayload _)
    | postback _ hkey' hserves' =>
      obtain rfl := hkey.unique hkey'
      exact ⟨hserves.unique hserves', rfl⟩
    | intent _ hpostback | default _ hpostback => exact absurd hkey (hpostback _)
  | intent hpayload hpostback hintent hentry hset =>
    cases h' with
    | payload hkey' => exact absurd hkey' (hpayload _)
    | postback _ hkey' => exact absurd hkey' (hpostback _)
    | intent _ _ hintent' hentry' =>
      obtain rfl := hintent.unique hintent'
      exact ⟨Option.some.inj (hentry.symm.trans hentry'), rfl⟩
    | default _ _ hfree => simp [hfree _ _ hintent hentry] at hset
  | default hpayload hpostback hfree hdefault =>
    cases h' with
    | payload hkey' => exact absurd hkey' (hpayload _)
    | postback _ hkey' => exact absurd hkey' (hpostback _)
    | intent _ _ hintent hentry hset => simp [hfree _ _ hintent hentry] at hset
    | default _ _ _ hdefault' => exact ⟨Option.some.inj (hdefault.symm.trans hdefault'), rfl⟩

private theorem Picks.unique (h : Picks m n handler value) (h' : Picks m n other own) :
    handler = other ∧ value = own := by
  cases h with
  | start hevent hstart =>
    cases h' with
    | start _ hstart' => exact ⟨Option.some.inj (hstart.symm.trans hstart'), rfl⟩
    | result hevent' | input hevent' | default hevent' => simp [hevent] at hevent'
  | result hevent hframe hresult =>
    cases h' with
    | result _ hframe' hresult' =>
      obtain rfl := Option.some.inj (hframe.symm.trans hframe')
      exact ⟨Option.some.inj (hresult.symm.trans hresult'), rfl⟩
    | start hevent' | input hevent' | default hevent' => rcases hevent with hevent | hevent <;> simp [hevent] at hevent'
  | input hevent hinput =>
    cases h' with
    | input _ hinput' => exact hinput.unique hinput'
    | start hevent' | result hevent' | default hevent' => rcases hevent with hevent | hevent <;> simp [hevent] at hevent'
  | default hevent hdefault =>
    cases h' with
    | default _ hdefault' => exact ⟨Option.some.inj (hdefault.symm.trans hdefault'), rfl⟩
    | start hevent' | result hevent' | input hevent' => simp [hevent] at hevent'

/-! ## Dispatching -/

/-- Calls the handler that is picked, or only notes that there is none. -/
def Settles (m : Machine) (picks : EventHandler → Value → Prop) (x : Run Unit) : Prop :=
  (∃ handler value, picks handler value ∧ x = m.handle handler value) ∨
    (∀ handler value, ¬picks handler value) ∧ ∃ severity message, x = Run.log severity message

private theorem filter_eq_some_iff_carries {text : Option String} {key : String} :
    text.filter (!·.isEmpty) = some key ↔ Carries text key := by
  simp [Carries, Option.filter_eq_some_iff]

private theorem filter_eq_none_iff_carries {text : Option String} :
    text.filter (!·.isEmpty) = none ↔ ∀ key, ¬Carries text key := by
  simp [Carries, Option.filter_eq_none_iff]

private theorem intentHandler_eq_some_iff {text : Option String} {table : EventTable} :
    ((text.filter (!·.isEmpty)).bind fun intent => (table.get? (.str intent)).filter EventHandler.isSet) =
        some handler ↔
      ∃ intent, Carries text intent ∧ table.get? (.str intent) = some handler ∧ handler.isSet = true := by
  simp [Carries, Option.bind_eq_some_iff, Option.filter_eq_some_iff]

private theorem settles_call {picks : EventHandler → Value → Prop} {found : Option EventHandler} (description : String)
    (hpicks : ∀ handler own, picks handler own ↔ found = some handler ∧ own = value) :
    Settles m picks (call m found value description) := by
  cases found with
  | none => exact .inr ⟨by simp [hpicks], _, _, rfl⟩
  | some handler => exact .inl ⟨handler, value, by simp [hpicks], rfl⟩

private theorem settles_dispatchInput (m : Machine) (n : Notification) :
    Settles m (PicksInput m n.data) (dispatchInput m n) := by
  unfold dispatchInput
  dsimp only
  cases hpayload : n.data.payload.filter (!·.isEmpty) with
  | some key =>
    rw [filter_eq_some_iff_carries] at hpayload
    refine settles_call key fun handler own => ?_
    rw [Program.payloadHandler?, Program.serves_iff]
    constructor
    · intro h
      cases h with
      | payload hkey hserves =>
        obtain rfl := hpayload.unique hkey
        exact ⟨hserves, rfl⟩
      | postback hnone | intent hnone | default hnone => exact absurd hpayload (hnone _)
    · rintro ⟨hserves, rfl⟩
      exact .payload hpayload hserves
  | none =>
    rw [filter_eq_none_iff_carries] at hpayload
    cases hpostback : n.data.postback.filter (!·.isEmpty) with
    | some key =>
      rw [filter_eq_some_iff_carries] at hpostback
      refine settles_call key fun handler own => ?_
      rw [Program.postbackHandler?, Program.serves_iff]
      constructor
      · intro h
        cases h with
        | payload hkey => exact absurd hkey (hpayload _)
        | postback _ hkey hserves =>
          obtain rfl := hpostback.unique hkey
          exact ⟨hserves, rfl⟩
        | intent _ hnone | default _ hnone => exact absurd hpostback (hnone _)
      · rintro ⟨hserves, rfl⟩
        exact .postback hpayload hpostback hserves
    | none =>
      rw [filter_eq_none_iff_carries] at hpostback
      dsimp only
      split
      · rename_i handler hintent
        obtain ⟨intent, hgiven, hentry, hset⟩ := intentHandler_eq_some_iff.mp hintent
        exact .inl ⟨handler, _, .intent hpayload hpostback hgiven hentry hset, rfl⟩
      · rename_i handler hintent hdefault
        refine .inl ⟨handler, _, .default hpayload hpostback (fun intent own hgiven hentry => ?_) hdefault, rfl⟩
        have hunset : own.isSet ≠ true := fun hset => by
          simpa [hintent] using intentHandler_eq_some_iff.mpr ⟨intent, hgiven, hentry, hset⟩
        simpa using hunset
      · rename_i hintent hdefault
        refine .inr ⟨fun handler value h => ?_, _, _, rfl⟩
        cases h with
        | payload hkey => exact hpayload _ hkey
        | postback _ hkey => exact hpostback _ hkey
        | intent _ _ hgiven hentry hset =>
          simpa [hintent] using intentHandler_eq_some_iff.mpr ⟨_, hgiven, hentry, hset⟩
        | default _ _ _ hown => simp [hdefault] at hown

private theorem settles_dispatchResult (hevent : n.event = "frame_result" ∨ n.event = "frame_end") :
    Settles m (Picks m n) (dispatchResult m n) := by
  have hresult {handler : EventHandler} {value : Value} (h : Picks m n handler value) :
      ∃ frame, n.session.completed = some frame ∧
        m.program.dialog.resultHandler? (.ofText? frame.dialog) (.ofText? frame.tag) = some handler := by
    cases h with
    | result _ hframe hhandler => exact ⟨_, hframe, hhandler⟩
    | start hother | input hother | default hother => rcases hevent with hevent | hevent <;> simp [hevent] at hother
  unfold dispatchResult
  dsimp only
  cases hframe : n.session.completed with
  | none => exact .inr ⟨fun handler value h => by simpa [hframe] using hresult h, _, _, rfl⟩
  | some frame =>
    dsimp only
    cases hhandler : m.program.dialog.resultHandler? (.ofText? frame.dialog) (.ofText? frame.tag) with
    | none => exact .inr ⟨fun handler value h => by simpa [hframe, hhandler] using hresult h, _, _, rfl⟩
    | some handler => exact .inl ⟨handler, frame.result, .result hevent hframe hhandler, rfl⟩

private theorem settles_dispatch (m : Machine) (n : Notification) : Settles m (Picks m n) (dispatch m n) := by
  have hinput (hevent : n.event = "frame_input" ∨ n.event = "frame_message") :
      Settles m (Picks m n) (dispatchInput m n) := by
    rcases settles_dispatchInput m n with ⟨handler, value, h, heq⟩ | ⟨hnone, hlog⟩
    · exact .inl ⟨handler, value, .input hevent h, heq⟩
    · refine .inr ⟨fun handler value h => ?_, hlog⟩
      cases h with
      | input _ h => exact hnone _ _ h
      | start hother | result hother | default hother => rcases hevent with hevent | hevent <;> simp [hevent] at hother
  unfold dispatch
  dsimp only
  split
  · rename_i hevent
    refine settles_call _ fun handler own => ⟨fun h => ?_, ?_⟩
    · cases h with
      | start _ hstart => exact ⟨hstart, rfl⟩
      | result hother | input hother | default hother => simp [hevent] at hother
    · rintro ⟨hstart, rfl⟩
      exact .start hevent hstart
  · rename_i hevent
    exact settles_dispatchResult (.inl hevent)
  · rename_i hevent
    exact settles_dispatchResult (.inr hevent)
  · rename_i hevent
    exact hinput (.inl hevent)
  · rename_i hevent
    exact hinput (.inr hevent)
  · rename_i hevent
    refine settles_call _ fun handler own => ⟨fun h => ?_, ?_⟩
    · cases h with
      | default _ hdefault => exact ⟨hdefault, rfl⟩
      | start hother | result hother | input hother => simp [hevent] at hother
    · rintro ⟨hdefault, rfl⟩
      exact .default hevent hdefault
  · refine .inr ⟨fun handler value h => ?_, _, _, rfl⟩
    cases h <;> simp_all

/-! ## Applications -/

end DialogApp

mutual

def DialogSource.machines : DialogSource → List Machine
  | .dialog m => [m]
  | .group sources => machinesIn sources
  | .other _ => []
termination_by structural source => source

def DialogSource.machinesIn : List DialogSource → List Machine
  | [] => []
  | source :: rest => source.machines ++ machinesIn rest
termination_by structural sources => sources

end

namespace DialogApp

variable {m : Machine} {n : Notification} {a : DialogApp}

/-- Each dialog stands under its own name, which is not empty. -/
def Named (a : DialogApp) : Prop := ∀ entry ∈ a.dialogs, entry.1 = entry.2.program.dialog.name ∧ entry.1 ≠ ""

private theorem named_addDialog (ha : a.Named) (hname : m.program.dialog.name ≠ "") :
    (a.addDialog m).Named ∧ (a.addDialog m).hooks = a.hooks := by
  unfold addDialog
  dsimp only
  split
  · refine ⟨fun entry hmem => ?_, rfl⟩
    obtain ⟨⟨k, old⟩, hold, rfl⟩ := List.mem_map.mp hmem
    dsimp only
    split
    · rename_i hk
      exact ⟨eq_of_beq hk, by rwa [eq_of_beq hk]⟩
    · exact ha _ hold
  · refine ⟨fun entry hmem => ?_, rfl⟩
    rcases List.mem_append.mp hmem with hold | hnew
    · exact ha entry hold
    · obtain rfl := List.mem_singleton.mp hnew
      exact ⟨rfl, hname⟩

mutual

theorem named_addSource {a b : DialogApp} (ha : a.Named) {source : DialogSource} (h : a.addSource source = .ok b)
    (hnames : ∀ m ∈ source.machines, m.program.dialog.name ≠ "") : b.Named ∧ b.hooks = a.hooks := by
  cases source with
  | dialog m =>
    obtain rfl := Except.ok.inj h
    exact named_addDialog ha (hnames m List.mem_cons_self)
  | group sources => exact named_addSources ha h hnames
  | other v => cases h
termination_by structural source

private theorem named_addSources {a b : DialogApp} (ha : a.Named) {sources : List DialogSource}
    (h : a.addSources sources = .ok b)
    (hnames : ∀ m ∈ DialogSource.machinesIn sources, m.program.dialog.name ≠ "") : b.Named ∧ b.hooks = a.hooks := by
  cases sources with
  | nil =>
    obtain rfl := Except.ok.inj h
    exact ⟨ha, rfl⟩
  | cons source rest =>
    obtain ⟨hfirst, hrest⟩ := List.forall_mem_append.mp hnames
    rw [addSources] at h
    cases hadded : a.addSource source with
    | error e => simp [hadded, bind, Except.bind] at h
    | ok c =>
      simp only [hadded, bind, Except.bind] at h
      obtain ⟨hc, hhooks⟩ := named_addSource ha hadded hfirst
      obtain ⟨hb, hhooks'⟩ := named_addSources hc h hrest
      exact ⟨hb, hhooks'.trans hhooks⟩
termination_by structural sources

end

/-- The dialog that runs the current frame of the session that a notification is about. -/
def Runs (a : DialogApp) (n : Notification) (m : Machine) : Prop :=
  n.session.currentFrame.dialog = some m.program.dialog.name ∧ a.dialogs.lookup m.program.dialog.name = some m

private theorem lookup_iff_runs (ha : a.Named) :
    a.dialogs.lookup (n.session.currentFrame.dialog.getD "") = some m ↔ a.Runs n m := by
  constructor
  · intro h
    obtain ⟨before, after, hsplit, -⟩ := List.lookup_eq_some_iff.mp h
    have hmem : (n.session.currentFrame.dialog.getD "", m) ∈ a.dialogs := by simp [hsplit]
    obtain ⟨hname, hne⟩ := ha _ hmem
    cases hframe : n.session.currentFrame.dialog with
    | none => simp [hframe] at hne
    | some name =>
      have hown : name = m.program.dialog.name := by simpa [hframe] using hname
      rw [hframe] at h
      exact ⟨by rw [hframe, hown], by simpa [hown] using h⟩
  · rintro ⟨hframe, hlookup⟩
    simpa [hframe] using hlookup

def tell (hooks : List (String × (Notification → Run Unit))) (n : Notification) : Run Unit :=
  match hooks.lookup n.event with
  | some hook => hook n
  | none => pure ()

private theorem handle_eq (a : DialogApp) (n : Notification) (w : World) :
    a.handle n w =
      match tell a.hooks n w with
      | .ok _ w' => if n.concernsFrame then a.handleFrame n w' else .ok () w'
      | .error e w' => .error e w' := by
  unfold handle tell
  cases a.hooks.lookup n.event with
  | none => cases n.concernsFrame <;> rfl
  | some hook =>
    change EStateM.bind (hook n) _ w = _
    unfold EStateM.bind
    dsimp only
    cases hook n w with
    | error e w' => rfl
    | ok u w' => cases n.concernsFrame <;> rfl

private theorem handleFrame_eq (a : DialogApp) (n : Notification) (w : World) :
    a.handleFrame n w =
      match a.dialogs.lookup (n.session.currentFrame.dialog.getD "") with
      | some m => dispatch m n { w with session := n.session.toSession }
      | none =>
        Run.log .warning
          ("No dialog named " ++ n.session.toSession.dialog.repr ++ " for session " ++ n.session.id)
          { w with session := n.session.toSession } := by
  unfold handleFrame
  cases a.dialogs.lookup (n.session.currentFrame.dialog.getD "") <;> rfl

/-- Whatever strings a notification is made of: it is told to the hook of its event, if there is one, and nothing else
happens unless its event concerns frames. Then exactly one handler is called, the one that it picks of the dialog that
runs the current frame, or there is no such handler, and all that happens is that a record is logged: the session has
had no effect. A key that is qualified with the name of another dialog is answered by nothing but what is registered
for it. -/
theorem notifications_pick_one_handler {hooks : List (String × (Notification → Run Unit))}
    {sources : List DialogSource} (hadded : addSources { hooks } sources = .ok a)
    (hnames : ∀ m ∈ DialogSource.machinesIn sources, m.program.dialog.name ≠ "") (n : Notification) (w : World) :
    (∀ e w', tell hooks n w = .error e w' → a.handle n w = .error e w') ∧
    (∀ w', tell hooks n w = .ok () w' →
      (n.event.startsWith "frame_" = false → a.handle n w = .ok () w') ∧
      (n.event.startsWith "frame_" = true →
        (∃ m handler value, a.Runs n m ∧ Picks m n handler value ∧
          (∀ m' handler' value', a.Runs n m' → Picks m' n handler' value' →
            m' = m ∧ handler' = handler ∧ value' = value) ∧
          a.handle n w = m.handle handler value { w' with session := n.session.toSession }) ∨
        ((∀ m handler value, a.Runs n m → ¬Picks m n handler value) ∧
          ∃ record, a.handle n w =
            .ok () { w' with session := n.session.toSession, logs := w'.logs ++ [record] }))) ∧
    n.session.toSession.history = [] ∧
    (∀ (p : Program) (table : EventTable) (qualifier rest : String) (handler : EventHandler),
      p.Serves table (qualifier ++ ":" ++ rest) handler → qualifier ≠ p.dialog.name →
        table.get? (.str (qualifier ++ ":" ++ rest)) = some handler) := by
  have hempty : ({ hooks } : DialogApp).Named := nofun
  obtain ⟨hnamed, rfl⟩ := named_addSources hempty hadded hnames
  refine ⟨fun e w' htold => ?_, fun w' htold => ⟨fun hevent => ?_, fun hevent => ?_⟩, rfl,
    fun p table qualifier rest handler hserves hne => hserves.registered_of_foreign hne⟩
  · rw [handle_eq, htold]
  · have hframe : n.concernsFrame = false := hevent
    simp only [handle_eq, htold, hframe, Bool.false_eq_true, if_false]
  · have hframe : n.concernsFrame = true := hevent
    simp only [handle_eq, htold, hframe, if_true, handleFrame_eq]
    cases hlookup : a.dialogs.lookup (n.session.currentFrame.dialog.getD "") with
    | none =>
      refine .inr ⟨fun m handler value hruns => ?_, _, rfl⟩
      simpa [hlookup] using (lookup_iff_runs hnamed).mpr hruns
    | some m =>
      have hruns := (lookup_iff_runs hnamed).mp hlookup
      have honly (m' : Machine) (h : a.Runs n m') : m' = m :=
        Option.some.inj (((lookup_iff_runs hnamed).mpr h).symm.trans hlookup)
      dsimp only
      rcases settles_dispatch m n with ⟨handler, value, hpicks, heq⟩ | ⟨hnone, severity, message, heq⟩
      · refine .inl ⟨m, handler, value, hruns, hpicks, fun m' handler' value' hruns' hpicks' => ?_, by rw [heq]⟩
        obtain rfl := honly m' hruns'
        exact ⟨rfl, hpicks'.unique hpicks⟩
      · refine .inr ⟨fun m' handler value hruns' => ?_, _, by rw [heq]; rfl⟩
        rw [honly m' hruns']
        exact hnone handler value

/-- A dialog that notes down one answer. -/
def poll : Machine :=
  ⟨⟨fun _ _ => pure .none⟩, [], { dialog := { name := "Poll", payloads := [(.str "yes", .note "agreed")] } }⟩

def pollAnswer : Notification where
  event := "frame_input"
  session := { id := "s1", stack := [{ dialog := some "Poll" }] }
  data := { payload := some "yes" }

theorem pollAnswer_picks_one_handler :
    handle ⟨[("Poll", poll)], []⟩ pollAnswer { session := { id := .str "s0" } } =
      poll.handle (.note "agreed") .none { session := pollAnswer.session.toSession } := by
  have hadded : addSources { hooks := [] } [.dialog poll] = .ok ⟨[("Poll", poll)], []⟩ := rfl
  have hnames : ∀ m ∈ DialogSource.machinesIn [.dialog poll], m.program.dialog.name ≠ "" := by
    simp [DialogSource.machinesIn, DialogSource.machines, poll]
  have hruns : Runs ⟨[("Poll", poll)], []⟩ pollAnswer poll := ⟨rfl, rfl⟩
  have hentry : poll.program.dialog.payloads.get? (.str "yes") = some (.note "agreed") := by
    simp [poll, EventTable.get?, Value.same_str, Value.text?]
  have hpicks : Picks poll pollAnswer (.note "agreed") .none :=
    .input (.inl rfl) (.payload ⟨rfl, by decide⟩ (.registered hentry rfl))
  have hframe : pollAnswer.event.startsWith "frame_" = true := by simp [pollAnswer]
  have hroute := (notifications_pick_one_handler hadded hnames pollAnswer { session := { id := .str "s0" } }).2.1
  rcases (hroute _ rfl).2 hframe with ⟨m, handler, value, -, -, honly, heq⟩ | ⟨hnone, -⟩
  · obtain ⟨rfl, rfl, rfl⟩ := honly poll _ _ hruns hpicks
    exact heq
  · exact absurd hpicks (hnone poll _ _ hruns)

end DialogApp

end Colloquy
