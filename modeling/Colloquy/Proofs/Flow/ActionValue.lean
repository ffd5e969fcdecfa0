import Colloquy.Proofs.Flow.Canonical

/-!
# Commands in the place of actions

The value of an action may be the flow that it runs. A command stands there as a flow of one command, and it is kept
whole unless it has a `then` of its own: then it passes for an action that runs only what is under `then`, and what else
it says becomes extra fields.
-/

namespace Colloquy

namespace Normal

variable {entries : Entries} {name : String}

/-- Keys that tell an action apart from a command. -/
def actionKeys : List String := ["type", "text", "mediaUrl", "uri", "amount", "thenFlow"]

/-! ## What a mapping stands for -/

private theorem typeNames_of_inferCommandType {word : String} (h : inferCommandType entries = some word) :
    word ∈ Command.typeNames := by
  unfold inferCommandType at h
  split at h
  · cases h
    decide
  · split at h
    · cases h
      decide
    · obtain ⟨rule, hrule, rfl⟩ := Option.map_eq_some_iff.mp h
      have hwords : ∀ rule ∈ inferenceKeys, rule.2 ∈ Command.typeNames := by decide
      exact hwords rule (List.mem_of_find?_eq_some hrule)

private theorem hasName_of_inferCommandType (htext : Entries.named? entries "text" = none)
    (hmedia : Entries.named? entries "mediaUrl" = none) {word : String} (h : inferCommandType entries = some word) :
    ∃ name, Entries.hasName entries name = true ∧ ∀ names ∈ actionFields, name ∉ names := by
  unfold inferCommandType at h
  have hnone (name : String) (hname : Entries.named? entries name = none) :
      (Entries.named entries name).isNone = true := by rw [Entries.named, hname]; rfl
  rw [hnone _ hmedia, hnone _ htext] at h
  split at h
  · rename_i haddress
    refine ⟨"media_url", ?_, by decide⟩
    unfold Entries.hasName
    cases hfound : Entries.named? entries "media_url" with
    | some v => rfl
    | none => simp [hnone _ hfound] at haddress
  · rw [if_neg (by decide)] at h
    obtain ⟨rule, hrule, rfl⟩ := Option.map_eq_some_iff.mp h
    have hkeys : ∀ rule ∈ inferenceKeys, ∀ name ∈ rule.1, ∀ names ∈ actionFields, name ∉ names := by decide
    have hany := List.find?_some hrule
    obtain ⟨name, hname, hhas⟩ := List.any_eq_true.mp hany
    exact ⟨name, hhas, hkeys rule (List.mem_of_find?_eq_some hrule) name hname⟩

private theorem mem_extras {fields : List (List String)} (hname : Entries.hasName entries name = true)
    (hfields : ∀ names ∈ fields, name ∉ names) : name ∈ (Record.extras entries fields).2.map Prod.fst := by
  have hunused : ¬(fields.filterMap fun names => (Record.find? entries names).map (·.1)).contains name = true := by
    rw [List.contains_iff_mem]
    intro hused
    obtain ⟨names, hnames, hfound⟩ := List.mem_filterMap.mp hused
    obtain ⟨⟨_, _⟩, hfind, rfl⟩ := Option.map_eq_some_iff.mp hfound
    exact hfields names hnames (find?_eq_some hfind).1
  obtain ⟨⟨k, v⟩, hentry, hkey⟩ : ∃ entry ∈ entries, entry.1.text? = some name := by
    obtain ⟨v, hv⟩ := Option.isSome_iff_exists.mp hname
    obtain ⟨entry, hentry, -⟩ := Option.map_eq_some_iff.mp hv
    have hsame := List.find?_some hentry
    refine ⟨entry, List.mem_of_find?_eq_some hentry, ?_⟩
    simpa [Value.same_str] using hsame
  -- The entry puts the name among the extra fields, and what comes after it leaves it there.
  obtain ⟨before, after, hsplit⟩ := List.append_of_mem hentry
  unfold Record.extras
  dsimp only
  generalize hused : (fields.filterMap fun names => (Record.find? entries names).map (·.1)) = used at hunused
  rw [hsplit, List.foldl_append, List.foldl_cons]
  refine List.foldlRecOn (motive := fun acc : List FieldFault × Fields => name ∈ acc.2.map Prod.fst) after _ ?_ ?_
  · simp only [hkey, if_neg hunused]
    rw [putField_eq]
    exact mem_map_fst_putNamed.mpr (.inr rfl)
  · rintro ⟨faults, kept⟩ hkept ⟨k, v⟩ -
    dsimp only
    split
    · split
      · exact hkept
      · rw [putField_eq]
        exact mem_map_fst_putNamed.mpr (.inl hkept)
    · exact hkept

/-! ## The value of an action -/

private theorem actionInfo_eq_ok {raw : Value} {key : Option String} {keyIsText : Bool} {kind : ActionKind}
    {flow : Except Error (Option Flow)} {a : Action} (h : actionInfo raw entries key keyIsText kind flow = .ok a) :
    flow = .ok a.flow ∧ a.info.extras = (Record.extras entries actionFields).2 := by
  unfold actionInfo at h
  extract_lets given withId at h
  have hid {id : Option String} (h : withId id = .ok a) :
      flow = .ok a.flow ∧ a.info.extras = (Record.extras entries actionFields).2 := by
    obtain ⟨f, hf, h⟩ := bind_eq_ok.mp h
    dsimp only at h
    split at h
    · cases h
    · cases h
      exact ⟨hf, rfl⟩
  split at h
  · exact hid h
  · exact hid h
  · obtain ⟨id, -, h⟩ := bind_eq_ok.mp h
    exact hid h

private theorem flowAction_name (label : String) (kind : ActionKind) (flow : Flow) :
    flowAction (some label) (.str kind.name) flow = .ok (.mk { id := some label, kind, text := .str label } (some flow)) := by
  rw [flowAction, actionKind_name]
  rfl

private theorem named_eq_none (h : Entries.named? entries name = none) : Entries.named entries name = .none := by
  rw [Entries.named, h]
  rfl

private theorem commandType_of_untyped (h : Entries.named? entries "type" = none) :
    commandType entries = .ofText? (inferCommandType entries) := by
  unfold commandType
  rw [named_eq_none h]
  rfl

private theorem actionType_of_actionKeys (h : ∀ name ∈ actionKeys, Entries.named? entries name = none)
    (default : Value) :
    actionType entries default = if (Entries.named entries "then").isNone then .none else default := by
  have hnone (name : String) (hname : name ∈ actionKeys) : Entries.named entries name = .none :=
    named_eq_none (h name hname)
  unfold actionType inferActionType
  rw [hnone "type" (by decide), hnone "uri" (by decide), hnone "amount" (by decide), hnone "thenFlow" (by decide)]
  cases (Entries.named entries "then").isNone <;> rfl

variable {raw : Value} {parts : Parts} {c : Command}

private theorem inferCommandType_of_command (htype : Entries.named? entries "type" = none)
    (h : command raw entries parts = .ok c) : ∃ word, inferCommandType entries = some word := by
  cases hword : inferCommandType entries with
  | some word => exact ⟨word, rfl⟩
  | none =>
    unfold command at h
    rw [commandType_of_untyped htype, hword] at h
    cases h

/-- The action of a label that runs a command and nothing else. -/
def wholeAction (label : String) (kind : ActionKind) (c : Command) : Action :=
  .mk { id := some label, kind, text := .str label } (some [.command c])

section

variable {kind : ActionKind} {key : Value} {label : String} {id : Identity}

private theorem actions_singleton (hkey : idText key = .ok label) (own : Identity) (default v : Value) :
    actions default (.dict own [(key, v)]) = (action default (some label) true v).map fun a => .fixed [a] := by
  change (do return Actions.fixed (← actionMap default [(key, v)])) = _
  rw [actionMap, hkey]
  change ((do
    let a ← action default (some label) true v
    return a :: (← actionMap default [])) >>= fun as => pure (Actions.fixed as)) = _
  cases action default (some label) true v <;> rfl

private theorem action_of_list (hc : element (.dict id entries) = .ok (.command c)) (own : Identity) :
    action (.str kind.name) (some label) true (.list own [.dict id entries]) = .ok (wholeAction label kind c) := by
  have helements : elements [.dict id entries] = .ok [.command c] := by
    rw [elements, hc]
    rfl
  change (do flowAction (some label) (.str kind.name) (← elements [.dict id entries])) = _
  rw [helements]
  exact flowAction_name label kind _

private theorem command_of_element (hc : element (.dict id entries) = .ok (.command c)) :
    command (.dict id entries) entries ⟨fun name => flowUnder name entries,
      fun default name => actionsUnder default name entries, fun name => itemsUnder name entries,
      fun name => casesUnder name entries⟩ = .ok c := by
  obtain ⟨own, hown, hcommand⟩ := bind_eq_ok.mp hc
  cases hcommand
  exact hown

variable (hkeys : ∀ name ∈ actionKeys, Entries.named? entries name = none)
include hkeys

private theorem action_of_plain (hc : element (.dict id entries) = .ok (.command c))
    (hthen : (Entries.named entries "then").isNone = true) :
    action (.str kind.name) (some label) true (.dict id entries) = .ok (wholeAction label kind c) := by
  have hcommand := command_of_element hc
  have htype : Entries.named? entries "type" = none := hkeys "type" (by decide)
  obtain ⟨word, hword⟩ := inferCommandType_of_command htype hcommand
  have hknown : isCommandType (commandType entries) = true := by
    rw [commandType_of_untyped htype, hword]
    exact List.contains_iff_mem.mpr (typeNames_of_inferCommandType hword)
  unfold action
  rw [actionType_of_actionKeys hkeys, if_pos hthen, hword, hcommand]
  simp only [actionKind, Option.isNone_some, Bool.and_false, hknown]
  exact flowAction_name label kind _

private theorem action_of_then (hc : element (.dict id entries) = .ok (.command c))
    (hthen : (Entries.named entries "then").isNone = false) {a : Action}
    (ha : action (.str kind.name) (some label) true (.dict id entries) = .ok a) :
    ∃ flow, flowUnder "then" entries = .ok flow ∧ a.flow = some flow ∧ a.info.extras ≠ [] := by
  have htype : Entries.named? entries "type" = none := hkeys "type" (by decide)
  obtain ⟨word, hword⟩ := inferCommandType_of_command htype (command_of_element hc)
  obtain ⟨name, hname, hfields⟩ :=
    hasName_of_inferCommandType (hkeys "text" (by decide)) (hkeys "mediaUrl" (by decide)) hword
  have hextras := mem_extras hname hfields
  unfold action at ha
  rw [actionType_of_actionKeys hkeys, hthen] at ha
  simp only [Bool.false_eq_true, if_false, actionKind_name] at ha
  obtain ⟨hflow, hkept⟩ := actionInfo_eq_ok ha
  obtain ⟨flow, hthen, hsome⟩ := bind_eq_ok.mp hflow
  refine ⟨flow, hthen, (Except.ok.inj hsome).symm, fun hnil => ?_⟩
  rw [← hkept, hnil] at hextras
  cases hextras

end

/-- A command in the place of an action is kept whole as a list of one command. As a mapping of its own it is kept whole
exactly if it has no `then`; otherwise what is under `then` becomes the flow of the action, and the keys that tell the
command become extra fields. -/
theorem command_in_action_is_whole_iff {entries : Entries} {key : Value} {label : String} {id : Identity} {c : Command}
    (hkey : idText key = .ok label) (hkeys : ∀ name ∈ actionKeys, Entries.named? entries name = none)
    (hc : element (.dict id entries) = .ok (.command c)) (kind : ActionKind) (own inner : Identity) :
    let asList := actions (.str kind.name) (.dict own [(key, .list inner [.dict id entries])])
    let asMapping := actions (.str kind.name) (.dict own [(key, .dict id entries)])
    asList = .ok (.fixed [wholeAction label kind c]) ∧
    (asMapping = asList ↔ (Entries.named entries "then").isNone = true) ∧
    ((Entries.named entries "then").isNone = false → ∀ as, asMapping = .ok as →
      ∃ a flow, as = .fixed [a] ∧ flowUnder "then" entries = .ok flow ∧ a.flow = some flow ∧ a.info.extras ≠ []) := by
  intro asList asMapping
  have hlist : asList = .ok (.fixed [wholeAction label kind c]) := by
    rw [show asList = _ from actions_singleton hkey own _ _, action_of_list hc]
    rfl
  have hmapping : asMapping = (action (.str kind.name) (some label) true (.dict id entries)).map fun a => .fixed [a] :=
    actions_singleton hkey own _ _
  have hthen (hgiven : (Entries.named entries "then").isNone = false) (as : Actions) (has : asMapping = .ok as) :
      ∃ a flow, as = .fixed [a] ∧ flowUnder "then" entries = .ok flow ∧ a.flow = some flow ∧ a.info.extras ≠ [] := by
    cases ha : action (.str kind.name) (some label) true (.dict id entries) with
    | error e =>
      rw [hmapping, ha] at has
      cases has
    | ok a =>
      rw [hmapping, ha] at has
      obtain ⟨flow, hflow, hrest⟩ := action_of_then hkeys hc hgiven ha
      exact ⟨a, flow, (Except.ok.inj has).symm, hflow, hrest⟩
  refine ⟨hlist, ⟨fun heq => ?_, fun hnone => ?_⟩, hthen⟩
  · -- An action with extra fields is not the one that was meant.
    cases hgiven : (Entries.named entries "then").isNone with
    | true => rfl
    | false =>
      obtain ⟨a, flow, has, -, -, hextras⟩ := hthen hgiven _ (heq.trans hlist)
      obtain rfl : wholeAction label kind c = a := by simpa using has
      exact absurd rfl hextras
  · rw [hmapping, action_of_plain hkeys hc hnone, hlist]
    rfl

def guarded : Entries := [(.str "if", .str "vip"), (.str "then", .str "Welcome")]

/-- In the place of an action the welcome loses its condition, in a list it keeps it. -/
theorem guarded_is_split :
    (idText (.str "Enter") = .ok "Enter" ∧ (∀ name ∈ actionKeys, Entries.named? guarded name = none) ∧
      element (.dict .anonymous guarded) =
        .ok (.command (.conditional "if" (.str "vip") [.command (plainText (.str "Welcome"))] []))) ∧
    actions (.str "reply") (.dict .anonymous [(.str "Enter", .dict .anonymous guarded)]) ≠
      actions (.str "reply") (.dict .anonymous [(.str "Enter", .list .anonymous [.dict .anonymous guarded])]) := by
  have hkeys : ∀ name ∈ actionKeys, Entries.named? guarded name = none := by decide +kernel
  have hc : element (.dict .anonymous guarded) =
      .ok (.command (.conditional "if" (.str "vip") [.command (plainText (.str "Welcome"))] [])) := by
    with_unfolding_all rfl
  have hkey : idText (.str "Enter") = .ok "Enter" := rfl
  refine ⟨⟨hkey, hkeys, hc⟩, fun heq => ?_⟩
  have hnone := (command_in_action_is_whole_iff hkey hkeys hc .reply .anonymous .anonymous).2.1.mp heq
  exact absurd hnone (by decide +kernel)

end Normal

end Colloquy
