import Colloquy.Proofs.Flow.Data
import Colloquy.Proofs.Flow.RawFields
import Mathlib.Data.List.Basic
import Mathlib.Data.List.Find

/-!
# Ids that commands are given

A command without an id of its own goes by a default one. What an author writes for the id instead becomes its text,
and `None` stands for no id at all; nothing else about the command changes. Messages are the exception: they take
nothing but a text for their id, and refuse everything else, `None` too.
-/

namespace Colloquy

def Command.withId (id : String) : Command → Command
  | .message kind _ body actions items => .message kind id body actions items
  | .conditional _ test yes no => .conditional id test yes no
  | .switch _ value cases default => .switch id value cases default
  | .iteration _ init condition increment body => .iteration id init condition increment body
  | .start _ target args resume => .start id target args resume
  | .finish _ result => .finish id result
  | .set _ values => .set id values
  | .exec _ target args => .exec id target args
  | .wait _ seconds => .wait id seconds
  | .break _ => .break id
  | .continue _ => .continue id
  | .flow _ body => .flow id body

def Command.isMessage : Command → Bool
  | .message .. => true
  | _ => false

private theorem Value.eq_none_of_isNone {v : Value} (h : v.isNone = true) : v = .none := by
  cases v <;> first | rfl | cases h

namespace Entries

variable {before after : Entries} {k v : Value} {name : String}

private theorem named?_between (h : k.text? ≠ some name) :
    named? (before ++ (k, v) :: after) name = named? (before ++ after) name := by
  induction before with
  | nil => rw [List.nil_append, named?_cons, if_neg h, List.nil_append]
  | cons entry rest ih => rw [List.cons_append, named?_cons, ih, List.cons_append, named?_cons]

private theorem named?_between_self (h : named? (before ++ after) name = none) (hk : k.text? = some name) :
    named? (before ++ (k, v) :: after) name = some v := by
  induction before with
  | nil => rw [List.nil_append, named?_cons, if_pos hk]
  | cons entry rest ih =>
    rw [List.cons_append, named?_cons] at h
    rw [List.cons_append, named?_cons]
    split at h
    · cases h
    · rename_i hne
      rw [if_neg hne]
      exact ih h

private theorem text?_ne_of_absent {entries : Entries} (h : named? entries name = none) {entry : Value × Value}
    (hentry : entry ∈ entries) : entry.1.text? ≠ some name := by
  have hnone := List.find?_eq_none.mp (Option.map_eq_none_iff.mp h) entry hentry
  simpa [Value.same_str] using hnone

end Entries

namespace Normal

private theorem find?_of_others {entries entries' : Entries}
    (hothers : ∀ name, name ≠ "id" → Entries.named? entries' name = Entries.named? entries name) {names : List String}
    (hnames : "id" ∉ names) : Record.find? entries' names = Record.find? entries names := by
  induction names with
  | nil => rfl
  | cons name names ih =>
    obtain ⟨hname, hnames⟩ := not_or.mp (mt List.mem_cons.mpr hnames)
    unfold Record.find?
    rw [hothers name (Ne.symm hname), ih hnames]

/-- Two mappings are read alike but for their id: the first has none, and the second has `v`. -/
structure GivesId (v : Value) (entries entries' : Entries) (parts parts' : Parts) : Prop where
  absent : Entries.named? entries "id" = none
  given : Entries.named? entries' "id" = some v
  others : ∀ name, name ≠ "id" → Entries.named? entries' name = Entries.named? entries name
  flow : ∀ name, name ≠ "id" → parts'.flow name = parts.flow name
  actions : ∀ default name, name ≠ "id" → parts'.actions default name = parts.actions default name
  items : ∀ name, name ≠ "id" → parts'.items name = parts.items name
  cases : ∀ name, name ≠ "id" → parts'.cases name = parts.cases name
  extras : Record.extras entries' messageFields = Record.extras entries messageFields

/-- What comes of a command whose mapping gives an id besides. -/
def withGiven (raw v : Value) (c : Command) : Except Error Command :=
  if c.isMessage then
    match v.text? with
    | some s => .ok (c.withId s)
    | none => .error (.unrecognized raw (some (.badFields [⟨[.str "id"], .notText⟩])))
  else if v.isNone then .ok c
  else do return c.withId (← idText v)

/-- Whatever command the first reading gives, the second one gives it with its id. -/
def Takes (raw v : Value) (x x' : Except Error Command) : Prop := ∀ c, x = .ok c → x' = withGiven raw v c

namespace Takes

variable {raw v : Value} {α : Type}

private theorem error (e : Error) (x' : Except Error Command) : Takes raw v (.error e) x' := nofun

private theorem bind {a a' : Except Error α} {f f' : α → Except Error Command} (ha : a' = a)
    (h : ∀ b, Takes raw v (f b) (f' b)) : Takes raw v (a >>= f) (a' >>= f') := by
  subst ha
  intro c hc
  obtain ⟨b, hb, hc⟩ := bind_eq_ok.mp hc
  rw [hb]
  exact h b c hc

end Takes

/-- How a message reads its id: nothing but a text will do. -/
def messageId (v : Value) : List FieldFault × String :=
  match v.text? with
  | some s => ([], s)
  | none => ([⟨[.str "id"], .notText⟩], "")

private theorem takes_text {raw raw' v : Value} {kind : MessageKind} {id : String} {body : MessageBody}
    {actions : Actions} {items : Items} {faults : List FieldFault} :
    Takes raw' v (checked raw ([] ++ faults) (.message kind id body actions items))
      (checked raw' ((messageId v).1 ++ faults) (.message kind (messageId v).2 body actions items)) := by
  cases faults with
  | nil =>
    intro c hc
    cases hc
    unfold withGiven messageId
    rw [Command.isMessage, if_pos rfl]
    cases v.text? with
    | none => rfl
    | some s => rfl
  | cons fault faults => exact .error _ _

section Builders

variable {raw raw' v : Value} {entries entries' : Entries} {parts parts' : Parts} (h : GivesId v entries entries' parts parts')
include h

private theorem GivesId.named (name : String) (hname : name ≠ "id") :
    Entries.named entries' name = Entries.named entries name := by
  rw [Entries.named, h.others name hname, Entries.named]

private theorem GivesId.givenFlow {name : String} (hname : name ≠ "id") :
    givenFlow entries' parts' name = givenFlow entries parts name := by
  rw [Normal.givenFlow, h.named name hname, h.flow name hname, Normal.givenFlow]

private theorem GivesId.takes {f : String → Command} (hmessage : ∀ id, (f id).isMessage = false)
    (hf : ∀ id other, (f id).withId other = f other) (default : String) :
    Takes raw v (do return f (← givenId entries default)) (do return f (← givenId entries' default)) := by
  intro c hc
  have habsent : givenId entries default = .ok default := by
    unfold givenId
    rw [Entries.named, h.absent]
    rfl
  rw [habsent] at hc
  cases hc
  have hgiven : givenId entries' default = if v.isNone then .ok default else idText v := by
    have hid : Entries.named entries' "id" = v := by
      rw [Entries.named, h.given]
      rfl
    unfold givenId
    rw [hid]
  unfold withGiven
  rw [hgiven, hmessage, if_neg Bool.false_ne_true]
  by_cases hnone : v.isNone = true
  · rw [if_pos hnone, if_pos hnone]
    rfl
  · rw [if_neg hnone, if_neg hnone]
    simp only [hf]

private theorem GivesId.takes_checked {f : String → Command} (hmessage : ∀ id, (f id).isMessage = false)
    (hf : ∀ id other, (f id).withId other = f other) (default : String) (faults : List FieldFault) :
    Takes raw' v (do let id ← givenId entries default; checked raw faults (f id))
      (do let id ← givenId entries' default; checked raw' faults (f id)) := by
  cases faults with
  | nil => exact h.takes hmessage hf default
  | cons fault faults =>
    intro c hc
    obtain ⟨id, -, hc⟩ := bind_eq_ok.mp hc
    cases hc

private theorem takes_conditional : Takes raw v (conditional entries parts) (conditional entries' parts') := by
  unfold conditional
  rw [h.others "unless" (by decide), h.others "if" (by decide), h.named "when" (by decide)]
  refine .bind (h.flow _ (by decide)) fun yes => .bind (h.flow _ (by decide)) fun no => ?_
  exact h.takes (fun _ => rfl) (fun _ _ => rfl) _

private theorem takes_switch : Takes raw' v (switch raw entries parts) (switch raw' entries' parts') := by
  unfold switch
  rw [h.others "switch" (by decide), h.named "cases" (by decide)]
  split
  · exact .error _ _
  · extract_lets withCases withCases'
    have hcases (cases : List Case) : Takes raw' v (withCases cases) (withCases' cases) :=
      .bind (h.givenFlow (by decide)) fun default => h.takes (fun _ => rfl) (fun _ _ => rfl) _
    split
    · exact .bind (h.cases _ (by decide)) hcases
    · exact .bind rfl hcases

private theorem takes_iteration (hraw : derivedIdentity raw' = derivedIdentity raw) :
    Takes raw' v (iteration raw entries parts) (iteration raw' entries' parts') := by
  unfold iteration
  rw [hraw, h.others "for" (by decide), h.others "while" (by decide), h.others "until" (by decide),
    h.others "condition" (by decide), h.named "init" (by decide), h.named "increment" (by decide)]
  extract_lets withClause condition withClause'
  have hclause (clause : Clause) : Takes raw' v (withClause clause) (withClause' clause) :=
    .bind (h.flow _ (by decide)) fun body => h.takes_checked (fun _ => rfl) (fun _ _ => rfl) _ _
  split
  · exact .bind rfl hclause
  · exact .bind rfl fun init => .bind rfl fun increment => .bind rfl hclause

private theorem takes_set : Takes raw' v (set raw entries) (set raw' entries') := by
  unfold set
  rw [h.named "set" (by decide)]
  split
  · exact h.takes_checked (fun _ => rfl) (fun _ _ => rfl) _ _
  · exact .error _ _

private theorem GivesId.value_eq (names : List String) (hnames : "id" ∉ names) :
    Record.value entries' names = Record.value entries names := by
  rw [Record.value, find?_of_others h.others hnames, Record.value]

private theorem takes_message (hv : v.isScalar = true) (kind : MessageKind) :
    Takes raw' v (message raw entries parts kind) (message raw' entries' parts' kind) := by
  have habsent : Record.field entries ["id"] (.ok kind.name) (Record.simple Record.text) "" = ([], kind.name) := by
    unfold Record.field Record.find?
    rw [h.absent]
    rfl
  have hgiven : Record.field entries' ["id"] (.ok kind.name) (Record.simple Record.text) "" = messageId v := by
    unfold Record.field Record.find?
    rw [h.given]
    cases v <;> first | rfl | cases hv
  unfold message
  rw [habsent, hgiven, h.named "actions" (by decide), h.named "items" (by decide), h.actions "reply" "actions" (by decide),
    h.items "items" (by decide), h.named "text" (by decide), h.value_eq _ (by decide), h.value_eq _ (by decide), h.extras]
  extract_lets withActions withActions'
  have hactions (actions : Actions) : Takes raw' v (withActions actions) (withActions' actions) := by
    dsimp only [withActions, withActions']
    split
    · exact .bind rfl fun items => takes_text
    · exact .bind rfl fun items => takes_text
  split
  · exact .bind rfl hactions
  · exact .bind rfl hactions

private theorem GivesId.find?_inferenceKeys :
    (inferenceKeys.find? fun (keys, _) => keys.any (Entries.hasName entries')) =
      inferenceKeys.find? fun (keys, _) => keys.any (Entries.hasName entries) := by
  have hnames : ∀ tell ∈ inferenceKeys, ∀ name ∈ tell.1, name ≠ "id" := by decide
  refine List.find?_congr fun tell htell => ?_
  refine Bool.eq_iff_iff.mpr (List.any_eq_true.trans (Iff.trans ?_ List.any_eq_true.symm))
  refine exists_congr fun name => and_congr_right fun hname => ?_
  rw [Entries.hasName, h.others name (hnames tell htell name hname), Entries.hasName]

private theorem GivesId.commandType_eq : commandType entries' = commandType entries := by
  unfold commandType inferCommandType
  rw [h.named "type" (by decide), h.named "mediaUrl" (by decide), h.named "media_url" (by decide),
    h.named "text" (by decide), h.find?_inferenceKeys]

private theorem takes_command (hv : v.isScalar = true) (hraw : derivedIdentity raw' = derivedIdentity raw) :
    Takes raw' v (command raw entries parts) (command raw' entries' parts') := by
  unfold command
  rw [h.commandType_eq]
  dsimp only
  split
  · exact .error _ _
  · split
    · exact takes_message h hv _
    · split
      · exact takes_conditional h
      · exact takes_switch h
      · exact takes_iteration h hraw
      · rw [h.named "start" (by decide), h.named "args" (by decide)]
        exact .bind (h.givenFlow (by decide)) fun resume => h.takes (fun _ => rfl) (fun _ _ => rfl) _
      · rw [h.named "finish" (by decide)]
        exact h.takes (fun _ => rfl) (fun _ _ => rfl) _
      · exact takes_set h
      · rw [h.named "exec" (by decide), h.named "args" (by decide)]
        exact h.takes (fun _ => rfl) (fun _ _ => rfl) _
      · rw [h.others "wait" (by decide), h.others "seconds" (by decide)]
        exact h.takes (fun _ => rfl) (fun _ _ => rfl) _
      · exact h.takes (fun _ => rfl) (fun _ _ => rfl) _
      · exact h.takes (fun _ => rfl) (fun _ _ => rfl) _
      · -- a part that is only run from elsewhere has no default id
        have hid : (Entries.named entries "id").isNone = true := by
          rw [Entries.named, h.absent]
          rfl
        rw [if_pos hid]
        exact .error _ _
      · exact .error _ _

end Builders

/-! ## An id between other entries -/

/-- One entry of a mapping is told apart from its fields. -/
def leftOver (used : List String) (acc : List FieldFault × Fields) (entry : Value × Value) : List FieldFault × Fields :=
  match entry.1.text? with
  | some s => if used.contains s then acc else (acc.1, Record.putField acc.2 s entry.2)
  | none => (acc.1 ++ [⟨[Record.keyPlace entry.1], .badKey⟩], acc.2)

private theorem extras_eq_foldl (entries : Entries) (known : List (List String)) :
    Record.extras entries known = entries.foldl (leftOver (usedNames entries known)) ([], []) := rfl

section LeftOver

variable {used : List String} {name : String} {entry : Value × Value} (acc : List FieldFault × Fields)

private theorem leftOver_self (v : Value) : leftOver (name :: used) acc (.str name, v) = acc := by
  simp [leftOver, Value.text?]

private theorem leftOver_cons_of_ne (h : entry.1.text? ≠ some name) : leftOver
    (name :: used) acc entry = leftOver used acc entry := by
  unfold leftOver
  split
  · rename_i s hs
    have hne : s ≠ name := fun heq => h (heq ▸ hs)
    simp [hne]
  · rfl

end LeftOver

section Between

variable {v : Value} {before after : Entries}

private theorem named?_between_of_ne {name : String} (hname : name ≠ "id") :
    Entries.named? (before ++ (.str "id", v) :: after) name = Entries.named? (before ++ after) name :=
  Entries.named?_between (mt Option.some.inj hname.symm)

variable (habsent : Entries.named? (before ++ after) "id" = none)
include habsent

private theorem usedNames_between :
    usedNames (before ++ (.str "id", v) :: after) messageFields = "id" :: usedNames (before ++ after) messageFields := by
  have hid : Record.find? (before ++ (.str "id", v) :: after) ["id"] = some ("id", v) := by
    unfold Record.find?
    rw [Entries.named?_between_self habsent rfl]
  have hnone : Record.find? (before ++ after) ["id"] = none := by
    unfold Record.find?
    rw [habsent]
    rfl
  have hfields : ∀ names ∈ messageFields.tail, "id" ∉ names := by decide
  unfold usedNames
  rw [show messageFields = ["id"] :: messageFields.tail from rfl, List.filterMap_cons, List.filterMap_cons, hid, hnone]
  refine congrArg (List.cons "id") (List.filterMap_congr fun names hnames => ?_)
  rw [find?_of_others (fun _ hname => named?_between_of_ne hname) (hfields names hnames)]

private theorem extras_between :
    Record.extras (before ++ (.str "id", v) :: after) messageFields = Record.extras (before ++ after) messageFields := by
  have hskip (acc : List FieldFault × Fields) : ∀ entry ∈ before ++ after,
      leftOver ("id" :: usedNames (before ++ after) messageFields) acc entry =
        leftOver (usedNames (before ++ after) messageFields) acc entry :=
    fun entry hentry => leftOver_cons_of_ne acc (Entries.text?_ne_of_absent habsent hentry)
  rw [extras_eq_foldl, extras_eq_foldl, usedNames_between habsent, List.foldl_append, List.foldl_cons, leftOver_self,
    ← List.foldl_append]
  exact List.foldl_ext _ _ _ hskip

private theorem GivesId.between :
    GivesId v (before ++ after) (before ++ (.str "id", v) :: after) (.under (before ++ after))
      (.under (before ++ (.str "id", v) :: after)) where
  absent := habsent
  given := Entries.named?_between_self habsent rfl
  others _ hname := named?_between_of_ne hname
  flow _ hname := by
    dsimp only [Parts.under]
    rw [flowUnder_eq, named?_between_of_ne hname, flowUnder_eq]
  actions _ _ hname := by
    dsimp only [Parts.under]
    rw [actionsUnder_eq, named?_between_of_ne hname, actionsUnder_eq]
  items _ hname := by
    dsimp only [Parts.under]
    rw [itemsUnder_eq, named?_between_of_ne hname, itemsUnder_eq]
  cases _ hname := by
    dsimp only [Parts.under]
    rw [casesUnder_eq, named?_between_of_ne hname, casesUnder_eq]
  extras := extras_between habsent

end Between

private theorem derivedIdentity_dict (ident : Identity) (entries entries' : Entries) :
    derivedIdentity (.dict ident entries) = derivedIdentity (.dict ident entries') := by
  cases ident <;> rfl

/-- A mapping that stands for a command, and gives no id, is read with an id that is a scalar. -/
theorem element_between (ident : Identity) {before after : Entries} {v : Value} {c : Command}
    (habsent : Entries.named? (before ++ after) "id" = none) (hv : v.isScalar = true)
    (haccepted : element (.dict ident (before ++ after)) = .ok (.command c)) :
    element (.dict ident (before ++ (.str "id", v) :: after)) =
      (withGiven (.dict ident (before ++ (.str "id", v) :: after)) v c).map Element.command := by
  obtain ⟨c', hc', heq⟩ := bind_eq_ok.mp haccepted
  cases heq
  unfold element
  refine congrArg (Except.map Element.command) ?_
  exact takes_command (GivesId.between habsent) hv (derivedIdentity_dict ident _ _) c hc'

private theorem withGiven_message {v : Value} {c : Command} (raw : Value) (hv : v.isScalar = true)
    (hmessage : c.isMessage = true) :
    (∃ s, v = .str s ∧ withGiven raw v c = .ok (c.withId s)) ∨
      (∀ s, v ≠ .str s) ∧ withGiven raw v c = .error (.unrecognized raw (some (.badFields [⟨[.str "id"], .notText⟩]))) := by
  unfold withGiven
  rw [if_pos hmessage]
  cases v with
  | str s => exact .inl ⟨s, rfl, rfl⟩
  | none | bool | int | float => exact .inr ⟨nofun, rfl⟩
  | _ => cases hv

private theorem withGiven_other {v : Value} {c : Command} (raw : Value) (hother : c.isMessage = false) :
    withGiven raw v c =
      if v.unwritable then .error (.fault .badValue) else .ok (if v.isNone then c else c.withId v.toText) := by
  unfold withGiven idText Value.toText?
  rw [hother, if_neg Bool.false_ne_true]
  by_cases hnone : v.isNone = true
  · rw [if_pos hnone, if_pos hnone]
    obtain rfl := Value.eq_none_of_isNone hnone
    rfl
  · rw [if_neg hnone, if_neg hnone]
    cases v.unwritable <;> rfl

/-- A command that is given a scalar for its id goes by the text of it, and by its default id if the scalar is `None`,
unless the scalar has no text. Messages, however, take nothing but texts: everything else makes them unreadable. -/
theorem given_ids_are_taken_over_iff (ident : Identity) {before after : Entries} {v : Value} {c : Command}
    (habsent : Entries.named? (before ++ after) "id" = none) (hv : v.isScalar = true)
    (haccepted : element (.dict ident (before ++ after)) = .ok (.command c)) :
    let raw := Value.dict ident (before ++ (.str "id", v) :: after)
    (element raw = .ok (.command (if v.isNone then c else c.withId v.toText)) ↔
      (c.isMessage = true → ∃ s, v = .str s) ∧ (c.isMessage = false → v.unwritable = false)) ∧
    (c.isMessage = true → (∀ s, v ≠ .str s) →
      element raw = .error (.unrecognized raw (some (.badFields [⟨[.str "id"], .notText⟩])))) ∧
    (c.isMessage = false → v.unwritable = true → element raw = .error (.fault .badValue)) := by
  intro raw
  have hread : element raw = (withGiven raw v c).map Element.command := element_between ident habsent hv haccepted
  rw [hread]
  cases hkind : c.isMessage with
  | true =>
    obtain ⟨s, rfl, htaken⟩ | ⟨hother, hrefused⟩ := withGiven_message raw hv hkind
    · rw [htaken]
      exact ⟨iff_of_true rfl ⟨fun _ => ⟨s, rfl⟩, nofun⟩, fun _ hother => absurd rfl (hother s), nofun⟩
    · rw [hrefused]
      refine ⟨iff_of_false nofun fun htext => ?_, fun _ _ => rfl, nofun⟩
      obtain ⟨s, rfl⟩ := htext.1 rfl
      exact hother s rfl
  | false =>
    rw [withGiven_other raw hkind]
    refine ⟨⟨fun hok => ⟨nofun, fun _ => ?_⟩, fun ⟨_, hshort⟩ => ?_⟩, nofun, fun _ hlong => ?_⟩
    · split at hok
      · cases hok
      · rename_i hshort
        exact Bool.eq_false_of_not_eq_true hshort
    · rw [hshort rfl]
      rfl
    · rw [if_pos hlong]
      rfl

/-- A message is not told apart by a number, as any other command is. -/
theorem numbered_message_is_refused :
    let raw := Value.dict .anonymous [(.str "text", .str "Hi"), (.str "id", .int 5)]
    Entries.named? [(Value.str "text", Value.str "Hi")] "id" = none ∧ (Value.int 5).isScalar = true ∧
      element (.dict .anonymous [(.str "text", .str "Hi")]) = .ok (.command (plainText (.str "Hi"))) ∧
      (plainText (.str "Hi")).isMessage = true ∧
      element raw = .error (.unrecognized raw (some (.badFields [⟨[.str "id"], .notText⟩]))) := by
  have habsent : Entries.named? ([(Value.str "text", Value.str "Hi")] ++ []) "id" = none := by decide +kernel
  have haccepted : element (.dict .anonymous ([(.str "text", .str "Hi")] ++ [])) =
      .ok (.command (plainText (.str "Hi"))) := by
    with_unfolding_all rfl
  exact ⟨habsent, rfl, haccepted, rfl,
    (given_ids_are_taken_over_iff .anonymous (v := .int 5) habsent rfl haccepted).2.1 rfl nofun⟩

end Normal

end Colloquy
