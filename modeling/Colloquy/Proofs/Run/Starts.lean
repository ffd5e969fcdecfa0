import Colloquy.Proofs.Run.Elements
import Colloquy.Run.Machine

/-!
# What starts name

A start works out the dialog name and the arguments that it hands to the session when it runs. If the name is
known beforehand it is the one that is worked out, whatever the shape of the parameter: an expansion changes
nothing about a text that is no template.
-/

namespace Colloquy

open Run

namespace StartParam

/-- A value of which a start can make nothing but a certain dialog name, however shared objects change. -/
def Names (s : String) (v : Value) : Prop :=
  ∀ (heap : Heap) defaultArgs name args, parse (heap.current v) defaultArgs = .ok (name, args) → name = s

private theorem name_of_parsed {v given : Value} {s name : String} {args : Value}
    (h : (if s.isEmpty then .error (.invalidStart v)
      else if given.isNone || given.mapping?.isSome then .ok (s, given)
      else .error (.startArguments given) : Except Error (String × Value)) = .ok (name, args)) : name = s := by
  split at h
  · cases h
  · split at h
    · exact (congrArg Prod.fst (Except.ok.inj h)).symm
    · cases h

private theorem names_text (s : String) : Names s (.str s) := by
  intro heap defaultArgs name args h
  rw [heap.current_str] at h
  exact name_of_parsed h

private theorem names_sequence (s : String) (rest : List Value) : Names s (.list .anonymous (.str s :: rest)) := by
  intro heap defaultArgs name args h
  rw [heap.current_list, List.map_cons, heap.current_str] at h
  match rest with
  | [] => exact name_of_parsed h
  | [_] => exact name_of_parsed h
  | _ :: _ :: _ => cases h

private theorem names_mapping {s : String} {entries : Entries} (hname : entries.named? "dialog" = some (.str s)) :
    Names s (.dict .anonymous entries) := by
  intro heap defaultArgs name args h
  rw [heap.current_dict] at h
  have hcurrent : (entries.mapValues heap.current).named? "dialog" = some (.str s) := by
    rw [Entries.named?_mapValues, hname, Option.map_some, heap.current_str]
  have hhas : (entries.mapValues heap.current).hasName "dialog" = true := by simp [Entries.hasName, hcurrent]
  have hnamed : (entries.mapValues heap.current).named "dialog" = .str s := by
    simp [Entries.named, hcurrent, Value.ofOption]
  unfold parse at h
  simp only [Value.text?, Value.sequence?, hhas, if_true, hnamed] at h
  exact name_of_parsed h

private theorem shape_of_staticName {target : Value} {s : String} (h : staticName target = some s) :
    Template.isTemplate s = false ∧
      (target.text? = some s ∨ (∃ first rest, target.sequence? = some (first :: rest) ∧ first.text? = some s) ∨
        ∃ id entries, target = .dict id entries ∧ Entries.hasName entries "exec" = false ∧
          ∃ v, Entries.named? entries "dialog" = some v ∧ v.text? = some s) := by
  unfold staticName at h
  extract_lets name at h
  obtain ⟨htemplate, hname⟩ : Template.isTemplate s = false ∧ name.text? = some s := by
    cases hname : name.text? with
    | none =>
      rw [hname] at h
      cases h
    | some t =>
      rw [hname] at h
      cases ht : isTemplate t with
      | true => simp [ht] at h
      | false =>
        obtain rfl : t = s := by simpa [ht] using h
        exact ⟨ht, rfl⟩
  refine ⟨htemplate, ?_⟩
  unfold name at hname
  split at hname
  · rename_i first rest hsequence
    exact .inr (.inl ⟨first, rest, hsequence, hname⟩)
  · split at hname
    · cases hname
    · rename_i id entries _ hexec
      refine .inr (.inr ⟨id, entries, rfl, by simpa using hexec, ?_⟩)
      cases hdialog : Entries.named? entries "dialog" with
      | none => simp [Entries.named, hdialog, Value.ofOption, Value.text?] at hname
      | some v => exact ⟨v, rfl, by simpa [Entries.named, hdialog, Value.ofOption] using hname⟩
  · exact .inl hname

end StartParam

namespace Expander

variable {x : Expander} {target : Value} {s : String} {w w' : World}

theorem start_eq (h : w.heap.current target = target) : x.start target w = x.begin (target.size + 1) [] target w := by
  unfold start
  rw [bind_ok (show Run.current target w = .ok target w from congrArg (EStateM.Result.ok · w) h)]

private theorem names_of_expand (hstatic : StartParam.staticName target = some s)
    (hkept : w.heap.current target = target)
    {v : Value} (h : x.expand target w = .ok v w') : StartParam.Names s v := by
  refine expand_of_start (fun t w₁ ht => ?_) h
  obtain ⟨hplain, htext | ⟨first, rest, hsequence, hfirst⟩ | ⟨id, entries, rfl, hexec, v, hv, hs⟩⟩ :=
    StartParam.shape_of_staticName hstatic
  · refine (Expands.text htext hplain w t w₁ ht).mono ?_
    rintro _ rfl
    exact StartParam.names_text s
  · rw [start_eq hkept] at ht
    have hgather : x.gather .items [] (first :: rest) w = .ok t w₁ := by
      cases target with
      | list | tuple =>
        obtain rfl := Option.some.inj hsequence
        exact ht
      | _ => cases hsequence
    refine yields_gather (R := (· = .str s) :: rest.map fun _ _ => True) ?_ (fun vs hvs => ?_) w t w₁ hgather
    · refine .cons (.text hfirst hplain) ?_
      rw [List.forall₂_map_left_iff, List.forall₂_same]
      exact fun param _ => .anything param
    · obtain ⟨v, vs, rfl, -, rfl⟩ := List.forall₂_cons_left_iff.mp hvs
      exact StartParam.names_sequence s vs
  · rw [start_eq hkept] at ht
    unfold begin at ht
    simp only [hexec, Bool.false_eq_true, if_false] at ht
    refine Promises.mono (yields_gather_entries (Q := Entries.KeepsText) ?_ w t w₁ ht) ?_
    · rw [List.forall₂_map_right_iff, List.forall₂_same]
      exact fun entry _ => .keepsText entry []
    · rintro _ ⟨vs, hvs, rfl⟩
      exact StartParam.names_mapping ((Entries.keeps_zip hvs).filter.text "dialog" v s hv hs hplain)

end Expander

namespace Machine

variable {m : Machine} {path own : FlowPath} {target args vars given : Value} {tag : Option String}
  {s dialog : String} {w w' : World}

/-- The dialog name and the arguments that a start hands to the session. -/
def startCall (m : Machine) (path : FlowPath) (target args vars : Value) : Run (String × Value) := do
  let x := m.expander vars path
  let value ← x.expand target
  let defaultArgs ← x.expandGiven args
  Run.ofExcept (StartParam.parse (← Run.current value) (← Run.current defaultArgs))

/-- A start hands over what it has worked out, together with its tag. -/
theorem runStep_start (m : Machine) (own path : FlowPath) (target args vars : Value) (tag : Option String) :
    m.runStep own vars (.start path target args tag) = (do
      let (dialog, given) ← m.startCall path target args vars
      Run.onSession (Session.start (.str dialog) (.ofText? tag) given)
      return .done) := by
  simp only [runStep, startCall, bind_assoc]

theorem startCall_name (hstatic : StartParam.staticName target = some s) (hkept : w.heap.current target = target)
    (h : m.startCall path target args vars w = .ok (dialog, given) w') : dialog = s := by
  unfold startCall at h
  cases hvalue : (m.expander vars path).expand target w with
  | error e w₁ =>
    rw [bind_error hvalue] at h
    cases h
  | ok value w₁ =>
    have hnames := Expander.names_of_expand hstatic hkept hvalue
    have hlast : (do
        let defaultArgs ← (m.expander vars path).expandGiven args
        Run.ofExcept (StartParam.parse (← Run.current value) (← Run.current defaultArgs))).Yields (·.1 = s) := by
      refine .bind fun defaultArgs => ?_
      have hcurrent : (Run.current value).Yields fun v => ∃ heap : Heap, v = heap.current value := by
        rintro w _ _ ⟨⟩
        exact ⟨w.heap, rfl⟩
      refine .bind_of hcurrent ?_
      rintro _ ⟨heap, rfl⟩
      refine .bind fun given w call w' hcall => ?_
      cases hparse : StartParam.parse (heap.current value) given with
      | error e =>
        rw [hparse] at hcall
        cases hcall
      | ok parsed =>
        rw [hparse] at hcall
        cases hcall
        exact hnames heap given _ _ hparse
    rw [bind_ok hvalue] at h
    exact hlast w₁ _ w' h

end Machine

end Colloquy
