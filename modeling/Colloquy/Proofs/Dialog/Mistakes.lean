import Colloquy.Proofs.Compile.Changes
import Colloquy.Proofs.Dialog.ClosedRuns
import Colloquy.Proofs.Flow.Data
import Colloquy.Shell.Task

/-!
# Mistakes of authors

Whatever data a flow file holds, a dialog is built of it or the mistake is told: reading and compiling flows fail with
errors that the command line shows. The exceptions are loops that cannot be read.
-/

namespace Colloquy

private theorem Error.isReportable_of_isAuthoring {e : Error} (h : e.isAuthoring = true) : e.isReportable = true := by
  cases e <;> first | rfl | cases h

/-- The rule of flows that fail with authoring errors only. -/
def CompileRule.authored : CompileRule where
  ids _ := True
  fails e := e.isAuthoring = true
  inner _ _ := trivial
  numbered _ := trivial
  authoring _ h := h

namespace Compile

variable {α β : Type} {p q r : Program} {e : Error}

private theorem Makes.error {root : FlowPath} {x : Compile α} (h : Makes .authored root x p) (hx : x p = .error e q) :
    e.isAuthoring = true := by
  unfold Makes at h
  rw [hx] at h
  exact h.2

private theorem makes_entryPoints {flows : List (String × Flow)} (h : ∀ entry ∈ flows, Intact (flowParts entry.2))
    (p : Program) : Makes .authored [] (entryPoints flows) p := by
  induction flows generalizing p with
  | nil =>
    rw [entryPoints]
    exact .pure _
  | cons entry rest ih =>
    obtain ⟨hflow, hrest⟩ := List.forall_mem_cons.mp h
    have hobeys : ∀ part ∈ flowParts entry.2, part.Obeys .authored := fun part hpart =>
      ⟨fun _ _ => trivial, fun cause hcause => absurd hcause ((hflow part hpart).valid cause),
        .inr (hflow part hpart).writable⟩
    rw [entryPoints]
    refine .append fun path hpath => ?_
    have hplaces : CompileRule.authored.Places [] path := .append ⟨.refl, .inr rfl⟩ trivial hpath
    refine (makes_compileFlow hobeys hplaces {} 0 p).bind fun _ q _ => ?_
    exact (ih hrest q).bind fun _ _ _ => .pure _

private theorem checkReferences_error (h : checkReferences p = .error e q) : e.isAuthoring = true := by
  rcases checkReferences_cases p with ⟨hok, -⟩ | ⟨key, hmissing⟩
  · cases hok.symm.trans h
  · cases hmissing.symm.trans h
    rfl

/-- What goes wrong while flows that are data are compiled is told by an authoring error. -/
theorem flows_error {source : Value} (hsource : source.Legible) (h : Compile.flows source p = .error e q) :
    e.isAuthoring = true := by
  have hdescribed := Normal.described_authored hsource
  unfold Compile.flows at h
  rcases bind_eq_error.mp h with h | ⟨flows, _, hread, h⟩
  · exact hdescribed.error (ofExcept_eq_error.mp h).1
  have hintact := hdescribed.ok (ofExcept_eq_ok.mp hread).1
  rcases bind_eq_error.mp h with h | ⟨entries, _, -, h⟩
  · exact (makes_entryPoints hintact _).error h
  rcases bind_eq_error.mp h with h | ⟨_, _, -, h⟩
  · exact checkReferences_error h
  · rcases bind_eq_error.mp h with ⟨⟨⟩⟩ | ⟨_, _, -, ⟨⟩⟩

end Compile

open Compile

/-- A loop that sets some variables first, as a mapping. -/
def loopEntries (init : Value) : Entries := [(.str "type", .str "iteration"), (.str "init", init)]

/-- A dialog whose only flow is a loop that sets some variables first. -/
def loopDialog (id : String) (init : Value) : Value := .record [(id, .dict .anonymous (loopEntries init))]

section Loop

variable {init : Value} {f : Fault}

private theorem named?_loopEntries (init : Value) (name : String) :
    Entries.named? (loopEntries init) name =
      if name = "type" then some (.str "iteration") else if name = "init" then some init else none := by
  have hsame (own : String) : (Value.str own).same (.str name) = (own == name) := by
    simp [Value.same_str, Value.text?]
  simp only [Entries.named?, Entries.get?, loopEntries, List.find?, hsame]
  by_cases htype : name = "type"
  · simp [htype]
  · by_cases hinit : name = "init"
    · simp [hinit]
    · simp [htype, hinit, beq_false_of_ne (Ne.symm htype), beq_false_of_ne (Ne.symm hinit)]

private theorem iteration_loopEntries (htruthy : init.truthy = true) (h : entriesOf init = .error f) (raw : Value)
    (parts : Normal.Parts) : Normal.iteration raw (loopEntries init) parts = .error (.fault f) := by
  have hgiven : Normal.givenEntries init = .error (.fault f) := by
    unfold Normal.givenEntries
    rw [if_pos htruthy, h]
    rfl
  simp [Normal.iteration, named?_loopEntries, Entries.named, Value.ofOption, hgiven, bind, Except.bind]

private theorem described_loopDialog (id : String) (htruthy : init.truthy = true)
    (h : entriesOf init = .error f) : Normal.described (loopDialog id init) = .error (.fault f) := by
  have htype : commandType (loopEntries init) = .str "iteration" := by
    simp [commandType, Entries.named, named?_loopEntries, Value.ofOption, Value.truthy]
  have hcommand (parts : Normal.Parts) :
      Normal.command (.dict .anonymous (loopEntries init)) (loopEntries init) parts = .error (.fault f) := by
    unfold Normal.command
    simp only [htype, Value.text?]
    exact iteration_loopEntries htruthy h _ parts
  have hflow : Normal.flow (.dict .anonymous (loopEntries init)) = .error (.fault f) := by
    unfold Normal.flow
    rw [hcommand]
    rfl
  have hflows : Normal.flows (loopDialog id init) = .error (.fault f) := by
    unfold Normal.flows loopDialog Value.record
    simp [hflow, Normal.idText, liftFault, Value.toText?, Value.unwritable, bind, Except.bind]
  exact hflows

end Loop

/-- Whatever data a dialog with a name is described by, it is built, or what is wrong is told by an authoring error,
which the command line shows; only integers that are too long to be written and loops that cannot be read are left out.
A loop that cannot be read does make a difference: where what it sets first is no mapping, nothing shows the error. -/
theorem mistakes_are_told {name : String} (hname : name ≠ "") (modelName : Value) (settings : Settings) :
    (∀ source : Value, source.Legible →
      (∃ p entries, Program.build (.str name) source modelName settings = .ok (p, entries)) ∨
      ∃ e, Program.build (.str name) source modelName settings = .error e ∧ e.isAuthoring = true ∧
        e.isReportable = true) ∧
    ∀ id init f, init.truthy = true → entriesOf init = .error f →
      Program.build (.str name) (loopDialog id init) modelName settings = .error (.fault f) := by
  obtain ⟨p, hmake⟩ : ∃ p, Program.make (.str name) modelName settings = .ok p := by
    refine ⟨{ dialog := { name, modelName, wildcard := .str settings.wildcard }, settings }, ?_⟩
    simp [Program.make, Dialog.make, Value.text?, hname, bind, Except.bind, pure, Except.pure]
  refine ⟨fun source hsource => ?_, fun id init f htruthy hinit => ?_⟩
  · cases hflows : Compile.flows source p with
    | ok entries q => exact .inl ⟨q, entries, build_of_flows_ok hmake hflows⟩
    | error e q =>
      have he := flows_error hsource hflows
      exact .inr ⟨e, build_of_flows_error hmake hflows, he, Error.isReportable_of_isAuthoring he⟩
  · refine build_of_flows_error (q := p) hmake ?_
    unfold Compile.flows
    rw [described_loopDialog id htruthy hinit]
    rfl

private theorem legible_record {entries : List (String × Value)} (h : ∀ entry ∈ entries, entry.2.Legible)
    (loop : let own : Entries := entries.map fun (k, v) => (.str k, v)
      (commandType own).text? = some "iteration" → ReadableLoop own) : (Value.record entries).Legible := by
  refine .dict (fun entry hentry => ?_) (fun entry hentry => ?_) loop
  · obtain ⟨own, -, rfl⟩ := List.mem_map.mp hentry
    exact ⟨rfl, rfl⟩
  · obtain ⟨own, hown, rfl⟩ := List.mem_map.mp hentry
    exact h own hown

/-- The mapping of a loop that is left in its first round. -/
private def leftLoopFields : List (String × Value) :=
  [("init", .record [("n", .int 0)]), ("while", .bool true), ("do", .record [("type", .str "break")])]

private theorem readable_leftLoop : ReadableLoop (leftLoopFields.map fun (k, v) => (.str k, v)) where
  clause clause hclause := absurd hclause (by with_unfolding_all exact nofun)
  given _ name hname := by
    rcases List.mem_cons.mp hname with rfl | hname
    · exact fun _ => ⟨_, by with_unfolding_all rfl⟩
    · rw [List.mem_singleton.mp hname]
      exact fun htruthy => absurd htruthy (by decide +kernel)

private theorem legible_leftLoop : leftLoop.Legible := by
  have hloop : (Value.record leftLoopFields).Legible := by
    refine legible_record ?_ fun _ => readable_leftLoop
    simp only [leftLoopFields, List.forall_mem_cons]
    refine ⟨?_, .bool true, ?_, nofun⟩
    · exact legible_record (List.forall_mem_singleton.mpr (.int 0 (by decide +kernel)))
        fun h => absurd h (by decide +kernel)
    · exact legible_record (List.forall_mem_singleton.mpr (.str "break")) fun h => absurd h (by decide +kernel)
  refine legible_record (List.forall_mem_singleton.mpr (.list fun v hv => ?_)) fun h => absurd h (by decide +kernel)
  rcases List.mem_cons.mp hv with rfl | hv
  · exact hloop
  · exact List.mem_singleton.mp hv ▸ .str "Done"

/-- A loop that can be read is data that a dialog is built of, and a loop that starts with a number stops the command
line. -/
theorem leftLoop_mistakes_are_told :
    (∃ p entries, Program.build (.str "Trial") leftLoop .none {} = .ok (p, entries)) ∧
    Program.build (.str "Trial") (loopDialog "onStart" (.int 5)) .none {} = .error (.fault .wrongType) := by
  obtain ⟨htold, hescapes⟩ := mistakes_are_told (show "Trial" ≠ "" by decide) .none {}
  refine ⟨?_, hescapes "onStart" (.int 5) .wrongType (by decide) rfl⟩
  obtain ⟨p, hbuild, -⟩ := build_leftLoop
  refine (htold leftLoop legible_leftLoop).resolve_right ?_
  rintro ⟨e, he, -⟩
  rw [hbuild] at he
  cases he

end Colloquy
