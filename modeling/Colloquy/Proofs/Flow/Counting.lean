import Colloquy.Flow.Normal
import Colloquy.Proofs.Flow.Key
import Colloquy.Proofs.Value.Entries

/-!
# Counting loops in normal form

A `for` clause may leave out the step and the first number. Whatever it leaves out, its loop starts with a number,
compares the variable with a limit and adds a number to it.
-/

namespace Colloquy

variable {v : String} {a n k : Int}

/-- A name that is one segment of a path and no pattern, as every identifier is. -/
structure PlainName (v : String) : Prop where
  nonempty : v ≠ ""
  undotted : '.' ∉ v.toList
  unbraced : '\x7b' ∉ v.toList

theorem PlainName.members (h : PlainName v) : Accessor.members v = [.member (.str v)] := by
  have hfree : ∀ c ∈ v.toList, (c == '.') = false := by
    intro c hc
    simpa using ne_of_mem_of_not_mem hc h.undotted
  have hsplit := Text.splitWhen_of_free hfree
  have hne : v.toList.isEmpty = false := by simpa using h.nonempty
  simp [Accessor.members, hsplit, hne, String.ofList_toList]

private theorem PlainName.ofVariable (h : PlainName v) (id : Identity) (further : Access) :
    Accessor.ofVariable id (.str v) further =
      if further.unwritable then .error (.fault .badValue) else .ok (.accessor id [.member (.str v), further]) := by
  rw [Accessor.ofVariable_text, h.members]
  rfl

namespace Normal

/-- A `for` clause that counts in a variable from `a` on in steps of `k` while the variable is below `n`. -/
inductive CountingClause (v : String) : Int → Int → Int → Value → Prop
  | full (a n k : Int) (id inner : Identity) :
    CountingClause v a n k (.list id [.dict inner [(.str v, .int a)], .int n, .int k])
  /-- The step is one if it is left out. -/
  | byOne (a n : Int) (id inner : Identity) :
    CountingClause v a n 1 (.list id [.dict inner [(.str v, .int a)], .int n])
  /-- The first number is zero if only the variable is given. -/
  | fromZero (n : Int) (id : Identity) : CountingClause v 0 n 1 (.list id [.str v, .int n])

def countingLoop (id : Identity) (v : String) (a n k : Int) (body : Flow) : Command :=
  .iteration "loop" [(v, .int a)] (.accessor id [.member (.str v), .compare .lt (.int n)]) [(v, .int k)] body

variable {clause : Value}

private theorem forClause_counting (hv : PlainName v) (h : CountingClause v a n k clause) (id : Identity) :
    forClause id clause =
      if Value.tooLong n then .error (.fault .badValue)
      else .ok ([(.str v, .int a)], .accessor id [.member (.str v), .compare .lt (.int n)], [(.str v, .int k)]) := by
  have hcondition : Accessor.ofVariable id (.str v) (.compare .lt (.int n)) =
      if Value.tooLong n then .error (.fault .badValue)
      else .ok (.accessor id [.member (.str v), .compare .lt (.int n)]) := hv.ofVariable id _
  cases h with
  | full | byOne | fromZero =>
    simp only [forClause, Value.sequence?, Value.isNone, Value.isNumber]
    cases hn : Value.tooLong n <;> simp [hcondition, hn, bind, Except.bind, pure, Except.pure]

private theorem element_counting (hv : PlainName v) (h : CountingClause v a n k clause) (id : Identity) (body : Value) :
    element (.dict id [(.str "for", clause), (.str "do", body)]) =
      if Value.tooLong n then .error (.fault .badValue)
      else (flow body).map fun inner =>
        .command (countingLoop (derivedIdentity (.dict id [(.str "for", clause), (.str "do", body)])) v a n k inner) := by
  let entries : Entries := [(.str "for", clause), (.str "do", body)]
  have hnamed (name : String) : entries.named? name =
      if "for" = name then some clause else if "do" = name then some body else none := by
    rw [Entries.named?_cons, Entries.named?_cons]
    simp only [Value.text?, Option.some.injEq]
    rfl
  have htype : commandType entries = .str "iteration" := by
    simp [commandType, inferCommandType, inferenceKeys, Entries.named, Entries.hasName, hnamed, Value.ofOption,
      Value.isNone, Value.truthy, Value.ofText?]
  have hbody : flowUnder "do" entries = flow body := by
    simp [entries, flowUnder, Value.same_str, Value.text?]
  let parts : Parts := ⟨fun name => flowUnder name entries, fun default name => actionsUnder default name entries,
    fun name => itemsUnder name entries, fun name => casesUnder name entries⟩
  have hloop : iteration (.dict id entries) entries parts =
      if Value.tooLong n then .error (.fault .badValue)
      else (flow body).map fun inner => countingLoop (derivedIdentity (.dict id entries)) v a n k inner := by
    have hfor : entries.named? "for" = some clause := by simp [hnamed]
    have hid : givenId entries "loop" = .ok "loop" := by simp [givenId, Entries.named, hnamed, Value.ofOption, Value.isNone]
    have hparts : parts.flow "do" = flow body := hbody
    rw [iteration, hfor, hparts, hid]
    simp only [forClause_counting hv h]
    cases Value.tooLong n with
    | true => rfl
    | false => cases flow body <;> rfl
  rw [element]
  change (do return Element.command (← command (.dict id entries) entries parts)) = _
  have hcommand : command (.dict id entries) entries parts = iteration (.dict id entries) entries parts := by
    rw [command, htype]
    rfl
  rw [hcommand, hloop]
  cases Value.tooLong n with
  | true => rfl
  | false => cases flow body <;> rfl

/-- A flow that begins with a counting loop is this loop and then the rest. -/
theorem flow_counting (hv : PlainName v) (h : CountingClause v a n k clause) (hn : Value.tooLong n = false)
    (listId id : Identity) {body : Value} {rest : List Value} {inner following : Flow} (hbody : flow body = .ok inner)
    (hrest : elements rest = .ok following) :
    flow (.list listId (.dict id [(.str "for", clause), (.str "do", body)] :: rest)) =
      .ok (.command (countingLoop (derivedIdentity (.dict id [(.str "for", clause), (.str "do", body)])) v a n k inner) ::
        following) := by
  rw [flow, elements, element_counting hv h, hn, hbody, hrest]
  rfl

theorem flow_counting_tooLong (hv : PlainName v) (h : CountingClause v a n k clause) (hn : Value.tooLong n = true)
    (listId id : Identity) (body : Value) (rest : List Value) :
    flow (.list listId (.dict id [(.str "for", clause), (.str "do", body)] :: rest)) = .error (.fault .badValue) := by
  rw [flow, elements, element_counting hv h, hn]
  rfl

end Normal

end Colloquy
