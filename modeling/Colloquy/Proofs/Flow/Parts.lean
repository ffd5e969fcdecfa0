import Colloquy.Compile.Flow

/-!
# Parts of a flow

Everything that occurs in a flow, however deeply it is nested, as one list. What holds everywhere in a flow is said
of the elements of this list.
-/

namespace Colloquy

/-- Something that occurs in a flow, without what is nested in it. -/
inductive FlowPart where
  | command (c : Command)
  | case (id : String)
  | action (info : ActionInfo)
  | item (info : ItemInfo)
  /-- An element that stands for nothing, and why. -/
  | invalid (cause : Error)

namespace FlowPart

/-- Ids of a part. An action without an id goes by its text. -/
def ids : FlowPart → List String
  | .command c => [c.id]
  | .case id => [id]
  | .action info => info.buttonId.toList
  | .item info => info.id.toList
  | .invalid _ => []

def isLoop : FlowPart → Bool
  | .command (.iteration ..) => true
  | _ => false

/-- All numbers that have to be written when a part is compiled can be written: those that a loop adds to its variables,
and those in the path of a flow that an action refers to. -/
def Writable : FlowPart → Prop
  | .command (.iteration _ _ _ increment _) => ∃ values, incrementValues? increment = .ok values
  | .action info => ∀ name, FlowKey.ofValue name info.thenFlow ≠ .error (.fault .badValue)
  | _ => True

end FlowPart

mutual

def Element.parts : Element → List FlowPart
  | .command c => c.parts
  | .handler _ => []
  | .deferred _ meaning => meaning.parts
  | .invalid _ cause => [.invalid cause]
termination_by structural e => e

def Command.parts : Command → List FlowPart
  | c@(.message _ _ _ actions items) => .command c :: (actions.parts ++ items.parts)
  | c@(.conditional _ _ yes no) => .command c :: (flowParts yes ++ flowParts no)
  | c@(.switch _ _ cases default) => .command c :: (casesParts cases ++ optionParts default)
  | c@(.iteration _ _ _ _ body) => .command c :: flowParts body
  | c@(.start _ _ _ resume) => .command c :: optionParts resume
  | c@(.flow _ body) => .command c :: flowParts body
  | c => [.command c]
termination_by structural c => c

def flowParts : List Element → List FlowPart
  | [] => []
  | e :: rest => e.parts ++ flowParts rest
termination_by structural flow => flow

def optionParts : Option (List Element) → List FlowPart
  | none => []
  | some flow => flowParts flow
termination_by structural flow => flow

def casesParts : List Case → List FlowPart
  | [] => []
  | c :: rest => c.parts ++ casesParts rest
termination_by structural cases => cases

def Case.parts : Case → List FlowPart
  | .mk id _ body => .case id :: flowParts body
termination_by structural c => c

def Actions.parts : Actions → List FlowPart
  | .absent => []
  | .fixed actions => actionsParts actions
  | .computed _ => []
termination_by structural actions => actions

def actionsParts : List Action → List FlowPart
  | [] => []
  | a :: rest => a.parts ++ actionsParts rest
termination_by structural actions => actions

def Action.parts : Action → List FlowPart
  | .mk info flow => .action info :: optionParts flow
termination_by structural a => a

def Items.parts : Items → List FlowPart
  | .absent => []
  | .fixed items => itemsParts items
  | .computed _ => []
termination_by structural items => items

def itemsParts : List Item → List FlowPart
  | [] => []
  | i :: rest => i.parts ++ itemsParts rest
termination_by structural items => items

def Item.parts : Item → List FlowPart
  | .mk info actions => .item info :: actions.parts
termination_by structural i => i

end

variable {e : Element} {c : Command}

private theorem Element.parts_meaning (e : Element) : e.meaning.parts = e.parts := by
  fun_induction Element.meaning e with
  | case1 source e ih => exact ih
  | case2 => rfl

theorem Element.parts_of_command? (h : e.command? = some c) : e.parts = c.parts := by
  rw [← e.parts_meaning]
  unfold command? at h
  split at h
  · rename_i heq
    cases h
    rw [heq, Element.parts]
  · cases h

theorem Element.parts_of_subFlow? {id : String} {body : Flow} (h : e.subFlow? = some (id, body)) :
    e.parts = .command (.flow id body) :: flowParts body := by
  rw [← e.parts_meaning]
  unfold subFlow? at h
  split at h
  · rename_i heq
    cases h
    rw [heq, Element.parts, Command.parts]
  · cases h

private theorem Element.mem_parts_of_fault? {cause : Error} (h : e.fault? = some cause) : .invalid cause ∈ e.parts := by
  rw [← e.parts_meaning]
  unfold fault? at h
  split at h
  · rename_i heq
    cases h
    rw [heq, Element.parts]
    exact List.mem_singleton_self _
  · cases h

theorem Command.self_mem_parts (c : Command) : .command c ∈ c.parts := by
  cases c <;> simp [Command.parts]

theorem flowParts_append (first second : Flow) : flowParts (first ++ second) = flowParts first ++ flowParts second := by
  induction first with
  | nil => rfl
  | cons e rest ih => simp [flowParts, ih]

theorem flowParts_getD (flow : Option Flow) : flowParts (flow.getD []) = optionParts flow := by
  cases flow <;> simp [optionParts, flowParts]

theorem mem_flowParts_of_fault {flow : Flow} {cause : Error} (h : flow.findSome? Element.fault? = some cause) :
    .invalid cause ∈ flowParts flow := by
  induction flow with
  | nil => cases h
  | cons e rest ih =>
    rw [List.findSome?_cons] at h
    rw [flowParts]
    cases he : e.fault? with
    | some own =>
      rw [he] at h
      obtain rfl := Option.some.inj h
      exact List.mem_append_left _ (Element.mem_parts_of_fault? he)
    | none =>
      rw [he] at h
      exact List.mem_append_right _ (ih h)

theorem mem_flowParts_incrementFlow {increment : Fields} {part : FlowPart}
    (h : part ∈ flowParts (incrementFlow increment)) : ∃ values, part = .command (.set "increment" values) := by
  unfold incrementFlow at h
  split at h
  · cases h
  · exact ⟨_, by simpa [flowParts, Element.parts, Command.parts] using h⟩

end Colloquy
