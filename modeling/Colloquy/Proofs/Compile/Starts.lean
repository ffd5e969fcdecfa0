import Colloquy.Proofs.Compile.Growth

/-!
# Starts and their tags

A start whose result is awaited is tagged with the key of the flow that the result resumes. This flow is
registered for the start alone, so no other start has its tag, and the result handlers of the tag are settled
once the start is compiled: there is one, under the dialog name that was foreseen.
-/

namespace Colloquy

/-- A start command whose result is awaited: where it stands, what it starts, and its tag. -/
structure Start where
  path : FlowPath
  target : Value
  args : Value
  tag : String

def Start.step (s : Start) : Step := .start s.path s.target s.args (some s.tag)

def Step.start? : Step → Option Start
  | .start path target args (some tag) => some ⟨path, target, args, tag⟩
  | _ => none

def FlowHandler.starts : FlowHandler → List Start
  | .sequence _ _ steps _ => steps.filterMap Step.start?
  | _ => []

/-- All starts of a dialog whose results are awaited. -/
def Program.starts (p : Program) : List Start := p.flows.flatMap fun (_, handler) => handler.starts

/-- The starts among the steps that come out of a part of a flow. They are not registered yet. -/
def Job.starts : Job → List Start
  | .elements _ _ _ _ steps => steps.filterMap Step.start?
  | .command _ _ _ step => [step].filterMap Step.start?
  | _ => []

namespace Program

variable {p q r : Program} {new own later more : List Start}

def resultOf (p : Program) (dialog tag : String) : Option EventHandler :=
  p.dialog.results.get? (Dialog.resultKey (.str dialog) (.str tag))

/-- Results are handled under keys of registered flows only. -/
def Tagged (p : Program) : Prop := ∀ dialog tag, p.resultOf dialog tag ≠ none → p.flows.lookup tag ≠ none

/-- The result of a start resumes the flow at its path, under the dialog name that was foreseen for it and
under no other. -/
def Answers (p : Program) (s : Start) : Prop :=
  ∀ dialog, p.resultOf dialog s.tag = if dialog = p.resultName s.target then some (.resume s.path.toValue) else none

private theorem resultOf_awaiting_of_ne {tag other : String} (h : tag ≠ other) (target : Value) (path : FlowPath)
    (dialog : String) : (p.awaiting target tag path).resultOf dialog other = p.resultOf dialog other :=
  EventTable.get?_put_result_of_ne fun heq => h (congrArg Prod.snd heq)

private theorem resultOf_offering (kind : ActionKind) (key : String) (path : FlowPath) (dialog tag : String) :
    (p.offering kind key path).resultOf dialog tag = p.resultOf dialog tag := by
  unfold offering
  split <;> rfl

private theorem starts_of_add {key : String} {handler : FlowHandler} (hadd : p.add key handler = .ok q) :
    q.starts = p.starts ++ handler.starts := by
  obtain ⟨-, rfl⟩ := add_eq_ok.mp hadd
  simp [starts]

/-- What is gained when something is compiled: starts that are registered and starts that are still to be. All
of them have tags of their own, keys that were free before, and their results are answered. What was told by
keys that were registered before is settled. -/
structure Gains (p q : Program) (new own : List Start) : Prop where
  grows : p.Extends q
  starts : q.starts = p.starts ++ new
  distinct : ((new ++ own).map Start.tag).Nodup
  fresh : ∀ s ∈ new ++ own, p.flows.lookup s.tag = none
  registered : ∀ s ∈ new ++ own, q.flows.lookup s.tag ≠ none
  keyed : ∀ s ∈ new ++ own, q.pathKey s.path = .ok s.tag
  settled : ∀ dialog tag, p.flows.lookup tag ≠ none → q.resultOf dialog tag = p.resultOf dialog tag
  tagged : p.Tagged → q.Tagged
  answered : p.Tagged → ∀ s ∈ new ++ own, q.Answers s

private theorem Answers.of_gains {s : Start} (h : p.Answers s) (hgains : p.Gains q new own)
    (hs : p.flows.lookup s.tag ≠ none) :
    q.Answers s := by
  intro dialog
  rw [hgains.settled dialog s.tag hs, resultName_congr hgains.grows.settings]
  exact h dialog

theorem Gains.of_eq (hgrows : p.Extends q) (hflows : q.flows = p.flows)
    (hresults : ∀ dialog tag, q.resultOf dialog tag = p.resultOf dialog tag) : p.Gains q [] [] where
  grows := hgrows
  starts := by simp [Program.starts, hflows]
  distinct := .nil
  fresh := nofun
  registered := nofun
  keyed := nofun
  settled dialog tag _ := hresults dialog tag
  tagged h dialog tag hne := by
    rw [hflows]
    exact h dialog tag (by rwa [← hresults])
  answered _ := nofun

theorem Gains.refl (p : Program) : p.Gains p [] [] := .of_eq (.refl p) rfl fun _ _ => rfl

private theorem Gains.offering (p : Program) (kind : ActionKind) (key : String) (path : FlowPath) :
    p.Gains (p.offering kind key path) [] [] := by
  refine .of_eq (extends_offering p kind key path) ?_ (resultOf_offering kind key path)
  unfold Program.offering
  split <;> rfl

/-- A key under which a flow was just registered, with the starts of that flow: it was free, none of them is told
by it, and no result is. -/
structure Opens (p q : Program) (new : List Start) (key : String) : Prop where
  free : p.flows.lookup key = none
  registered : q.flows.lookup key ≠ none
  apart : ∀ s ∈ new, s.tag ≠ key
  unanswered : p.Tagged → ∀ dialog, q.resultOf dialog key = none

private theorem perm_gained (new own later more : List Start) :
    ((new ++ later) ++ (own ++ more)).Perm ((new ++ own) ++ (later ++ more)) := by
  simp only [List.append_assoc, List.perm_append_left_iff]
  exact List.perm_append_comm_assoc later own more

private theorem mem_gained {s : Start} (hs : s ∈ (new ++ later) ++ (own ++ more)) :
    s ∈ new ++ own ∨ s ∈ later ++ more :=
  List.mem_append.mp ((perm_gained new own later more).mem_iff.mp hs)

/-- Keys that are registered first are not free any more, so what is gained first and what is gained later have
different tags. -/
theorem Gains.trans (h : p.Gains q new own) (h' : q.Gains r later more) :
    p.Gains r (new ++ later) (own ++ more) where
  grows := h.grows.trans h'.grows
  starts := by rw [h'.starts, h.starts, List.append_assoc]
  distinct := by
    rw [((perm_gained new own later more).map Start.tag).nodup_iff, List.map_append]
    refine List.nodup_append.mpr ⟨h.distinct, h'.distinct, ?_⟩
    rintro _ htag _ htag' rfl
    obtain ⟨s, hs, rfl⟩ := List.mem_map.mp htag
    obtain ⟨s', hs', heq⟩ := List.mem_map.mp htag'
    exact h.registered s hs (heq ▸ h'.fresh s' hs')
  fresh s hs := by
    refine (mem_gained hs).elim (h.fresh s) fun hs => ?_
    exact Decidable.not_not.mp fun hne => h.grows.registered hne (h'.fresh s hs)
  registered s hs := by
    exact (mem_gained hs).elim (fun hs => h'.grows.registered (h.registered s hs)) (h'.registered s)
  keyed s hs := by
    refine (mem_gained hs).elim (fun hs => ?_) (h'.keyed s)
    exact (pathKey_congr h'.grows.name s.path).trans (h.keyed s hs)
  settled dialog tag hne := (h'.settled dialog tag (h.grows.registered hne)).trans (h.settled dialog tag hne)
  tagged hp := h'.tagged (h.tagged hp)
  answered hp s hs := by
    refine (mem_gained hs).elim (fun hs => (h.answered hp s hs).of_gains h' (h.registered s hs)) ?_
    exact h'.answered (h.tagged hp) s

private theorem Gains.add {key : String} {handler : FlowHandler} (h : p.Gains q new handler.starts)
    (hadd : q.add key handler = .ok r) : p.Gains r (new ++ handler.starts) [] := by
  have hgrows := extends_of_add hadd
  have hstarts := starts_of_add hadd
  obtain ⟨-, rfl⟩ := add_eq_ok.mp hadd
  exact {
    grows := h.grows.trans hgrows
    starts := by rw [hstarts, h.starts, List.append_assoc]
    distinct := by simpa using h.distinct
    fresh := by simpa using h.fresh
    registered := fun s hs => hgrows.registered (h.registered s (by simpa using hs))
    keyed := fun s hs => h.keyed s (by simpa using hs)
    settled := h.settled
    tagged := fun hp dialog tag hne => hgrows.registered (h.tagged hp dialog tag hne)
    answered := fun hp s hs => h.answered hp s (by simpa using hs) }

private theorem Gains.opens {key : String} {handler : FlowHandler} (h : p.Gains q new handler.starts)
    (hadd : q.add key handler = .ok r) : p.Opens r (new ++ handler.starts) key := by
  obtain ⟨hfree, rfl⟩ := add_eq_ok.mp hadd
  refine ⟨Decidable.not_not.mp fun hne => h.grows.registered hne hfree, by simp [lookup_of_add hadd], ?_, ?_⟩
  · rintro s hs rfl
    exact h.registered s hs hfree
  · exact fun hp dialog => Decidable.not_not.mp fun hne => h.tagged hp dialog key hne hfree

private theorem Gains.awaiting {s : Start} (h : p.Gains q new []) (hopens : p.Opens q new s.tag)
    (hkey : q.pathKey s.path = .ok s.tag) : p.Gains (q.awaiting s.target s.tag s.path) new [s] where
  grows := h.grows.trans (extends_awaiting _ _ _ _)
  starts := h.starts
  distinct := by
    rw [List.map_append]
    refine List.nodup_append.mpr ⟨by simpa using h.distinct, by simp, ?_⟩
    rintro _ htag _ htag' rfl
    obtain ⟨other, hother, rfl⟩ := List.mem_map.mp htag
    exact hopens.apart other hother (by simpa using htag')
  fresh := by
    intro other hother
    rcases List.mem_append.mp hother with hother | hother
    · exact h.fresh other (by simpa using hother)
    · obtain rfl := List.mem_singleton.mp hother
      exact hopens.free
  registered := by
    intro other hother
    rcases List.mem_append.mp hother with hother | hother
    · exact h.registered other (by simpa using hother)
    · obtain rfl := List.mem_singleton.mp hother
      exact hopens.registered
  keyed := by
    intro other hother
    rcases List.mem_append.mp hother with hother | hother
    · exact h.keyed other (by simpa using hother)
    · obtain rfl := List.mem_singleton.mp hother
      exact hkey
  settled dialog tag hne := by
    have hother : s.tag ≠ tag := by
      rintro rfl
      exact hne hopens.free
    rw [resultOf_awaiting_of_ne hother]
    exact h.settled dialog tag hne
  tagged hp dialog tag hne := by
    by_cases htag : s.tag = tag
    · exact htag ▸ hopens.registered
    · rw [resultOf_awaiting_of_ne htag] at hne
      exact h.tagged hp dialog tag hne
  answered hp other hother dialog := by
    rcases List.mem_append.mp hother with hother | hother
    · rw [resultOf_awaiting_of_ne (hopens.apart other hother).symm]
      exact h.answered hp other (by simpa using hother) dialog
    · obtain rfl := List.mem_singleton.mp hother
      split
      · rename_i heq
        subst heq
        exact EventTable.get?_put_result_self _ _ _ _
      · rename_i hne
        exact (EventTable.get?_put_result_of_ne fun heq => hne (congrArg Prod.fst heq).symm).trans (hopens.unanswered hp dialog)

end Program

open Program

private theorem starts_cons (step : Step) (steps : List Step) :
    (step :: steps).filterMap Step.start? = [step].filterMap Step.start? ++ steps.filterMap Step.start? := by
  rw [← List.filterMap_append, List.singleton_append]

private theorem starts_jump (target : Option FlowPath) :
    (target.elim [] fun t => [Step.jump t]).filterMap Step.start? = [] := by
  cases target <;> rfl

/-- A flow that was compiled is registered under a key that was opened for it. -/
def Job.Opens (job : Job) (p q : Program) (new : List Start) : Prop :=
  match job with
  | .flow _ path _ _ => ∃ key, p.pathKey path = .ok key ∧ p.Opens q new key
  | _ => True

theorem Compiles.gains {job : Job} {p q : Program} (h : Compiles job p q) :
    ∃ new, p.Gains q new job.starts ∧ job.Opens p q new := by
  induction h with
  | @flow flow path targets index steps own key p q r sound hown elements hkey hadd ih =>
    obtain ⟨new, hgains, -⟩ := ih
    exact ⟨_, hgains.add hadd, key, (pathKey_congr hgains.grows.name path).symm.trans hkey, hgains.opens hadd⟩
  | nil =>
    refine ⟨[], ?_, trivial⟩
    simp only [Job.starts, starts_jump]
    exact .refl _
  | startLast _ _ _ | finish _ | set _ | exec _ | wait _ | «break» _ | «continue» _ | noDefault | noCase
  | noActions | computedActions | actionNil | inert _ _ | postback _ _ | noItems | computedItems | itemNil =>
    exact ⟨[], .refl _, trivial⟩
  | handler _ _ ih | last _ _ _ ih | spliced _ _ _ ih | unspliced _ _ _ ih | subFlow _ _ ih | default _ _ ih
  | fixedActions _ ih | fixedItems _ ih =>
    obtain ⟨new, hgains, -⟩ := ih
    exact ⟨new, hgains, trivial⟩
  | plain _ _ _ _ ih ih' =>
    obtain ⟨new, hgains, -⟩ := ih
    obtain ⟨later, hlater, -⟩ := ih'
    refine ⟨new ++ later, ?_, trivial⟩
    simp only [Job.starts]
    rw [starts_cons]
    exact hgains.trans hlater
  | terminal _ _ _ _ _ _ ih =>
    obtain ⟨new, hgains, -⟩ := ih
    exact ⟨new, (Gains.of_eq (extends_warned _ _) rfl fun _ _ => rfl).trans hgains, trivial⟩
  | broken _ _ _ _ _ ih ih' | message _ _ _ ih ih' | conditional _ _ _ _ _ ih ih' | case _ _ _ ih ih'
  | actionCons _ _ ih ih' | itemCons _ _ _ ih ih' =>
    obtain ⟨new, hgains, -⟩ := ih
    obtain ⟨later, hlater, -⟩ := ih'
    exact ⟨new ++ later, hgains.trans hlater, trivial⟩
  | switch _ _ _ _ _ ih ih' ih'' =>
    obtain ⟨new, hgains, -⟩ := ih
    obtain ⟨later, hlater, -⟩ := ih'
    obtain ⟨last, hlast, -⟩ := ih''
    exact ⟨_, (hgains.trans hlater).trans hlast, trivial⟩
  | iteration _ _ _ _ _ _ _ _ _ _ hadd _ ih ih' ih'' =>
    obtain ⟨new, hgains, -⟩ := ih
    obtain ⟨later, hlater, -⟩ := ih'
    obtain ⟨last, hlast, -⟩ := ih''
    exact ⟨_, ((hgains.trans hlater).trans hlast).add hadd, trivial⟩
  | @start id target args resume path targets own tag p q hcheck hpath hresume resumes htag ih =>
    obtain ⟨new, hgains, key, hkey, hopens⟩ := ih
    obtain rfl := Except.ok.inj (htag.symm.trans ((pathKey_congr hgains.grows.name own).trans hkey))
    exact ⟨new, Gains.awaiting (s := ⟨own, target, args, tag⟩) hgains hopens htag, trivial⟩
  | reference _ _ _ => exact ⟨[], .of_eq (extends_referring _ _) rfl fun _ _ => rfl, trivial⟩
  | button _ _ _ _ _ _ _ ih =>
    obtain ⟨new, hgains, -⟩ := ih
    exact ⟨_, hgains.trans (.offering _ _ _ _), trivial⟩

end Colloquy
