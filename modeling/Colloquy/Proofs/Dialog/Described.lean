import Colloquy.Proofs.Dialog.Build
import Colloquy.Proofs.Flow.Rereading

/-!
# Dialogs described by normal forms

Flows that are in normal form are taken as they are. So a dialog may be described by its flows as they were written or
by their normal forms, and the same program comes of it.
-/

namespace Colloquy

namespace Normal

theorem distinct_flows {v : Value} {named : List (String × Flow)} (h : flows v = .ok named) :
    (named.map Prod.fst).Nodup := by
  unfold flows at h
  split at h
  · obtain ⟨read, _, h⟩ := bind_eq_ok.mp h
    cases h
    exact nodup_foldl_putNamed read List.nodup_nil
  · cases h

private theorem flows_canonical {v : Value} (hv : v.recordFree = true) :
    Reads (fun named => ∀ entry ∈ named, FlowCanonical entry.2) (flows v) := by
  unfold flows
  split
  · have hentries := Entries.recordFree_of_dict hv
    refine Reads.bind (P := fun named => ∀ entry ∈ named, FlowCanonical entry.2) (.mapM ?_) ?_
    · rintro ⟨k, v⟩ hentry
      exact (idText_ordinary k).bind fun _ _ => (flow_canonical v (hentries _ hentry)).bind fun _ hflow => hflow
    · exact fun named hnamed => forall_of_lastWins (P := FlowCanonical) hnamed
  · rfl

def namedFlow (entry : Value × Value) : Except Error (String × Flow) := do
  let id ← idText entry.1
  let f ← flow entry.2
  return (id, f)

def flowEntry (entry : String × Flow) : Value × Value := (.str entry.1, .ofList (flowValues entry.2))

/-- The description of a dialog by flows in normal form. -/
def describing (named : List (String × Flow)) : Value := .dict .anonymous (named.map flowEntry)

private theorem flows_describing {named : List (String × Flow)} (hdistinct : (named.map Prod.fst).Nodup)
    (hcanonical : ∀ entry ∈ named, FlowCanonical entry.2) : flows (describing named) = .ok named := by
  have hread : (named.map flowEntry).mapM namedFlow = .ok named := by
    clear hdistinct
    induction named with
    | nil => rfl
    | cons entry rest ih =>
      obtain ⟨hf, hrest⟩ := List.forall_mem_cons.mp hcanonical
      have hflow : flow (.ofList (flowValues entry.2)) = .ok entry.2 := elements_flowValues hf
      rw [List.map_cons, List.mapM_cons, ih hrest, namedFlow, flowEntry, hflow]
      rfl
  change (do return (← (named.map flowEntry).mapM namedFlow).foldl putNamed []) = _
  rw [hread]
  exact congrArg Except.ok (foldl_putNamed hdistinct)

private theorem flows_of_canonical {v : Value} {named : List (String × Flow)} (hv : v.recordFree = true)
    (h : flows v = .ok named) : ∀ entry ∈ named, FlowCanonical entry.2 := by
  have hreads := flows_canonical hv
  rwa [h] at hreads

/-- Normal forms describe a dialog as the flows do that they were made of. -/
theorem described_describing {v : Value} {named : List (String × Flow)} (hv : v.recordFree = true)
    (h : flows v = .ok named) : described (describing named) = described v := by
  have hnamed := flows_describing (distinct_flows h) (flows_of_canonical hv h)
  -- Without flows both descriptions are empty and are not looked at; otherwise both are read.
  have hread (source : Value) (hsource : flows source = .ok named) : described source = .ok named := by
    unfold described
    split
    · exact hsource
    · rename_i hfalsy
      cases source with
      | dict id entries =>
        have hempty : entries = [] := by simpa [Value.truthy] using hfalsy
        rw [hempty] at hsource
        exact hsource
      | _ => cases hsource
  rw [hread _ hnamed, hread v h]

end Normal

private theorem Program.build_congr {source other : Value} (h : Normal.described source = Normal.described other)
    (name modelName : Value) (settings : Settings) :
    build name source modelName settings = build name other modelName settings := by
  unfold build Compile.flows
  rw [h]

/-- Whatever flow is written as data and handlers, its normal form is settled at every depth: each flow in it is a list of
commands and handlers that is read as it is. So a dialog may as well be described by the normal forms of its flows: what
is built is the same, in the same order, or refused for the same reason. -/
theorem normal_forms_are_settled {v : Value} (hv : v.recordFree = true) :
    (∀ f, Normal.flow v = .ok f → ∀ g, FlowWithin g f → FlowSettled g) ∧
    ∀ named, Normal.flows v = .ok named →
      (∀ entry ∈ named, ∀ g, FlowWithin g entry.2 → FlowSettled g) ∧
      ∀ name modelName settings,
        Program.build name (Normal.describing named) modelName settings = Program.build name v modelName settings := by
  refine ⟨fun f hf g hg => ?_, fun named hnamed => ⟨fun entry hentry g hg => ?_, fun name modelName settings => ?_⟩⟩
  · have hcanonical := Normal.flow_canonical v hv
    rw [hf] at hcanonical
    exact (hg.canonical hcanonical).settled
  · exact (hg.canonical (Normal.flows_of_canonical hv hnamed entry hentry)).settled
  · exact Program.build_congr (Normal.described_describing hv hnamed) name modelName settings

/-- A list with one item, whose button sells if there is something left. -/
def stall : Value :=
  .record [("onStart", .record [("type", .str "list"), ("items", .record [("tea", .record [("actions", .record
    [("Buy", .record [("then", .record [("if", .str "left"), ("then", .str "Sold")])])])])])])]

def stallSale : Flow :=
  [.command (.conditional "if" (.str "left") [.command (Normal.plainText (.str "Sold"))] [])]

def stallFlows : List (String × Flow) :=
  [("onStart", [.command (.message .list "list" {} .absent (.fixed [.mk { id := some "tea", title := .str "tea" }
    (.fixed [.mk { id := some "Buy", kind := .postback, text := .str "Buy" } (some stallSale)])]))])]

/-- What the button of the stall does is settled, and so is the text in it; the stall is built in the same way from the
normal forms of its flows. -/
theorem stall_is_settled : (stall.recordFree = true ∧ Normal.flows stall = .ok stallFlows) ∧
    FlowSettled stallSale ∧ FlowSettled [.command (Normal.plainText (.str "Sold"))] ∧
    Program.build (.str "Trial") (Normal.describing stallFlows) .none {} = Program.build (.str "Trial") stall .none {} := by
  have hfree : stall.recordFree = true := rfl
  have hflows : Normal.flows stall = .ok stallFlows := by with_unfolding_all rfl
  obtain ⟨hsettled, hbuild⟩ := (normal_forms_are_settled hfree).2 _ hflows
  have hentry := hsettled _ List.mem_cons_self
  have hsale {g : Flow} (h : FlowWithin g stallSale) : FlowSettled g :=
    hentry g (.nested List.mem_cons_self (.itemAction List.mem_cons_self List.mem_cons_self) h)
  exact ⟨⟨hfree, hflows⟩, hsale .self, hsale (.nested List.mem_cons_self .yes .self), hbuild _ _ _⟩

end Colloquy
