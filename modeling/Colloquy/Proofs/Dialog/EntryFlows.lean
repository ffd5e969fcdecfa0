import Colloquy.Proofs.Dialog.Described
import Colloquy.Proofs.Dialog.Extending
import Colloquy.Proofs.Direct.Soundness
import Mathlib.Data.List.Nodup
import Mathlib.Data.List.Perm.Subperm

/-!
# Entry points and the flows they were made of

The entry points of a dialog go by the texts of their ids. Every text has one entry point, and it runs the flow that is
written last under an id of that text; an earlier one is given up without a word. Different texts never share an entry
point: if two of them come to the same key, compiling ends with a key that is taken twice.
-/

namespace Colloquy

open Compile Program

namespace Normal

private theorem idText_eq_ok {v : Value} {text : String} (h : idText v = .ok text) : text = v.toText := by
  unfold idText liftFault Value.toText? at h
  split at h
  · rename_i hread
    split at hread <;> cases hread
    cases h
    rfl
  · cases h

private theorem read_eq_ok {m : Entries} {named : List (String × Flow)}
    (h : (m.mapM fun (k, v) => do
      let id ← idText k
      let f ← flow v
      pure (id, f)) = .ok named) : named.map Prod.fst = m.map (·.1.toText) := by
  induction m generalizing named with
  | nil =>
    cases h
    rfl
  | cons entry rest ih =>
    rw [List.mapM_cons] at h
    obtain ⟨first, hfirst, h⟩ := bind_eq_ok.mp h
    obtain ⟨id, hid, hfirst⟩ := bind_eq_ok.mp hfirst
    obtain ⟨f, -, hfirst⟩ := bind_eq_ok.mp hfirst
    obtain ⟨others, hothers, h⟩ := bind_eq_ok.mp h
    cases hfirst
    cases h
    rw [List.map_cons, List.map_cons, ih hothers, idText_eq_ok hid]

private theorem flows_eq_ok {ident : Identity} {m : Entries} {named : List (String × Flow)}
    (h : Normal.flows (.dict ident m) = .ok named) :
    ∃ written, named = written.foldl putNamed [] ∧ written.map Prod.fst = m.map (·.1.toText) ∧
      ∀ before k v after, m = before ++ (k, v) :: after → ∃ first f last,
        written = first ++ (k.toText, f) :: last ∧ flow v = .ok f ∧ last.map Prod.fst = after.map (·.1.toText) := by
  unfold Normal.flows at h
  obtain ⟨written, hwritten, h⟩ := bind_eq_ok.mp h
  cases h
  refine ⟨written, rfl, read_eq_ok hwritten, ?_⟩
  rintro before k v after rfl
  rw [List.mapM_append] at hwritten
  obtain ⟨first, -, hwritten⟩ := bind_eq_ok.mp hwritten
  obtain ⟨others, hothers, hwritten⟩ := bind_eq_ok.mp hwritten
  rw [List.mapM_cons] at hothers
  obtain ⟨entry, hentry, hothers⟩ := bind_eq_ok.mp hothers
  obtain ⟨id, hid, hentry⟩ := bind_eq_ok.mp hentry
  obtain ⟨f, hf, hentry⟩ := bind_eq_ok.mp hentry
  obtain ⟨last, hlast, hothers⟩ := bind_eq_ok.mp hothers
  cases hentry
  cases hothers
  cases hwritten
  exact ⟨first, f, last, by rw [idText_eq_ok hid], hf, read_eq_ok hlast⟩

/-- Flows are told apart by the texts of their ids, and under each text the flow that is written last is read. -/
theorem mem_flows {ident : Identity} {before after : Entries} {k v : Value} {named : List (String × Flow)}
    (h : Normal.flows (.dict ident (before ++ (k, v) :: after)) = .ok named)
    (hlast : k.toText ∉ after.map (·.1.toText)) :
    ∃ f, flow v = .ok f ∧ (k.toText, f) ∈ named := by
  obtain ⟨written, rfl, -, hsplit⟩ := flows_eq_ok h
  obtain ⟨first, f, last, rfl, hf, hnames⟩ := hsplit before k v after rfl
  exact ⟨f, hf, mem_foldl_putNamed_of_last (hnames ▸ hlast)⟩

private theorem mem_map_fst_flows {ident : Identity} {m : Entries} {named : List (String × Flow)}
    (h : Normal.flows (.dict ident m) = .ok named) (name : String) :
    name ∈ named.map Prod.fst ↔ name ∈ m.map (·.1.toText) := by
  obtain ⟨written, rfl, hnames, -⟩ := flows_eq_ok h
  rw [mem_map_fst_foldl_putNamed, hnames]
  simp

private theorem length_flows_eq_iff {ident : Identity} {m : Entries} {named : List (String × Flow)}
    (h : Normal.flows (.dict ident m) = .ok named) : named.length = m.length ↔ (m.map (·.1.toText)).Nodup := by
  have hdistinct := distinct_flows h
  constructor
  · intro hlength
    have hsub : (named.map Prod.fst).Subperm (m.map (·.1.toText)) :=
      hdistinct.subperm fun name hname => (mem_map_fst_flows h name).mp hname
    exact (hsub.perm_of_length_le (by simp [hlength])).nodup_iff.mp hdistinct
  · intro hnodup
    obtain ⟨written, rfl, hnames, -⟩ := flows_eq_ok h
    rw [foldl_putNamed (by rw [List.nil_append, hnames]; exact hnodup), List.nil_append]
    simpa using congrArg List.length hnames

end Normal

variable {p q r : Program}

/-! ## Keys that are taken -/

namespace Program

/-- What was compiled at a path took the key of the path, which was free before. -/
structure Occupies (p q : Program) (path : FlowPath) (key : String) : Prop where
  path : q.pathKey path = .ok key
  free : p.flows.lookup key = none
  taken : q.flows.lookup key ≠ none

private theorem occupies_of_compileFlow {flow : Flow} {path : FlowPath} {targets : Targets} {index : Nat}
    (h : compileFlow flow path targets index p = .ok () q) : ∃ key, p.Occupies q path key := by
  cases compiles_of_compileFlow h with
  | flow sound hown elements hkey hadd =>
    rename_i steps own key before
    refine ⟨key, (pathKey_congr (extends_of_add hadd).name path).trans hkey, ?_, ?_⟩
    · cases hl : p.flows.lookup key with
      | none => rfl
      | some handler =>
        have hbefore := elements.grows.flows key handler hl
        rw [(add_eq_ok.mp hadd).1] at hbefore
        cases hbefore
    · rw [lookup_of_add hadd]
      exact nofun

private theorem perform_of_taken {α : Type} {entries : List Entry} {key : String} (a : α) (htakes : Takes entries key)
    (htaken : p.flows.lookup key ≠ none) : ∃ own s, p.perform (.ok a) entries = .error (.duplicateKey own) s := by
  induction entries generalizing p with
  | nil =>
    obtain ⟨entry, hmem, -⟩ := htakes
    exact absurd hmem List.not_mem_nil
  | cons entry rest ih =>
    rw [perform]
    cases henter : p.enter entry with
    | error e =>
      obtain ⟨own, -, -, -, rfl⟩ := enter_eq_error henter
      exact ⟨own, p, rfl⟩
    | ok s =>
      obtain ⟨other, hmem, hother⟩ := htakes
      rcases List.mem_cons.mp hmem with rfl | hmem
      · cases other with
        | register own handler =>
          cases hother
          rw [(add_eq_ok.mp henter).1] at htaken
          exact absurd rfl htaken
        | _ => cases hother
      · exact ih ⟨other, hmem, hother⟩ (lookup_of_enter henter (.inl htaken))

/-- A flow is not compiled at a path whose key is taken. If nothing else is wrong with it, a key that is taken twice
is told. -/
theorem compileFlow_of_taken {flow : Flow} {path : FlowPath} {key : String} (hkey : p.pathKey path = .ok key)
    (htaken : p.flows.lookup key ≠ none) : ∃ e s, compileFlow flow path {} 0 p = .error e s ∧
      (∀ q r : Program, q.dialog.name = p.dialog.name → compileFlow flow path {} 0 q = .ok () r →
        ∃ own, e = .duplicateKey own) := by
  have hobeys : ∀ part ∈ flowParts flow, part.Obeys .free := fun part _ => part.obeys_free
  have hscripted : Scripted .free path p.dialog.name (fun _ => False) (FlowKey.ofPath p.dialog.name path = .ok ·)
      (compileFlow flow path {} 0) := scripted_compileFlow hobeys (.refl trivial) {} 0
  obtain ⟨entries, ending, -, -, htakes, hperform⟩ := hscripted
  cases ending with
  | ok a =>
    obtain ⟨own, s, hfails⟩ := perform_of_taken a (htakes a rfl key hkey) htaken
    exact ⟨_, s, (hperform p rfl).trans hfails, fun _ _ _ _ => ⟨own, rfl⟩⟩
  | error e =>
    -- what is wrong with the flow itself is so in every program
    have hnever (q r : Program) (hname : q.dialog.name = p.dialog.name) : compileFlow flow path {} 0 q ≠ .ok () r := by
      rw [hperform q hname, perform_ending q ()]
      cases q.perform (.ok ()) entries <;> exact nofun
    cases hfails : compileFlow flow path {} 0 p with
    | ok a s => exact absurd hfails (hnever p s rfl)
    | error e s => exact ⟨e, s, rfl, fun q r hname hq => absurd hq (hnever q r hname)⟩

end Program

/-! ## Entry points -/

namespace Compile

variable {flows : List (String × Flow)} {entries : List (String × FlowPath)}

private theorem entryPoints_cons_eq_ok {id : String} {flow : Flow}
    (h : entryPoints ((id, flow) :: flows) p = .ok entries r) :
    ∃ path q rest, FlowPath.append [] id = .ok path ∧ compileFlow flow path {} 0 p = .ok () q ∧
      entryPoints flows q = .ok rest r ∧ entries = (id, path) :: rest := by
  rw [entryPoints] at h
  obtain ⟨path, happend, h⟩ := append_bind_eq_ok.mp h
  obtain ⟨_, q, hcompile, h⟩ := bind_eq_ok.mp h
  obtain ⟨rest, hrest, rfl⟩ := bind_pure_eq_ok.mp h
  exact ⟨path, q, rest, happend, hcompile, hrest, rfl⟩

private theorem map_fst_entryPoints (h : entryPoints flows p = .ok entries r) :
    entries.map Prod.fst = flows.map Prod.fst := by
  induction flows generalizing entries p with
  | nil =>
    rw [entryPoints] at h
    obtain ⟨rfl, rfl⟩ := pure_eq_ok.mp h
    rfl
  | cons entry flows ih =>
    obtain ⟨path, q, rest, -, -, hrest, rfl⟩ := entryPoints_cons_eq_ok h
    rw [List.map_cons, List.map_cons, ih hrest]

private theorem entryPoints_occupy (h : entryPoints flows p = .ok entries r) :
    (∀ entry ∈ entries, ∃ key, p.Occupies r entry.2 key) ∧ (entries.map fun entry => r.pathKey entry.2).Nodup := by
  induction flows generalizing entries p with
  | nil =>
    rw [entryPoints] at h
    obtain ⟨rfl, rfl⟩ := pure_eq_ok.mp h
    exact ⟨List.forall_mem_nil _, List.nodup_nil⟩
  | cons entry flows ih =>
    obtain ⟨path, q, rest, -, hcompile, hrest, rfl⟩ := entryPoints_cons_eq_ok h
    obtain ⟨hall, hdistinct⟩ := ih hrest
    obtain ⟨key, hkey⟩ := occupies_of_compileFlow hcompile
    have hgrows := (entryPoints_eq_ok hrest).1.grows
    have hbefore := (compiles_of_compileFlow hcompile).grows
    have hpath : r.pathKey path = .ok key := (pathKey_congr hgrows.name path).trans hkey.path
    obtain ⟨handler, htaken⟩ := Option.ne_none_iff_exists'.mp hkey.taken
    refine ⟨List.forall_mem_cons.mpr ⟨⟨key, hpath, hkey.free, ?_⟩, fun other hother => ?_⟩, ?_⟩
    · rw [hgrows.flows key handler htaken]
      exact Option.some_ne_none handler
    · obtain ⟨own, hown⟩ := hall other hother
      refine ⟨own, hown.path, ?_, hown.taken⟩
      cases hl : p.flows.lookup own with
      | none => rfl
      | some old =>
        have hold := hbefore.flows own old hl
        rw [hown.free] at hold
        cases hold
    · refine List.nodup_cons.mpr ⟨fun hmem => ?_, hdistinct⟩
      obtain ⟨other, hother, hsame⟩ := List.mem_map.mp hmem
      obtain ⟨own, hown⟩ := hall other hother
      -- the key of a later entry point was still free when this one was there already
      have heq : own = key := Except.ok.inj (hown.path.symm.trans (hsame.trans hpath))
      exact hkey.taken (heq ▸ hown.free)

private theorem entryPoints_append_error {before after : List (String × Flow)} {name : String} {flow : Flow}
    {path : FlowPath}
    {e : Error} (hbefore : entryPoints before p = .ok entries q) (hpath : FlowPath.append [] name = .ok path)
    (hfails : compileFlow flow path {} 0 q = .error e r) :
    entryPoints (before ++ (name, flow) :: after) p = .error e r := by
  induction before generalizing entries p with
  | nil =>
    rw [entryPoints] at hbefore
    obtain ⟨rfl, rfl⟩ := pure_eq_ok.mp hbefore
    rw [List.nil_append, entryPoints]
    exact bind_eq_error.mpr (.inr ⟨path, p, append_eq_ok.mpr ⟨hpath, rfl⟩, bind_eq_error.mpr (.inl hfails)⟩)
  | cons entry before ih =>
    obtain ⟨own, s, rest, hown, hcompile, hrest, rfl⟩ := entryPoints_cons_eq_ok hbefore
    rw [List.cons_append, entryPoints]
    refine bind_eq_error.mpr (.inr ⟨own, p, append_eq_ok.mpr ⟨hown, rfl⟩, ?_⟩)
    exact bind_eq_error.mpr (.inr ⟨(), s, hcompile, bind_eq_error.mpr (.inl (ih hrest))⟩)

end Compile

/-- Wherever the program is used, the flow at a path does what a direct run of the flow does. -/
def Program.RunsFlow (p : Program) (path : FlowPath) (flow : Flow) : Prop :=
  ∀ m : Machine, p.Extends m.program →
    ∃ l, ∀ vars, m.Does id (pure (path.toValue, vars)) fun n => Direct.runFlow m flow l n vars

private theorem runsFlow_of_compileFlow {flow : Flow} {path : FlowPath} (h : compileFlow flow path {} 0 p = .ok () q)
    (hgrows : q.Extends r) : r.RunsFlow path flow :=
  fun _ hm => Direct.does_of_compileFlow h (hgrows.trans hm)

/-- The entry points of a mapping of flows are the texts of its ids, each with a key of its own, at which the flow runs
that is written last under the text. So there are as many as flows if and only if all ids have different texts; and
different texts with one key end in a key that is taken twice, if nothing else is wrong. -/
theorem entry_points_run_last_flows {ident : Identity} {m : Entries} {flows : List (String × Flow)}
    (hflows : Normal.flows (.dict ident m) = .ok flows) (p : Program) :
    (∀ entries q, entryPoints flows p = .ok entries q →
      (∀ name, name ∈ entries.map Prod.fst ↔ name ∈ m.map (·.1.toText)) ∧
      (entries.map Prod.fst).Nodup ∧ (entries.map fun entry => q.pathKey entry.2).Nodup ∧
      (entries.length = m.length ↔ (m.map (·.1.toText)).Nodup) ∧
      ∀ before k v after, m = before ++ (k, v) :: after → k.toText ∉ after.map (·.1.toText) →
        ∃ flow path key, Normal.flow v = .ok flow ∧ (k.toText, path) ∈ entries ∧ p.Occupies q path key ∧
          q.RunsFlow path flow) ∧
    ∀ before name flow after entries q path key, flows = before ++ (name, flow) :: after →
      entryPoints before p = .ok entries q → (∃ entry ∈ entries, q.pathKey entry.2 = .ok key) →
      FlowPath.append [] name = .ok path → q.pathKey path = .ok key →
      ∃ e s, entryPoints flows p = .error e s ∧
        ∀ r t : Program, r.dialog.name = q.dialog.name → compileFlow flow path {} 0 r = .ok () t →
          ∃ own, e = .duplicateKey own := by
  refine ⟨fun entries q h => ?_, ?_⟩
  · have hnames := map_fst_entryPoints h
    have hdistinct := Normal.distinct_flows hflows
    obtain ⟨hoccupy, hkeys⟩ := entryPoints_occupy h
    refine ⟨fun name => ?_, hnames ▸ hdistinct, hkeys, ?_, ?_⟩
    · rw [hnames]
      exact Normal.mem_map_fst_flows hflows name
    · have hlength : entries.length = flows.length := by simpa using congrArg List.length hnames
      rw [hlength]
      exact Normal.length_flows_eq_iff hflows
    · rintro before k v after rfl hlast
      obtain ⟨flow, hflow, hmem⟩ := Normal.mem_flows hflows hlast
      have hname : k.toText ∈ entries.map Prod.fst := hnames ▸ List.mem_map_of_mem hmem
      obtain ⟨⟨_, path⟩, hentry, rfl⟩ := List.mem_map.mp hname
      obtain ⟨key, hkey⟩ := hoccupy _ hentry
      obtain ⟨other, q', r', hother, -, hcompile, hlater⟩ := (entryPoints_eq_ok h).2.2 _ path hentry
      have hsame : (k.toText, other) = (k.toText, flow) := List.inj_on_of_nodup_map hdistinct hother hmem rfl
      obtain rfl : other = flow := (Prod.mk.inj hsame).2
      exact ⟨other, path, key, hflow, hentry, hkey, runsFlow_of_compileFlow hcompile hlater.grows⟩
  · rintro before name flow after entries q path key rfl hbefore ⟨entry, hentry, htaken⟩ hpath hkey
    obtain ⟨own, hown⟩ := (entryPoints_occupy hbefore).1 entry hentry
    obtain rfl : own = key := Except.ok.inj (hown.path.symm.trans htaken)
    obtain ⟨e, s, hfails, htold⟩ := compileFlow_of_taken hkey hown.taken
    exact ⟨e, s, entryPoints_append_error hbefore hpath hfails, fun r t hname hr => htold r t hname hr⟩

/-- Of a flow under a truth value and one under its text only the second is there. -/
theorem flow_under_truth_gives_way :
    let p : Program := { dialog := { name := "Trial", wildcard := .str "*" } }
    let flow : Flow := [.command (Normal.plainText (.str "Second"))]
    ∃ flows entries q path,
      Normal.flows (.dict .anonymous [(.bool true, .str "First"), (.str "True", .str "Second")]) = .ok flows ∧
      entryPoints flows p = .ok entries q ∧ entries.length ≠ 2 ∧ ("True", path) ∈ entries ∧ q.RunsFlow path flow := by
  intro p flow
  have hflows : Normal.flows (.dict .anonymous [(.bool true, .str "First"), (.str "True", .str "Second")]) =
      .ok [("True", flow)] := by
    with_unfolding_all rfl
  obtain ⟨q, hcompiles⟩ : ∃ q, Compiles (.flow flow [.name "True"] {} 0) p q :=
    ⟨_, .flow rfl rfl (.plain rfl rfl (.message rfl .noActions .noItems) .nil) rfl rfl⟩
  have hentries : entryPoints [("True", flow)] p = .ok [("True", [.name "True"])] q := by
    rw [entryPoints]
    refine bind_eq_ok.mpr ⟨[.name "True"], p, append_eq_ok.mpr ⟨rfl, rfl⟩, ?_⟩
    exact bind_eq_ok.mpr ⟨(), q, hcompiles.succeeds, rfl⟩
  obtain ⟨-, -, -, hlength, hlast⟩ := (entry_points_run_last_flows hflows p).1 _ _ hentries
  obtain ⟨other, path, key, hother, hpath, -, hruns⟩ :=
    hlast [(.bool true, .str "First")] (.str "True") (.str "Second") [] rfl List.not_mem_nil
  obtain rfl : flow = other := Except.ok.inj (Eq.trans (by with_unfolding_all rfl) hother)
  refine ⟨_, _, _, path, hflows, hentries, fun htwo => ?_, hpath, hruns⟩
  exact absurd (hlength.mp htwo) (by with_unfolding_all decide)

end Colloquy
