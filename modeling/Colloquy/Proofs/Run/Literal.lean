import Colloquy.Proofs.Run.Counter
import Colloquy.Proofs.Run.Starts

/-!
# Literal parameters

A parameter that an author writes down as plain data expands to itself in every environment, apart from its form:
tuples become lists, and mappings lose the entries that are `None`. So what a start makes of a literal parameter is
known from the parameter alone. The check that is made beforehand rejects nothing that a start would accept, but it
lets pass some parameters that every start rejects.
-/

namespace Colloquy

open Run

namespace Value

/-- Plain data without parts. -/
def isAtom : Value → Bool
  | .none | .bool _ | .int _ | .float _ | .complex .. | .bytes _ | .moment _ => true
  | _ => false

/-- Plain data in which nothing is rendered, called or executed. -/
inductive Literal : Value → Prop where
  | atom {v} (h : v.isAtom = true) : Literal v
  | text {v s} (hv : v.text? = some s) (hs : Template.isTemplate s = false) : Literal v
  | list {id items} (h : ∀ v ∈ items, Literal v) : Literal (.list id items)
  | tuple {items} (h : ∀ v ∈ items, Literal v) : Literal (.tuple items)
  | dict {id} {entries : Entries} (hexec : entries.hasName "exec" = false) (hnames : entries.Distinct)
      (h : ∀ entry ∈ entries, Literal entry.2) : Literal (.dict id entries)

/-- No list or mapping that occurs in a value has changed. -/
inductive Unchanged (heap : Heap) : Value → Prop where
  | atom {v} (h : v.isAtom = true) : Unchanged heap v
  | text {v s} (hv : v.text? = some s) : Unchanged heap v
  | list {id items} (hid : ∀ n, id = .object n → heap.contents.lookup n = Option.none)
      (h : ∀ v ∈ items, Unchanged heap v) : Unchanged heap (.list id items)
  | tuple {items} (h : ∀ v ∈ items, Unchanged heap v) : Unchanged heap (.tuple items)
  | dict {id} {entries : Entries} (hid : ∀ n, id = .object n → heap.contents.lookup n = Option.none)
      (h : ∀ entry ∈ entries, Unchanged heap entry.2) : Unchanged heap (.dict id entries)

mutual

def expanded : Value → Value
  | .str s | .markup s => .str s
  | .list _ items | .tuple items => .ofList (expandedAll items)
  | .dict _ entries => .dict .anonymous ((expandedEntries entries).filter fun (_, v) => !v.isNone)
  | v => v

def expandedAll : List Value → List Value
  | [] => []
  | v :: vs => v.expanded :: expandedAll vs

/-- What literal entries expand to, those that are `None` included. -/
def expandedEntries : Entries → Entries
  | [] => []
  | (k, v) :: rest => (k, v.expanded) :: expandedEntries rest

end

theorem sizeEntries_eq (entries : Entries) : sizeEntries entries = sizeAll (entries.map (·.2)) := by
  induction entries with
  | nil => rfl
  | cons entry rest ih => rw [sizeEntries, ih, List.map_cons, sizeAll]

private theorem expandedAll_eq_map (items : List Value) : expandedAll items = items.map expanded := by
  induction items with
  | nil => rfl
  | cons v rest ih => rw [expandedAll, ih, List.map_cons]

private theorem expandedEntries_eq_mapValues (entries : Entries) :
    expandedEntries entries = entries.mapValues expanded := by
  induction entries with
  | nil => rfl
  | cons entry rest ih =>
    rw [expandedEntries, ih]
    rfl

private theorem expanded_of_isAtom {v : Value} (h : v.isAtom = true) : v.expanded = v := by
  cases v with
  | str | markup | list | tuple | dict => cases h
  | _ => rfl

private theorem expanded_of_text {v : Value} {s : String} (h : v.text? = some s) : v.expanded = .str s := by
  cases v with
  | str | markup =>
    obtain rfl := Option.some.inj h
    rfl
  | _ => cases h

private theorem isNone_expanded (v : Value) : v.expanded.isNone = v.isNone := by
  cases v <;> rfl

private theorem text?_expanded (v : Value) : v.expanded.text? = v.text? := by
  cases v <;> rfl

private theorem isSome_mapping?_expanded (v : Value) : v.expanded.mapping?.isSome = v.mapping?.isSome := by
  cases v <;> rfl

end Value

namespace Heap

variable {heap : Heap} {id : Identity}

private theorem current_list_unchanged (hid : ∀ n, id = .object n → heap.contents.lookup n = none)
    (items : List Value) :
    heap.current (.list id items) = .list id (items.map heap.current) := by
  unfold current
  split
  · simp
  · cases id with
    | object n => rw [Value.refresh, content_eq_none (hid n rfl), Value.refreshAll_eq_map]
    | anonymous | derived =>
      rw [Value.refresh, Value.refreshAll_eq_map]
      nofun

private theorem current_dict_unchanged (hid : ∀ n, id = .object n → heap.contents.lookup n = none) (entries : Entries) :
    heap.current (.dict id entries) = .dict id (entries.mapValues heap.current) := by
  cases id with
  | object n => exact current_unchanged (hid n rfl) entries
  | anonymous => exact heap.current_dict entries
  | derived n =>
    unfold current
    split
    · simp [Entries.mapValues]
    · rw [Value.refresh, Value.refreshEntries_eq_map]
      · rfl
      · intro n h
        cases h

private theorem current_tuple (heap : Heap) (items : List Value) :
    heap.current (.tuple items) = .tuple (items.map heap.current) := by
  unfold current
  split
  · simp
  · rw [Value.refresh, Value.refreshAll_eq_map]

end Heap

namespace Value

variable {heap : Heap} {v : Value}

private theorem Unchanged.current (h : v.Unchanged heap) : heap.current v = v := by
  induction h with
  | @atom v h =>
    refine Heap.current_of_refresh (fun content => ?_) heap
    cases v with
    | list | tuple | dict | view | stream | method | negated | model | jump => cases h
    | _ => rfl
  | text hv => exact heap.current_text hv
  | list hid _ ih => rw [Heap.current_list_unchanged hid, List.map_congr_left ih, List.map_id']
  | tuple _ ih => rw [heap.current_tuple, List.map_congr_left ih, List.map_id']
  | @dict id entries hid _ ih =>
    have hsame : entries.mapValues heap.current = entries := by
      refine (List.map_congr_left fun entry hentry => ?_).trans (List.map_id' entries)
      exact congrArg (Prod.mk entry.1) (ih entry hentry)
    rw [Heap.current_dict_unchanged hid, hsame]

private theorem Unchanged.items {items : List Value} (h : v.Unchanged heap) (hitems : v.sequence? = some items) :
    ∀ v ∈ items, v.Unchanged heap := by
  cases h with
  | @atom v h =>
    cases v with
    | list | tuple => cases h
    | _ => cases hitems
  | @text v s h =>
    cases v with
    | list | tuple => cases h
    | _ => cases hitems
  | list _ h | tuple h => exact Option.some.inj hitems ▸ h
  | dict => cases hitems

private theorem Unchanged.entries {id : Identity} {entries : Entries} (h : (Value.dict id entries).Unchanged heap) :
    ∀ entry ∈ entries, entry.2.Unchanged heap := by
  cases h with
  | atom h => cases h
  | text h => cases h
  | dict _ h => exact h

private theorem Literal.unchanged_expanded (h : v.Literal) (heap : Heap) : v.expanded.Unchanged heap := by
  induction h with
  | atom h =>
    rw [expanded_of_isAtom h]
    exact .atom h
  | text hv =>
    rw [expanded_of_text hv]
    exact .text rfl
  | list _ ih | tuple _ ih =>
    rw [expanded, expandedAll_eq_map]
    refine .list nofun fun v hv => ?_
    obtain ⟨v, hmem, rfl⟩ := List.mem_map.mp hv
    exact ih v hmem
  | dict _ _ _ ih =>
    rw [expanded, expandedEntries_eq_mapValues]
    refine .dict nofun fun entry hentry => ?_
    obtain ⟨entry, hmem, rfl⟩ := List.mem_map.mp (List.mem_filter.mp hentry).1
    exact ih entry hmem

end Value

namespace Expander

variable {x : Expander} {w : World} {v : Value} {t : Task} {n : Nat}

/-! ## Rounds that leave the world as it is -/

/-- A task ends with a value after some rounds at most, none of which changes the world. -/
inductive Gives (x : Expander) (w : World) (v : Value) : Nat → Task → Prop where
  | ended {n heard} : Gives x w v n (.ended (.ok v) heard [])
  | round {n t t'} (h : x.round t w = .ok t' w) (ht : Gives x w v n t') : Gives x w v (n + 1) t

private theorem Gives.mono {k : Nat} (h : Gives x w v n t) (hle : n ≤ k) : Gives x w v k t := by
  induction h generalizing k with
  | ended => exact .ended
  | round h _ ih =>
    obtain ⟨k, rfl⟩ := Nat.exists_eq_add_of_le' (Nat.le_of_add_left_le hle)
    exact .round h (ih (Nat.le_of_succ_le_succ hle))

private theorem Gives.next (h : Gives x w v (n + 1) t) : ∃ t', x.round t w = .ok t' w ∧ Gives x w v n t' := by
  cases h with
  | ended =>
    refine ⟨.ended (.ok v) true [], ?_, .ended⟩
    rw [Expander.round]
    rfl
  | round h ht => exact ⟨_, h, ht⟩

private theorem Gives.result {result : Except Error Value} {heard : Bool} {orphans : List Task}
    (h : Gives x w v n (.ended result heard orphans)) : result = .ok v := by
  generalize ht : Task.ended result heard orphans = t at h
  induction h generalizing heard orphans with
  | ended => exact (Task.ended.inj ht).1
  | round h _ ih =>
    subst ht
    rw [Expander.round] at h
    obtain ⟨orphans', w₁, -, hend⟩ := bind_eq_ok h
    cases hend
    exact ih rfl

private theorem roundAll_of_gives {vs : List Value} {ts : List Task}
    (h : List.Forall₂ (fun v t => Gives x w v (n + 1) t) vs ts) :
    ∃ ts', x.roundAll ts w = .ok ts' w ∧ List.Forall₂ (fun v t => Gives x w v n t) vs ts' := by
  induction h with
  | nil => exact ⟨[], by rw [roundAll]; rfl, .nil⟩
  | cons h _ ih =>
    obtain ⟨t', ht, hgives⟩ := h.next
    obtain ⟨ts', hts, hall⟩ := ih
    refine ⟨t' :: ts', ?_, .cons hgives hall⟩
    rw [roundAll, bind_ok ht, bind_ok hts]
    rfl

theorem settle_of_unfailed {ts : List Task} (h : ∀ t ∈ ts, ∀ e heard orphans, t ≠ .ended (.error e) heard orphans) :
    settle ts = none ∨ settle ts = some (.ok ()) := by
  induction ts with
  | nil => exact .inr rfl
  | cons t rest ih =>
    obtain ⟨hfirst, hrest⟩ := List.forall_mem_cons.mp h
    unfold settle
    split
    · exact .inr rfl
    · rename_i heq
      obtain ⟨rfl, -⟩ := List.cons.inj heq
      exact absurd rfl (hfirst _ _ _)
    · rename_i heq
      obtain ⟨-, rfl⟩ := List.cons.inj heq
      exact ih hrest
    · rename_i heq
      obtain ⟨-, rfl⟩ := List.cons.inj heq
      obtain hsettle | hsettle := ih hrest <;> exact .inl (by rw [hsettle])

private theorem settle_of_gives {vs : List Value} {ts : List Task}
    (h : List.Forall₂ (fun v t => Gives x w v n t) vs ts) :
    settle ts = none ∨ settle ts = some (.ok ()) := by
  refine settle_of_unfailed ?_
  induction h with
  | nil => nofun
  | cons h _ ih =>
    refine List.forall_mem_cons.mpr ⟨?_, ih⟩
    rintro e heard orphans rfl
    cases h.result

private theorem results_of_gives {vs : List Value} {ts : List Task}
    (h : List.Forall₂ (fun v t => Gives x w v n t) vs ts) (hall : ∀ t ∈ ts, t.Succeeded) : results ts = vs := by
  induction h with
  | nil => rfl
  | cons h _ ih =>
    obtain ⟨⟨v, heard, orphans, rfl⟩, hrest⟩ := List.forall_mem_cons.mp hall
    obtain rfl := Except.ok.inj h.result
    rw [results, ih hrest]

theorem succeeded_roundAll {ts : List Task} (h : ∀ t ∈ ts, t.Succeeded) :
    (x.roundAll ts).Yields fun ts' => (∀ t ∈ ts', t.Succeeded) ∧ settle ts' = some (.ok ()) := by
  induction ts with
  | nil =>
    rw [roundAll]
    exact .pure ⟨nofun, rfl⟩
  | cons t rest ih =>
    obtain ⟨⟨v, heard, orphans, rfl⟩, hrest⟩ := List.forall_mem_cons.mp h
    have hfirst : (x.round (.ended (.ok v) heard orphans)).Yields fun t' => ∃ orphans, t' = .ended (.ok v) true orphans := by
      rw [round]
      exact .bind fun _ => .pure ⟨_, rfl⟩
    rw [roundAll]
    refine .bind_of hfirst ?_
    rintro _ ⟨orphans, rfl⟩
    refine .bind_of (ih hrest) fun ts' hts' => .pure ⟨?_, ?_⟩
    · exact List.forall_mem_cons.mpr ⟨⟨_, _, _, rfl⟩, hts'.1⟩
    · rw [settle, hts'.2]

private theorem gives_settled {vs : List Value} {ts : List Task} (collection : Collection)
    (h : List.Forall₂ (fun v t => Gives x w v n t) vs ts) (hall : ∀ t ∈ ts, t.Succeeded) :
    Gives x w (Collection.build collection vs) 1 (.group collection [] (some (.ok ())) ts) := by
  obtain ⟨ts', hround, hgives⟩ := roundAll_of_gives (h.imp fun _ _ ht => ht.mono (Nat.le_succ n))
  have hresults : results ts' = vs := results_of_gives hgives (succeeded_roundAll hall w ts' w hround).1
  have hstep : x.round (.group collection [] (some (.ok ())) ts) w =
      .ok (.ended (.ok (Collection.build collection vs)) false []) w := by
    rw [round, bind_ok hround, finish, hresults]
    rfl
  exact .round hstep .ended

private theorem succeeded_of_gives {vs : List Value} {ts : List Task}
    (h : List.Forall₂ (fun v t => Gives x w v 0 t) vs ts) :
    ∀ t ∈ ts, t.Succeeded := by
  induction h with
  | nil => nofun
  | cons h _ ih =>
    cases h
    exact List.forall_mem_cons.mpr ⟨⟨_, _, _, rfl⟩, ih⟩

private theorem gives_group {vs : List Value} {ts : List Task} (collection : Collection)
    (h : List.Forall₂ (fun v t => Gives x w v n t) vs ts) :
    Gives x w (Collection.build collection vs) (n + 2) (.group collection [] none ts) := by
  have hstep {ts ts' : List Task} (hround : x.roundAll ts w = .ok ts' w) :
      x.round (.group collection [] none ts) w = .ok (.group collection [] (settle ts') ts') w := by
    rw [round, bind_ok hround]
    rfl
  induction n generalizing ts with
  | zero =>
    obtain ⟨ts', hround, hgives⟩ := roundAll_of_gives (h.imp fun _ _ ht => ht.mono (Nat.le_succ 0))
    obtain ⟨hall, hsettle⟩ := succeeded_roundAll (succeeded_of_gives h) w ts' w hround
    exact .round (hsettle ▸ hstep hround) (gives_settled collection hgives hall)
  | succ n ih =>
    obtain ⟨ts', hround, hgives⟩ := roundAll_of_gives h
    refine .round (hstep hround) ?_
    obtain hsettle | hsettle := settle_of_gives hgives
    · exact hsettle ▸ ih hgives
    · exact hsettle ▸ (gives_settled collection hgives (succeeded_of_settle hsettle)).mono (Nat.le_add_left 1 _)

private theorem Gives.complete {fuel : Nat} (h : Gives x w v n t) (hfuel : n < fuel) :
    x.complete fuel t w = .ok v w := by
  induction h generalizing fuel with
  | ended =>
    obtain ⟨fuel, rfl⟩ := Nat.exists_eq_add_of_le' (Nat.zero_lt_of_lt hfuel)
    rfl
  | @round n t t' h ht ih =>
    obtain ⟨fuel, rfl⟩ := Nat.exists_eq_add_of_le' (Nat.zero_lt_of_lt hfuel)
    cases t with
    | ended result heard orphans =>
      obtain rfl := (Gives.round h ht).result
      rfl
    | fresh | group =>
      change (x.round _ >>= x.complete fuel) w = _
      rw [bind_ok h]
      exact ih (Nat.lt_of_succ_lt_succ hfuel)

/-! ## Literal parameters -/

private theorem gives_gather {params vs : List Value} (collection : Collection)
    (h : List.Forall₂ (fun v param => Gives x w v n (.fresh param)) vs params) :
    ∃ t, x.gather collection [] params w = .ok t w ∧ Gives x w (Collection.build collection vs) (n + 2) t := by
  cases h with
  | nil => exact ⟨_, rfl, .ended⟩
  | cons h hrest => exact ⟨_, rfl, gives_group collection (List.forall₂_map_right_iff.mpr (.cons h hrest))⟩

private theorem gives_elements {items : List Value} (collection : Collection)
    (h : ∀ v ∈ items, Gives x w v.expanded (3 * v.size) (.fresh v)) :
    ∃ t, x.gather collection [] items w = .ok t w ∧
      Gives x w (Collection.build collection (items.map Value.expanded)) (3 * Value.sizeAll items + 2) t := by
  refine gives_gather collection ?_
  rw [List.forall₂_map_left_iff, List.forall₂_same]
  exact fun v hv => (h v hv).mono (Nat.mul_le_mul_left 3 (Value.size_le_sizeAll hv))

private theorem gives_literal {param : Value} (h : param.Literal) (hkept : param.Unchanged w.heap) :
    Gives x w param.expanded (3 * param.size) (.fresh param) := by
  have hround {param : Value} (hkept : param.Unchanged w.heap) {t : Task}
      (ht : x.begin (param.size + 1) [] param w = .ok t w) : x.round (.fresh param) w = .ok t w := by
    rw [round, start_eq hkept.current, ht]
  induction h with
  | @atom v h =>
    have hbegin : x.begin (v.size + 1) [] v w = .ok (.ended (.ok v.expanded) false []) w := by
      rw [Value.expanded_of_isAtom h]
      cases v with
      | none | bool | int | float | complex | bytes | moment => rfl
      | _ => cases h
    exact (Gives.round (hround hkept hbegin) .ended).mono (Nat.mul_pos (by decide) v.size_pos)
  | @text v s hv hs =>
    have hrender : Template.render x.app s x.vars = pure (.str s) := by
      unfold Template.render
      simp only [hs, Bool.not_false, if_true]
    have hbegin : x.begin (v.size + 1) [] v w = .ok (.ended (.ok v.expanded) false []) w := by
      rw [Value.expanded_of_text hv]
      cases v with
      | str | markup =>
        obtain rfl := Option.some.inj hv
        change x.ended [] (Template.render x.app _ x.vars) w = _
        rw [hrender]
        rfl
      | _ => cases hv
    exact (Gives.round (hround hkept hbegin) .ended).mono (Nat.mul_pos (by decide) v.size_pos)
  | @list id items _ ih | @tuple items _ ih =>
    obtain ⟨t, ht, hgives⟩ := gives_elements .items fun v hv => ih v hv (hkept.items rfl v hv)
    rw [Value.expanded, Value.expandedAll_eq_map]
    refine (Gives.round (hround hkept ht) hgives).mono ?_
    rw [Value.size]
    omega
  | @dict id entries hexec _ _ ih =>
    have hvalues : ∀ v ∈ entries.map (·.2), Gives x w v.expanded (3 * v.size) (.fresh v) := by
      rw [List.forall_mem_map]
      exact fun entry hentry => ih entry hentry (hkept.entries entry hentry)
    obtain ⟨t, ht, hgives⟩ := gives_elements (.entries (entries.map (·.1))) hvalues
    have hbegin : x.begin ((Value.dict id entries).size + 1) [] (.dict id entries) w = .ok t w := by
      unfold begin
      simp only [hexec, Bool.false_eq_true, if_false]
      exact ht
    have hbuild : Collection.build (.entries (entries.map (·.1))) ((entries.map (·.2)).map Value.expanded) =
        (Value.dict id entries).expanded := by
      rw [Value.expanded, Value.expandedEntries_eq_mapValues, Collection.build, List.map_map, List.zip_map']
      rfl
    rw [hbuild, ← Value.sizeEntries_eq] at hgives
    refine (Gives.round (hround hkept hbegin) hgives).mono ?_
    rw [Value.size]
    omega

/-- A literal parameter expands to itself, apart from its form, and changes nothing. -/
theorem expand_literal {param : Value} (h : param.Literal) (hkept : param.Unchanged w.heap) :
    x.expand param w = .ok param.expanded w := by
  obtain ⟨n, hn⟩ := Nat.exists_eq_add_of_le' (Nat.mul_pos (by decide : 0 < 3) param.size_pos)
  obtain ⟨t, hstart, hgives⟩ := (hn ▸ gives_literal (x := x) h hkept).next
  rw [round] at hstart
  rw [expand, bind_ok (current_eq param w), hkept.current, bind_ok hstart]
  have hrounds : rounds param = 3 * param.size + 3 := by
    cases param with
    | negated => cases h <;> contradiction
    | _ => rfl
  exact hgives.complete (by omega)

end Expander

/-! ## Literal start parameters -/

private theorem Entries.named?_filter {entries : Entries} (h : entries.Distinct) (keep : Value → Bool) (name : String) :
    named? (entries.filter fun (_, v) => keep v) name = (named? entries name).filter keep := by
  induction entries with
  | nil => rfl
  | cons entry rest ih =>
    obtain ⟨k, v⟩ := entry
    obtain ⟨hfirst, hrest⟩ := List.pairwise_cons.mp h
    rw [named?_cons]
    by_cases hk : k.text? = some name
    · have hnone : named? rest name = none := by
        refine Option.map_eq_none_iff.mpr (List.find?_eq_none.mpr fun entry hentry => ?_)
        simpa [Value.same_str] using hfirst entry hentry name hk
      cases hkeep : keep v with
      | true => simp [named?_cons, hk, hkeep, Option.filter]
      | false => simp [hk, hkeep, ih hrest, hnone, Option.filter]
    · cases hkeep : keep v with
      | true => simp [named?_cons, hk, hkeep, ih hrest]
      | false => simp [hk, hkeep, ih hrest]

/-- Whether an error tells that nothing can be started with a parameter. -/
def Error.rejectsStart : Error → Bool
  | .invalidStart _ | .startArguments _ => true
  | _ => false

namespace StartParam

def Rejected {α : Type} (r : Except Error α) : Prop := ∃ e, r = .error e ∧ e.rejectsStart = true

/-- What stands in the place of the dialog name. -/
def nameIn (param : Value) : Value :=
  match param.sequence?, param with
  | some [name], _ | some [name, _], _ => name
  | some _, _ => .none
  | none, .dict _ entries => Entries.named entries "dialog"
  | none, _ => param

/-- The arguments that stand in a parameter. -/
def argsIn (param : Value) : Option Value :=
  match param.sequence?, param with
  | some [_, args], _ => some args
  | none, .dict _ entries => (Entries.named? entries "args").filter fun v => !v.isNone
  | _, _ => none

/-- A parameter names a dialog, and what it gives as arguments, or else the arguments by default, is a mapping or
nothing. -/
structure Startable (param defaultArgs : Value) : Prop where
  named : ∃ s, (nameIn param).text? = some s ∧ s ≠ ""
  given : ∀ args, (argsIn param).getD defaultArgs = args → args.isNone = true ∨ args.mapping?.isSome = true

/-- What a dialog name and arguments amount to. -/
def judge (value name args : Value) : Except Error (String × Value) :=
  match name.text? with
  | some s =>
    if s.isEmpty then .error (.invalidStart value)
    else if args.isNone || args.mapping?.isSome then .ok (s, args)
    else .error (.startArguments args)
  | none => .error (.invalidStart value)

variable {param : Value}

private theorem judge_of_text? {value name name' : Value} (h : name.text? = name'.text?) (args : Value) :
    judge value name args = judge value name' args := by
  unfold judge
  rw [h]

private theorem parse_of_entries (id : Identity) (entries : Entries) (defaultArgs : Value) :
    parse (.dict id entries) defaultArgs = judge (.dict id entries) (Entries.named entries "dialog")
      ((Entries.named? entries "args").getD defaultArgs) := by
  change (let (name, args) : Value × Value :=
      if Entries.hasName entries "dialog" then
        (Entries.named entries "dialog", (Entries.named? entries "args").getD defaultArgs)
      else (.none, defaultArgs)
    judge (.dict id entries) name args) = _
  by_cases hname : Entries.hasName entries "dialog" = true
  · rw [if_pos hname]
  · have hnone : Entries.named entries "dialog" = .none := by
      rw [Entries.named, Option.not_isSome_iff_eq_none.mp hname]
      rfl
    rw [if_neg hname, hnone]
    rfl

private theorem parse_expanded (h : param.Literal) (defaultArgs : Value) :
    parse param.expanded defaultArgs = judge param.expanded (nameIn param)
      (((argsIn param).map Value.expanded).getD defaultArgs) := by
  cases h with
  | atom h =>
    rw [Value.expanded_of_isAtom h]
    cases param with
    | none | bool | int | float | complex | bytes | moment => rfl
    | _ => cases h
  | text h =>
    rw [Value.expanded_of_text h]
    cases param with
    | str | markup =>
      obtain rfl := Option.some.inj h
      rfl
    | _ => cases h
  | @list id items | @tuple items =>
    rw [Value.expanded, Value.expandedAll_eq_map]
    match items with
    | [] => rfl
    | [name] => exact judge_of_text? name.text?_expanded _
    | [name, args] => exact judge_of_text? name.text?_expanded _
    | _ :: _ :: _ :: _ => rfl
  | @dict id entries _ hnames =>
    have hnamed (name : String) :
        Entries.named? ((entries.mapValues Value.expanded).filter fun (_, v) => !v.isNone) name =
          ((Entries.named? entries name).filter fun v => !v.isNone).map Value.expanded := by
      have hdistinct : (entries.mapValues Value.expanded).Distinct := List.pairwise_map.mpr hnames
      rw [Entries.named?_filter hdistinct fun v => !v.isNone, Entries.named?_mapValues]
      cases Entries.named? entries name with
      | none => rfl
      | some v => cases hv : v.isNone <;> simp [Option.filter, v.isNone_expanded, hv]
    have hname : (Entries.named ((entries.mapValues Value.expanded).filter fun (_, v) => !v.isNone) "dialog").text? =
        (Entries.named entries "dialog").text? := by
      rw [Entries.named, Entries.named, hnamed]
      cases Entries.named? entries "dialog" with
      | none => rfl
      | some v => cases v <;> rfl
    rw [Value.expanded, Value.expandedEntries_eq_mapValues, parse_of_entries, hnamed]
    exact judge_of_text? hname _

private theorem isComputed_literal (h : param.Literal) : isComputed param = false := by
  cases h with
  | atom h =>
    cases param with
    | none | bool | int | float | complex | bytes | moment => rfl
    | _ => cases h
  | text h =>
    cases param with
    | str | markup => rfl
    | _ => cases h
  | list | tuple => rfl
  | dict hexec => exact hexec

private theorem rejected_ite {α : Type} {fits : Bool} {a : α} {e : Error} (he : e.rejectsStart = true) :
    Rejected (if fits then .ok a else .error e : Except Error α) ↔ fits = false := by
  cases fits with
  | true => exact ⟨nofun, nofun⟩
  | false => exact ⟨fun _ => rfl, fun _ => ⟨e, rfl, he⟩⟩

/-- The check beforehand lets pass what holds a text in the place of the dialog name, and every mapping that has
something there. -/
theorem rejected_check_iff (h : param.Literal) :
    Rejected (check param) ↔ (nameIn param).text? = none ∧
      ¬∃ id entries, param = .dict id entries ∧ Entries.hasName entries "dialog" = true := by
  have hcomputed := isComputed_literal h
  unfold check
  rw [rejected_ite rfl, hcomputed]
  cases h with
  | atom h =>
    cases param with
    | none | bool | int | float | complex | bytes | moment => simp [nameIn, Value.text?, Value.sequence?]
    | _ => cases h
  | text h =>
    cases param with
    | str | markup => simp [nameIn, Value.text?, Value.sequence?]
    | _ => cases h
  | @list id items hitems | @tuple items hitems =>
    cases items with
    | nil => simp [nameIn, Value.text?, Value.sequence?]
    | cons name rest =>
      have hname := isComputed_literal (hitems name List.mem_cons_self)
      rcases rest with _ | ⟨args, _ | ⟨_, _⟩⟩ <;> simp [nameIn, Value.text?, Value.sequence?, hname]
  | @dict id entries =>
    cases hname : Entries.hasName entries "dialog" with
    | true => simp [Value.text?, Value.sequence?, hname]
    | false =>
      have hnone : Entries.named? entries "dialog" = none := by simpa [Entries.hasName] using hname
      simp [nameIn, Value.text?, Value.sequence?, Entries.named, hnone, hname, Value.ofOption]

private theorem fits_expanded (given : Option Value) (defaultArgs : Value) :
    (((given.map Value.expanded).getD defaultArgs).isNone || ((given.map Value.expanded).getD defaultArgs).mapping?.isSome) =
      ((given.getD defaultArgs).isNone || (given.getD defaultArgs).mapping?.isSome) := by
  cases given with
  | none => rfl
  | some args => exact congrArg₂ _ args.isNone_expanded args.isSome_mapping?_expanded

private theorem rejected_parse_iff (h : param.Literal) (defaultArgs : Value) :
    Rejected (parse param.expanded defaultArgs) ↔ ¬Startable param defaultArgs := by
  rw [parse_expanded h, judge]
  cases hname : (nameIn param).text? with
  | none =>
    refine iff_of_true ⟨_, rfl, rfl⟩ fun hstart => ?_
    obtain ⟨s, hs, -⟩ := hstart.named
    cases hname.symm.trans hs
  | some s =>
    dsimp only
    by_cases hempty : s.isEmpty = true
    · rw [if_pos hempty]
      refine iff_of_true ⟨_, rfl, rfl⟩ fun hstart => ?_
      obtain ⟨t, ht, hne⟩ := hstart.named
      obtain rfl := Option.some.inj (hname.symm.trans ht)
      exact hne (String.isEmpty_iff.mp hempty)
    · rw [if_neg hempty, rejected_ite rfl, fits_expanded, ← Bool.not_eq_true, Bool.or_eq_true]
      refine not_congr ⟨fun hfits => ⟨⟨s, hname, fun h => hempty (String.isEmpty_iff.mpr h)⟩, ?_⟩, fun hstart => ?_⟩
      · rintro args rfl
        exact hfits
      · exact hstart.given _ rfl

/-- In every environment a literal parameter expands to the same value. A start rejects this value if and only if the
parameter names no dialog or gives no arguments that are a mapping, so it does if the parameter is rejected beforehand;
but only a part of these parameters is. A rejection is told with the value that is rejected. If an integer in it has more
than 4300 digits this text cannot be written: check and start then fail all the same, but with the error for the value
of that integer. -/
theorem literal_rejected (h : param.Literal) {w : World} (hkept : param.Unchanged w.heap) (x : Expander)
    (defaultArgs : Value) :
    ∃ v, x.expand param w = .ok v w ∧
      (Rejected (check param) → Rejected (parse v defaultArgs)) ∧
      (Rejected (parse v defaultArgs) ↔ ¬Startable param defaultArgs) ∧
      (Rejected (check param) ↔ (nameIn param).text? = none ∧
        ¬∃ id entries, param = .dict id entries ∧ Entries.hasName entries "dialog" = true) := by
  refine ⟨param.expanded, Expander.expand_literal h hkept, fun hcheck => ?_, rejected_parse_iff h defaultArgs,
    rejected_check_iff h⟩
  obtain ⟨hname, -⟩ := (rejected_check_iff h).mp hcheck
  refine (rejected_parse_iff h defaultArgs).mpr fun hstart => ?_
  obtain ⟨s, hs, -⟩ := hstart.named
  cases hname.symm.trans hs

/-- A mapping may hold a number in the place of the dialog name: the check lets it pass, and every start of it fails. -/
theorem numbered_dialog_rejected :
    let param : Value := .dict .anonymous [(.str "dialog", .int 42)]
    let x : Expander := ⟨⟨fun _ _ => pure .none⟩, [], .none, sessionValue, .none⟩
    ∃ v, x.expand param { session := { id := .str "s" } } = .ok v { session := { id := .str "s" } } ∧
      Rejected (parse v .none) ∧ ¬Rejected (check param) := by
  intro param x
  have hdialog : Entries.named? [(.str "dialog", .int 42)] "dialog" = some (.int 42) := by
    rw [Entries.named?_cons]
    rfl
  have hexec : Entries.hasName [(.str "dialog", .int 42)] "exec" = false := by
    rw [Entries.hasName, Entries.named?_cons]
    rfl
  have hliteral : param.Literal := by
    refine .dict hexec (List.pairwise_singleton _ _) fun entry hentry => ?_
    obtain rfl := List.mem_singleton.mp hentry
    exact .atom rfl
  have hkept : param.Unchanged {} := by
    refine .dict (fun _ _ => rfl) fun entry hentry => ?_
    obtain rfl := List.mem_singleton.mp hentry
    exact .atom rfl
  obtain ⟨v, hv, -, hparse, hcheck⟩ := literal_rejected hliteral (w := { session := { id := .str "s" } }) hkept x .none
  refine ⟨v, hv, hparse.mpr fun hstart => ?_, fun hrejected => ?_⟩
  · obtain ⟨s, hs, -⟩ := hstart.named
    have hname : nameIn param = .int 42 := by
      change Entries.named _ "dialog" = _
      rw [Entries.named, hdialog]
      rfl
    rw [hname] at hs
    cases hs
  · refine (hcheck.mp hrejected).2 ⟨_, _, rfl, ?_⟩
    rw [Entries.hasName, hdialog]
    rfl

end StartParam

namespace Machine

private theorem startCall_literal {target : Value} (h : target.Literal) {w : World} (hkept : target.Unchanged w.heap)
    (m : Machine) (path : FlowPath) (vars : Value) :
    m.startCall path target .none vars w = Run.ofExcept (StartParam.parse target.expanded .none) w := by
  have hnone : (m.expander vars path).expandGiven .none = pure .none := rfl
  rw [startCall, bind_ok (Expander.expand_literal h hkept), hnone]
  change (do
    Run.ofExcept (StartParam.parse (← Run.current target.expanded) (← Run.current .none))) w = _
  rw [bind_ok (current_eq _ w), (h.unchanged_expanded w.heap).current, bind_ok (current_eq _ w)]
  rw [Value.Unchanged.current (.atom rfl)]

/-- A start of a literal parameter with which nothing can be started fails, and leaves the world as it was. -/
theorem runStep_rejected {target : Value} (h : target.Literal) {w : World} (hkept : target.Unchanged w.heap)
    (hstart : ¬StartParam.Startable target .none) (m : Machine) (own path : FlowPath) (vars : Value)
    (tag : Option String) :
    ∃ e, m.runStep own vars (.start path target .none tag) w = .error e w ∧ e.rejectsStart = true := by
  obtain ⟨e, he, hrejects⟩ := (StartParam.rejected_parse_iff h .none).mpr hstart
  have hcall : m.startCall path target .none vars w = .error e w := by
    rw [startCall_literal h hkept, he]
    rfl
  exact ⟨e, by rw [runStep_start, bind_error hcall], hrejects⟩

end Machine

end Colloquy
