import Colloquy.Flow.Accessor
import Colloquy.Proofs.Run.Contract
import Colloquy.Proofs.Value.Entries

/-!
# Navigating through data

An accessor that only follows members and items arrives at the member that its keys address, or at `None`
where a key addresses nothing. It fails in two cases only: a mapping is asked for a key that no mapping can have,
or a sequence for a position that is an infinite number. The order of two values that are found in this way is a
truth value.
-/

namespace Colloquy

open Number

namespace Value

/-! ## Members -/

/-- Whether members are found by position. -/
def isIndexed : Value → Bool
  | .list .. | .tuple _ | .bytes _ | .range .. => true
  | _ => false

/-- The element of a list at a position; negative positions count from the end. -/
inductive ElementAt (items : List Value) : Int → Value → Prop where
  | fromStart {n : Nat} {v : Value} (h : items[n]? = some v) : ElementAt items n v
  | fromEnd {n : Nat} {v : Value} (h : items.reverse[n]? = some v) : ElementAt items (-(n + 1)) v

/-- The member of a value that a key addresses: the entry whose key is the same, the element at the position that the
key stands for, or the attribute of that name. -/
inductive Addresses : Value → Value → Value → Prop where
  | entry {id : Identity} {before rest : Entries} {stored key member : Value} (hkey : key.hashable = true)
      (hbefore : ∀ e ∈ before, e.1.same key = false) (hsame : stored.same key = true) :
      Addresses (.dict id (before ++ (stored, member) :: rest)) key member
  | element {v key member : Value} {items : List Value} {i : Int} (hv : v.isIndexed = true)
      (hitems : v.elements? = some items) (hkey : toInteger key = .ok i) (h : ElementAt items i member) :
      Addresses v key member
  | named {v key member : Value} {name : String} (hv : v.isIndexed = false) (hmapping : v.mapping? = Option.none)
      (hsome : v ≠ .none) (hname : key.text? = some name) (h : v.memberNamed? name = some member) :
      Addresses v key member

/-- A key that cannot even be looked for: one that no mapping can have, or an infinite position. -/
inductive Refuses : Value → Value → Fault → Prop where
  | unhashable {id : Identity} {entries : Entries} {key : Value} (hkey : key.hashable = false) :
      Refuses (.dict id entries) key .wrongType
  | infinite {v : Value} {x : Float} {negative : Bool} (hv : v.isIndexed = true)
      (hx : Binary.ofFloat x = .infinite negative) : Refuses v (.float x) .overflow

/-- A key that can be looked for and addresses nothing. -/
def Lacks (v key : Value) : Prop := (∀ member, ¬ Addresses v key member) ∧ ∀ f, ¬ Refuses v key f

private theorem elementAt_iff {items : List Value} {i : Int} {v : Value} :
    ElementAt items i v ↔ ((position? items.length i).bind fun n => items[n]?) = some v := by
  constructor
  · rintro (⟨h⟩ | ⟨h⟩)
    · rename_i n
      have hn : n < items.length := (List.getElem?_eq_some_iff.mp h).1
      have hposition : position? items.length n = some n := by
        unfold position?
        split <;> grind
      rw [hposition, Option.bind_some, h]
    · rename_i n
      have hn : n < items.length := by simpa using (List.getElem?_eq_some_iff.mp h).1
      have hposition : position? items.length (-(n + 1)) = some (items.length - 1 - n) := by
        unfold position?
        split <;> grind
      rw [hposition, Option.bind_some, ← List.getElem?_reverse hn, h]
  · intro h
    obtain ⟨n, hposition, hn⟩ := Option.bind_eq_some_iff.mp h
    have hlt : n < items.length := (List.getElem?_eq_some_iff.mp hn).1
    by_cases hi : i < 0
    · obtain ⟨m, rfl, hm⟩ : ∃ m : Nat, i = -(m + 1) ∧ n = items.length - 1 - m ∧ m < items.length := by
        refine ⟨(-i - 1).toNat, ?_⟩
        unfold position? at hposition
        grind
      refine .fromEnd ?_
      rw [List.getElem?_reverse hm.2, ← hm.1, hn]
    · obtain rfl : i = n := by
        unfold position? at hposition
        grind
      exact .fromStart hn

private theorem at?_eq_some_iff {v : Value} (h : v.isIndexed = true) {items : List Value}
    (hitems : v.elements? = some items)
    (i : Int) (member : Value) : v.at? i = some member ↔ ElementAt items i member := by
  rw [elementAt_iff]
  cases v with
  | list | tuple =>
    obtain rfl := Option.some.inj hitems
    rfl
  | bytes bs =>
    obtain rfl := Option.some.inj hitems
    simp only [at?, List.length_map, List.getElem?_map]
  | range start stop step =>
    obtain rfl := Option.some.inj hitems
    have hlength : (rangeItems start stop step).length = rangeLength start stop step := by simp [rangeItems]
    rw [hlength, at?]
    cases hposition : position? (rangeLength start stop step) i with
    | none => rfl
    | some n =>
      have hn : n < rangeLength start stop step := by
        unfold position? at hposition
        grind
      simp [rangeItems, hn]
  | _ => cases h

private theorem elements?_of_isIndexed {v : Value} (h : v.isIndexed = true) : ∃ items, v.elements? = some items := by
  cases v with
  | list | tuple | bytes | range => exact ⟨_, rfl⟩
  | _ => cases h

private theorem toInteger_eq_overflow_iff {key : Value} :
    toInteger key = .error .overflow ↔ ∃ x negative, key = .float x ∧ Binary.ofFloat x = .infinite negative := by
  cases key with
  | float x =>
    cases hx : Binary.ofFloat x <;> simp [toInteger, Format.asInteger, hx]
  | str s | markup s =>
    simp only [toInteger]
    split <;> simp
  | bytes bs =>
    simp only [toInteger]
    split <;> simp
  | _ => simp [toInteger, index?]

private theorem lookup_of_isIndexed {v : Value} (h : v.isIndexed = true) (key : Value) :
    v.lookup key = match toInteger key with
      | .ok i => .ok (.ofOption (v.at? i))
      | .error .overflow => .error .overflow
      | .error _ => .ok .none := by
  cases v with
  | list | tuple | bytes | range => rfl
  | _ => cases h

private theorem lookup_of_attributes {v : Value} (h : v.isIndexed = false) (hmapping : v.mapping? = Option.none)
    (hsome : v ≠ .none) (key : Value) :
    v.lookup key = .ok (.ofOption (key.text?.bind v.memberNamed?)) := by
  cases v with
  | list | tuple | bytes | range => cases h
  | dict => cases hmapping
  | none => exact absurd rfl hsome
  | _ =>
    simp only [lookup]
    cases key.text? <;> rfl

private theorem Addresses.lookup_eq {v key member : Value} (h : Addresses v key member) :
    v.lookup key = .ok member := by
  cases h with
  | @entry id before rest stored _ _ hkey hbefore hsame =>
    have hfound : Entries.get? (before ++ (stored, member) :: rest) key = some member := by
      refine Option.map_eq_some_iff.mpr ⟨_, List.find?_eq_some_iff_append.mpr ⟨hsame, _, _, rfl, ?_⟩, rfl⟩
      exact fun e he => by simpa using hbefore e he
    rw [lookup, if_pos hkey, hfound]
    rfl
  | element hv hitems hkey h =>
    have hat := (at?_eq_some_iff hv hitems _ member).mpr h
    rw [lookup_of_isIndexed hv, hkey]
    dsimp only
    rw [hat]
    rfl
  | named hv hmapping hsome hname h =>
    rw [lookup_of_attributes hv hmapping hsome, hname, Option.bind_some, h]
    rfl

private theorem Refuses.lookup_eq {v key : Value} {f : Fault} (h : Refuses v key f) : v.lookup key = .error f := by
  cases h with
  | unhashable hkey => rw [lookup, if_neg (by simp [hkey])]
  | infinite hv hx => rw [lookup_of_isIndexed hv, toInteger_eq_overflow_iff.mpr ⟨_, _, rfl, hx⟩]

private theorem lookup_cases (v key : Value) :
    (∃ member, Addresses v key member) ∨ (∃ f, Refuses v key f) ∨ v.lookup key = .ok .none := by
  by_cases hv : v.isIndexed = true
  · obtain ⟨items, hitems⟩ := elements?_of_isIndexed hv
    have hlookup := lookup_of_isIndexed hv key
    cases hkey : toInteger key with
    | ok i =>
      cases hat : v.at? i with
      | some member => exact .inl ⟨member, .element hv hitems hkey ((at?_eq_some_iff hv hitems i member).mp hat)⟩
      | none =>
        rw [hkey] at hlookup
        dsimp only at hlookup
        rw [hat] at hlookup
        exact .inr (.inr hlookup)
    | error f =>
      by_cases hf : f = .overflow
      · obtain ⟨x, negative, rfl, hx⟩ := toInteger_eq_overflow_iff.mp (hf ▸ hkey)
        exact .inr (.inl ⟨_, .infinite hv hx⟩)
      · rw [hkey] at hlookup
        refine .inr (.inr (hlookup.trans ?_))
        cases f <;> first | rfl | exact absurd rfl hf
  · replace hv : v.isIndexed = false := by simpa using hv
    cases hmapping : v.mapping? with
    | some own =>
      obtain ⟨id, rfl⟩ : ∃ id, v = .dict id own := by
        cases v with
        | dict id entries => exact ⟨id, congrArg _ (Option.some.inj hmapping)⟩
        | _ => cases hmapping
      cases hkey : key.hashable with
      | false => exact .inr (.inl ⟨_, .unhashable hkey⟩)
      | true =>
        cases hget : Entries.get? own key with
        | some member =>
          obtain ⟨found, hfind, -⟩ := Option.map_eq_some_iff.mp hget
          obtain ⟨hsame, before, rest, rfl, hbefore⟩ := List.find?_eq_some_iff_append.mp hfind
          exact .inl ⟨found.2, .entry hkey (fun e he => by simpa using hbefore e he) hsame⟩
        | none =>
          refine .inr (.inr ?_)
          rw [lookup, if_pos hkey, hget]
          rfl
    | none =>
      by_cases hsome : v = .none
      · subst hsome
        exact .inr (.inr rfl)
      · have hlookup := lookup_of_attributes hv hmapping hsome key
        cases hmember : key.text?.bind v.memberNamed? with
        | some member =>
          obtain ⟨name, hname, hmember⟩ := Option.bind_eq_some_iff.mp hmember
          exact .inl ⟨member, .named hv hmapping hsome hname hmember⟩
        | none =>
          rw [hmember] at hlookup
          exact .inr (.inr hlookup)

private theorem lookup_eq_ok_iff {v key result : Value} :
    v.lookup key = .ok result ↔ Addresses v key result ∨ result = .none ∧ Lacks v key := by
  constructor
  · intro h
    obtain ⟨member, hmember⟩ | ⟨f, hf⟩ | hnone := lookup_cases v key
    · obtain rfl := Except.ok.inj (hmember.lookup_eq.symm.trans h)
      exact .inl hmember
    · cases hf.lookup_eq.symm.trans h
    · obtain rfl := Except.ok.inj (hnone.symm.trans h)
      by_cases haddressed : Addresses v key .none
      · exact .inl haddressed
      · refine .inr ⟨rfl, fun member hmember => ?_, fun f hf => by cases hf.lookup_eq.symm.trans h⟩
        obtain rfl := Except.ok.inj (hmember.lookup_eq.symm.trans h)
        exact haddressed hmember
  · rintro (h | ⟨rfl, habsent, hallowed⟩)
    · exact h.lookup_eq
    · obtain ⟨member, hmember⟩ | ⟨f, hf⟩ | hnone := lookup_cases v key
      · exact absurd hmember (habsent member)
      · exact absurd hf (hallowed f)
      · exact hnone

theorem lookup_eq_error_iff {v key : Value} {f : Fault} : v.lookup key = .error f ↔ Refuses v key f := by
  refine ⟨fun h => ?_, Refuses.lookup_eq⟩
  obtain ⟨member, hmember⟩ | ⟨f', hf⟩ | hnone := lookup_cases v key
  · cases hmember.lookup_eq.symm.trans h
  · obtain rfl := Except.error.inj (hf.lookup_eq.symm.trans h)
    exact hf
  · cases hnone.symm.trans h

end Value

/-! ## Chains of keys -/

section Chains

variable {heap : Heap} {v u r : Value} {key : Value} {keys : List Value} {f : Fault}

/-- What a chain of keys finds, member by member; nothing is found behind a member that is not there. -/
inductive Finds (heap : Heap) : Value → List Value → Value → Prop where
  | here {v : Value} : Finds heap v [] (heap.current v)
  | through {v u r key : Value} {keys : List Value} (h : (heap.current v).Addresses key u)
      (hrest : Finds heap u keys r) : Finds heap v (key :: keys) r
  | absent {v key : Value} {keys : List Value} (h : (heap.current v).Lacks key) : Finds heap v (key :: keys) .none

/-- A chain of keys comes to a value that refuses the next key. -/
inductive Strands (heap : Heap) : Value → List Value → Fault → Prop where
  | here {v key : Value} {keys : List Value} {f : Fault} (h : (heap.current v).Refuses key f) :
      Strands heap v (key :: keys) f
  | through {v u key : Value} {keys : List Value} {f : Fault} (h : (heap.current v).Addresses key u)
      (hrest : Strands heap u keys f) : Strands heap v (key :: keys) f

/-- The key of a step that looks up a member. -/
def Access.key? : Access → Option Value
  | .member name => some name
  | .item index => some index
  | _ => none

namespace Run

variable {app : Application} {vars : Value} {w : World}

private theorem followStep_key {step : Access} (h : step.key? = some key) :
    followStep app vars v step w = Run.ofOutcome ((w.heap.current v).lookup key) w := by
  cases step with
  | member | item =>
    obtain rfl := Option.some.inj h
    rw [followStep]
    exact bind_ok (current_eq v w)
  | _ => cases h

private theorem followSteps_cons_of_ok {step : Access} {rest : List Access} (h : step.key? = some key)
    (hlookup : (w.heap.current v).lookup key = .ok u) :
    followSteps app vars v (step :: rest) w = followSteps app vars u rest w := by
  have hstep : followStep app vars v step w = .ok u w := by
    rw [followStep_key h, hlookup]
    rfl
  rw [followSteps, bind_ok hstep]

private theorem followSteps_cons_of_error {step : Access} {rest : List Access} (h : step.key? = some key)
    (hlookup : (w.heap.current v).lookup key = .error f) :
    followSteps app vars v (step :: rest) w = .error (.fault f) w := by
  have hstep : followStep app vars v step w = .error (.fault f) w := by
    rw [followStep_key h, hlookup]
    rfl
  rw [followSteps, bind_error hstep]

private theorem followSteps_none {steps : List Access} (h : steps.map Access.key? = keys.map some)
    (more : List Access) :
    followSteps app vars .none (steps ++ more) w = followSteps app vars .none more w := by
  induction steps generalizing keys with
  | nil => rfl
  | cons step rest ih =>
    obtain ⟨key, keys, -, hkey, hrest⟩ := List.map_eq_cons_iff.mp h.symm
    rw [List.cons_append, followSteps_cons_of_ok hkey.symm (by rw [Heap.current_none]; rfl)]
    exact ih hrest.symm

private theorem followSteps_append_of_finds (app : Application) (vars : Value) (h : Finds w.heap v keys r)
    {steps : List Access} (hsteps : steps.map Access.key? = keys.map some) (more : List Access) :
    ∃ u, w.heap.current u = r ∧ followSteps app vars v (steps ++ more) w = followSteps app vars u more w := by
  induction h generalizing steps with
  | here =>
    obtain rfl := List.map_eq_nil_iff.mp hsteps
    exact ⟨_, rfl, rfl⟩
  | through h _ ih =>
    obtain ⟨step, rest, rfl, hkey, hrest⟩ := List.map_eq_cons_iff.mp hsteps
    rw [List.cons_append, followSteps_cons_of_ok hkey h.lookup_eq]
    exact ih hrest
  | absent h =>
    obtain ⟨step, rest, rfl, hkey, hrest⟩ := List.map_eq_cons_iff.mp hsteps
    rw [List.cons_append, followSteps_cons_of_ok hkey (Value.lookup_eq_ok_iff.mpr (.inr ⟨rfl, h⟩))]
    exact ⟨.none, Heap.current_none _, followSteps_none hrest more⟩

private theorem followSteps_of_finds (h : Finds w.heap v keys r) {steps : List Access}
    (hsteps : steps.map Access.key? = keys.map some) : followSteps app vars v steps w = .ok r w := by
  obtain ⟨u, rfl, heq⟩ := followSteps_append_of_finds app vars h hsteps []
  rwa [List.append_nil] at heq

private theorem followSteps_append_of_strands (h : Strands w.heap v keys f) {steps : List Access}
    (hsteps : steps.map Access.key? = keys.map some) (more : List Access) :
    followSteps app vars v (steps ++ more) w = .error (.fault f) w := by
  induction h generalizing steps with
  | here h =>
    obtain ⟨step, rest, rfl, hkey, -⟩ := List.map_eq_cons_iff.mp hsteps
    exact followSteps_cons_of_error hkey h.lookup_eq
  | through h _ ih =>
    obtain ⟨step, rest, rfl, hkey, hrest⟩ := List.map_eq_cons_iff.mp hsteps
    rw [List.cons_append, followSteps_cons_of_ok hkey h.lookup_eq]
    exact ih hrest

private theorem followSteps_of_strands (h : Strands w.heap v keys f) {steps : List Access}
    (hsteps : steps.map Access.key? = keys.map some) : followSteps app vars v steps w = .error (.fault f) w := by
  rw [← List.append_nil steps]
  exact followSteps_append_of_strands h hsteps []

private theorem finds_or_strands (heap : Heap) (v : Value) (keys : List Value) :
    (∃ r, Finds heap v keys r) ∨ ∃ f, Strands heap v keys f := by
  induction keys generalizing v with
  | nil => exact .inl ⟨_, .here⟩
  | cons key rest ih =>
    cases hlookup : (heap.current v).lookup key with
    | error f => exact .inr ⟨f, .here (Value.lookup_eq_error_iff.mp hlookup)⟩
    | ok u =>
      obtain hmember | ⟨-, hlacks⟩ := Value.lookup_eq_ok_iff.mp hlookup
      · exact (ih u).imp (fun ⟨r, hr⟩ => ⟨r, .through hmember hr⟩) fun ⟨f, hf⟩ => ⟨f, .through hmember hf⟩
      · exact .inl ⟨.none, .absent hlacks⟩

private theorem followSteps_eq_ok_iff {steps : List Access} (hsteps : steps.map Access.key? = keys.map some)
    {w' : World} :
    followSteps app vars v steps w = .ok r w' ↔ Finds w.heap v keys r ∧ w' = w := by
  constructor
  · intro h
    obtain ⟨r', hr⟩ | ⟨f, hf⟩ := finds_or_strands w.heap v keys
    · cases (followSteps_of_finds hr hsteps).symm.trans h
      exact ⟨hr, rfl⟩
    · cases (followSteps_of_strands hf hsteps).symm.trans h
  · rintro ⟨hr, rfl⟩
    exact followSteps_of_finds hr hsteps

private theorem followSteps_eq_error_iff {steps : List Access} (hsteps : steps.map Access.key? = keys.map some)
    {e : Error} {w' : World} :
    followSteps app vars v steps w = .error e w' ↔ (∃ f, Strands w.heap v keys f ∧ e = .fault f) ∧ w' = w := by
  constructor
  · intro h
    obtain ⟨r, hr⟩ | ⟨f, hf⟩ := finds_or_strands w.heap v keys
    · cases (followSteps_of_finds hr hsteps).symm.trans h
    · cases (followSteps_of_strands hf hsteps).symm.trans h
      exact ⟨⟨f, hf, rfl⟩, rfl⟩
  · rintro ⟨⟨f, hf, rfl⟩, rfl⟩
    exact followSteps_of_strands hf hsteps

end Run

end Chains

/-! ## Plain data -/

namespace Value

mutual

/-- Whether a value is plain data: texts, bytes, numbers, and lists, tuples and mappings of plain data. -/
def isData : Value → Bool
  | .none | .bool _ | .int _ | .float _ | .str _ | .bytes _ => true
  | .list _ items | .tuple items => allData items
  | .dict _ entries => entriesData entries
  | _ => false

def allData : List Value → Bool
  | [] => true
  | v :: vs => v.isData && allData vs

def entriesData : Entries → Bool
  | [] => true
  | (_, v) :: es => v.isData && entriesData es

end

/-- What lookups in plain data come to: plain data again, or what belongs to the type of a value. -/
inductive IsFound : Value → Prop where
  | data {v : Value} (h : v.isData = true) : IsFound v
  | method {receiver : Value} {name : String} : IsFound (.method receiver name)
  | builtin {b : Builtin} : IsFound (.builtin b)
  | object {typeName : String} : IsFound (.object typeName)

private theorem allData_iff {items : List Value} : allData items = true ↔ ∀ v ∈ items, v.isData = true := by
  induction items with
  | nil => simp [allData]
  | cons v rest ih => simp [allData, ih]

private theorem entriesData_iff {entries : Entries} :
    entriesData entries = true ↔ ∀ e ∈ entries, e.2.isData = true := by
  induction entries with
  | nil => simp [entriesData]
  | cons e rest ih => simp [entriesData, ih]

private theorem memberNamed?_cases {v member : Value} {name : String}
    (hv : ∀ kind fields extras, v ≠ .model kind fields extras)
    (h : v.memberNamed? name = some member) : v.dataMember? name = some member ∨ member = .method v name := by
  unfold memberNamed? at h
  split at h
  · exact absurd rfl (hv _ _ _)
  · cases hdata : v.dataMember? name with
    | some w =>
      rw [hdata] at h
      exact .inl h
    | none =>
      rw [hdata] at h
      dsimp only at h
      split at h
      · exact .inr (Option.some.inj h).symm
      · cases h

private theorem IsFound.dataMember {v member : Value} {name : String} (hv : v.IsFound)
    (h : v.dataMember? name = some member) :
    member.IsFound := by
  unfold dataMember? at h
  split at h
  all_goals first
    | exact .builtin
    | cases h
    | (obtain ⟨_, _, rfl⟩ := Option.map_eq_some_iff.mp h
       exact .data rfl)
  all_goals first
    | exact .data rfl
    | exact .builtin
    | exact .object
    | (cases hv with | data hv => cases hv)

private theorem IsFound.addresses {v key member : Value} (hv : v.IsFound) (h : Addresses v key member) :
    member.IsFound := by
  cases h with
  | @entry id before rest stored =>
    cases hv with
    | data hv => exact .data (entriesData_iff.mp hv (stored, member) (by simp))
  | @element _ _ _ items i hindexed hitems hkey h =>
    have hmem : member ∈ items := by
      obtain h | h := h
      · exact List.mem_of_getElem? h
      · exact List.mem_reverse.mp (List.mem_of_getElem? h)
    cases hv with
    | data hv =>
      cases v with
      | list | tuple =>
        obtain rfl := Option.some.inj hitems
        exact .data (allData_iff.mp hv member hmem)
      | bytes bs =>
        obtain rfl := Option.some.inj hitems
        obtain ⟨b, -, rfl⟩ := List.mem_map.mp hmem
        exact .data rfl
      | range => cases hv
      | _ => cases hindexed
    | _ => cases hindexed
  | named hindexed hmapping hsome hname h =>
    obtain h | rfl := memberNamed?_cases (by rintro _ _ _ rfl; cases hv with | data hv => cases hv) h
    · exact hv.dataMember h
    · exact .method

mutual

private theorem isData_refresh {content : Nat → Option Value} (hcontent : ∀ n c, content n = some c → c.isData = true)
    (v : Value) (h : v.isData = true) : (v.refresh content).isData = true := by
  cases v with
  | list id items =>
    cases id with
    | object n =>
      rw [refresh]
      cases hc : content n with
      | some c => exact hcontent n c hc
      | none => exact allData_refreshAll hcontent items h
    | _ => exact allData_refreshAll hcontent items h
  | dict id entries =>
    cases id with
    | object n =>
      rw [refresh]
      cases hc : content n with
      | some c => exact hcontent n c hc
      | none => exact entriesData_refreshEntries hcontent entries h
    | _ => exact entriesData_refreshEntries hcontent entries h
  | tuple items => exact allData_refreshAll hcontent items h
  | none | bool | int | float | str | bytes => rfl
  | _ => cases h
termination_by structural v

private theorem allData_refreshAll {content : Nat → Option Value}
    (hcontent : ∀ n c, content n = some c → c.isData = true)
    (vs : List Value) (h : allData vs = true) : allData (refreshAll content vs) = true := by
  match vs with
  | [] => rfl
  | v :: rest =>
    obtain ⟨hfirst, hrest⟩ := Bool.and_eq_true_iff.mp h
    exact Bool.and_eq_true_iff.mpr ⟨isData_refresh hcontent v hfirst, allData_refreshAll hcontent rest hrest⟩
termination_by structural vs

private theorem entriesData_refreshEntries {content : Nat → Option Value}
    (hcontent : ∀ n c, content n = some c → c.isData = true) (es : Entries) (h : entriesData es = true) :
    entriesData (refreshEntries content es) = true := by
  match es with
  | [] => rfl
  | (k, v) :: rest =>
    obtain ⟨hfirst, hrest⟩ := Bool.and_eq_true_iff.mp h
    exact Bool.and_eq_true_iff.mpr ⟨isData_refresh hcontent v hfirst, entriesData_refreshEntries hcontent rest hrest⟩
termination_by structural es

end

private theorem orderAtom_eq_error {test : OrderTest} {v u : Value} {f : Fault} (hv : ∀ b, v ≠ .undefined b)
    (hu : ∀ b, u ≠ .undefined b) (h : orderAtom test v u = .error f) : f = .wrongType := by
  revert h
  fun_cases orderAtom test v u with
  | case1 | case2 | case7 | case10 => exact fun h => (Except.error.inj h).symm
  | case3 | case4 | case5 | case6 =>
    intro h
    cases h
  | case8 => exact absurd rfl (hv _)
  | case9 => exact absurd rfl (hu _)

private theorem IsFound.ne_undefined {v : Value} (h : v.IsFound) (b : Bool) : v ≠ .undefined b := by
  rintro rfl
  cases h with | data h => cases h

mutual

private theorem IsFound.order_eq_error {test : OrderTest} {f : Fault} (v u : Value) (hv : v.IsFound) (hu : u.IsFound)
    (h : order test v u = .error f) : f = .wrongType := by
  have hatom : orderAtom test v u = .error f → f = .wrongType :=
    orderAtom_eq_error hv.ne_undefined hu.ne_undefined
  cases v with
  | list id items =>
    cases u with
    | list id' items' =>
      obtain ⟨⟨hv⟩, ⟨hu⟩⟩ := And.intro hv hu
      exact orderAll_eq_error items items' hv hu h
    | _ => exact hatom h
  | tuple items =>
    cases u with
    | tuple items' =>
      obtain ⟨⟨hv⟩, ⟨hu⟩⟩ := And.intro hv hu
      exact orderAll_eq_error items items' hv hu h
    | _ => exact hatom h
  | set => cases hv with | data hv => cases hv
  | _ => exact hatom h
termination_by structural v

theorem orderAll_eq_error {test : OrderTest} {f : Fault} (vs us : List Value) (hvs : allData vs = true)
    (hus : allData us = true) (h : orderAll test vs us = .error f) : f = .wrongType := by
  match vs, us with
  | [], [] | [], _ :: _ | _ :: _, [] => cases h
  | v :: vs, u :: us =>
    obtain ⟨hv, hvs⟩ := Bool.and_eq_true_iff.mp hvs
    obtain ⟨hu, hus⟩ := Bool.and_eq_true_iff.mp hus
    rw [orderAll] at h
    split at h
    · exact orderAll_eq_error vs us hvs hus h
    · exact IsFound.order_eq_error v u (.data hv) (.data hu) h
termination_by structural vs

end

end Value

namespace Heap

/-- All objects that changed were changed to plain data. -/
def HoldsData (heap : Heap) : Prop := ∀ entry ∈ heap.contents, entry.2.isData = true

variable {heap : Heap}

private theorem HoldsData.content (h : heap.HoldsData) (depth n : Nat) (c : Value)
    (hc : heap.content depth n = some c) :
    c.isData = true := by
  induction depth generalizing n c with
  | zero => cases hc
  | succ depth ih =>
    rw [Heap.content] at hc
    obtain ⟨v, hv, rfl⟩ := Option.map_eq_some_iff.mp hc
    have hdata : v.isData = true := by
      obtain ⟨before, rest, heq, -⟩ := List.lookup_eq_some_iff.mp hv
      exact h (n, v) (by simp [heq])
    cases v with
    | list id items => exact Value.allData_refreshAll ih items hdata
    | dict id entries => exact Value.entriesData_refreshEntries ih entries hdata
    | _ => exact hdata

private theorem HoldsData.current (h : heap.HoldsData) {v : Value} (hv : v.IsFound) : (heap.current v).IsFound := by
  unfold Heap.current
  split
  · exact hv
  · cases hv with
    | data hv => exact .data (Value.isData_refresh (h.content _) v hv)
    | method => exact .method
    | builtin => exact .builtin
    | object => exact .object

private theorem HoldsData.finds (h : heap.HoldsData) {v r : Value} {keys : List Value} (hv : v.IsFound)
    (hr : Finds heap v keys r) : r.IsFound := by
  induction hr with
  | here => exact h.current hv
  | through hmember _ ih => exact ih ((h.current hv).addresses hmember)
  | absent => exact .data rfl

end Heap

/-! ## Order comparisons -/

def Comparison.isOrder : Comparison → Bool
  | .gt | .gte | .lt | .lte => true
  | _ => false

private theorem Comparison.apply_of_isFound {op : Comparison} (hop : op.isOrder = true) {v u : Value} (hv : v.IsFound)
    (hu : u.IsFound) : ∃ b, op.apply v u = .ok (.bool b) := by
  cases op with
  | gt | gte | lt | lte =>
    simp only [Comparison.apply]
    split
    · exact ⟨false, rfl⟩
    · split
      · exact ⟨_, rfl⟩
      · exact ⟨false, rfl⟩
      · rename_i hne horder
        exact absurd (Value.IsFound.order_eq_error v u hv hu horder) hne
  | _ => cases hop

namespace Run

variable {app : Application} {vars v u : Value} {keys keys' : List Value} {w : World}

/-- A comparison of what two chains of keys find in plain data is true or false. -/
theorem followSteps_compare (hvars : vars.isData = true) (hheap : w.heap.HoldsData) {steps others : List Access}
    (hsteps : steps.map Access.key? = keys.map some) (hothers : others.map Access.key? = keys'.map some)
    (hv : Finds w.heap vars keys v) (hu : Finds w.heap vars keys' u) {op : Comparison} (hop : op.isOrder = true)
    (id : Identity) :
    ∃ b, followSteps app vars vars (steps ++ [.compare op (.accessor id others)]) w = .ok (.bool b) w := by
  obtain ⟨own, rfl, heq⟩ := followSteps_append_of_finds app vars hv hsteps
    [.compare op (.accessor id others)]
  obtain ⟨b, hb⟩ := Comparison.apply_of_isFound hop (hheap.finds (.data hvars) hv) (hheap.finds (.data hvars) hu)
  have hstep : followStep app vars own (.compare op (.accessor id others)) w = .ok (.bool b) w := by
    have hother : resolve app vars (.accessor id others) w = .ok u w := followSteps_of_finds hu hothers
    rw [followStep, bind_ok hother, bind_ok (current_eq own w), hb]
    rfl
  refine ⟨b, heq.trans ?_⟩
  rw [followSteps, bind_ok hstep]
  exact congrArg (EStateM.Result.ok · w) (Heap.current_of_refresh (fun _ => rfl) w.heap)

private theorem followSteps_compare_of_strands {steps others : List Access}
    (hsteps : steps.map Access.key? = keys.map some)
    (hothers : others.map Access.key? = keys'.map some) (hv : Finds w.heap vars keys v) {f : Fault}
    (hf : Strands w.heap vars keys' f) (op : Comparison) (id : Identity) :
    followSteps app vars vars (steps ++ [.compare op (.accessor id others)]) w = .error (.fault f) w := by
  obtain ⟨own, -, heq⟩ := followSteps_append_of_finds app vars hv hsteps
    [.compare op (.accessor id others)]
  have hstep : followStep app vars own (.compare op (.accessor id others)) w = .error (.fault f) w := by
    have hother : resolve app vars (.accessor id others) w = .error (.fault f) w := followSteps_of_strands hf hothers
    rw [followStep, bind_error hother]
  rw [heq, followSteps, bind_error hstep]

end Run

/-! ## Accessors that navigate -/

/-- Accessors that start from a variable and add members, items and dotted paths. -/
inductive Accessor.Navigates : List Access → Prop where
  | var {path : Value} {steps : List Access} (h : Accessor.along path = .ok steps) : Navigates steps
  | further {steps more : List Access} {method : String} {args : List Value} (h : Navigates steps)
      (hmethod : method ∈ ["attr", "item", "get"]) (hmore : Accessor.steps method args = .ok more) :
      Navigates (steps ++ more)

private theorem exists_keys {steps : List Access} (h : ∀ step ∈ steps, ∃ key, step.key? = some key) :
    ∃ keys : List Value, steps.map Access.key? = keys.map some := by
  induction steps with
  | nil => exact ⟨[], rfl⟩
  | cons step rest ih =>
    obtain ⟨⟨key, hkey⟩, hrest⟩ := List.forall_mem_cons.mp h
    obtain ⟨keys, hkeys⟩ := ih hrest
    exact ⟨key :: keys, by simp [hkey, hkeys]⟩

private theorem Accessor.key?_along {path : Value} {steps : List Access} (h : along path = .ok steps) :
    ∀ step ∈ steps, ∃ key, step.key? = some key := by
  cases path with
  | str s | markup s =>
    cases h
    intro step hstep
    obtain ⟨segment, -, rfl⟩ := List.mem_map.mp hstep
    exact ⟨_, rfl⟩
  | _ => cases h

private theorem Accessor.key?_steps {method : String} {args : List Value} {more : List Access}
    (hmethod : method ∈ ["attr", "item", "get"]) (h : Accessor.steps method args = .ok more) :
    ∀ step ∈ more, ∃ key, step.key? = some key := by
  have hone {step : Access} {key : Value} (hkey : step.key? = some key) (h : Accessor.described step = .ok more) :
      ∀ s ∈ more, ∃ key, s.key? = some key := by
    obtain ⟨-, rfl⟩ := Accessor.described_eq_ok.mp h
    exact List.forall_mem_singleton.mpr ⟨key, hkey⟩
  simp only [List.mem_cons, List.not_mem_nil, or_false] at hmethod
  obtain rfl | rfl | rfl := hmethod
  all_goals
    match args, h with
    | [], h | _ :: _ :: _, h => cases h
    | [v], h => first | exact key?_along h | exact hone rfl h

private theorem Accessor.Navigates.keys {steps : List Access} (h : Navigates steps) :
    ∃ keys : List Value, steps.map Access.key? = keys.map some := by
  refine exists_keys ?_
  induction h with
  | var h => exact key?_along h
  | further _ hmethod hmore ih =>
    exact fun step hstep => (List.mem_append.mp hstep).elim (ih step) (key?_steps hmethod hmore step)

end Colloquy
