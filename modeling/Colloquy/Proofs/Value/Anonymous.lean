import Mathlib.Data.List.Forall2
import Colloquy.Proofs.Value.Sharing
import Colloquy.Value.Member

/-!
# Values without the identities of new objects

As long as an object does not change, its identity tells nothing: all that can be seen of the value is its content. Two
values agree if they differ at most in the identities of such objects.
-/

namespace Colloquy

/-- An identity under which something is known; every other one is as good as none. -/
def Identity.known (knows : Nat → Bool) : Identity → Identity
  | .object n => if knows n then .object n else .anonymous
  | id => id

namespace Value

variable {knows : Nat → Bool}

mutual

/-- A value without the identities of objects that are not known. -/
def anonymize (knows : Nat → Bool) : Value → Value
  | .list id items => .list (id.known knows) (anonymizeAll knows items)
  | .tuple items => .tuple (anonymizeAll knows items)
  | .dict id entries => .dict (id.known knows) (anonymizeEntries knows entries)
  | .negated v => .negated (v.anonymize knows)
  | .method receiver name => .method (receiver.anonymize knows) name
  | v => v

/-- Elements without the identities of objects that are not known. -/
def anonymizeAll (knows : Nat → Bool) : List Value → List Value
  | [] => []
  | v :: vs => v.anonymize knows :: anonymizeAll knows vs

/-- Entries without the identities of objects that are not known. -/
def anonymizeEntries (knows : Nat → Bool) : Entries → Entries
  | [] => []
  | (k, v) :: es => (k, v.anonymize knows) :: anonymizeEntries knows es

end

private theorem anonymizeAll_eq_map (items : List Value) : anonymizeAll knows items = items.map (anonymize knows) := by
  induction items with
  | nil => rfl
  | cons v rest ih => rw [anonymizeAll, ih, List.map_cons]

theorem anonymizeEntries_eq_mapValues (entries : Entries) :
    anonymizeEntries knows entries = entries.mapValues (anonymize knows) := by
  induction entries with
  | nil => rfl
  | cons e rest ih =>
    rw [anonymizeEntries, ih]
    rfl

private theorem isNone_anonymize (v : Value) : (v.anonymize knows).isNone = v.isNone := by
  cases v <;> rfl

private theorem truthy_anonymize (v : Value) : (v.anonymize knows).truthy = v.truthy := by
  cases v with
  | list id items | tuple items => simp [anonymize, truthy, anonymizeAll_eq_map]
  | dict id entries => simp [anonymize, truthy, anonymizeEntries_eq_mapValues, Entries.mapValues]
  | _ => rfl

/-- Whether a value may hold objects of which it does not know how they are called. -/
def hasParts : Value → Bool
  | .list .. | .tuple _ | .dict .. | .negated _ | .method .. => true
  | _ => false

private theorem hasParts_anonymize (v : Value) : (v.anonymize knows).hasParts = v.hasParts := by
  cases v <;> rfl

private theorem anonymize_of_not_hasParts {v : Value} (h : v.hasParts = false) : v.anonymize knows = v := by
  cases v with
  | list | tuple | dict | negated | method => cases h
  | _ => rfl

private theorem eq_of_anonymize {v u : Value} (h : v.anonymize knows = u.anonymize knows) (hv : v.hasParts = false) :
    v = u := by
  have hu : u.hasParts = false := by
    have hsame : (u.anonymize knows).hasParts = false := by rw [← h, hasParts_anonymize, hv]
    rwa [hasParts_anonymize] at hsame
  rwa [anonymize_of_not_hasParts hv, anonymize_of_not_hasParts hu] at h

mutual

private theorem anonymize_refresh {content : Nat → Option Value} (hknows : ∀ n, knows n = (content n).isSome)
    (v : Value) :
    (v.refresh content).anonymize knows = ((v.anonymize knows).refresh content).anonymize knows := by
  cases v with
  | list id items =>
    have hitems := anonymizeAll_refreshAll hknows items
    cases id with
    | object n =>
      cases hc : content n with
      | some c => simp [refresh, anonymize, Identity.known, hknows, hc]
      | none => simp [refresh, anonymize, Identity.known, hknows, hc, ← hitems]
    | _ => simp [refresh, anonymize, Identity.known, ← hitems]
  | dict id entries =>
    have hentries := anonymizeEntries_refreshEntries hknows entries
    cases id with
    | object n =>
      cases hc : content n with
      | some c => simp [refresh, anonymize, Identity.known, hknows, hc]
      | none => simp [refresh, anonymize, Identity.known, hknows, hc, ← hentries]
    | _ => simp [refresh, anonymize, Identity.known, ← hentries]
  | tuple items => simp [refresh, anonymize, ← anonymizeAll_refreshAll hknows items]
  | negated v => simp [refresh, anonymize, ← anonymize_refresh hknows v]
  | method receiver name => simp [refresh, anonymize, ← anonymize_refresh hknows receiver]
  | _ => rfl
termination_by structural v

theorem anonymizeAll_refreshAll {content : Nat → Option Value} (hknows : ∀ n, knows n = (content n).isSome)
    (vs : List Value) :
    anonymizeAll knows (refreshAll content vs) = anonymizeAll knows (refreshAll content (anonymizeAll knows vs)) := by
  match vs with
  | [] => rfl
  | v :: rest =>
    simp only [refreshAll, anonymizeAll]
    rw [anonymize_refresh hknows v, anonymizeAll_refreshAll hknows rest]
termination_by structural vs

theorem anonymizeEntries_refreshEntries {content : Nat → Option Value} (hknows : ∀ n, knows n = (content n).isSome)
    (es : Entries) :
    anonymizeEntries knows (refreshEntries content es) =
      anonymizeEntries knows (refreshEntries content (anonymizeEntries knows es)) := by
  match es with
  | [] => rfl
  | (k, v) :: rest =>
    simp only [refreshEntries, anonymizeEntries]
    rw [anonymize_refresh hknows v, anonymizeEntries_refreshEntries hknows rest]
termination_by structural es

end

mutual

/-- New identities tell nothing. -/
theorem anonymize_adopt (v : Value) {next : Nat} (h : ∀ n, next ≤ n → knows n = false) :
    (v.adopt false next).1.anonymize knows = v.anonymize knows ∧ next ≤ (v.adopt false next).2 := by
  cases v with
  | list id items =>
    rw [adopt]
    split
    · rename_i hid
      obtain rfl : id = .anonymous := by simpa using hid
      have hfree (n : Nat) (hn : next + 1 ≤ n) : knows n = false := h n (by omega)
      obtain ⟨hitems, hnext⟩ := anonymizeAll_adoptAll items hfree
      exact ⟨by simp [anonymize, Identity.known, h next (Nat.le_refl _), hitems], by dsimp only; omega⟩
    · exact ⟨rfl, Nat.le_refl _⟩
  | dict id entries =>
    rw [adopt]
    split
    · rename_i hid
      obtain rfl : id = .anonymous := by simpa using hid
      have hfree (n : Nat) (hn : next + 1 ≤ n) : knows n = false := h n (by omega)
      obtain ⟨hentries, hnext⟩ := anonymizeEntries_adoptEntries entries hfree
      exact ⟨by simp [anonymize, Identity.known, h next (Nat.le_refl _), hentries], by dsimp only; omega⟩
    · exact ⟨rfl, Nat.le_refl _⟩
  | tuple items =>
    obtain ⟨hitems, hnext⟩ := anonymizeAll_adoptAll items h
    exact ⟨by simp [adopt, anonymize, hitems], hnext⟩
  | negated v =>
    obtain ⟨hv, hnext⟩ := anonymize_adopt v h
    exact ⟨by simp [adopt, anonymize, hv], hnext⟩
  | _ => exact ⟨rfl, Nat.le_refl _⟩
termination_by structural v

theorem anonymizeAll_adoptAll (vs : List Value) {next : Nat} (h : ∀ n, next ≤ n → knows n = false) :
    anonymizeAll knows (adoptAll false next vs).1 = anonymizeAll knows vs ∧ next ≤ (adoptAll false next vs).2 := by
  match vs with
  | [] => exact ⟨rfl, Nat.le_refl _⟩
  | v :: rest =>
    obtain ⟨hv, hnext⟩ := anonymize_adopt v h
    have hfree (n : Nat) (hn : (v.adopt false next).2 ≤ n) : knows n = false := h n (by omega)
    obtain ⟨hrest, hnext'⟩ := anonymizeAll_adoptAll rest hfree
    refine ⟨?_, Nat.le_trans hnext hnext'⟩
    simp only [adoptAll, anonymizeAll]
    rw [hv, hrest]
termination_by structural vs

theorem anonymizeEntries_adoptEntries (es : Entries) {next : Nat} (h : ∀ n, next ≤ n → knows n = false) :
    anonymizeEntries knows (adoptEntries false next es).1 = anonymizeEntries knows es ∧
      next ≤ (adoptEntries false next es).2 := by
  match es with
  | [] => exact ⟨rfl, Nat.le_refl _⟩
  | (k, v) :: rest =>
    obtain ⟨hv, hnext⟩ := anonymize_adopt v h
    have hfree (n : Nat) (hn : (v.adopt false next).2 ≤ n) : knows n = false := h n (by omega)
    obtain ⟨hrest, hnext'⟩ := anonymizeEntries_adoptEntries rest hfree
    refine ⟨?_, Nat.le_trans hnext hnext'⟩
    simp only [adoptEntries, anonymizeEntries]
    rw [hv, hrest]
termination_by structural es

end

private theorem memberNamed?_of_methodNames {v : Value} (hv : ∀ kind fields extras, v ≠ .model kind fields extras)
    (h : v.methodNames = []) (name : String) : v.memberNamed? name = match v.dataMember? name with
      | some member => some member
      | Option.none => if commonMethods.contains name then some (.method v name) else Option.none := by
  have hmember : v.memberNamed? name = match v.dataMember? name with
      | some member => some member
      | Option.none =>
        if v.methodNames.contains name || commonMethods.contains name then some (.method v name) else Option.none := by
    cases v with
    | model kind fields extras => exact absurd rfl (hv kind fields extras)
    | _ => rfl
  rw [hmember, h, List.contains_nil, Bool.false_or]

private theorem memberNamed?_negated (v : Value) (name : String) : (negated v).memberNamed? name =
    if name = "param" then some v else if name = "__class__" then some (.object "type")
    else if commonMethods.contains name then some (.method (.negated v) name) else Option.none := by
  have hdata : dataMember? (negated v) name =
      if name = "param" then some v else if name = "__class__" then some (.object "type") else Option.none := by
    unfold dataMember?
    split <;> simp_all [docLines?]
  rw [memberNamed?_of_methodNames (fun _ _ _ h => by cases h) rfl, hdata]
  split_ifs <;> rfl

private theorem memberNamed?_method (v : Value) (own name : String) : (method v own).memberNamed? name =
    if name = "__class__" then some (.object "type")
    else if commonMethods.contains name then some (.method (.method v own) name) else Option.none := by
  have hdata : dataMember? (method v own) name =
      if name = "__class__" then some (.object "type") else Option.none := by
    unfold dataMember?
    split <;> simp_all [docLines?]
  rw [memberNamed?_of_methodNames (fun _ _ _ h => by cases h) rfl, hdata]
  split_ifs <;> rfl

private theorem lookup_anonymize {v : Value} (h : v.hasParts = true) (key : Value) :
    (v.anonymize knows).lookup key = (v.lookup key).map (anonymize knows) := by
  have helement (items : List Value) (i : Int) :
      (ofOption ((position? items.length i).bind fun n => items[n]?)).anonymize knows =
        ofOption ((position? (anonymizeAll knows items).length i).bind fun n => (anonymizeAll knows items)[n]?) := by
    rw [anonymizeAll_eq_map, List.length_map]
    cases hplace : position? items.length i with
    | none => rfl
    | some n => cases hitem : items[n]? <;> simp [hitem, ofOption, anonymize]
  cases v with
  | list | tuple =>
    simp only [anonymize, lookup, at?]
    split
    · rw [← helement]
      rfl
    · rfl
    · rfl
  | dict id entries =>
    have hget : Entries.get? (anonymizeEntries knows entries) key =
        (Entries.get? entries key).map (anonymize knows) := by
      rw [anonymizeEntries_eq_mapValues]
      unfold Entries.get? Entries.mapValues
      rw [List.find?_map]
      simp only [Option.map_map]
      rfl
    simp only [anonymize, lookup, hget]
    split
    · cases Entries.get? entries key <;> rfl
    · rfl
  | negated | method =>
    cases hkey : key.text? with
    | none => simp [anonymize, lookup, hkey, Except.map]
    | some name =>
      simp only [anonymize, lookup, hkey, memberNamed?_negated, memberNamed?_method]
      split_ifs <;> rfl
  | _ => cases h

end Value

namespace Heap

/-- Whether the content of an object is known, since it changed. -/
def knows (heap : Heap) (n : Nat) : Bool := (heap.contents.lookup n).isSome

/-- Two values are the same but for the identities of objects that did not change. -/
def Agrees (heap : Heap) (v u : Value) : Prop := v.anonymize heap.knows = u.anonymize heap.knows

variable {heap : Heap} {v u : Value}

theorem Agrees.isNone (h : heap.Agrees v u) : v.isNone = u.isNone := by
  rw [← Value.isNone_anonymize v, h, Value.isNone_anonymize]

theorem Agrees.truthy (h : heap.Agrees v u) : v.truthy = u.truthy := by
  rw [← Value.truthy_anonymize v, h, Value.truthy_anonymize]

theorem Agrees.current (h : heap.Agrees v u) : heap.Agrees (heap.current v) (heap.current u) := by
  unfold Agrees Heap.current
  split
  · exact h
  · rename_i hchanged
    have hknows (n : Nat) : heap.knows n = (heap.content heap.contents.length n).isSome := by
      have hlength : heap.contents.length ≠ 0 := by simpa using hchanged
      obtain ⟨depth, hdepth⟩ := Nat.exists_eq_succ_of_ne_zero hlength
      rw [hdepth, content, Option.isSome_map]
      rfl
    rw [Value.anonymize_refresh hknows v, h, ← Value.anonymize_refresh hknows u]

theorem Agrees.lookup (h : heap.Agrees v u) {key member : Value} (hv : v.lookup key = .ok member) :
    ∃ other, u.lookup key = .ok other ∧ heap.Agrees member other := by
  cases hparts : v.hasParts with
  | false =>
    obtain rfl := Value.eq_of_anonymize h hparts
    exact ⟨member, hv, rfl⟩
  | true =>
    have hparts' : u.hasParts = true := by rw [← Value.hasParts_anonymize, ← h, Value.hasParts_anonymize, hparts]
    have hsame : (v.anonymize heap.knows).lookup key = (u.anonymize heap.knows).lookup key := by rw [h]
    rw [Value.lookup_anonymize hparts, Value.lookup_anonymize hparts', hv] at hsame
    cases hu : u.lookup key with
    | error f =>
      rw [hu] at hsame
      cases hsame
    | ok other =>
      rw [hu] at hsame
      exact ⟨other, rfl, Except.ok.inj hsame⟩

theorem agrees_ofList {vs us : List Value} (h : List.Forall₂ heap.Agrees vs us) :
    heap.Agrees (.ofList vs) (.ofList us) := by
  have hmap : vs.map (Value.anonymize heap.knows) = us.map (Value.anonymize heap.knows) := by
    induction h with
    | nil => rfl
    | cons h _ ih => rw [List.map_cons, List.map_cons, h, ih]
  simp [Agrees, Value.ofList, Value.anonymize, Value.anonymizeAll_eq_map, hmap]

end Heap

end Colloquy
