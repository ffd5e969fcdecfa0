import Colloquy.Proofs.Compile.Derivation

/-!
# Programs only grow

Compiling a further part of a flow keeps everything that was compiled before it: keys are never
registered twice, so whatever was found under a key is still found there. Payloads, postbacks and
results that were handled stay handled, each by the flow whose key it carries.
-/

namespace Colloquy

namespace Value

theorem eq_str (k : Value) (s : String) : k.eq (.str s) = (k.text? == some s) := by
  cases k <;> simp [eq, eqAtom, text?, numeral?]

theorem same_str (k : Value) (s : String) : k.same (.str s) = (k.text? == some s) := by
  have hnan : bothNan k (.str s) = false := by cases k <;> rfl
  rw [same, hnan, Bool.or_false, eq_str]

/-- A value that equals itself. Whatever equals it stands for it in comparisons. -/
structure Sharp (key : Value) : Prop where
  self : key.same key = true
  left : ∀ k : Value, k.same key = true → ∀ v, k.same v = key.same v
  right : ∀ v, key.same v = true → ∀ k : Value, k.same v = k.same key

theorem sharp_str (s : String) : (Value.str s).Sharp where
  self := by simp [same_str, text?]
  left k hk v := by
    have htext : k.text? = some s := by simpa [same_str] using hk
    cases k with
    | str | markup =>
      obtain rfl := Option.some.inj htext
      cases v <;> simp [same, bothNan, eq, eqAtom, text?, numeral?]
    | _ => cases htext
  right v hv k := by
    cases v with
    | str | markup =>
      obtain rfl : s = _ := by simpa [same, bothNan, eq, eqAtom, text?, numeral?] using hv
      cases k <;> simp [same, bothNan, eq, eqAtom, text?, numeral?]
    | _ => simp [same, bothNan, eq, eqAtom, text?, numeral?] at hv

private theorem same_pair (a b x y : Value) : (tuple [a, b]).same (tuple [x, y]) = (a.same x && b.same y) := by
  simp [same, eq, eqAll, bothNan]

private theorem same_pair_eq_true {a b v : Value} (h : (tuple [a, b]).same v = true) : ∃ x y, v = tuple [x, y] := by
  cases v with
  | tuple items =>
    match items with
    | [] | [_] | _ :: _ :: _ :: _ => simp [same, eq, eqAll, bothNan] at h
    | [x, y] => exact ⟨x, y, rfl⟩
  | _ => simp [same, eq, eqAtom, bothNan, text?, numeral?] at h

private theorem same_pair_right_eq_true {a b v : Value} (h : v.same (tuple [a, b]) = true) : ∃ x y, v = tuple
    [x, y] := by
  cases v with
  | tuple items =>
    match items with
    | [] | [_] | _ :: _ :: _ :: _ => simp [same, eq, eqAll, bothNan] at h
    | [x, y] => exact ⟨x, y, rfl⟩
  | _ => simp [same, eq, eqAtom, bothNan, text?, numeral?] at h

private theorem Sharp.pair {a b : Value} (ha : a.Sharp) (hb : b.Sharp) : (tuple [a, b]).Sharp where
  self := by rw [same_pair, ha.self, hb.self, Bool.and_self]
  left k hk v := by
    obtain ⟨x, y, rfl⟩ := same_pair_right_eq_true hk
    rw [same_pair, Bool.and_eq_true_iff] at hk
    have hpair (c d : Value) : (tuple [x, y]).same (tuple [c, d]) = (tuple [a, b]).same (tuple [c, d]) := by
      rw [same_pair, same_pair, ha.left x hk.1, hb.left y hk.2]
    rw [Bool.eq_iff_iff]
    constructor <;> intro h <;> obtain ⟨c, d, rfl⟩ := same_pair_eq_true h
    · rwa [← hpair]
    · rwa [hpair]
  right v hv k := by
    obtain ⟨c, d, rfl⟩ := same_pair_eq_true hv
    rw [same_pair, Bool.and_eq_true_iff] at hv
    have hpair (x y : Value) : (tuple [x, y]).same (tuple [c, d]) = (tuple [x, y]).same (tuple [a, b]) := by
      rw [same_pair, same_pair, ha.right c hv.1, hb.right d hv.2]
    rw [Bool.eq_iff_iff]
    constructor <;> intro h <;> obtain ⟨x, y, rfl⟩ := same_pair_right_eq_true h
    · rwa [← hpair]
    · rwa [hpair]

theorem sharp_resultKey (dialog tag : String) : (Dialog.resultKey (.str dialog) (.str tag)).Sharp :=
  (sharp_str dialog).pair (sharp_str tag)

end Value

namespace EventTable

private theorem get?_put (table : EventTable) (key other : Value) (handler : EventHandler) :
    (table.put key handler).get? other = table.get? other ∨
      (table.put key handler).get? other = some handler := by
  induction table with
  | nil =>
    cases h : key.same other with
    | true => simp [put, get?, h]
    | false => simp [put, get?, h]
  | cons entry rest ih =>
    obtain ⟨k, own⟩ := entry
    unfold put
    cases hk : k.same other with
    | true => split <;> simp [get?, hk]
    | false =>
      split
      · simp [get?, hk]
      · simpa [get?, hk] using ih

private theorem get?_put_ne_none {table : EventTable} {other : Value} (h : table.get? other ≠ none) (key : Value)
    (handler : EventHandler) : (table.put key handler).get? other ≠ none := by
  rcases get?_put table key other handler with heq | heq
  · rw [heq]
    exact h
  · simp [heq]

theorem get?_put_self_ne_none {table : EventTable} {key : Value} {handler : EventHandler}
    (h : key.same key = true) : (table.put key handler).get? key ≠ none := by
  rw [get?_put_of_same h]
  simp

theorem get?_put_eq {key : Value} (hkey : key.Sharp) (table : EventTable) (handler : EventHandler) (other : Value) :
    (table.put key handler).get? other = if key.same other then some handler else table.get? other := by
  induction table with
  | nil =>
    cases h : key.same other with
    | true => simp [put, get?, h]
    | false => simp [put, get?, h]
  | cons entry rest ih =>
    obtain ⟨k, own⟩ := entry
    unfold put
    split
    · rename_i hk
      have hother := hkey.left k hk other
      cases h : key.same other <;> simp [get?, hother, h]
    · rename_i hk
      unfold get? at ih ⊢
      cases hother : k.same other with
      | true =>
        have hne : key.same other = false := by
          rw [Bool.eq_false_iff]
          intro hsame
          exact hk (hkey.right other hsame k ▸ hother)
        simp [hother, hne]
      | false => simpa [List.find?_cons, hother] using ih

private theorem get?_put_str_of_ne {table : EventTable} {key other : String} {handler : EventHandler}
    (h : key ≠ other) : (table.put (.str key) handler).get? (.str other) = table.get? (.str other) := by
  have hother : (Value.str key).same (.str other) = false := by simpa [Value.same_str, Value.text?] using h
  rw [get?_put_eq (Value.sharp_str key), hother]
  rfl

theorem get?_put_result_of_ne {table : EventTable} {dialog tag d other : String} {handler : EventHandler}
    (h : (dialog, tag) ≠ (d, other)) :
    (table.put (Dialog.resultKey (.str dialog) (.str tag)) handler).get?
        (Dialog.resultKey (.str d) (.str other)) =
      table.get? (Dialog.resultKey (.str d) (.str other)) := by
  have hother : (Dialog.resultKey (.str dialog) (.str tag)).same (Dialog.resultKey (.str d) (.str other)) = false := by
    simpa [Dialog.resultKey, Value.same_pair, Value.same_str, Value.text?, imp_not_comm] using h
  rw [get?_put_eq (Value.sharp_resultKey dialog tag), hother]
  rfl

theorem get?_put_result_self (table : EventTable) (dialog tag : String) (handler : EventHandler) :
    (table.put (Dialog.resultKey (.str dialog) (.str tag)) handler).get?
      (Dialog.resultKey (.str dialog) (.str tag)) = some handler :=
  get?_put_of_same (Value.sharp_resultKey dialog tag).self

end EventTable

namespace Program

/-- Everything of the first program is in the second. -/
structure Extends (p q : Program) : Prop where
  name : q.dialog.name = p.dialog.name
  settings : q.settings = p.settings
  wildcard : q.dialog.wildcard = p.dialog.wildcard
  flows : ∀ key handler, p.flows.lookup key = some handler → q.flows.lookup key = some handler
  payloads : ∀ key, p.dialog.payloads.get? key ≠ none → q.dialog.payloads.get? key ≠ none
  postbacks : ∀ key, p.dialog.postbacks.get? key ≠ none → q.dialog.postbacks.get? key ≠ none
  results : ∀ key, p.dialog.results.get? key ≠ none → q.dialog.results.get? key ≠ none
  references : ∀ key ∈ p.references, key ∈ q.references

/-- A payload, a postback or a result is handled by the flow whose key it carries. The flow of a payload is
there. -/
structure Wired (p : Program) : Prop where
  registered : ∀ key, p.dialog.payloads.get? (.str key) ≠ none → p.flows.lookup key ≠ none
  payloads : ∀ key handler, p.dialog.payloads.get? (.str key) = some handler →
    ∃ path : FlowPath, handler = .resume path.toValue ∧ p.pathKey path = .ok key
  postbacks : ∀ key handler, p.dialog.postbacks.get? (.str key) = some handler →
    ∃ path : FlowPath, handler = .resume path.toValue ∧ p.pathKey path = .ok key
  results : ∀ dialog key handler,
    p.dialog.results.get? (Dialog.resultKey (.str dialog) (.str key)) = some handler →
    ∃ path : FlowPath, handler = .resume path.toValue ∧ p.pathKey path = .ok key

/-- A flow is registered at a path, and it is not the answer to a payload. -/
def Continuation (p : Program) (path : FlowPath) : Prop :=
  ∃ key, p.pathKey path = .ok key ∧ p.flows.lookup key ≠ none ∧
    p.dialog.payloads.get? (.str key) = none

variable {p q r : Program} {path : FlowPath}

theorem Extends.refl (p : Program) : p.Extends p where
  name := rfl
  settings := rfl
  wildcard := rfl
  flows _ _ h := h
  payloads _ h := h
  postbacks _ h := h
  results _ h := h
  references _ h := h

theorem Extends.trans (h : p.Extends q) (h' : q.Extends r) : p.Extends r where
  name := h'.name.trans h.name
  settings := h'.settings.trans h.settings
  wildcard := h'.wildcard.trans h.wildcard
  flows key handler hk := h'.flows key handler (h.flows key handler hk)
  payloads key hk := h'.payloads key (h.payloads key hk)
  postbacks key hk := h'.postbacks key (h.postbacks key hk)
  results key hk := h'.results key (h.results key hk)
  references key hk := h'.references key (h.references key hk)

theorem pathKey_congr (h : q.dialog.name = p.dialog.name) (path : FlowPath) :
    q.pathKey path = p.pathKey path := by
  unfold pathKey
  rw [h]

theorem resultName_congr (h : q.settings = p.settings) (target : Value) :
    q.resultName target = p.resultName target := by
  unfold resultName
  rw [h]

theorem any_eq_isSome_lookup (flows : List (String × FlowHandler)) (key : String) :
    flows.any (·.1 == key) = (flows.lookup key).isSome := by
  induction flows with
  | nil => rfl
  | cons entry rest ih =>
    obtain ⟨k, own⟩ := entry
    cases hk : key == k with
    | true => simp [eq_of_beq hk]
    | false => simpa [List.lookup_cons, hk, BEq.comm] using ih

theorem lookup_ne_none_iff {flows : List (String × FlowHandler)} {key : String} :
    flows.lookup key ≠ none ↔ key ∈ flows.map (·.1) := by
  rw [← Option.isSome_iff_ne_none, ← any_eq_isSome_lookup]
  simp

theorem add_eq_ok {key : String} {handler : FlowHandler} :
    p.add key handler = .ok q ↔
      p.flows.lookup key = none ∧ q = { p with flows := p.flows ++ [(key, handler)] } := by
  unfold add
  rw [any_eq_isSome_lookup]
  cases p.flows.lookup key with
  | none => simp [eq_comm]
  | some own => simp

theorem lookup_of_add {key : String} {handler : FlowHandler} (h : p.add key handler = .ok q) :
    q.flows.lookup key = some handler := by
  obtain ⟨hfree, rfl⟩ := add_eq_ok.mp h
  simp [List.lookup_append, hfree]

theorem extends_of_add {key : String} {handler : FlowHandler} (h : p.add key handler = .ok q) :
    p.Extends q := by
  obtain ⟨-, rfl⟩ := add_eq_ok.mp h
  exact { Extends.refl p with
    flows := fun key handler hk => by simp [List.lookup_append, hk] }

theorem extends_warned (p : Program) (message : String) : p.Extends (p.warned message) :=
  { Extends.refl p with }

theorem extends_referring (p : Program) (key : String) : p.Extends (p.referring key) :=
  { Extends.refl p with
    references := fun _ hk => List.mem_append_left _ hk }

theorem extends_awaiting (p : Program) (target : Value) (tag : String) (path : FlowPath) :
    p.Extends (p.awaiting target tag path) :=
  { Extends.refl p with
    results := fun _ hk => EventTable.get?_put_ne_none hk _ _ }

theorem extends_offering (p : Program) (kind : ActionKind) (key : String) (path : FlowPath) :
    p.Extends (p.offering kind key path) := by
  unfold offering
  split
  · exact { Extends.refl p with
      payloads := fun _ hk => EventTable.get?_put_ne_none hk _ _ }
  · exact { Extends.refl p with
      postbacks := fun _ hk => EventTable.get?_put_ne_none hk _ _ }

theorem Extends.find (h : q.Extends r) {path : FlowPath} {key : String} {handler : FlowHandler}
    (hkey : q.pathKey path = .ok key) (hl : q.flows.lookup key = some handler) :
    r.find path.toValue = .ok handler := by
  have hk : r.key path.toValue = .ok key := (pathKey_congr h.name path).trans hkey
  unfold Program.find
  rw [hk]
  simp only [bind, Except.bind, h.flows key handler hl]
  rfl

theorem Extends.registered (h : p.Extends q) {key : String} (hk : p.flows.lookup key ≠ none) :
    q.flows.lookup key ≠ none := by
  obtain ⟨handler, hl⟩ := Option.ne_none_iff_exists'.mp hk
  simp [h.flows key handler hl]

theorem Wired.of_eq (h : p.Wired) (hext : p.Extends q) (hp : q.dialog.payloads = p.dialog.payloads)
    (hb : q.dialog.postbacks = p.dialog.postbacks) (hr : q.dialog.results = p.dialog.results) : q.Wired where
  registered key hk := hext.registered (h.registered key (by rwa [hp] at hk))
  payloads key handler hk := by
    obtain ⟨path, hpath, hkey⟩ := h.payloads key handler (by rwa [hp] at hk)
    exact ⟨path, hpath, (pathKey_congr hext.name path).trans hkey⟩
  postbacks key handler hk := by
    obtain ⟨path, hpath, hkey⟩ := h.postbacks key handler (by rwa [hb] at hk)
    exact ⟨path, hpath, (pathKey_congr hext.name path).trans hkey⟩
  results dialog key handler hk := by
    obtain ⟨path, hpath, hkey⟩ := h.results dialog key handler (by rwa [hr] at hk)
    exact ⟨path, hpath, (pathKey_congr hext.name path).trans hkey⟩

private theorem Wired.awaiting (h : p.Wired) {tag : String} (hkey : p.pathKey path = .ok tag)
    (target : Value) : (p.awaiting target tag path).Wired where
  registered := h.registered
  payloads := h.payloads
  postbacks := h.postbacks
  results dialog key handler hk := by
    by_cases hne : tag = key
    · subst hne
      rcases EventTable.get?_put p.dialog.results _ _ _ with heq | heq
      · exact h.results dialog tag handler (heq.symm.trans hk)
      · exact ⟨path, Option.some.inj (hk.symm.trans heq), hkey⟩
    · have hne : (p.resultName target, tag) ≠ (dialog, key) := fun heq => hne (congrArg Prod.snd heq)
      exact h.results dialog key handler ((EventTable.get?_put_result_of_ne hne).symm.trans hk)

private theorem resumes_of_put {table : EventTable} {own : String} (hkey : p.pathKey path = .ok own)
    (h : ∀ key handler, table.get? (.str key) = some handler →
      ∃ path : FlowPath, handler = .resume path.toValue ∧ p.pathKey path = .ok key)
    (key : String) (handler : EventHandler)
    (hk : (table.put (.str own) (.resume path.toValue)).get? (.str key) = some handler) :
    ∃ path : FlowPath, handler = .resume path.toValue ∧ p.pathKey path = .ok key := by
  by_cases hne : own = key
  · subst hne
    rcases EventTable.get?_put table _ _ _ with heq | heq
    · exact h own handler (heq.symm.trans hk)
    · exact ⟨path, Option.some.inj (hk.symm.trans heq), hkey⟩
  · exact h key handler ((EventTable.get?_put_str_of_ne hne).symm.trans hk)

private theorem Wired.offering (h : p.Wired) {own : String} (hkey : p.pathKey path = .ok own)
    (hown : p.flows.lookup own ≠ none) (kind : ActionKind) : (p.offering kind own path).Wired := by
  unfold Program.offering
  split
  · refine ⟨?_, resumes_of_put hkey h.payloads, h.postbacks, h.results⟩
    intro key hk
    by_cases hne : own = key
    · subst hne
      exact hown
    · exact h.registered key fun hnone => hk ((EventTable.get?_put_str_of_ne hne).trans hnone)
  · exact ⟨h.registered, h.payloads, resumes_of_put hkey h.postbacks, h.results⟩

private theorem Continuation.of_eq (h : p.Continuation path) (hext : p.Extends q)
    (hp : q.dialog.payloads = p.dialog.payloads) : q.Continuation path := by
  obtain ⟨key, hkey, hl, hnone⟩ := h
  exact ⟨key, (pathKey_congr hext.name path).trans hkey, hext.registered hl, by rwa [hp]⟩

private theorem Wired.add (h : p.Wired) {key : String} {handler : FlowHandler} (hadd : p.add key handler = .ok q) :
    q.Wired := by
  have hext := extends_of_add hadd
  obtain ⟨-, rfl⟩ := add_eq_ok.mp hadd
  exact h.of_eq hext rfl rfl rfl

theorem Continuation.add (h : p.Continuation path) {key : String} {handler : FlowHandler}
    (hadd : p.add key handler = .ok q) : q.Continuation path := by
  have hext := extends_of_add hadd
  obtain ⟨-, rfl⟩ := add_eq_ok.mp hadd
  exact h.of_eq hext rfl

theorem Continuation.of_add (h : p.Wired) {key : String} {handler : FlowHandler}
    (hkey : p.pathKey path = .ok key) (hadd : p.add key handler = .ok q) : q.Continuation path := by
  have hl := lookup_of_add hadd
  obtain ⟨hfree, rfl⟩ := add_eq_ok.mp hadd
  refine ⟨key, hkey, by simp [hl], ?_⟩
  exact Decidable.not_not.mp fun hk => h.registered key hk hfree

theorem Continuation.offering (h : p.Continuation path) {key : String} (hne : p.pathKey path ≠ .ok key)
    (kind : ActionKind) (own : FlowPath) : (p.offering kind key own).Continuation path := by
  obtain ⟨other, hkey, hl, hp⟩ := h
  have hne : key ≠ other := by
    rintro rfl
    exact hne hkey
  refine ⟨other, (pathKey_congr (extends_offering p kind key own).name path).trans hkey,
    (extends_offering p kind key own).registered hl, ?_⟩
  unfold Program.offering
  split
  · exact (EventTable.get?_put_str_of_ne hne).trans hp
  · exact hp

end Program

theorem Compiles.grows {job : Job} {p q : Program} (h : Compiles job p q) : p.Extends q := by
  induction h with
  | flow sound hown elements hkey hadd ih => exact ih.trans (Program.extends_of_add hadd)
  | nil | startLast _ _ _ | finish _ | set _ | exec _ | wait _ | «break» _ | «continue» _ | noDefault | noCase
  | noActions | computedActions | actionNil | inert _ _ | postback _ _ | noItems | computedItems | itemNil =>
    exact .refl _
  | handler _ _ ih | last _ _ _ ih | spliced _ _ _ ih | unspliced _ _ _ ih | subFlow _ _ ih | default _ _ ih
  | fixedActions _ ih | fixedItems _ ih => exact ih
  | plain _ _ _ _ ih ih' | broken _ _ _ _ _ ih ih' | message _ _ _ ih ih' | conditional _ _ _ _ _ ih ih'
  | case _ _ _ ih ih' | actionCons _ _ ih ih' | itemCons _ _ _ ih ih' => exact ih.trans ih'
  | terminal _ _ _ _ _ _ ih => exact (Program.extends_warned _ _).trans ih
  | switch _ _ _ _ _ ih ih' ih'' => exact (ih.trans ih').trans ih''
  | iteration _ _ _ _ _ _ _ _ _ _ hadd _ ih ih' ih'' =>
    exact ((ih.trans ih').trans ih'').trans (Program.extends_of_add hadd)
  | start _ _ _ _ _ ih => exact ih.trans (Program.extends_awaiting _ _ _ _)
  | reference _ _ _ => exact Program.extends_referring _ _
  | button _ _ _ _ _ _ _ ih => exact ih.trans (Program.extends_offering _ _ _ _)

theorem Compiles.registers {flow : Flow} {path : FlowPath} {targets : Targets} {index : Nat} {p r : Program}
    (h : Compiles (.flow flow path targets index) p r) : ∃ key handler q steps,
      Compiles (.elements flow path targets index steps) p q ∧ q.pathKey path = .ok key ∧
        q.add key handler = .ok r := by
  cases h with
  | flow sound hown elements hkey hadd => exact ⟨_, _, _, _, elements, hkey, hadd⟩

theorem Compiles.wired {job : Job} {p q : Program} (h : Compiles job p q) (hp : p.Wired) : q.Wired := by
  induction h with
  | flow sound hown elements hkey hadd ih =>
    exact (ih hp).add hadd
  | nil | startLast _ _ _ | finish _ | set _ | exec _ | wait _ | «break» _ | «continue» _ | noDefault | noCase
  | noActions | computedActions | actionNil | inert _ _ | postback _ _ | noItems | computedItems | itemNil =>
    exact hp
  | handler _ _ ih | last _ _ _ ih | spliced _ _ _ ih | unspliced _ _ _ ih | subFlow _ _ ih | default _ _ ih
  | fixedActions _ ih | fixedItems _ ih => exact ih hp
  | plain _ _ _ _ ih ih' | broken _ _ _ _ _ ih ih' | message _ _ _ ih ih' | conditional _ _ _ _ _ ih ih'
  | case _ _ _ ih ih' | actionCons _ _ ih ih' | itemCons _ _ _ ih ih' => exact ih' (ih hp)
  | terminal _ _ _ _ _ _ ih => exact ih (hp.of_eq (Program.extends_warned _ _) rfl rfl rfl)
  | switch _ _ _ _ _ ih ih' ih'' => exact ih'' (ih' (ih hp))
  | iteration _ _ _ _ _ _ _ _ _ _ hadd _ ih ih' ih'' =>
    exact (ih'' (ih' (ih hp))).add hadd
  | start _ _ _ _ htag ih => exact (ih hp).awaiting htag _
  | reference _ _ _ => exact hp.of_eq (Program.extends_referring _ _) rfl rfl rfl
  | button _ _ _ _ _ inner hkey ih =>
    obtain ⟨key, handler, _, _, _, hown, hadd⟩ := inner.registers
    have hown := (Program.pathKey_congr (Program.extends_of_add hadd).name _).trans hown
    obtain rfl := Except.ok.inj (hkey.symm.trans hown)
    exact (ih hp).offering hkey (by simp [Program.lookup_of_add hadd]) _

theorem Compiles.keeps {job : Job} {p q : Program} (h : Compiles job p q) {t : FlowPath}
    (ht : p.Continuation t) : q.Continuation t := by
  induction h with
  | flow sound hown elements hkey hadd ih =>
    exact (ih ht).add hadd
  | nil | startLast _ _ _ | finish _ | set _ | exec _ | wait _ | «break» _ | «continue» _ | noDefault | noCase
  | noActions | computedActions | actionNil | inert _ _ | postback _ _ | noItems | computedItems | itemNil =>
    exact ht
  | handler _ _ ih | last _ _ _ ih | spliced _ _ _ ih | unspliced _ _ _ ih | subFlow _ _ ih | default _ _ ih
  | fixedActions _ ih | fixedItems _ ih | start _ _ _ _ _ ih => exact ih ht
  | plain _ _ _ _ ih ih' | broken _ _ _ _ _ ih ih' | message _ _ _ ih ih' | conditional _ _ _ _ _ ih ih'
  | case _ _ _ ih ih' | actionCons _ _ ih ih' | itemCons _ _ _ ih ih' => exact ih' (ih ht)
  | terminal _ _ _ _ _ _ ih => exact ih (ht.of_eq (Program.extends_warned _ _) rfl)
  | switch _ _ _ _ _ ih ih' ih'' => exact ih'' (ih' (ih ht))
  | iteration _ _ _ _ _ _ _ _ _ _ hadd _ ih ih' ih'' =>
    exact (ih'' (ih' (ih ht))).add hadd
  | reference _ _ _ => exact ht.of_eq (Program.extends_referring _ _) rfl
  | button _ _ _ _ _ inner hkey ih =>
    obtain ⟨key, handler, _, _, elements, hown, hadd⟩ := inner.registers
    have hext := elements.grows.trans (Program.extends_of_add hadd)
    have hown := (Program.pathKey_congr (Program.extends_of_add hadd).name _).trans hown
    obtain rfl := Except.ok.inj (hkey.symm.trans hown)
    refine (ih ht).offering ?_ _ _
    -- the key of the button was still free when the continuation was there already
    intro hsame
    obtain ⟨other, hother, hl, -⟩ := ht
    have hother := (Program.pathKey_congr hext.name t).trans hother
    obtain rfl := Except.ok.inj (hsame.symm.trans hother)
    exact elements.grows.registered hl (Program.add_eq_ok.mp hadd).1

theorem Compiles.continuation {flow : Flow} {path : FlowPath} {targets : Targets} {index : Nat} {p q : Program}
    (h : Compiles (.flow flow path targets index) p q) (hp : p.Wired) : q.Continuation path := by
  obtain ⟨key, handler, q', steps, elements, hkey, hadd⟩ := h.registers
  exact .of_add (elements.wired hp) hkey hadd

theorem Compiles.continues {rest : Flow} {path next : FlowPath} {targets : Targets} {index : Nat} {p q : Program}
    (h : Compiles (.continuation rest path targets index next) p q) (hp : p.Wired) : q.Continuation next := by
  cases h with
  | spliced hs hpath inner => exact inner.continuation hp
  | unspliced hs hpath inner => exact inner.continuation hp

/-- A place that something goes on with while a part of a flow is compiled: it is a continuation as long
as the flow itself is not offered by an action. -/
def Job.Leaves (job : Job) (p : Program) (t : FlowPath) : Prop :=
  match job with
  | .flow _ path _ _ => p.Continuation t ∧ p.pathKey t ≠ p.pathKey path
  | _ => p.Continuation t

theorem Job.Leaves.continuation {job : Job} {p : Program} {t : FlowPath} (h : job.Leaves p t) :
    p.Continuation t := by
  cases job with
  | flow flow path targets index => exact h.1
  | _ => exact h

theorem Job.Leaves.of_add {flow : Flow} {path t : FlowPath} {targets : Targets} {index : Nat} {p q : Program}
    {key : String} {handler : FlowHandler} (ht : p.Continuation t) (hkey : p.pathKey path = .ok key)
    (hadd : p.add key handler = .ok q) : (Job.flow flow path targets index).Leaves q t := by
  have hext := Program.extends_of_add hadd
  refine ⟨ht.add hadd, fun hsame => ?_⟩
  obtain ⟨other, hother, hl, -⟩ := ht
  rw [Program.pathKey_congr hext.name, Program.pathKey_congr hext.name, hother, hkey] at hsame
  obtain rfl := Except.ok.inj hsame
  exact hl (Program.add_eq_ok.mp hadd).1

end Colloquy
