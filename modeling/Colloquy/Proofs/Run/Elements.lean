import Mathlib.Data.List.Forall2
import Colloquy.Proofs.Run.Expansion
import Colloquy.Proofs.Value.Entries

/-!
# What expansions give

A collection expands element by element, whatever the rounds in which its elements come to an end: if each
element can only give values of a certain kind, the collection is made of such values. So a text that is no
template arrives as it was written, also inside lists and mappings.
-/

namespace Colloquy

open Run

/-- A value as it is after shared objects changed several times. -/
def Value.after (heaps : List Heap) (v : Value) : Value := heaps.foldl (fun v heap => heap.current v) v

namespace Value

private theorem after_concat (heaps : List Heap) (heap : Heap) :
    after (heaps ++ [heap]) = fun v => heap.current (after heaps v) := by
  funext v
  simp [after]

theorem after_text {v : Value} {s : String} (hv : v.text? = some s) (heaps : List Heap) : after heaps v = v := by
  induction heaps with
  | nil => rfl
  | cons heap rest ih =>
    change after rest (heap.current v) = _
    rw [heap.current_text hv, ih]

theorem after_list (heaps : List Heap) (items : List Value) :
    after heaps (.list .anonymous items) = .list .anonymous (items.map (after heaps)) := by
  induction heaps generalizing items with
  | nil => exact congrArg (list .anonymous) (List.map_id items).symm
  | cons heap rest ih =>
    change after rest (heap.current (.list .anonymous items)) = _
    rw [heap.current_list, ih, List.map_map]
    rfl

theorem after_dict (heaps : List Heap) (entries : Entries) :
    after heaps (.dict .anonymous entries) = .dict .anonymous (entries.mapValues (after heaps)) := by
  induction heaps generalizing entries with
  | nil => exact congrArg (dict .anonymous) (List.map_id entries).symm
  | cons heap rest ih =>
    change after rest (heap.current (.dict .anonymous entries)) = _
    rw [heap.current_dict, ih]
    unfold Entries.mapValues
    rw [List.map_map]
    rfl

end Value

/-- What becomes of entries that are sent: texts that are no templates stay, and nothing comes up under a name
that was not there. -/
structure Entries.Keeps (entries out : Entries) : Prop where
  text : ∀ name v s, entries.named? name = some v → v.text? = some s → Template.isTemplate s = false →
    out.named? name = some (.str s)
  absent : ∀ name, entries.named? name = none → out.named? name = none

namespace Entries

variable {entries out : Entries}

theorem Keeps.filter (h : entries.Keeps out) : entries.Keeps (out.filter fun (_, v) => !v.isNone) where
  text name v s hv hs hplain := named?_filter_of_keeps (h.text name v s hv hs hplain) fun _ => rfl
  absent name hnone := named?_filter_of_none (h.absent name hnone)

theorem Keeps.current (h : entries.Keeps out) (heap : Heap) : entries.Keeps (out.mapValues heap.current) where
  text name v s hv hs hplain := by
    rw [named?_mapValues, h.text name v s hv hs hplain]
    exact congrArg some (heap.current_str s)
  absent name hnone := by
    rw [named?_mapValues, h.absent name hnone]
    rfl

def KeepsText (entry : Value × Value) (v : Value) : Prop :=
  ∀ s, entry.2.text? = some s → Template.isTemplate s = false → v = .str s

theorem keeps_zip {vs : List Value} (h : List.Forall₂ KeepsText entries vs) :
    entries.Keeps ((entries.map (·.1)).zip vs) := by
  induction h with
  | nil => exact ⟨nofun, fun _ _ => rfl⟩
  | @cons entry v entries vs hv _ ih =>
    obtain ⟨k, own⟩ := entry
    refine ⟨fun name u s hu hs hplain => ?_, fun name hnone => ?_⟩
    · rw [List.map_cons, List.zip_cons_cons]
      rw [named?_cons] at hu ⊢
      split
      · rename_i hk
        simp only [hk, if_true, Option.some.injEq] at hu
        subst hu
        rw [hv s hs hplain]
      · rename_i hk
        simp only [hk, if_false] at hu
        exact ih.text name u s hu hs hplain
    · rw [List.map_cons, List.zip_cons_cons]
      rw [named?_cons] at hnone ⊢
      split
      · rename_i hk
        simp [hk] at hnone
      · rename_i hk
        simp only [hk, if_false] at hnone
        exact ih.absent name hnone

end Entries

def Task.Succeeded (t : Task) : Prop := ∃ v heard orphans, t = .ended (.ok v) heard orphans

namespace Expander

/-- A task gives a value with a property, if it gives any. -/
inductive Promises (x : Expander) : (Value → Prop) → Task → Prop where
  | anything {P t} (h : ∀ v, P v) : Promises x P t
  | fresh {P param} (h : ∀ w t w', x.start param w = .ok t w' → Promises x P t) : Promises x P (.fresh param)
  | ended {P result heard orphans} (h : ∀ v, result = .ok v → P v) : Promises x P (.ended result heard orphans)
  | group {P collection settled R elements} (hlength : R.length = elements.length)
      (helements : ∀ Q t, (Q, t) ∈ R.zip elements → Promises x Q t)
      (hsettled : settled = some (.ok ()) → ∀ t ∈ elements, t.Succeeded)
      (hbuild : ∀ vs, List.Forall₂ (fun Q v => Q v) R vs → P (Collection.build collection vs)) :
      Promises x P (.group collection [] settled elements)

/-- The expansion of a parameter gives a value with a property, if it gives any. -/
def Expands (x : Expander) (P : Value → Prop) (param : Value) : Prop :=
  ∀ w t w', x.start param w = .ok t w' → Promises x P t

variable {x : Expander} {P : Value → Prop}

private theorem Promises.result {v : Value} {heard : Bool} {orphans : List Task}
    (h : Promises x P (.ended (.ok v) heard orphans)) : P v := by
  cases h with
  | anything h => exact h v
  | ended h => exact h v rfl

theorem Promises.mono {P' : Value → Prop} {t : Task} (h : Promises x P t) (hp : ∀ v, P v → P' v) :
    Promises x P' t := by
  induction h with
  | anything h => exact .anything fun v => hp v (h v)
  | fresh _ ih => exact .fresh fun w t w' ht => ih w t w' ht hp
  | ended h => exact .ended fun v hv => hp v (h v hv)
  | group hlength helements hsettled hbuild => exact .group hlength helements hsettled fun vs hvs => hp _ (hbuild vs hvs)

private theorem yields_outcome {r : Run Value} (h : r.Yields P) :
    (outcome r).Yields fun result => ∀ v, result = .ok v → P v := by
  intro w result w' hresult
  unfold outcome at hresult
  cases hr : r w with
  | ok v w₁ =>
    rw [hr] at hresult
    cases hresult
    rintro _ ⟨⟩
    exact h w v _ hr
  | error e w₁ =>
    rw [hr] at hresult
    cases hresult
    exact nofun

private theorem yields_ended {r : Run Value} (h : r.Yields P) : (x.ended [] r).Yields (Promises x P) := by
  have hr : (do x.resume (← r) []) = r := bind_pure r
  unfold ended
  rw [hr]
  exact .bind_of (yields_outcome h) fun result hresult => .pure (.ended hresult)

theorem succeeded_of_settle {elements : List Task} (h : settle elements = some (.ok ())) :
    ∀ t ∈ elements, t.Succeeded := by
  induction elements with
  | nil => nofun
  | cons t rest ih =>
    unfold settle at h
    split at h
    · rename_i heq
      cases heq
    · cases h
    · rename_i heq
      obtain ⟨rfl, rfl⟩ := List.cons.inj heq
      exact List.forall_mem_cons.mpr ⟨⟨_, _, _, rfl⟩, ih h⟩
    · split at h <;> cases h

private theorem results_of_promises {R : List (Value → Prop)} {elements : List Task}
    (hlength : R.length = elements.length)
    (h : ∀ Q t, (Q, t) ∈ R.zip elements → Promises x Q t) (hall : ∀ t ∈ elements, t.Succeeded) :
    List.Forall₂ (fun Q v => Q v) R (results elements) := by
  induction elements generalizing R with
  | nil =>
    obtain rfl := List.eq_nil_of_length_eq_zero hlength
    exact .nil
  | cons t rest ih =>
    cases R with
    | nil => cases hlength
    | cons Q R =>
      obtain ⟨v, heard, orphans, rfl⟩ := hall t List.mem_cons_self
      refine .cons (h Q _ List.mem_cons_self).result (ih (Nat.succ.inj hlength) ?_ ?_)
      · exact fun Q t hmem => h Q t (List.mem_cons_of_mem _ hmem)
      · exact fun t hmem => hall t (List.mem_cons_of_mem _ hmem)

private theorem yields_finish {R : List (Value → Prop)} {elements : List Task} {collection : Collection}
    {settled : Except Error Unit} (hlength : R.length = elements.length)
    (h : ∀ Q t, (Q, t) ∈ R.zip elements → Promises x Q t) (hall : settled = .ok () → ∀ t ∈ elements, t.Succeeded)
    (hbuild : ∀ vs, List.Forall₂ (fun Q v => Q v) R vs → P (Collection.build collection vs)) :
    (x.finish collection [] settled elements).Yields (Promises x P) := by
  cases settled with
  | error e => exact .pure (.ended nofun)
  | ok => exact yields_ended (.pure (hbuild _ (results_of_promises hlength h (hall rfl))))

private theorem succeeded_round {t : Task} (ht : t.Succeeded) : (x.round t).Yields Task.Succeeded := by
  obtain ⟨v, heard, orphans, rfl⟩ := ht
  rw [round]
  exact .bind fun _ => .pure ⟨_, _, _, rfl⟩

private theorem yields_roundAll {R : List (Value → Prop)} {elements : List Task} (hlength : R.length = elements.length)
    (h : ∀ Q t, (Q, t) ∈ R.zip elements → (x.round t).Yields (Promises x Q)) :
    (x.roundAll elements).Yields fun ts =>
      R.length = ts.length ∧ (∀ Q t, (Q, t) ∈ R.zip ts → Promises x Q t) ∧
        ((∀ t ∈ elements, t.Succeeded) → ∀ t ∈ ts, t.Succeeded) := by
  induction elements generalizing R with
  | nil =>
    rw [roundAll]
    exact .pure ⟨hlength, by simp [List.eq_nil_of_length_eq_zero hlength], fun _ => nofun⟩
  | cons t rest ih =>
    cases R with
    | nil => cases hlength
    | cons Q R =>
      have hrest := ih (Nat.succ.inj hlength) fun Q t hmem => h Q t (List.mem_cons_of_mem _ hmem)
      rw [roundAll]
      have hfirst : (x.round t).Yields fun t' => Promises x Q t' ∧ (t.Succeeded → t'.Succeeded) :=
        fun w t' w' ht' => ⟨h Q t List.mem_cons_self w t' w' ht', fun hs => succeeded_round hs w t' w' ht'⟩
      refine .bind_of hfirst fun t' ht' => .bind_of hrest fun ts hts => .pure ⟨?_, ?_, ?_⟩
      · simp [hts.1]
      · intro R u hmem
        rcases List.mem_cons.mp hmem with heq | hmem
        · obtain ⟨rfl, rfl⟩ := Prod.mk.inj heq
          exact ht'.1
        · exact hts.2.1 R u hmem
      · intro hall
        obtain ⟨hhead, htail⟩ := List.forall_mem_cons.mp hall
        exact List.forall_mem_cons.mpr ⟨ht'.2 hhead, hts.2.2 htail⟩

private theorem yields_round {t : Task} (h : Promises x P t) : (x.round t).Yields (Promises x P) := by
  induction h with
  | anything h => exact fun _ _ _ _ => .anything h
  | fresh h =>
    rw [round]
    exact h
  | ended h =>
    rw [round]
    exact .bind fun _ => .pure (.ended h)
  | @group P collection settled R elements hlength _ hsettled hbuild ih =>
    have hround := yields_roundAll hlength ih
    cases settled with
    | none =>
      rw [round]
      refine .bind_of hround fun ts hts => .pure ?_
      exact .group hts.1 hts.2.1 succeeded_of_settle hbuild
    | some settled =>
      rw [round]
      refine .bind_of hround fun ts hts => yields_finish hts.1 hts.2.1 (fun hok => ?_) hbuild
      subst hok
      exact hts.2.2 (hsettled rfl)

private theorem yields_complete (fuel : Nat) {t : Task} (h : Promises x P t) : (x.complete fuel t).Yields P := by
  induction fuel generalizing t with
  | zero => exact .throw _
  | succ fuel ih =>
    unfold complete
    split
    · exact .pure h.result
    · exact .bind fun _ => .throw _
    · exact .bind_of (yields_round h) fun t ht => ih ht

theorem expand_of_start {param v : Value} {w w' : World}
    (h : ∀ t w₁, x.start param w = .ok t w₁ → Promises x P t) (hv : x.expand param w = .ok v w') : P v := by
  unfold expand at hv
  rw [bind_ok (show Run.current param w = .ok (w.heap.current param) w from rfl)] at hv
  cases hstart : x.start param w with
  | ok t w₁ =>
    rw [bind_ok hstart] at hv
    exact yields_complete _ (h t w₁ hstart) w₁ v w' hv
  | error e w₁ =>
    rw [bind_error hstart] at hv
    cases hv

theorem yields_expand {param : Value} (h : Expands x P param) : (x.expand param).Yields P :=
  fun w _ _ hv => expand_of_start (h w) hv

/-! ## Parameters -/

theorem Expands.anything (param : Value) : Expands x (fun _ => True) param :=
  fun _ _ _ _ => .anything fun _ => trivial

theorem yields_gather {collection : Collection} {R : List (Value → Prop)} {params : List Value}
    (h : List.Forall₂ (fun Q param => Expands x Q param) R params)
    (hbuild : ∀ vs, List.Forall₂ (fun Q v => Q v) R vs → P (Collection.build collection vs)) :
    (x.gather collection [] params).Yields (Promises x P) := by
  unfold gather
  split
  · rename_i hempty
    obtain rfl := List.isEmpty_iff.mp hempty
    cases h
    exact yields_ended (.pure (hbuild [] .nil))
  · refine .pure (.group (R := R) (by simpa using h.length_eq) ?_ nofun hbuild)
    intro Q t hmem
    rw [List.zip_map_right] at hmem
    obtain ⟨⟨R, param⟩, hpair, heq⟩ := List.mem_map.mp hmem
    obtain ⟨rfl, rfl⟩ := Prod.mk.inj heq
    exact .fresh (List.forall₂_zip h hpair)

private theorem Expands.mono {P' : Value → Prop} {param : Value} (h : Expands x P param) (hp : ∀ v, P v → P' v) :
    Expands x P' param := fun w t w' ht => (h w t w' ht).mono hp

theorem Expands.text {v : Value} {s : String} (hv : v.text? = some s) (hs : Template.isTemplate s = false) :
    Expands x (· = .str s) v := by
  have hcurrent : (Run.current v).Yields (· = v) := by
    rintro w _ _ ⟨⟩
    exact w.heap.current_text hv
  have hrender : (Template.render x.app s x.vars).Yields (· = .str s) := by
    unfold Template.render
    simp only [hs, Bool.not_false, if_true]
    exact .pure rfl
  refine Yields.bind_of hcurrent fun v' hv' => ?_
  subst hv'
  cases v' with
  | str | markup =>
    obtain rfl := Option.some.inj hv
    exact yields_ended hrender
  | _ => cases hv

theorem Expands.keepsText (entry : Value × Value) (heaps : List Heap) :
    Expands x (Entries.KeepsText entry) (entry.2.after heaps) := by
  by_cases h : ∃ s, entry.2.text? = some s ∧ Template.isTemplate s = false
  · obtain ⟨s, hs, hplain⟩ := h
    rw [Value.after_text hs]
    refine (Expands.text hs hplain).mono fun v hv other hother _ => ?_
    obtain rfl := Option.some.inj (hs.symm.trans hother)
    exact hv
  · exact fun _ _ _ _ => .anything fun v s hs hplain => absurd ⟨s, hs, hplain⟩ h

/-- However shared objects change before it, an expansion gives a value with a property. -/
def Lasts (x : Expander) (P : Value → Prop) (param : Value) : Prop := ∀ heaps, Expands x P (param.after heaps)

theorem Lasts.expands {param : Value} (h : Lasts x P param) : Expands x P param := h []

def Expanded (entries : Entries) (v : Value) : Prop := ∃ out, v = .dict .anonymous out ∧ entries.Keeps out

theorem yields_gather_entries {Q : Value × Value → Value → Prop} {entries : Entries} {params : List Value}
    (h : List.Forall₂ (fun entry param => Expands x (Q entry) param) entries params) :
    (x.gather (.entries (entries.map (·.1))) [] params).Yields (Promises x fun v =>
      ∃ vs, List.Forall₂ Q entries vs ∧ v = Collection.build (.entries (entries.map (·.1))) vs) :=
  yields_gather (R := entries.map Q) (List.forall₂_map_left_iff.mpr h) fun vs hvs =>
    ⟨vs, (List.forall₂_map_left_iff (R := fun (Q : Value → Prop) v => Q v)).mp hvs, rfl⟩

theorem Lasts.mapping {Q : Value × Value → Value → Prop} {entries : Entries} (hexec : entries.hasName "exec" = false)
    (h : ∀ entry ∈ entries, Lasts x (Q entry) entry.2) :
    Lasts x (fun v => ∃ vs, List.Forall₂ Q entries vs ∧ v = Collection.build (.entries (entries.map (·.1))) vs)
      (.dict .anonymous entries) := by
  intro heaps
  rw [Value.after_dict]
  intro w t w' ht
  have hcurrent : Run.current (.dict .anonymous (entries.mapValues (Value.after heaps))) w =
      .ok (.dict .anonymous (entries.mapValues (Value.after (heaps ++ [w.heap])))) w := by
    change EStateM.Result.ok (w.heap.current _) w = _
    rw [w.heap.current_dict, Entries.mapValues_mapValues, Value.after_concat]
  unfold start at ht
  rw [bind_ok hcurrent] at ht
  unfold begin at ht
  simp only [Entries.hasName_mapValues, hexec, Bool.false_eq_true, if_false] at ht
  rw [Entries.map_fst_mapValues, Entries.map_snd_mapValues] at ht
  refine yields_gather_entries ?_ w t w' ht
  rw [List.forall₂_map_right_iff, List.forall₂_same]
  exact fun entry hentry => h entry hentry _

theorem Lasts.dict {entries : Entries} (hexec : entries.hasName "exec" = false) :
    Lasts x (Expanded entries) (.dict .anonymous entries) := by
  refine fun heaps => (Lasts.mapping hexec (fun entry _ => Expands.keepsText entry) heaps).mono ?_
  rintro _ ⟨vs, hvs, rfl⟩
  exact ⟨_, rfl, (Entries.keeps_zip hvs).filter⟩

theorem Lasts.dicts {list : List Entries} (hexec : ∀ entries ∈ list, entries.hasName "exec" = false) :
    Lasts x (fun v => ∃ outs, v = .list .anonymous outs ∧ List.Forall₂ Expanded list outs)
      (.ofList (list.map (.dict .anonymous))) := by
  intro heaps
  unfold Value.ofList
  rw [Value.after_list]
  intro w t w' ht
  have hcurrent : Run.current (.list .anonymous ((list.map (.dict .anonymous)).map (Value.after heaps))) w =
      .ok (.list .anonymous ((list.map (.dict .anonymous)).map (Value.after (heaps ++ [w.heap])))) w := by
    change EStateM.Result.ok (w.heap.current _) w = _
    rw [w.heap.current_list, List.map_map, Value.after_concat]
    rfl
  unfold start at ht
  rw [bind_ok hcurrent] at ht
  refine yields_gather (R := list.map Expanded) ?_ (fun vs hvs => ?_) w t w' ht
  · rw [List.map_map, List.forall₂_map_left_iff, List.forall₂_map_right_iff, List.forall₂_same]
    exact fun entries hmem => Lasts.dict (hexec entries hmem) _
  · exact ⟨vs, rfl, (List.forall₂_map_left_iff (R := fun (Q : Value → Prop) v => Q v)).mp hvs⟩

end Expander

end Colloquy
