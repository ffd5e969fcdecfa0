import Colloquy.Proofs.Run.Literal
import Colloquy.Proofs.Run.Works

/-!
# Fan-out of parameters

An expansion that runs in rounds does what the tree of its parameter says: every leaf is called once and every named
handler executed once, all with the same variables, and the value has the shape of the parameter. Between two rounds of
an element the other elements do their works, so everything is said of all worlds in which an invariant holds.
-/

namespace Colloquy

open Run

namespace Expander

variable {x : Expander} {I : World → Prop} {F : Prop} {w w' : World}

/-! ## Runs with their works -/

/-- Each work of a trace can happen, with its result, in a world of the invariant. -/
def Possible (x : Expander) (I : World → Prop) (trace : Trace) : Prop :=
  ∀ step ∈ trace, ∃ w w', I w ∧ x.perform step.1 w = .ok step.2 w'

private theorem possible_nil : Possible x I [] := nofun

private theorem Possible.append {trace more : Trace} (h : Possible x I trace) (h' : Possible x I more) :
    Possible x I (trace ++ more) := fun step hstep => (List.mem_append.mp hstep).elim (h step) (h' step)

/-- A work comes to an end in every world of the invariant and preserves it; where failures are allowed, it may fail. -/
def Returns (x : Expander) (I : World → Prop) (F : Prop) (work : Work) : Prop :=
  ∀ w, I w → (∃ v w', x.perform work w = .ok v w' ∧ I w') ∨ F ∧ ∃ e w', x.perform work w = .error e w'

section Attains

variable {α β : Type}

/-- From a world of the invariant, a run does nothing but works and gives a good result together with them. Where
failures are allowed, it may also fail or give a result that leads to a failure. -/
def Attains (x : Expander) (I : World → Prop) (F : Prop) (r : Run α) (Good : Trace → α → Prop) (Bad : α → Prop)
    (w : World) : Prop :=
  (∃ a trace w', r w = .ok a w' ∧ Happens x w trace w' ∧ Possible x I trace ∧ I w' ∧ Good trace a) ∨
    F ∧ ∀ a w', r w = .ok a w' → Bad a

variable {Good : Trace → α → Prop} {Bad : α → Prop}

theorem Attains.pure {a : α} (hw : I w) (h : Good [] a) : Attains x I F (Pure.pure a) Good Bad w :=
  .inl ⟨a, [], w, rfl, .nil, possible_nil, hw, h⟩

private theorem Attains.mono {r : Run α} {Good' : Trace → α → Prop} {Bad' : α → Prop} (h : Attains x I F r Good Bad w)
    (hgood : ∀ trace a, Good trace a → Good' trace a) (hbad : ∀ a, Bad a → Bad' a) : Attains x I F r Good' Bad' w :=
  h.imp (fun ⟨a, trace, w', hr, hhappens, hpossible, hw', ha⟩ =>
    ⟨a, trace, w', hr, hhappens, hpossible, hw', hgood trace a ha⟩)
    fun ⟨hF, h⟩ => ⟨hF, fun a w' ha => hbad a (h a w' ha)⟩

theorem Attains.bind {r : Run α} {f : α → Run β} {Good' : Trace → β → Prop} {Bad' : β → Prop}
    (h : Attains x I F r Good Bad w)
    (hgood : ∀ trace a, Good trace a → ∀ w', I w' →
      Attains x I F (f a) (fun more b => Good' (trace ++ more) b) Bad' w')
    (hbad : F → ∀ a, Bad a → (f a).Yields Bad') : Attains x I F (r >>= f) Good' Bad' w := by
  obtain ⟨a, trace, w₁, hr, hhappens, hpossible, hw₁, ha⟩ | ⟨hF, h⟩ := h
  · obtain ⟨b, more, w₂, hf, hhappens', hpossible', hw₂, hb⟩ | ⟨hF, h⟩ := hgood trace a ha w₁ hw₁
    · exact .inl ⟨b, trace ++ more, w₂, (bind_ok hr).trans hf, hhappens.append hhappens', hpossible.append hpossible',
        hw₂, hb⟩
    · exact .inr ⟨hF, fun b w₂ hb => h b w₂ ((bind_ok hr).symm.trans hb)⟩
  · refine .inr ⟨hF, fun b w₂ hb => ?_⟩
    obtain ⟨a, w₁, hr, hf⟩ := bind_eq_ok hb
    exact hbad hF a (h a w₁ hr) w₁ b w₂ hf

private theorem Attains.possible {r : Run α} (h : Attains x I F r Good Bad w) :
    Attains x I F r (fun trace a => Good trace a ∧ Possible x I trace) Bad w :=
  h.imp_left fun ⟨a, trace, w', ha, hhappens, hpossible, hw', hgood⟩ =>
    ⟨a, trace, w', ha, hhappens, hpossible, hw', hgood, hpossible⟩

private theorem Attains.and_yields {r : Run α} {P : α → Prop} (h : Attains x I F r Good Bad w) (hr : r.Yields P) :
    Attains x I F r (fun trace a => Good trace a ∧ P a) (fun a => Bad a ∧ P a) w :=
  h.imp (fun ⟨a, trace, w', ha, hhappens, hpossible, hw', hgood⟩ =>
    ⟨a, trace, w', ha, hhappens, hpossible, hw', hgood, hr w a w' ha⟩)
    fun ⟨hF, h⟩ => ⟨hF, fun a w' ha => ⟨h a w' ha, hr w a w' ha⟩⟩

end Attains

private theorem attains_perform {work : Work} (h : Returns x I F work) (hw : I w) :
    Attains x I F (x.perform work) (fun trace v => trace = [(work, v)]) (fun _ => False) w := by
  obtain ⟨v, w', hv, hw'⟩ | ⟨hF, e, w', he⟩ := h w hw
  · refine .inl ⟨v, _, w', hv, .cons hv .nil, fun step hstep => ?_, hw', rfl⟩
    obtain rfl := List.mem_singleton.mp hstep
    exact ⟨w, w', hw, hv⟩
  · refine .inr ⟨hF, fun v w' hv => ?_⟩
    cases he.symm.trans hv

private theorem returns_inversion (v : Value) : Returns x I F (.inversion v) := fun w hw =>
  .inl ⟨.bool !(w.heap.current v).truthy, w, rfl, hw⟩

/-! ## Rounds -/

/-- A task that cannot end well. -/
inductive Doomed : Task → Prop where
  | ended {e : Error} {heard : Bool} {orphans : List Task} : Doomed (.ended (.error e) heard orphans)
  | group {collection : Collection} {after : List Expansion} {settled : Option (Except Error Unit)}
      {elements : List Task} {t : Task} (hmem : t ∈ elements) (ht : Doomed t) (hsettled : settled ≠ some (.ok ())) :
      Doomed (.group collection after settled elements)

private theorem Doomed.not_succeeded {t : Task} (h : Doomed t) : ¬ t.Succeeded := by
  rintro ⟨v, heard, orphans, rfl⟩
  cases h

private theorem Doomed.roundAll {t : Task} {ts : List Task} (hmem : t ∈ ts) (h : (x.round t).Yields Doomed) :
    (x.roundAll ts).Yields fun ts' => ∃ t ∈ ts', Doomed t := by
  induction ts with
  | nil => cases hmem
  | cons first rest ih =>
    rw [Expander.roundAll]
    obtain rfl | hmem := List.mem_cons.mp hmem
    · exact .bind_of h fun t' ht' => .bind fun ts' => .pure ⟨t', List.mem_cons_self, ht'⟩
    · refine .bind fun t' => .bind_of (ih hmem) fun ts' hts' => ?_
      obtain ⟨t, ht, hdoomed⟩ := hts'
      exact .pure ⟨t, List.mem_cons_of_mem _ ht, hdoomed⟩

private theorem Doomed.round {t : Task} (h : Doomed t) : (x.round t).Yields Doomed := by
  induction h with
  | ended =>
    rw [Expander.round]
    exact .bind fun _ => .pure .ended
  | @group collection after settled elements t hmem ht hsettled ih =>
    have hall := Doomed.roundAll hmem ih
    cases settled with
    | none =>
      rw [Expander.round]
      refine .bind_of hall fun ts hts => ?_
      obtain ⟨t, hmem, ht⟩ := hts
      exact .pure (.group hmem ht fun hok => ht.not_succeeded (succeeded_of_settle hok t hmem))
    | some settled =>
      rw [Expander.round]
      refine .bind fun ts => ?_
      cases settled with
      | error e => exact .pure .ended
      | ok => exact absurd rfl hsettled

theorem Doomed.complete (fuel : Nat) {t : Task} (h : Doomed t) : (x.complete fuel t).Yields fun _ => False := by
  induction fuel generalizing t with
  | zero => exact .throw _
  | succ fuel ih =>
    unfold Expander.complete
    split
    · cases h
    · exact .bind fun _ => .throw _
    · exact .bind_of h.round fun t' ht' => ih ht'

def isGoing : Task → Bool
  | .ended .. => false
  | _ => true

/-- After some rounds at most a task ends well with a result that is good together with all works done for it, those in
`done` included. Between two rounds the world changes within the invariant. -/
def Leads (x : Expander) (I : World → Prop) (F : Prop) (P : Trace → Value → Prop) : Nat → Trace → Task → Prop
  | 0, done, t => ∃ v heard, t = .ended (.ok v) heard [] ∧ P done v
  | n + 1, done, t => (∃ v heard, t = .ended (.ok v) heard [] ∧ P done v) ∨
      isGoing t = true ∧ ∀ w, I w →
        Attains x I F (x.round t) (fun more t' => Leads x I F P n (done ++ more) t') Doomed w

variable {P : Trace → Value → Prop} {n : Nat} {done : Trace} {t : Task}

private theorem Leads.ended {v : Value} {heard : Bool} (h : P done v) (n : Nat) :
    Leads x I F P n done (.ended (.ok v) heard []) := by
  cases n with
  | zero => exact ⟨v, heard, rfl, h⟩
  | succ n => exact .inl ⟨v, heard, rfl, h⟩

private theorem Leads.mono {k : Nat} (h : Leads x I F P n done t) (hle : n ≤ k) : Leads x I F P k done t := by
  induction n generalizing k done t with
  | zero =>
    obtain ⟨v, heard, rfl, hv⟩ := h
    exact .ended hv k
  | succ n ih =>
    obtain ⟨v, heard, rfl, hv⟩ | ⟨hgoing, h⟩ := h
    · exact .ended hv k
    · obtain ⟨k, rfl⟩ := Nat.exists_eq_add_of_le' (Nat.le_of_add_left_le hle)
      exact .inr ⟨hgoing, fun w hw =>
        (h w hw).mono (fun more t' ht' => ih ht' (Nat.le_of_succ_le_succ hle)) fun _ => id⟩

private theorem Attains.leads_mono {r : Run Task} {k : Nat}
    (h : Attains x I F r (fun more t => Leads x I F P n (done ++ more) t) Doomed w) (hle : n ≤ k) :
    Attains x I F r (fun more t => Leads x I F P k (done ++ more) t) Doomed w :=
  h.mono (fun _ _ ht => ht.mono hle) fun _ => id

private theorem Leads.next (h : Leads x I F P (n + 1) done t) (hw : I w) :
    Attains x I F (x.round t) (fun more t' => Leads x I F P n (done ++ more) t') Doomed w := by
  obtain ⟨v, heard, rfl, hv⟩ | ⟨-, h⟩ := h
  · have hround : x.round (.ended (.ok v) heard []) = pure (.ended (.ok v) true []) := by
      rw [Expander.round, roundAll]
      rfl
    rw [hround]
    exact .pure hw (.ended (by simpa using hv) n)
  · exact h w hw

private theorem Leads.result {result : Except Error Value} {heard : Bool} {orphans : List Task}
    (h : Leads x I F P n done (.ended result heard orphans)) : ∃ v, result = .ok v ∧ P done v := by
  cases n with
  | zero =>
    obtain ⟨v, heard, heq, hv⟩ := h
    exact ⟨v, (Task.ended.inj heq).1, hv⟩
  | succ n =>
    obtain ⟨v, heard, heq, hv⟩ | ⟨hgoing, -⟩ := h
    · exact ⟨v, (Task.ended.inj heq).1, hv⟩
    · cases hgoing

theorem Leads.complete {fuel : Nat} (h : Leads x I F P n done t) (hfuel : n < fuel) (hw : I w) :
    Attains x I F (x.complete fuel t) (fun more v => P (done ++ more) v) (fun _ => False) w := by
  induction n generalizing fuel done t w with
  | zero =>
    obtain ⟨fuel, rfl⟩ := Nat.exists_eq_add_of_le' hfuel
    obtain ⟨v, heard, rfl, hv⟩ := h
    exact .pure hw (by simpa using hv)
  | succ n ih =>
    obtain ⟨fuel, rfl⟩ := Nat.exists_eq_add_of_le' (Nat.zero_lt_of_lt hfuel)
    have hround := h.next hw
    obtain ⟨v, heard, rfl, hv⟩ | ⟨hgoing, -⟩ := h
    · exact .pure hw (by simpa using hv)
    · have hcomplete : x.complete (fuel + 1) t = x.round t >>= x.complete fuel := by
        cases t with
        | ended => cases hgoing
        | fresh | group => rfl
      rw [hcomplete]
      refine hround.bind (fun more t' ht' w' hw' => ?_) fun _ t' ht' => ht'.complete fuel
      have hrest := ih ht' (Nat.lt_of_succ_lt_succ hfuel) hw'
      exact hrest.mono (fun more' v hv => by rwa [← List.append_assoc]) fun _ => id

/-! ## Collections -/

/-- What the expansion of a parameter gives, by works that are possible. -/
def Yielded (x : Expander) (I : World → Prop) (param : Value) (trace : Trace) (v : Value) : Prop :=
  Fanned param trace v ∧ Possible x I trace

/-- Each element of a collection ends well, with its own share of the works that were done so far. -/
inductive LeadsAll (x : Expander) (I : World → Prop) (F : Prop) (n : Nat) : List Value → Trace → List Task → Prop where
  | nil : LeadsAll x I F n [] [] []
  | cons {param : Value} {params : List Value} {own others done : Trace} {t : Task} {ts : List Task}
      (h : Leads x I F (Yielded x I param) n own t) (hrest : LeadsAll x I F n params others ts)
      (hdone : Interleaved own others done) : LeadsAll x I F n (param :: params) done (t :: ts)

variable {params : List Value} {ts : List Task}

private theorem LeadsAll.mono {k : Nat} (h : LeadsAll x I F n params done ts) (hle : n ≤ k) :
    LeadsAll x I F k params done ts := by
  induction h with
  | nil => exact .nil
  | cons h _ hdone ih => exact .cons (h.mono hle) ih hdone

private theorem leadsAll_fresh (h : ∀ param ∈ params, Leads x I F (Yielded x I param) n [] (.fresh param)) :
    LeadsAll x I F n params [] (params.map Task.fresh) := by
  induction params with
  | nil => exact .nil
  | cons param rest ih =>
    obtain ⟨hfirst, hrest⟩ := List.forall_mem_cons.mp h
    exact .cons hfirst (ih hrest) .nil

private theorem LeadsAll.next (h : LeadsAll x I F (n + 1) params done ts) (hw : I w) :
    Attains x I F (x.roundAll ts) (fun more ts' => LeadsAll x I F n params (done ++ more) ts')
      (fun ts' => ∃ t ∈ ts', Doomed t) w := by
  induction h generalizing w with
  | nil =>
    rw [roundAll]
    exact .pure hw .nil
  | cons h _ hdone ih =>
    rw [roundAll]
    refine (h.next hw).bind (fun more t' ht' w₁ hw₁ => ?_) fun _ t' ht' =>
      .bind fun ts' => .pure ⟨t', List.mem_cons_self, ht'⟩
    refine (ih hw₁).bind (fun more' ts' hts' w₂ hw₂ => ?_) fun _ ts' hts' => ?_
    · exact .pure hw₂ (.cons ht' hts' (by simpa using hdone.append (.concat more more')))
    · obtain ⟨t, hmem, ht⟩ := hts'
      exact .pure ⟨t, List.mem_cons_of_mem _ hmem, ht⟩

private theorem LeadsAll.settle (h : LeadsAll x I F n params done ts) : settle ts = none ∨ settle ts = some
    (.ok ()) := by
  refine settle_of_unfailed ?_
  induction h with
  | nil => nofun
  | cons h _ _ ih =>
    refine List.forall_mem_cons.mpr ⟨?_, ih⟩
    rintro e heard orphans rfl
    obtain ⟨v, hv, -⟩ := h.result
    cases hv

private theorem LeadsAll.succeeded (h : LeadsAll x I F 0 params done ts) : ∀ t ∈ ts, t.Succeeded := by
  induction h with
  | nil => nofun
  | cons h _ _ ih =>
    obtain ⟨v, heard, rfl, -⟩ := h
    exact List.forall_mem_cons.mpr ⟨⟨_, _, _, rfl⟩, ih⟩

private theorem LeadsAll.results (h : LeadsAll x I F n params done ts) (hall : ∀ t ∈ ts, t.Succeeded) :
    FannedAll params done (results ts) ∧ Possible x I done := by
  induction h with
  | nil => exact ⟨.nil, possible_nil⟩
  | cons h _ hdone ih =>
    obtain ⟨⟨v, heard, orphans, rfl⟩, hrest⟩ := List.forall_mem_cons.mp hall
    obtain ⟨v, hv, hfanned, hpossible⟩ := h.result
    obtain rfl := Except.ok.inj hv
    obtain ⟨hall, hothers⟩ := ih hrest
    exact ⟨.cons hfanned hall hdone, fun step hstep => (hdone.mem_iff.mp hstep).elim (hpossible step) (hothers step)⟩

/-- Where an expanded value comes to once the rest is done with it. -/
def Continues (x : Expander) (I : World → Prop) (F : Prop) (P Q : Trace → Value → Prop) (after : List Expansion) :
    Prop :=
  ∀ trace v, Q trace v → ∀ w, I w →
    Attains x I F (x.resume v after) (fun more u => P (trace ++ more) u) (fun _ => False) w

theorem continues_nil : Continues x I F P P [] := fun _ _ hv _ hw => .pure hw (by simpa using hv)

variable {after : List Expansion} {Q : Trace → Value → Prop}

private theorem Continues.shift (h : Continues x I F P Q after) (before : Trace) :
    Continues x I F (fun trace u => P (before ++ trace) u) (fun trace v => Q (before ++ trace) v) after :=
  fun trace v hv w hw => (h (before ++ trace) v hv w hw).mono (fun more u hu => by simpa using hu) fun _ => id

private theorem attains_ended {r : Run Value} (hr : Attains x I F r Q (fun _ => False) w)
    (h : Continues x I F P Q after) :
    Attains x I F (x.ended after r) (fun more t => Leads x I F P 0 more t) Doomed w := by
  have hall : Attains x I F (do x.resume (← r) after) P (fun _ => False) w :=
    hr.bind (fun trace v hv w' hw' => h trace v hv w' hw') fun _ _ h => h.elim
  unfold Expander.ended
  obtain ⟨v, trace, w', hv, hhappens, hpossible, hw', hgood⟩ | ⟨hF, hfails⟩ := hall
  · have houtcome : outcome (do x.resume (← r) after) w = .ok (.ok v) w' := by
      unfold outcome
      rw [hv]
    exact .inl ⟨_, trace, w', bind_ok houtcome, hhappens, hpossible, hw', .ended hgood 0⟩
  · refine .inr ⟨hF, fun t w' ht => ?_⟩
    obtain ⟨result, w₁, hresult, ht⟩ := bind_eq_ok ht
    unfold outcome at hresult
    cases hrun : (do x.resume (← r) after : Run Value) w with
    | ok v w₂ => exact (hfails v w₂ hrun).elim
    | error e w₂ =>
      rw [hrun] at hresult
      cases hresult
      cases ht
      exact .ended

def Built (x : Expander) (I : World → Prop) (collection : Collection) (params : List Value) (trace : Trace)
    (v : Value) : Prop :=
  ∃ vs, FannedAll params trace vs ∧ Possible x I trace ∧ v = Collection.build collection vs

variable {collection : Collection}

private theorem leads_settled (h : LeadsAll x I F n params done ts) (hall : ∀ t ∈ ts, t.Succeeded)
    (hafter : Continues x I F P (Built x I collection params) after) :
    Leads x I F P 1 done (.group collection after (some (.ok ())) ts) := by
  refine .inr ⟨rfl, fun w hw => ?_⟩
  have hround := ((h.mono (Nat.le_succ n)).next hw).and_yields (succeeded_roundAll hall)
  rw [Expander.round]
  refine hround.bind (fun more ts' hts' w' hw' => ?_) fun _ ts' hts' => ?_
  · obtain ⟨hleads, hended, -⟩ := hts'
    obtain ⟨hfanned, hpossible⟩ := hleads.results hended
    have hbuilt : Attains x I F (pure (Collection.build collection (results ts')))
        (fun more' v => Built x I collection params ((done ++ more) ++ more') v) (fun _ => False) w' :=
      .pure hw' ⟨_, by simpa using hfanned, by simpa using hpossible, rfl⟩
    refine (attains_ended hbuilt (hafter.shift (done ++ more))).mono (fun more' t' ht' => ?_) fun _ => id
    obtain ⟨v, heard, rfl, hv⟩ := ht'
    exact ⟨v, heard, rfl, by simpa using hv⟩
  · obtain ⟨⟨t, hmem, ht⟩, hended, -⟩ := hts'
    exact absurd (hended t hmem) ht.not_succeeded

private theorem attains_unsettled {Mid : Trace → List Task → Prop}
    (h : Attains x I F (x.roundAll ts) Mid (fun ts' => ∃ t ∈ ts', Doomed t) w)
    (hnext : ∀ more ts', Mid more ts' → Leads x I F P n (done ++ more) (.group collection after (settle ts') ts')) :
    Attains x I F (x.round (.group collection after none ts)) (fun more t' => Leads x I F P n (done ++ more) t')
      Doomed w := by
  rw [Expander.round]
  refine h.bind (fun more ts' hts' w' hw' => .pure hw' (by simpa using hnext more ts' hts')) fun _ ts' hts' => ?_
  obtain ⟨t, hmem, ht⟩ := hts'
  exact .pure (.group hmem ht fun hok => ht.not_succeeded (succeeded_of_settle hok t hmem))

private theorem leads_group (h : LeadsAll x I F n params done ts)
    (hafter : Continues x I F P (Built x I collection params) after) :
    Leads x I F P (n + 2) done (.group collection after none ts) := by
  induction n generalizing done ts with
  | zero =>
    refine .inr ⟨rfl, fun w hw => ?_⟩
    have hround := ((h.mono (Nat.le_succ 0)).next hw).and_yields (succeeded_roundAll h.succeeded)
    refine attains_unsettled (hround.mono (fun _ _ h => h) fun _ h => h.1) fun more ts' hts' => ?_
    obtain ⟨hleads, hended, hsettle⟩ := hts'
    rw [hsettle]
    exact leads_settled hleads hended hafter
  | succ n ih =>
    refine .inr ⟨rfl, fun w hw => attains_unsettled (h.next hw) fun more ts' hts' => ?_⟩
    obtain hsettle | hsettle := hts'.settle
    · rw [hsettle]
      exact ih hts'
    · rw [hsettle]
      exact (leads_settled hts' (succeeded_of_settle hsettle) hafter).mono (Nat.le_add_left 1 _)

private theorem attains_gather {k : Nat} (h : ∀ param ∈ params, Leads x I F (Yielded x I param) n [] (.fresh param))
    (hk : params ≠ [] → n + 2 ≤ k) (hafter : Continues x I F P (Built x I collection params) after) (hw : I w) :
    Attains x I F (x.gather collection after params) (fun more t => Leads x I F P k more t) Doomed w := by
  unfold gather
  split
  · rename_i hempty
    obtain rfl := List.isEmpty_iff.mp hempty
    have hbuilt : Attains x I F (pure (Collection.build collection [])) (Built x I collection [])
        (fun _ => False) w := .pure hw ⟨[], .nil, possible_nil, rfl⟩
    exact (attains_ended hbuilt hafter).mono (fun _ _ ht => ht.mono (Nat.zero_le _)) fun _ => id
  · rename_i hne
    exact .pure hw ((leads_group (leadsAll_fresh h) hafter).mono (hk fun hnil => hne (List.isEmpty_iff.mpr hnil)))

/-! ## Parameters -/

/-- Works that can come up in the expansion of a parameter. -/
inductive Arises (x : Expander) (I : World → Prop) (param : Value) : Work → Prop where
  | text {part : Value} {s : String} (hpart : PartOf param part) (hs : part.text? = some s) : Arises x I param (.text s)
  | handler {fn : Value} (hpart : PartOf param fn) (h : calls fn = true) : Arises x I param (.handler fn)
  | bare {id : Identity} {entries : Entries} {name args : Value} {s : String} (hpart : PartOf param (.dict id entries))
      (htarget : Executes entries name args) (hname : name.text? = some s) (hargs : args.isNone = true) :
      Arises x I param (.named s none)
  | overlaid {id : Identity} {entries : Entries} {name args own : Value} {s : String} {trace : Trace}
      (hpart : PartOf param (.dict id entries)) (htarget : Executes entries name args) (hname : name.text? = some s)
      (hargs : args.isNone = false) (h : Fanned args trace own) (hpossible : Possible x I trace) :
      Arises x I param (.named s (some own))

/-- In all worlds of an invariant a parameter is as it was written, and what its expansion asks for comes to an end. -/
structure Manages (x : Expander) (I : World → Prop) (F : Prop) (param : Value) : Prop where
  kept : ∀ part, PartOf param part → ∀ w, I w → w.heap.current part = part
  names : ∀ id entries name args, PartOf param (.dict id entries) → Executes entries name args →
    name.text?.isSome = true ∨ F
  returns : ∀ work, Arises x I param work → Returns x I F work

variable {param own : Value}

theorem Arises.of_holds {work : Work} (h : Arises x I own work) (hpart : Holds param own) :
    Arises x I param work := by
  cases h with
  | text hown hs => exact .text (.head hpart hown) hs
  | handler hown h => exact .handler (.head hpart hown) h
  | bare hown htarget hname hargs => exact .bare (.head hpart hown) htarget hname hargs
  | overlaid hown htarget hname hargs h hpossible =>
    exact .overlaid (.head hpart hown) htarget hname hargs h hpossible

private theorem Manages.of_holds (h : Manages x I F param) (hpart : Holds param own) : Manages x I F own where
  kept _ hown := h.kept _ (.head hpart hown)
  names id entries name args hown := h.names id entries name args (.head hpart hown)
  returns work hwork := h.returns work (hwork.of_holds hpart)

private theorem rounds_le (param : Value) : rounds param ≤ 3 * param.size + 3 := by
  fun_induction rounds param with
  | case1 param ih =>
    rw [Value.size]
    omega
  | case2 param => exact Nat.le_refl _

private theorem Continues.of_imp {Q' : Trace → Value → Prop} (h : Continues x I F P Q after)
    (hq : ∀ trace v, Q' trace v → Q trace v) : Continues x I F P Q' after :=
  fun trace v hv => h trace v (hq trace v hv)

private theorem Continues.work {expansion : Expansion} {work : Value → Work}
    (hresume : ∀ v, x.resume v (expansion :: after) = x.perform (work v) >>= fun u => x.resume u after)
    (hreturns : ∀ trace v, Yielded x I own trace v → Returns x I F (work v))
    (hfanned : ∀ trace v u, Fanned own trace v → Fanned param (trace ++ [(work v, u)]) u)
    (hafter : Continues x I F P (Yielded x I param) after) :
    Continues x I F P (Yielded x I own) (expansion :: after) := by
  intro trace v hv w hw
  rw [hresume]
  refine (attains_perform (hreturns trace v hv) hw).possible.bind (fun more u hu w' hw' => ?_) fun _ _ h => h.elim
  obtain ⟨rfl, hpossible⟩ := hu
  refine (hafter _ u ⟨hfanned trace v u hv.1, hv.2.append hpossible⟩ w' hw').mono (fun more' b hb => ?_) fun _ => id
  rwa [← List.append_assoc]

private theorem attains_ended_perform {work : Work} (hwork : Returns x I F work)
    (hfanned : ∀ v, Fanned param [(work, v)] v) (hafter : Continues x I F P (Yielded x I param) after) (hw : I w) :
    Attains x I F (x.ended after (x.perform work)) (fun more t => Leads x I F P 0 more t) Doomed w := by
  refine attains_ended ((attains_perform hwork hw).possible.mono (fun trace v hv => ?_) fun _ => id) hafter
  obtain ⟨rfl, hpossible⟩ := hv
  exact ⟨hfanned v, hpossible⟩

/-- Wherever the expansion of a parameter begins, it goes on as its tree says. -/
def Begins (x : Expander) (I : World → Prop) (F : Prop) (param : Value) : Prop :=
  ∀ fuel after P w, param.size < fuel → Continues x I F P (Yielded x I param) after → I w →
    Attains x I F (x.begin fuel after param) (fun more t => Leads x I F P (rounds param - 6) ([] ++ more) t) Doomed w

private theorem Begins.fresh (h : Begins x I F param) (hkept : ∀ w, I w → w.heap.current param = param) :
    Leads x I F (Yielded x I param) (rounds param - 6 + 1) [] (.fresh param) := by
  refine .inr ⟨rfl, fun w hw => ?_⟩
  have hstart : x.round (.fresh param) w = x.begin (param.size + 1) [] param w := by
    rw [Expander.round, start, bind_ok (current_eq param w), hkept w hw]
  unfold Attains
  rw [hstart]
  exact h _ [] _ w (Nat.lt_succ_self _) continues_nil hw

theorem attains_elements (hparams : ∀ param ∈ params, Begins x I F param)
    (hkept : ∀ param ∈ params, ∀ w, I w → w.heap.current param = param)
    (hafter : Continues x I F P (Built x I collection params) after) (hw : I w) :
    Attains x I F (x.gather collection after params)
      (fun more t => Leads x I F P (3 * Value.sizeAll params) ([] ++ more) t) Doomed w := by
  refine attains_gather (n := 3 * Value.sizeAll params - 2) (fun param hmem => ?_) (fun hne => ?_) hafter hw
  · refine ((hparams param hmem).fresh (hkept param hmem)).mono ?_
    have hsize := Value.size_le_sizeAll hmem
    have hrounds := rounds_le param
    have hpos := param.size_pos
    omega
  · obtain ⟨param, hmem⟩ := List.exists_mem_of_ne_nil params hne
    have hsize := Value.size_le_sizeAll hmem
    have hpos := param.size_pos
    omega

private theorem resume_inversion (v : Value) :
    x.resume v (.negate :: after) = x.perform (.inversion v) >>= fun u => x.resume u after := by
  simp only [resume, perform, bind_assoc, pure_bind]

private theorem resume_named (v : Value) (name : String) :
    x.resume v (.execute name :: after) = x.perform (.named name (some v)) >>= fun u => x.resume u after := by
  simp only [resume, perform, bind_assoc]

private theorem Begins.negated (h : Begins x I F own) : Begins x I F (.negated own) := by
  intro fuel after P w hfuel hafter hw
  obtain ⟨fuel, rfl⟩ := Nat.exists_eq_add_of_le' (Nat.zero_lt_of_lt hfuel)
  have hsize : own.size < (Value.negated own).size := Value.size_lt_of_holds .negated
  have hcontinues := hafter.work resume_inversion (fun _ v _ => returns_inversion v) fun _ _ _ hv => .negated hv
  exact h fuel _ P w (by omega) hcontinues hw

private theorem begin_exec (fuel : Nat) (id : Identity) {entries : Entries} (hexec : entries.hasName "exec" = true) :
    x.begin (fuel + 1) after (.dict id entries) = match (execTarget entries).1.text? with
      | none => x.ended after (throw (.undefinedHandler (execTarget entries).1.repr))
      | some s =>
        if (execTarget entries).2.isNone then x.ended after (x.perform (.named s none))
        else x.begin fuel (.execute s :: after) (execTarget entries).2 := by
  rw [begin, if_pos hexec]
  rfl

private theorem Begins.exec {id : Identity} {entries : Entries} (h : Manages x I F (.dict id entries))
    (hexec : entries.hasName "exec" = true) (hargs : ∀ own, Holds (.dict id entries) own → Begins x I F own) :
    Begins x I F (.dict id entries) := by
  intro fuel after P w hfuel hafter hw
  obtain ⟨fuel, rfl⟩ := Nat.exists_eq_add_of_le' (Nat.zero_lt_of_lt hfuel)
  have htarget := executes_execTarget hexec
  rw [begin_exec fuel id hexec]
  cases hname : (execTarget entries).1.text? with
  | none =>
    obtain hsome | hF := h.names id entries _ _ .refl htarget
    · rw [hname] at hsome
      cases hsome
    · have hfails : Attains x I F (throw (.undefinedHandler (execTarget entries).1.repr))
          (Yielded x I (.dict id entries)) (fun _ => False) w := .inr ⟨hF, nofun⟩
      exact (attains_ended hfails hafter).leads_mono (Nat.zero_le _)
  | some s =>
    dsimp only
    cases hnone : (execTarget entries).2.isNone with
    | true =>
      exact (attains_ended_perform (h.returns _ (.bare .refl htarget hname hnone))
        (fun v => .bare htarget hname hnone) hafter hw).leads_mono (Nat.zero_le _)
    | false =>
      have hpart : Holds (.dict id entries) (execTarget entries).2 := .args htarget hnone
      have hsize := Value.size_lt_of_holds hpart
      have hrounds := rounds_le (execTarget entries).2
      have hcontinues := hafter.work (resume_named · s)
        (fun trace own hown => h.returns _ (.overlaid .refl htarget hname hnone hown.1 hown.2))
        fun trace own v hown => .overlaid htarget hname hnone hown
      refine (hargs _ hpart fuel _ P w (by omega) hcontinues hw).leads_mono ?_
      change _ ≤ 3 * (Value.dict id entries).size + 3 - 6
      omega

private theorem Begins.mapping {id : Identity} {entries : Entries} (h : Manages x I F (.dict id entries))
    (hexec : entries.hasName "exec" = false) (hparts : ∀ own, Holds (.dict id entries) own → Begins x I F own) :
    Begins x I F (.dict id entries) := by
  intro fuel after P w hfuel hafter hw
  obtain ⟨fuel, rfl⟩ := Nat.exists_eq_add_of_le' (Nat.zero_lt_of_lt hfuel)
  have hholds : ∀ own ∈ entries.map (·.2), Holds (.dict id entries) own := by
    rw [List.forall_mem_map]
    exact fun e he => .entry hexec he
  have hbuilt : Continues x I F P (Built x I (.entries (entries.map (·.1))) (entries.map (·.2))) after :=
    hafter.of_imp fun trace v hv => by
      obtain ⟨vs, hvs, hpossible, rfl⟩ := hv
      exact ⟨.dict hexec hvs, hpossible⟩
  have hbegin : x.begin (fuel + 1) after (.dict id entries) =
      x.gather (.entries (entries.map (·.1))) after (entries.map (·.2)) := by
    rw [begin, hexec]
    rfl
  rw [hbegin]
  refine (attains_elements (fun own hmem => hparts own (hholds own hmem))
    (fun own hmem => h.kept own (.single (hholds own hmem))) hbuilt hw).leads_mono ?_
  change _ ≤ 3 * (Value.dict id entries).size + 3 - 6
  rw [Value.size, Value.sizeEntries_eq]
  omega

private theorem Begins.items {items : List Value} (h : Manages x I F param)
    (hholds : ∀ own ∈ items, Holds param own) (hparts : ∀ own, Holds param own → Begins x I F own)
    (hfanned : ∀ trace vs, FannedAll items trace vs → Fanned param trace (.ofList vs))
    (hrounds : rounds param = 3 * (1 + Value.sizeAll items) + 3)
    (hbegin : ∀ fuel after, x.begin (fuel + 1) after param = x.gather .items after items) : Begins x I F param := by
  intro fuel after P w hfuel hafter hw
  obtain ⟨fuel, rfl⟩ := Nat.exists_eq_add_of_le' (Nat.zero_lt_of_lt hfuel)
  have hbuilt : Continues x I F P (Built x I .items items) after := hafter.of_imp fun trace v hv => by
    obtain ⟨vs, hvs, hpossible, rfl⟩ := hv
    exact ⟨hfanned trace vs hvs, hpossible⟩
  rw [hbegin]
  refine (attains_elements (fun own hmem => hparts own (hholds own hmem))
    (fun own hmem => h.kept own (.single (hholds own hmem))) hbuilt hw).leads_mono ?_
  omega

private theorem Begins.plain (h : Manages x I F param)
    (hbegin : ∀ fuel after, x.begin (fuel + 1) after param = match param.text? with
      | some s => x.ended after (Template.render x.app s x.vars)
      | none => if calls param then x.ended after (callHandler x.app param x.vars x.session x.path)
        else x.ended after (pure param))
    (hleaf : param.text? = none → calls param = false → param.isLeaf = true) : Begins x I F param := by
  intro fuel after P w hfuel hafter hw
  obtain ⟨fuel, rfl⟩ := Nat.exists_eq_add_of_le' (Nat.zero_lt_of_lt hfuel)
  refine Attains.leads_mono (n := 0) ?_ (Nat.zero_le _)
  rw [hbegin]
  cases hs : param.text? with
  | some s => exact attains_ended_perform (h.returns _ (.text .refl hs)) (fun _ => .text hs) hafter hw
  | none =>
    cases hcalls : calls param with
    | true => exact attains_ended_perform (h.returns _ (.handler .refl hcalls)) (fun _ => .handler hcalls) hafter hw
    | false => exact attains_ended (.pure hw ⟨.leaf (hleaf hs hcalls), possible_nil⟩) hafter

theorem Manages.begins (h : Manages x I F param) : Begins x I F param := by
  induction hn : param.size using Nat.strongRecOn generalizing param with
  | _ n ih =>
    subst hn
    have hparts (own : Value) (hpart : Holds param own) : Begins x I F own :=
      ih _ (Value.size_lt_of_holds hpart) (h.of_holds hpart) rfl
    cases param with
    | negated own => exact (hparts own .negated).negated
    | list id items => exact .items h (fun _ => .item) hparts (fun _ _ => .list) rfl fun _ _ => rfl
    | tuple items => exact .items h (fun _ => .member) hparts (fun _ _ => .tuple) rfl fun _ _ => rfl
    | dict id entries =>
      cases hexec : Entries.hasName entries "exec" with
      | false => exact .mapping h hexec hparts
      | true => exact .exec h hexec hparts
    | str | markup => exact .plain h (fun _ _ => rfl) nofun
    | _ =>
      refine .plain h (fun _ _ => rfl) fun _ hcalls => ?_
      simp only [Value.isLeaf, hcalls, Value.text?]
      rfl

theorem expand_eq (x : Expander) (param : Value) (w : World) : x.expand param w =
    (x.begin ((w.heap.current param).size + 1) [] (w.heap.current param) >>=
      x.complete (rounds (w.heap.current param))) w := by
  rw [expand, bind_ok (current_eq param w), start]
  simp only [bind_assoc]
  rw [bind_ok (current_eq param w)]

/-- An expansion of a parameter that is managed gives what its tree says. -/
theorem attains_expand (h : Manages x I F param) (hw : I w) :
    Attains x I F (x.expand param) (Yielded x I param) (fun _ => False) w := by
  have hstart : x.expand param w = (x.begin (param.size + 1) [] param >>= x.complete (rounds param)) w := by
    rw [expand_eq, h.kept param .refl w hw]
  unfold Attains
  rw [hstart]
  refine (h.begins _ [] _ w (Nat.lt_succ_self _) continues_nil hw).bind (fun more t ht w' hw' => ?_) fun _ t ht =>
    ht.complete _
  have hrounds := le_rounds param
  exact ht.complete (by omega) hw'

/-! ## Handlers run once -/

/-- An expansion does exactly the works of the tree of its parameter: it calls every leaf that can be called, renders
every text and executes every named handler once, all with the same variables, session and path, and gives a value of
the shape of the parameter. Nothing that a handler gives is expanded again. All handlers and templates come to an end,
named handlers with the arguments that come up, and nothing changes the parameter itself in the meantime. -/
theorem each_handler_runs_once (x : Expander) {param : Value} {I : World → Prop} {w : World} (hw : I w)
    (hkept : ∀ part, PartOf param part → ∀ w, I w → w.heap.current part = part)
    (hnames : ∀ id entries name args, PartOf param (.dict id entries) → Executes entries name args →
      name.text?.isSome = true)
    (hreturns : ∀ work, Arises x I param work → ∀ w, I w → ∃ v w', x.perform work w = .ok v w' ∧ I w') :
    ∃ v trace w', x.expand param w = .ok v w' ∧ Happens x w trace w' ∧ Fanned param trace v := by
  have hmanages : Manages x I False param := {
    kept := hkept
    names := fun id entries name args hpart htarget => .inl (hnames id entries name args hpart htarget)
    returns := fun work hwork w hw => .inl (hreturns work hwork w hw) }
  obtain ⟨v, trace, w', hv, hhappens, -, -, hfanned, -⟩ | ⟨hF, -⟩ := attains_expand hmanages hw
  · exact ⟨v, trace, w', hv, hhappens, hfanned⟩
  · exact hF.elim

/-- A function and a named handler with arguments. -/
def pairOfHandlers : Value := .ofList [.function ⟨1, "f", [], false⟩,
  .record [("exec", .str "h"), ("args", .record [("a", .int 1)])]]

private theorem executes_pair : Executes [(.str "exec", .str "h"), (.str "args", .record [("a", .int 1)])] (.str "h")
    (.record [("a", .int 1)]) := by
  have h : Entries.hasName [(.str "exec", .str "h"), (.str "args", .record [("a", .int 1)])] "exec" = true := by
    with_unfolding_all rfl
  have htarget : execTarget [(.str "exec", .str "h"), (.str "args", .record [("a", .int 1)])] =
      (.str "h", .record [("a", .int 1)]) := by
    with_unfolding_all rfl
  have hexecutes := executes_execTarget h
  rwa [htarget] at hexecutes

private theorem parts_of_pair {part : Value} (h : PartOf pairOfHandlers part) :
    part = pairOfHandlers ∨ part = .function ⟨1, "f", [], false⟩ ∨
      part = .record [("exec", .str "h"), ("args", .record [("a", .int 1)])] ∨ part = .record [("a", .int 1)] ∨
      part = .int 1 := by
  have hplain : Entries.hasName [(.str "a", .int 1)] "exec" = false := by with_unfolding_all rfl
  induction h with
  | refl => exact .inl rfl
  | tail _ hown ih =>
    obtain rfl | rfl | rfl | rfl | rfl := ih
    · have hmem := holds_list_iff.mp hown
      simp only [List.mem_cons, List.not_mem_nil, or_false] at hmem
      obtain rfl | rfl := hmem
      · exact .inr (.inl rfl)
      · exact .inr (.inr (.inl rfl))
    · cases hown
    · exact .inr (.inr (.inr (.inl ((holds_exec_iff executes_pair).mp hown).1)))
    · exact .inr (.inr (.inr (.inr (List.mem_singleton.mp ((holds_dict_iff hplain).mp hown)))))
    · cases hown

/-- A mapping that names no handler gives a mapping. -/
theorem fanned_dict {id : Identity} {entries : Entries} {trace : Trace} {v : Value}
    (hexec : entries.hasName "exec" = false) (h : Fanned (.dict id entries) trace v) :
    ∃ vs, FannedAll (entries.map (·.2)) trace vs ∧
      v = .dict .anonymous (((entries.map (·.1)).zip vs).filter fun (_, v) => !v.isNone) := by
  cases h with
  | leaf h => cases h
  | text h => cases h
  | handler h => cases h
  | dict _ h => exact ⟨_, h, rfl⟩
  | bare htarget => cases hexec.symm.trans htarget.hasName
  | overlaid htarget => cases hexec.symm.trans htarget.hasName

/-- The two handlers run where every function gives the same. -/
theorem pair_of_handlers_runs :
    let app : Application := ⟨fun _ _ => pure (.str "done")⟩
    let x : Expander := ⟨app, [(.str "h", .function ⟨0, "h", [], false⟩)], .record [], sessionValue, .tuple []⟩
    let w : World := { session := { id := .str "s" } }
    ∃ v trace w', x.expand pairOfHandlers w = .ok v w' ∧ Happens x w trace w' ∧ Fanned pairOfHandlers trace v := by
  intro app x w
  have hplain : Entries.hasName [(.str "a", .int 1)] "exec" = false := by with_unfolding_all rfl
  have hnamed {id : Identity} {entries : Entries} {name own : Value} (hpart : PartOf pairOfHandlers (.dict id entries))
      (htargets : Executes entries name own) : name = .str "h" ∧ own = .record [("a", .int 1)] := by
    obtain h | h | h | h | h := parts_of_pair hpart
    · cases h
    · cases h
    · obtain ⟨-, rfl⟩ := Value.dict.inj h
      exact Prod.mk.inj (htargets.execTarget_eq.symm.trans executes_pair.execTarget_eq)
    · obtain ⟨-, rfl⟩ := Value.dict.inj h
      cases hplain.symm.trans htargets.hasName
    · cases h
  have hexecute {w : World} (id : Identity) (entries : Entries) (hw : w.heap.contents = []) :
      x.execute "h" (.dict id entries) w = .ok (.str "done") { w with calls := w.calls ++ [⟨"h", 0, []⟩] } := by
    rw [execute, bind_ok (current_eq _ w), Heap.current_of_isEmpty hw]
    dsimp only
    rw [bind_ok (current_eq _ w), Heap.current_of_isEmpty hw]
    with_unfolding_all rfl
  refine each_handler_runs_once x (I := fun w => w.heap.contents = []) rfl
    (fun part _ w hw => Heap.current_of_isEmpty hw part) (fun id entries name own hpart htargets => ?_)
    fun work hwork w hw => ?_
  · obtain ⟨rfl, -⟩ := hnamed hpart htargets
    rfl
  · cases hwork with
    | text hpart hs =>
      obtain rfl | rfl | rfl | rfl | rfl := parts_of_pair hpart <;> cases hs
    | handler hpart h =>
      obtain rfl | rfl | rfl | rfl | rfl := parts_of_pair hpart
      · cases h
      · exact ⟨.str "done", _, rfl, hw⟩
      · cases h
      · cases h
      · cases h
    | bare hpart htargets hname hargs =>
      obtain ⟨rfl, rfl⟩ := hnamed hpart htargets
      cases hargs
    | overlaid hpart htargets hname hargs h hpossible =>
      obtain ⟨rfl, rfl⟩ := hnamed hpart htargets
      obtain rfl := Option.some.inj hname
      obtain ⟨vs, -, rfl⟩ := fanned_dict hplain h
      rw [perform, bind_ok (store_dict _ w)]
      exact ⟨.str "done", _, hexecute _ _ hw, hw⟩

/-- A named handler is not called with a list for its arguments, and a leaf is not called if another one took it out of
the parameter before. -/
theorem some_leaves_are_never_called :
    let clearing : Application := ⟨fun _ _ => do
      Run.write (.list (.object 0) [])
      return .none⟩
    let clear : Value := .function ⟨0, "clear", [], false⟩
    let fn : Value := .function ⟨1, "h", [], false⟩
    let x : Expander := ⟨clearing, [(.str "h", fn)], .record [], sessionValue, .tuple []⟩
    let w : World := { session := { id := .str "s" }, heap := { next := 1 } }
    (∃ w', x.expand (.record [("exec", .str "h"), ("args", .ofList [.int 1])]) w =
        .error (.badArguments "h" (.list (.object 1) [.int 1])) w' ∧ w'.calls = []) ∧
      ∃ w', x.expand (.tuple [clear, .list (.object 0) [fn]]) w = .ok (.ofList [.none, .ofList []]) w' ∧
        w'.calls = [⟨"clear", 0, []⟩] := by
  intro clearing clear fn x w
  have hlist : x.expand (.record [("exec", .str "h"), ("args", .ofList [.int 1])]) w =
      .error (.badArguments "h" (.list (.object 1) [.int 1])) { w with heap := { next := 2 } } := by
    with_unfolding_all rfl
  have hcleared : x.expand (.tuple [clear, .list (.object 0) [fn]]) w = .ok (.ofList [.none, .ofList []])
      { w with heap := { next := 1, contents := [(0, .list (.object 0) [])] }, calls := [⟨"clear", 0, []⟩] } := by
    with_unfolding_all rfl
  exact ⟨⟨_, hlist, rfl⟩, ⟨_, hcleared, rfl⟩⟩

end Expander

end Colloquy
