import Colloquy.Flow.Normal
import Colloquy.Proofs.Value.Entries
import Colloquy.Proofs.Value.Named

/-!
# Reading

What is read from a value may turn out not to be there, and reading then fails with an error that is about the
value alone.
-/

namespace Colloquy

/-- Errors that have nothing to do with where flows are and lead to, or with the lock of the session. -/
def Error.isOrdinary : Error → Bool
  | .duplicateKey _ | .undefinedFlow .. | .escapedSequence .. | .escapedHandler .. | .sessionLocked => false
  | _ => true

/-- What is read has a property, or reading fails with an ordinary error. -/
def Reads {α : Type} (P : α → Prop) : Except Error α → Prop
  | .ok a => P a
  | .error e => e.isOrdinary = true

namespace Reads

variable {α β : Type} {P : α → Prop} {Q : β → Prop}

theorem bind {x : Except Error α} {f : α → Except Error β} (hx : Reads P x) (hf : ∀ a, P a → Reads Q (f a)) :
    Reads Q (x >>= f) := by
  cases x with
  | ok a => exact hf a hx
  | error e => exact hx

theorem mono {P' : α → Prop} {x : Except Error α} (hx : Reads P x) (h : ∀ a, P a → P' a) : Reads P' x := by
  cases x with
  | ok a => exact h a hx
  | error e => exact hx

theorem ite {p : Prop} [Decidable p] {x y : Except Error α} (hx : p → Reads P x) (hy : ¬p → Reads P y) :
    Reads P (if p then x else y) := by
  split
  · exact hx ‹_›
  · exact hy ‹_›

theorem branch {p : Prop} [Decidable p] {x y : Except Error α} {f : α → Except Error β} (hx : p → Reads P x)
    (hy : ¬p → Reads P y) (hf : ∀ a, P a → Reads Q (f a)) : Reads Q (if p then x >>= f else y >>= f) :=
  ite (fun h => (hx h).bind hf) fun h => (hy h).bind hf

theorem liftFault (x : Outcome α) : Reads (fun _ => True) (liftFault x) := by
  cases x with
  | ok a => trivial
  | error f => rfl

theorem mapM {f : α → Except Error β} {list : List α} (h : ∀ a ∈ list, Reads Q (f a)) :
    Reads (fun bs => ∀ b ∈ bs, Q b) (list.mapM f) := by
  induction list with
  | nil => exact fun _ hb => by cases hb
  | cons a rest ih =>
    rw [List.mapM_cons]
    refine bind (h a List.mem_cons_self) fun b hb => ?_
    refine bind (ih fun a ha => h a (List.mem_cons_of_mem _ ha)) fun bs hbs => ?_
    exact List.forall_mem_cons.mpr ⟨hb, hbs⟩

theorem error {x : Except Error α} (h : Reads P x) {e : Error} (he : x = .error e) :
    e.isOrdinary = true := by
  subst he
  exact h

end Reads

abbrev Ordinary {α : Type} (x : Except Error α) : Prop := Reads (fun _ => True) x

namespace Normal

theorem bind_eq_ok {ε α β : Type} {x : Except ε α} {f : α → Except ε β} {b : β} :
    x >>= f = .ok b ↔ ∃ a, x = .ok a ∧ f a = .ok b := by
  cases x with
  | ok a => exact ⟨fun h => ⟨a, rfl, h⟩, fun ⟨_, ha, h⟩ => by cases ha; exact h⟩
  | error e => exact ⟨nofun, nofun⟩

private theorem forall_of_mapM {ε α β : Type} {P : β → Prop} {f : α → Except ε β} {as : List α} {bs : List β}
    (h : ∀ a ∈ as, ∀ b, f a = .ok b → P b) (hbs : as.mapM f = .ok bs) : ∀ b ∈ bs, P b := by
  induction as generalizing bs with
  | nil =>
    cases hbs
    exact List.forall_mem_nil _
  | cons a as ih =>
    rw [List.mapM_cons] at hbs
    obtain ⟨b, hb, hbs⟩ := bind_eq_ok.mp hbs
    obtain ⟨rest, hrest, hbs⟩ := bind_eq_ok.mp hbs
    cases hbs
    exact List.forall_mem_cons.mpr ⟨h a List.mem_cons_self b hb, ih (fun a ha => h a (List.mem_cons_of_mem _ ha)) hrest⟩

theorem forall_entriesOf {P : Value → Prop}
    (helements : ∀ {v : Value} {items : List Value}, P v → v.elements = .ok items → ∀ w ∈ items, P w)
    (hentries : ∀ {id : Identity} {entries : Entries}, P (.dict id entries) → ∀ entry ∈ entries, P entry.2) {v : Value}
    {pairs : Entries} (hv : P v) (h : entriesOf v = .ok pairs) : ∀ entry ∈ pairs, P entry.2 := by
  unfold entriesOf at h
  split at h
  · cases h
    exact hentries hv
  · rename_i hdict
    clear hdict
    obtain ⟨items, hitems, h⟩ := bind_eq_ok.mp h
    obtain ⟨read, hread, h⟩ := bind_eq_ok.mp h
    cases h
    refine Entries.forall_merge (List.forall_mem_nil _) (forall_of_mapM (fun item hitem pair hpair => ?_) hread)
    obtain ⟨parts, hparts, hpair⟩ := bind_eq_ok.mp hpair
    have hown := helements (helements hv hitems item hitem) hparts
    split at hpair
    · split at hpair
      · cases hpair
        exact hown _ (by simp)
      · cases hpair
    · cases hpair

theorem forall_textEntries {P : Value → Prop} {entries : Entries} (h : ∀ entry ∈ entries, P entry.2) :
    ∀ field ∈ (Record.textEntries entries).2, P field.2 := by
  unfold Record.textEntries
  refine List.foldlRecOn (motive := fun acc : List FieldFault × Fields => ∀ field ∈ acc.2, P field.2) entries _
    (List.forall_mem_nil _) ?_
  intro acc hacc entry hentry
  split
  · intro field hfield
    rcases mem_putNamed (putField_eq .. ▸ hfield) with hold | rfl
    · exact hacc field hold
    · exact h entry hentry
  · exact hacc

theorem forall_of_lastWins {P : Flow → Prop} {named : List (String × Flow)} (h : ∀ entry ∈ named, P entry.2) :
    ∀ entry ∈ named.foldl (fun acc (id, f) =>
      if acc.any (·.1 == id) then acc.map fun (k, g) => if k == id then (k, f) else (k, g)
      else acc ++ [(id, f)]) [], P entry.2 := by
  refine List.foldlRecOn (motive := fun acc : List (String × Flow) => ∀ entry ∈ acc, P entry.2) named _
    (fun _ hentry => absurd hentry List.not_mem_nil) ?_
  rintro acc hacc ⟨id, flow⟩ hmem entry hentry
  rcases mem_putNamed (show entry ∈ putNamed acc (id, flow) from hentry) with hold | rfl
  · exact hacc entry hold
  · exact h (id, flow) hmem

end Normal

end Colloquy
