import Colloquy.Compile.Flow
import Colloquy.Proofs.Flow.Key
import Colloquy.Proofs.Flow.Reads

/-!
# Bad names

Ids, paths and keys that are none are refused with errors of their own, wherever they come from. Only a number that is
too long to be written is an id and yet leaves a path without a key.
-/

namespace Colloquy

/-- Whether an error tells that an id, a path or a key is none. -/
def Error.isNaming : Error → Bool
  | .badPathId _ | .badSegment .. | .severalColons _ | .foreignKey .. | .emptyPath | .unexpectedPath _ => true
  | _ => false

/-- What fails only because of a bad name. -/
def Misnames {α : Type} (x : Except Error α) : Prop := ∀ e, x = .error e → e.isNaming = true

namespace Misnames

variable {α β : Type} {x y : Except Error α}

private theorem ok (a : α) : Misnames (.ok a : Except Error α) := nofun

private theorem error {e : Error} (h : e.isNaming = true) : Misnames (.error e : Except Error α) := by
  rintro e' ⟨⟩
  exact h

private theorem map (h : Misnames x) (f : α → β) : Misnames (x.map f) := by
  cases x with
  | ok a => exact .ok _
  | error e => exact .error (h e rfl)

private theorem ite {p : Prop} [Decidable p] (hx : Misnames x) (hy : Misnames y) : Misnames (if p then x else y) := by
  split
  · exact hx
  · exact hy

theorem ordinary (h : Misnames x) : Ordinary x := by
  cases x with
  | ok a => trivial
  | error e =>
    have he := h e rfl
    cases e <;> first | rfl | cases he

end Misnames

/-- What fails because of a bad name, or because a number is too long to be written. -/
def Unkeyed {α : Type} (x : Except Error α) : Prop :=
  ∀ e, x = .error e → e = .fault .badValue ∨ e.isNaming = true

namespace Unkeyed

variable {α : Type} {x : Except Error α}

theorem ordinary (h : Unkeyed x) : Ordinary x := by
  cases x with
  | ok a => trivial
  | error e =>
    rcases h e rfl with rfl | he
    · rfl
    · exact Misnames.ordinary (.error he)

end Unkeyed

theorem Misnames.unkeyed {α : Type} {x : Except Error α} (h : Misnames x) : Unkeyed x := fun e he => .inr (h e he)

namespace FlowKey

private theorem misnames_checkSegments (source : Value) (segments : List String) : Misnames
    (checkSegments source segments) := by
  induction segments with
  | nil => exact .ok ()
  | cons s rest ih => exact .ite ih (.error rfl)

private theorem misnames_readId (id : Value) : Misnames (FlowPath.readId id) := by
  unfold FlowPath.readId
  split
  · exact .ok _
  · exact .ite (.ok _) (.error rfl)
  · exact .error rfl

private theorem misnames_appendIds (path : FlowPath) (ids : List Value) :
    Misnames (FlowPath.appendIds (fun s => s) path ids) := by
  induction ids generalizing path with
  | nil => exact .ok _
  | cons id rest ih =>
    unfold FlowPath.appendIds
    split
    · exact ih _
    · rename_i e he
      exact .error (misnames_readId id e he)

theorem misnames_append (path : FlowPath) (id : String) : Misnames (FlowPath.append path id) :=
  misnames_appendIds path [.str id]

private theorem tooLong_of_readId {id : Value} {t : Segment} (h : FlowPath.readId id = .ok t)
    (hid : id.unwritable = false) : t.tooLong = false := by
  unfold FlowPath.readId at h
  split at h
  · cases h
    simpa [Segment.tooLong, Value.unwritable] using hid
  · split at h
    · cases h
      rfl
    · cases h
  · cases h

private theorem tooLong_extend {path : FlowPath} {t : Segment} (hpath : path.any Segment.tooLong = false)
    (ht : t.tooLong = false) : (FlowPath.extend (fun s => s) path t).any Segment.tooLong = false := by
  cases t with
  | index n => simp [FlowPath.extend, hpath, ht]
  | name s =>
    rw [FlowPath.extend]
    split
    · rfl
    · simp [hpath, ht]

theorem tooLong_appendIds {path own : FlowPath} {ids : List Value} (hpath : path.any Segment.tooLong = false)
    (hids : Value.unwritableAny ids = false) (h : FlowPath.appendIds (fun s => s) path ids = .ok own) :
    own.any Segment.tooLong = false := by
  induction ids generalizing path with
  | nil =>
    obtain rfl := Except.ok.inj h
    exact hpath
  | cons id rest ih =>
    obtain ⟨hid, hrest⟩ := Bool.or_eq_false_iff.mp hids
    unfold FlowPath.appendIds at h
    split at h
    · rename_i t hread
      exact ih (tooLong_extend hpath (tooLong_of_readId hread hid)) hrest h
    · cases h

theorem unkeyed_ofIds (dialog : String) (ids : List Value) : Unkeyed (ofIds dialog ids) := by
  intro e he
  unfold ofIds at he
  split at he
  · cases he
    exact .inr rfl
  · cases hown : FlowPath.appendIds (fun s => s) [] ids with
    | error e' =>
      rw [hown] at he
      cases he
      exact .inr (misnames_appendIds [] ids e hown)
    | ok own =>
      rw [hown] at he
      change render dialog own = .error e at he
      rw [render_eq] at he
      split at he <;> cases he
      exact .inl rfl

theorem misnames_ofIds {ids : List Value} (h : Value.unwritableAny ids = false) (dialog : String) :
    Misnames (ofIds dialog ids) := by
  intro e he
  rcases unkeyed_ofIds dialog ids e he with rfl | he
  · unfold ofIds at he
    split at he
    · cases he
    · cases hown : FlowPath.appendIds (fun s => s) [] ids with
      | error e' =>
        rw [hown] at he
        cases he
        exact absurd (misnames_appendIds [] ids _ hown) (by decide)
      | ok own =>
        rw [hown] at he
        change render dialog own = _ at he
        rw [render_eq, if_neg (by simp [tooLong_appendIds rfl h hown])] at he
        cases he
  · exact he

theorem unkeyed_ofPath (dialog : String) (path : FlowPath) : Unkeyed (ofPath dialog path) := unkeyed_ofIds dialog _

theorem misnames_ofPath {path : FlowPath} (h : path.any Segment.tooLong = false) (dialog : String) :
    Misnames (ofPath dialog path) := by
  refine misnames_ofIds ?_ dialog
  induction path with
  | nil => rfl
  | cons t rest ih =>
    obtain ⟨ht, hrest⟩ := Bool.or_eq_false_iff.mp h
    refine Bool.or_eq_false_iff.mpr ⟨?_, ih hrest⟩
    cases t with
    | name s => rfl
    | index n => exact ht

theorem misnames_ofText (dialog s : String) : Misnames (ofText dialog s) := by
  unfold ofText
  split
  · exact .ite ((misnames_checkSegments _ _).map _) (.error rfl)
  · exact (misnames_checkSegments _ _).map _
  · exact .error rfl

theorem unkeyed_ofValue (dialog : String) (path : Value) : Unkeyed (ofValue dialog path) := by
  unfold ofValue
  split
  · exact (misnames_ofText _ _).unkeyed
  · exact (misnames_ofText _ _).unkeyed
  · exact unkeyed_ofIds _ _
  · exact unkeyed_ofIds _ _
  · exact unkeyed_ofIds _ _
  · exact Misnames.unkeyed (.error rfl)

end FlowKey

theorem unkeyed_incrementValues? (increment : Fields) : Unkeyed (incrementValues? increment) := by
  intro e he
  rw [incrementValues?_eq] at he
  split at he <;> cases he
  exact .inl rfl

theorem ItemInfo.misnames_actionRoot (info : ItemInfo) (actions : Actions) (path : FlowPath) :
    Misnames (info.actionRoot actions path) := by
  unfold actionRoot
  split
  · exact FlowKey.misnames_append _ _
  · exact .ok _

end Colloquy
