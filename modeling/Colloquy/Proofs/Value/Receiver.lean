import Colloquy.Proofs.Value.Sharing
import Colloquy.Value.Method

/-!
# Methods that change their receiver

Only lists and dictionaries have methods that change them, and such a method changes what the object holds: the
object remains what it is.
-/

namespace Colloquy

open Heap TextMethod

/-- If a method changes its receiver at all, the receiver remains the same object. -/
def KeepsObject (receiver : Value) (result : MethodResult) : Prop :=
  ∀ v changed, result = .ok (v, some changed) → Changed receiver changed

namespace KeepsObject

variable {receiver : Value}

private theorem unchanged (v : Value) : KeepsObject receiver (unchanged v) := nofun

private theorem fault (f : Fault) : KeepsObject receiver (.error f) := nofun

private theorem changes {changed : Value} (h : Changed receiver changed) (v : Value) :
    KeepsObject receiver (.ok (v, some changed)) := by
  rintro _ _ ⟨⟩
  exact h

private theorem bind {α : Type} {f : α → MethodResult} (h : ∀ a, KeepsObject receiver (f a)) (x : Outcome α) :
    KeepsObject receiver (x >>= f) := by
  cases x with
  | ok a => exact h a
  | error e => nofun

private theorem ite {p : Prop} [Decidable p] {x y : MethodResult} (hx : KeepsObject receiver x)
    (hy : KeepsObject receiver y) : KeepsObject receiver (if p then x else y) := by
  split
  · exact hx
  · exact hy

end KeepsObject

private theorem keepsObject_listMethod (id : Identity) (items : List Value) (name : String) (args : Arguments) :
    KeepsObject (.list id items) (listMethod id items name args) := by
  have hstore (v : Value) (items' : List Value) : KeepsObject (.list id items) (.ok (v, some (.list id items'))) :=
    .changes (.list id items items') v
  unfold listMethod
  extract_lets store first popped lt sorted keyed directed
  split
  · exact .bind (fun _ => hstore _ _) _
  · exact .bind (fun _ => .bind (fun _ => hstore _ _) _) _
  · exact .bind (fun _ => .bind (fun _ => hstore _ _) _) _
  · have hpopped (i : Int) : KeepsObject (.list id items) (popped i) := by
      dsimp only [popped]
      split
      · exact hstore _ _
      · exact .fault _
    exact .bind (fun _ => .ite (.bind hpopped _) (.bind hpopped _)) _
  · refine .bind (fun _ => ?_) _
    split
    · exact hstore _ _
    · exact .fault _
  · exact .bind (fun _ => hstore _ _) _
  · exact .bind (fun _ => hstore _ _) _
  · exact .bind (fun _ => .unchanged _) _
  · exact .bind (fun _ => .unchanged _) _
  · exact .bind (fun _ => .unchanged _) _
  · have hkeyed (down : Bool) : KeepsObject (.list id items) (keyed down) := by
      unfold keyed
      extract_lets ordered
      have hordered (keys : List (Value × Value)) : KeepsObject (.list id items) (ordered keys) :=
        .ite (.bind (fun _ => hstore _ _) _) (.bind (fun _ => hstore _ _) _)
      split
      · exact .bind hordered _
      · exact .bind hordered _
      · exact .bind hordered _
      · exact .bind hordered _
    have hdirected (u : PUnit) : KeepsObject (.list id items) (directed u) := by
      dsimp only [directed]
      split
      · exact .bind hkeyed _
      · exact .bind (fun _ => .bind hkeyed _) _
    exact .ite (.bind hdirected _) (hdirected ())
  · exact .fault _

private theorem keepsObject_dictMethod (id : Identity) (entries : Entries) (name : String) (args : Arguments) :
    KeepsObject (.dict id entries) (dictMethod id entries name args) := by
  have hstore (v : Value) (entries' : Entries) : KeepsObject (.dict id entries) (.ok (v, some (.dict id entries'))) :=
    .changes (.dict id entries entries') v
  unfold dictMethod
  extract_lets store first second checkKey updated
  split
  · exact .bind (fun _ => .bind (fun _ => .unchanged _) _) _
  · exact .bind (fun _ => .unchanged _) _
  · exact .bind (fun _ => .unchanged _) _
  · exact .bind (fun _ => .unchanged _) _
  · exact .bind (fun _ => .unchanged _) _
  · exact .bind (fun _ => hstore _ _) _
  · refine .bind (fun _ => .bind (fun _ => ?_) _) _
    split
    · exact hstore _ _
    · exact .ite (.unchanged _) (.fault _)
  · refine .bind (fun _ => ?_) _
    split
    · exact hstore _ _
    · exact .fault _
  · refine .bind (fun _ => .bind (fun _ => ?_) _) _
    split
    · exact .unchanged _
    · exact hstore _ _
  · have hupdated (others : Entries) : KeepsObject (.dict id entries) (updated others) := hstore _ _
    split
    · exact .bind hupdated _
    · exact .bind hupdated _
    · exact .bind hupdated _
  · exact .fault _

private theorem keepsObject_operatorMethod (v : Value) (name : String) (args : Arguments) :
    KeepsObject v (operatorMethod v name args) := by
  unfold operatorMethod
  extract_lets other number orOther compared
  have horOther (r : Outcome Value) : KeepsObject v (orOther r) := by
    dsimp only [orOther]
    split
    · exact .unchanged _
    · exact .ite (.unchanged _) (.fault _)
    · exact .fault _
  have hcompared (test : OrderTest) : KeepsObject v (compared test) := by
    dsimp only [compared]
    split
    · exact .unchanged _
    · exact .unchanged _
    · exact .fault _
  split
  case h_27 =>
    refine .bind (fun _ => ?_) _
    split
    · exact .bind (fun _ => .unchanged _) _
    · exact .bind (fun _ => .unchanged _) _
    · exact horOther _
  -- an entry that is set or deleted leaves the object what it is
  case h_32 | h_33 =>
    refine .bind (fun _ => ?_) _
    split
    · exact .ite (.changes (.dict _ _ _) _) (.fault _)
    · refine .bind (fun _ => ?_) _
      split
      · exact .changes (.list _ _ _) _
      · exact .fault _
    · exact .fault _
  -- every other operator only computes something
  all_goals first
    | exact .fault _
    | exact .bind (fun _ => .unchanged _) _
    | exact .bind (fun _ => hcompared _) _
    | exact .bind (fun _ => horOther _) _
    | exact .bind (fun _ => .bind (fun _ => .unchanged _) _) _
    | exact .bind (fun _ => .bind (fun _ => .bind (fun _ => .unchanged _) _) _) _

theorem keepsObject_callMethod (member : Value → String → Outcome Value) (v : Value) (name : String)
    (args : Arguments) : KeepsObject v (v.callMethod member name args) := by
  unfold Value.callMethod
  refine .ite (keepsObject_operatorMethod v name args) ?_
  split
  · exact .bind (fun _ => .unchanged _) _
  · split
    · exact .unchanged _
    · exact .unchanged _
    · exact .bind (fun _ => .bind (fun _ => .unchanged _) _) _
    · exact .bind (fun _ => .unchanged _) _
    · exact .bind (fun _ => .unchanged _) _
  · exact .bind (fun _ => .unchanged _) _
  · exact keepsObject_listMethod _ _ name args
  · split
    · exact .bind (fun _ => .unchanged _) _
    · exact .bind (fun _ => .unchanged _) _
    · exact .fault _
  · split
    · exact .bind (fun _ => .unchanged _) _
    · exact .bind (fun _ => .unchanged _) _
    · exact .fault _
  · exact keepsObject_dictMethod _ _ name args
  · exact .bind (fun _ => .unchanged _) _
  · exact .bind (fun _ => .unchanged _) _
  · exact .bind (fun _ => .unchanged _) _
  · split
    · exact .unchanged _
    · exact .fault _
  · exact .fault _

end Colloquy
