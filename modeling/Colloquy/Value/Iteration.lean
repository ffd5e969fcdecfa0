import Colloquy.Value.Arithmetic
import Colloquy.Value.Text

/-!
# Elements, positions and slices

What a value yields when it is gone through, and what stands at a position or between two positions
of it. Negative positions count from the end.
-/

namespace Colloquy

def rangeItems (start stop step : Int) : List Value :=
  (List.range (rangeLength start stop step)).map fun (i : Nat) => .int (start + step * i)

def viewItems (kind : ViewKind) (entries : Entries) : List Value :=
  match kind with
  | .keys => entries.map (·.1)
  | .values => entries.map (·.2)
  | .items => entries.map fun (k, v) => .tuple [k, v]

namespace Value

def elements? : Value → Option (List Value)
  | .str s => some (s.toList.map fun c => .str (String.singleton c))
  | .markup s => some (s.toList.map fun c => .markup (String.singleton c))
  | .bytes bs => some (bs.map fun b => .int b.toNat)
  | .list _ items => some items
  | .tuple items => some items
  | .dict _ entries => some (entries.map (·.1))
  | .set items => some items
  | .range start stop step => some (rangeItems start stop step)
  | .view kind _ entries => some (viewItems kind entries)
  | .stream _ items => some items
  | .undefined _ => some []
  | .model _ fields extras =>
    some ((fields ++ extras).map fun (k, v) => .tuple [.str k, v])
  | _ => Option.none

def elements (v : Value) : Outcome (List Value) :=
  match v.elements? with
  | some items => .ok items
  | Option.none => .error .wrongType

def length? : Value → Option Nat
  | .str s => some s.length
  | .markup s => some s.length
  | .bytes bs => some bs.length
  | .list _ items => some items.length
  | .tuple items => some items.length
  | .dict _ entries => some entries.length
  | .set items => some items.length
  | .range start stop step => some (rangeLength start stop step)
  | .view _ _ entries => some entries.length
  | .undefined _ => some 0
  | _ => Option.none

def length (v : Value) : Outcome Nat :=
  match v.length? with
  | some n => .ok n
  | Option.none => .error .wrongType

def position? (len : Nat) (i : Int) : Option Nat :=
  let j := if i < 0 then i + len else i
  if 0 ≤ j ∧ j < len then some j.toNat else Option.none

def at? (v : Value) (i : Int) : Option Value :=
  match v with
  | .str s => (position? s.length i).bind fun n => s.toList[n]?.map fun c => .str (String.singleton c)
  | .markup s =>
    (position? s.length i).bind fun n => s.toList[n]?.map fun c => .markup (String.singleton c)
  | .bytes bs => (position? bs.length i).bind fun n => bs[n]?.map fun b => .int b.toNat
  | .list _ items => (position? items.length i).bind fun n => items[n]?
  | .tuple items => (position? items.length i).bind fun n => items[n]?
  | .range start stop step =>
    (position? (rangeLength start stop step) i).map fun n => .int (start + step * n)
  | _ => Option.none

def sliceBound : Value → Outcome (Option Int)
  | .none => .ok Option.none
  | v =>
    match v.index? with
    | some n => .ok (some n)
    | Option.none => .error .wrongType

def sliceIndices (len : Nat) (start stop : Option Int) (step : Int) : Int × Int :=
  let clamp (low high : Int) (i : Int) : Int :=
    let j := if i < 0 then i + len else i
    if j < low then low else if high < j then high else j
  if 0 < step then ((start.map (clamp 0 len)).getD 0, (stop.map (clamp 0 len)).getD len)
  else ((start.map (clamp (-1) (len - 1))).getD (len - 1), (stop.map (clamp (-1) (len - 1))).getD (-1))

def sliceList {α : Type} (items : List α) (start stop : Option Int) (step : Int) : List α :=
  let (first, last) := sliceIndices items.length start stop step
  if step = 1 then (items.drop first.toNat).take (last - first).toNat
  else
    let cells := items.toArray
    (List.range (rangeLength first last step)).filterMap fun (i : Nat) => cells[(first + step * i).toNat]?

def slice (v start stop step : Value) : Outcome Value := do
  match v with
  | .str _ | .markup _ | .bytes _ | .list .. | .tuple _ | .range .. => pure ()
  | _ => .error .wrongType
  let step := (← sliceBound step).getD 1
  if step = 0 then .error .badValue
  let start ← sliceBound start
  let stop ← sliceBound stop
  match v with
  | .str s => return .str (String.ofList (sliceList s.toList start stop step))
  | .markup s => return .markup (String.ofList (sliceList s.toList start stop step))
  | .bytes bs => return .bytes (sliceList bs start stop step)
  | .list _ items => return .ofList (sliceList items start stop step)
  | .tuple items => return .tuple (sliceList items start stop step)
  | .range a b c =>
    let (first, last) := sliceIndices (rangeLength a b c) start stop step
    return .range (a + c * first) (a + c * last) (c * step)
  | _ => .error .wrongType

def subscript (v key : Value) : Outcome Value :=
  match v with
  | .dict _ entries =>
    if !key.hashable then .error .wrongType
    else match Entries.get? entries key with
      | some w => .ok w
      | Option.none => .error .missingKey
  | .str _ | .markup _ | .bytes _ | .list .. | .tuple _ | .range .. =>
    match key.index? with
    | some i =>
      match v.at? i with
      | some w => .ok w
      | Option.none => .error .badIndex
    | Option.none => .error .wrongType
  | .undefined _ => .error .undefinedOperand
  | _ => .error .wrongType

def holdsText (needle : List Char) : List Char → Bool
  | [] => needle.isEmpty
  | c :: cs => needle.isPrefixOf (c :: cs) || holdsText needle cs

def holdsBytes (needle : List UInt8) : List UInt8 → Bool
  | [] => needle.isEmpty
  | c :: cs => needle.isPrefixOf (c :: cs) || holdsBytes needle cs

/-- Whether a container holds a value: a key, an element or a part of a text. -/
def member (item container : Value) : Outcome Bool :=
  match container with
  | .str s | .markup s =>
    match item.text? with
    | some t => .ok (holdsText t.toList s.toList)
    | Option.none => .error .wrongType
  | .bytes bs =>
    match item with
    | .bytes needle => .ok (holdsBytes needle bs)
    | _ =>
      match item.index? with
      | some n => if 0 ≤ n ∧ n < 256 then .ok (bs.any fun b => (b.toNat : Int) == n) else .error .badValue
      | Option.none => .error .wrongType
  | .dict _ entries | .view .keys _ entries =>
    if item.hashable then .ok (Entries.contains entries item) else .error .wrongType
  | .set items => if item.hashable then .ok (item.occursIn items) else .error .wrongType
  | .range start stop step =>
    match item.index? with
    | some n =>
      let i := n - start
      .ok (i % step == 0 && 0 ≤ i / step && i / step < rangeLength start stop step)
    | Option.none => .ok (item.occursIn (rangeItems start stop step))
  | _ => do
    let items ← container.elements
    return item.occursIn items

end Value

end Colloquy
