import Colloquy.Number.Read
import Colloquy.Flow.Command
import Colloquy.Value.Equality

/-!
# Reading records

Checks of the fields of a record that was written as a mapping. A field may be known by two names;
the authoring name wins, and the other entry then counts as an undeclared one. All faults are
collected, in the order of the fields, then of the undeclared entries.
-/

namespace Colloquy.Record

def keyPlace : Value → Value
  | .str s => .str s
  | .bool b => .int (if b then 1 else 0)
  | .int n => if -(Nat.pow 2 63) ≤ n ∧ n < Nat.pow 2 63 then .int n else .str (Value.int n).repr
  | v => .str v.repr

/-- Reads a text; bytes that hold one count. -/
def text (v : Value) : Except FieldDefect String :=
  match v with
  | .str s | .markup s => .ok s
  | .bytes bs =>
    match String.fromUTF8? ⟨bs.toArray⟩ with
    | some s => .ok s
    | none => .error .badTextBytes
  | _ => .error .notText

/-- Stores a field under its name: a known one keeps its place. -/
def putField (fields : Fields) (name : String) (value : Value) : Fields :=
  if fields.any (·.1 == name) then fields.map fun (k, v) => if k == name then (k, value) else (k, v)
  else fields ++ [(name, value)]

def textEntries (entries : Entries) : List FieldFault × Fields :=
  let step (acc : List FieldFault × Fields) (entry : Value × Value) : List FieldFault × Fields :=
    match text entry.1 with
    | .ok s =>
      (acc.1, putField acc.2 s entry.2)
    | .error defect =>
      (acc.1 ++ [⟨[keyPlace entry.1, .str "[key]"], defect⟩], acc.2)
  entries.foldl step ([], [])

def textMapping (v : Value) : List FieldFault × Fields :=
  match v with
  | .dict _ entries => textEntries entries
  | _ => ([⟨[], .notMapping⟩], [])

/-- Reads a mapping with texts as keys, or tells all its faults. -/
def mapping (v : Value) : Except (List FieldFault) Fields :=
  match textMapping v with
  | ([], fields) => .ok fields
  | (faults, _) => .error faults

/-- The entry of a field under the first of its names that occurs. -/
def find? (entries : Entries) : List String → Option (String × Value)
  | [] => none
  | name :: names =>
    match Entries.named? entries name with
    | some v => some (name, v)
    | none => find? entries names

def value (entries : Entries) (names : List String) : Value :=
  .ofOption ((find? entries names).map (·.2))

/-- Entries that no field takes; only names are allowed as their keys. -/
def extras (entries : Entries) (fields : List (List String)) : List FieldFault × Fields :=
  let used := fields.filterMap fun names => (find? entries names).map (·.1)
  entries.foldl (fun (faults, kept) (k, v) =>
    match k.text? with
    | some s => if used.contains s then (faults, kept) else (faults, putField kept s v)
    | none => (faults ++ [⟨[keyPlace k], .badKey⟩], kept)) ([], [])

/-- Reads a field with a reader of its own, or takes the default if the field is missing. -/
def field {α : Type} (entries : Entries) (names : List String) (missing : Except FieldDefect α)
    (read : Value → Except (List FieldFault) α) (default : α) : List FieldFault × α :=
  match find? entries names with
  | none =>
    match missing with
    | .ok a => ([], a)
    | .error defect => ([⟨[.str (names.headD "")], defect⟩], default)
  | some (name, v) =>
    match read v with
    | .ok a => ([], a)
    | .error faults => (FieldFault.under (.str name) faults, default)

def simple {α : Type} (read : Value → Except FieldDefect α) (v : Value) : Except (List FieldFault) α :=
  match read v with
  | .ok a => .ok a
  | .error defect => .error [⟨[], defect⟩]

def optionalText (v : Value) : Except FieldDefect (Option String) :=
  match v with
  | .none => .ok none
  | v => (text v).map some

def nonEmptyText (v : Value) : Except FieldDefect String := do
  let s ← text v
  if s.isEmpty then .error .tooShort else .ok s

def list (v : Value) : Except FieldDefect (List Value) :=
  match v with
  | .list _ items | .tuple items | .set items => .ok items
  | .stream _ items => .ok items
  | _ => .error .notList

end Colloquy.Record
