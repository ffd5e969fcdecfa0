import Colloquy.Value.Basic

/-!
# Trees of templates

Expressions and statements of templates as they are written, before anything is known of the
variables.
-/

namespace Colloquy.Template

inductive Operator where
  | add | sub | mul | div | floorDiv | mod | pow
deriving Repr, DecidableEq

/-- Relations between values; comparisons can be chained. -/
inductive Relation where
  | eq | ne | lt | le | gt | ge | within | notWithin
deriving Repr, DecidableEq

mutual

inductive Expr where
  | const (v : Value)
  | name (text : String)
  | list (items : List Expr)
  | tuple (items : List Expr)
  | dict (entries : List (Expr × Expr))
  | negative (e : Expr)
  | positive (e : Expr)
  | not (e : Expr)
  | binary (op : Operator) (a b : Expr)
  /-- Texts of the parts, one after the other. -/
  | concat (parts : List Expr)
  | compare (first : Expr) (rest : List (Relation × Expr))
  | and (a b : Expr)
  | or (a b : Expr)
  /-- A value on a condition; without an alternative the value is undefined otherwise. -/
  | choice (test yes : Expr) (no : Option Expr)
  | member (e : Expr) (name : String)
  | item (e key : Expr)
  /-- Bounds of a slice, which make sense as a key only. -/
  | bounds (start stop step : Option Expr)
  | call (fn : Expr) (args : CallArgs)
  | filter (e : Expr) (name : String) (args : CallArgs)
  | test (e : Expr) (name : String) (args : CallArgs)

/-- Arguments of a call: positional ones, named ones, and collections of either kind. -/
inductive CallArgs where
  | mk (positional : List Expr) (named : List (String × Expr)) (rest others : Option Expr)

end

instance : Inhabited Expr := ⟨.const .none⟩

def CallArgs.empty : CallArgs := .mk [] [] none none

inductive Target where
  | name (text : String)
  | tuple (parts : List Target)
  /-- A member of a name space. -/
  | member (owner name : String)

structure BlockFilter where
  name : String
  args : CallArgs

inductive Node where
  | data (text : String)
  | output (e : Expr)
  | branch (tests : List (Expr × List Node)) (otherwise : List Node)
  | loop (target : Target) (source : Expr) (test : Option Expr) (body otherwise : List Node)
  | assign (target : Target) (e : Expr)
  | capture (target : Target) (filters : List BlockFilter) (body : List Node)

instance : Inhabited Node := ⟨.data ""⟩

end Colloquy.Template
