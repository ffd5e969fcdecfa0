import Colloquy.Template.Constant
import Colloquy.Template.Parser
import Colloquy.Text.Variant

/-!
# Checking templates

What is refused before a template runs: filters and tests that do not exist (unless they stand where
they may never be reached, in a branch of a condition), assignments to the name `loop` inside a
loop, constants that cannot be written down, and calls that name an argument twice.
-/

namespace Colloquy.Template

/-- What a check of an expression looks for: `guarded` parts may use unknown filters and tests. -/
structure Checks where
  guarded : Bool

/-- Refuses an unknown filter or test, unless it is guarded. -/
def Checks.known (c : Checks) (known : Bool) : Outcome Unit :=
  if known || c.guarded then .ok () else .error .rejectedTemplate

mutual

def Expr.check (c : Checks) : Expr → Outcome Unit
  | .const v => if v.unwritable then .error .badValue else .ok ()
  | .name _ => .ok ()
  | .list items => checkAll c items
  | .tuple items => checkAll c items
  | .dict entries => checkEntries c entries
  | .negative e => e.check c
  | .positive e => e.check c
  | .not e => e.check c
  | .binary _ a b => do a.check c; b.check c
  | .concat parts => checkAll c parts
  | .compare first rest => do first.check c; checkChain c rest
  | .and a b => do a.check c; b.check c
  | .or a b => do a.check c; b.check c
  | .choice test yes no => do
    yes.check ⟨true⟩
    test.check ⟨true⟩
    checkOption ⟨true⟩ no
  | .member e _ => e.check c
  | .item e key => do e.check c; key.check c
  | .bounds start stop step => do checkOption c start; checkOption c stop; checkOption c step
  | .call fn args => do fn.check c; args.check c
  | .filter e name args => do c.known (filter? name).isSome; e.check c; args.check c
  | .test e name args => do c.known (test? name).isSome; e.check c; args.check c

def checkAll (c : Checks) : List Expr → Outcome Unit
  | [] => .ok ()
  | e :: es => do e.check c; checkAll c es

def checkEntries (c : Checks) : List (Expr × Expr) → Outcome Unit
  | [] => .ok ()
  | (k, e) :: es => do k.check c; e.check c; checkEntries c es

def checkChain (c : Checks) : List (Relation × Expr) → Outcome Unit
  | [] => .ok ()
  | (_, e) :: es => do e.check c; checkChain c es

def checkOption (c : Checks) : Option Expr → Outcome Unit
  | none => .ok ()
  | some e => e.check c

def checkNamedArgs (c : Checks) : List (String × Expr) → Outcome Unit
  | [] => .ok ()
  | (_, e) :: es => do e.check c; checkNamedArgs c es

def CallArgs.check (c : Checks) : CallArgs → Outcome Unit
  | .mk positional named rest others => do
    checkAll c positional
    checkNamedArgs c named
    checkOption c rest
    checkOption c others

end

mutual

def Target.names : Target → List String
  | .name s => [s]
  | .tuple parts => targetNames parts
  | .member .. => []

def targetNames : List Target → List String
  | [] => []
  | t :: ts => t.names ++ targetNames ts

end

mutual

/-- Names that are assigned anywhere inside a part of a template. -/
def Node.assigned : Node → List String
  | .data _ => []
  | .output _ => []
  | .branch tests otherwise => assignedTests tests ++ assignedAll otherwise
  | .loop target _ _ body otherwise => target.names ++ assignedAll body ++ assignedAll otherwise
  | .assign target _ => target.names
  | .capture target _ body => target.names ++ assignedAll body

/-- Names that are assigned anywhere inside parts of a template. -/
def assignedAll : List Node → List String
  | [] => []
  | n :: ns => n.assigned ++ assignedAll ns

def assignedTests : List (Expr × List Node) → List String
  | [] => []
  | (_, ns) :: rest => assignedAll ns ++ assignedTests rest

end

mutual

def Node.check (c : Checks) : Node → Outcome Unit
  | .data _ => .ok ()
  | .output e => e.check c
  | .branch tests otherwise => do checkTests tests; checkNodes ⟨true⟩ otherwise
  | .loop target source test body otherwise => do
    (match test with
      | some e => e.check ⟨false⟩
      | none => .ok ())
    if (target.names ++ assignedAll body ++ assignedAll otherwise).contains "loop" then
      .error .rejectedTemplate
    source.check c
    checkNodes ⟨false⟩ body
    checkNodes ⟨false⟩ otherwise
  | .assign _ e => e.check c
  | .capture _ filters body => do
    checkNodes ⟨false⟩ body
    filters.forM fun f => do
      Checks.known ⟨false⟩ (filter? f.name).isSome
      f.args.check ⟨false⟩

def checkNodes (c : Checks) : List Node → Outcome Unit
  | [] => .ok ()
  | n :: ns => do n.check c; checkNodes c ns

def checkTests : List (Expr × List Node) → Outcome Unit
  | [] => .ok ()
  | (e, ns) :: rest => do
    e.check ⟨true⟩
    checkNodes ⟨true⟩ ns
    checkTests rest

end

/-- Whether a name occurs twice, however it is spelled. -/
def repeatsName : List String → Bool
  | [] => false
  | s :: ss => ss.any (Text.toPlain s == Text.toPlain ·) || repeatsName ss

mutual

def Expr.malformed : Expr → Bool
  | .const _ => false
  | .name _ => false
  | .list items => malformedAny items
  | .tuple items => malformedAny items
  | .dict entries => malformedEntry entries
  | .negative e => e.malformed
  | .positive e => e.malformed
  | .not e => e.malformed
  | .binary _ a b => a.malformed || b.malformed
  | .concat parts => malformedAny parts
  | .compare first rest => first.malformed || malformedChain rest
  | .and a b => a.malformed || b.malformed
  | .or a b => a.malformed || b.malformed
  | .choice test yes no => test.malformed || yes.malformed || malformedOption no
  | .member e _ => e.malformed
  | .item e (.bounds start stop step) =>
    e.malformed || malformedOption start || malformedOption stop || malformedOption step
  | .item e key => e.malformed || key.malformed
  | .bounds .. => true
  | .call fn args => fn.malformed || args.malformed
  | .filter e _ args => e.malformed || args.malformed
  | .test e _ args => e.malformed || args.malformed

def malformedAny : List Expr → Bool
  | [] => false
  | e :: es => e.malformed || malformedAny es

def malformedEntry : List (Expr × Expr) → Bool
  | [] => false
  | (k, e) :: es => k.malformed || e.malformed || malformedEntry es

def malformedChain : List (Relation × Expr) → Bool
  | [] => false
  | (_, e) :: es => e.malformed || malformedChain es

def malformedOption : Option Expr → Bool
  | none => false
  | some e => e.malformed

def malformedNamed : List (String × Expr) → Bool
  | [] => false
  | (_, e) :: es => e.malformed || malformedNamed es

/-- Whether arguments name one of them twice, or hold a malformed call. -/
def CallArgs.malformed : CallArgs → Bool
  | .mk positional named rest others =>
    repeatsName (named.map (·.1)) || malformedAny positional || malformedNamed named ||
      malformedOption rest || malformedOption others

end

mutual

/-- Whether a part of a template holds a malformed call. -/
def Node.malformed : Node → Bool
  | .data _ => false
  | .output e => e.malformed
  | .branch tests otherwise => malformedTests tests || malformedNodes otherwise
  | .loop _ source test body otherwise =>
    source.malformed || malformedOption test || malformedNodes body || malformedNodes otherwise
  | .assign _ e => e.malformed
  | .capture _ filters body => filters.any (·.args.malformed) || malformedNodes body

def malformedNodes : List Node → Bool
  | [] => false
  | n :: ns => n.malformed || malformedNodes ns

def malformedTests : List (Expr × List Node) → Bool
  | [] => false
  | (e, ns) :: rest => e.malformed || malformedNodes ns || malformedTests rest

end

def prepare (text : String) : Outcome (List Node) := do
  let nodes ← foldNodes (← parse text)
  checkNodes ⟨false⟩ nodes
  if malformedNodes nodes then .error .malformedCall
  return nodes

end Colloquy.Template
