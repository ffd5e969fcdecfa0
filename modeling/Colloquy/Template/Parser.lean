import Colloquy.Template.Token
import Colloquy.Template.Tree

/-!
# Parsing templates

A recursive descent over tokens. Operators bind, from the weakest to the strongest: conditional
values, `or`, `and`, `not`, comparisons, sums, concatenation, products, powers, signs, and then
members, calls, filters and tests. One function recurses, `primary`; its fuel bounds how deep
brackets nest, and the same number bounds how often an operator repeats.
-/

namespace Colloquy.Template

abbrev Parser := StateT (List Token) (Except Fault)

namespace Parser

def refuse {α : Type} : Parser α := throw .malformedTemplate

def peek : Parser (Option Token) := do return (← get).head?

def peekSecond : Parser (Option Token) := do return ((← get).drop 1).head?

def skip : Parser Unit := modify (·.drop 1)

def atMark (mark : String) : Parser Bool := do return (← peek).elim false (·.isMark mark)

def atName (word : String) : Parser Bool := do return (← peek).elim false (·.isName word)

def skipMark (mark : String) : Parser Bool := do
  if ← atMark mark then skip; return true
  else return false

def skipName (word : String) : Parser Bool := do
  if ← atName word then skip; return true
  else return false

def expectMark (mark : String) : Parser Unit := do
  if !(← skipMark mark) then refuse

/-- Takes a word that has to come next. -/
def expectName : Parser String := do
  match ← peek with
  | some (.name s) => skip; return s
  | _ => refuse

def expectCloseTag : Parser Unit := do
  match ← peek with
  | some .closeTag => skip
  | _ => refuse

/-- Repeats a step that says whether to go on, at most `n` times. -/
def loop {σ : Type} (n : Nat) (state : σ) (step : σ → Parser (σ × Bool)) : Parser σ :=
  match n with
  | 0 => refuse
  | n + 1 => do
    let (state, more) ← step state
    if more then loop n state step else return state

def leftJoin (n : Nat) (operand : Parser Expr) (operator? : Token → Option Operator) : Parser Expr := do
  loop n (← operand) fun left => do
    match (← peek).bind operator? with
    | some op => skip; return (.binary op left (← operand), true)
    | none => return (left, false)

def operatorOf (table : List (String × Operator)) : Token → Option Operator
  | .mark s => table.lookup s
  | _ => none

def relations : List (String × Relation) :=
  [("==", .eq), ("!=", .ne), ("<", .lt), ("<=", .le), (">", .gt), (">=", .ge)]

def dottedName (n : Nat) : Parser String := do
  loop n (← expectName) fun name => do
    if ← skipMark "." then return (name ++ "." ++ (← expectName), true)
    else return (name, false)

/-- Arguments of a call, from the opening bracket to the closing one. -/
def callArgs (n : Nat) (expr : Parser Expr) : Parser CallArgs := do
  expectMark "("
  let (positional, named, rest, others, _) ←
    loop n (([] : List Expr), ([] : List (String × Expr)), (none : Option Expr), (none : Option Expr), false)
      fun (positional, named, rest, others, needsComma) => do
        let stop := ((positional, named, rest, others, needsComma), false)
        if ← atMark ")" then return stop
        if needsComma then expectMark ","
        if needsComma && (← atMark ")") then return stop
        if ← skipMark "*" then
          if rest.isSome || others.isSome then refuse
          return ((positional, named, some (← expr), others, true), true)
        else if ← skipMark "**" then
          if others.isSome then refuse
          return ((positional, named, rest, some (← expr), true), true)
        else
          match ← peek, (← peekSecond).elim false (·.isMark "=") with
          | some (.name key), true =>
            if others.isSome then refuse
            skip
            skip
            return ((positional, named ++ [(key, ← expr)], rest, others, true), true)
          | _, _ =>
            if rest.isSome || others.isSome || !named.isEmpty then refuse
            return ((positional ++ [← expr], named, rest, others, true), true)
  expectMark ")"
  return .mk positional named rest others

/-- What stands between square brackets once: a key or the bounds of a slice. -/
def subscript (expr : Parser Expr) : Parser Expr := do
  let optional : Parser (Option Expr) := do
    if (← atMark ":") || (← atMark "]") || (← atMark ",") then return none
    else return some (← expr)
  let finish (start : Option Expr) : Parser Expr := do
    let stop ← optional
    let step ← if ← skipMark ":" then
        (if (← atMark "]") || (← atMark ",") then pure none else some <$> expr)
      else pure none
    return .bounds start stop step
  if ← skipMark ":" then finish none
  else
    let e ← expr
    if ← skipMark ":" then finish (some e) else return e

/-- Members, elements and calls that follow an expression. -/
def postfixes (n : Nat) (expr : Parser Expr) (e : Expr) : Parser Expr :=
  loop n e fun e => do
    if ← skipMark "." then
      match ← peek with
      | some (.name s) => skip; return (.member e s, true)
      | some (.int i) => skip; return (.item e (.const (.int i)), true)
      | _ => refuse
    else if ← skipMark "[" then
      let keys ← loop n ([] : List Expr) fun keys => do
        if ← atMark "]" then return (keys, false)
        if !keys.isEmpty then expectMark ","
        return (keys ++ [← subscript expr], true)
      expectMark "]"
      match keys with
      | [key] => return (.item e key, true)
      | keys => return (.item e (.tuple keys), true)
    else if ← atMark "(" then return (.call e (← callArgs n expr), true)
    else return (e, false)

def filterCall (n : Nat) (expr : Parser Expr) : Parser BlockFilter := do
  let name ← dottedName n
  let args ← if ← atMark "(" then callArgs n expr else pure .empty
  return ⟨name, args⟩

/-- Whether a test takes what comes next as its argument. -/
def startsArgument : Token → Bool
  | .name s => s != "else" && s != "or" && s != "and"
  | .text _ | .int _ | .float _ => true
  | .mark s => s == "(" || s == "[" || s == "\x7b"
  | _ => false

def testCall (n : Nat) (expr primary : Parser Expr) (e : Expr) : Parser Expr := do
  let negated ← skipName "not"
  let name ← dottedName n
  let args ← if ← atMark "(" then callArgs n expr
    else if (← peek).elim false startsArgument then do
      if ← atName "is" then refuse
      let arg ← postfixes n expr (← primary)
      pure (.mk [arg] [] none none)
    else pure .empty
  return if negated then .not (.test e name args) else .test e name args

/-- Filters, tests and calls that follow an expression. -/
def filters (n : Nat) (expr primary : Parser Expr) (e : Expr) : Parser Expr :=
  loop n e fun e => do
    if ← skipMark "|" then
      let f ← filterCall n expr
      return (.filter e f.name f.args, true)
    else if ← skipName "is" then return (← testCall n expr primary e, true)
    else if ← atMark "(" then return (.call e (← callArgs n expr), true)
    else return (e, false)

def unary (n : Nat) (expr primary : Parser Expr) (withFilters : Bool) : Parser Expr :=
  match n with
  | 0 => refuse
  | n + 1 => do
    let e ← if ← skipMark "-" then do return .negative (← unary n expr primary false)
      else if ← skipMark "+" then do return .positive (← unary n expr primary false)
      else primary
    let e ← postfixes (n + 1) expr e
    if withFilters then filters (n + 1) expr primary e else return e

def sum (n : Nat) (expr primary : Parser Expr) : Parser Expr :=
  let power := leftJoin n (unary n expr primary true) (operatorOf [("**", .pow)])
  let product := leftJoin n power
    (operatorOf [("*", .mul), ("/", .div), ("//", .floorDiv), ("%", .mod)])
  let concat : Parser Expr := do
    let first ← product
    let parts ← loop n [first] fun parts => do
      if ← skipMark "~" then return (parts ++ [← product], true) else return (parts, false)
    return if parts.length = 1 then first else .concat parts
  leftJoin n concat (operatorOf [("+", .add), ("-", .sub)])

def comparison (n : Nat) (expr primary : Parser Expr) : Parser Expr := do
  let operand := sum n expr primary
  let first ← operand
  let rest ← loop n ([] : List (Relation × Expr)) fun rest => do
    let sign? : Option Relation := match ← peek with
      | some (.mark s) => relations.lookup s
      | _ => none
    match sign? with
    | some r => skip; return (rest ++ [(r, ← operand)], true)
    | none =>
      if ← skipName "in" then return (rest ++ [(.within, ← operand)], true)
      else if (← atName "not") && (← peekSecond).elim false (·.isName "in") then
        skip
        skip
        return (rest ++ [(.notWithin, ← operand)], true)
      else return (rest, false)
  return if rest.isEmpty then first else .compare first rest

/-- A comparison, negated any number of times. -/
def negation (n : Nat) (operand : Parser Expr) : Parser Expr :=
  match n with
  | 0 => refuse
  | n + 1 => do
    if ← skipName "not" then return .not (← negation n operand) else operand

def disjunction (n : Nat) (expr primary : Parser Expr) : Parser Expr := do
  let operand := negation n (comparison n expr primary)
  let conjunction : Parser Expr := do
    loop n (← operand) fun left => do
      if ← skipName "and" then return (.and left (← operand), true) else return (left, false)
  loop n (← conjunction) fun left => do
    if ← skipName "or" then return (.or left (← conjunction), true) else return (left, false)

def conditional (n : Nat) (operand : Parser Expr) : Parser Expr :=
  match n with
  | 0 => refuse
  | n + 1 => do
    loop (n + 1) (← operand) fun e => do
      if ← skipName "if" then
        let test ← operand
        let no ← if ← skipName "else" then do pure (some (← conditional n operand)) else pure none
        return (.choice test e no, true)
      else return (e, false)

def atTupleEnd (words : List String) : Parser Bool := do
  match ← peek with
  | some .closeOutput | some .closeTag => return true
  | some (.mark s) => return s == ")"
  | some (.name s) => return words.contains s
  | _ => return false

def elements {α : Type} (n : Nat) (element : Parser α) (endWords : List String) :
    Parser (List α × Bool) :=
  loop n (([] : List α), false) fun (items, many) => do
    if !items.isEmpty then expectMark ","
    if ← atTupleEnd endWords then return ((items, many), false)
    let items := items ++ [← element]
    if ← atMark "," then return ((items, true), true) else return ((items, many), false)

def tuple (n : Nat) (element : Parser Expr) (bracketed : Bool) (endWords : List String) :
    Parser Expr := do
  let (items, many) ← elements n element endWords
  if many then return .tuple items
  match items with
  | e :: _ => return e
  | [] => if bracketed then return .tuple [] else refuse

def list (n : Nat) (expr : Parser Expr) : Parser Expr := do
  let items ← loop n ([] : List Expr) fun items => do
    if ← atMark "]" then return (items, false)
    if !items.isEmpty then expectMark ","
    if ← atMark "]" then return (items, false)
    return (items ++ [← expr], true)
  expectMark "]"
  return .list items

def dict (n : Nat) (expr : Parser Expr) : Parser Expr := do
  let entries ← loop n ([] : List (Expr × Expr)) fun entries => do
    if ← atMark "\x7d" then return (entries, false)
    if !entries.isEmpty then expectMark ","
    if ← atMark "\x7d" then return (entries, false)
    let key ← expr
    expectMark ":"
    return (entries ++ [(key, ← expr)], true)
  expectMark "\x7d"
  return .dict entries

def texts (n : Nat) (s : String) : Parser String :=
  loop n s fun s => do
    match ← peek with
    | some (.text t) => skip; return (s ++ t, true)
    | _ => return (s, false)

def expressionIn (inner : Parser Expr) (fuel : Nat) : Parser Expr := fun tokens =>
  match fuel with
  | 0 => refuse tokens
  | fuel + 1 =>
    conditional (fuel + 1) (disjunction (fuel + 1) (expressionIn inner fuel) inner) tokens

/-- A name, a literal, or anything in brackets. -/
def primary (fuel : Nat) : Parser Expr :=
  match fuel with
  | 0 => refuse
  | fuel + 1 => do
    let n := fuel + 1
    let expr := expressionIn (primary fuel) n
    match ← peek with
    | some (.name s) =>
      skip
      match s with
      | "true" | "True" => return .const (.bool true)
      | "false" | "False" => return .const (.bool false)
      | "none" | "None" => return .const .none
      | s => return .name s
    | some (.text s) => skip; return .const (.str (← texts n s))
    | some (.int i) => skip; return .const (.int i)
    | some (.float x) => skip; return .const (.float x)
    | some (.mark "(") =>
      skip
      let e ← tuple n expr true []
      expectMark ")"
      return e
    | some (.mark "[") => skip; list n expr
    | some (.mark "\x7b") => skip; dict n expr
    | _ => refuse

def expression (n : Nat) : Parser Expr := expressionIn (primary n) n

def plainExpression (n : Nat) : Parser Expr := disjunction n (expression n) (primary n)

mutual

def targetOf : Expr → Option Target
  | .name s => some (.name s)
  | .tuple items => (targetsOf items).map Target.tuple
  | _ => none

def targetsOf : List Expr → Option (List Target)
  | [] => some []
  | e :: es => do return (← targetOf e) :: (← targetsOf es)

end

/-- A single target; where `members` is set, a member of a name space is one. -/
def singleTarget (n : Nat) (members : Bool) : Parser Target := do
  let e ← primary n
  match targetOf e with
  | none => refuse
  | some (.name owner) =>
    if members && (← skipMark ".") then return .member owner (← expectName) else return .name owner
  | some target => return target

def target (n : Nat) (members : Bool) (endWords : List String) : Parser Target := do
  let (items, many) ← elements n (singleTarget n members) endWords
  if many then return .tuple items
  match items with
  | t :: _ => return t
  | [] => refuse

/-- Parts of a template up to a tag with one of the given words, and that word. -/
abbrev Block := List String → Parser (List Node × String)

def enclosed (block : Block) (ends : List String) : Parser (List Node × String) := do
  let _ ← skipMark ":"
  expectCloseTag
  block ends

def branches (n : Nat) (block : Block) : Parser Node := do
  let (tests, last) ← loop n (([] : List (Expr × List Node)), "") fun (tests, _) => do
    let test ← tuple n (plainExpression n) false []
    let (body, word) ← enclosed block ["elif", "else", "endif"]
    return ((tests ++ [(test, body)], word), word == "elif")
  if last == "else" then return .branch tests (← enclosed block ["endif"]).1
  else return .branch tests []

def forLoop (n : Nat) (block : Block) : Parser Node := do
  let target ← target n false ["in"]
  if !(← skipName "in") then refuse
  let source ← tuple n (plainExpression n) false ["recursive"]
  let test ← if ← skipName "if" then do pure (some (← expression n)) else pure none
  let _ ← skipName "recursive"
  let (body, word) ← enclosed block ["endfor", "else"]
  let otherwise ← if word == "endfor" then pure [] else do pure (← enclosed block ["endfor"]).1
  return .loop target source test body otherwise

def assignment (n : Nat) (block : Block) : Parser Node := do
  let target ← target n true []
  if ← skipMark "=" then return .assign target (← tuple n (expression n) false [])
  let filters ← loop n ([] : List BlockFilter) fun filters => do
    if ← skipMark "|" then return (filters ++ [← filterCall n (expression n)], true)
    else return (filters, false)
  return .capture target filters (← enclosed block ["endset"]).1

def statement (n : Nat) (block : Block) (word : String) : Parser Node :=
  match word with
  | "if" => branches n block
  | "for" => forLoop n block
  | "set" => assignment n block
  | _ => refuse

/-- Parts of a template up to a tag with one of the given words, which may be the end. -/
def nodes (n : Nat) (fuel : Nat) (ends : List String) : Parser (List Node × String) :=
  match fuel with
  | 0 => refuse
  | fuel + 1 => do
    let andRest (node : Node) : Parser (List Node × String) := do
      let (rest, word) ← nodes n fuel ends
      return (node :: rest, word)
    match ← peek with
    | none => if ends.isEmpty then return ([], "") else refuse
    | some (.data s) => skip; andRest (.data s)
    | some .openOutput =>
      skip
      let e ← tuple n (expression n) false []
      match ← peek with
      | some .closeOutput => skip; andRest (.output e)
      | _ => refuse
    | some .openTag =>
      skip
      let word ← expectName
      if ends.contains word then return ([], word)
      let node ← statement n (nodes n fuel) word
      expectCloseTag
      andRest node
    | some _ => refuse

end Parser

def parse (text : String) : Except Fault (List Node) := do
  let tokens ← tokens text
  let n := tokens.length + 1
  let ((nodes, _), _) ← (Parser.nodes n n []).run tokens
  return nodes

end Colloquy.Template
