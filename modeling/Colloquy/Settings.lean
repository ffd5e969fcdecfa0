import Colloquy.Flow.Record
import Colloquy.Value.Arithmetic

/-!
# Settings

Settings of a dialog. Numbers may also be written as texts: with blanks around them, a sign, and
single underscores between digits; an integer may have a fraction of zeros.
-/

namespace Colloquy

namespace Record

def isOuterBlank (c : Char) : Bool := Text.isBlank c && !(28 ≤ c.toNat && c.toNat ≤ 31)

def trimmed (s : String) : List Char :=
  ((s.toList.dropWhile isOuterBlank).reverse.dropWhile isOuterBlank).reverse

def doublesUnderscore : List Char → Bool
  | '_' :: '_' :: _ => true
  | _ :: cs => doublesUnderscore cs
  | [] => false

def withoutUnderscores (cs : List Char) : Option (List Char) :=
  if cs.head? == some '_' || cs.getLast? == some '_' || doublesUnderscore cs then none
  else some (cs.filter (· != '_'))

def isNumberPart (c : Char) : Bool := 32 < c.toNat && c.toNat < 127

def floatText? (s : String) : Option Float := do
  let cs ← withoutUnderscores (trimmed s)
  if !cs.all isNumberPart then none
  Number.readFloat? (String.ofList cs)

/-- An integer in a text without blanks, a fraction of zeros left out. -/
def wholeText? (cs : List Char) : Option (List Char) :=
  match cs.span (· != '.') with
  | (whole, []) => some whole
  | (whole, _ :: fraction) => if fraction.all (· == '0') then some whole else none

def float (v : Value) : Except FieldDefect Float :=
  match v with
  | .float x => .ok x
  | .int n =>
    match Numeral.toFloat n with
    | .ok x => .ok x
    | .error _ => .error .notFloat
  | .bool b => .ok (if b then 1.0 else 0.0)
  | v =>
    match text v with
    | .ok s =>
      match floatText? s with
      | some x => .ok x
      | none => .error .badFloatText
    | .error _ => .error .notFloat

def maxIntText : Nat := 4300

def int (v : Value) : Except FieldDefect Int :=
  match v with
  | .int n => .ok n
  | .bool b => .ok (if b then 1 else 0)
  | .float x =>
    if !Number.isFinite x then .error .notFinite
    else if !Number.isIntegral x then .error .fractionalInt
    else
      let n := (Number.truncate? x).getD 0
      if -(Nat.pow 2 63) < n ∧ n < Nat.pow 2 63 then .ok n else .error .hugeInt
  | v =>
    match text v with
    | .ok s =>
      let cs := trimmed s
      if maxIntText < cs.length then .error .hugeInt
      else
        match (wholeText? cs).bind withoutUnderscores with
        | some ds =>
          if ds.all isNumberPart then
            match Number.readInt? 10 (String.ofList ds) with
            | some n => .ok n
            | none => .error .badIntText
          else .error .badIntText
        | none => .error .badIntText
    | .error _ => .error .notInt

end Record

structure Settings where
  logLevel : String := "WARNING"
  /-- Longest wait in seconds. -/
  maxWait : Option Float := none
  /-- How many templates are kept prepared. -/
  cacheSize : Int := 256
  /-- Name under which results of computed dialogs are awaited. -/
  wildcard : String := "*"

namespace Settings

def logLevels : List String := ["DEBUG", "INFO", "WARNING", "ERROR", "CRITICAL"]

def readLevel (v : Value) : Except FieldDefect String :=
  match v.text? with
  | some s => if logLevels.contains s then .ok s else .error .notChoice
  | none => .error .notChoice

def readWait (v : Value) : Except FieldDefect (Option Float) :=
  match v with
  | .none => .ok none
  | v => do
    let x ← Record.float v
    if x ≥ 0.0 then return some x else .error .notAtLeast

def readSize (v : Value) : Except FieldDefect Int := do
  let n ← Record.int v
  if 0 < n then return n else .error .notGreater

def recorded (fields : Fields) (name : String) : Value := (fields.lookup name).getD .none

def read (v : Value) : Except (List FieldFault) Settings :=
  match v with
  | .model .flowSettings fields _ =>
    .ok {
      logLevel := (recorded fields "log_level").text?.getD "WARNING"
      maxWait := ((recorded fields "max_wait_seconds") |> readWait).toOption.join
      cacheSize := ((recorded fields "template_cache_size") |> Record.int).toOption.getD 256
      wildcard := (recorded fields "wildcard_dialog").text?.getD "*" }
  | .dict _ entries =>
    let (levelFaults, logLevel) :=
      Record.field entries ["log_level"] (.ok "WARNING") (Record.simple readLevel) "WARNING"
    let (waitFaults, maxWait) :=
      Record.field entries ["max_wait_seconds"] (.ok none) (Record.simple readWait) none
    let (sizeFaults, cacheSize) :=
      Record.field entries ["template_cache_size"] (.ok 256) (Record.simple readSize) 256
    let (nameFaults, wildcard) :=
      Record.field entries ["wildcard_dialog"] (.ok "*") (Record.simple Record.text) "*"
    let faults := levelFaults ++ waitFaults ++ sizeFaults ++ nameFaults
    if faults.isEmpty then .ok { logLevel, maxWait, cacheSize, wildcard } else .error faults
  | _ => .error [⟨[], .notRecord⟩]

def toValue (s : Settings) : Value :=
  .model .flowSettings
    [("log_level", .str s.logLevel), ("max_wait_seconds", .ofOption (s.maxWait.map Value.float)),
      ("template_cache_size", .int s.cacheSize), ("wildcard_dialog", .str s.wildcard)] []

end Settings

end Colloquy
