import Colloquy.Number.Shortest
import Colloquy.Text.Quoted
import Colloquy.Value.Basic

/-!
# Texts of values

`Value.repr` writes a value as it would stand in source text: texts are quoted, containers show
their elements. `Value.toText` writes it for a reader: a text stands as it is.
-/

namespace Colloquy

open Number Text

def padded (width n : Nat) : String :=
  let ds := digits n
  String.ofList (List.replicate (width - ds.length) '0' ++ ds)

def complexText (re im : Float) : String :=
  let part (x : Float) : String :=
    let t := floatText x
    if t.endsWith ".0" then (t.dropEnd 2).toString else t
  let sign := if isNegative im then "" else "+"
  if re == 0.0 && !isNegative re then part im ++ "j"
  else "(" ++ part re ++ sign ++ part im ++ "j)"

namespace Moment

/-- Offset from the meridian as `+HH:MM`. -/
def zoneText (minutes : Int) : String :=
  (if minutes < 0 then "-" else "+") ++ padded 2 (minutes.natAbs / 60) ++ ":" ++
    padded 2 (minutes.natAbs % 60)

def text (m : Moment) : String :=
  let day := padded 4 m.year ++ "-" ++ padded 2 m.month ++ "-" ++ padded 2 m.day
  match m.clock with
  | none => day
  | some (h, mi, s, us) =>
    day ++ " " ++ padded 2 h ++ ":" ++ padded 2 mi ++ ":" ++ padded 2 s ++
      (if us = 0 then "" else "." ++ padded 6 us) ++ (m.zone.map zoneText).getD ""

def zoneSource (minutes : Int) : String :=
  if minutes = 0 then "datetime.timezone.utc"
  else if minutes < 0 then
    "datetime.timezone(datetime.timedelta(days=-1, seconds=" ++ intText (86400 + minutes * 60) ++ "))"
  else "datetime.timezone(datetime.timedelta(seconds=" ++ intText (minutes * 60) ++ "))"

/-- Source text of a day or of a point in time. -/
def source (m : Moment) : String :=
  let day := [m.year, m.month, m.day]
  match m.clock with
  | none => "datetime.date(" ++ ", ".intercalate (day.map fun (n : Nat) => intText n) ++ ")"
  | some (h, mi, s, us) =>
    let parts := if us != 0 then day ++ [h, mi, s, us] else if s != 0 then day ++ [h, mi, s]
      else day ++ [h, mi]
    let zone := (m.zone.map fun z => ", tzinfo=" ++ zoneSource z).getD ""
    "datetime.datetime(" ++ ", ".intercalate (parts.map fun (n : Nat) => intText n) ++ zone ++ ")"

end Moment

def Comparison.name : Comparison → String
  | .gt => "gt"
  | .gte => "gte"
  | .lt => "lt"
  | .lte => "lte"
  | .equals => "equals"
  | .notEquals => "not_equals"

def Predicate.name : Predicate → String
  | .truthy => "is_truthy"
  | .falsy => "is_falsy"
  | .absent => "is_none"
  | .text => "is_string"
  | .sequence => "is_list"
  | .mapping => "is_dict"
  | .number => "is_number"

def Operation.name : Operation → String
  | .add => "add"
  | .sub => "sub"
  | .mul => "mul"
  | .div => "div"
  | .pow => "pow"

def Builtin.source (b : Builtin) : String :=
  if b.isType then "<class " ++ quoted b.name ++ ">" else "<built-in function " ++ b.name ++ ">"

def rangeText (start stop step : Int) : String :=
  "range(" ++ intText start ++ ", " ++ intText stop ++
    (if step = 1 then "" else ", " ++ intText step) ++ ")"

namespace Value

/-- Source text of values without parts. -/
def reprAtom : Value → String
  | .none => "None"
  | .bool b => if b then "True" else "False"
  | .int n => intText n
  | .float x => floatText x
  | .complex re im => complexText re im
  | .str s => quoted s
  | .markup s => "Markup(" ++ quoted s ++ ")"
  | .bytes bs => quotedBytes bs
  | .moment m => m.source
  | .range start stop step => rangeText start stop step
  | .undefined _ => "Undefined"
  | .function f => "<fn " ++ f.name ++ ">"
  | .builtin b => b.source
  | .method _ name => "<built-in method " ++ name ++ ">"
  | .signal .break => "<Signal.BREAK: 'break'>"
  | .signal .continue => "<Signal.CONTINUE: 'continue'>"
  | v => "<" ++ v.typeName ++ " object>"

def callableName? : Value → Option String
  | .function f => some f.name
  | .builtin b => some b.name
  | .method _ name => some name
  | _ => Option.none

mutual

def repr : Value → String
  | .list _ items => "[" ++ reprAll items ++ "]"
  | .tuple [] => "()"
  | .tuple [v] => "(" ++ repr v ++ ",)"
  | .tuple items => "(" ++ reprAll items ++ ")"
  | .dict _ entries => "\x7b" ++ reprEntries entries ++ "\x7d"
  | .set [] => "set()"
  | .set items => "\x7b" ++ reprAll items ++ "\x7d"
  | .view .keys _ entries => "dict_keys([" ++ reprKeys entries ++ "])"
  | .view .values _ entries => "dict_values([" ++ reprValues entries ++ "])"
  | .view .items _ entries => "dict_items([" ++ reprItems entries ++ "])"
  | .accessor _ steps => "<Accessor vars" ++ reprSteps steps ++ ">"
  | .negated v => "Negated(" ++ repr v ++ ")"
  | .model kind fields extras =>
    kind.name ++ "(" ++ ", ".intercalate (reprFields fields ++ reprFields extras) ++ ")"
  | .jump path vars => "Jump(path=" ++ repr path ++ ", vars=" ++ repr vars ++ ")"
  | v => reprAtom v

/-- Source texts of elements, separated by commas. -/
def reprAll : List Value → String
  | [] => ""
  | [v] => repr v
  | v :: vs => repr v ++ ", " ++ reprAll vs

def reprEntries : Entries → String
  | [] => ""
  | [(k, v)] => repr k ++ ": " ++ repr v
  | (k, v) :: es => repr k ++ ": " ++ repr v ++ ", " ++ reprEntries es

def reprKeys : Entries → String
  | [] => ""
  | [(k, _)] => repr k
  | (k, _) :: es => repr k ++ ", " ++ reprKeys es

def reprValues : Entries → String
  | [] => ""
  | [(_, v)] => repr v
  | (_, v) :: es => repr v ++ ", " ++ reprValues es

def reprItems : Entries → String
  | [] => ""
  | [(k, v)] => "(" ++ repr k ++ ", " ++ repr v ++ ")"
  | (k, v) :: es => "(" ++ repr k ++ ", " ++ repr v ++ "), " ++ reprItems es

def reprFields : List (String × Value) → List String
  | [] => []
  | (k, v) :: fs => (k ++ "=" ++ repr v) :: reprFields fs

def reprSteps : List Access → String
  | [] => ""
  | s :: ss => reprStep s ++ reprSteps ss

def reprStep : Access → String
  | .member name => "." ++ (match name.text? with | some s => s | Option.none => repr name)
  | .item index => "[" ++ repr index ++ "]"
  | .apply fn _ =>
    ".apply(" ++ (match callableName? fn with | some n => quoted n | Option.none => repr fn) ++ ")"
  | .call name _ => "." ++ (match name.text? with | some s => s | Option.none => repr name) ++ "()"
  | .compare op other => "." ++ op.name ++ "(" ++ repr other ++ ")"
  | .test p => "." ++ p.name ++ "()"
  | .compute op other => "." ++ op.name ++ "(" ++ repr other ++ ")"

end

def toText : Value → String
  | .str s => s
  | .markup s => s
  | .moment m => m.text
  | .undefined _ => ""
  | .signal .break => "Signal.BREAK"
  | .signal .continue => "Signal.CONTINUE"
  | .model _ fields extras => " ".intercalate (reprFields fields ++ reprFields extras)
  | v => v.repr

/-- The least number with more digits than are written. -/
def writtenLimit : Nat := Nat.pow 10 maxIntDigits

/-- Whether an integer is too long to be written in base ten. -/
def tooLong (n : Int) : Bool := writtenLimit ≤ n.natAbs

theorem tooLong_of_digit {n : Int} (h : n.natAbs < 10) : tooLong n = false := by
  have hlimit : 10 ≤ writtenLimit := by
    have hdigits : 1 ≤ maxIntDigits := by decide
    unfold writtenLimit
    generalize maxIntDigits = k at hdigits
    exact Nat.pow_le_pow_right (Nat.succ_pos 9) hdigits
  rw [tooLong, decide_eq_false_iff_not, Nat.not_le]
  exact Nat.lt_of_lt_of_le h hlimit

mutual

/-- Whether the text of a value would show an integer that is too long to be written. -/
def unwritable : Value → Bool
  | .int n => tooLong n
  | .range start stop step => tooLong start || tooLong stop || tooLong step
  | .list _ items => unwritableAny items
  | .tuple items => unwritableAny items
  | .set items => unwritableAny items
  | .dict _ entries => unwritableEntry entries
  | .view .keys _ entries => unwritableKey entries
  | .view .values _ entries => unwritableContent entries
  | .view .items _ entries => unwritableEntry entries
  | .negated v => unwritable v
  | .model _ fields extras => unwritableField fields || unwritableField extras
  | .jump path vars => unwritable path || unwritable vars
  | _ => false

/-- Whether one of the values holds an integer that is too long. -/
def unwritableAny : List Value → Bool
  | [] => false
  | v :: vs => unwritable v || unwritableAny vs

/-- Whether one of the entries holds an integer that is too long. -/
def unwritableEntry : Entries → Bool
  | [] => false
  | (k, v) :: es => unwritable k || unwritable v || unwritableEntry es

/-- Whether one of the keys holds an integer that is too long. -/
def unwritableKey : Entries → Bool
  | [] => false
  | (k, _) :: es => unwritable k || unwritableKey es

/-- Whether one of the stored values holds an integer that is too long. -/
def unwritableContent : Entries → Bool
  | [] => false
  | (_, v) :: es => unwritable v || unwritableContent es

/-- Whether one of the fields of a record holds an integer that is too long. -/
def unwritableField : List (String × Value) → Bool
  | [] => false
  | (_, v) :: fs => unwritable v || unwritableField fs

end

/-- Text of a value for a reader, unless an integer in it is too long. -/
def toText? (v : Value) : Except Fault String :=
  if v.unwritable then .error .badValue else .ok v.toText

/-- Source text of a value, unless an integer in it is too long. -/
def repr? (v : Value) : Except Fault String :=
  if v.unwritable then .error .badValue else .ok v.repr

end Value

/-- Whether the description of a step would show an integer that is too long to be written. -/
def Access.unwritable : Access → Bool
  | .member name => name.unwritable
  | .item index => index.unwritable
  | .apply fn _ => fn.unwritable
  | .call method _ => method.unwritable
  | .compare _ other => other.unwritable
  | .test _ => false
  | .compute _ other => other.unwritable

end Colloquy
