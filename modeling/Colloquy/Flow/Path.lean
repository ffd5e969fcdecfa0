import Colloquy.Error
import Colloquy.Value.Iteration

/-!
# Flow paths and flow keys

A flow path locates a compiled position in the flow tree of a dialog, for example
`onStart`, `if`, `then`. Its key, `Dialog:onStart.if.then`, is all that survives between requests.
An id that starts with `#` is absolute: appending it discards the path so far.
-/

namespace Colloquy

/-- One step of a flow path: a name or a number. -/
inductive Segment where
  | name (s : String)
  | index (n : Int)
deriving Repr, DecidableEq

abbrev FlowPath := List Segment

namespace Segment

def text : Segment → String
  | .name s => s
  | .index n => Number.intText n

def tooLong : Segment → Bool
  | .name _ => false
  | .index n => Value.tooLong n

/-- Text of a segment in a key, unless it is a number that is too long. -/
def text? (t : Segment) : Except Error String :=
  if t.tooLong then .error (.fault .badValue) else .ok t.text

def toValue : Segment → Value
  | .name s => .str s
  | .index n => .int n

end Segment

namespace FlowPath

def isReserved (c : Char) : Bool :=
  c == '.' || c == '#' || c == ':' || c == '|' || c == '\r' || c == '\n'

def dropFinalBreak (cs : List Char) : List Char :=
  if cs.getLast? == some '\n' then cs.dropLast else cs

/-- Whether a text can be an id: not empty and free of reserved characters, but for a single `#` at
the start and a line break at the end. -/
def isId (s : String) : Bool :=
  let cs := dropFinalBreak s.toList
  let cs := match cs with
    | '#' :: rest => rest
    | _ => cs
  !cs.isEmpty && cs.all (!isReserved ·)

def isAbsolute (s : String) : Bool := s.toList.head? == some '#'

/-- Reads an id; truth values are none, and integers always are. -/
def readId (v : Value) : Except Error Segment :=
  match v with
  | .int n => .ok (.index n)
  | .str s => if isId s then .ok (.name s) else .error (.badPathId v)
  | v => .error (.badPathId v)

/-- Puts one id after a path; an absolute id starts a new path. -/
def extend {α : Type} (embed : Segment → α) (path : List α) : Segment → List α
  | .name s =>
    if isAbsolute s then [embed (.name (String.ofList (s.toList.drop 1)))] else path ++ [embed (.name s)]
  | .index n => path ++ [embed (.index n)]

def appendIds {α : Type} (embed : Segment → α) (path : List α) : List Value → Except Error (List α)
  | [] => .ok path
  | v :: vs =>
    match readId v with
    | .ok segment => appendIds embed (extend embed path segment) vs
    | .error e => .error e

def append (path : FlowPath) (id : String) : Except Error FlowPath :=
  appendIds (fun s => s) path [.str id]

def toValue (path : FlowPath) : Value := .tuple (path.map Segment.toValue)

end FlowPath

namespace FlowKey

def pieces (c : Char) (s : String) : List String :=
  (Text.splitWhen (· == c) s.toList).map String.ofList

/-- Whether a text can be a segment of a key: an id that is not absolute. -/
def isSegment (s : String) : Bool :=
  FlowPath.isId s && !FlowPath.isAbsolute s

def checkSegments (source : Value) : List String → Except Error Unit
  | [] => .ok ()
  | s :: rest => if isSegment s then checkSegments source rest else .error (.badSegment source s)

def joined (dialog : String) (segments : List String) : String := dialog ++ ":" ++ ".".intercalate segments

def render (dialog : String) (path : FlowPath) : Except Error String :=
  (path.mapM Segment.text?).map (joined dialog)

def ofIds (dialog : String) (ids : List Value) : Except Error String :=
  if ids.isEmpty then .error .emptyPath
  else (FlowPath.appendIds (fun s => s) [] ids).bind (render dialog)

def ofPath (dialog : String) (path : FlowPath) : Except Error String :=
  ofIds dialog (path.map Segment.toValue)

/-- Key of a text: a qualified key of this dialog or a relative one. -/
def ofText (dialog : String) (s : String) : Except Error String :=
  match pieces ':' s with
  | [qualifier, relative] =>
    if qualifier == dialog then
      (checkSegments (.str s) (pieces '.' relative)).map fun _ => dialog ++ ":" ++ relative
    else .error (.foreignKey (.str s) dialog)
  | [relative] => (checkSegments (.str s) (pieces '.' relative)).map fun _ => dialog ++ ":" ++ relative
  | _ => .error (.severalColons (.str s))

def ofValue (dialog : String) (path : Value) : Except Error String :=
  match path with
  | .str s | .markup s => ofText dialog s
  | .list _ ids | .tuple ids => ofIds dialog ids
  | .range a b c => ofIds dialog (rangeItems a b c)
  | v => .error (.unexpectedPath v)

/-- Path that a key stands for; all segments come back as names. -/
def toPath (key : Value) : Except Error (List String) :=
  match key with
  | .str s =>
    match pieces ':' s with
    | [] | [_] | [_, _] =>
      let segments := pieces '.' ((pieces ':' s).getLastD "")
      (checkSegments key segments).map fun _ => segments
    | _ => .error (.severalColons key)
  | v => .error (.keyNotText v)

end FlowKey

end Colloquy
