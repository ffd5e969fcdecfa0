import Colloquy.Fault
import Colloquy.Text.Variant

/-!
# Tokens of a YAML document

A YAML text is cut into tokens. Indentation shows as explicit tokens where a block collection starts
and ends. A key that is not marked by `?` is only known as such when its `:` is met, so the place of a
token that may turn out to be a key is remembered, and the marks are put in front of it then.
-/

namespace Colloquy.Yaml

/-- Why a document cannot be read. -/
inductive Defect where
  /-- The text is no YAML document. -/
  | malformed
  /-- A scalar has a tag that it does not fit. -/
  | fault (f : Fault)
deriving Repr, DecidableEq

inductive Token where
  | streamEnd
  | version (major minor : Nat)
  | tagHandle (handle expansion : String)
  /-- A directive of another kind, which is ignored. -/
  | directive
  | documentStart
  | documentEnd
  | blockSequenceStart
  | blockMappingStart
  | blockEnd
  | flowSequenceStart
  | flowSequenceEnd
  | flowMappingStart
  | flowMappingEnd
  | key
  | value
  | blockEntry
  | flowEntry
  | alias (name : String)
  | anchor (name : String)
  | tag (handle : Option String) (suffix : String)
  | scalar (text : String) (plain : Bool)
deriving Repr, DecidableEq

structure SimpleKey where
  /-- How many tokens stand before it. -/
  place : Nat
  /-- Whether nothing but a key can stand there. -/
  required : Bool
  index : Nat
  line : Nat
  column : Nat

structure Scanner where
  rest : List Char
  index : Nat := 0
  line : Nat := 0
  column : Nat := 0
  /-- How many flow collections are open. -/
  flowLevel : Nat := 0
  tokens : List Token := []
  indent : Int := -1
  indents : List Int := []
  allowSimpleKey : Bool := true
  /-- Possible keys by flow level. -/
  simpleKeys : List (Nat × SimpleKey) := []

abbrev Scan := StateT Scanner (Except Defect)

namespace Scan

def isBreak (c : Char) : Bool :=
  c == '\r' || c == '\n' || c.toNat == 0x85 || c.toNat == 0x2028 || c.toNat == 0x2029

/-- Whether a character is a blank, a tab or ends a line. -/
def isSpace (c : Char) : Bool := c == ' ' || c == '\t' || isBreak c

/-- Whether the text ends or goes on with a character of a class. -/
def endsWith (isPart : Char → Bool) : Option Char → Bool
  | none => true
  | some c => isPart c

def malformed {α : Type} : Scan α := throw .malformed

/-- The character at a distance, none at the end. -/
def peek (n : Nat) : Scan (Option Char) := do return (← get).rest[n]?

def step (s : Scanner) : Scanner :=
  match s.rest with
  | [] => s
  | c :: rest =>
    if (isBreak c && c != '\r') || (c == '\r' && rest.head? != some '\n') then
      { s with rest, index := s.index + 1, line := s.line + 1, column := 0 }
    else if c.toNat == 0xFEFF then { s with rest, index := s.index + 1 }
    else { s with rest, index := s.index + 1, column := s.column + 1 }

/-- Moves behind a number of characters. -/
def forward (n : Nat) : Scan Unit := modify fun s => n.repeat step s

def takeWhile (isPart : Char → Bool) : Scan (List Char) := do
  let taken := (← get).rest.takeWhile isPart
  forward taken.length
  return taken

/-- Takes a line break, if there is one; all but two are the same. -/
def lineBreak : Scan (List Char) := do
  match (← get).rest with
  | '\r' :: '\n' :: _ => forward 2; return ['\n']
  | c :: _ =>
    if c.toNat == 0x2028 || c.toNat == 0x2029 then forward 1; return [c]
    else if isBreak c then forward 1; return ['\n']
    else return []
  | [] => return []

def emit (t : Token) : Scan Unit := modify fun s => { s with tokens := s.tokens ++ [t] }

def emitAt (place : Nat) (t : Token) : Scan Unit :=
  modify fun s => { s with tokens := s.tokens.take place ++ t :: s.tokens.drop place }

def allowKey (b : Bool) : Scan Unit := modify fun s => { s with allowSimpleKey := b }

def inFlow : Scan Bool := do return (← get).flowLevel != 0

/-- Forgets the possible key of the current flow level. -/
def dropKey : Scan Unit := do
  let s ← get
  match s.simpleKeys.lookup s.flowLevel with
  | none => pure ()
  | some key =>
    if key.required then malformed
    set { s with simpleKeys := s.simpleKeys.filter fun (level, _) => level != s.flowLevel }

def saveKey : Scan Unit := do
  if (← get).allowSimpleKey then
    dropKey
    modify fun s =>
      let required := s.flowLevel == 0 && s.indent == s.column
      let key : SimpleKey := ⟨s.tokens.length, required, s.index, s.line, s.column⟩
      { s with simpleKeys := s.simpleKeys ++ [(s.flowLevel, key)] }

def keySpan : Nat := 1024

/-- Forgets possible keys that are too far away. -/
def dropStaleKeys : Scan Unit := do
  let s ← get
  let isStale (key : SimpleKey) : Bool := key.line != s.line || keySpan < s.index - key.index
  if s.simpleKeys.any fun (_, key) => isStale key && key.required then malformed
  set { s with simpleKeys := s.simpleKeys.filter fun (_, key) => !isStale key }

/-- Closes block collections that are indented by more than a column. -/
def unwindTo (column : Int) : Nat → Scan Unit
  | 0 => pure ()
  | n + 1 => do
    let s ← get
    if s.indent > column then
      set { s with
        indent := s.indents.headD (-1)
        indents := s.indents.drop 1
        tokens := s.tokens ++ [Token.blockEnd] }
      unwindTo column n

/-- Closes block collections that are indented by more than a column, outside of flow collections. -/
def unwind (column : Int) : Scan Unit := do
  if ← inFlow then return ()
  unwindTo column ((← get).indents.length + 1)

/-- Opens a block collection at a column; false if one is open there already. -/
def addIndent (column : Nat) : Scan Bool := do
  let s ← get
  if s.indent < column then
    set { s with indents := s.indent :: s.indents, indent := column }
    return true
  else return false

/-- Skips blanks, comments and line breaks up to the next token. -/
def skipToToken : Nat → Scan Unit
  | 0 => pure ()
  | n + 1 => do
    let _ ← takeWhile (· == ' ')
    if (← peek 0) == some '#' then
      let _ ← takeWhile (!isBreak ·)
    if (← lineBreak).isEmpty then return ()
    if !(← inFlow) then allowKey true
    skipToToken n

def skipLine : Scan Unit := do
  let _ ← takeWhile (· == ' ')
  if (← peek 0) == some '#' then
    let _ ← takeWhile (!isBreak ·)
  if !endsWith isBreak (← peek 0) then malformed
  let _ ← lineBreak

def isNamePart (c : Char) : Bool := c.isAlphanum || c == '-' || c == '_'

/-- Whether three dashes or points stand here on their own. -/
def atSeparator : Scan Bool := do
  let rest := (← get).rest
  return (rest.take 3 == ['-', '-', '-'] || rest.take 3 == ['.', '.', '.']) && endsWith isSpace rest[3]?

def isTagPart (c : Char) : Bool :=
  c.isAlphanum || "-;/?:@&=+$,_.!~*()[]%".toList.contains c || c == Char.ofNat 0x27

def escapedBytes : Nat → Scan (List UInt8)
  | 0 => return []
  | n + 1 => do
    match (← get).rest with
    | '%' :: a :: b :: _ =>
      if Text.isHexDigit a && Text.isHexDigit b then
        forward 3
        return (Text.hexNumber [a, b]).toUInt8 :: (← escapedBytes n)
      else malformed
    | '%' :: _ => malformed
    | _ => return []

def tagParts : Nat → Scan (List Char)
  | 0 => return []
  | n + 1 => do
    match ← peek 0 with
    | some '%' =>
      let bytes ← escapedBytes (← get).rest.length
      match String.fromUTF8? ⟨bytes.toArray⟩ with
      | some s => return s.toList ++ (← tagParts n)
      | none => malformed
    | some c =>
      if isTagPart c then
        let taken ← takeWhile fun c => isTagPart c && c != '%'
        return taken ++ (← tagParts n)
      else return []
    | none => return []

def tagText : Scan String := do
  let cs ← tagParts ((← get).rest.length + 1)
  if cs.isEmpty then malformed
  return String.ofList cs

def tagHandle : Scan String := do
  if (← peek 0) != some '!' then malformed
  if (← peek 1) == some ' ' then
    forward 1
    return "!"
  let name := (← get).rest.tail.takeWhile isNamePart
  if (← peek (name.length + 1)) != some '!' then malformed
  forward (name.length + 2)
  return String.ofList ('!' :: name ++ ['!'])

def versionNumber : Scan Nat := do
  let digits ← takeWhile Char.isDigit
  if digits.isEmpty then malformed
  return digits.foldl (fun n c => 10 * n + (c.toNat - '0'.toNat)) 0

def isBlankOrBreak (c : Char) : Bool := c == ' ' || isBreak c

def directive : Scan Token := do
  forward 1
  let name ← takeWhile isNamePart
  if name.isEmpty then malformed
  if !endsWith isBlankOrBreak (← peek 0) then malformed
  let token ← match String.ofList name with
    | "YAML" => do
      let _ ← takeWhile (· == ' ')
      let major ← versionNumber
      if (← peek 0) != some '.' then malformed
      forward 1
      let minor ← versionNumber
      if !endsWith isBlankOrBreak (← peek 0) then malformed
      pure (.version major minor)
    | "TAG" => do
      let _ ← takeWhile (· == ' ')
      let handle ← tagHandle
      if (← peek 0) != some ' ' then malformed
      let _ ← takeWhile (· == ' ')
      let expansion ← tagText
      if !endsWith isBlankOrBreak (← peek 0) then malformed
      pure (.tagHandle handle expansion)
    | _ => do
      let _ ← takeWhile (!isBreak ·)
      pure .directive
  skipLine
  return token

def isAfterAnchor (c : Char) : Bool := isSpace c || "?:,]\x7d%@".toList.contains c || c.toNat == 0x60

def anchorName : Scan String := do
  forward 1
  let name ← takeWhile isNamePart
  if name.isEmpty then malformed
  if !endsWith isAfterAnchor (← peek 0) then malformed
  return String.ofList name

def tag : Scan Token := do
  let token ← match ← peek 1 with
    | some '<' => do
      forward 2
      let suffix ← tagText
      if (← peek 0) != some '>' then malformed
      forward 1
      pure (Token.tag none suffix)
    | next => do
      if endsWith isSpace next then
        forward 1
        pure (.tag none "!")
      else if ((← get).rest.tail.takeWhile (!isBlankOrBreak ·)).contains '!' then do
        let handle ← tagHandle
        pure (.tag (some handle) (← tagText))
      else do
        forward 1
        pure (.tag (some "!") (← tagText))
  if !endsWith isBlankOrBreak (← peek 0) then malformed
  return token

/-! ## Scalars -/

/-- What a block scalar keeps of the line breaks at its end. -/
inductive Chomping where
  | clip | strip | keep
deriving DecidableEq

def chomping? : Option Char → Option Chomping
  | some '+' => some .keep
  | some '-' => some .strip
  | _ => none

def increment? (c : Option Char) : Scan (Option Nat) :=
  match c with
  | some c =>
    if c.isDigit then
      if c == '0' then malformed else return some (c.toNat - '0'.toNat)
    else return none
  | none => return none

def blockHead : Scan (Chomping × Option Nat) := do
  match chomping? (← peek 0) with
  | some chomping =>
    forward 1
    let increment ← increment? (← peek 0)
    if increment.isSome then forward 1
    return (chomping, increment)
  | none =>
    let increment ← increment? (← peek 0)
    if increment.isSome then
      forward 1
      match chomping? (← peek 0) with
      | some chomping => forward 1; return (chomping, increment)
      | none => return (.clip, increment)
    else return (.clip, none)

/-- Line breaks before the first line of a block scalar, and the deepest indentation among them. -/
def blockIndentation : Nat → List Char → Nat → Scan (List Char × Nat)
  | 0, breaks, deepest => return (breaks, deepest)
  | n + 1, breaks, deepest => do
    match ← peek 0 with
    | some c =>
      if c == ' ' then
        forward 1
        blockIndentation n breaks (max deepest (← get).column)
      else if isBreak c then
        let b ← lineBreak
        blockIndentation n (breaks ++ b) deepest
      else return (breaks, deepest)
    | none => return (breaks, deepest)

def skipBlanksTo (indent : Nat) : Scan Unit := do
  let s ← get
  let blanks := s.rest.takeWhile (· == ' ')
  forward (min blanks.length (indent - s.column))

def blockBreaks (indent : Nat) : Nat → Scan (List Char)
  | 0 => return []
  | n + 1 => do
    skipBlanksTo indent
    match ← peek 0 with
    | some c =>
      if isBreak c then
        let b ← lineBreak
        return b ++ (← blockBreaks indent n)
      else return []
    | none => return []

def atBlockLine (indent : Nat) : Scan Bool := do
  let s ← get
  return s.column == indent && !s.rest.isEmpty

def isGap (c : Option Char) : Bool := c == some ' ' || c == some '\t'

/-- Lines of a block scalar; gives the text with the last line break and the breaks after it. -/
def blockLines (folded : Bool) (indent : Nat) :
    Nat → List Char → List Char → Scan (List Char × List Char × List Char)
  | 0, out, breaks => return (out, [], breaks)
  | n + 1, out, breaks => do
    let plainStart := !isGap (← peek 0)
    let line ← takeWhile (!isBreak ·)
    let out := out ++ breaks ++ line
    let ending ← lineBreak
    let breaks ← blockBreaks indent ((← get).rest.length + 1)
    if ← atBlockLine indent then
      if folded && ending == ['\n'] && plainStart && !isGap (← peek 0) then
        blockLines folded indent n (if breaks.isEmpty then out ++ [' '] else out) breaks
      else blockLines folded indent n (out ++ ending) breaks
    else return (out, ending, breaks)

def blockScalar (folded : Bool) : Scan Token := do
  forward 1
  let (chomping, increment) ← blockHead
  if !endsWith isBlankOrBreak (← peek 0) then malformed
  skipLine
  let s ← get
  let least := (max (s.indent + 1) 1).toNat
  let fuel := s.rest.length + 1
  let (breaks, indent) ← match increment with
    | none => do
      let (breaks, deepest) ← blockIndentation fuel [] 0
      pure (breaks, max least deepest)
    | some n => do
      let indent := least + n - 1
      pure (← blockBreaks indent fuel, indent)
  let (text, ending, breaks) ← if ← atBlockLine indent then blockLines folded indent fuel [] breaks
    else pure ([], [], breaks)
  let tail := match chomping with
    | .strip => []
    | .clip => ending
    | .keep => ending ++ breaks
  return .scalar (String.ofList (text ++ tail)) false

def escape? (c : Char) : Option Char :=
  match c with
  | '0' => some (Char.ofNat 0)
  | 'a' => some (Char.ofNat 7)
  | 'b' => some (Char.ofNat 8)
  | 't' | '\t' => some '\t'
  | 'n' => some '\n'
  | 'v' => some (Char.ofNat 11)
  | 'f' => some (Char.ofNat 12)
  | 'r' => some '\r'
  | 'e' => some (Char.ofNat 27)
  | ' ' | '"' | '\\' | '/' => some c
  | 'N' => some (Char.ofNat 0x85)
  | '_' => some (Char.ofNat 0xA0)
  | 'L' => some (Char.ofNat 0x2028)
  | 'P' => some (Char.ofNat 0x2029)
  | _ => none

def codeLength? (c : Char) : Option Nat :=
  match c with
  | 'x' => some 2
  | 'u' => some 4
  | 'U' => some 8
  | _ => none

def quotedBreaks : Nat → Scan (List Char)
  | 0 => return []
  | n + 1 => do
    if ← atSeparator then malformed
    let _ ← takeWhile fun c => c == ' ' || c == '\t'
    let b ← lineBreak
    if b.isEmpty then return []
    return b ++ (← quotedBreaks n)

def quotedEscape : Scan (List Char) := do
  match ← peek 0 with
  | none => malformed
  | some c =>
    match escape? c, codeLength? c with
    | some e, _ => forward 1; return [e]
    | none, some n =>
      forward 1
      let digits := (← get).rest.take n
      if digits.length != n || !digits.all Text.isHexDigit then malformed
      let code := Text.hexNumber digits
      if 0x10FFFF < code then throw (.fault .badValue)
      forward n
      return [if 0xD800 ≤ code && code < 0xE000 then Char.ofNat 0xFFFD else Char.ofNat code]
    | none, none =>
      if isBreak c then
        let _ ← lineBreak
        quotedBreaks ((← get).rest.length + 1)
      else malformed

def apostrophe : Char := Char.ofNat 0x27

/-- Characters of a quoted scalar up to a blank, a line break or the closing quote. -/
def quotedWord (double : Bool) : Nat → Scan (List Char)
  | 0 => return []
  | n + 1 => do
    let word ← takeWhile fun c => !(isSpace c || c == apostrophe || c == '"' || c == '\\')
    let c ← peek 0
    if !double && c == some apostrophe && (← peek 1) == some apostrophe then
      forward 2
      return word ++ [apostrophe] ++ (← quotedWord double n)
    else if double && c == some apostrophe then
      forward 1
      return word ++ [apostrophe] ++ (← quotedWord double n)
    else if !double && (c == some '"' || c == some '\\') then
      forward 1
      return word ++ c.toList ++ (← quotedWord double n)
    else if double && c == some '\\' then
      forward 1
      let e ← quotedEscape
      return word ++ e ++ (← quotedWord double n)
    else return word

/-- Blanks and line breaks inside a quoted scalar; a single line break counts as a blank. -/
def quotedGap : Scan (List Char) := do
  let blanks ← takeWhile fun c => c == ' ' || c == '\t'
  match ← peek 0 with
  | none => malformed
  | some c =>
    if isBreak c then
      let b ← lineBreak
      let breaks ← quotedBreaks ((← get).rest.length + 1)
      if b != ['\n'] then return b ++ breaks
      else if breaks.isEmpty then return [' ']
      else return breaks
    else return blanks

/-- Words and gaps of a quoted scalar up to the closing quote. -/
def quotedText (double : Bool) : Nat → Scan (List Char)
  | 0 => malformed
  | n + 1 => do
    let word ← quotedWord double ((← get).rest.length + 1)
    if (← peek 0) == some (if double then '"' else apostrophe) then
      forward 1
      return word
    let gap ← quotedGap
    return word ++ gap ++ (← quotedText double n)

def quotedScalar (double : Bool) : Scan Token := do
  forward 1
  return .scalar (String.ofList (← quotedText double ((← get).rest.length + 1))) false

/-- Length of the word of a plain scalar at the start of a text. -/
def plainLength (flow : Bool) : List Char → Nat
  | [] => 0
  | c :: rest =>
    let isFlowMark (c : Char) : Bool := c == ',' || c == '[' || c == ']' || c == '\x7b' || c == '\x7d'
    if isSpace c || (flow && (isFlowMark c || c == '?')) then 0
    else if c == ':' && endsWith (fun d => isSpace d || (flow && isFlowMark d)) rest.head? then 0
    else plainLength flow rest + 1

/-- Line breaks inside a plain scalar; none if the document ends there. -/
def plainBreaks : Nat → List Char → Scan (Option (List Char))
  | 0, out => return some out
  | n + 1, out => do
    match ← peek 0 with
    | some c =>
      if c == ' ' then
        forward 1
        plainBreaks n out
      else if isBreak c then
        let b ← lineBreak
        if ← atSeparator then return none
        plainBreaks n (out ++ b)
      else return some out
    | none => return some out

/-- Blanks and line breaks after a word of a plain scalar. -/
def plainGap : Scan (List Char) := do
  let blanks ← takeWhile (· == ' ')
  match ← peek 0 with
  | none => return blanks
  | some c =>
    if isBreak c then
      let b ← lineBreak
      allowKey true
      if ← atSeparator then return []
      match ← plainBreaks ((← get).rest.length + 1) [] with
      | none => return []
      | some breaks =>
        if b != ['\n'] then return b ++ breaks
        else if breaks.isEmpty then return [' ']
        else return breaks
    else return blanks

def plainText (indent : Int) : Nat → List Char → Scan (List Char)
  | 0, _ => return []
  | n + 1, gap => do
    let flow ← inFlow
    let s ← get
    let length := plainLength flow s.rest
    if s.rest.head? == some '#' || length == 0 then return []
    allowKey false
    let word := s.rest.take length
    forward length
    let next ← plainGap
    let s ← get
    if next.isEmpty || s.rest.head? == some '#' || (!flow && s.column < indent) then return gap ++ word
    return gap ++ word ++ (← plainText indent n next)

def plainScalar : Scan Token := do
  let s ← get
  return .scalar (String.ofList (← plainText (s.indent + 1) (s.rest.length + 1) [])) true

/-! ## The next token -/

def closeDocument : Scan Unit := do
  unwind (-1)
  dropKey
  allowKey false

def openFlow (t : Token) : Scan Unit := do
  saveKey
  modify fun s => { s with flowLevel := s.flowLevel + 1, allowSimpleKey := true }
  forward 1
  emit t

def closeFlow (t : Token) : Scan Unit := do
  dropKey
  if !(← inFlow) then malformed
  modify fun s => { s with flowLevel := s.flowLevel - 1, allowSimpleKey := false }
  forward 1
  emit t

/-- Opens a block collection at the current column, unless a flow collection is open. -/
def openBlock (t : Token) : Scan Unit := do
  if !(← inFlow) then
    if !(← get).allowSimpleKey then malformed
    if ← addIndent (← get).column then emit t

def blockEntry : Scan Unit := do
  openBlock .blockSequenceStart
  allowKey true
  dropKey
  forward 1
  emit .blockEntry

def explicitKey : Scan Unit := do
  openBlock .blockMappingStart
  allowKey !(← inFlow)
  dropKey
  forward 1
  emit .key

/-- A colon in front of a value; what was remembered as a possible key is one. -/
def valueMark : Scan Unit := do
  let s ← get
  match s.simpleKeys.lookup s.flowLevel with
  | some key =>
    set { s with simpleKeys := s.simpleKeys.filter fun (level, _) => level != s.flowLevel }
    emitAt key.place .key
    if !(← inFlow) then
      if ← addIndent key.column then emitAt key.place .blockMappingStart
    allowKey false
  | none =>
    openBlock .blockMappingStart
    allowKey !(← inFlow)
    dropKey
  forward 1
  emit .value

def keyLike (scan : Scan Token) : Scan Unit := do
  saveKey
  allowKey false
  emit (← scan)

def startsPlain (flow : Bool) (c : Char) (next : Option Char) : Bool :=
  let isIndicator := "-?:,[]\x7b\x7d#&*!|>\"%@".toList.contains c || c == apostrophe || c.toNat == 0x60
  !(isSpace c || isIndicator) ||
    (!endsWith isSpace next && (c == '-' || (!flow && (c == '?' || c == ':'))))

/-- Scans the next token or two; false at the end of the text. -/
def nextToken : Scan Bool := do
  if (← get).index == 0 && (← peek 0) == some (Char.ofNat 0xFEFF) then forward 1
  skipToToken ((← get).rest.length + 1)
  dropStaleKeys
  unwind (← get).column
  let flow ← inFlow
  let next ← peek 1
  let atStart := (← get).column == 0
  match ← peek 0 with
  | none =>
    closeDocument
    emit .streamEnd
    return false
  | some c =>
    if c == '%' && atStart then
      closeDocument
      emit (← directive)
    else if (c == '-' || c == '.') && atStart && (← atSeparator) then
      closeDocument
      forward 3
      emit (if c == '-' then .documentStart else .documentEnd)
    else if c == '[' then openFlow .flowSequenceStart
    else if c == '\x7b' then openFlow .flowMappingStart
    else if c == ']' then closeFlow .flowSequenceEnd
    else if c == '\x7d' then closeFlow .flowMappingEnd
    else if c == ',' then
      allowKey true
      dropKey
      forward 1
      emit .flowEntry
    else if c == '-' && endsWith isSpace next then blockEntry
    else if c == '?' && (flow || endsWith isSpace next) then explicitKey
    else if c == ':' && (flow || endsWith isSpace next) then valueMark
    else if c == '*' then keyLike do return .alias (← anchorName)
    else if c == '&' then keyLike do return .anchor (← anchorName)
    else if c == '!' then keyLike tag
    else if (c == '|' || c == '>') && !flow then
      allowKey true
      dropKey
      emit (← blockScalar (c == '>'))
    else if c == apostrophe then keyLike (quotedScalar false)
    else if c == '"' then keyLike (quotedScalar true)
    else if startsPlain flow c next then keyLike plainScalar
    else malformed
    return true

def all : Nat → Scan Unit
  | 0 => pure ()
  | n + 1 => do
    if ← nextToken then all n

end Scan

def isPrintable (c : Char) : Bool :=
  let n := c.toNat
  n == 9 || n == 10 || n == 13 || (0x20 ≤ n && n ≤ 0x7E) || n == 0x85 || (0xA0 ≤ n && n ≤ 0xD7FF) ||
    (0xE000 ≤ n && n ≤ 0xFFFD) || 0x10000 ≤ n

def tokens (text : List Char) : Except Defect (List Token) :=
  if !text.all isPrintable then .error .malformed
  else
    match (Scan.all (text.length + 2)).run { rest := text } with
    | .ok (_, s) => .ok s.tokens
    | .error d => .error d

end Colloquy.Yaml
