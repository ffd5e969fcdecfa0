import Colloquy.Yaml.Scalar

/-!
# Nodes of a YAML document

The tokens of a document form a tree of scalars, sequences and mappings, each with a tag. A node may
have an anchor, and an alias stands for the node of its anchor, which may enclose it.
-/

namespace Colloquy.Yaml

inductive Node where
  | scalar (tag text : String) (anchor : Option String)
  | sequence (tag : String) (items : List Node) (anchor : Option String)
  | mapping (tag : String) (pairs : List (Node × Node)) (anchor : Option String)
  | alias (name : String)

instance : Inhabited Node := ⟨.alias ""⟩

/-- State of composing: tokens that are left, expansions of tag handles, and known anchors. -/
structure Composer where
  rest : List Token
  handles : List (String × String) := []
  anchors : List String := []

abbrev Compose := StateT Composer (Except Defect)

namespace Compose

def peek : Compose Token := do return (← get).rest.headD .streamEnd

def skip : Compose Unit := modify fun s => { s with rest := s.rest.drop 1 }

def at_ (tokens : List Token) : Compose Bool := do return tokens.contains (← peek)

def expect (t : Token) : Compose Unit := do
  if (← peek) == t then skip else throw .malformed

def missing : Node := .scalar (standardTag "null") "" none

def standardHandles : List (String × String) := [("!", "!"), ("!!", standardTag "")]

/-- Anchor and tag in front of a node, in any order. -/
def properties : Compose (Option String × Option (Option String × String)) := do
  match ← peek with
  | .anchor name =>
    skip
    match ← peek with
    | .tag handle suffix => skip; return (some name, some (handle, suffix))
    | _ => return (some name, none)
  | .tag handle suffix =>
    skip
    match ← peek with
    | .anchor name => skip; return (some name, some (handle, suffix))
    | _ => return (none, some (handle, suffix))
  | _ => return (none, none)

def expandTag : Option String × String → Compose String
  | (none, suffix) => return suffix
  | (some handle, suffix) => do
    match (← get).handles.lookup handle with
    | some expansion => return expansion ++ suffix
    | none => throw .malformed

def register : Option String → Compose Unit
  | none => pure ()
  | some name => do
    if (← get).anchors.contains name then throw .malformed
    modify fun s => { s with anchors := name :: s.anchors }

def collectionTag (tag : Option String) (kind : String) : String :=
  match tag with
  | none | some "!" => standardTag kind
  | some tag => tag

/-- The tag of a scalar. Without a tag a plain one is told by its text, and so is any with the tag
that leaves it open. -/
def scalarTag (tag : Option String) (plain : Bool) (text : String) : String :=
  match tag with
  | none => standardTag (if plain then Scalar.kind text else "str")
  | some "!" => standardTag (Scalar.kind text)
  | some tag => tag

mutual

/-- A node. In a block context it may be a block collection, and where a key or value of a mapping is
expected also a sequence that is not indented. -/
def node : Nat → Bool → Bool → Compose Node
  | 0, _, _ => throw .malformed
  | n + 1, block, indentless => do
    if let .alias name ← peek then
      skip
      if (← get).anchors.contains name then return .alias name else throw .malformed
    let (anchor, written) ← properties
    let tag ← match written with
      | some t => do pure (some (← expandTag t))
      | none => pure none
    register anchor
    match ← peek with
    | .scalar text plain =>
      skip
      return .scalar (scalarTag tag plain text) text anchor
    | .flowSequenceStart =>
      skip
      return .sequence (collectionTag tag "seq") (← flowItems n true) anchor
    | .flowMappingStart =>
      skip
      return .mapping (collectionTag tag "map") (← flowPairs n true) anchor
    | token =>
      if indentless && token == .blockEntry then
        return .sequence (collectionTag tag "seq") (← plainItems n) anchor
      else if block && token == .blockSequenceStart then
        skip
        return .sequence (collectionTag tag "seq") (← blockItems n) anchor
      else if block && token == .blockMappingStart then
        skip
        return .mapping (collectionTag tag "map") (← blockPairs n) anchor
      else if anchor.isSome || tag.isSome then return .scalar (scalarTag tag true "") "" anchor
      else throw .malformed

/-- A node, or a missing scalar if one of the given tokens comes at once. -/
def nodeOr : Nat → Bool → Bool → List Token → Compose Node
  | 0, _, _, _ => throw .malformed
  | n + 1, block, indentless, ends => do
    if ← at_ ends then return missing else node n block indentless

def blockItems : Nat → Compose (List Node)
  | 0 => throw .malformed
  | n + 1 => do
    if (← peek) == .blockEntry then
      skip
      let item ← nodeOr n true false [.blockEntry, .blockEnd]
      return item :: (← blockItems n)
    else
      expect .blockEnd
      return []

/-- Elements of a block sequence that is not indented. -/
def plainItems : Nat → Compose (List Node)
  | 0 => throw .malformed
  | n + 1 => do
    if (← peek) == .blockEntry then
      skip
      let item ← nodeOr n true false [.blockEntry, .key, .value, .blockEnd]
      return item :: (← plainItems n)
    else return []

def blockPairs : Nat → Compose (List (Node × Node))
  | 0 => throw .malformed
  | n + 1 => do
    if (← peek) == .key then
      skip
      let key ← nodeOr n true true [.key, .value, .blockEnd]
      let value ← markedValue n true true [.key, .value, .blockEnd]
      return (key, value) :: (← blockPairs n)
    else
      expect .blockEnd
      return []

def markedValue : Nat → Bool → Bool → List Token → Compose Node
  | 0, _, _, _ => throw .malformed
  | n + 1, block, indentless, ends => do
    if (← peek) == .value then
      skip
      nodeOr n block indentless ends
    else return missing

/-- Elements of a flow sequence; an element with a key is a mapping with one entry. -/
def flowItems : Nat → Bool → Compose (List Node)
  | 0, _ => throw .malformed
  | n + 1, first => do
    if (← peek) == .flowSequenceEnd then
      skip
      return []
    if !first then expect .flowEntry
    match ← peek with
    | .key =>
      skip
      let key ← nodeOr n false false [.value, .flowEntry, .flowSequenceEnd]
      let value ← markedValue n false false [.flowEntry, .flowSequenceEnd]
      return .mapping (standardTag "map") [(key, value)] none :: (← flowItems n false)
    | .flowSequenceEnd =>
      skip
      return []
    | _ =>
      let item ← node n false false
      return item :: (← flowItems n false)

def flowPairs : Nat → Bool → Compose (List (Node × Node))
  | 0, _ => throw .malformed
  | n + 1, first => do
    if (← peek) == .flowMappingEnd then
      skip
      return []
    if !first then expect .flowEntry
    match ← peek with
    | .key =>
      skip
      let key ← nodeOr n false false [.value, .flowEntry, .flowMappingEnd]
      let value ← markedValue n false false [.flowEntry, .flowMappingEnd]
      return (key, value) :: (← flowPairs n false)
    | .flowMappingEnd =>
      skip
      return []
    | _ =>
      let key ← node n false false
      return (key, missing) :: (← flowPairs n false)

end

def directives : Nat → Bool → Compose Unit
  | 0, _ => pure ()
  | n + 1, versioned => do
    match ← peek with
    | .version major _ =>
      if versioned || major != 1 then throw .malformed
      skip
      directives n true
    | .tagHandle handle expansion =>
      if ((← get).handles.lookup handle).isSome then throw .malformed
      modify fun s => { s with handles := s.handles ++ [(handle, expansion)] }
      skip
      directives n versioned
    | .directive =>
      skip
      directives n versioned
    | _ => pure ()

def isDirective : Token → Bool
  | .version .. | .tagHandle .. | .directive => true
  | _ => false

def skipDocumentEnds : Nat → Compose Unit
  | 0 => pure ()
  | n + 1 => do
    if (← peek) == .documentEnd then
      skip
      skipDocumentEnds n

/-- The only document of a text; none if the text is empty. -/
def document : Compose (Option Node) := do
  let fuel := 3 * (← get).rest.length + 6
  let first ← peek
  if first == .streamEnd then return none
  let root ← if first == .documentStart || isDirective first then do
      directives fuel false
      expect .documentStart
      modify fun s => { s with handles := s.handles ++ standardHandles }
      let token ← peek
      if isDirective token || [.documentStart, .documentEnd, .streamEnd].contains token then pure missing
      else node fuel true false
    else do
      modify fun s => { s with handles := standardHandles }
      node fuel true false
  skipDocumentEnds fuel
  if (← peek) == .streamEnd then return some root else throw .malformed

end Compose

/-- The node of a YAML text; none if the text is empty. -/
def Node.ofText (text : List Char) : Except Defect (Option Node) := do
  let (root, _) ← Compose.document.run { rest := ← tokens text }
  return root

end Colloquy.Yaml
