import Colloquy.Value.Format

/-!
# Methods of texts

Every method takes the characters of its receiver and its arguments. Positions are counted in
characters, and a window of positions is given like the bounds of a slice.
-/

namespace Colloquy.TextMethod

open Number Text

/-- A window `[start, stop)` of positions, not clipped at its start. -/
def window (len : Nat) (bounds : List Value) : Outcome (Nat × Nat) := do
  let wrap (i : Int) : Nat := if i < 0 then (i + len).toNat else i.toNat
  match bounds with
  | [] => return (0, len)
  | [a] => return (((← Value.sliceBound a).map wrap).getD 0, len)
  | [a, b] =>
    let start := ((← Value.sliceBound a).map wrap).getD 0
    let stop := ((← Value.sliceBound b).map wrap).getD len
    return (start, min stop len)
  | _ => .error .wrongType

def findFrom [BEq α] (needle cs : List α) (start stop : Nat) : Option Nat :=
  let rec go (i : Nat) : List α → Nat → Option Nat
    | rest, fuel =>
      if stop < i + needle.length then none
      else if needle.isPrefixOf rest then some i
      else match rest, fuel with
        | _ :: more, fuel + 1 => go (i + 1) more fuel
        | _, _ => none
  go start (cs.drop start) (cs.length + 1)

def findLast [BEq α] (needle cs : List α) (start stop : Nat) : Option Nat :=
  let rec go (best : Option Nat) (i : Nat) : List α → Nat → Option Nat
    | rest, fuel =>
      if stop < i + needle.length then best
      else
        let best := if needle.isPrefixOf rest then some i else best
        match rest, fuel with
        | _ :: more, fuel + 1 => go best (i + 1) more fuel
        | _, _ => best
  go none start (cs.drop start) (cs.length + 1)

/-- Number of places in a window at which `needle` stands, not counting overlaps. -/
def countIn [BEq α] (needle cs : List α) (start stop : Nat) : Nat :=
  if needle.isEmpty then (if start ≤ stop && start ≤ cs.length then stop - start + 1 else 0)
  else
    let rec go (i : Nat) (fuel : Nat) : Nat :=
      match fuel with
      | 0 => 0
      | fuel + 1 =>
        match findFrom needle cs i stop with
        | some j => 1 + go (j + needle.length) fuel
        | none => 0
    go start (cs.length + 1)

/-- Pieces of a text between separators, at most `limit` cuts from the left. -/
def splitAt [BEq α] (sep cs : List α) (limit : Option Nat) : List (List α) :=
  let rec go (cs : List α) (limit : Option Nat) (fuel : Nat) : List (List α) :=
    match fuel with
    | 0 => [cs]
    | fuel + 1 =>
      if limit == some 0 then [cs]
      else match findFrom sep cs 0 cs.length with
        | some i => cs.take i :: go (cs.drop (i + sep.length)) (limit.map (· - 1)) fuel
        | none => [cs]
  go cs limit (cs.length + 1)

/-- Pieces of a text between separators, at most `limit` cuts from the right. -/
def splitAtEnd [BEq α] (sep cs : List α) (limit : Option Nat) : List (List α) :=
  let back := splitAt sep.reverse cs.reverse limit
  (back.map List.reverse).reverse

/-- Words between blanks, at most `limit` cuts from the left. -/
def words (cs : List Char) (limit : Option Nat) : List (List Char) :=
  let rec go (cs : List Char) (limit : Option Nat) (fuel : Nat) : List (List Char) :=
    match fuel with
    | 0 => []
    | fuel + 1 =>
      match cs.dropWhile isBlank with
      | [] => []
      | cs =>
        if limit == some 0 then [cs]
        else cs.takeWhile (!isBlank ·) :: go (cs.dropWhile (!isBlank ·)) (limit.map (· - 1)) fuel
  go cs limit (cs.length + 1)

/-- Words between blanks, at most `limit` cuts from the right. -/
def wordsFromEnd (cs : List Char) (limit : Option Nat) : List (List Char) :=
  let rec go (cs : List Char) (limit : Option Nat) (fuel : Nat) : List (List Char) :=
    match fuel with
    | 0 => []
    | fuel + 1 =>
      match cs.dropWhile isBlank with
      | [] => []
      | cs =>
        if limit == some 0 then [cs]
        else cs.takeWhile (!isBlank ·) :: go (cs.dropWhile (!isBlank ·)) (limit.map (· - 1)) fuel
  ((go cs.reverse limit (cs.length + 1)).map List.reverse).reverse

def endsLine (c : Char) : Bool :=
  let n := c.toNat
  (10 ≤ n && n ≤ 13) || (28 ≤ n && n ≤ 30) || n == 0x85 || n == 0x2028 || n == 0x2029

def lines (keep : Bool) (cs : List Char) : List (List Char) :=
  let rec go (line : List Char) : List Char → List (List Char)
    | [] => if line.isEmpty then [] else [line.reverse]
    | '\r' :: '\n' :: rest =>
      (if keep then line.reverse ++ ['\r', '\n'] else line.reverse) :: go [] rest
    | c :: rest =>
      if endsLine c then (if keep then (c :: line).reverse else line.reverse) :: go [] rest
      else go (c :: line) rest
  go [] cs

/-- Replaces a part everywhere, or the first `limit` times. -/
def replaceIn (old new cs : List Char) (limit : Option Nat) : List Char :=
  if old.isEmpty then
    let rec between (limit : Option Nat) : List Char → List Char
      | [] => if limit == some 0 then [] else new
      | c :: rest =>
        if limit == some 0 then c :: rest else new ++ c :: between (limit.map (· - 1)) rest
    between limit cs
  else
    match splitAt old cs limit with
    | [] => []
    | piece :: pieces => pieces.foldl (fun acc p => acc ++ new ++ p) piece

/-- Tabs replaced by blanks up to the next multiple of `size`. -/
def expandTabs (size : Int) (cs : List Char) : List Char :=
  let rec go (column : Nat) : List Char → List Char
    | [] => []
    | '\t' :: rest =>
      if 0 < size then
        let n := size.toNat - column % size.toNat
        List.replicate n ' ' ++ go (column + n) rest
      else go column rest
    | c :: rest => c :: go (if c == '\n' || c == '\r' then 0 else column + 1) rest
  go 0 cs

/-- Whether words start with a capital and go on without one, with at least one letter. -/
def isTitleCase (cs : List Char) : Bool :=
  let rec go (cased inWord : Bool) : List Char → Bool
    | [] => cased
    | c :: rest =>
      if isUpper c || isTitled c then if inWord then false else go true true rest
      else if isLower c then if inWord then go true true rest else false
      else go cased false rest
  go false false cs

def utf8 (s : String) : List UInt8 := s.toUTF8.toList

def encodingName (name : String) : Option String :=
  let n := (String.ofList (name.toList.map fun c => if c == '_' || c == ' ' then '-' else c)).toLower
  if ["utf-8", "utf8", "u8", "utf", "utf8-ucs2", "utf8-ucs4", "cp65001"].contains n then some "utf-8"
  else if ["ascii", "us-ascii", "646", "us"].contains n then some "ascii"
  else if ["latin-1", "latin1", "iso-8859-1", "iso8859-1", "8859", "cp819", "latin", "l1"].contains n then
    some "latin-1"
  else none

/-- Bytes of a text in an encoding with the given limit of code points. -/
def encodeBelow (limit : Nat) (mode : String) (cs : List Char) : Outcome (List UInt8) :=
  let pieces := cs.map fun c =>
    if c.toNat < limit then some [UInt8.ofNat c.toNat]
    else if mode == "ignore" then some []
    else if mode == "replace" then some [63]
    else if mode == "backslashreplace" then
      some (utf8 (if c.toNat < 0x100 then "\\x" ++ hexText 2 c.toNat
        else if c.toNat < 0x10000 then "\\u" ++ hexText 4 c.toNat else "\\U" ++ hexText 8 c.toNat))
    else if mode == "xmlcharrefreplace" then some (utf8 ("&#" ++ intText c.toNat ++ ";"))
    else none
  if pieces.all Option.isSome then .ok (pieces.flatMap fun p => p.getD [])
  else .error .unencodable

def argument (args : Arguments) (i : Nat) (name : String) : Option Value :=
  match args.positional[i]? with
  | some v => some v
  | none => args.named.lookup name

def checkNamed (args : Arguments) (most : Nat) (names : List String) : Outcome Unit :=
  if args.positional.length ≤ most &&
      args.named.all (fun (k, _) => (names.drop args.positional.length).contains k) then .ok ()
  else .error .wrongType

def checkPlain (args : Arguments) (least most : Nat) : Outcome Unit :=
  if args.named.isEmpty && least ≤ args.positional.length && args.positional.length ≤ most then .ok ()
  else .error .wrongType

def textArg (v : Value) : Outcome (List Char) :=
  match v.text? with
  | some s => .ok s.toList
  | none => .error .wrongType

def intArg (v : Value) : Outcome Int :=
  match v.index? with
  | some n => .ok n
  | none => .error .wrongType

/-- A limit of cuts; a negative one is none. -/
def limitArg (v : Option Value) : Outcome (Option Nat) := do
  match v with
  | none => return none
  | some v =>
    let n ← intArg v
    return if n < 0 then none else some n.toNat

def text (cs : List Char) : Value := .str (String.ofList cs)

def texts (pieces : List (List Char)) : Value := .ofList (pieces.map text)

/-- Fills a text with a character on both sides up to a width. -/
def justify (name : String) (cs : List Char) (args : Arguments) : Outcome Value := do
  checkPlain args 1 2
  let width ← intArg (args.positional.getD 0 .none)
  let fill ← match args.positional[1]? with
    | none => pure ' '
    | some v =>
      match ← textArg v with
      | [c] => pure c
      | _ => .error .wrongType
  let missing := width.toNat - cs.length
  let left := if name == "ljust" then 0 else if name == "rjust" then missing
    else missing / 2 + missing % 2 * (width.toNat % 2)
  return text (List.replicate left fill ++ cs ++ List.replicate (missing - left) fill)

/-- Removes characters at the ends of a text. -/
def strip (name : String) (cs : List Char) (args : Arguments) : Outcome Value := do
  checkPlain args 0 1
  let drops ← match args.positional with
    | [] | [.none] => pure isBlank
    | v :: _ => do
      let set ← textArg v
      pure fun c => set.contains c
  let cs := if name == "rstrip" then cs else cs.dropWhile drops
  return text (if name == "lstrip" then cs else (cs.reverse.dropWhile drops).reverse)

def search (name : String) (cs : List Char) (args : Arguments) : Outcome Value := do
  checkPlain args 1 3
  let needle ← textArg (args.positional.getD 0 .none)
  let (start, stop) ← window cs.length (args.positional.drop 1)
  if name == "count" then return .int (countIn needle cs start stop)
  let found := if name == "find" || name == "index" then findFrom needle cs start stop
    else findLast needle cs start stop
  match found with
  | some i => return .int i
  | none => if name == "find" || name == "rfind" then return .int (-1) else .error .badValue

/-- Tests the start or the end of a window. -/
def boundary (name : String) (cs : List Char) (args : Arguments) : Outcome Value := do
  checkPlain args 1 3
  let (start, stop) ← window cs.length (args.positional.drop 1)
  let test (needle : List Char) : Bool :=
    if stop < start + needle.length then false
    else if name == "startswith" then needle.isPrefixOf (cs.drop start)
    else needle.isPrefixOf (cs.drop (stop - needle.length))
  match args.positional.getD 0 .none with
  | .tuple options => do
    let needles ← options.mapM textArg
    return .bool (needles.any test)
  | v => return .bool (test (← textArg v))

/-- Cuts a text at separators or blanks. -/
def split (name : String) (cs : List Char) (args : Arguments) : Outcome Value := do
  checkNamed args 2 ["sep", "maxsplit"]
  let limit ← limitArg (argument args 1 "maxsplit")
  match argument args 0 "sep" with
  | none | some .none =>
    return texts (if name == "split" then words cs limit else wordsFromEnd cs limit)
  | some v =>
    let sep ← textArg v
    if sep.isEmpty then .error .badValue
    return texts (if name == "split" then splitAt sep cs limit else splitAtEnd sep cs limit)

/-- Cuts a text in three at the first or last separator. -/
def partition (name : String) (cs : List Char) (args : Arguments) : Outcome Value := do
  checkPlain args 1 1
  let sep ← textArg (args.positional.getD 0 .none)
  if sep.isEmpty then .error .badValue
  let found := if name == "partition" then findFrom sep cs 0 cs.length else findLast sep cs 0 cs.length
  match found with
  | some i => return .tuple [text (cs.take i), text sep, text (cs.drop (i + sep.length))]
  | none =>
    return .tuple (if name == "partition" then [text cs, text [], text []] else [text [], text [], text cs])

/-- Classes of characters that all characters of a text may belong to. -/
def classTest (name : String) : Option (Char → Bool) :=
  match name with
  | "isalnum" => some isAlphanumeric
  | "isalpha" => some isAlphabetic
  | "isdecimal" => some isDecimal
  | "isdigit" => some isDigit
  | "isnumeric" => some isNumeric
  | "isspace" => some isBlank
  | _ => none

def caseChange (name : String) : Option (String → String) :=
  match name with
  | "lower" => some toLower
  | "upper" => some toUpper
  | "title" => some toTitle
  | "capitalize" => some capitalize
  | "casefold" => some toFolded
  | "swapcase" => some swapCase
  | _ => none

def follow (member : Value → String → Outcome Value) (fuel : Nat) (v : Value) : List Char → Outcome Value
  | [] => .ok v
  | cs =>
    match fuel with
    | 0 => .error .badValue
    | fuel + 1 =>
      match cs with
      | '.' :: rest => do
        let (name, rest) := rest.span fun c => c != '.' && c != '['
        if name.isEmpty then .error .badValue
        follow member fuel (← member v (String.ofList name)) rest
      | '[' :: rest => do
        let (key, rest) := rest.span (· != ']')
        if key.isEmpty then .error .badValue
        let key := match key.all Char.isDigit, readInt? 10 (String.ofList key) with
          | true, some n => Value.int n
          | _, _ => text key
        match rest with
        | ']' :: rest => follow member fuel (← v.subscript key) rest
        | _ => .error .badValue
      | _ => .error .badValue

/-- Text between matching braces, and what follows. -/
def takeField (depth : Nat) (field : List Char) : List Char → Option (List Char × List Char)
  | [] => none
  | '\x7d' :: cs =>
    match depth with
    | 0 => some (field.reverse, cs)
    | depth + 1 => takeField depth ('\x7d' :: field) cs
  | '\x7b' :: cs => takeField (depth + 1) ('\x7b' :: field) cs
  | c :: cs => takeField depth (c :: field) cs

/-- Fills the replacement fields of a format text. `next` is the next automatic position. -/
def formatFields (member : Value → String → Outcome Value) (args : Arguments) (fuel next : Nat)
    (out : String) (cs : List Char) : Outcome (String × Nat) :=
  match fuel with
  | 0 => .error .badValue
  | fuel + 1 =>
    match cs with
    | [] => .ok (out, next)
    | '\x7b' :: '\x7b' :: rest => formatFields member args fuel next (out.push '\x7b') rest
    | '\x7d' :: '\x7d' :: rest => formatFields member args fuel next (out.push '\x7d') rest
    | '\x7d' :: _ => .error .badValue
    | '\x7b' :: rest =>
      match takeField 0 [] rest with
      | none => .error .badValue
      | some (field, rest) => do
        let (name, spec) := field.span (· != ':')
        let (name, conversion) := name.span (· != '!')
        let (head, path) := name.span fun c => c != '.' && c != '['
        let (v, next) ← match head.isEmpty, head.all Char.isDigit with
          | true, _ =>
            match args.positional[next]? with
            | some v => pure (v, next + 1)
            | none => .error .badIndex
          | false, true =>
            match args.positional[((readInt? 10 (String.ofList head)).getD 0).toNat]? with
            | some v => pure (v, next)
            | none => .error .badIndex
          | false, false =>
            match args.named.lookup (String.ofList head) with
            | some v => pure (v, next)
            | none => .error .missingKey
        let v ← follow member (path.length + 1) v path
        let v ← match conversion with
          | [] => pure v
          | ['!', 'r'] => pure (.str (← v.repr?))
          | ['!', 's'] => pure (.str (← v.toText?))
          | ['!', 'a'] => pure (.str (← Format.asciiRepr v))
          | _ => .error .badValue
        let (spec, next) ← formatFields member args fuel next "" (spec.drop 1)
        let piece ← Format.formatValue v spec
        formatFields member args fuel next (out ++ piece) rest
    | c :: rest => formatFields member args fuel next (out.push c) rest

def call (member : Value → String → Outcome Value) (s : String) (name : String) (args : Arguments) :
    Outcome Value := do
  let cs := s.toList
  match caseChange name with
  | some change => do
    checkPlain args 0 0
    return .str (change s)
  | none =>
  match classTest name with
  | some test => do
    checkPlain args 0 0
    return .bool (!cs.isEmpty && cs.all test)
  | none =>
  match name with
  | "isascii" => checkPlain args 0 0; return .bool (cs.all fun c => c.toNat < 128)
  | "isprintable" => checkPlain args 0 0; return .bool (cs.all isPrintable)
  | "isidentifier" => checkPlain args 0 0; return .bool (isIdentifier s)
  | "isupper" =>
    checkPlain args 0 0
    return .bool (cs.any isUpper && !cs.any fun c => isLower c || isTitled c)
  | "islower" =>
    checkPlain args 0 0
    return .bool (cs.any isLower && !cs.any fun c => isUpper c || isTitled c)
  | "istitle" => checkPlain args 0 0; return .bool (isTitleCase cs)
  | "center" | "ljust" | "rjust" => justify name cs args
  | "strip" | "lstrip" | "rstrip" => strip name cs args
  | "find" | "rfind" | "index" | "rindex" | "count" => search name cs args
  | "startswith" | "endswith" => boundary name cs args
  | "split" | "rsplit" => split name cs args
  | "partition" | "rpartition" => partition name cs args
  | "splitlines" =>
    checkNamed args 1 ["keepends"]
    let keep ← match argument args 0 "keepends" with
      | some v => do pure ((← intArg v) != 0)
      | none => pure false
    return texts (lines keep cs)
  | "replace" =>
    checkPlain args 2 3
    let old ← textArg (args.positional.getD 0 .none)
    let new ← textArg (args.positional.getD 1 .none)
    return text (replaceIn old new cs (← limitArg args.positional[2]?))
  | "join" =>
    checkPlain args 1 1
    let pieces ← (← (args.positional.getD 0 .none).elements).mapM textArg
    return text (List.intercalate cs pieces)
  | "zfill" =>
    checkPlain args 1 1
    let width ← intArg (args.positional.getD 0 .none)
    let zeros := List.replicate (width.toNat - cs.length) '0'
    return text (match cs with
      | '+' :: rest => '+' :: zeros ++ rest
      | '-' :: rest => '-' :: zeros ++ rest
      | _ => zeros ++ cs)
  | "expandtabs" =>
    checkNamed args 1 ["tabsize"]
    let size ← ((argument args 0 "tabsize").map intArg).getD (.ok 8)
    return text (expandTabs size cs)
  | "removeprefix" =>
    checkPlain args 1 1
    let lead ← textArg (args.positional.getD 0 .none)
    return text (if lead.isPrefixOf cs then cs.drop lead.length else cs)
  | "removesuffix" =>
    checkPlain args 1 1
    let tail ← textArg (args.positional.getD 0 .none)
    return text (if !tail.isEmpty && tail.isSuffixOf cs then cs.take (cs.length - tail.length) else cs)
  | "encode" =>
    checkNamed args 2 ["encoding", "errors"]
    let encoding ← ((argument args 0 "encoding").map textArg).getD (.ok "utf-8".toList)
    let mode ← ((argument args 1 "errors").map textArg).getD (.ok "strict".toList)
    match encodingName (String.ofList encoding) with
    | some "utf-8" => return .bytes (utf8 s)
    | some "ascii" => return .bytes (← encodeBelow 128 (String.ofList mode) cs)
    | some _ => return .bytes (← encodeBelow 256 (String.ofList mode) cs)
    | none => .error .unknownEncoding
  | "format" => do
    let (out, _) ← formatFields member args (4 * cs.length + 8) 0 "" cs
    return .str out
  | "format_map" => do
    checkPlain args 1 1
    match args.positional with
    | [.dict _ entries] =>
      let named := entries.filterMap fun (k, v) => k.text?.map (·, v)
      let (out, _) ← formatFields member ⟨[], named⟩ (4 * cs.length + 8) 0 "" cs
      return .str out
    | _ => .error .wrongType
  | _ => .error .missingMember

end Colloquy.TextMethod
