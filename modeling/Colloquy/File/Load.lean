import Colloquy.File.FlowFile
import Colloquy.Yaml.Document

/-!
# Loading flow files

A flow file is found by its path; a directory stands for the file `flows.yaml` in it. How files are
looked up is left to the caller.
-/

namespace Colloquy

inductive FileEntry where
  | directory
  | file (content : String)

namespace FilePath

def segments (path : String) : List String :=
  ((Text.splitWhen (· == '/') path.toList).map String.ofList).filter fun s => s != "" && s != "."

def isAbsolute (path : String) : Bool := path.toList.head? == some '/'

/-- How a path is shown: without empty segments and single points. -/
def shown (path : String) : String :=
  let body := "/".intercalate (segments path)
  let root := match path.toList with
    | ['/', '/'] => "//"
    | '/' :: '/' :: c :: _ => if c == '/' then "/" else "//"
    | '/' :: _ => "/"
    | _ => ""
  if root.isEmpty && body.isEmpty then "." else root ++ body

def join (directory name : String) : String := shown (directory ++ "/" ++ name)

/-- Follows segments from a directory, given by its own segments from the outside in. -/
def follow (files : List (List String × String)) : List String → List String → Option FileEntry
  | here, [] =>
    match files.lookup here with
    | some content => some (.file content)
    | none => if here.isEmpty || files.any fun (f, _) => here.isPrefixOf f then some .directory else none
  | here, ".." :: rest =>
    if here.isEmpty then none
    else if files.any fun (f, _) => here.isPrefixOf f && f != here then follow files here.dropLast rest
    else none
  | here, name :: rest =>
    if here.isEmpty || files.any fun (f, _) => here.isPrefixOf f && f != here then
      follow files (here ++ [name]) rest
    else none

def find (files : List (String × String)) (path : String) : Option FileEntry :=
  if isAbsolute path then none
  else follow (files.map fun (name, content) => (segments name, content)) [] (segments path)

end FilePath

namespace FlowFile

/-- The content of a flow file that is written in YAML. An empty document counts as an empty mapping. -/
def parse (source text : String) : Except Error FlowFile := do
  match Yaml.load text with
  | .error .malformed => .error (.malformedFile source)
  | .error (.fault f) => .error (.fault f)
  | .ok v =>
    let file ← ofValue source (if v.truthy then v else .dict .anonymous [])
    if file.flows.any fun (_, flow) => Yaml.isEndless flow then .error (.fault .endlessData)
    return file

def load {m : Type → Type} [Monad m] (find : String → m (Option FileEntry)) (path : String) :
    m (Except Error FlowFile) := do
  let path := FilePath.shown path
  let read (path : String) (entry : Option FileEntry) : Except Error FlowFile :=
    match entry with
    | some (.file content) => parse path content
    | some .directory => .error (.fault .notFile)
    | none => .error (.fileMissing path)
  match ← find path with
  | some .directory =>
    let inner := FilePath.join path "flows.yaml"
    return read inner (← find inner)
  | entry => return read path entry

end FlowFile

end Colloquy
