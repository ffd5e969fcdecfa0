import Colloquy.Value.Basic

/-!
# Shared objects

Lists and dictionaries are shared: two variables may hold the same one, and a change made through
one of them shows through the other. A value carries the content its objects had when it was built;
the heap records the content of the objects that changed since then. As long as nothing changes the
heap is empty and a value is exactly what it shows.
-/

namespace Colloquy

namespace Value

mutual

/-- Puts the current content in the place of every object that `content` knows. -/
def refresh (content : Nat → Option Value) : Value → Value
  | .list (.object n) items =>
    match content n with
    | some v => v
    | Option.none => .list (.object n) (refreshAll content items)
  | .list id items => .list id (refreshAll content items)
  | .dict (.object n) entries =>
    match content n with
    | some v => v
    | Option.none => .dict (.object n) (refreshEntries content entries)
  | .dict id entries => .dict id (refreshEntries content entries)
  | .view kind (.object n) entries =>
    match content n with
    | some (.dict _ current) => .view kind (.object n) current
    | _ => .view kind (.object n) (refreshEntries content entries)
  | .view kind id entries => .view kind id (refreshEntries content entries)
  | .tuple items => .tuple (refreshAll content items)
  | .set items => .set items
  | .stream name items => .stream name (refreshAll content items)
  | .method receiver name => .method (refresh content receiver) name
  | .negated v => .negated (refresh content v)
  | .model kind fields extras =>
    .model kind (refreshFields content fields) (refreshFields content extras)
  | .jump path vars => .jump path (refresh content vars)
  | v => v

def refreshAll (content : Nat → Option Value) : List Value → List Value
  | [] => []
  | v :: vs => refresh content v :: refreshAll content vs

def refreshEntries (content : Nat → Option Value) : Entries → Entries
  | [] => []
  | (k, v) :: es => (k, refresh content v) :: refreshEntries content es

def refreshFields (content : Nat → Option Value) : List (String × Value) → List (String × Value)
  | [] => []
  | (k, v) :: fs => (k, refresh content v) :: refreshFields content fs

end

mutual

/-- Gives identities from `next` on to the objects in a value: to the anonymous ones, or to all of
them if `all` is set. An object that keeps its identity keeps its content too. -/
def adopt (all : Bool) (next : Nat) : Value → Value × Nat
  | .list id items =>
    if all || id == .anonymous then
      let (items, n) := adoptAll all (next + 1) items
      (.list (.object next) items, n)
    else (.list id items, next)
  | .dict id entries =>
    if all || id == .anonymous then
      let (entries, n) := adoptEntries all (next + 1) entries
      (.dict (.object next) entries, n)
    else (.dict id entries, next)
  | .tuple items =>
    let (items, n) := adoptAll all next items
    (.tuple items, n)
  | .negated v =>
    let (v, n) := adopt all next v
    (.negated v, n)
  | v => (v, next)

def adoptAll (all : Bool) (next : Nat) : List Value → List Value × Nat
  | [] => ([], next)
  | v :: vs =>
    let (v, n) := adopt all next v
    let (vs, n) := adoptAll all n vs
    (v :: vs, n)

def adoptEntries (all : Bool) (next : Nat) : Entries → Entries × Nat
  | [] => ([], next)
  | (k, v) :: es =>
    let (v, n) := adopt all next v
    let (es, n) := adoptEntries all n es
    ((k, v) :: es, n)

end

end Value

/-- Content of the objects that changed, and the first identity that is free. -/
structure Heap where
  next : Nat := 0
  contents : List (Nat × Value) := []

namespace Heap

/-- Current content of an object that changed. Content may hold changed objects in turn; `depth`
bounds how deep they are followed. -/
def content (heap : Heap) : Nat → Nat → Option Value
  | 0, _ => none
  | depth + 1, n => (heap.contents.lookup n).map fun v =>
      match v with
      | .list id items => .list id (Value.refreshAll (content heap depth) items)
      | .dict id entries => .dict id (Value.refreshEntries (content heap depth) entries)
      | v => v

def current (heap : Heap) (v : Value) : Value :=
  if heap.contents.isEmpty then v else v.refresh (heap.content heap.contents.length)

/-- Records new content of an object. -/
def write (heap : Heap) (n : Nat) (v : Value) : Heap :=
  { heap with contents := (n, v) :: heap.contents.filter (·.1 != n) }

/-- Gives identities to the anonymous objects of a value. -/
def store (heap : Heap) (v : Value) : Value × Heap :=
  let (v, next) := v.adopt false heap.next
  (v, { heap with next })

/-- Gives identities to the anonymous objects inside an object. -/
def storeContent (heap : Heap) (v : Value) : Value × Heap :=
  match v with
  | .list id items =>
    let (items, next) := Value.adoptAll false heap.next items
    (.list id items, { heap with next })
  | .dict id entries =>
    let (entries, next) := Value.adoptEntries false heap.next entries
    (.dict id entries, { heap with next })
  | v => (v, heap)

def copy (heap : Heap) (v : Value) : Value × Heap :=
  let (v, next) := v.adopt true heap.next
  (v, { heap with next })

@[simp] theorem current_of_isEmpty {heap : Heap} (h : heap.contents = []) (v : Value) :
    heap.current v = v := by
  simp [current, h]

end Heap

end Colloquy
