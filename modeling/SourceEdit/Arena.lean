/-!
# Index arena

Nodes live in one array and are addressed by their index.  Each node keeps its value, its parent
and the list of its children; editing only changes child lists and parent links.  A detached node
keeps its place in the array but is not reachable from the root, which is node 0.

The operations are `alloc`, `insertChild`, `appendChild`, `detach`, `clearChildren` and `replace`.
`descendants` lists a node and everything below it in document order, `isAttached` asks whether the
root can be reached by parent links.
-/

namespace SourceEdit

/-- The address of a node. -/
abbrev NodeId := Nat

/-- A node: its value and its links. -/
structure Arena.Entry (α : Type) where
  value : α
  parent : Option NodeId := none
  children : List NodeId := []
deriving Repr

/-- A tree whose nodes are addressed by index. -/
structure Arena (α : Type) where
  entries : Array (Arena.Entry α)
deriving Repr

namespace Arena

variable {α : Type}

/-- The arena of a single node. -/
def withRoot (value : α) : Arena α := ⟨#[{ value }]⟩

/-- The root. -/
def root (_ : Arena α) : NodeId := 0

/-- The number of nodes, detached ones included. -/
def size (a : Arena α) : Nat := a.entries.size

/-- The value of a node. -/
def get? (a : Arena α) (id : NodeId) : Option α := a.entries[id]?.map (·.value)

/-- The parent of a node. -/
def parent? (a : Arena α) (id : NodeId) : Option NodeId := a.entries[id]?.bind (·.parent)

/-- The children of a node. -/
def children (a : Arena α) (id : NodeId) : List NodeId :=
  match a.entries[id]? with
  | some e => e.children
  | none => []

/-- Changes the entry of a node. -/
def modifyEntry (a : Arena α) (id : NodeId) (f : Entry α → Entry α) : Arena α :=
  ⟨a.entries.modify id f⟩

/-- Changes the value of a node. -/
def modifyValue (a : Arena α) (id : NodeId) (f : α → α) : Arena α :=
  a.modifyEntry id fun e => { e with value := f e.value }

/-- Sets the value of a node. -/
def setValue (a : Arena α) (id : NodeId) (value : α) : Arena α := a.modifyValue id fun _ => value

/-- Sets the parent link of a node. -/
def setParent (a : Arena α) (id : NodeId) (parent : Option NodeId) : Arena α :=
  a.modifyEntry id fun e => { e with parent }

/-- Changes the child list of a node. -/
def modifyChildren (a : Arena α) (id : NodeId) (f : List NodeId → List NodeId) : Arena α :=
  a.modifyEntry id fun e => { e with children := f e.children }

/-- Adds a detached node. -/
def alloc (a : Arena α) (value : α) : Arena α × NodeId :=
  (⟨a.entries.push { value }⟩, a.entries.size)

/-- Takes a node out of its parent's child list. -/
def detach (a : Arena α) (id : NodeId) : Arena α :=
  match a.parent? id with
  | none => a
  | some p => (a.setParent id none).modifyChildren p fun cs => cs.filter (· != id)

/-- Moves `child` under `parent` at `index`, or at the end when there are fewer children. -/
def insertChild (a : Arena α) (parent : NodeId) (index : Nat) (child : NodeId) : Arena α :=
  let a := a.detach child
  (a.modifyChildren parent fun cs => cs.insertIdx (min index cs.length) child).setParent child
    (some parent)

/-- Moves `child` under `parent`, at the end. -/
def appendChild (a : Arena α) (parent child : NodeId) : Arena α :=
  a.insertChild parent (a.children parent).length child

/-- Moves several nodes under `parent`, at the end, in order. -/
def appendChildren (a : Arena α) (parent : NodeId) (nodes : List NodeId) : Arena α :=
  nodes.foldl (fun a child => a.appendChild parent child) a

/-- Detaches every child of a node. -/
def clearChildren (a : Arena α) (id : NodeId) : Arena α :=
  (a.children id).foldl (fun a child => a.setParent child none)
    (a.modifyChildren id fun _ => [])

/-- The place of a node in its parent's child list. -/
def indexInParent? (a : Arena α) (id : NodeId) : Option Nat := do
  let p ← a.parent? id
  (a.children p).idxOf? id

/-- Puts `new` into the slot of `old`; `none` when `old` is detached. -/
def replace? (a : Arena α) (old new : NodeId) : Option (Arena α) := do
  let p ← a.parent? old
  let index ← a.indexInParent? old
  some ((a.detach old).insertChild p index new)

/-- Whether the root is reached in at most `n` steps along parent links. -/
def climbs (a : Arena α) : Nat → NodeId → Bool
  | 0, id => id == a.root
  | n + 1, id =>
    id == a.root ||
      match a.parent? id with
      | some p => a.climbs n p
      | none => false

/-- Whether a node can be reached from the root. -/
def isAttached (a : Arena α) (id : NodeId) : Bool := a.climbs a.size id

/-- The nodes met when a list of pending nodes is worked off, each before its own children. -/
def drain (a : Arena α) : Nat → List NodeId → List NodeId
  | 0, _ => []
  | _ + 1, [] => []
  | n + 1, id :: pending => id :: a.drain n (a.children id ++ pending)

/-- A node and everything below it, in document order. -/
def descendants (a : Arena α) (id : NodeId) : List NodeId := a.drain a.size [id]

end Arena

end SourceEdit
