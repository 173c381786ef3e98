import PathQuery.Number.Binary64
/-!
Documents: an arena of nodes, one of which is the root. A container refers to its children by
their places in the arena, so a node may have many parents. A document is well formed when every
node refers to earlier nodes only; then there are no cycles, and a walk down the references ends.
-/
namespace PathQuery

abbrev NodeId := Nat

/-- A node of a document. A mapping has texts as keys; the keys of a generic mapping are nodes
themselves, so they can be of any kind. -/
inductive Node where
  | null
  | bool (value : Bool)
  | number (value : Binary64)
  | text (value : String)
  | sequence (items : List NodeId)
  | mapping (entries : List (String × NodeId))
  | genericMapping (entries : List (NodeId × NodeId))
  deriving DecidableEq, Inhabited

namespace Node

def kind : Node → String
  | .null => "null"
  | .bool _ => "bool"
  | .number _ => "number"
  | .text _ => "string"
  | .sequence _ => "sequence"
  | .mapping _ => "mapping"
  | .genericMapping _ => "mapping"

def text? : Node → Option String
  | .text s => some s
  | _ => none

/-- The nodes that a node refers to, in order; of a generic mapping, each key before its value. -/
def refs : Node → List NodeId
  | .null => []
  | .bool _ => []
  | .number _ => []
  | .text _ => []
  | .sequence items => items
  | .mapping entries => entries.map Prod.snd
  | .genericMapping entries => entries.flatMap fun e => [e.1, e.2]

end Node

/-- Puts an entry into a list of entries: in the place of the entry with the same key if there is
one, and at the end otherwise. -/
def insertEntry {κ α : Type} [DecidableEq κ] (key : κ) (value : α) : List (κ × α) → List (κ × α)
  | [] => [(key, value)]
  | (k, v) :: rest => if k = key then (k, value) :: rest else (k, v) :: insertEntry key value rest

def Node.ofEntries (entries : List (String × NodeId)) : Node :=
  .mapping (entries.foldl (fun acc e => insertEntry e.1 e.2 acc) [])

structure Document where
  nodes : Array Node
  root : NodeId
  deriving DecidableEq

namespace Document

def null : Document := ⟨#[.null], 0⟩

instance : Inhabited Document := ⟨null⟩

def size (doc : Document) : Nat := doc.nodes.size

def isEmpty (doc : Document) : Bool := doc.size ≤ 1

/-- The node at a place; null stands outside the arena. -/
def get (doc : Document) (id : NodeId) : Node := doc.nodes[id]?.getD .null

def insert (doc : Document) (node : Node) : Document × NodeId :=
  (⟨doc.nodes.push node, doc.root⟩, doc.nodes.size)

def setRoot (doc : Document) (root : NodeId) : Document := ⟨doc.nodes, root⟩

def ofNode (node : Node) : Document :=
  let (doc, id) := null.insert node
  doc.setRoot id

def foldWithin {α : Type} (doc : Document) (step : Node → (NodeId → α) → α) (stop : α) :
    Nat → NodeId → α
  | 0, _ => stop
  | levels + 1, id => step (doc.get id) (doc.foldWithin step stop levels)

/-- What `step` makes of a node and of what it makes of the nodes below. Without cycles, no walk down
the references has more levels than the arena has nodes. -/
def fold {α : Type} (doc : Document) (step : Node → (NodeId → α) → α) (stop : α) (id : NodeId) : α :=
  doc.foldWithin step stop (doc.size + 1) id

/-- Every node refers to earlier nodes only, and the root is in the arena. -/
structure WellFormed (doc : Document) : Prop where
  refs_lt : ∀ id, ∀ r ∈ (doc.get id).refs, r < id
  root_lt : doc.root < doc.size

end Document

end PathQuery
