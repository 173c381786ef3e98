import PathQuery.Proofs.Document.Decoded
import PathQuery.Proofs.Document.Fold

/-!
Documents as trees. A node unfolds to the tree of all that is below it, shared
nodes once for each way to them; what is added to a document later changes no
tree. The tree of a JSON or YAML value has its numbers as a document holds them.
-/
namespace PathQuery

inductive Tree where
  | null
  | bool (value : Bool)
  | number (value : Binary64)
  | text (value : String)
  | sequence (items : List Tree)
  | mapping (entries : List (String × Tree))
  | genericMapping (entries : List (Tree × Tree))

namespace Json

mutual

def tree : Json → Tree
  | .null => .null
  | .bool b => .bool b
  | .number n => .number n.toBinary64
  | .string s => .text s
  | .array items => .sequence (treeItems items)
  | .object members => .mapping (treeMembers members)

def treeItems : List Json → List Tree
  | [] => []
  | item :: rest => tree item :: treeItems rest

def treeMembers : List (String × Json) → List (String × Tree)
  | [] => []
  | (name, v) :: rest => (name, tree v) :: treeMembers rest

end

mutual

/-- The number of values in a value, itself included. -/
def size : Json → Nat
  | .array items => sizeItems items + 1
  | .object members => sizeMembers members + 1
  | _ => 1

def sizeItems : List Json → Nat
  | [] => 0
  | item :: rest => size item + sizeItems rest

def sizeMembers : List (String × Json) → Nat
  | [] => 0
  | (_, v) :: rest => size v + sizeMembers rest

end

end Json

namespace Yaml

mutual

/-- What is not resolved is null. -/
def tree : Yaml → Tree
  | .null => .null
  | .bool b => .bool b
  | .integer n => .number (.ofInt n)
  | .real spelling => .number ((realValue? spelling).getD .nan)
  | .string s => .text s
  | .sequence items => .sequence (treeItems items)
  | .mapping entries => .genericMapping (treeEntries entries)
  | .unresolved => .null

def treeItems : List Yaml → List Tree
  | [] => []
  | item :: rest => tree item :: treeItems rest

def treeEntries : List (Yaml × Yaml) → List (Tree × Tree)
  | [] => []
  | (k, v) :: rest => (tree k, tree v) :: treeEntries rest

end

mutual

def size : Yaml → Nat
  | .sequence items => sizeItems items + 1
  | .mapping entries => sizeEntries entries + 1
  | _ => 1

def sizeItems : List Yaml → Nat
  | [] => 0
  | item :: rest => size item + sizeItems rest

def sizeEntries : List (Yaml × Yaml) → Nat
  | [] => 0
  | (k, v) :: rest => size k + (size v + sizeEntries rest)

end

end Yaml

namespace Document

variable {doc d : Document} {id : NodeId}

def treeOf (node : Node) (tree : NodeId → Tree) : Tree :=
  match node with
  | .null => .null
  | .bool b => .bool b
  | .number x => .number x
  | .text s => .text s
  | .sequence items => .sequence (items.map tree)
  | .mapping entries => .mapping (entries.map fun e => (e.1, tree e.2))
  | .genericMapping entries => .genericMapping (entries.map fun e => (tree e.1, tree e.2))

/-- The tree that a node unfolds to. -/
def treeAt (doc : Document) (id : NodeId) : Tree := doc.fold treeOf .null id

theorem usesRefs_treeOf : UsesRefs treeOf := by
  intro node f g same
  cases node with
  | sequence items => exact congrArg Tree.sequence (List.map_congr_left same)
  | mapping entries => exact congrArg Tree.mapping (map_mapping_congr same Prod.mk)
  | genericMapping entries =>
    exact congrArg Tree.genericMapping (map_genericMapping_congr same fun _ k v => (k, v))
  | _ => rfl

theorem treeAt_eq (acyclic : doc.Acyclic) (id : NodeId) :
    doc.treeAt id = treeOf (doc.get id) doc.treeAt := fold_eq usesRefs_treeOf acyclic id

/-- Nodes that are added change nothing in the trees of those that were there. -/
theorem Kept.treeAt_eq (kept : doc.Kept d) (wellFormed : doc.WellFormed)
    (wellFormed' : d.WellFormed) (hid : id < doc.size) : d.treeAt id = doc.treeAt id := by
  induction id using Nat.strongRecOn with
  | _ id ih =>
    rw [Document.treeAt_eq wellFormed'.acyclic, Document.treeAt_eq wellFormed.acyclic, kept id hid]
    refine usesRefs_treeOf _ _ _ fun r hr => ?_
    have lt := wellFormed.refs_lt id r hr
    exact ih r lt (lt.trans hid)

end Document

end PathQuery
