import PathQuery.Document
/-!
Trails. Evaluation visits positions of a document; each visit is an element of a trail, which says
from which earlier element it was reached and by which key. Elements are only ever added.
-/
namespace PathQuery

abbrev ElementId := Nat

inductive Key where
  | name (name : String)
  | index (index : Nat)
  -- An entry of a generic mapping: the node that is its key, and its place among the entries.
  | entry (key : NodeId) (position : Nat)
  deriving DecidableEq, Inhabited

/-- A visit: the node, and the element and key by which it was reached, unless it is the start. Only
`pushRoot` and `pushChild` add elements, so the parent and the key are there together or not at all,
and `origin` holds both; `parent?` and `key?` give one of them each. -/
structure Element where
  node : NodeId
  origin : Option (ElementId × Key)
  deriving DecidableEq, Inhabited

def Element.parent? (e : Element) : Option ElementId := e.origin.map Prod.fst

def Element.key? (e : Element) : Option Key := e.origin.map Prod.snd

structure Trail where
  elements : Array Element
  deriving DecidableEq

namespace Trail

def empty : Trail := ⟨#[]⟩

instance : Inhabited Trail := ⟨empty⟩

def size (t : Trail) : Nat := t.elements.size

def get (t : Trail) (id : ElementId) : Element := t.elements[id]?.getD ⟨0, none⟩

def push (t : Trail) (e : Element) : Trail := ⟨t.elements.push e⟩

def pushRoot (t : Trail) (node : NodeId) : Trail × ElementId := (t.push ⟨node, none⟩, t.size)

def pushChild (t : Trail) (parent : ElementId) (key : Key) (node : NodeId) : Trail × ElementId :=
  (t.push ⟨node, some (parent, key)⟩, t.size)

def pushChildren (t : Trail) (parent : ElementId) :
    List (Key × NodeId) → Trail × List ElementId
  | [] => (t, [])
  | (key, node) :: rest =>
    let (t, id) := t.pushChild parent key node
    let (t, ids) := t.pushChildren parent rest
    (t, id :: ids)

end Trail

end PathQuery
