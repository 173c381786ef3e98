import PathQuery.Document.Json
import PathQuery.Evaluation.Trail
import PathQuery.Text.Quoted
/-!
Canonical paths: the keys from the root to an element with a dot between any two of them. Texts are
quoted, so a text never looks like an index or a number. A key of a generic mapping that looks like
the key of an earlier entry is followed by the place of its own entry.
-/
namespace PathQuery

def Document.keyNodeText (doc : Document) (id : NodeId) : String :=
  match doc.get id with
  | .text s => Text.quoted s
  | _ => doc.textAt id

def Document.keyText (doc : Document) : Key → String
  | .name name => Text.quoted name
  | .index index => toString index
  | .entry key _ => doc.keyNodeText key

def Document.isShadowed (doc : Document) (parent : Node) (position : Nat) (text : String) : Bool :=
  match parent with
  | .genericMapping entries => (entries.take position).any fun e => doc.keyNodeText e.1 = text
  | _ => false

def Document.segment (doc : Document) (parent : Node) (key : Key) : String :=
  match key with
  | .entry _ position =>
    let text := doc.keyText key
    if doc.isShadowed parent position text then s!"{text}#{position}" else text
  | _ => doc.keyText key

namespace Trail

/-- The keys from the root to an element. Each element is reached from an earlier one. -/
def segments (t : Trail) (doc : Document) (id : ElementId) : List String :=
  match (t.get id).origin with
  | none => []
  | some (parent, key) =>
    let here := doc.segment (doc.get (t.get parent).node) key
    if _ : parent < id then segments t doc parent ++ [here] else [here]
termination_by id

def path (t : Trail) (doc : Document) (id : ElementId) : String :=
  ".".intercalate (t.segments doc id)

end Trail

end PathQuery
