import PathQuery.Evaluation
/-!
The clashes met during evaluation. The text of a key that is a container is its JSON value. It is made
wherever a literal is compared with the key, and again for the paths of the results.
-/
namespace PathQuery

open Document (Clash)

def Document.comparisonClashes (doc : Document) (node : Node) : Query.Specifier → List Clash
  | .literal _ =>
    match node with
    | .genericMapping entries => entries.flatMap fun e => doc.textClashes e.1
    | _ => []
  | _ => []

def Document.searchClashes (doc : Document) (text : String) : List (NodeId × NodeId) → List Clash
  | [] => []
  | e :: rest =>
    doc.textClashes e.1 ++
      if doc.keyNodeText e.1 = text then [] else doc.searchClashes text rest

def Document.segmentClashes (doc : Document) (parent : Node) : Key → List Clash
  | .entry key position =>
    doc.textClashes key ++
      match parent with
      | .genericMapping entries =>
        doc.searchClashes (doc.keyNodeText key) (entries.take position)
      | _ => []
  | _ => []

/-- The clashes met on the way to the path of an element, whose last key comes first. -/
def Trail.pathClashes (t : Trail) (doc : Document) (id : ElementId) : List Clash :=
  match (t.get id).origin with
  | none => []
  | some (parent, key) =>
    let here := doc.segmentClashes (doc.get (t.get parent).node) key
    if _ : parent < id then here ++ pathClashes t doc parent else here
termination_by id

namespace Evaluation

/-- What is met from each element in turn, up to the first one from which evaluation fails, and
whether there is none. -/
def clashesOfEach (visit : ElementId → List Clash × Bool) : List ElementId → List Clash × Bool
  | [] => ([], true)
  | id :: rest =>
    match visit id with
    | (met, false) => (met, false)
    | (met, true) =>
      let (more, succeeds) := clashesOfEach visit rest
      (met ++ more, succeeds)

def clashesOfFollow (doc : Document) (error : EvaluationError) :
    List Query.Part → Nat → ElementId → Trail → List Clash × Bool
  | _, 0, _, _ => ([], false)
  | [], _ + 1, _, _ => ([], true)
  | part :: rest, budget + 1, id, t =>
    let here := doc.comparisonClashes (doc.get (t.get id).node) part.specifier
    match select doc error (budget + 1) id part.specifier t with
    | (_, .error _) => (here, false)
    | (t, .ok selected) =>
      let (below, succeeds) := clashesOfEach
        (fun id =>
          if Query.acceptAll part.filters (doc.get (t.get id).node) then
            clashesOfFollow doc error rest budget id t
          else ([], true))
        selected
      (here ++ below, succeeds)

end Evaluation

/-- The clashes met on the way to the results of a query: those of the evaluation and, if it succeeds,
those of the paths. -/
def selectClashes (doc : Document) (parts : List Query.Part) (limit : Nat) : List Clash :=
  let (start, root) := Trail.empty.pushRoot doc.root
  let met := Evaluation.clashesOfFollow doc (.depthExceeded limit) parts (limit + 1) root start
  match evaluate doc limit parts .empty with
  | (_, .error _) => met.1
  | (t, .ok found) => met.1 ++ found.flatMap (t.pathClashes doc)

end PathQuery
