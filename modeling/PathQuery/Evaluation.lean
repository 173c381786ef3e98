import PathQuery.Evaluation.Path
import PathQuery.Query.Filtering
import PathQuery.Text.Digits
/-!
Evaluation of queries. The first part of a query selects elements relative to the current one; from
each of them that its filters accept, the other parts are evaluated, and the results are put one
behind the other. Where no part is left, the current element is the result.

Every part, and every level below an element that is descended into, takes one level of a budget;
when it is used up, evaluation fails. The elements visited until then stay in the trail.
-/
namespace PathQuery

inductive EvaluationError where
  | depthExceeded (limit : Nat)
  deriving DecidableEq, Repr

def EvaluationError.message : EvaluationError → String
  | .depthExceeded limit => s!"query recursion exceeded the maximum depth of {limit}"

def Node.children : Node → List (Key × NodeId)
  | .sequence items => items.zipIdx.map fun item => (.index item.2, item.1)
  | .mapping entries => entries.map fun e => (.name e.1, e.2)
  | .genericMapping entries => entries.zipIdx.map fun e => (.entry e.1.1 e.2, e.1.2)
  | .null => []
  | .bool _ => []
  | .number _ => []
  | .text _ => []

def trueWords : List String := ["true", "on", "enabled", "enable"]
def falseWords : List String := ["false", "off", "disabled", "disable"]

/-- Whether a text denotes the key that a node is: strings have to be the text, truth values have
several words in any case, and all other nodes are compared by their text. -/
def Document.keyMatches (doc : Document) (key : NodeId) (text : String) : Bool :=
  match doc.get key with
  | .text s => s = text
  | .bool b => (if b then trueWords else falseWords).contains (String.ofList (text.toList.map Char.toLower))
  | _ => doc.textAt key = text

/-- The number that an index denotes: digits, behind a plus sign if there is one, below `2 ^ 64`. -/
def indexOf? (text : String) : Option Nat :=
  let ds := match text.toList with
    | '+' :: ds => ds
    | ds => ds
  (Text.nat? 10 ds).filter (· < 2 ^ 64)

def Document.lookup (doc : Document) (node : Node) (text : String) : List (Key × NodeId) :=
  match node with
  | .mapping entries =>
    match entries.find? fun e => e.1 = text with
    | some e => [(.name text, e.2)]
    | none => []
  | .genericMapping entries =>
    (entries.zipIdx.filter fun e => doc.keyMatches e.1.1 text).map fun e =>
      (.entry e.1.1 e.2, e.1.2)
  | .sequence items =>
    match indexOf? text with
    | some index =>
      match items[index]? with
      | some item => [(.index index, item)]
      | none => []
    | none => []
  | .null => []
  | .bool _ => []
  | .number _ => []
  | .text _ => []

/-- The trail after a walk, and the elements found, unless the walk failed. -/
abbrev Walk := Trail × Except EvaluationError (List ElementId)

def Walk.each (walk : ElementId → Trail → Walk) : List ElementId → Trail → Walk
  | [], t => (t, .ok [])
  | id :: rest, t =>
    match walk id t with
    | (t, .error e) => (t, .error e)
    | (t, .ok found) =>
      match Walk.each walk rest t with
      | (t, .error e) => (t, .error e)
      | (t, .ok more) => (t, .ok (found ++ more))

namespace Evaluation

/-- An element and all elements below it, each before those below it; all children of an element are
visited before any of them is descended into. -/
def descend (doc : Document) (error : EvaluationError) : Nat → ElementId → Trail → Walk
  | 0, _, t => (t, .error error)
  | budget + 1, id, t =>
    let (t, children) := t.pushChildren id (doc.get (t.get id).node).children
    match Walk.each (descend doc error budget) children t with
    | (t, .error e) => (t, .error e)
    | (t, .ok below) => (t, .ok (id :: below))

def select (doc : Document) (error : EvaluationError) (budget : Nat) (id : ElementId)
    (specifier : Query.Specifier) (t : Trail) : Walk :=
  let node := doc.get (t.get id).node
  match specifier with
  | .parent => (t, .ok (t.get id).parent?.toList)
  | .children =>
    let (t, ids) := t.pushChildren id node.children
    (t, .ok ids)
  | .descendants => descend doc error budget id t
  | .literal text =>
    let (t, ids) := t.pushChildren id (doc.lookup node text)
    (t, .ok ids)

def follow (doc : Document) (error : EvaluationError) :
    List Query.Part → Nat → ElementId → Trail → Walk
  | _, 0, _, t => (t, .error error)
  | [], _ + 1, id, t => (t, .ok [id])
  -- Each part takes one level, and a descent begins on the level of its part.
  | part :: rest, budget + 1, id, t =>
    match select doc error (budget + 1) id part.specifier t with
    | (t, .error e) => (t, .error e)
    | (t, .ok selected) =>
      Walk.each
        (fun id t =>
          if Query.acceptAll part.filters (doc.get (t.get id).node) then
            follow doc error rest budget id t
          else (t, .ok []))
        selected t

end Evaluation

/-- Evaluates the parts of a query from the root, at most `limit` levels deep; the elements visited
are added to the trail. -/
def evaluate (doc : Document) (limit : Nat) (parts : List Query.Part) (t : Trail) : Walk :=
  let (t, root) := t.pushRoot doc.root
  Evaluation.follow doc (.depthExceeded limit) parts (limit + 1) root t

def defaultDepthLimit : Nat := 512

inductive ResultMode where
  | ordered
  | unique
  deriving DecidableEq, Repr

structure Match where
  node : NodeId
  path : String
  deriving DecidableEq, Repr

/-- The matches whose path neither has been seen nor is that of an earlier match. -/
def firstByPath (seen : List String) : List Match → List Match
  | [] => []
  | m :: rest =>
    if seen.contains m.path then firstByPath seen rest
    else m :: firstByPath (m.path :: seen) rest

def Trail.matchAt (t : Trail) (doc : Document) (id : ElementId) : Match :=
  ⟨(t.get id).node, t.path doc id⟩

def select (doc : Document) (parts : List Query.Part) (mode : ResultMode) (limit : Nat) :
    Except EvaluationError (List Match) :=
  let (t, found) := evaluate doc limit parts .empty
  found.map fun ids =>
    let all := ids.map (t.matchAt doc)
    match mode with
    | .ordered => all
    | .unique => firstByPath [] all

end PathQuery
