import PathQuery.Document
import PathQuery.Json.Writer
/-!
Documents from JSON values, JSON values from documents, and the text of a node.

An object has texts as names, so the keys of a generic mapping are written as texts. Where an earlier
member has the name already, the place of the entry is put behind it.
-/
namespace PathQuery.Document

mutual

/-- Adds a value with all its parts, the parts first, and gives its place. -/
def insertJson (doc : Document) : Json → Document × NodeId
  | .null => doc.insert .null
  | .bool b => doc.insert (.bool b)
  | .number n => doc.insert (.number n.toBinary64)
  | .string s => doc.insert (.text s)
  | .array items =>
    let (doc, ids) := insertJsonItems doc items
    doc.insert (.sequence ids)
  | .object members =>
    let (doc, entries) := insertJsonMembers doc members
    doc.insert (.mapping entries)

def insertJsonItems (doc : Document) : List Json → Document × List NodeId
  | [] => (doc, [])
  | item :: rest =>
    let (doc, id) := insertJson doc item
    let (doc, ids) := insertJsonItems doc rest
    (doc, id :: ids)

def insertJsonMembers (doc : Document) : List (String × Json) → Document × List (String × NodeId)
  | [] => (doc, [])
  | (name, v) :: rest =>
    let (doc, id) := insertJson doc v
    let (doc, entries) := insertJsonMembers doc rest
    (doc, (name, id) :: entries)

end

def ofJson (v : Json) : Document :=
  let (doc, root) := insertJson null v
  doc.setRoot root

def jsonOfNumber (x : Binary64) : Json :=
  match x.toShortInt? with
  | some n => .number (.integer n)
  | none =>
    match x with
    | .finite _ _ _ _ => .number (.real x)
    | _ => .null

/-- The text of a node, given the JSON value of the node: strings as they are, other scalars in
their usual spelling, and containers in JSON. -/
def textOf (node : Node) (json : Json) : String :=
  match node with
  | .null => "null"
  | .bool b => if b then "true" else "false"
  | .number x => x.text
  | .text s => s
  | .sequence _ => json.text
  | .mapping _ => json.text
  | .genericMapping _ => json.text

/-- The name of a member: its text, followed by its place if the text is taken. -/
def memberName (taken : List String) (position : Nat) (text : String) : String :=
  if taken.contains text then s!"{text}#{position}" else text

def memberNames (taken : List String) (position : Nat) : List String → List String
  | [] => []
  | text :: rest =>
    let name := memberName taken position text
    name :: memberNames (name :: taken) (position + 1) rest

def objectOf (members : List (String × Json)) : Json :=
  .object (members.foldl (fun acc m => insertEntry m.1 m.2 acc) [])

def jsonOf (doc : Document) (node : Node) (json : NodeId → Json) : Json :=
  match node with
  | .null => .null
  | .bool b => .bool b
  | .number x => jsonOfNumber x
  | .text s => .string s
  | .sequence items => .array (items.map json)
  | .mapping entries => objectOf (entries.map fun e => (e.1, json e.2))
  | .genericMapping entries =>
    let texts := entries.map fun e => textOf (doc.get e.1) (json e.1)
    objectOf ((memberNames [] 0 texts).zip (entries.map fun e => json e.2))

def toJson (doc : Document) (id : NodeId) : Json := doc.fold doc.jsonOf .null id

def textAt (doc : Document) (id : NodeId) : String := textOf (doc.get id) (doc.toJson id)

/-- A key of a generic mapping whose text was taken, and the name that its member got. -/
structure Clash where
  text : String
  name : String
  deriving DecidableEq, Repr

/-- The clashes of an object, those met in the texts of its keys and in its values included: for
each entry there are its text, and what was met on the way to its text and to its value. -/
def clashesOfEntries (taken : List String) (position : Nat) :
    List (String × List Clash × List Clash) → List Clash
  | [] => []
  | (text, inKey, inValue) :: rest =>
    let name := memberName taken position text
    inKey ++ (if taken.contains text then [⟨text, name⟩] else []) ++ inValue ++
      clashesOfEntries (name :: taken) (position + 1) rest

def clashesOfText (node : Node) (clashes : List Clash) : List Clash :=
  match node with
  | .sequence _ => clashes
  | .mapping _ => clashes
  | .genericMapping _ => clashes
  | _ => []

def clashesOf (doc : Document) (node : Node) (clashes : NodeId → List Clash) : List Clash :=
  match node with
  | .sequence items => items.flatMap clashes
  | .mapping entries => entries.flatMap fun e => clashes e.2
  | .genericMapping entries =>
    clashesOfEntries [] 0 (entries.map fun e =>
      (doc.textAt e.1, clashesOfText (doc.get e.1) (clashes e.1), clashes e.2))
  | _ => []

def clashes (doc : Document) (id : NodeId) : List Clash := doc.fold doc.clashesOf [] id

def textClashes (doc : Document) (id : NodeId) : List Clash :=
  clashesOfText (doc.get id) (doc.clashes id)

end PathQuery.Document
