import PathQuery.Document
import PathQuery.Yaml.Scalar
/-!
Documents from YAML values, and YAML values from documents.
-/
namespace PathQuery.Document

mutual

/-- Adds a value with all its parts, the parts first, and gives its place. A key comes before its
value. -/
def insertYaml (doc : Document) : Yaml → Document × NodeId
  | .null => doc.insert .null
  | .bool b => doc.insert (.bool b)
  | .integer n => doc.insert (.number (.ofInt n))
  | .real spelling => doc.insert (.number ((Yaml.realValue? spelling).getD .nan))
  | .string s => doc.insert (.text s)
  | .sequence items =>
    let (doc, ids) := insertYamlItems doc items
    doc.insert (.sequence ids)
  | .mapping entries =>
    let (doc, ids) := insertYamlEntries doc entries
    doc.insert (.genericMapping ids)
  | .unresolved => doc.insert .null

def insertYamlItems (doc : Document) : List Yaml → Document × List NodeId
  | [] => (doc, [])
  | item :: rest =>
    let (doc, id) := insertYaml doc item
    let (doc, ids) := insertYamlItems doc rest
    (doc, id :: ids)

def insertYamlEntries (doc : Document) : List (Yaml × Yaml) → Document × List (NodeId × NodeId)
  | [] => (doc, [])
  | (k, v) :: rest =>
    let (doc, key) := insertYaml doc k
    let (doc, value) := insertYaml doc v
    let (doc, entries) := insertYamlEntries doc rest
    (doc, (key, value) :: entries)

end

def ofYaml (v : Yaml) : Document :=
  let (doc, root) := insertYaml null v
  doc.setRoot root

def yamlMapping (entries : List (Yaml × Yaml)) : Yaml :=
  .mapping (entries.foldl (fun acc e => Yaml.insertEntry e.1 e.2 acc) [])

def yamlOf (node : Node) (yaml : NodeId → Yaml) : Yaml :=
  match node with
  | .null => .null
  | .bool b => .bool b
  | .number x => .ofNumber x
  | .text s => .string s
  | .sequence items => .sequence (items.map yaml)
  | .mapping entries => yamlMapping (entries.map fun e => (.string e.1, yaml e.2))
  | .genericMapping entries => yamlMapping (entries.map fun e => (yaml e.1, yaml e.2))

def toYaml (doc : Document) (id : NodeId) : Yaml := doc.fold yamlOf .null id

end PathQuery.Document
