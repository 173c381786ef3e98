import PathQuery.Document.Json
import PathQuery.Document.Yaml
import PathQuery.Text.Blank
import PathQuery.Yaml.Writer
/-!
Writing the nodes of a document.
-/
namespace PathQuery

inductive OutputFormat where
  | json
  | yaml
  deriving DecidableEq, Repr

namespace OutputFormat

def all : List OutputFormat := [.json, .yaml]

def name : OutputFormat → String
  | .json => "json"
  | .yaml => "yaml"

def ofName? (name : String) : Option OutputFormat := all.find? fun f => f.name = name

end OutputFormat

namespace Document

/-- A node as text: JSON on one line, and YAML without white space at its end. -/
def render (doc : Document) (id : NodeId) : OutputFormat → String
  | .json => (doc.toJson id).text
  | .yaml => String.ofList (Text.trimEnd (doc.toYaml id).text.toList)

def renderClashes (doc : Document) (id : NodeId) : OutputFormat → List Clash
  | .json => doc.clashes id
  | .yaml => []

end Document

end PathQuery
