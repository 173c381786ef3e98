import PathQuery.Decoding
import PathQuery.Evaluation.Clashes
import PathQuery.Query.Parser
import PathQuery.Rendering
/-!
Running queries: parsing, decoding and evaluating, and what is reported on the way.
-/
namespace PathQuery

inductive Level where
  | debug
  | info
  | warn
  deriving DecidableEq, Repr

def Level.name : Level → String
  | .debug => "DEBUG"
  | .info => "INFO"
  | .warn => "WARN"

inductive Report where
  | parsed (parts : List Query.Part)
  | part (index : Nat) (part : Query.Part)
  | selected (query : String) (count : Nat)
  | found (kind path : String)
  | renamed (clash : Document.Clash)
  | saved (path : String)

namespace Query

def Specifier.description : Specifier → String
  | .parent => "Parent"
  | .children => "Children"
  | .descendants => "Descendants"
  | .literal text => s!"Literal({Text.quoted text})"

def Filter.description : Filter → String
  | .equals text => s!"Equality({Text.quoted text})"
  | .matching pattern => s!"Regex(Regex({Text.quoted pattern.source}))"
  | .negated filter => s!"Invert({filter.description})"

def Part.description (p : Part) : String :=
  let filters := ", ".intercalate (p.filters.map Filter.description)
  s!"QueryPart \x7b specifier: {p.specifier.description}, filters: [{filters}] \x7d"

end Query

namespace Report

def level : Report → Level
  | .parsed _ => .info
  | .part _ _ => .info
  | .selected _ _ => .debug
  | .found _ _ => .debug
  | .renamed _ => .warn
  | .saved _ => .info

def source : Report → String
  | .parsed _ => "uniquery::runner"
  | .part _ _ => "uniquery::runner"
  | .selected _ _ => "uniquery::runner"
  | .found _ _ => "uniquery::runner"
  | .renamed _ => "uniquery::document::export"
  | .saved _ => "uniquery"

def message : Report → String
  | .parsed parts => s!"Parsed query: {Text.quoted (Query.text parts)} ({parts.length} parts)"
  | .part index p => s!"  part {index}: {p.description}"
  | .selected query count => s!"Query {Text.quoted query} selected {count} values"
  | .found kind path => s!"  {kind} at {Text.quoted path}"
  | .renamed clash => s!"Duplicate JSON key {Text.quoted clash.text} written as {Text.quoted clash.name}"
  | .saved path => s!"Saved configuration to {path}"

def line (r : Report) : String := s!"{r.level.name} {r.source}: {r.message}"

end Report

inductive RunError where
  | decode (error : DecodeError)
  | parse (error : Query.ParseError)
  | evaluation (error : EvaluationError)

def RunError.message : RunError → String
  | .decode e => e.message
  | .parse e => e.message
  | .evaluation e => e.message

structure RunOptions where
  verbose : Bool
  depthLimit : Nat
  deriving DecidableEq, Repr

namespace RunOptions

def default : RunOptions := ⟨false, defaultDepthLimit⟩

instance : Inhabited RunOptions := ⟨default⟩

def parseReports (o : RunOptions) (parts : List Query.Part) : List Report :=
  if o.verbose then .parsed parts :: parts.zipIdx.map fun p => .part p.2 p.1 else []

def resultReports (query : String) (doc : Document) (results : List Match) : List Report :=
  .selected query results.length :: results.map fun m => .found (doc.get m.node).kind m.path

def run (o : RunOptions) (query : String) (doc : Document) (mode : ResultMode) :
    List Report × Except RunError (List Match) :=
  match Query.parse query with
  | .error e => ([], .error (.parse e))
  | .ok parts =>
    let reports := o.parseReports parts ++ (selectClashes doc parts o.depthLimit).map .renamed
    match select doc parts mode o.depthLimit with
    | .error e => (reports, .error (.evaluation e))
    | .ok results => (reports ++ resultReports query doc results, .ok results)

/-- Runs a query on the document that a text stands for, and gives the document and the results. The
query is parsed first, so its errors come before those of the text. -/
def runText (o : RunOptions) (query text : String) (format : InputFormat) :
    Except RunError (Document × List Match) := do
  let parts ← (Query.parse query).mapError .parse
  let doc ← (Document.decode format text).mapError .decode
  let results ← (select doc parts .ordered o.depthLimit).mapError .evaluation
  .ok (doc, results)

def runToJson (o : RunOptions) (query text : String) (format : InputFormat) :
    Except RunError (List Json) :=
  (o.runText query text format).map fun r => r.2.map fun m => r.1.toJson m.node

def runToYaml (o : RunOptions) (query text : String) : Except RunError (List Yaml) :=
  (o.runText query text .yaml).map fun r => r.2.map fun m => r.1.toYaml m.node

end RunOptions

end PathQuery
