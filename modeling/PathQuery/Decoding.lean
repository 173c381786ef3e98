import PathQuery.Document.Json
import PathQuery.Document.Yaml
import PathQuery.Json.Reader
import PathQuery.Text.Blank
import PathQuery.Yaml.Reader
/-!
Reading documents from text.
-/
namespace PathQuery

inductive InputFormat where
  | json
  | yaml
  | jsonl
  | auto
  deriving DecidableEq, Repr

namespace InputFormat

def all : List InputFormat := [.json, .yaml, .jsonl, .auto]

def name : InputFormat → String
  | .json => "json"
  | .yaml => "yaml"
  | .jsonl => "jsonl"
  | .auto => "auto"

def ofName? (name : String) : Option InputFormat := all.find? fun f => f.name = name

end InputFormat

inductive DecodeError where
  | json (error : Json.Error)
  -- Lines are counted from one.
  | jsonLine (line : Nat) (error : Json.Error)
  | yaml (error : Yaml.Error)

def DecodeError.message : DecodeError → String
  | .json e => s!"invalid JSON: {e.message}"
  | .jsonLine line e => s!"invalid JSON on line {line}: {e.message}"
  | .yaml _ => "invalid YAML"

namespace Document

def readJsonWith (read : String → Except Json.Error Json) (text : String) :
    Except DecodeError Document :=
  match read text with
  | .ok v => .ok (ofJson v)
  | .error e => .error (.json e)

def readJson (text : String) : Except DecodeError Document := readJsonWith Json.read text

/-- Adds the values that `read` makes of lines, the first of which has the given number. Blank lines
have no value. -/
def insertLines (read : String → Except Json.Error Json) (doc : Document) (number : Nat) :
    List (List Char) → Except DecodeError (Document × List NodeId)
  | [] => .ok (doc, [])
  | line :: rest =>
    if line.all Text.isBlank then insertLines read doc (number + 1) rest
    else
      match read (String.ofList line) with
      | .error e => .error (.jsonLine number e)
      | .ok v =>
        let (doc, id) := doc.insertJson v
        (insertLines read doc (number + 1) rest).map fun r => (r.1, id :: r.2)

def readJsonLinesWith (read : String → Except Json.Error Json) (text : String) :
    Except DecodeError Document :=
  (insertLines read null 1 (Text.lines text.toList)).map fun r =>
    let (doc, root) := r.1.insert (.sequence r.2)
    doc.setRoot root

def readJsonLines (text : String) : Except DecodeError Document := readJsonLinesWith Json.read text

def readYaml (text : String) : Except DecodeError Document :=
  match Yaml.read text with
  | .ok (some v) => .ok (ofYaml v)
  | .ok none => .ok null
  | .error e => .error (.yaml e)

def decode (format : InputFormat) (text : String) : Except DecodeError Document :=
  match format with
  | .json => readJson text
  | .yaml => readYaml text
  | .jsonl => readJsonLines text
  | .auto =>
    match readJson text with
    | .ok doc => .ok doc
    | .error _ => readYaml text

end Document

end PathQuery
