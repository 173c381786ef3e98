import PathQuery.CommandLine.Arguments
import PathQuery.Loading
/-!
The program as a function: from its arguments and what it can read to what it writes.

Output is all or nothing. Either all results are written, or none is and an error is.
-/
namespace PathQuery.CommandLine

structure Surroundings where
  input : List UInt8
  file : String → Option (List UInt8)
  -- The file of settings, if it is there, and its path.
  settings : Option (List UInt8)
  settingsPath : String

structure Outcome where
  code : Nat
  output : String
  log : String
  settings : Option (List UInt8)

def indentRest (width : Nat) (text : String) : String :=
  ("\n" ++ String.ofList (List.replicate width ' ')).intercalate (text.splitOn "\n")

def numberedCause (number : Nat) (cause : String) : String :=
  let digits := toString number
  String.ofList (List.replicate (5 - digits.length) ' ') ++ digits ++ ": " ++ indentRest 7 cause

def errorText (message : String) (causes : List String) : String :=
  match causes with
  | [] => s!"Error: {message}\n"
  | [cause] => s!"Error: {message}\n\nCaused by:\n    {indentRest 4 cause}\n"
  | causes =>
    let lines := causes.zipIdx.map fun c => numberedCause c.2 c.1
    s!"Error: {message}\n\nCaused by:\n" ++ "\n".intercalate lines ++ "\n"

def levelText (level : Level) : String :=
  level.name ++ String.ofList (List.replicate (5 - level.name.length) ' ')

def reportLine (r : Report) : String := s!"[{levelText r.level} {r.source}] {r.message}\n"

def isShown (verbose : Bool) (r : Report) : Bool :=
  match r.level with
  | .warn => true
  | .info => verbose
  | .debug => false

def logText (verbose : Bool) (reports : List Report) : String :=
  String.join ((reports.filter (isShown verbose)).map reportLine)

/-- The document that the arguments name; without a name it is the input. -/
def loadDocument (a : Arguments) (s : Settings) (w : Surroundings) : Except LoadError Document :=
  match a.json, a.yaml, a.file with
  | some path, _, _ => Document.loadFile path (some .json) (w.file path)
  | none, some path, _ => Document.loadFile path (some .yaml) (w.file path)
  | none, none, some path => Document.loadFile path a.format (w.file path)
  | none, none, none => Document.load s.inputFormat w.input

def loadErrorText (a : Arguments) (e : LoadError) : String :=
  if a.json.isNone ∧ a.yaml.isNone ∧ a.file.isNone then
    errorText "Failed to load document from stdin" (e.context :: e.causes)
  else errorText e.context e.causes

/-- A result as it is printed: a line between documents, the path on demand, and the value. -/
def block (s : Settings) (doc : Document) (first : Bool) (m : Match) : String :=
  let separator := if s.outputFormat = .yaml ∧ !first then "---\n" else ""
  let path := if s.showPaths then (if m.path = "" then "(root)" else m.path) ++ "\t" else ""
  separator ++ path ++ doc.render m.node s.outputFormat ++ "\n"

def blocks (s : Settings) (doc : Document) : List Match → String
  | [] => ""
  | m :: rest => block s doc true m ++ String.join (rest.map (block s doc false))

def save (s : Settings) (w : Surroundings) : Outcome :=
  match s.text? with
  | some text => ⟨0, "", logText s.verbose [.saved w.settingsPath], some (Utf8.encode text)⟩
  | none =>
    ⟨1, "", errorText "Failed to save config" ["out-of-range value for u64 type"], w.settings⟩

def query (a : Arguments) (s : Settings) (w : Surroundings) : Outcome :=
  match loadDocument a s w with
  | .error e => ⟨1, "", loadErrorText a e, w.settings⟩
  | .ok doc =>
    let text := a.query.getD ""
    match s.runOptions.run text doc s.resultMode with
    | (reports, .error e) =>
      ⟨1, "", logText s.verbose reports ++ errorText s!"Query {Text.quoted text} failed" [e.message],
        w.settings⟩
    | (reports, .ok results) =>
      let clashes := results.flatMap fun m => doc.renderClashes m.node s.outputFormat
      ⟨0, blocks s doc results, logText s.verbose (reports ++ clashes.map .renamed), w.settings⟩

def versionText : String := "uniquery 0.1.0\n"

def helpText : String :=
  "Usage: uniquery [OPTIONS] [FILE]\n\n" ++
  "  -q, --query TEXT        the query; the whole document without one\n" ++
  "      --json FILE         query a JSON file\n" ++
  "      --yaml FILE         query a YAML file\n" ++
  "  -f, --format FORMAT     json, yaml, jsonl or auto\n" ++
  "  -o, --output FORMAT     json or yaml\n" ++
  "  -u, --unique            print every position once\n" ++
  "  -p, --paths             print the path before each result\n" ++
  "      --max-depth N       the limit of recursion\n" ++
  "  -v, --verbose           log the parsed query\n" ++
  "      --save-config       save the settings and exit\n" ++
  "  -h, --help              print this help\n" ++
  "  -V, --version           print the version\n"

def run (args : List String) (w : Surroundings) : Outcome :=
  match Request.read args with
  | none => ⟨2, "", helpText, w.settings⟩
  | some .help => ⟨0, helpText, "", w.settings⟩
  | some .version => ⟨0, versionText, "", w.settings⟩
  | some (.run a) =>
    let s := a.override (.load w.settings)
    if a.save then save s w else query a s w

end PathQuery.CommandLine
