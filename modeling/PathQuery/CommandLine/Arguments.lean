import PathQuery.Settings
/-!
The arguments of the command line.

Options have a name behind two dashes, and most have a letter behind one dash; letters may share one
dash. The value of an option stands behind an equals sign or, for a letter, directly behind it, or is
the next argument, which then may not start with a dash. Behind `--` there are no options. No option
is given twice.
-/
namespace PathQuery.CommandLine

structure Arguments where
  query : Option String
  json : Option String
  yaml : Option String
  file : Option String
  format : Option InputFormat
  output : Option OutputFormat
  depthLimit : Option Nat
  unique : Bool
  paths : Bool
  verbose : Bool
  save : Bool
  deriving DecidableEq, Repr

def Arguments.none : Arguments :=
  ⟨.none, .none, .none, .none, .none, .none, .none, false, false, false, false⟩

inductive Request where
  | help
  | version
  | run (arguments : Arguments)
  deriving DecidableEq, Repr

inductive Switch where
  | unique
  | paths
  | verbose
  | save
  | help
  | version

inductive Setting where
  | query
  | json
  | yaml
  | format
  | output
  | depthLimit

inductive Flag where
  | switch (switch : Switch)
  | setting (setting : Setting)

def Flag.ofName? : String → Option Flag
  | "query" => some (.setting .query)
  | "json" => some (.setting .json)
  | "yaml" => some (.setting .yaml)
  | "format" => some (.setting .format)
  | "output" => some (.setting .output)
  | "max-depth" => some (.setting .depthLimit)
  | "unique" => some (.switch .unique)
  | "paths" => some (.switch .paths)
  | "verbose" => some (.switch .verbose)
  | "save-config" => some (.switch .save)
  | "help" => some (.switch .help)
  | "version" => some (.switch .version)
  | _ => none

def Flag.ofLetter? : Char → Option Flag
  | 'q' => some (.setting .query)
  | 'f' => some (.setting .format)
  | 'o' => some (.setting .output)
  | 'u' => some (.switch .unique)
  | 'p' => some (.switch .paths)
  | 'v' => some (.switch .verbose)
  | 'h' => some (.switch .help)
  | 'V' => some (.switch .version)
  | _ => none

inductive Progress where
  | stop (request : Request)
  | proceed (arguments : Arguments)

/-- Takes a value unless one was taken before or it is not valid. -/
def takeOnce {α : Type} (old : Option α) (new : Option α) : Option (Option α) :=
  if old.isSome ∨ new.isNone then none else some new

def path? (value : String) : Option String := if value = "" then none else some value

namespace Arguments

def turnOn (a : Arguments) : Switch → Option Progress
  | .unique => if a.unique then Option.none else some (.proceed { a with unique := true })
  | .paths => if a.paths then Option.none else some (.proceed { a with paths := true })
  | .verbose => if a.verbose then Option.none else some (.proceed { a with verbose := true })
  | .save => if a.save then Option.none else some (.proceed { a with save := true })
  | .help => some (.stop .help)
  | .version => some (.stop .version)

def put (a : Arguments) (value : String) : Setting → Option Arguments
  | .query => (takeOnce a.query (some value)).map fun v => { a with query := v }
  | .json => (takeOnce a.json (path? value)).map fun v => { a with json := v }
  | .yaml => (takeOnce a.yaml (path? value)).map fun v => { a with yaml := v }
  | .format => (takeOnce a.format (InputFormat.ofName? value)).map fun v => { a with format := v }
  | .output => (takeOnce a.output (OutputFormat.ofName? value)).map fun v => { a with output := v }
  | .depthLimit => (takeOnce a.depthLimit (indexOf? value)).map fun v => { a with depthLimit := v }

def putFile (a : Arguments) (value : String) : Option Arguments :=
  (takeOnce a.file (path? value)).map fun v => { a with file := v }

def isConsistent (a : Arguments) : Bool :=
  ([a.json, a.yaml, a.file].filter Option.isSome).length ≤ 1

end Arguments

def looksLikeFlag (arg : String) : Bool :=
  match arg.toList with
  | '-' :: _ :: _ => true
  | _ => false

/-- The letters behind one dash. Gives the option whose value is the next argument, if there is one. -/
def readLetters (a : Arguments) : List Char → Option (Progress × Option Setting)
  | [] => some (.proceed a, none)
  | letter :: rest => do
    match ← Flag.ofLetter? letter with
    | .switch s =>
      match ← a.turnOn s with
      | .stop request => some (.stop request, none)
      | .proceed a => readLetters a rest
    | .setting s =>
      match rest with
      | [] => some (.proceed a, some s)
      | '=' :: value => (a.put (String.ofList value) s).map fun a => (.proceed a, none)
      | value => (a.put (String.ofList value) s).map fun a => (.proceed a, none)

def readName (a : Arguments) (cs : List Char) : Option (Progress × Option Setting) := do
  let name := cs.takeWhile (· ≠ '=')
  match ← Flag.ofName? (String.ofList name), cs.drop name.length with
  | .switch s, [] => (a.turnOn s).map fun p => (p, none)
  | .switch _, _ => none
  | .setting s, [] => some (.proceed a, some s)
  | .setting s, _ :: value => (a.put (String.ofList value) s).map fun a => (.proceed a, none)

/-- All arguments; `pending` is an option whose value comes next. -/
def readAll (a : Arguments) : Option Setting → List String → Option Request
  | none, [] => if a.isConsistent then some (.run a) else none
  | some _, [] => none
  | some s, arg :: rest =>
    if looksLikeFlag arg then none else (a.put arg s).bind fun a => readAll a none rest
  | none, arg :: rest => do
    match arg.toList with
    | ['-', '-'] =>
      let a ← rest.foldlM Arguments.putFile a
      if a.isConsistent then some (.run a) else none
    | '-' :: '-' :: cs =>
      match ← readName a cs with
      | (.stop request, _) => some request
      | (.proceed a, pending) => readAll a pending rest
    | '-' :: c :: cs =>
      match ← readLetters a (c :: cs) with
      | (.stop request, _) => some request
      | (.proceed a, pending) => readAll a pending rest
    | _ => (a.putFile arg).bind fun a => readAll a none rest

def Request.read (args : List String) : Option Request := readAll .none none args

def Arguments.override (a : Arguments) (s : Settings) : Settings where
  outputFormat := a.output.getD s.outputFormat
  inputFormat := a.format.getD s.inputFormat
  unique := s.unique || a.unique
  showPaths := s.showPaths || a.paths
  depthLimit := a.depthLimit.getD s.depthLimit
  verbose := s.verbose || a.verbose

end PathQuery.CommandLine
