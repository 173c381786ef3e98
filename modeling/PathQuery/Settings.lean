import PathQuery.Run
import PathQuery.Text.Utf8
import PathQuery.Toml
/-!
The settings of the program, and the file that keeps them.

A file may leave out settings; one with anything wrong in it is ignored as a whole.
-/
namespace PathQuery

structure Settings where
  outputFormat : OutputFormat
  inputFormat : InputFormat
  unique : Bool
  showPaths : Bool
  depthLimit : Nat
  verbose : Bool
  deriving DecidableEq, Repr

namespace Settings

def default : Settings := ⟨.json, .json, false, false, defaultDepthLimit, false⟩

instance : Inhabited Settings := ⟨default⟩

def pathBelow (home : String) : String := home ++ "/.config/uniquery/config.toml"

def isEmptyItem : Toml.Item → Bool
  | .array [] => true
  | .inlineTable [] => true
  | .table _ _ [] => true
  | _ => false

/-- The value that a name stands for: the name as a text, or an empty item below it in a table. -/
def namedItem? {α : Type} (ofName? : String → Option α) : Toml.Item → Option α
  | .string name => ofName? name
  | .inlineTable [(name, item)] => if isEmptyItem item then ofName? name else none
  | .table _ _ ((name, item) :: _) => if isEmptyItem item then ofName? name else none
  | _ => none

def boolItem? : Toml.Item → Option Bool
  | .bool b => some b
  | _ => none

def natItem? : Toml.Item → Option Nat
  | .integer (.ofNat n) => some n
  | _ => none

/-- The value of a field: `value` if it is left out, and nothing if it is of another type. -/
def field {α : Type} (entries : Toml.Entries) (name : String) (value : α)
    (read? : Toml.Item → Option α) : Option α :=
  match entries.lookup name with
  | none => some value
  | some item => read? item

def ofEntries? (entries : Toml.Entries) : Option Settings := do
  let outputFormat ← field entries "output_format" default.outputFormat (namedItem? OutputFormat.ofName?)
  let inputFormat ← field entries "input_format" default.inputFormat (namedItem? InputFormat.ofName?)
  let unique ← field entries "unique" default.unique boolItem?
  let showPaths ← field entries "show_paths" default.showPaths boolItem?
  let depthLimit ← field entries "max_depth" default.depthLimit natItem?
  let verbose ← field entries "verbose" default.verbose boolItem?
  some ⟨outputFormat, inputFormat, unique, showPaths, depthLimit, verbose⟩

def read? (text : String) : Option Settings := (Toml.read text).bind ofEntries?

def ofBytes? (bytes : List UInt8) : Option Settings := (Utf8.decode bytes).toOption.bind read?

/-- The settings to start with. There need not be a file. -/
def load (content : Option (List UInt8)) : Settings := (content.bind ofBytes?).getD default

def boolText (b : Bool) : String := if b then "true" else "false"

/-- The text of a file that keeps the settings. Numbers of more than 63 bits cannot be kept. -/
def text? (s : Settings) : Option String :=
  if s.depthLimit < 2 ^ 63 then
    some (s!"output_format = \"{s.outputFormat.name}\"\n" ++
      s!"input_format = \"{s.inputFormat.name}\"\n" ++
      s!"unique = {boolText s.unique}\n" ++
      s!"show_paths = {boolText s.showPaths}\n" ++
      s!"max_depth = {s.depthLimit}\n" ++
      s!"verbose = {boolText s.verbose}\n")
  else none

def runOptions (s : Settings) : RunOptions := ⟨s.verbose, s.depthLimit⟩

def resultMode (s : Settings) : ResultMode := if s.unique then .unique else .ordered

end Settings

end PathQuery
