import PathQuery.Pattern
/-!
Queries: a list of parts. Each part selects positions relative to the current one and filters them
by their values. A query is written with a dot between any two parts.
-/
namespace PathQuery.Query

inductive Specifier where
  | parent
  | children
  | descendants
  | literal (text : String)
  deriving DecidableEq

def Specifier.ofText (text : String) : Specifier :=
  if text = "" then .parent
  else if text = "*" then .children
  else if text = "**" then .descendants
  else .literal text

inductive Filter where
  -- A string that is the text, or a number that the text denotes.
  | equals (text : String)
  | matching (pattern : Pattern)
  | negated (filter : Filter)
  deriving DecidableEq

structure Part where
  specifier : Specifier
  filters : List Filter
  deriving DecidableEq

def isMeta (c : Char) : Bool :=
  c = '.' || c = '=' || c = '~' || c = '!' || c = '\\' || c = '"'

def escapeChars (cs : List Char) : List Char :=
  cs.flatMap fun c => if isMeta c then ['\\', c] else [c]

def escape (text : String) : List Char := escapeChars text.toList

def Specifier.chars : Specifier → List Char
  | .parent => []
  | .children => ['*']
  | .descendants => ['*', '*']
  | .literal text => escape text

def Filter.chars : Filter → List Char
  | .equals text => '=' :: escape text
  | .matching pattern => '~' :: escape pattern.source
  | .negated filter => '!' :: filter.chars

def Part.chars (p : Part) : List Char := p.specifier.chars ++ p.filters.flatMap Filter.chars

def charsOfParts : List Part → List Char
  | [] => []
  | [p] => p.chars
  | p :: rest => p.chars ++ '.' :: charsOfParts rest

def Part.text (p : Part) : String := String.ofList p.chars

def text (parts : List Part) : String := String.ofList (charsOfParts parts)

end PathQuery.Query
