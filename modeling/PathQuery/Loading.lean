import PathQuery.Decoding
import PathQuery.Gzip
/-!
Loading documents from files and from input streams. Compressed data are decompressed first: a file
is taken for compressed by its name, and a stream by its first two bytes.
-/
namespace PathQuery

/-- The text in lower case. Only letters of ASCII change; the endings of file names have no other. -/
def lowerCase (cs : List Char) : List Char := cs.map Char.toLower

def hasEnding (cs : List Char) (ending : String) : Bool := ending.toList.isSuffixOf cs

/-- The format that a file name stands for, whether or not it ends in `.gz`. -/
def InputFormat.ofFileName (name : String) : InputFormat :=
  let cs := lowerCase name.toList
  let base := if hasEnding cs ".gz" then cs.take (cs.length - 3) else cs
  if hasEnding base ".json" then .json
  else if hasEnding base ".yaml" || hasEnding base ".yml" then .yaml
  else if hasEnding base ".jsonl" || hasEnding base ".ndjson" then .jsonl
  else .auto

def pathParts (path : List Char) : List (List Char) := path.splitOnP (· = '/')

def fileName? (path : List Char) : Option (List Char) :=
  match ((pathParts path).filter fun p => p ≠ [] ∧ p ≠ ['.']).getLast? with
  | some name => if name = ['.', '.'] then none else some name
  | none => none

/-- What stands behind the last point of a file name, unless the point is its first character. -/
def extension? (name : List Char) : Option (List Char) :=
  let behind := (name.reverse.takeWhile (· ≠ '.')).reverse
  if name.length ≤ behind.length + 1 then none else some behind

def namesCompressed (path : String) : Bool :=
  match (fileName? path.toList).bind extension? with
  | some e => lowerCase e = ['g', 'z']
  | none => false

inductive LoadError where
  | missing (path : String)
  | unreadable (path : String)
  | compressed (error : Gzip.Error)
  | encoding (fault : Utf8.Fault)
  -- The text of a file, or of the input if there is no path, cannot be decoded.
  | decode (path : Option String) (error : DecodeError)

namespace LoadError

def context : LoadError → String
  | .missing path =>
    if namesCompressed path then s!"Failed to open file {path}" else s!"Failed to read file {path}"
  | .unreadable path => s!"Failed to read file {path}"
  | .compressed _ => "Failed to decompress gzip input - data may be corrupted"
  | .encoding _ => "Invalid UTF-8 in input"
  | .decode (some path) _ => s!"Failed to parse {path}"
  | .decode none _ => "Failed to parse input"

/-- The causes, the outermost first. The fault that a decoder found stands in its own error and again
by itself. -/
def causes : LoadError → List String
  | .missing _ => ["No such file or directory (os error 2)"]
  | .unreadable _ => ["stream did not contain valid UTF-8"]
  | .compressed e => [e.message]
  | .encoding fault => [fault.message]
  | .decode _ e =>
    match e with
    | .json fault => [e.message, fault.message]
    | .jsonLine _ fault => [e.message, fault.message]
    | .yaml _ => [e.message]

end LoadError

namespace Document

def decodeFrom (path : Option String) (format : InputFormat) (text : String) :
    Except LoadError Document :=
  (decode format text).mapError (.decode path)

def load (format : InputFormat) (bytes : List UInt8) : Except LoadError Document :=
  if Gzip.hasMagic bytes then
    match Gzip.decompressText bytes with
    | .ok text => decodeFrom none format text
    | .error e => .error (.compressed e)
  else
    match Utf8.decode bytes with
    | .ok text => decodeFrom none format text
    | .error fault => .error (.encoding fault)

/-- Loads a document from a file, of which there may be none. Unless a format is given, the name of
the file says it. -/
def loadFile (path : String) (format : Option InputFormat) (content : Option (List UInt8)) :
    Except LoadError Document :=
  let format := format.getD (.ofFileName path)
  match content with
  | none => .error (.missing path)
  | some bytes =>
    if namesCompressed path then
      match Gzip.decompressText bytes with
      | .ok text => decodeFrom (some path) format text
      | .error e => .error (.compressed e)
    else
      match Utf8.decode bytes with
      | .ok text => decodeFrom (some path) format text
      | .error _ => .error (.unreadable path)

end Document

end PathQuery
