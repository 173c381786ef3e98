import PathQuery.Toml.Reader
/-!
TOML documents. A header starts a table; entries behind it belong to that table. No table and no entry
is given twice.
-/
namespace PathQuery.Toml

/-- What was read so far: the entries of the document, and the path of the table that the next entries
belong to. -/
structure Draft where
  entries : Entries
  path : List String

/-- Starts the table of a header, which may have been made up for tables inside it before. -/
def startTable (path : List String) (entries : Entries) : Option Entries :=
  let change (_ : Bool) (entries : Entries) : Option Entries :=
    match path.getLast? with
    | none => none
    | some key =>
      match entries.lookup key with
      | none => some (entries ++ [(key, .table false false [])])
      | some (.table true false inner) =>
        some (entries.filter (fun e => e.1 ≠ key) ++ [(key, .table false false inner)])
      | some _ => none
  descend false change path.dropLast false entries

def startArrayTable (path : List String) (entries : Entries) : Option Entries :=
  let change (_ : Bool) (entries : Entries) : Option Entries :=
    match path.getLast? with
    | none => none
    | some key =>
      match entries.lookup key with
      | none => some (entries ++ [(key, .tables [[]])])
      | some (.tables tables) =>
        some (entries.map fun e => if e.1 = key then (key, .tables (tables ++ [[]])) else e)
      | some _ => none
  descend false change path.dropLast false entries

namespace Draft

def empty : Draft := ⟨[], []⟩

def add (d : Draft) : Statement → Option Draft
  | .entry path value => do
    let entries ← descend false (fun _ inner => insertEntry path value inner) d.path false d.entries
    some ⟨entries, d.path⟩
  | .header path => (startTable path d.entries).map fun entries => ⟨entries, path⟩
  | .arrayHeader path => (startArrayTable path d.entries).map fun entries => ⟨entries, path⟩

end Draft

def dropMark : List Char → List Char
  | '\ufeff' :: rest => rest
  | cs => cs

def read (text : String) : Option Entries := do
  let cs := dropMark text.toList
  let lines ← statements cs.length cs
  let d ← lines.foldlM Draft.add .empty
  some d.entries

end PathQuery.Toml
