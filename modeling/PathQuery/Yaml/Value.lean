/-!
The data of the YAML format.
-/
namespace PathQuery

/-- A YAML value. A real number keeps its spelling, and `unresolved` stands for a scalar that does
not have the type of its tag, and for an alias of a node that is not complete. -/
inductive Yaml where
  | null
  | bool (value : Bool)
  | integer (value : Int)
  | real (spelling : String)
  | string (value : String)
  | sequence (items : List Yaml)
  | mapping (entries : List (Yaml × Yaml))
  | unresolved
  deriving Inhabited

namespace Yaml

mutual

def same : Yaml → Yaml → Bool
  | .null, .null => true
  | .bool a, .bool b => a == b
  | .integer a, .integer b => a == b
  | .real a, .real b => a == b
  | .string a, .string b => a == b
  | .sequence as, .sequence bs => sameLists as bs
  | .mapping as, .mapping bs => sameEntryLists as bs
  | .unresolved, .unresolved => true
  | _, _ => false

def sameLists : List Yaml → List Yaml → Bool
  | [], [] => true
  | a :: as, b :: bs => same a b && sameLists as bs
  | _, _ => false

def sameEntryLists : List (Yaml × Yaml) → List (Yaml × Yaml) → Bool
  | [], [] => true
  | (k, v) :: as, (k', v') :: bs => same k k' && same v v' && sameEntryLists as bs
  | _, _ => false

end

mutual

/-- Equality of values as keys: the order of the entries of a mapping does not matter. -/
def sameKey : Yaml → Yaml → Bool
  | .null, .null => true
  | .bool a, .bool b => a == b
  | .integer a, .integer b => a == b
  | .real a, .real b => a == b
  | .string a, .string b => a == b
  | .sequence as, .sequence bs => sameItems as bs
  | .mapping as, .mapping bs => as.length == bs.length && sameEntries as bs
  | .unresolved, .unresolved => true
  | _, _ => false

def sameItems : List Yaml → List Yaml → Bool
  | [], [] => true
  | a :: as, b :: bs => sameKey a b && sameItems as bs
  | _, _ => false

def sameEntries : List (Yaml × Yaml) → List (Yaml × Yaml) → Bool
  | [], _ => true
  | (k, v) :: rest, bs => (bs.any fun b => sameKey k b.1 && sameKey v b.2) && sameEntries rest bs

end

def insertEntry (key value : Yaml) : List (Yaml × Yaml) → List (Yaml × Yaml)
  | [] => [(key, value)]
  | (k, v) :: rest =>
    if sameKey k key then (k, value) :: rest else (k, v) :: insertEntry key value rest

end Yaml

end PathQuery
