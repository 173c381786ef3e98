import PathQuery.Number.Binary64
/-!
The data of the JSON format.
-/
namespace PathQuery

/-- A number as JSON text gives it: exact while it is an integer, and rounded otherwise. -/
inductive JsonNumber where
  | integer (value : Int)
  | real (value : Binary64)
  deriving DecidableEq

def JsonNumber.toBinary64 : JsonNumber → Binary64
  | .integer n => .ofInt n
  | .real x => x

/-- A JSON value. The members of an object keep their order, and no two have one name. -/
inductive Json where
  | null
  | bool (value : Bool)
  | number (value : JsonNumber)
  | string (value : String)
  | array (items : List Json)
  | object (members : List (String × Json))
  deriving Inhabited

end PathQuery
