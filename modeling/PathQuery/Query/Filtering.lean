import PathQuery.Query.Syntax
import PathQuery.Document
import PathQuery.Number.Decimal
/-!
Which values a filter accepts. Filters look at strings and numbers only; any other value is refused,
and so accepted by the negated filter.
-/
namespace PathQuery.Query

def Filter.accepts (node : Node) : Filter → Bool
  | .equals text =>
    match node with
    | .text s => s = text
    | .number x => ((Binary64.read? text).map fun y => y.numEq x).getD false
    | _ => false
  | .matching pattern =>
    match node with
    | .text s => pattern.isMatch s
    | _ => false
  | .negated filter => !filter.accepts node

def acceptAll (filters : List Filter) (node : Node) : Bool := filters.all fun f => f.accepts node

end PathQuery.Query
