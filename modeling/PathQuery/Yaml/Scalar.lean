import PathQuery.Yaml.Value
import PathQuery.Number.Decimal
import PathQuery.Text.Digits
/-!
Plain scalars: which of them are null, truth values and numbers, and how numbers are spelled.
-/
namespace PathQuery.Yaml

def integerIn? (base : Nat) (cs : List Char) : Option Int :=
  let (negative, ds) := match cs with
    | '-' :: ds => (true, ds)
    | '+' :: ds => (false, ds)
    | ds => (false, ds)
  (Text.nat? base ds).bind fun n =>
    let signed : Int := if negative then -(n : Int) else n
    if -(2 ^ 63 : Int) ≤ signed ∧ signed < 2 ^ 63 then some signed else none

def decimal? (cs : List Char) : Option Int := integerIn? 10 cs

/-- The number that a spelling of a real number stands for. Names of infinities and of what is not
a number start with a point; all other spellings have a digit. -/
def realValue? (spelling : String) : Option Binary64 :=
  if [".inf", ".Inf", ".INF", "+.inf", "+.Inf", "+.INF"].contains spelling then
    some (.infinite false)
  else if ["-.inf", "-.Inf", "-.INF"].contains spelling then some (.infinite true)
  else if [".nan", ".NaN", ".NAN"].contains spelling then some .nan
  else if spelling.toList.any Char.isDigit then Binary64.read? spelling
  else none

/-- An integer in hexadecimal, octal or decimal notation; the decimal one may have one more plus
sign in front. -/
def integer? (cs : List Char) : Option Int :=
  match cs with
  | '0' :: 'x' :: ds => integerIn? 16 ds
  | '0' :: 'o' :: ds => integerIn? 8 ds
  | '+' :: ds => decimal? ds
  | _ => none

def ofPlain (text : String) : Yaml :=
  match integer? text.toList with
  | some n => .integer n
  | none =>
    if ["", "~", "null"].contains text then .null
    else if ["true", "True", "TRUE"].contains text then .bool true
    else if ["false", "False", "FALSE"].contains text then .bool false
    else
      match decimal? text.toList with
      | some n => .integer n
      | none => if (realValue? text).isSome then .real text else .string text

/-- The value of a plain scalar with a tag of the core types; a scalar that does not fit its tag has
none. -/
def ofTagged (kind text : String) : Yaml :=
  match kind with
  | "bool" =>
    if text = "true" then .bool true else if text = "false" then .bool false else .unresolved
  | "int" =>
    match decimal? text.toList with
    | some n => .integer n
    | none => .unresolved
  | "float" => if (realValue? text).isSome then .real text else .unresolved
  | "null" => if text = "~" ∨ text = "null" then .null else .unresolved
  | _ => .string text

def numberStyle : Decimal.Style := ⟨false⟩

def realText : Binary64 → String
  | .nan => ".nan"
  | .infinite negative => if negative then "-.inf" else ".inf"
  | .finite s m e _ => Binary64.floatText numberStyle s m e

def ofNumber (x : Binary64) : Yaml :=
  match x.toShortInt? with
  | some n => .integer n
  | none => .real (realText x)

end PathQuery.Yaml
