import PathQuery.Number.Binary64
/-!
Decimal text of numbers. Writing takes the fewest significant digits that still round to the
number, and of several such the nearest; reading rounds a decimal to the nearest number.
-/
namespace PathQuery

structure Decimal where
  digits : Nat
  exponent : Int
  deriving DecidableEq, Repr

namespace Decimal

/-- `lo`, `mid` and `hi` times `num / den`, where all that lies between `lo` and `hi` rounds to
`mid`, and the ends do when `closed`. -/
structure Interval where
  lo : Nat
  mid : Nat
  hi : Nat
  num : Nat
  den : Nat
  closed : Bool

/-- What rounds to `m * 2 ^ e`, counted in units of `2 ^ (e - 2) / 10 ^ p`. -/
def Interval.around (m : Nat) (e p : Int) : Interval where
  lo := if m = 2 ^ 52 ∧ -1074 < e then 4 * m - 1 else 4 * m - 2
  mid := 4 * m
  hi := 4 * m + 2
  num := 2 ^ (e - 2).toNat * 10 ^ (-p).toNat
  den := 2 ^ (2 - e).toNat * 10 ^ p.toNat
  closed := m % 2 = 0

def Interval.contains (i : Interval) (d : Nat) : Bool :=
  if i.closed then i.lo * i.num ≤ d * i.den && d * i.den ≤ i.hi * i.num
  else i.lo * i.num < d * i.den && d * i.den < i.hi * i.num

inductive Tie where
  | up
  | toEven
  deriving DecidableEq, Repr

def Tie.takesUpper (tie : Tie) (below rest den : Nat) : Bool :=
  den < 2 * rest || (2 * rest = den && (tie = .up || below % 2 = 1))

/-- The natural number in the interval that is nearest to the middle, if there is one: only the
two neighbours of the middle need a look. -/
def Interval.pick? (i : Interval) (tie : Tie) : Option Nat :=
  let below := i.mid * i.num / i.den
  let rest := i.mid * i.num % i.den
  match i.contains below, i.contains (below + 1) with
  | true, true => some (if tie.takesUpper below rest i.den then below + 1 else below)
  | true, false => some below
  | false, true => some (below + 1)
  | false, false => none

def onGrids (tie : Tie) (m : Nat) (e : Int) : Nat → Int → Decimal
  | 0, p => ⟨(Interval.around m e p).mid * (Interval.around m e p).num / (Interval.around m e p).den, p⟩
  | grids + 1, p =>
    match (Interval.around m e p).pick? tie with
    | some d => ⟨d, p⟩
    | none => onGrids tie m e grids (p - 1)

/-- The shortest decimal that rounds to `m * 2 ^ e`. The first grid is coarser than the value;
seventeen digits always suffice. -/
def shortest (tie : Tie) (m : Nat) (e : Int) : Decimal :=
  if m = 0 then ⟨0, 0⟩ else onGrids tie m e 24 ((m.log2 + e) * 30103 / 100000 + 2)

def digitText (d : Decimal) : List Char := d.digits.repr.toList

def positional (d : Decimal) : List Char :=
  let ds := d.digitText
  let point : Int := ds.length + d.exponent
  if 0 ≤ d.exponent then ds ++ List.replicate d.exponent.toNat '0'
  else if 0 < point then ds.take point.toNat ++ '.' :: ds.drop point.toNat
  else '0' :: '.' :: List.replicate (-point).toNat '0' ++ ds

structure Style where
  plus : Bool

/-- Positional notation with a point for `1e-5 ≤ value < 1e16`, and otherwise one digit before the
point and an exponent. -/
def floating (style : Style) (d : Decimal) : List Char :=
  let ds := d.digitText
  let point : Int := ds.length + d.exponent
  if 0 ≤ d.exponent ∧ point ≤ 16 then d.positional ++ ['.', '0']
  else if -5 < point ∧ point ≤ 16 then d.positional
  else
    let scale := point - 1
    let mark := if 0 ≤ scale ∧ style.plus then ['e', '+'] else ['e']
    let mantissa := match ds with
      | [c] => [c]
      | c :: cs => c :: '.' :: cs
      | [] => []
    mantissa ++ mark ++ (toString scale).toList

end Decimal

namespace Binary64

def signText (negative : Bool) : List Char := if negative then ['-'] else []

/-- The text of a number in a path or a key: an integer of at most fifteen digits as such, all
other finite numbers in positional notation, where the one farther from zero is taken of two nearest decimals, `inf`, `-inf` and `NaN`. -/
def text (x : Binary64) : String :=
  match x.toShortInt? with
  | some n => toString n
  | none =>
    match x with
    | .nan => "NaN"
    | .infinite s => String.ofList (signText s ++ "inf".toList)
    | .finite s m e _ => String.ofList (signText s ++ (Decimal.shortest .up m e).positional)

/-- The text of a finite number that keeps a point or an exponent. Of two nearest decimals the one with
an even digit is taken. -/
def floatText (style : Decimal.Style) (negative : Bool) (m : Nat) (e : Int) : String :=
  String.ofList (signText negative ++ (Decimal.shortest .toEven m e).floating style)

def readDigits (cs : List Char) : Nat × Nat × List Char :=
  let ds := cs.takeWhile Char.isDigit
  (ds.foldl (fun n c => 10 * n + (c.toNat - '0'.toNat)) 0, ds.length, cs.dropWhile Char.isDigit)

def readExponent? : List Char → Option Int
  | [] => some 0
  | c :: cs =>
    if c = 'e' ∨ c = 'E' then
      let (negative, ds) := match cs with
        | '-' :: ds => (true, ds)
        | '+' :: ds => (false, ds)
        | ds => (false, ds)
      match readDigits ds with
      | (n, count, []) => if count = 0 then none else some (if negative then -(n : Int) else n)
      | _ => none
    else none

/-- An unsigned decimal: digits with at most one point among or beside them, then an exponent. -/
def readDecimal? (cs : List Char) : Option Decimal :=
  let (whole, wholeCount, rest) := readDigits cs
  let (part, partCount, rest) := match rest with
    | '.' :: rest => readDigits rest
    | _ => (0, 0, rest)
  if wholeCount + partCount = 0 then none
  else (readExponent? rest).map fun e => ⟨whole * 10 ^ partCount + part, e - partCount⟩

def readName? (negative : Bool) (cs : List Char) : Option Binary64 :=
  let name := String.ofList (cs.map Char.toLower)
  if name = "inf" ∨ name = "infinity" then some (.infinite negative)
  else if name = "nan" then some .nan
  else none

def read? (s : String) : Option Binary64 :=
  let (negative, cs) := match s.toList with
    | '-' :: cs => (true, cs)
    | '+' :: cs => (false, cs)
    | cs => (false, cs)
  match readDecimal? cs with
  | some d => some (ofDecimal negative d.digits d.exponent)
  | none => readName? negative cs

end Binary64

end PathQuery
