import PathQuery.Number.Power
/-!
Binary floating point with 53 bits of precision. A finite value is a sign, a significand and a
power of two in canonical form; there are two infinities, and all values that are not numbers are
one. Rounding goes to the nearest value, and a tie goes to the even significand.
-/
namespace PathQuery

def Binary64.Canonical (significand : Nat) (exponent : Int) : Prop :=
  significand < 2 ^ 53 ∧ -1074 ≤ exponent ∧ exponent ≤ 971 ∧
    (2 ^ 52 ≤ significand ∨ exponent = -1074)

instance (m : Nat) (e : Int) : Decidable (Binary64.Canonical m e) := by
  unfold Binary64.Canonical; infer_instance

/-- A number as documents hold it. A finite value is `± significand * 2 ^ exponent`. -/
inductive Binary64 where
  | nan
  | infinite (negative : Bool)
  | finite (negative : Bool) (significand : Nat) (exponent : Int)
      (canonical : Binary64.Canonical significand exponent)
  deriving DecidableEq

namespace Binary64

theorem canonical_zero : Canonical 0 (-1074) := by decide

def zero (negative : Bool) : Binary64 := .finite negative 0 (-1074) canonical_zero

instance : Inhabited Binary64 := ⟨zero false⟩

/-- The value with these parts; parts that no finite value has stand for an overflow. -/
def ofParts (negative : Bool) (m : Nat) (e : Int) : Binary64 :=
  if h : Canonical m e then .finite negative m e h else .infinite negative

def scaled (num den : Nat) (e : Int) : Nat × Nat :=
  if 0 ≤ e then (num, den * 2 ^ e.toNat) else (num * 2 ^ (-e).toNat, den)

def nearest (num den : Nat) : Nat :=
  let q := num / den
  let r := num % den
  if 2 * r < den then q else if den < 2 * r then q + 1 else q + q % 2

/-- The exponent at which `num / den` has a significand of 53 bits, or the least exponent. -/
def exponentFor (num den : Nat) : Int :=
  let guess := max (-1074) ((num.log2 : Int) - den.log2 - 53)
  let (n, d) := scaled num den guess
  if n / d < 2 ^ 53 then guess else guess + 1

def ofRatio (negative : Bool) (num den : Nat) : Binary64 :=
  if num = 0 then zero negative
  else
    let e := exponentFor num den
    let (n, d) := scaled num den e
    let m := nearest n d
    if m = 2 ^ 53 then ofParts negative (2 ^ 52) (e + 1) else ofParts negative m e

def ofScaledRatio (negative : Bool) (num den : Nat) (e : Int) : Binary64 :=
  if 0 ≤ e then ofRatio negative (num * 2 ^ e.toNat) den
  else ofRatio negative num (den * 2 ^ (-e).toNat)

def ofNat (n : Nat) : Binary64 := ofRatio false n 1

def ofInt (n : Int) : Binary64 := ofRatio (n < 0) n.natAbs 1

def digitCount (n : Nat) : Nat :=
  if n = 0 then 0 else digitCount (n / 10) + 1

/-- The value nearest to `± digits * 10 ^ exponent`. Exponents far out of range are settled
without the power: below `10 ^ (-400)` lies nothing but zero, above `10 ^ 400` an infinity. -/
def ofDecimal (negative : Bool) (digits : Nat) (exponent : Int) : Binary64 :=
  let magnitude : Int := digitCount digits + exponent
  if digits = 0 ∨ magnitude < -400 then zero negative
  else if 400 < magnitude then .infinite negative
  else if 0 ≤ exponent then ofRatio negative (digits * 10 ^ exponent.toNat) 1
  else ofRatio negative digits (10 ^ (-exponent).toNat)

def neg : Binary64 → Binary64
  | .nan => .nan
  | .infinite s => .infinite (!s)
  | .finite s m e h => .finite (!s) m e h

def isInfinite : Binary64 → Bool
  | .infinite _ => true
  | _ => false

def isZero : Binary64 → Bool
  | .finite _ m _ _ => m = 0
  | _ => false

def mul : Binary64 → Binary64 → Binary64
  | .finite s m e _, .finite s' m' e' _ => ofScaledRatio (s != s') (m * m') 1 (e + e')
  | .nan, _ => .nan
  | _, .nan => .nan
  | .infinite s, .infinite s' => .infinite (s != s')
  | .infinite s, .finite s' m _ _ => if m = 0 then .nan else .infinite (s != s')
  | .finite s m _ _, .infinite s' => if m = 0 then .nan else .infinite (s != s')

def div : Binary64 → Binary64 → Binary64
  | .finite s m e _, .finite s' m' e' _ =>
    if m' = 0 then (if m = 0 then .nan else .infinite (s != s'))
    else ofScaledRatio (s != s') m m' (e - e')
  | .nan, _ => .nan
  | _, .nan => .nan
  | .infinite _, .infinite _ => .nan
  | .infinite s, .finite s' _ _ _ => .infinite (s != s')
  | .finite s _ _ _, .infinite s' => zero (s != s')

/-- Equality of numbers: both zeros are equal, and nothing equals what is not a number. -/
def numEq : Binary64 → Binary64 → Bool
  | .finite s m e _, .finite s' m' e' _ => (m == 0 && m' == 0) || (s == s' && m == m' && e == e')
  | .infinite s, .infinite s' => s == s'
  | _, _ => false

def toInt? : Binary64 → Option Int
  | .finite s m e _ =>
    let signed (n : Nat) : Int := if s then -(n : Int) else n
    if 0 ≤ e then some (signed (m * 2 ^ e.toNat))
    else if m % 2 ^ (-e).toNat = 0 then some (signed (m / 2 ^ (-e).toNat))
    else none
  | _ => none

/-- The integer that a value without a fraction is, if it has at most fifteen digits. Such
values are written as integers everywhere. -/
def toShortInt? (x : Binary64) : Option Int :=
  x.toInt?.filter fun n => n.natAbs < 10 ^ 15

def ofBits (bits : UInt64) : Binary64 :=
  let negative := bits >>> 63 == 1
  let biased := ((bits >>> 52) &&& 0x7ff).toNat
  let fraction := (bits &&& 0xfffffffffffff).toNat
  if biased = 2047 then (if fraction = 0 then .infinite negative else .nan)
  else if biased = 0 then ofParts negative fraction (-1074)
  else ofParts negative (2 ^ 52 + fraction) (biased - 1075)

/-- The interchange encoding; of what is not a number, the quiet one with no payload. -/
def toBits : Binary64 → UInt64
  | .nan => 0x7ff8000000000000
  | .infinite s => (if s then 0x8000000000000000 else 0) ||| 0x7ff0000000000000
  | .finite s m e _ =>
    let sign : UInt64 := if s then 0x8000000000000000 else 0
    if m < 2 ^ 52 then sign ||| m.toUInt64
    else sign ||| ((e + 1075).toNat.toUInt64 <<< 52) ||| (m - 2 ^ 52).toUInt64

end Binary64

end PathQuery
