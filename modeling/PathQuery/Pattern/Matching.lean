import PathQuery.Pattern.Expression
/-!
Matching. The positions of a text are the places before, between and behind its characters, and a
set of positions is a number whose binary digits tell which are in it. An expression moves a set of
positions to the set of those that it can reach; a text matches when some position is reached from
some position.
-/
namespace PathQuery.Pattern

abbrev Places := Nat

/-- What an expression does on one text: the places from which a step forward is possible, and
the places that meet a condition. -/
inductive Motion where
  | stay
  | step (places : Places)
  | guard (places : Places)
  | sequence (first second : Motion)
  | choice (first second : Motion)
  | repetition (body : Motion) (least : Nat) (most : Option Nat)

def closure (f : Places → Places) : Nat → Places → Places
  | 0, s => s
  | fuel + 1, s =>
    let t := s ||| f s
    if t = s then s else closure f fuel t

def iterate (f : Places → Places) : Nat → Places → Places
  | 0, s => s
  | n + 1, s =>
    let t := f s
    if t = s then s else iterate f n t

def upTo (f : Places → Places) : Nat → Places → Places → Places
  | 0, _, all => all
  | n + 1, s, all =>
    let t := f s
    if t = 0 ∨ t = s then all ||| t else upTo f n t (all ||| t)

namespace Motion

def reach (size : Nat) : Motion → Places → Places
  | .stay, s => s
  | .step places, s => (s &&& places) <<< 1
  | .guard places, s => s &&& places
  | .sequence a b, s => b.reach size (a.reach size s)
  | .choice a b, s => a.reach size s ||| b.reach size s
  | .repetition body least most, s =>
    let start := iterate (body.reach size) least s
    match most with
    | none => closure (body.reach size) (size + 1) start
    | some most => upTo (body.reach size) (most - least) start start

end Motion

/-- The number whose binary digits the list has, the lowest first. -/
def ofFlags : List Bool → Places
  | [] => 0
  | b :: rest => 2 * ofFlags rest + (if b then 1 else 0)

def placesWhere (p : Option Char → Option Char → Bool) : Option Char → List Char → List Bool
  | before, [] => [p before none]
  | before, c :: rest => p before (some c) :: placesWhere p (some c) rest

def WordEdge.holds (before after : Bool) : WordEdge → Bool
  | .boundary => before != after
  | .noBoundary => before == after
  | .start => !before && after
  | .finish => before && !after
  | .startHalf => !before
  | .finishHalf => !after

def Look.holds (before after : Option Char) : Look → Bool
  | .textStart => before.isNone
  | .textEnd => after.isNone
  | .lineStart false => before.isNone || before == some '\n'
  | .lineEnd false => after.isNone || after == some '\n'
  | .lineStart true =>
    before.isNone || before == some '\n' || (before == some '\r' && after != some '\n')
  | .lineEnd true =>
    after.isNone || after == some '\r' || (after == some '\n' && before != some '\r')
  | .word edge ascii =>
    let set := if ascii then asciiWord else wordChars
    edge.holds ((before.map set.contains).getD false) ((after.map set.contains).getD false)

def Expression.on (cs : List Char) : Expression → Motion
  | .empty => .stay
  | .chars set => .step (ofFlags (cs.map set.contains))
  | .look condition =>
    .guard (ofFlags (placesWhere (fun before after => condition.holds before after) none cs))
  | .sequence a b => .sequence (a.on cs) (b.on cs)
  | .choice a b => .choice (a.on cs) (b.on cs)
  | .repetition a least most => .repetition (a.on cs) least most
  | .capture a => a.on cs

def Expression.matchesIn (e : Expression) (cs : List Char) : Bool :=
  (e.on cs).reach cs.length (2 ^ (cs.length + 1) - 1) != 0

end PathQuery.Pattern
