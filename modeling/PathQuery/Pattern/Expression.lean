import PathQuery.Pattern.Syntax
import PathQuery.Text.Blank
import PathQuery.Unicode.Script
import PathQuery.Unicode.Property
import PathQuery.Unicode.Age
import PathQuery.Unicode.Segmentation
import PathQuery.Unicode.Folding
/-!
Expressions: what a pattern means once its flags are worked in. Every class is a set of characters,
and every assertion says what it looks at.
-/
namespace PathQuery.Pattern

inductive WordEdge where
  | boundary
  | noBoundary
  | start
  | finish
  | startHalf
  | finishHalf
  deriving DecidableEq, Repr

/-- A condition on a position. With `returns`, a carriage return ends a line as a line feed does;
with `ascii`, only ASCII characters make words. -/
inductive Look where
  | textStart
  | textEnd
  | lineStart (returns : Bool)
  | lineEnd (returns : Bool)
  | word (edge : WordEdge) (ascii : Bool)
  deriving DecidableEq, Repr

inductive Expression where
  | empty
  | chars (set : CharSet)
  | look (condition : Look)
  | sequence (first second : Expression)
  | choice (first second : Expression)
  | repetition (body : Expression) (least : Nat) (most : Option Nat)
  | capture (body : Expression)

structure Flags where
  ignoreCase : Bool
  multiLine : Bool
  dotMatchesAll : Bool
  unicode : Bool
  returns : Bool

def Flags.initial : Flags := ⟨false, false, false, true, false⟩

def Flags.apply (f : Flags) (change : FlagChange) : Flags :=
  match change with
  | (.ignoreCase, on) => { f with ignoreCase := on }
  | (.multiLine, on) => { f with multiLine := on }
  | (.dotMatchesAll, on) => { f with dotMatchesAll := on }
  | (.unicode, on) => { f with unicode := on }
  | (.carriageReturns, on) => { f with returns := on }
  | (.swapGreed, _) => f
  | (.extended, _) => f

def Flags.applyAll (f : Flags) (changes : List FlagChange) : Flags := changes.foldl Flags.apply f

def wordChars : CharSet :=
  CharSet.unions
    ((["alphabetic", "joincontrol"].filterMap Unicode.property?) ++
      (["m", "nd", "pc"].filterMap Unicode.category?))

def digitChars : CharSet := (Unicode.category? "nd").getD .empty

def asciiDigits : CharSet := .range 0x30 0x39

def asciiSpaces : CharSet := .ofRanges [(9, 13), (0x20, 0x20)]

def asciiWord : CharSet := .ofRanges [(0x30, 0x39), (0x41, 0x5a), (0x5f, 0x5f), (0x61, 0x7a)]

def ClassLetter.chars (unicode : Bool) : ClassLetter → CharSet
  | .digit => if unicode then digitChars else asciiDigits
  | .space => if unicode then Text.blanks else asciiSpaces
  | .word => if unicode then wordChars else asciiWord

def asciiClassChars : String → CharSet
  | "alnum" => .ofRanges [(0x30, 0x39), (0x41, 0x5a), (0x61, 0x7a)]
  | "alpha" => .ofRanges [(0x41, 0x5a), (0x61, 0x7a)]
  | "ascii" => .range 0 0x7f
  | "blank" => .ofRanges [(9, 9), (0x20, 0x20)]
  | "cntrl" => .ofRanges [(0, 0x1f), (0x7f, 0x7f)]
  | "digit" => asciiDigits
  | "graph" => .range 0x21 0x7e
  | "lower" => .range 0x61 0x7a
  | "print" => .range 0x20 0x7e
  | "punct" => .ofRanges [(0x21, 0x2f), (0x3a, 0x40), (0x5b, 0x60), (0x7b, 0x7e)]
  | "space" => asciiSpaces
  | "upper" => .range 0x41 0x5a
  | "word" => asciiWord
  | "xdigit" => .ofRanges [(0x30, 0x39), (0x41, 0x46), (0x61, 0x66)]
  | _ => .empty

/-- The name of a property or value in lower case, without blanks, hyphens and underscores, and
without `is` in front; but `isc` stays as it is. -/
def normalName (name : String) : String :=
  let keep (cs : List Char) : List Char :=
    (cs.filter fun c => c ≠ ' ' ∧ c ≠ '_' ∧ c ≠ '-' ∧ c.toNat < 0x80).map Char.toLower
  let cs := name.toList
  let is := (cs.take 2).map Char.toLower = ['i', 's']
  let rest := keep (if is then cs.drop 2 else cs)
  if is ∧ rest = ['c'] then "isc" else String.ofList rest

def categoryChars? (name : String) : Option CharSet :=
  match name with
  | "any" => some .all
  | "assigned" => some Unicode.unassigned.compl
  | "ascii" => some (.range 0 0x7f)
  | _ => Unicode.category? name

/-- The set of a property query; there is none for a name or value that is not known. Without a
value, properties come before categories and those before scripts. -/
def PropertyQuery.chars? : PropertyQuery → Option CharSet
  | .bare name =>
    let name := normalName name
    ((Unicode.property? name).orElse fun _ => categoryChars? name).orElse fun _ =>
      Unicode.script? name
  | .valued name v =>
    let v := normalName v
    match normalName name with
    | "gc" => categoryChars? v
    | "generalcategory" => categoryChars? v
    | "sc" => Unicode.script? v
    | "script" => Unicode.script? v
    | "scx" => Unicode.scriptExtension? v
    | "scriptextensions" => Unicode.scriptExtension? v
    | "age" => Unicode.assignedBy? v
    | "gcb" => Unicode.lookup? Unicode.graphemeBreakTables v
    | "graphemeclusterbreak" => Unicode.lookup? Unicode.graphemeBreakTables v
    | "wb" => Unicode.lookup? Unicode.wordBreakTables v
    | "wordbreak" => Unicode.lookup? Unicode.wordBreakTables v
    | "sb" => Unicode.lookup? Unicode.sentenceBreakTables v
    | "sentencebreak" => Unicode.lookup? Unicode.sentenceBreakTables v
    | _ => none

def isAscii (s : CharSet) : Bool := s.ranges.all fun r => r.2 < 0x80

def Flags.fold (f : Flags) (s : CharSet) : CharSet :=
  if !f.ignoreCase then s
  else if f.unicode then Unicode.foldCase s
  else
    let lower := s.inter (.range 0x61 0x7a)
    let upper := s.inter (.range 0x41 0x5a)
    CharSet.unions [s, .ofRanges (lower.ranges.map fun r => (r.1 - 0x20, r.2 - 0x20)),
      .ofRanges (upper.ranges.map fun r => (r.1 + 0x20, r.2 + 0x20))]

/-- Case is folded before the complement is taken. Without `u`, a complement would hold bytes that
are no characters, so there is none. -/
def Flags.foldNegate (f : Flags) (negated : Bool) (s : CharSet) : Option CharSet :=
  if !negated then some (f.fold s)
  else if f.unicode then some (f.fold s).compl
  else none

def Flags.letterChars? (f : Flags) (negated : Bool) (kind : ClassLetter) : Option CharSet :=
  if !negated then some (kind.chars f.unicode)
  else if f.unicode then some (kind.chars true).compl
  else none

def Flags.propertyChars? (f : Flags) (negated : Bool) (query : PropertyQuery) : Option CharSet :=
  if f.unicode then query.chars?.bind (f.foldNegate negated) else none

def Flags.classLiteral? (f : Flags) (l : Literal) : Option Char :=
  if f.unicode ∨ l.char.toNat < 0x80 then some l.char else none

mutual

def classChars? (f : Flags) : ClassSyntax → Option CharSet
  | .literal l => (f.classLiteral? l).map CharSet.singleton
  | .range lo hi =>
    match f.classLiteral? lo, f.classLiteral? hi with
    | some lo, some hi => some (.range lo.toNat hi.toNat)
    | _, _ => none
  | .ascii negated name => f.foldNegate negated (asciiClassChars name)
  | .letter negated kind => f.letterChars? negated kind
  | .property negated query => f.propertyChars? negated query
  | .bracketed negated body => (classChars? f body).bind (f.foldNegate negated)
  | .union items => (classItemChars? f items).map CharSet.unions
  | .operation op left right =>
    match classChars? f left, classChars? f right with
    | some left, some right =>
      let left := f.fold left
      let right := f.fold right
      match op with
      | .intersection => some (left.inter right)
      | .difference => some (left.diff right)
      | .symmetricDifference => some (left.symmDiff right)
    | _, _ => none

def classItemChars? (f : Flags) : List ClassSyntax → Option (List CharSet)
  | [] => some []
  | item :: rest =>
    match classChars? f item, classItemChars? f rest with
    | some set, some sets => some (set :: sets)
    | _, _ => none

end

def Flags.literal? (f : Flags) (l : Literal) : Option CharSet :=
  -- Without `u` a byte beyond ASCII is no character.
  if !f.unicode ∧ l.byte ∧ 0x80 ≤ l.char.toNat then none
  else if !f.unicode ∧ 0x80 ≤ l.char.toNat then some (.singleton l.char)
  else some (f.fold (.singleton l.char))

def Flags.dot? (f : Flags) : Option CharSet :=
  -- Without `u` the set would hold bytes that are no characters.
  if !f.unicode then none
  else if f.dotMatchesAll then some .all
  else if f.returns then some (CharSet.ofChars ['\n', '\r']).compl
  else some (CharSet.ofChars ['\n']).compl

def Flags.look (f : Flags) : Assertion → Look
  | .textStart => .textStart
  | .textEnd => .textEnd
  | .lineStart => if f.multiLine then .lineStart f.returns else .textStart
  | .lineEnd => if f.multiLine then .lineEnd f.returns else .textEnd
  | .wordBoundary => .word .boundary !f.unicode
  | .notWordBoundary => .word .noBoundary !f.unicode
  | .wordStart => .word .start !f.unicode
  | .wordEnd => .word .finish !f.unicode
  | .wordStartHalf => .word .startHalf !f.unicode
  | .wordEndHalf => .word .finishHalf !f.unicode

namespace Expression

def isZeroWidth : Expression → Bool
  | .empty => true
  | .chars _ => false
  | .look _ => true
  | .sequence a b => a.isZeroWidth && b.isZeroWidth
  | .choice a b => a.isZeroWidth && b.isZeroWidth
  | .repetition a _ most => a.isZeroWidth || most == some 0
  | .capture a => a.isZeroWidth

/-- A repetition. What matches the empty text only need not be repeated. -/
def repeated (body : Expression) (least : Nat) (most : Option Nat) : Expression :=
  let (least, most) :=
    if body.isZeroWidth then (min least 1, some ((most.map fun n => min n 1).getD 1))
    else (least, most)
  if most = some 0 then .empty
  else if least = 1 ∧ most = some 1 then body
  else .repetition body least most

end Expression

mutual

/-- The meaning of a part under the flags before it, and the flags after it. There is none when a
class is not known, or would hold bytes that are no characters. -/
def express (f : Flags) : Syntax → Option (Expression × Flags)
  | .empty => some (.empty, f)
  | .flags changes => some (.empty, f.applyAll changes)
  | .literal l => (f.literal? l).map fun s => (.chars s, f)
  | .dot => f.dot?.map fun s => (.chars s, f)
  | .assertion kind => some (.look (f.look kind), f)
  | .letter negated kind => (f.letterChars? negated kind).map fun s => (.chars s, f)
  | .property negated query => (f.propertyChars? negated query).map fun s => (.chars s, f)
  | .bracketed negated body =>
    ((classChars? f body).bind (f.foldNegate negated)).map fun s => (.chars s, f)
  | .repetition body least most =>
    match express f body with
    | some (e, f) => some (e.repeated least most, f)
    | none => none
  | .capture body =>
    match express f body with
    | some (e, _) => some (.capture e, f)
    | none => none
  | .group changes body =>
    match express (f.applyAll changes) body with
    | some (e, _) => some (e, f)
    | none => none
  | .concatenation parts => expressParts f parts
  | .alternation branches => expressBranches f branches

def expressParts (f : Flags) : List Syntax → Option (Expression × Flags)
  | [] => some (.empty, f)
  | part :: rest =>
    match express f part with
    | none => none
    | some (a, f) =>
      match expressParts f rest with
      | some (b, f) => some (.sequence a b, f)
      | none => none

def expressBranches (f : Flags) : List Syntax → Option (Expression × Flags)
  | [] => some (.chars .empty, f)
  | branch :: rest =>
    match express f branch with
    | none => none
    | some (a, f) =>
      match expressBranches f rest with
      | some (b, f) => some (.choice a b, f)
      | none => none

end

end PathQuery.Pattern
