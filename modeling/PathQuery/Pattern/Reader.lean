import PathQuery.Pattern.Syntax
import PathQuery.Text.Blank
import PathQuery.Text.Digits
import PathQuery.Unicode.Category
import PathQuery.Unicode.Property
/-!
Reading patterns. There is no result for a text that is not a pattern.

Under the flag `x`, white space and comments from `#` to the end of the line may stand between the
parts of a pattern.
-/
namespace PathQuery.Pattern

/-- What is left to read, whether blanks are skipped, and the group names seen so far. -/
structure Cursor where
  rest : List Char
  extended : Bool
  names : List String

namespace Cursor

def dropComment (cs : List Char) : List Char := (cs.dropWhile (· ≠ '\n')).drop 1

def dropBlanks : Nat → List Char → List Char
  | 0, cs => cs
  | fuel + 1, cs =>
    match cs with
    | [] => []
    | c :: rest =>
      if Text.isBlank c then dropBlanks fuel rest
      else if c = '#' then dropBlanks fuel (dropComment rest)
      else c :: rest

def skip (k : Cursor) : Cursor :=
  if k.extended then { k with rest := dropBlanks (k.rest.length + 1) k.rest } else k

def next (k : Cursor) : Cursor := { k with rest := k.rest.drop 1 }

def nextSkip (k : Cursor) : Cursor := k.next.skip

def head? (k : Cursor) : Option Char := k.rest.head?

def after? (k : Cursor) (text : String) : Option Cursor :=
  if text.toList.isPrefixOf k.rest then some { k with rest := k.rest.drop text.length } else none

def second? (k : Cursor) : Option Char :=
  let rest := k.rest.drop 1
  if k.extended then
    let past := rest.dropWhile Text.isBlank
    let past := match past with
      | '#' :: more => more.dropWhile Text.isBlank
      | _ => past
    (past.head?).orElse fun _ => rest.head?
  else rest.head?

end Cursor

def isMeta (c : Char) : Bool := "\\.+*?()|[]\x7b\x7d^$#&-~".toList.contains c

def isEscapable (c : Char) : Bool :=
  isMeta c || (c.toNat < 0x80 && !c.isAlphanum && c ≠ '<' && c ≠ '>')

def charOf? (n : Nat) : Option Char := if n.isValidChar then some (Char.ofNat n) else none

def hexDigits : Nat → Nat → Cursor → Option (Nat × Cursor)
  | 0, n, k => some (n, k)
  | count + 1, n, k =>
    match k.head?.bind Text.hexDigit? with
    | some d => hexDigits count (16 * n + d) k.nextSkip
    | none => none

def hexUpToBrace : Nat → Nat → Nat → Cursor → Option (Nat × Cursor)
  | 0, _, _, _ => none
  | fuel + 1, count, n, k =>
    match k.head? with
    | none => none
    | some c =>
      if c = '\x7d' then (if count = 0 then none else some (n, k.nextSkip))
      else
        match Text.hexDigit? c with
        | some d => hexUpToBrace fuel (count + 1) (16 * n + d) k.nextSkip
        | none => none

/-- A code point behind `\x`, `\u` or `\U`: two, four or eight digits, or any number in braces. -/
def hexEscape (kind : Char) (k : Cursor) : Option (Literal × Cursor) := do
  let c ← k.head?
  if c = '\x7b' then
    let (n, k) ← hexUpToBrace (k.rest.length + 1) 0 0 k.nextSkip
    let c ← charOf? n
    some (⟨c, false⟩, k)
  else
    let count := if kind = 'x' then 2 else if kind = 'u' then 4 else 8
    let (n, k) ← hexDigits count 0 k
    let c ← charOf? n
    some (⟨c, kind = 'x'⟩, k)

def upToBrace : Nat → List Char → Cursor → Option ((List Char) × Cursor)
  | 0, _, _ => none
  | fuel + 1, acc, k =>
    match k.head? with
    | none => none
    | some c => if c = '\x7d' then some (acc.reverse, k.next) else upToBrace fuel (c :: acc) k.nextSkip

def splitAt? (sep : List Char) : List Char → Option (List Char × List Char)
  | [] => none
  | c :: cs =>
    if sep.isPrefixOf (c :: cs) then some ([], (c :: cs).drop sep.length)
    else (splitAt? sep cs).map fun p => (c :: p.1, p.2)

/-- The text between the braces of a property. It makes no difference which sign stands between a name
and a value. -/
def propertyOf (cs : List Char) : PropertyQuery :=
  match ((splitAt? ['!', '='] cs).orElse fun _ => splitAt? [':'] cs).orElse fun _ =>
      splitAt? ['='] cs with
  | some (name, v) => .valued (String.ofList name) (String.ofList v)
  | none => .bare (String.ofList cs)

def propertyEscape (k : Cursor) : Option (PropertyQuery × Cursor) := do
  let c ← k.head?
  if c = '\x7b' then
    let (cs, k) ← upToBrace (k.rest.length + 1) [] k.nextSkip
    some (propertyOf cs, k)
  else if c = '\\' then none
  else some (.bare (String.ofList [c]), k.nextSkip)

def boundaryWord : Nat → List Char → Cursor → List Char × Cursor
  | 0, acc, k => (acc.reverse, k)
  | fuel + 1, acc, k =>
    match k.head? with
    | some c =>
      if c.isAlpha ∨ c = '-' then boundaryWord fuel (c :: acc) k.nextSkip else (acc.reverse, k)
    | none => (acc.reverse, k)

/-- What follows `\b`: a kind of boundary in braces, or nothing. Braces that hold no word are a
repetition. -/
def boundary (k : Cursor) : Option (Assertion × Cursor) :=
  if k.head? ≠ some '\x7b' then some (.wordBoundary, k)
  else
    match k.nextSkip.head? with
    | none => none
    | some c =>
      if !(c.isAlpha || c = '-') then some (.wordBoundary, k)
      else
        let (word, k) := boundaryWord k.rest.length [] k.nextSkip
        if k.head? ≠ some '\x7d' then none
        else
          match String.ofList word with
          | "start" => some (.wordStart, k.next)
          | "end" => some (.wordEnd, k.next)
          | "start-half" => some (.wordStartHalf, k.next)
          | "end-half" => some (.wordEndHalf, k.next)
          | _ => none

def classLetter? : Char → Option (Bool × ClassLetter)
  | 'd' => some (false, .digit)
  | 's' => some (false, .space)
  | 'w' => some (false, .word)
  | 'D' => some (true, .digit)
  | 'S' => some (true, .space)
  | 'W' => some (true, .word)
  | _ => none

def controlLetter? : Char → Option Char
  | 'a' => some '\x07'
  | 'f' => some '\x0c'
  | 't' => some '\t'
  | 'n' => some '\n'
  | 'r' => some '\r'
  | 'v' => some '\x0b'
  | _ => none

def escape (k : Cursor) : Option (Syntax × Cursor) := do
  let c ← k.head?
  if c = 'x' ∨ c = 'u' ∨ c = 'U' then
    let (l, k) ← hexEscape c k.nextSkip
    some (.literal l, k)
  else if c = 'p' ∨ c = 'P' then
    let (query, k) ← propertyEscape k.nextSkip
    some (.property (c = 'P') query, k)
  else
    let k := k.next
    match classLetter? c with
    | some (negated, kind) => some (.letter negated kind, k)
    | none =>
      if isEscapable c then some (.literal ⟨c, false⟩, k)
      else
        match controlLetter? c with
        | some control => some (.literal ⟨control, false⟩, k)
        | none =>
          match c with
          | 'A' => some (.assertion .textStart, k)
          | 'z' => some (.assertion .textEnd, k)
          | 'b' => (boundary k).map fun r => (.assertion r.1, r.2)
          | 'B' => some (.assertion .notWordBoundary, k)
          | '<' => some (.assertion .wordStart, k)
          | '>' => some (.assertion .wordEnd, k)
          | _ => none

def primitive (k : Cursor) : Option (Syntax × Cursor) :=
  match k.head? with
  | none => none
  | some '\\' => escape k.next
  | some '.' => some (.dot, k.next)
  | some '^' => some (.assertion .lineStart, k.next)
  | some '$' => some (.assertion .lineEnd, k.next)
  | some c => some (.literal ⟨c, false⟩, k.next)

def asciiClassNames : List String :=
  ["alnum", "alpha", "ascii", "blank", "cntrl", "digit", "graph", "lower", "print", "punct",
    "space", "upper", "word", "xdigit"]

def asciiClass (k : Cursor) : Option (ClassSyntax × Cursor) :=
  match k.rest with
  | '[' :: ':' :: rest =>
    let (negated, rest) := match rest with
      | '^' :: rest => (true, rest)
      | _ => (false, rest)
    let name := String.ofList (rest.takeWhile (· ≠ ':'))
    match rest.dropWhile (· ≠ ':') with
    | ':' :: ']' :: rest =>
      if asciiClassNames.contains name then some (.ascii negated name, { k with rest := rest })
      else none
    | _ => none
  | _ => none

def classPrimitive (k : Cursor) : Option (Syntax × Cursor) :=
  match k.head? with
  | none => none
  | some '\\' => escape k.next
  | some c => some (.literal ⟨c, false⟩, k.next)

def classItem? : Syntax → Option ClassSyntax
  | .literal l => some (.literal l)
  | .letter negated kind => some (.letter negated kind)
  | .property negated query => some (.property negated query)
  | _ => none

/-- An item or a range of a class. A hyphen before a bracket or another hyphen makes no range. -/
def classRange (k : Cursor) : Option (ClassSyntax × Cursor) := do
  let (first, k) ← classPrimitive k
  let k := k.skip
  let c ← k.head?
  if c ≠ '-' ∨ k.second? = some ']' ∨ k.second? = some '-' then
    let item ← classItem? first
    some (item, k)
  else
    let (last, k) ← classPrimitive k.nextSkip
    match first, last with
    | .literal lo, .literal hi => if lo.char ≤ hi.char then some (.range lo hi, k) else none
    | _, _ => none

def leadingHyphens : Nat → List ClassSyntax → Cursor → List ClassSyntax × Cursor
  | 0, items, k => (items, k)
  | fuel + 1, items, k =>
    if k.head? = some '-' then leadingHyphens fuel (.literal ⟨'-', false⟩ :: items) k.nextSkip
    else (items, k)

def classStart (k : Cursor) : Bool × List ClassSyntax × Cursor :=
  let k := k.nextSkip
  let (negated, k) := if k.head? = some '^' then (true, k.nextSkip) else (false, k)
  let (items, k) := leadingHyphens k.rest.length [] k
  if items.isEmpty ∧ k.head? = some ']' then (negated, [.literal ⟨']', false⟩], k.nextSkip)
  else (negated, items, k)

def setOperation? (k : Cursor) : Option SetOperation :=
  match k.rest with
  | '&' :: '&' :: _ => some .intersection
  | '-' :: '-' :: _ => some .difference
  | '~' :: '~' :: _ => some .symmetricDifference
  | _ => none

def closeOperation (pending : Option (SetOperation × ClassSyntax)) (items : List ClassSyntax) :
    ClassSyntax :=
  match pending with
  | some (op, left) => .operation op left (.ofItems items.reverse)
  | none => .ofItems items.reverse

mutual

def bracketed (fuel : Nat) (k : Cursor) : Option (Bool × ClassSyntax × Cursor) :=
  match fuel with
  | 0 => none
  | fuel + 1 =>
    let (negated, items, k) := classStart k
    match classBody fuel none items k with
    | some (body, k) => some (negated, body, k)
    | none => none

def classBody (fuel : Nat) (pending : Option (SetOperation × ClassSyntax))
    (items : List ClassSyntax) (k : Cursor) : Option (ClassSyntax × Cursor) :=
  match fuel with
  | 0 => none
  | fuel + 1 =>
    let k := k.skip
    match k.head? with
    | none => none
    | some c =>
      if c = '[' then
        match asciiClass k with
        | some (item, k) => classBody fuel pending (item :: items) k
        | none =>
          match bracketed fuel k with
          | some (negated, body, k) => classBody fuel pending (.bracketed negated body :: items) k
          | none => none
      else if c = ']' then some (closeOperation pending items, k.next)
      else
        match setOperation? k with
        | some op => classBody fuel (some (op, closeOperation pending items)) [] k.next.next
        | none =>
          match classRange k with
          | some (item, k) => classBody fuel pending (item :: items) k
          | none => none

end

def isLetter (c : Char) : Bool :=
  if c.toNat < 0x80 then c.isAlpha else ((Unicode.property? "alphabetic").getD .empty).contains c

def isNumeric (c : Char) : Bool :=
  if c.toNat < 0x80 then c.isDigit else ((Unicode.category? "n").getD .empty).contains c

def isGroupName (cs : List Char) : Bool :=
  match cs with
  | [] => false
  | c :: rest =>
    (c = '_' || isLetter c) &&
      rest.all fun d => "_.[]".toList.contains d || isLetter d || isNumeric d

def groupName (k : Cursor) : Option Cursor :=
  let name := k.rest.takeWhile (· ≠ '>')
  match k.rest.dropWhile (· ≠ '>') with
  | [] => none
  | _ :: rest =>
    let text := String.ofList name
    if isGroupName name ∧ !k.names.contains text then
      some { k with rest := rest, names := text :: k.names }
    else none

/-- Flags up to a colon or parenthesis, which is given with them. `cleared` tells whether a hyphen
came before, and `dangling` whether it came just before. -/
def flagList (cleared dangling : Bool) (changes : List FlagChange) :
    List Char → Option (List FlagChange × Char × List Char)
  | [] => none
  | c :: rest =>
    if c = ':' ∨ c = ')' then (if dangling then none else some (changes.reverse, c, rest))
    else if c = '-' then (if cleared then none else flagList true true changes rest)
    else
      match Flag.ofChar? c with
      | some flag =>
        if changes.any fun f => f.1 = flag then none
        else flagList cleared false ((flag, !cleared) :: changes) rest
      | none => none

inductive Opening where
  | capture
  | group (changes : List FlagChange)
  | flags (changes : List FlagChange)

/-- What the parenthesis before the cursor opens. Looking around is not part of patterns. -/
def opening (k : Cursor) : Option (Opening × Cursor) :=
  let k := k.skip
  if ["?=", "?!", "?<=", "?<!"].any fun p => (k.after? p).isSome then none
  else
    match (k.after? "?P<").orElse fun _ => k.after? "?<" with
    | some k => (groupName k).map fun k => (.capture, k)
    | none =>
      match k.after? "?" with
      | none => some (.capture, k)
      | some k =>
        match flagList false false [] k.rest with
        | none => none
        | some (changes, ':', rest) => some (.group changes, { k with rest := rest })
        | some (changes, _, rest) =>
          if changes.isEmpty then none else some (.flags changes, { k with rest := rest })

def extendedAfter (old : Bool) (changes : List FlagChange) : Bool :=
  match changes.find? fun f => f.1 = .extended with
  | some f => f.2
  | none => old

def decimalDigits : Nat → Option Nat → Cursor → Option Nat × Cursor
  | 0, n, k => (n, k)
  | fuel + 1, n, k =>
    match k.head? with
    | some c =>
      if c.isDigit then decimalDigits fuel (some (10 * n.getD 0 + (c.toNat - '0'.toNat))) k.nextSkip
      else (n, k)
    | none => (n, k)

def dropSpaces : Nat → Cursor → Cursor
  | 0, k => k
  | fuel + 1, k => if (k.head?.map Text.isBlank).getD false then dropSpaces fuel k.nextSkip else k

def decimal (k : Cursor) : Option (Option Nat × Cursor) :=
  let k := { k with rest := k.rest.dropWhile Text.isBlank }
  let (n, k) := decimalDigits k.rest.length none k
  let k := dropSpaces k.rest.length k
  if n.getD 0 < 2 ^ 32 then some (n, k) else none

def bounds (k : Cursor) : Option (Nat × Option Nat × Cursor) := do
  let (least, k) ← decimal k.nextSkip
  let least ← least
  let c ← k.head?
  if c = ',' then
    let k := k.nextSkip
    let c ← k.head?
    if c = '\x7d' then some (least, none, k)
    else
      let (most, k) ← decimal k
      let most ← most
      if k.head? = some '\x7d' ∧ least ≤ most then some (least, some most, k) else none
  else if c = '\x7d' then some (least, some least, k)
  else none

def isRepeatable : Syntax → Bool
  | .empty => false
  | .flags _ => false
  | _ => true

/-- The cursor behind a question mark, if there is one: whether a repetition is greedy does not
matter to what it matches. -/
def dropLazy (k : Cursor) : Cursor := if k.head? = some '?' then k.next else k

def repeatLast (parts : List Syntax) (least : Nat) (most : Option Nat) : Option (List Syntax) :=
  match parts with
  | part :: rest => if isRepeatable part then some (.repetition part least most :: rest) else none
  | [] => none

def closeBranches (branches : List Syntax) (parts : List Syntax) : Syntax :=
  .ofBranches ((Syntax.ofParts parts.reverse :: branches).reverse)

/-- Reads up to the end, or up to the parenthesis that closes a group. `fuel` bounds the number of
characters; finished branches and the parts of the open one come with the last first. -/
def readExpression (inGroup : Bool) : Nat → List Syntax → List Syntax → Cursor → Option (Syntax × Cursor)
  | 0, _, _, _ => none
  | fuel + 1, branches, parts, k =>
    let k := k.skip
    match k.head? with
    | none => if inGroup then none else some (closeBranches branches parts, k)
    | some c =>
      if c = '(' then
        match opening k.next with
        | none => none
        | some (.flags changes, k') =>
          readExpression inGroup fuel branches (.flags changes :: parts)
            { k' with extended := extendedAfter k.extended changes }
        | some (.group changes, k') =>
          match readExpression true fuel [] [] { k' with extended := extendedAfter k.extended changes } with
          | some (body, k') =>
            readExpression inGroup fuel branches (.group changes body :: parts)
              { k' with extended := k.extended }
          | none => none
        | some (.capture, k') =>
          match readExpression true fuel [] [] k' with
          | some (body, k') =>
            readExpression inGroup fuel branches (.capture body :: parts)
              { k' with extended := k.extended }
          | none => none
      else if c = ')' then
        if inGroup then some (closeBranches branches parts, k.next) else none
      else if c = '|' then readExpression inGroup fuel (.ofParts parts.reverse :: branches) [] k.next
      else if c = '[' then
        match bracketed (2 * k.rest.length + 2) k with
        | some (negated, body, k) => readExpression inGroup fuel branches (.bracketed negated body :: parts) k
        | none => none
      else if c = '?' then
        match repeatLast parts 0 (some 1) with
        | some parts => readExpression inGroup fuel branches parts (dropLazy k.next)
        | none => none
      else if c = '*' then
        match repeatLast parts 0 none with
        | some parts => readExpression inGroup fuel branches parts (dropLazy k.next)
        | none => none
      else if c = '+' then
        match repeatLast parts 1 none with
        | some parts => readExpression inGroup fuel branches parts (dropLazy k.next)
        | none => none
      else if c = '\x7b' then
        match bounds k with
        | none => none
        | some (least, most, k) =>
          match repeatLast parts least most with
          | some parts => readExpression inGroup fuel branches parts (dropLazy k.nextSkip)
          | none => none
      else
        match primitive k with
        | some (part, k) => readExpression inGroup fuel branches (part :: parts) k
        | none => none

def depthLimit : Nat := 250

def Syntax.read? (pattern : String) : Option Syntax :=
  let cs := pattern.toList
  match readExpression false (cs.length + 1) [] [] ⟨cs, false, []⟩ with
  | some (parsed, _) => if parsed.depth ≤ depthLimit then some parsed else none
  | none => none

end PathQuery.Pattern
