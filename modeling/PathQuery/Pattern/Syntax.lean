import PathQuery.Number.Power
/-!
The syntax of patterns: regular expressions over characters, with flags, named groups, character
classes with set operations, and assertions about positions.
-/
namespace PathQuery.Pattern

inductive Flag where
  | ignoreCase
  | multiLine
  | dotMatchesAll
  | swapGreed
  | unicode
  | carriageReturns
  | extended
  deriving DecidableEq, Repr

def Flag.ofChar? : Char → Option Flag
  | 'i' => some .ignoreCase
  | 'm' => some .multiLine
  | 's' => some .dotMatchesAll
  | 'U' => some .swapGreed
  | 'u' => some .unicode
  | 'R' => some .carriageReturns
  | 'x' => some .extended
  | _ => none

abbrev FlagChange := Flag × Bool

inductive ClassLetter where
  | digit
  | space
  | word
  deriving DecidableEq, Repr

inductive PropertyQuery where
  | bare (name : String)
  | valued (name value : String)
  deriving DecidableEq, Repr

inductive Assertion where
  | lineStart
  | lineEnd
  | textStart
  | textEnd
  | wordBoundary
  | notWordBoundary
  | wordStart
  | wordEnd
  | wordStartHalf
  | wordEndHalf
  deriving DecidableEq, Repr

/-- A character of the pattern. `byte` marks one that two hexadecimal digits give. -/
structure Literal where
  char : Char
  byte : Bool
  deriving DecidableEq, Repr

inductive SetOperation where
  | intersection
  | difference
  | symmetricDifference
  deriving DecidableEq, Repr

inductive ClassSyntax where
  | literal (l : Literal)
  | range (lo hi : Literal)
  | ascii (negated : Bool) (name : String)
  | letter (negated : Bool) (kind : ClassLetter)
  | property (negated : Bool) (query : PropertyQuery)
  | bracketed (negated : Bool) (body : ClassSyntax)
  | union (items : List ClassSyntax)
  | operation (op : SetOperation) (left right : ClassSyntax)

inductive Syntax where
  | empty
  | flags (changes : List FlagChange)
  | literal (l : Literal)
  | dot
  | assertion (kind : Assertion)
  | letter (negated : Bool) (kind : ClassLetter)
  | property (negated : Bool) (query : PropertyQuery)
  | bracketed (negated : Bool) (body : ClassSyntax)
  | repetition (body : Syntax) (least : Nat) (most : Option Nat)
  | capture (body : Syntax)
  | group (changes : List FlagChange) (body : Syntax)
  | concatenation (parts : List Syntax)
  | alternation (branches : List Syntax)

namespace ClassSyntax

def ofItems : List ClassSyntax → ClassSyntax
  | [item] => item
  | items => .union items

mutual

def depth : ClassSyntax → Nat
  | .bracketed _ body => body.depth + 1
  | .union items => depthOfItems items + (if items.isEmpty then 0 else 1)
  | .operation _ left right => max left.depth right.depth + 1
  | .literal _ => 0
  | .range _ _ => 0
  | .ascii _ _ => 0
  | .letter _ _ => 0
  | .property _ _ => 0

def depthOfItems : List ClassSyntax → Nat
  | [] => 0
  | item :: rest => max item.depth (depthOfItems rest)

end

end ClassSyntax

namespace Syntax

def ofParts : List Syntax → Syntax
  | [] => .empty
  | [part] => part
  | parts => .concatenation parts

def ofBranches : List Syntax → Syntax
  | [branch] => branch
  | branches => .alternation branches

mutual

def depth : Syntax → Nat
  | .bracketed _ body => body.depth + 1
  | .repetition body _ _ => body.depth + 1
  | .capture body => body.depth + 1
  | .group _ body => body.depth + 1
  | .concatenation parts => depthOfList parts + 1
  | .alternation branches => depthOfList branches + 1
  | .empty => 0
  | .flags _ => 0
  | .literal _ => 0
  | .dot => 0
  | .assertion _ => 0
  | .letter _ _ => 0
  | .property _ _ => 0

def depthOfList : List Syntax → Nat
  | [] => 0
  | part :: rest => max part.depth (depthOfList rest)

end

end Syntax

end PathQuery.Pattern
