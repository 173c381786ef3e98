/-!
Tokens of YAML text, and the state of cutting a text into them.

Block structure shows in indentation only, so the lexer keeps a stack of columns and emits tokens for
the starts and ends of blocks. That a scalar is a key shows only at the colon behind it; the lexer
remembers where a key may have started, and puts the tokens in there when the colon comes.
-/
namespace PathQuery.Yaml

inductive Error where
  | unexpectedCharacter
  | tab
  | indentation
  | missingBlank
  | missingColon
  | unterminated
  | trailingContent
  | escape
  | directive
  | tag
  | anchor
  | blockHeader
  | notAllowedHere
  | nesting
  | unexpectedToken
  | unknownAlias
  | unknownHandle
  | duplicateKey
  deriving DecidableEq, Repr

inductive Token where
  | versionDirective
  | tagDirective (handle address : String)
  | documentStart
  | documentEnd
  | blockSequenceStart
  | blockMappingStart
  | blockEnd
  | flowSequenceStart
  | flowSequenceEnd
  | flowMappingStart
  | flowMappingEnd
  | blockEntry
  | flowEntry
  | key
  | value
  | aliasOf (name : String)
  | anchor (name : String)
  | tag (handle suffix : String)
  | scalar (plain : Bool) (text : String)
  deriving DecidableEq, Repr

/-- A place where a key may have started: how many tokens came before it, and whether what stands
there has to be a key. -/
structure KeyMark where
  possible : Bool
  required : Bool
  token : Nat
  index : Nat
  line : Nat
  column : Nat

def KeyMark.none : KeyMark := ⟨false, false, 0, 0, 0, 0⟩

structure Indent where
  column : Int
  block : Bool

/-- The state of cutting a text into tokens. The end of the text looks like the character NUL. -/
structure Lexer where
  -- A bound for the number of steps that each take a character, and one more.
  fuel : Nat
  rest : List Char
  index : Nat
  line : Nat
  column : Nat
  lineStart : Bool
  tokens : Array (Token × Nat)
  indent : Int
  indents : List Indent
  keyAllowed : Bool
  keys : List KeyMark
  flowDepth : Nat
  -- Where a colon needs no blank behind it.
  adjacentAt : Nat
  -- Whether a flow mapping was started and no implicit one was ended since.
  flowMapping : Bool
  -- For each open flow sequence, whether an implicit mapping is open in it.
  implicitMappings : List Bool

abbrev Lexing := Except Error

def isEnd (c : Char) : Bool := c = '\x00'
def isBreak (c : Char) : Bool := c = '\n' || c = '\r'
def isBreakOrEnd (c : Char) : Bool := isBreak c || isEnd c
def isSpace (c : Char) : Bool := c = ' ' || c = '\t'
def isSpaceOrBreak (c : Char) : Bool := isSpace c || isBreak c
def isSpaceOrEnd (c : Char) : Bool := isSpace c || isBreakOrEnd c
def isFlow (c : Char) : Bool := c = ',' || c = '[' || c = ']' || c = '\x7b' || c = '\x7d'
def isWordChar (c : Char) : Bool := c.isAlphanum || c = '_' || c = '-'

namespace Lexer

def start (cs : List Char) : Lexer where
  fuel := cs.length + 1
  rest := cs
  index := 0
  line := 1
  column := 0
  lineStart := true
  tokens := #[]
  indent := -1
  indents := []
  keyAllowed := true
  keys := [.none]
  flowDepth := 0
  adjacentAt := 0
  flowMapping := false
  implicitMappings := []

def char (l : Lexer) : Char := l.rest.headD '\x00'

def peek (l : Lexer) (n : Nat) : Char := (l.rest.drop n).headD '\x00'

def skipBlank (l : Lexer) : Lexer :=
  { l with rest := l.rest.drop 1, index := l.index + 1, column := l.column + 1 }

def skipChar (l : Lexer) : Lexer := { l.skipBlank with lineStart := false }

def skipChars (n : Nat) (l : Lexer) : Lexer :=
  { l with rest := l.rest.drop n, index := l.index + n, column := l.column + n, lineStart := false }

def skipFeed (l : Lexer) : Lexer :=
  { l with rest := l.rest.drop 1, index := l.index + 1, line := l.line + 1, column := 0,
           lineStart := true }

def skipBreak (l : Lexer) : Lexer :=
  if l.char = '\r' ∧ l.peek 1 = '\n' then l.skipBlank.skipFeed
  else if isBreak l.char then l.skipFeed
  else l

def allowKey (l : Lexer) : Lexer := { l with keyAllowed := true }

def forbidKey (l : Lexer) : Lexer := { l with keyAllowed := false }

def skipLine : Nat → Lexer → Lexer
  | 0, l => l
  | n + 1, l => if isBreakOrEnd l.char then l else skipLine n l.skipChar

/-- Skips blanks and a comment up to the end of the line, and tells whether there were tabs and
spaces. A comment needs a blank before it. -/
def skipToBreak (tabs : Bool) : Nat → Bool → Bool → Lexer → Lexing (Lexer × Bool × Bool)
  | 0, foundTab, foundSpace, l => .ok (l, foundTab, foundSpace)
  | n + 1, foundTab, foundSpace, l =>
    if l.char = ' ' then skipToBreak tabs n foundTab true l.skipBlank
    else if l.char = '\t' ∧ tabs then skipToBreak tabs n true foundSpace l.skipBlank
    else if l.char = '#' then
      if !foundTab && !foundSpace then .error .missingBlank
      else skipToBreak tabs n foundTab foundSpace (skipLine l.fuel l)
    else .ok (l, foundTab, foundSpace)

def skipRest (l : Lexer) : Lexing Lexer := (skipToBreak true l.fuel false false l).map Prod.fst

def skipToToken : Nat → Lexer → Lexing Lexer
  | 0, l => .ok l
  | n + 1, l =>
    if l.char = '\t' ∧ !l.indents.isEmpty ∧ l.lineStart ∧ (l.column : Int) < l.indent then do
      let l ← l.skipRest
      if isBreakOrEnd l.char then skipToToken n l else .error .tab
    else if isSpace l.char then skipToToken n l.skipBlank
    else if isBreak l.char then
      let l := l.skipBreak
      skipToToken n (if l.flowDepth = 0 then l.allowKey else l)
    else if l.char = '#' then skipToToken n (skipLine l.fuel l)
    else .ok l

def skipSpaces : Nat → Bool → Lexer → Lexing Lexer
  | 0, _, l => .ok l
  | n + 1, found, l =>
    if l.char = ' ' then skipSpaces n true l.skipBlank
    else if isBreak l.char then
      let l := l.skipBreak
      skipSpaces n true (if l.flowDepth = 0 then l.allowKey else l)
    else if l.char = '#' then skipSpaces n found (skipLine l.fuel l)
    else if found then .ok l
    else .error .missingBlank

def emitAt (column : Nat) (token : Token) (l : Lexer) : Lexer :=
  { l with tokens := l.tokens.push (token, column) }

def emit (token : Token) (l : Lexer) : Lexer := l.emitAt l.column token

def emitBefore (place : Nat) (token : Token) (l : Lexer) : Lexer :=
  { l with tokens := l.tokens.insertIdxIfInBounds place (token, l.column) }

/-- Outside of flow collections, a key cannot reach over a line end or far along a line. -/
def dropStaleKeys (l : Lexer) : Lexing Lexer :=
  if l.flowDepth ≠ 0 then .ok l
  else
    let stale (k : KeyMark) : Bool := k.possible && (k.line < l.line || k.index + 1024 < l.index)
    if l.keys.any fun k => stale k && k.required then .error .missingColon
    else .ok { l with keys := l.keys.map fun k => if stale k then { k with possible := false } else k }

def currentKey (l : Lexer) : KeyMark := l.keys.headD .none

def inBlock (l : Lexer) : Bool := (l.indents.head?.map Indent.block).getD false

def saveKey (l : Lexer) : Lexer :=
  if l.keyAllowed then
    let required := l.flowDepth = 0 && l.indent = (l.column : Int) && l.inBlock
    let mark : KeyMark := ⟨true, required, l.tokens.size, l.index, l.line, l.column⟩
    { l with keys := mark :: l.keys.tail }
  else l

def removeKey (l : Lexer) : Lexing Lexer :=
  match l.keys with
  | [] => .ok l
  | k :: rest =>
    if k.possible && k.required then .error .missingColon
    else .ok { l with keys := { k with possible := false } :: rest }

def dropLooseIndent (column : Int) (l : Lexer) : Lexer :=
  match l.indents with
  | i :: rest =>
    if l.indent ≤ column ∧ !i.block then { l with indent := i.column, indents := rest } else l
  | [] => l

/-- Opens a block at a column unless one is open there; its token goes to `place` if that is given. -/
def openBlock (column : Nat) (place : Option Nat) (token : Token) (l : Lexer) : Lexer :=
  if l.flowDepth ≠ 0 then l
  else
    let l := l.dropLooseIndent column
    if l.indent < (column : Int) then
      let l := { l with indents := ⟨l.indent, true⟩ :: l.indents, indent := column }
      match place with
      | some place => l.emitBefore place token
      | none => l.emit token
    else l

def closeBlocksFrom : List Indent → Int → Lexer → Lexer
  | [], _, l => l
  | i :: rest, column, l =>
    if column < l.indent then
      let l := { l with indent := i.column, indents := rest }
      closeBlocksFrom rest column (if i.block then l.emit .blockEnd else l)
    else l

def closeBlocks (column : Int) (l : Lexer) : Lexer :=
  if l.flowDepth ≠ 0 then l else closeBlocksFrom l.indents column l

def indentByOne (l : Lexer) : Lexer :=
  if l.flowDepth = 0 ∧ l.inBlock then
    { l with indents := ⟨l.indent, false⟩ :: l.indents, indent := l.indent + 1 }
  else l

def dropLooseIndents (l : Lexer) : Lexer :=
  let loose := l.indents.takeWhile fun i => !i.block
  match loose.getLast? with
  | some i => { l with indent := i.column, indents := l.indents.drop loose.length }
  | none => l

def endImplicitMapping (l : Lexer) : Lexer :=
  match l.implicitMappings with
  | true :: rest =>
    { l with flowMapping := false, implicitMappings := false :: rest }.emit .flowMappingEnd
  | _ => l

def atDocumentMark (l : Lexer) : Bool :=
  (l.rest.take 3 == ['-', '-', '-'] || l.rest.take 3 == ['.', '.', '.']) && isSpaceOrEnd (l.peek 3)

end Lexer

end PathQuery.Yaml
