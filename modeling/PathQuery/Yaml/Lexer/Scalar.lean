import PathQuery.Text.Digits
import PathQuery.Yaml.Lexer.State
/-!
The texts of scalars: quoted, plain and in blocks. A single line break inside a quoted or plain scalar
stands for a blank; more of them stand for one less.
-/
namespace PathQuery.Yaml

/-- What a number of breaks between two parts of a text stand for, the last character first: `first`
tells whether there was a break that counts as a blank. -/
def foldBreaks (first : Bool) (more : Nat) (acc : List Char) : List Char :=
  if first ∧ more = 0 then ' ' :: acc else List.replicate more '\n' ++ acc

namespace Lexer

def hexEscape (count : Nat) (l : Lexer) : Lexing (Char × Lexer) :=
  let cs := (List.range count).map l.peek
  match Text.nat? 16 cs with
  | none => .error .escape
  | some n =>
    if n.isValidChar then .ok (Char.ofNat n, l.skipChars count) else .error .escape

def simpleEscape? : Char → Option Char
  | '0' => some '\x00'
  | 'a' => some '\x07'
  | 'b' => some '\x08'
  | 't' => some '\t'
  | '\t' => some '\t'
  | 'n' => some '\n'
  | 'v' => some '\x0b'
  | 'f' => some '\x0c'
  | 'r' => some '\r'
  | 'e' => some '\x1b'
  | ' ' => some ' '
  | '"' => some '"'
  | '/' => some '/'
  | '\\' => some '\\'
  | 'N' => some '\u0085'
  | '_' => some '\u00a0'
  | 'L' => some '\u2028'
  | 'P' => some '\u2029'
  | _ => none

def escape (l : Lexer) : Lexing (Char × Lexer) :=
  match simpleEscape? (l.peek 1) with
  | some c => .ok (c, l.skipChars 2)
  | none =>
    match l.peek 1 with
    | 'x' => (l.skipChars 2).hexEscape 2
    | 'u' => (l.skipChars 2).hexEscape 4
    | 'U' => (l.skipChars 2).hexEscape 8
    | _ => .error .escape

def quotedWord (single : Bool) : Nat → List Char → Lexer → Lexing (List Char × Bool × Lexer)
  | 0, acc, l => .ok (acc, false, l)
  | n + 1, acc, l =>
    if isSpaceOrEnd l.char then .ok (acc, false, l)
    else if single then
      if l.char = '\'' then
        if l.peek 1 = '\'' then quotedWord single n ('\'' :: acc) (l.skipChars 2)
        else .ok (acc, false, l)
      else quotedWord single n (l.char :: acc) l.skipChar
    else if l.char = '"' then .ok (acc, false, l)
    else if l.char = '\\' then
      if isBreak (l.peek 1) then .ok (acc, true, l.skipChar.skipBreak)
      else
        match l.escape with
        | .ok (c, l) => quotedWord single n (c :: acc) l
        | .error e => .error e
    else quotedWord single n (l.char :: acc) l.skipChar

/-- Blanks and breaks inside a scalar: whether there was a break, whether one that counts as a blank,
how many more there were, and the blanks if there was no break. -/
structure Gap where
  broken : Bool
  first : Bool
  more : Nat
  blanks : List Char

def quotedGap : Nat → Gap → Lexer → Lexing (Gap × Lexer)
  | 0, g, l => .ok (g, l)
  | n + 1, g, l =>
    if isSpace l.char then
      if !g.broken then quotedGap n { g with blanks := l.char :: g.blanks } l.skipBlank
      else if l.char = '\t' ∧ (l.column : Int) < l.indent then .error .tab
      else quotedGap n g l.skipBlank
    else if isBreak l.char then
      if g.broken then quotedGap n { g with more := g.more + 1 } l.skipBreak
      else quotedGap n ⟨true, true, g.more, []⟩ l.skipBreak
    else .ok (g, l)

def quotedText (single : Bool) : Nat → List Char → Lexer → Lexing (List Char × Lexer)
  | 0, _, _ => .error .unterminated
  | n + 1, acc, l =>
    if l.column = 0 ∧ l.atDocumentMark then .error .unterminated
    else if isEnd l.char then .error .unterminated
    else if (l.column : Int) < l.indent then .error .indentation
    else
      match quotedWord single l.fuel acc l with
      | .error e => .error e
      | .ok (acc, broken, l) =>
        if l.char = (if single then '\'' else '"') then .ok (acc.reverse, l)
        else
          match quotedGap l.fuel ⟨broken, false, 0, []⟩ l with
          | .error e => .error e
          | .ok (g, l) =>
            quotedText single n (if g.broken then foldBreaks g.first g.more acc else g.blanks ++ acc) l

def quotedScalar (single : Bool) (l : Lexer) : Lexing (List Char × Lexer) := do
  let startLine := l.line
  let l := l.skipChar
  let (text, l) ← quotedText single l.fuel [] l
  let l ← l.skipChar.skipRest
  let c := l.char
  let flow := 0 < l.flowDepth
  if (flow && (c = ',' || c = '\x7d' || c = ']' || c = ':')) || isBreakOrEnd c ||
      (c = ':' && startLine = l.line) then
    .ok (text, l)
  else .error .trailingContent

def isPlainHere (l : Lexer) : Bool :=
  let flow := 0 < l.flowDepth
  if l.char = ':' then !(isSpaceOrEnd (l.peek 1) || (flow && isFlow (l.peek 1)))
  else !(flow && isFlow l.char)

def plainWord : Nat → List Char → Lexer → List Char × Lexer
  | 0, acc, l => (acc, l)
  | n + 1, acc, l =>
    if isSpaceOrEnd l.char || !l.isPlainHere then (acc, l)
    else plainWord n (l.char :: acc) l.skipChar

def plainGap (indent : Int) : Nat → Gap → Lexer → Lexing (Gap × Lexer)
  | 0, g, l => .ok (g, l)
  | n + 1, g, l =>
    if isSpace l.char then
      if !l.lineStart then plainGap indent n { g with blanks := l.char :: g.blanks } l.skipBlank
      else if (l.column : Int) < indent ∧ l.char = '\t' then
        match l.skipRest with
        | .error e => .error e
        | .ok l => if isBreakOrEnd l.char then plainGap indent n g l else .error .tab
      else plainGap indent n g l.skipBlank
    else if isBreak l.char then
      if l.lineStart then plainGap indent n { g with more := g.more + 1 } l.skipBreak
      else plainGap indent n { g with first := true, blanks := [] } l.skipBreak
    else .ok (g, l)

def plainText (indent : Int) : Nat → List Char → Gap → Lexer → Lexing (List Char × Lexer)
  | 0, acc, _, l => .ok (acc, l)
  | n + 1, acc, g, l =>
    if (l.column = 0 ∧ l.atDocumentMark) ∨ l.char = '#' then .ok (acc, l)
    else if 0 < l.flowDepth ∧ l.char = '-' ∧ isFlow (l.peek 1) then .error .unexpectedCharacter
    else
      let (acc, g, l) :=
        if isSpaceOrEnd l.char || !l.isPlainHere then (acc, g, l)
        else
          let acc := if l.lineStart then foldBreaks g.first g.more acc else g.blanks ++ acc
          let (acc, l) := plainWord l.fuel acc l
          (acc, ⟨false, false, 0, []⟩, l)
      if !isSpaceOrBreak l.char then .ok (acc, l)
      else
        match plainGap indent l.fuel g l with
        | .error e => .error e
        | .ok (g, l) =>
          if l.flowDepth = 0 ∧ (l.column : Int) < indent then .ok (acc, l)
          else plainText indent n acc g l

/-- A plain scalar. Outside of flow collections its later lines stand right of the block. -/
def plainScalar (l : Lexer) : Lexing (List Char × Lexer) := do
  let l := l.dropLooseIndents
  let indent := l.indent + 1
  if 0 < l.flowDepth ∧ (l.column : Int) < indent then .error .indentation
  else
    let (acc, l) ← plainText indent l.fuel [] ⟨false, false, 0, []⟩ l
    let l := if l.lineStart then l.allowKey else l
    if acc.isEmpty then .error .unexpectedCharacter else .ok (acc.reverse, l)

inductive Chomping where
  | strip
  | clip
  | keep
  deriving DecidableEq

def blockHeader (l : Lexer) : Lexing (Chomping × Nat × Lexer) :=
  let chomping? (c : Char) : Option Chomping :=
    if c = '+' then some .keep else if c = '-' then some .strip else none
  match chomping? l.char with
  | some chomping =>
    let l := l.skipChar
    if !l.char.isDigit then .ok (chomping, 0, l)
    else if l.char = '0' then .error .blockHeader
    else .ok (chomping, l.char.toNat - '0'.toNat, l.skipChar)
  | none =>
    if !l.char.isDigit then .ok (.clip, 0, l)
    else if l.char = '0' then .error .blockHeader
    else
      let width := l.char.toNat - '0'.toNat
      let l := l.skipChar
      match chomping? l.char with
      | some chomping => .ok (chomping, width, l.skipChar)
      | none => .ok (.clip, width, l)

def blockIndent (indent : Nat) : Nat → Nat → Lexer → Nat × Lexer
  | 0, breaks, l => (breaks, l)
  | n + 1, breaks, l =>
    if l.column < indent ∧ l.char = ' ' then blockIndent indent n breaks l.skipBlank
    else if isBreak l.char then blockIndent indent n (breaks + 1) l.skipBreak
    else (breaks, l)

def firstIndent : Nat → Nat → Nat → Lexer → Nat × Nat × Lexer
  | 0, breaks, widest, l => (breaks, widest, l)
  | n + 1, breaks, widest, l =>
    if l.char = ' ' then firstIndent n breaks widest l.skipBlank
    else
      let widest := max widest l.column
      if isBreak l.char then firstIndent n (breaks + 1) widest l.skipBreak
      else (breaks, widest, l)

def lineText : Nat → List Char → Lexer → List Char × Lexer
  | 0, acc, l => (acc, l)
  | n + 1, acc, l => if isBreakOrEnd l.char then (acc, l) else lineText n (l.char :: acc) l.skipBlank

/-- The lines of a block scalar, the last character first, and then whether a break followed the last
line, and how many empty lines. `leading` tells the break before the next line, and `blank` whether
the line before started with a blank. -/
def blockLines (literal : Bool) (indent : Nat) : Nat → List Char → Bool → Bool → Nat → Lexer →
    List Char × Bool × Nat × Lexer
  | 0, acc, leading, _, breaks, l => (acc, leading, breaks, l)
  | n + 1, acc, leading, blank, breaks, l =>
    if l.column ≠ indent ∨ isEnd l.char ∨
        (indent = 0 ∧ l.rest.take 3 = ['.', '.', '.'] ∧ isSpaceOrEnd (l.peek 3)) then
      (acc, leading, breaks, l)
    else
      let startsBlank := isSpace l.char
      let acc :=
        if !literal ∧ leading ∧ !blank ∧ !startsBlank then foldBreaks true breaks acc
        else List.replicate breaks '\n' ++ (if leading then '\n' :: acc else acc)
      let (acc, l) := lineText l.fuel acc l
      if isEnd l.char then (acc, false, 0, l)
      else
        let l := l.skipBreak
        let (breaks, l) := blockIndent indent l.fuel 0 l
        blockLines literal indent n acc true startsBlank breaks l

def blockScalar (literal : Bool) (l : Lexer) : Lexing (List Char × Lexer) := do
  let startLine := l.line
  let (chomping, width, l) ← l.skipChar.dropLooseIndents.blockHeader
  let l ← l.skipRest
  if !isBreakOrEnd l.char then .error .blockHeader
  else
    let broken := isBreak l.char
    let l := l.skipBreak
    if l.char = '\t' then .error .tab
    else
      let (indent, breaks, l) :=
        if width = 0 then
          let (breaks, widest, l) := firstIndent l.fuel 0 0 l
          let indent := max widest (l.indent + 1).toNat
          (if 0 < l.indent then max indent 1 else indent, breaks, l)
        else
          let indent := if 0 ≤ l.indent then (l.indent + width).toNat else width
          let (breaks, l) := blockIndent indent l.fuel 0 l
          (indent, breaks, l)
      if isEnd l.char then
        let oneBreak := if broken then ['\n'] else []
        let text :=
          if chomping = .strip ∨ l.line = startLine then []
          else if chomping = .clip ∨ breaks = 0 then oneBreak
          else List.replicate breaks '\n'
        .ok (text, l)
      else if l.column < indent ∧ l.indent < (l.column : Int) then .error .indentation
      else
        let (acc, leading, breaks, l) := blockLines literal indent l.fuel [] false false breaks l
        let acc :=
          if chomping = .strip then acc
          else
            let acc := if leading then '\n' :: acc else acc
            if isEnd l.char ∧ max indent 1 ≤ l.column then '\n' :: acc else acc
        let acc := if chomping = .keep then List.replicate breaks '\n' ++ acc else acc
        .ok (acc.reverse, l)

end Lexer

end PathQuery.Yaml
