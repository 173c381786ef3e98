import PathQuery.Text.Digits
import PathQuery.Yaml.Lexer.State
/-!
The names that stand before a node and the lines that explain them: anchors, aliases, tags and
directives.
-/
namespace PathQuery.Yaml

def isAddressChar (c : Char) : Bool := isWordChar c || "#;/?:@&=+$,_.!~*'()[]%".toList.contains c

def isTagChar (c : Char) : Bool := isAddressChar c && !isFlow c && c ≠ '!'

def isAnchorChar (c : Char) : Bool :=
  !isSpace c && !isBreakOrEnd c && !isFlow c && c ≠ '\ufeff'

namespace Lexer

def takeRun (p : Char → Bool) (l : Lexer) : List Char × Lexer :=
  let run := l.rest.takeWhile p
  (run, l.skipChars run.length)

def anchorName (l : Lexer) : Lexing (String × Lexer) :=
  let (name, l) := l.skipChar.takeRun isAnchorChar
  if name.isEmpty then .error .anchor else .ok (String.ofList name, l)

def escapedByte (l : Lexer) : Lexing (Nat × Lexer) :=
  match Text.hexDigit? (l.peek 1), Text.hexDigit? (l.peek 2) with
  | some high, some low => if l.char = '%' then .ok (16 * high + low, l.skipChars 3) else .error .tag
  | _, _ => .error .tag

/-- The bytes behind the first one of an escaped character. All bytes together, and not the bits they
carry, have to be the number of a character. -/
def escapedRest : Nat → Nat → Lexer → Lexing (Char × Lexer)
  | 0, code, l => if code.isValidChar then .ok (Char.ofNat code, l) else .error .tag
  | n + 1, code, l =>
    match l.escapedByte with
    | .error e => .error e
    | .ok (b, l) => if b / 64 = 2 then escapedRest n (256 * code + b) l else .error .tag

def escapedChar (l : Lexer) : Lexing (Char × Lexer) :=
  match l.escapedByte with
  | .error e => .error e
  | .ok (b, l) =>
    if b < 0x80 then escapedRest 0 b l
    else if b / 32 = 6 then escapedRest 1 b l
    else if b / 16 = 14 then escapedRest 2 b l
    else if b / 8 = 30 then escapedRest 3 b l
    else .error .tag

def takeEscapedRun (p : Char → Bool) : Nat → List Char → Lexer → Lexing (List Char × Lexer)
  | 0, acc, l => .ok (acc.reverse, l)
  | n + 1, acc, l =>
    if !p l.char then .ok (acc.reverse, l)
    else if l.char = '%' then
      match l.escapedChar with
      | .error e => .error e
      | .ok (c, l) => takeEscapedRun p n (c :: acc) l
    else takeEscapedRun p n (l.char :: acc) l.skipChar

def handle (l : Lexer) : Lexing (List Char × Lexer) :=
  if l.char ≠ '!' then .error .tag
  else
    let (name, l) := l.skipChar.takeRun isWordChar
    if l.char = '!' then .ok ('!' :: name ++ ['!'], l.skipChar) else .ok ('!' :: name, l)

def isNamedHandle (cs : List Char) : Bool := 2 ≤ cs.length && cs.getLast? == some '!'

/-- The parts of a tag: handle and suffix. A tag in angle brackets has no handle, and a lone
exclamation mark is a suffix. -/
def tagParts (l : Lexer) : Lexing (String × String × Lexer) := do
  if l.peek 1 = '<' then
    let (address, l) ← takeEscapedRun isAddressChar l.fuel [] (l.skipChars 2)
    if l.char = '>' then .ok ("", String.ofList address, l.skipChar) else .error .tag
  else
    let (cs, l) ← l.handle
    let (suffix, l) ← takeEscapedRun isTagChar l.fuel [] l
    if isNamedHandle cs then
      if suffix.isEmpty then .error .tag else .ok (String.ofList cs, String.ofList suffix, l)
    else
      let suffix := cs.drop 1 ++ suffix
      if suffix.isEmpty then .ok ("", "!", l) else .ok ("!", String.ofList suffix, l)

def tag (l : Lexer) : Lexing (Token × Lexer) := do
  let (handle, suffix, l) ← l.tagParts
  if isSpaceOrEnd l.char || (0 < l.flowDepth && isFlow l.char) then .ok (.tag handle suffix, l)
  else .error .tag

def versionNumber (l : Lexer) : Lexing Lexer :=
  let (digits, l) := l.takeRun Char.isDigit
  if digits.isEmpty ∨ 9 < digits.length then .error .directive else .ok l

def skipSpacesAndTabs (l : Lexer) : Lexer :=
  (l.rest.takeWhile isSpace).foldl (fun l _ => l.skipBlank) l

def versionDirective (l : Lexer) : Lexing (Token × Lexer) := do
  let l ← l.skipSpacesAndTabs.versionNumber
  if l.char ≠ '.' then .error .directive
  else
    let l ← l.skipChar.versionNumber
    .ok (.versionDirective, l)

def tagDirective (l : Lexer) : Lexing (Token × Lexer) := do
  let (cs, l) ← l.skipSpacesAndTabs.handle
  if cs ≠ ['!'] ∧ !isNamedHandle cs then .error .directive
  else
    let l := l.skipSpacesAndTabs
    let (first, l) ←
      if l.char = '!' then .ok (['!'], l.skipChar)
      else if !isTagChar l.char then .error .directive
      else .ok ([], l)
    let (address, l) ← takeEscapedRun isAddressChar l.fuel [] l
    if isSpaceOrEnd l.char then
      .ok (.tagDirective (String.ofList cs) (String.ofList (first ++ address)), l)
    else .error .directive

/-- A directive up to the end of its line. One of an unknown name counts as one that gives no handle
a meaning. -/
def directive (l : Lexer) : Lexing (Token × Lexer) := do
  let (name, l) := l.skipChar.takeRun isWordChar
  if name.isEmpty ∨ !isSpaceOrEnd l.char then .error .directive
  else
    let (token, l) ←
      if name = ['Y', 'A', 'M', 'L'] then l.versionDirective
      else if name = ['T', 'A', 'G'] then l.tagDirective
      else .ok (.tagDirective "" "", skipLine l.fuel l)
    let l ← l.skipRest
    if isBreakOrEnd l.char then .ok (token, l.skipBreak) else .error .directive

end Lexer

end PathQuery.Yaml
