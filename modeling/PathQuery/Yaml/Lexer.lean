import PathQuery.Yaml.Lexer.Scalar
import PathQuery.Yaml.Lexer.Tag
/-!
Cutting YAML text into tokens.
-/
namespace PathQuery.Yaml

namespace Lexer

def openFlow (token : Token) (l : Lexer) : Lexing Lexer :=
  let column := l.column
  let l := l.saveKey.indentByOne
  if l.flowDepth = 255 then .error .nesting
  else do
    let l := { l with keys := .none :: l.keys, flowDepth := l.flowDepth + 1 }.allowKey.skipChar
    let l := if token = .flowMappingStart then { l with flowMapping := true }
      else { l with implicitMappings := false :: l.implicitMappings }
    let l ← l.skipRest
    .ok (l.emitAt column token)

def closeFlow (token : Token) (l : Lexer) : Lexing Lexer := do
  let column := l.column
  let l ← l.removeKey
  let l := if l.flowDepth = 0 then l else { l with keys := l.keys.tail, flowDepth := l.flowDepth - 1 }
  let l := l.forbidKey
  let l := if token = .flowSequenceEnd then
      let l := l.endImplicitMapping
      { l with implicitMappings := l.implicitMappings.tail }
    else l
  let l ← l.skipChar.skipRest
  let l := if 0 < l.flowDepth then { l with adjacentAt := l.index } else l
  .ok (l.emitAt column token)

def flowEntry (l : Lexer) : Lexing Lexer := do
  let column := l.column
  let l ← l.removeKey
  let l ← l.allowKey.endImplicitMapping.skipChar.skipRest
  .ok (l.emitAt column .flowEntry)

def afterPropertyAtMargin (l : Lexer) : Bool :=
  match l.tokens.back? with
  | some (.anchor _, 0) => true
  | some (.tag _ _, 0) => true
  | _ => false

def blockEntry (l : Lexer) : Lexing Lexer := do
  if 0 < l.flowDepth ∨ !l.keyAllowed then .error .notAllowedHere
  else if l.column = 0 ∧ 0 ≤ l.indent ∧ l.afterPropertyAtMargin then .error .anchor
  else
    let l := l.skipChar.openBlock l.column none .blockSequenceStart
    let (l, tab, _) ← skipToBreak true l.fuel false false l
    if tab ∧ l.char = '-' ∧ isSpaceOrEnd (l.peek 1) then .error .tab
    else
      let (l, _) ← skipToBreak false l.fuel false false l
      let l := if isBreak l.char || isFlow l.char then l.indentByOne else l
      let l ← l.removeKey
      .ok (l.allowKey.emit .blockEntry)

/-- Outside of flow collections, a key may start behind a question mark and behind a colon without
one. -/
def allowKeyInBlock (l : Lexer) : Lexer := { l with keyAllowed := l.flowDepth = 0 }

def explicitKey (l : Lexer) : Lexing Lexer := do
  let column := l.column
  if l.flowDepth = 0 ∧ !l.keyAllowed then .error .notAllowedHere
  else
    let l := if l.flowDepth = 0 then l.openBlock column none .blockMappingStart
      else { l with flowMapping := true }
    let l ← l.removeKey
    let l := l.allowKeyInBlock.skipChar
    let l ← skipSpaces l.fuel false l
    if l.char = '\t' then .error .tab else .ok (l.emitAt column .key)

/-- A tab behind a colon is not enough of a blank before some tokens. -/
def skipTabAfterColon (l : Lexer) : Lexing Lexer :=
  if l.char ≠ '\t' then .ok l
  else
    match skipToBreak true l.fuel false false l with
    | .error e => .error e
    | .ok (l, _, space) =>
      if !space && isWordChar l.char then .error .tab else .ok l

/-- The colon before a value. What stands before it may be a key that started without a sign; then
the tokens that start the key are put in before it. -/
def mappingValue (l : Lexer) : Lexing Lexer := do
  let key := l.currentKey
  let column := l.column
  let line := l.line
  let implicit := !l.implicitMappings.isEmpty && !l.flowMapping
  let l := if implicit then { l with implicitMappings := true :: l.implicitMappings.tail } else l
  let l ← l.skipChar.skipTabAfterColon
  if key.possible then
    let l := l.emitBefore key.token .key
    if implicit ∧ key.line < line then .error .notAllowedHere
    else
      let l := if implicit then l.emitBefore key.token .flowMappingStart else l
      let l := (l.openBlock key.column (some key.token) .blockMappingStart).indentByOne
      let l := { l with keys := { key with possible := false } :: l.keys.tail }
      .ok (l.forbidKey.emitAt column .value)
  else
    let l := if implicit then l.emit .flowMappingStart else l
    if l.flowDepth = 0 ∧ !l.keyAllowed then .error .notAllowedHere
    else
      let l := (l.openBlock column none .blockMappingStart).indentByOne
      .ok (l.allowKeyInBlock.emitAt column .value)

def documentMark (token : Token) (l : Lexer) : Lexing Lexer := do
  let l ← (l.closeBlocks (-1)).removeKey
  .ok ((l.forbidKey.skipChars 3).emitAt l.column token)

def documentEnd (l : Lexer) : Lexing Lexer := do
  let l ← l.documentMark .documentEnd
  let l ← l.skipRest
  if isBreakOrEnd l.char then .ok l else .error .trailingContent

def directiveLine (l : Lexer) : Lexing Lexer := do
  let l ← (l.closeBlocks (-1)).removeKey
  let column := l.column
  let (token, l) ← l.forbidKey.directive
  .ok (l.emitAt column token)

def anchorOrAlias (token : String → Token) (l : Lexer) : Lexing Lexer := do
  let (name, rest) ← l.saveKey.forbidKey.anchorName
  .ok (rest.emitAt l.column (token name))

def tagToken (l : Lexer) : Lexing Lexer := do
  let (token, rest) ← l.saveKey.forbidKey.tag
  .ok (rest.emitAt l.column token)

def blockScalarToken (literal : Bool) (l : Lexer) : Lexing Lexer := do
  let (text, rest) ← l.saveKey.allowKey.blockScalar literal
  .ok (rest.emitAt l.column (.scalar false (String.ofList text)))

/-- A colon may stand directly behind a quoted key in a flow mapping. -/
def quotedScalarToken (single : Bool) (l : Lexer) : Lexing Lexer := do
  let (text, rest) ← l.saveKey.forbidKey.quotedScalar single
  let rest ← skipToToken rest.fuel rest
  let rest := { rest with adjacentAt := rest.index }
  .ok (rest.emitAt l.column (.scalar false (String.ofList text)))

def plainScalarToken (l : Lexer) : Lexing Lexer := do
  let (text, rest) ← l.saveKey.forbidKey.plainScalar
  .ok (rest.emitAt l.column (.scalar true (String.ofList text)))

def nextToken (l : Lexer) : Lexing Lexer :=
  let next := l.peek 1
  let blankNext := isSpaceOrEnd next
  let flow := 0 < l.flowDepth
  match l.char with
  | '[' => l.openFlow .flowSequenceStart
  | '\x7b' => l.openFlow .flowMappingStart
  | ']' => l.closeFlow .flowSequenceEnd
  | '\x7d' => l.closeFlow .flowMappingEnd
  | ',' => l.flowEntry
  | '-' => if blankNext then l.blockEntry else l.plainScalarToken
  | '?' =>
    if blankNext then l.explicitKey else l.plainScalarToken
  | ':' =>
    if blankNext || (flow && (isFlow next || l.index = l.adjacentAt)) then l.mappingValue
    else l.plainScalarToken
  | '*' => l.anchorOrAlias .aliasOf
  | '&' => l.anchorOrAlias .anchor
  | '!' => l.tagToken
  | '|' => if flow then l.plainScalarToken else l.blockScalarToken true
  | '>' => if flow then l.plainScalarToken else l.blockScalarToken false
  | '\'' => l.quotedScalarToken true
  | '"' => l.quotedScalarToken false
  | '%' => .error .unexpectedCharacter
  | '@' => .error .unexpectedCharacter
  | '`' => .error .unexpectedCharacter
  | _ => l.plainScalarToken

def finish (l : Lexer) : Lexing Lexer :=
  if l.keys.any fun k => k.required && k.possible then .error .missingColon
  else .ok (l.closeBlocks (-1))

def run : Nat → Lexer → Lexing Lexer
  -- Every token takes a character, so the bound is never met.
  | 0, _ => .error .unexpectedCharacter
  | n + 1, l => do
    let l ← skipToToken l.fuel l
    let l ← l.dropStaleKeys
    let l := l.closeBlocks l.column
    if isEnd l.char then l.finish
    else if l.column = 0 ∧ l.char = '%' then run n (← l.directiveLine)
    else if l.column = 0 ∧ l.atDocumentMark then
      if l.char = '-' then run n (← l.documentMark .documentStart) else run n (← l.documentEnd)
    else if (l.column : Int) < l.indent then .error .indentation
    else run n (← l.nextToken)

end Lexer

def tokens (text : String) : Lexing (List Token) := do
  let l := Lexer.start text.toList
  let l ← l.run l.fuel
  .ok (l.tokens.toList.map Prod.fst)

end PathQuery.Yaml
