import PathQuery.Document
import PathQuery.Json.Value
import PathQuery.Text.Digits
/-!
Reading JSON text. A fault names its cause and the line and column of the byte that shows it.

Numbers with a fraction or an exponent are read in two roundings: the leading digits, as many as fit
64 bits, give a significand, which is then multiplied or divided by a power of ten.
-/
namespace PathQuery.Json

inductive Cause where
  | expectedValue
  | endInValue
  | endInList
  | endInObject
  | endInString
  | trailingCharacters
  | trailingComma
  | invalidNumber
  | numberOutOfRange
  | keyMustBeString
  | expectedColon
  | expectedListEnd
  | expectedObjectEnd
  | expectedIdent
  | invalidEscape
  | endInHexEscape
  | loneSurrogate
  | controlCharacter
  | recursionLimit
  deriving DecidableEq, Repr

def Cause.message : Cause → String
  | .expectedValue => "expected value"
  | .endInValue => "EOF while parsing a value"
  | .endInList => "EOF while parsing a list"
  | .endInObject => "EOF while parsing an object"
  | .endInString => "EOF while parsing a string"
  | .trailingCharacters => "trailing characters"
  | .trailingComma => "trailing comma"
  | .invalidNumber => "invalid number"
  | .numberOutOfRange => "number out of range"
  | .keyMustBeString => "key must be a string"
  | .expectedColon => "expected `:`"
  | .expectedListEnd => "expected `,` or `]`"
  | .expectedObjectEnd => "expected `,` or `\x7d`"
  | .expectedIdent => "expected ident"
  | .invalidEscape => "invalid escape"
  | .endInHexEscape => "unexpected end of hex escape"
  | .loneSurrogate => "lone leading surrogate in hex escape"
  | .controlCharacter => "control character (\\u0000-\\u001F) found while parsing a string"
  | .recursionLimit => "recursion limit exceeded"

/-- A cause and where it shows: the column counts the bytes of the line up to and with that byte. -/
structure Error where
  cause : Cause
  line : Nat
  column : Nat
  deriving DecidableEq, Repr

def Error.message (e : Error) : String :=
  s!"{e.cause.message} at line {e.line} column {e.column}"

/-- A cause, the text not read so far, and how many bytes of it were looked at. -/
structure Fault where
  cause : Cause
  rest : List Char
  ahead : Nat

def byteCount (cs : List Char) : Nat := cs.foldl (fun n c => n + c.utf8Size) 0

def positionAfter (offset : Nat) (cs : List Char) : Nat × Nat :=
  let step (acc : Nat × Nat × Nat) (c : Char) : Nat × Nat × Nat :=
    let (left, line, column) := acc
    if left = 0 then acc
    else if c = '\n' then (left - 1, line + 1, 0)
    else (left - min left c.utf8Size, line, column + min left c.utf8Size)
  (cs.foldl step (offset, 1, 0)).2

def Fault.locate (f : Fault) (cs : List Char) : Error :=
  let total := byteCount cs
  let offset := min total (total - byteCount f.rest + f.ahead)
  let (line, column) := positionAfter offset cs
  ⟨f.cause, line, column⟩

abbrev Read (α : Type) := Except Fault (α × List Char)

def failHere {α : Type} (cause : Cause) (rest : List Char) : Except Fault α :=
  .error ⟨cause, rest, 0⟩

def failNext {α : Type} (cause : Cause) (rest : List Char) : Except Fault α :=
  .error ⟨cause, rest, 1⟩

def isBlank (c : Char) : Bool := c = ' ' || c = '\n' || c = '\t' || c = '\r'

def skipBlanks (cs : List Char) : List Char := cs.dropWhile isBlank

def digitValue (c : Char) : Nat := c.toNat - '0'.toNat

/-- Appends digits to a number below `limit` as long as it stays below; gives the number, how
many digits were taken, and the rest. -/
def takeDigits (limit : Nat) : Nat → List Char → Nat × Nat × List Char
  | n, [] => (n, 0, [])
  | n, c :: cs =>
    if c.isDigit ∧ 10 * n + digitValue c < limit then
      let (n', count, rest) := takeDigits limit (10 * n + digitValue c) cs
      (n', count + 1, rest)
    else (n, 0, c :: cs)

def startsWithDigit : List Char → Bool
  | c :: _ => c.isDigit
  | [] => false

def tenPower (e : Nat) : Binary64 := .ofNat (10 ^ e)

/-- Scales a significand by a power of ten with `|e| ≤ 308`, or step by step towards it. There is no
result when the value is out of range. -/
def scale (x : Binary64) (e : Int) : Option Binary64 :=
  if e.natAbs ≤ 308 then
    if 0 ≤ e then
      let y := x.mul (tenPower e.natAbs)
      if y.isInfinite then none else some y
    else some (x.div (tenPower e.natAbs))
  else if x.isZero then some x
  else if h : 0 ≤ e then none
  else scale (x.div (tenPower 308)) (e + 308)
termination_by e.natAbs
decreasing_by omega

def realNumber (negative : Bool) (significand : Nat) (e : Int) (rest : List Char) : Read JsonNumber :=
  match scale (.ofNat significand) e with
  | some x => .ok (.real (if negative then x.neg else x), rest)
  | none => failHere .numberOutOfRange rest

/-- The exponent behind its letter. Digits beyond 31 bits settle the value: zero, or out of range. -/
def readExponent (negative : Bool) (significand : Nat) (e : Int) (cs : List Char) : Read JsonNumber :=
  let (down, ds) := match cs with
    | '+' :: ds => (false, ds)
    | '-' :: ds => (true, ds)
    | ds => (false, ds)
  match ds with
  | [] => failHere .endInValue ds
  | c :: _ =>
    if !c.isDigit then failNext .invalidNumber ds
    else
      let (n, _, rest) := takeDigits (2 ^ 31) 0 ds
      if startsWithDigit rest then
        if significand ≠ 0 ∧ !down then failNext .numberOutOfRange rest
        else .ok (.real (.zero negative), rest.dropWhile Char.isDigit)
      else realNumber negative significand (if down then e - n else e + n) rest

def readExponentOrEnd (negative : Bool) (significand : Nat) (e : Int) (cs : List Char) :
    Read JsonNumber :=
  match cs with
  | 'e' :: ds => readExponent negative significand e ds
  | 'E' :: ds => readExponent negative significand e ds
  | _ => realNumber negative significand e cs

/-- The digits behind the point. Digits that no longer fit the significand are dropped. -/
def readFraction (negative : Bool) (significand : Nat) (e : Int) (cs : List Char) : Read JsonNumber :=
  let (n, count, rest) := takeDigits (2 ^ 64) significand cs
  if startsWithDigit rest then
    readExponentOrEnd negative n (e - count) (rest.dropWhile Char.isDigit)
  else if count = 0 then
    (if rest.isEmpty then failHere .endInValue rest else failNext .invalidNumber rest)
  else readExponentOrEnd negative n (e - count) rest

def readAfterInteger (negative : Bool) (n : Nat) (cs : List Char) : Read JsonNumber :=
  match cs with
  | '.' :: ds => readFraction negative n 0 ds
  | 'e' :: ds => readExponent negative n 0 ds
  | 'E' :: ds => readExponent negative n 0 ds
  | _ =>
    if !negative then .ok (.integer n, cs)
    else if n = 0 ∨ 2 ^ 63 < n then .ok (.real (Binary64.ofNat n).neg, cs)
    else .ok (.integer (-(n : Int)), cs)

/-- A number behind its sign. Integer digits that no longer fit the significand only raise the
power of ten. -/
def readNumber (negative : Bool) (cs : List Char) : Read JsonNumber :=
  match cs with
  | [] => failHere .endInValue cs
  | c :: rest =>
    if c = '0' then
      if startsWithDigit rest then failNext .invalidNumber rest else readAfterInteger negative 0 rest
    else if !c.isDigit then failNext .invalidNumber cs
    else
      let (n, _, rest) := takeDigits (2 ^ 64) 0 cs
      if startsWithDigit rest then
        let more := (rest.takeWhile Char.isDigit).length
        match rest.dropWhile Char.isDigit with
        | '.' :: ds => readFraction negative n more ds
        | ds => readExponentOrEnd negative n more ds
      else readAfterInteger negative n rest

def readIdent {α : Type} (value : α) : List Char → List Char → Read α
  | [], cs => .ok (value, cs)
  | _ :: _, [] => failHere .endInValue []
  | e :: es, c :: cs => if c = e then readIdent value es cs else failNext .expectedIdent (c :: cs)

/-- Four hexadecimal digits. Four bytes are looked at, whatever they are. -/
def readHexQuad (cs : List Char) : Read Nat :=
  if byteCount cs < 4 then failHere .endInString []
  else
    match cs with
    | a :: b :: c :: d :: rest =>
      match Text.hexDigit? a, Text.hexDigit? b, Text.hexDigit? c, Text.hexDigit? d with
      | some a, some b, some c, some d => .ok (((a * 16 + b) * 16 + c) * 16 + d, rest)
      | _, _, _, _ => .error ⟨.invalidEscape, cs, 4⟩
    | _ => .error ⟨.invalidEscape, cs, 4⟩

def readSecondHalf (high : Nat) (cs : List Char) : Except Fault (Char × List Char) :=
  match cs with
  | [] => failHere .endInString cs
  | '\\' :: [] => failHere .endInString []
  | '\\' :: 'u' :: cs => do
    let (low, rest) ← readHexQuad cs
    if low < 0xdc00 ∨ 0xdfff < low then failHere .loneSurrogate rest
    else .ok (Char.ofNat ((high - 0xd800) * 0x400 + (low - 0xdc00) + 0x10000), rest)
  | '\\' :: cs => failNext .endInHexEscape cs
  | _ => failNext .endInHexEscape cs

def readEscape (cs : List Char) : Except Fault (Char × List Char) :=
  match cs with
  | [] => failHere .endInString cs
  | c :: rest =>
    if c = '"' ∨ c = '\\' ∨ c = '/' then .ok (c, rest)
    else if c = 'b' then .ok ('\x08', rest)
    else if c = 'f' then .ok ('\x0c', rest)
    else if c = 'n' then .ok ('\n', rest)
    else if c = 'r' then .ok ('\r', rest)
    else if c = 't' then .ok ('\t', rest)
    else if c = 'u' then do
      let (n, rest) ← readHexQuad rest
      if 0xdc00 ≤ n ∧ n ≤ 0xdfff then failHere .loneSurrogate rest
      else if 0xd800 ≤ n ∧ n ≤ 0xdbff then readSecondHalf n rest
      else .ok (Char.ofNat n, rest)
    else failNext .invalidEscape cs

/-- A string behind its opening quote; `fuel` bounds the number of its characters, and `acc` holds
those read, the last first. -/
def readString : Nat → List Char → List Char → Read String
  | 0, _, cs => failHere .endInString cs
  | fuel + 1, acc, cs =>
    match cs with
    | [] => failHere .endInString cs
    | c :: rest =>
      if c = '"' then .ok (String.ofList acc.reverse, rest)
      else if c = '\\' then
        match readEscape rest with
        | .ok (d, rest) => readString fuel (d :: acc) rest
        | .error f => .error f
      else if c.toNat < 0x20 then failNext .controlCharacter cs
      else readString fuel (c :: acc) rest

mutual

/-- A value. Containers may nest below `depth`; `fuel` bounds the number of steps, each of which
takes part in reading a character, at most four for one. -/
def readValue (fuel depth : Nat) (cs : List Char) : Read Json :=
  match fuel with
  | 0 => failHere .endInValue cs
  | fuel + 1 =>
    match skipBlanks cs with
    | [] => failHere .endInValue []
    | c :: rest =>
      if c = 'n' then readIdent .null ['u', 'l', 'l'] rest
      else if c = 't' then readIdent (.bool true) ['r', 'u', 'e'] rest
      else if c = 'f' then readIdent (.bool false) ['a', 'l', 's', 'e'] rest
      else if c = '-' then (readNumber true rest).map fun r => (.number r.1, r.2)
      else if c.isDigit then (readNumber false (c :: rest)).map fun r => (.number r.1, r.2)
      else if c = '"' then (readString (rest.length + 1) [] rest).map fun r => (.string r.1, r.2)
      else if c = '[' then
        if depth ≤ 1 then failNext .recursionLimit (c :: rest)
        else readItems fuel (depth - 1) true [] rest
      else if c = '\x7b' then
        if depth ≤ 1 then failNext .recursionLimit (c :: rest)
        else readMembers fuel (depth - 1) true [] rest
      else failNext .expectedValue (c :: rest)

def readItems (fuel depth : Nat) (first : Bool) (acc : List Json) (cs : List Char) : Read Json :=
  match fuel with
  | 0 => failHere .endInList cs
  | fuel + 1 =>
    match skipBlanks cs with
    | [] => failHere .endInList []
    | c :: rest =>
      if c = ']' then .ok (.array acc.reverse, rest)
      else if first then readItem fuel depth acc (c :: rest)
      else if c = ',' then
        match skipBlanks rest with
        | [] => failHere .endInValue []
        | d :: rest =>
          if d = ']' then failNext .trailingComma (d :: rest) else readItem fuel depth acc (d :: rest)
      else failNext .expectedListEnd (c :: rest)

def readItem (fuel depth : Nat) (acc : List Json) (cs : List Char) : Read Json :=
  match fuel with
  | 0 => failHere .endInList cs
  | fuel + 1 =>
    match readValue fuel depth cs with
    | .ok (v, rest) => readItems fuel depth false (v :: acc) rest
    | .error f => .error f

def readMembers (fuel depth : Nat) (first : Bool) (acc : List (String × Json)) (cs : List Char) :
    Read Json :=
  match fuel with
  | 0 => failHere .endInObject cs
  | fuel + 1 =>
    match skipBlanks cs with
    | [] => failHere .endInObject []
    | c :: rest =>
      if c = '\x7d' then .ok (.object acc, rest)
      else if first then
        if c = '"' then readMember fuel depth acc rest else failNext .keyMustBeString (c :: rest)
      else if c = ',' then
        match skipBlanks rest with
        | [] => failHere .endInValue []
        | d :: rest =>
          if d = '"' then readMember fuel depth acc rest
          else if d = '\x7d' then failNext .trailingComma (d :: rest)
          else failNext .keyMustBeString (d :: rest)
      else failNext .expectedObjectEnd (c :: rest)

def readMember (fuel depth : Nat) (acc : List (String × Json)) (cs : List Char) : Read Json :=
  match fuel with
  | 0 => failHere .endInObject cs
  | fuel + 1 =>
    match readString (cs.length + 1) [] cs with
    | .error f => .error f
    | .ok (name, rest) =>
      match skipBlanks rest with
      | [] => failHere .endInObject []
      | c :: rest =>
        if c ≠ ':' then failNext .expectedColon (c :: rest)
        else
          match readValue fuel depth rest with
          | .ok (v, rest) => readMembers fuel depth false (insertEntry name v acc) rest
          | .error f => .error f

end

def depthLimit : Nat := 128

def readChars (cs : List Char) : Except Fault Json := do
  let (v, rest) ← readValue (4 * cs.length + 4) depthLimit cs
  match skipBlanks rest with
  | [] => .ok v
  | c :: rest => failNext .trailingCharacters (c :: rest)

def read (s : String) : Except Error Json :=
  match readChars s.toList with
  | .ok v => .ok v
  | .error f => .error (f.locate s.toList)

end PathQuery.Json
