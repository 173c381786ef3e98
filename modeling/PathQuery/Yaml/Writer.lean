import PathQuery.Yaml.Scalar
/-!
Writing YAML.

Containers are written as blocks, unless they are empty. A text is written plain where it reads back
as the same text, and in quotes otherwise; a text with a line feed is written as a literal block if
that keeps all its characters.
-/
namespace PathQuery.Yaml

inductive TextStyle where
  | plain
  | single
  | double
  | literal
  deriving DecidableEq, Repr

def isLineBreak (c : Char) : Bool :=
  c = '\n' || c = '\r' || c = '\u0085' || c = '\u2028' || c = '\u2029'

def isBlankOrBreak (c : Char) : Bool := c = ' ' || c = '\t' || isLineBreak c

def isPrintable (c : Char) : Bool :=
  c = '\n' || (' ' ≤ c && c ≤ '~') || ('\u00a0' ≤ c && c ≠ '\ufeff' && c ≠ '\ufffe' && c ≠ '\uffff')

def hasPair (first second : Char → Bool) : List Char → Bool
  | a :: b :: rest => (first a && second b) || hasPair first second (b :: rest)
  | _ => false

def blankNext (cs : List Char) : Bool := (cs.head?.map isBlankOrBreak).getD true

def hasInnerIndicator : List Char → Bool
  | [] => false
  | c :: rest =>
    (c = ':' && blankNext rest) || (isBlankOrBreak c && rest.head? == some '#') ||
      hasInnerIndicator rest

def startsWithIndicator : List Char → Bool
  | '-' :: '-' :: '-' :: _ => true
  | '.' :: '.' :: '.' :: _ => true
  | '?' :: rest => blankNext rest
  | '-' :: rest => blankNext rest
  | c :: _ => "#,[]\x7b\x7d&*!|>'\"%@`".toList.contains c
  | [] => false

def isSpaceChar (c : Char) : Bool := c = ' '

def allowsPlain (cs : List Char) : Bool :=
  cs.all (fun c => isPrintable c && !isLineBreak c) && cs.head? != some ' ' &&
    cs.getLast? != some ' ' && !startsWithIndicator cs && !hasInnerIndicator cs

def allowsSingle (cs : List Char) : Bool :=
  cs.all isPrintable && !hasPair isLineBreak isSpaceChar cs && !hasPair isSpaceChar isLineBreak cs

def allowsLiteral (cs : List Char) : Bool :=
  cs.all isPrintable && cs.getLast? != some ' ' && !hasPair isSpaceChar isLineBreak cs

def isZeroLed (cs : List Char) : Bool :=
  match cs with
  | '-' :: '0' :: ds => !ds.isEmpty && ds.all Char.isDigit
  | '+' :: '0' :: ds => !ds.isEmpty && ds.all Char.isDigit
  | '0' :: ds => !ds.isEmpty && ds.all Char.isDigit
  | _ => false

def isBasedInteger (cs : List Char) : Bool :=
  let below (bound : Nat) (cs : List Char) : Bool :=
    let digits? := match cs with
      | '0' :: 'x' :: ds => Text.nat? 16 ds
      | '0' :: 'o' :: ds => Text.nat? 8 ds
      | '0' :: 'b' :: ds => Text.nat? 2 ds
      | _ => none
    (digits?.map fun n => decide (n < bound)).getD false
  match cs with
  | '-' :: cs => below (2 ^ 127 + 1) cs
  | '+' :: cs => below (2 ^ 128) cs
  | cs => below (2 ^ 128) cs

def isDecimalNumber (text : String) : Bool :=
  if [".inf", ".Inf", ".INF", "+.inf", "+.Inf", "+.INF", "-.inf", "-.Inf", "-.INF",
      ".nan", ".NaN", ".NAN"].contains text then
    true
  else
    match Binary64.read? text with
    | some (.finite _ _ _ _) => true
    | _ => false

def readsOtherwise (text : String) : Bool :=
  ["", "null", "Null", "NULL", "~", "true", "True", "TRUE", "false", "False", "FALSE"].contains text ||
    isZeroLed text.toList || isBasedInteger text.toList || isDecimalNumber text

def TextStyle.ofText (text : String) : TextStyle :=
  let cs := text.toList
  if cs.contains '\n' then if allowsLiteral cs then .literal else .double
  else if !readsOtherwise text && allowsPlain cs then .plain
  else if allowsSingle cs then .single
  else .double

def indentation (column : Nat) : List Char := List.replicate column ' '

def indentLines (column : Nat) (lineStart : Bool) : List Char → List Char
  | [] => []
  | c :: rest =>
    if isLineBreak c then c :: indentLines column true rest
    else (if lineStart then indentation column else []) ++ c :: indentLines column false rest

def endsLine (cs : List Char) : Bool := (cs.getLast?.map isLineBreak).getD false

def hexDigit (n : Nat) : Char := Char.ofNat (if n < 10 then '0'.toNat + n else 'A'.toNat + n - 10)

def hexDigits (width n : Nat) : List Char :=
  (List.range width).reverse.map fun place => hexDigit (n / 16 ^ place % 16)

def escapedInQuotes (c : Char) : List Char :=
  if c = '"' || c = '\\' then ['\\', c]
  else if isPrintable c && !isLineBreak c then [c]
  else
    match c with
    | '\x00' => ['\\', '0']
    | '\x07' => ['\\', 'a']
    | '\x08' => ['\\', 'b']
    | '\t' => ['\\', 't']
    | '\n' => ['\\', 'n']
    | '\x0b' => ['\\', 'v']
    | '\x0c' => ['\\', 'f']
    | '\r' => ['\\', 'r']
    | '\x1b' => ['\\', 'e']
    | '\u0085' => ['\\', 'N']
    | '\u2028' => ['\\', 'L']
    | '\u2029' => ['\\', 'P']
    | _ =>
      let n := c.toNat
      if n < 0x100 then '\\' :: 'x' :: hexDigits 2 n
      else if n < 0x10000 then '\\' :: 'u' :: hexDigits 4 n
      else '\\' :: 'U' :: hexDigits 8 n

/-- The signs behind the bar of a literal block: one for a text that starts with a blank or a break,
and one for what becomes of the breaks at its end. -/
def literalHeader (cs : List Char) : List Char :=
  let width := match cs.head? with
    | some c => if c = ' ' || isLineBreak c then ['2'] else []
    | none => []
  let chomping := match cs.reverse with
    | [] => ['-']
    | [c] => if isLineBreak c then ['+'] else ['-']
    | c :: d :: _ => if !isLineBreak c then ['-'] else if isLineBreak d then ['+'] else []
  '|' :: width ++ chomping

def textChars (column : Nat) (text : String) : List Char :=
  let cs := text.toList
  match TextStyle.ofText text with
  | .plain => cs
  | .single =>
    '\'' :: indentLines column false (cs.flatMap fun c => if c = '\'' then ['\'', '\''] else [c]) ++
      (if endsLine cs then indentation column else []) ++ ['\'']
  | .double => '"' :: cs.flatMap escapedInQuotes ++ ['"']
  | .literal => literalHeader cs ++ '\n' :: indentLines column true cs

/-- Texts below each other at a column. Only a literal block ends in a line break of its own. -/
def stack (column : Nat) : List (List Char) → List Char
  | [] => []
  | [cs] => cs
  | cs :: rest => cs ++ (if endsLine cs then [] else ['\n']) ++ indentation column ++ stack column rest

/-- Whether a value can be a key in front of a colon: containers that have parts, texts of more than
one line and long texts cannot. -/
def isSimpleKey : Yaml → Bool
  | .sequence items => items.isEmpty
  | .mapping entries => entries.isEmpty
  | .string s => !s.toList.any isLineBreak && s.utf8ByteSize ≤ 128
  | _ => true

mutual

def chars (column : Nat) : Yaml → List Char
  | .null => "null".toList
  | .bool b => (if b then "true" else "false").toList
  | .integer n => (toString n).toList
  | .real spelling => spelling.toList
  | .string s => textChars column s
  | .sequence [] => ['[', ']']
  | .sequence (item :: rest) => stack column (itemChars column (item :: rest))
  | .mapping [] => ['\x7b', '\x7d']
  | .mapping (entry :: rest) => stack column (entryChars column (entry :: rest))
  | .unresolved => "null".toList

def itemChars (column : Nat) : List Yaml → List (List Char)
  | [] => []
  | item :: rest => ('-' :: ' ' :: chars (column + 2) item) :: itemChars column rest

def entryChars (column : Nat) : List (Yaml × Yaml) → List (List Char)
  | [] => []
  | (key, value) :: rest =>
    if isSimpleKey key then
      (chars (column + 2) key ++ ':' :: valueChars column value) :: entryChars column rest
    else
      ('?' :: ' ' :: chars (column + 2) key) :: (':' :: ' ' :: chars (column + 2) value) ::
        entryChars column rest

/-- A value behind a simple key of a mapping at a column. A sequence stands in the column of the
mapping. -/
def valueChars (column : Nat) : Yaml → List Char
  | .sequence (item :: rest) =>
    '\n' :: indentation column ++ stack column (itemChars column (item :: rest))
  | .mapping (entry :: rest) =>
    '\n' :: indentation (column + 2) ++ stack (column + 2) (entryChars (column + 2) (entry :: rest))
  | value => ' ' :: chars (column + 2) value

end

/-- The column at which the lines of a whole document start: those of a text behind its first line
are indented. -/
def rootColumn : Yaml → Nat
  | .string _ => 2
  | _ => 0

def text (v : Yaml) : String :=
  let cs := chars (rootColumn v) v
  String.ofList (if endsLine cs then cs else cs ++ ['\n'])

end PathQuery.Yaml
