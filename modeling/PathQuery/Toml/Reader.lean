import PathQuery.Number.Decimal
import PathQuery.Text.Digits
/-!
Reading the lines of TOML text: entries with their keys and values, and headers of tables. What the
lines add up to is not looked at here.
-/
namespace PathQuery.Toml

inductive Item where
  | string (value : String)
  | integer (value : Int)
  | real
  | bool (value : Bool)
  | time
  | array (items : List Item)
  | inlineTable (entries : List (String × Item))
  -- A table that has no header yet is implicit; one that a dotted key made up is dotted, too.
  | table (implicit dotted : Bool) (entries : List (String × Item))
  | tables (tables : List (List (String × Item)))
  deriving Inhabited

abbrev Entries := List (String × Item)

inductive Statement where
  | entry (path : List String) (value : Item)
  | header (path : List String)
  | arrayHeader (path : List String)

def isBlank (c : Char) : Bool := c = ' ' || c = '\t'

def isTextChar (c : Char) : Bool := c = '\t' || (' ' ≤ c && c ≠ '\x7f')

def isKeyChar (c : Char) : Bool := c.isAlphanum || c = '_' || c = '-'

def skipBlanks (cs : List Char) : List Char := cs.dropWhile isBlank

def skipBreak? : List Char → Option (List Char)
  | '\n' :: rest => some rest
  | '\r' :: '\n' :: rest => some rest
  | _ => none

def skipLineEnd? (cs : List Char) : Option (List Char) :=
  let cs := skipBlanks cs
  let cs := if cs.head? = some '#' then cs.dropWhile isTextChar else cs
  if cs.isEmpty then some [] else skipBreak? cs

def skipSpace : Nat → List Char → List Char
  | 0, cs => cs
  | n + 1, cs =>
    match skipLineEnd? cs with
    | some (c :: rest) => skipSpace n (c :: rest)
    | some [] => []
    | none => skipBlanks cs

def simpleEscape? : Char → Option Char
  | 'b' => some '\x08'
  | 't' => some '\t'
  | 'n' => some '\n'
  | 'f' => some '\x0c'
  | 'r' => some '\r'
  | '"' => some '"'
  | '\\' => some '\\'
  | _ => none

def charOfHex? (cs : List Char) : Option Char :=
  (Text.nat? 16 cs).bind fun n => if n.isValidChar then some (Char.ofNat n) else none

def push (c : Char) (r : List Char × List Char) : List Char × List Char := (c :: r.1, r.2)

def quotedText : List Char → Option (List Char × List Char)
  | [] => none
  | '"' :: rest => some ([], rest)
  | '\\' :: 'u' :: a :: b :: c :: d :: rest => do
    let e ← charOfHex? [a, b, c, d]
    (quotedText rest).map (push e)
  | '\\' :: 'U' :: a :: b :: c :: d :: e :: f :: g :: h :: rest => do
    let e ← charOfHex? [a, b, c, d, e, f, g, h]
    (quotedText rest).map (push e)
  | '\\' :: c :: rest => do
    let e ← simpleEscape? c
    (quotedText rest).map (push e)
  | c :: rest => if isTextChar c ∧ c ≠ '\\' then (quotedText rest).map (push c) else none

def blankToBreak (cs : List Char) : Bool := (skipBreak? (skipBlanks cs)).isSome

/-- A text on any number of lines behind its three opening quotes, and what follows it. Up to two
quotes before the closing ones are part of the text. `skipping` tells whether a backslash at the end
of a line takes away the blanks and breaks here. -/
def longQuotedText (skipping : Bool) : List Char → Option (List Char × List Char)
  | [] => none
  | '"' :: '"' :: '"' :: '"' :: '"' :: rest => some (['"', '"'], rest)
  | '"' :: '"' :: '"' :: '"' :: rest => some (['"'], rest)
  | '"' :: '"' :: '"' :: rest => some ([], rest)
  | '\\' :: 'u' :: a :: b :: c :: d :: rest => do
    let e ← charOfHex? [a, b, c, d]
    (longQuotedText false rest).map (push e)
  | '\\' :: 'U' :: a :: b :: c :: d :: e :: f :: g :: h :: rest => do
    let e ← charOfHex? [a, b, c, d, e, f, g, h]
    (longQuotedText false rest).map (push e)
  | '\\' :: c :: rest =>
    match simpleEscape? c with
    | some e => (longQuotedText false rest).map (push e)
    | none => if blankToBreak (c :: rest) then longQuotedText true (c :: rest) else none
  | '\r' :: '\n' :: rest =>
    if skipping then longQuotedText true rest else (longQuotedText false rest).map (push '\n')
  | c :: rest =>
    if skipping ∧ (isBlank c ∨ c = '\n') then longQuotedText true rest
    else if (isTextChar c ∧ c ≠ '\\') ∨ c = '\n' then (longQuotedText false rest).map (push c)
    else none

def literalText (cs : List Char) : Option (List Char × List Char) :=
  let text := cs.takeWhile fun c => isTextChar c && c ≠ '\''
  match cs.drop text.length with
  | '\'' :: rest => some (text, rest)
  | _ => none

def longLiteralText : List Char → Option (List Char × List Char)
  | [] => none
  | '\'' :: '\'' :: '\'' :: '\'' :: '\'' :: rest => some (['\'', '\''], rest)
  | '\'' :: '\'' :: '\'' :: '\'' :: rest => some (['\''], rest)
  | '\'' :: '\'' :: '\'' :: rest => some ([], rest)
  | '\r' :: '\n' :: rest => (longLiteralText rest).map (push '\n')
  | c :: rest => if isTextChar c ∨ c = '\n' then (longLiteralText rest).map (push c) else none

def dropFirstBreak (cs : List Char) : List Char := (skipBreak? cs).getD cs

def stringText (cs : List Char) : Option (List Char × List Char) :=
  match cs with
  | '"' :: '"' :: '"' :: rest => longQuotedText false (dropFirstBreak rest)
  | '"' :: rest => quotedText rest
  | '\'' :: '\'' :: '\'' :: rest => longLiteralText (dropFirstBreak rest)
  | '\'' :: rest => literalText rest
  | _ => none

def keyPart (cs : List Char) : Option (String × List Char) :=
  match cs with
  | '"' :: rest => (quotedText rest).map fun r => (String.ofList r.1, r.2)
  | '\'' :: rest => (literalText rest).map fun r => (String.ofList r.1, r.2)
  | _ =>
    let part := cs.takeWhile isKeyChar
    if part.isEmpty then none else some (String.ofList part, cs.drop part.length)

def keyPath : Nat → List Char → Option (List String × List Char)
  | 0, _ => none
  | n + 1, cs => do
    let (part, rest) ← keyPart cs
    match skipBlanks rest with
    | '.' :: rest =>
      let (path, rest) ← keyPath n (skipBlanks rest)
      some (part :: path, rest)
    | rest => some ([part], rest)

def withoutUnderscores (isDigit : Char → Bool) : List Char → Option (List Char)
  | [] => none
  | [c] => if isDigit c then some [c] else none
  | c :: '_' :: rest => if isDigit c then (withoutUnderscores isDigit rest).map (c :: ·) else none
  | c :: rest => if isDigit c then (withoutUnderscores isDigit rest).map (c :: ·) else none

def decimalDigits (cs : List Char) : Option (List Char) :=
  (withoutUnderscores Char.isDigit cs).filter fun ds => ds.head? != some '0' || ds.length == 1

def splitSign : List Char → Bool × List Char
  | '-' :: rest => (true, rest)
  | '+' :: rest => (false, rest)
  | rest => (false, rest)

/-- An integer of 64 bits; only decimal ones have a sign. -/
def integer? (cs : List Char) : Option Int :=
  let based (base : Nat) (ds : List Char) : Option Int :=
    ((withoutUnderscores (fun c => (Text.digit? base c).isSome) ds).bind (Text.nat? base)).map
      Int.ofNat
  let value := match cs with
    | '0' :: 'x' :: ds => based 16 ds
    | '0' :: 'o' :: ds => based 8 ds
    | '0' :: 'b' :: ds => based 2 ds
    | _ =>
      let (negative, ds) := splitSign cs
      ((decimalDigits ds).bind (Text.nat? 10)).map fun n => if negative then -(n : Int) else n
  value.filter fun n => -(2 ^ 63 : Int) ≤ n ∧ n < 2 ^ 63

def isExponentMark (c : Char) : Bool := c = 'e' || c = 'E'

def isReal (cs : List Char) : Bool :=
  let (_, ds) := splitSign cs
  if ds = ['i', 'n', 'f'] ∨ ds = ['n', 'a', 'n'] then true
  else
    let whole := ds.takeWhile fun c => c ≠ '.' && !isExponentMark c
    let rest := ds.drop whole.length
    let fraction := match rest with
      | '.' :: rest => some (rest.takeWhile fun c => !isExponentMark c)
      | _ => none
    let exponent := match rest.dropWhile fun c => !isExponentMark c with
      | _ :: rest => some (splitSign rest).2
      | [] => none
    let isDigits (part : Option (List Char)) : Bool :=
      (part.map fun ds => (withoutUnderscores Char.isDigit ds).isSome).getD true
    (decimalDigits whole).isSome && (fraction.isSome || exponent.isSome) && isDigits fraction &&
      isDigits exponent &&
      Binary64.read? (String.ofList (cs.filter (· ≠ '_'))) != some (.infinite false)

def twoDigits? (a b : Char) : Option Nat :=
  if a.isDigit ∧ b.isDigit then Text.nat? 10 [a, b] else none

def daysIn (year month : Nat) : Nat :=
  if month = 2 then
    if year % 4 = 0 ∧ (year % 100 ≠ 0 ∨ year % 400 = 0) then 29 else 28
  else if month = 4 ∨ month = 6 ∨ month = 9 ∨ month = 11 then 30
  else 31

def day? : List Char → Option (List Char)
  | a :: b :: c :: d :: '-' :: e :: f :: '-' :: g :: h :: rest => do
    let century ← twoDigits? a b
    let year ← twoDigits? c d
    let month ← twoDigits? e f
    let day ← twoDigits? g h
    if 1 ≤ month ∧ month ≤ 12 ∧ 1 ≤ day ∧ day ≤ daysIn (100 * century + year) month then some rest
    else none
  | _ => none

def hourMinute? : List Char → Option (List Char)
  | a :: b :: ':' :: c :: d :: rest => do
    let hour ← twoDigits? a b
    let minute ← twoDigits? c d
    if hour ≤ 23 ∧ minute ≤ 59 then some rest else none
  | _ => none

def clock? (cs : List Char) : Option (List Char) := do
  match ← hourMinute? cs with
  | ':' :: a :: b :: rest =>
    let second ← twoDigits? a b
    if second ≤ 60 then
      match rest with
      | '.' :: rest =>
        let ds := rest.takeWhile Char.isDigit
        if ds.isEmpty then none else some (rest.drop ds.length)
      | _ => some rest
    else none
  | _ => none

def isClock (offset : Bool) (cs : List Char) : Bool :=
  match clock? cs with
  | none => false
  | some [] => true
  | some ['Z'] => offset
  | some ['z'] => offset
  | some ('+' :: rest) => offset && hourMinute? rest == some []
  | some ('-' :: rest) => offset && hourMinute? rest == some []
  | some _ => false

def isTime (cs : List Char) : Bool :=
  match day? cs with
  | some [] => true
  | some ('T' :: rest) => isClock true rest
  | some ('t' :: rest) => isClock true rest
  | some (' ' :: rest) => isClock true rest
  | some _ => false
  | none => isClock false cs

def isPlainChar (c : Char) : Bool :=
  c.isAlphanum || c = '_' || c = '+' || c = '-' || c = '.' || c = ':'

def plainText (cs : List Char) : List Char × List Char :=
  let run := cs.takeWhile isPlainChar
  match cs.drop run.length with
  | ' ' :: d :: rest =>
    if day? run = some [] ∧ d.isDigit then
      let time := (d :: rest).takeWhile isPlainChar
      (run ++ ' ' :: time, (d :: rest).drop time.length)
    else (run, ' ' :: d :: rest)
  | rest => (run, rest)

def plainItem? (cs : List Char) : Option Item :=
  if cs = ['t', 'r', 'u', 'e'] then some (.bool true)
  else if cs = ['f', 'a', 'l', 's', 'e'] then some (.bool false)
  else
    match integer? cs with
    | some n => some (.integer n)
    | none => if isReal cs then some .real else if isTime cs then some .time else none

def arrayItems (readItem : List Char → Option (Item × List Char)) : Nat → List Char →
    Option (List Item × List Char)
  | 0, _ => none
  | n + 1, cs =>
    match skipSpace cs.length cs with
    | ']' :: rest => some ([], rest)
    | cs => do
      let (item, rest) ← readItem cs
      match skipSpace rest.length rest with
      | ',' :: rest =>
        let (items, rest) ← arrayItems readItem n rest
        some (item :: items, rest)
      | ']' :: rest => some ([item], rest)
      | _ => none

def entry (readItem : List Char → Option (Item × List Char)) (cs : List Char) :
    Option ((List String × Item) × List Char) := do
  let (path, rest) ← keyPath cs.length cs
  match rest with
  | '=' :: rest =>
    let (item, rest) ← readItem (skipBlanks rest)
    some ((path, item), rest)
  | _ => none

def inlineEntries (readItem : List Char → Option (Item × List Char)) : Nat → List Char →
    Option (List (List String × Item) × List Char)
  | 0, _ => none
  | n + 1, cs => do
    let (e, rest) ← entry readItem cs
    match skipBlanks rest with
    | ',' :: rest =>
      let (es, rest) ← inlineEntries readItem n (skipBlanks rest)
      some (e :: es, rest)
    | '\x7d' :: rest => some ([e], rest)
    | _ => none

/-- Walks down a path of tables, makes up those that are missing, and changes the last one. A dotted
key cannot lead into a table with a header. `change` is given the entries of the table and whether it
is dotted. -/
def descend (dotted : Bool) (change : Bool → Entries → Option Entries) :
    List String → Bool → Entries → Option Entries
  | [], isDotted, entries => change isDotted entries
  | key :: path, _, entries =>
    match entries.lookup key with
    | none => do
      let inner ← descend dotted change path dotted []
      some (entries ++ [(key, .table true dotted inner)])
    | some item => do
      let item ← match item with
        | .table implicit isDotted inner =>
          if dotted && !implicit then none
          else (descend dotted change path isDotted inner).map (.table implicit isDotted)
        | .tables tables =>
          match tables.getLast? with
          | some inner =>
            (descend dotted change path false inner).map fun inner => .tables (tables.dropLast ++ [inner])
          | none => none
        | _ => none
      some (entries.map fun e => if e.1 = key then (key, item) else e)

/-- Adds an entry to a table. Only tables that dotted keys made up can be added to by dotted keys. -/
def insertEntry (path : List String) (value : Item) (entries : Entries) : Option Entries :=
  let tables := path.dropLast
  let change (isDotted : Bool) (entries : Entries) : Option Entries :=
    match path.getLast? with
    | none => none
    | some key =>
      if isDotted == tables.isEmpty ∨ (entries.lookup key).isSome then none
      else some (entries ++ [(key, value)])
  descend true change tables false entries

def inlineTable (es : List (List String × Item)) : Option Item :=
  (es.foldlM (fun entries e => insertEntry e.1 e.2 entries) []).map .inlineTable

def item : Nat → List Char → Option (Item × List Char)
  | depth, cs =>
    match cs with
    | '"' :: _ => (stringText cs).map fun r => (.string (String.ofList r.1), r.2)
    | '\'' :: _ => (stringText cs).map fun r => (.string (String.ofList r.1), r.2)
    | '[' :: rest =>
      match depth with
      | 0 => none
      | depth + 1 => do
        let (items, rest) ← arrayItems (item depth) rest.length rest
        some (.array items, rest)
    | '\x7b' :: rest =>
      match depth with
      | 0 => none
      | depth + 1 =>
        match skipBlanks rest with
        | '\x7d' :: rest => some (.inlineTable [], rest)
        | rest => do
          let (es, rest) ← inlineEntries (item depth) rest.length rest
          some (← inlineTable es, rest)
    | _ =>
      let (text, rest) := plainText cs
      (plainItem? text).map fun value => (value, rest)

def depthLimit : Nat := 80

def statement (cs : List Char) : Option (Statement × List Char) :=
  match cs with
  | '[' :: '[' :: rest => do
    match ← keyPath rest.length (skipBlanks rest) with
    | (path, ']' :: ']' :: rest) => some (.arrayHeader path, rest)
    | _ => none
  | '[' :: rest => do
    match ← keyPath rest.length (skipBlanks rest) with
    | (path, ']' :: rest) => some (.header path, rest)
    | _ => none
  | _ => do
    let ((path, value), rest) ← entry (item depthLimit) cs
    some (.entry path value, rest)

def statements : Nat → List Char → Option (List Statement)
  | 0, cs => if cs.isEmpty then some [] else none
  | n + 1, cs =>
    if cs.isEmpty then some []
    else
      match skipLineEnd? cs with
      | some rest => statements n rest
      | none => do
        let (s, rest) ← statement (skipBlanks cs)
        let rest ← skipLineEnd? rest
        (statements n rest).map (s :: ·)

end PathQuery.Toml
