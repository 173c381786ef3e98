import PathQuery.Unicode.Category
import PathQuery.Unicode.Property
/-!
Quoted text, as in paths and messages. What stands between the quotes has no control character,
no line end and no quote that a backslash does not precede.
-/
namespace PathQuery.Text

/-- The characters outside ASCII that show by themselves: neither controls, format characters,
separators, private nor unassigned ones, nor those that extend the character before them. -/
def visible : CharSet :=
  let hidden := ["cc", "cf", "co", "cn", "zl", "zp", "zs"].filterMap Unicode.category?
  let extending := (Unicode.property? "graphemeextend").getD .empty
  (CharSet.unions (Unicode.surrogates :: extending :: hidden)).compl

def isVisible (c : Char) : Bool :=
  if c.toNat < 0x7f then 0x20 ≤ c.toNat else visible.contains c

def codeText (c : Char) : List Char := Nat.toDigits 16 c.toNat

def quotedChar (c : Char) : List Char :=
  if c = '\x00' then ['\\', '0']
  else if c = '\t' then ['\\', 't']
  else if c = '\r' then ['\\', 'r']
  else if c = '\n' then ['\\', 'n']
  else if c = '\\' then ['\\', '\\']
  else if c = '"' then ['\\', '"']
  else if isVisible c then [c]
  else ['\\', 'u', '\x7b'] ++ codeText c ++ ['\x7d']

def quotedChars (cs : List Char) : List Char := '"' :: cs.flatMap quotedChar ++ ['"']

def quoted (s : String) : String := String.ofList (quotedChars s.toList)

end PathQuery.Text
