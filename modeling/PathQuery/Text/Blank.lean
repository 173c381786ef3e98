import PathQuery.Text.CharSet
/-!
White space, and cutting text into lines and at its end by it.
-/
namespace PathQuery.Text

def blanks : CharSet :=
  ⟨[(9, 13), (0x20, 0x20), (0x85, 0x85), (0xa0, 0xa0), (0x1680, 0x1680), (0x2000, 0x200a),
    (0x2028, 0x2029), (0x202f, 0x202f), (0x205f, 0x205f), (0x3000, 0x3000)]⟩

def isBlank (c : Char) : Bool := blanks.contains c

def trimEnd (cs : List Char) : List Char := (cs.reverse.dropWhile isBlank).reverse

def pieces : List Char → List (List Char × Bool)
  | [] => []
  | c :: cs =>
    if c = '\n' then ([], true) :: pieces cs
    else
      match pieces cs with
      | [] => [([c], false)]
      | (line, ended) :: rest => (c :: line, ended) :: rest

def dropReturn (line : List Char) : List Char :=
  if line.getLast? = some '\r' then line.dropLast else line

/-- The lines of a text. A line feed ends a line, together with a carriage return before it. -/
def lines (cs : List Char) : List (List Char) :=
  (pieces cs).map fun p => if p.2 then dropReturn p.1 else p.1

end PathQuery.Text
