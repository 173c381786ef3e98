import PathQuery.Gzip.Bits
/-!
Prefix codes given by the lengths of their words. Of the words of one length, smaller symbols have
smaller words, and shorter words come before longer ones.
-/
namespace PathQuery.Gzip

/-- A code: the symbols whose words have one bit, those whose words have two, and so on. -/
structure PrefixCode where
  levels : List (Array Nat)

namespace PrefixCode

def longestWord : Nat := 15

def level (lengths : List Nat) (length : Nat) : Array Nat :=
  ((lengths.zipIdx.filter fun l => l.1 = length).map Prod.snd).toArray

def load (lengths : List Nat) : Nat :=
  lengths.foldl (fun taken l => if l = 0 then taken else taken + 2 ^ (longestWord - l)) 0

/-- The code whose words have the given lengths; a symbol without a word has length zero. No words
may be left over, unless there is one word at most. -/
def ofLengths? (lengths : List Nat) : Option PrefixCode :=
  let used := (lengths.filter (0 < ·)).length
  if load lengths = 2 ^ longestWord ∨ used ≤ 1 then
    some ⟨(List.range longestWord).map fun i => level lengths (i + 1)⟩
  else none

/-- Reads a word bit by bit: `first` is the first word of the length so far, `word` what was read. -/
def decodeFrom : List (Array Nat) → Nat → Nat → List Bool → Except Error (Nat × List Bool)
  | [], _, _, _ => .error .stream
  | _ :: _, _, _, [] => .error .endOfData
  | level :: rest, first, word, b :: bits =>
    let first := 2 * first
    let word := 2 * word + (if b then 1 else 0)
    match level[word - first]? with
    | some symbol => .ok (symbol, bits)
    | none => decodeFrom rest (first + level.size) word bits

def decode (code : PrefixCode) (bits : List Bool) : Except Error (Nat × List Bool) :=
  decodeFrom code.levels 0 0 bits

end PrefixCode

end PathQuery.Gzip
