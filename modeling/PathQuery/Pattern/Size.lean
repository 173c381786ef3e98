import PathQuery.Pattern.Expression
/-!
The size of patterns. A pattern is charged for the automaton that reads the bytes of a text: a state
for each byte of a character, and for a class the states of the smallest automaton that reads the
encodings of its members, in either direction. A repetition is charged for every copy of its body.
-/
namespace PathQuery.Pattern

abbrev ByteRange := Nat × Nat

def encoding (n : Nat) : List Nat :=
  if n < 0x80 then [n]
  else if n < 0x800 then [0xc0 + n / 64, 0x80 + n % 64]
  else if n < 0x10000 then [0xe0 + n / 4096, 0x80 + n / 64 % 64, 0x80 + n % 64]
  else [0xf0 + n / 262144, 0x80 + n / 4096 % 64, 0x80 + n / 64 % 64, 0x80 + n % 64]

/-- Where a range has to be cut so that its encodings differ in whole ranges of bytes only: the
last code point of the first part. -/
def cutAfter? (lo hi : Nat) : Option Nat :=
  let lengths := [0x7f, 0x7ff, 0xffff].find? fun m => lo ≤ m && m < hi
  match lengths with
  | some m => some m
  | none =>
    if hi < 0x80 then none
    else
      [64, 4096, 262144].findSome? fun m =>
        if lo / m = hi / m then none
        else if lo % m ≠ 0 then some (lo / m * m + m - 1)
        else if hi % m ≠ m - 1 then some (hi / m * m - 1)
        else none

def byteRanges : Nat → Nat → Nat → List (List ByteRange)
  | 0, _, _ => []
  | fuel + 1, lo, hi =>
    if hi < lo then []
    else if lo < 0xe000 ∧ 0xd7ff < hi then
      (if lo ≤ 0xd7ff then byteRanges fuel lo 0xd7ff else []) ++ byteRanges fuel 0xe000 hi
    else
      match cutAfter? lo hi with
      | some m => byteRanges fuel lo m ++ byteRanges fuel (m + 1) hi
      | none => [(encoding lo).zip (encoding hi)]

def CharSet.encodings (s : CharSet) : List (List ByteRange) :=
  s.ranges.flatMap fun r => byteRanges 64 r.1 r.2

def groupHeads : List (List ByteRange) → List (ByteRange × List (List ByteRange))
  | [] => []
  | [] :: rest => groupHeads rest
  | (b :: tail) :: rest =>
    match groupHeads rest with
    | (b', tails) :: more =>
      if b = b' then (b, tail :: tails) :: more else (b, [tail]) :: (b', tails) :: more
    | [] => [(b, [tail])]

/-- The states of an automaton for the sequences, each given by the sequences that it still has to
read; states that read the same are one. -/
def states : Nat → List (List ByteRange) → List (List (List ByteRange)) → List (List (List ByteRange))
  | 0, _, seen => seen
  | depth + 1, sequences, seen =>
    if seen.contains sequences ∨ sequences.all List.isEmpty then seen
    else (groupHeads sequences).foldl (fun seen g => states depth g.2 seen) (sequences :: seen)

def countStarts : Nat → List (List ByteRange) → Nat
  | 0, _ => 0
  | depth + 1, sequences =>
    let groups := groupHeads sequences
    groups.foldl (fun n g => n + countStarts depth g.2) groups.length

def stateSize : Nat := 32
def edgeSize : Nat := 8
def branchSize : Nat := 4

def CharSet.sizes (s : CharSet) : Nat × Nat :=
  match s.ranges with
  | [] => (stateSize, stateSize)
  | [(lo, hi)] =>
    if lo = hi then
      let size := stateSize * (encoding lo).length
      (size, size)
    else ofClass s
  | _ => ofClass s
where
  ofClass (s : CharSet) : Nat × Nat :=
    if isAscii s then
      let size := 2 * stateSize + edgeSize * s.ranges.length
      (size, size)
    else
      let sequences := CharSet.encodings s
      let forward := (states 5 sequences []).map fun state =>
        stateSize + edgeSize * (groupHeads state).length
      (forward.foldl (· + ·) stateSize,
        2 * stateSize + branchSize * sequences.length + stateSize * countStarts 5 sequences)

/-- The charge for an expression, with or without the groups, which only the forward automaton
marks. -/
def Expression.sizeWith (classSize : CharSet → Nat) (groupSize : Nat) : Expression → Nat
  | .empty => stateSize
  | .chars set => classSize set
  | .look _ => stateSize
  | .sequence a b => a.sizeWith classSize groupSize + b.sizeWith classSize groupSize
  | .choice a b =>
    a.sizeWith classSize groupSize + b.sizeWith classSize groupSize + 2 * branchSize + stateSize
  | .repetition a least most =>
    let size := a.sizeWith classSize groupSize
    match most with
    | none => max least 1 * size + stateSize + 2 * branchSize
    | some most => most * size + (most - least) * (stateSize + 2 * branchSize) + stateSize
  | .capture a => a.sizeWith classSize groupSize + groupSize

/-- An upper bound that needs no look at the encodings: a range of code points is cut into at most
seventeen ranges of four bytes. -/
def CharSet.sizeBound (s : CharSet) : Nat := 3 * stateSize * 17 * 4 * (s.ranges.length + 1)

def sizeLimit : Nat := 10 * 2 ^ 20

def Expression.fits (e : Expression) : Bool :=
  e.sizeWith CharSet.sizeBound (2 * stateSize) ≤ sizeLimit ||
    (e.sizeWith (fun s => (CharSet.sizes s).1) (2 * stateSize) ≤ sizeLimit &&
      e.sizeWith (fun s => (CharSet.sizes s).2) 0 ≤ sizeLimit)

end PathQuery.Pattern
