import PathQuery.Gzip.PrefixCode
/-!
Decompression. Compressed data are blocks, and a block holds bytes as they are, or words for bytes and
for repetitions of bytes that came before.
-/
namespace PathQuery.Gzip

/-- The least value of a symbol, and how many bits tell how much is added to it. -/
def withExtra (table : List (Nat × Nat)) (symbol : Nat) (bits : List Bool) :
    Except Error (Nat × List Bool) :=
  match table[symbol]? with
  | none => .error .stream
  | some (base, extra) => (takeNumber extra bits).map fun r => (base + r.1, r.2)

def lengthTable : List (Nat × Nat) :=
  [(3, 0), (4, 0), (5, 0), (6, 0), (7, 0), (8, 0), (9, 0), (10, 0), (11, 1), (13, 1), (15, 1), (17, 1),
    (19, 2), (23, 2), (27, 2), (31, 2), (35, 3), (43, 3), (51, 3), (59, 3), (67, 4), (83, 4), (99, 4),
    (115, 4), (131, 5), (163, 5), (195, 5), (227, 5), (258, 0)]

def distanceTable : List (Nat × Nat) :=
  [(1, 0), (2, 0), (3, 0), (4, 0), (5, 1), (7, 1), (9, 2), (13, 2), (17, 3), (25, 3), (33, 4), (49, 4),
    (65, 5), (97, 5), (129, 6), (193, 6), (257, 7), (385, 7), (513, 8), (769, 8), (1025, 9), (1537, 9),
    (2049, 10), (3073, 10), (4097, 11), (6145, 11), (8193, 12), (12289, 12), (16385, 13), (24577, 13)]

/-- Repeats bytes that start at a distance from the end; the bytes added are repeated in turn if there
are more of them than the distance. -/
def repeatBytes (distance : Nat) : Nat → Array UInt8 → Array UInt8
  | 0, out => out
  | n + 1, out => repeatBytes distance n (out.push (out[out.size - distance]?.getD 0))

def inflateWords (literals distances : PrefixCode) : Nat → Array UInt8 → List Bool →
    Except Error (Array UInt8 × List Bool)
  | 0, _, _ => .error .endOfData
  | n + 1, out, bits => do
    let (symbol, bits) ← literals.decode bits
    if symbol < 256 then inflateWords literals distances n (out.push (UInt8.ofNat symbol)) bits
    else if symbol = 256 then .ok (out, bits)
    else
      let (length, bits) ← withExtra lengthTable (symbol - 257) bits
      let (symbol, bits) ← distances.decode bits
      let (distance, bits) ← withExtra distanceTable symbol bits
      if out.size < distance then .error .stream
      else inflateWords literals distances n (repeatBytes distance length out) bits

def takeBytes : Nat → Array UInt8 → List Bool → Except Error (Array UInt8 × List Bool)
  | 0, out, bits => .ok (out, bits)
  | n + 1, out, bits =>
    match takeNumber 8 bits with
    | .error e => .error e
    | .ok (b, bits) => takeBytes n (out.push (UInt8.ofNat b)) bits

def inflateStored (out : Array UInt8) (bits : List Bool) : Except Error (Array UInt8 × List Bool) := do
  let (length, bits) ← takeNumber 16 (alignToByte bits)
  let (complement, bits) ← takeNumber 16 bits
  if length + complement = 2 ^ 16 - 1 then takeBytes length out bits else .error .stream

def fixedLengths : List Nat :=
  List.replicate 144 8 ++ List.replicate 112 9 ++ List.replicate 24 7 ++ List.replicate 8 8

def fixedDistanceLengths : List Nat := List.replicate 32 5

def lengthOrder : List Nat := [16, 17, 18, 0, 8, 7, 9, 6, 10, 5, 11, 4, 12, 3, 13, 2, 14, 1, 15]

def takeNumbers (width : Nat) : Nat → List Bool → Except Error (List Nat × List Bool)
  | 0, bits => .ok ([], bits)
  | n + 1, bits => do
    let (value, bits) ← takeNumber width bits
    let (values, bits) ← takeNumbers width n bits
    .ok (value :: values, bits)

/-- The lengths of words, the last one first, until there are `count`. Some symbols stand for
repetitions of the last length or of zero. -/
def takeLengths (code : PrefixCode) (count : Nat) : Nat → List Nat → List Bool →
    Except Error (List Nat × List Bool)
  | 0, _, _ => .error .stream
  | n + 1, acc, bits => do
    if acc.length = count then .ok (acc, bits)
    else if count < acc.length then .error .stream
    else
      let (symbol, bits) ← code.decode bits
      if symbol < 16 then takeLengths code count n (symbol :: acc) bits
      else if symbol = 16 then
        match acc with
        | [] => .error .stream
        | last :: _ =>
          let (times, bits) ← takeNumber 2 bits
          takeLengths code count n (List.replicate (3 + times) last ++ acc) bits
      else if symbol = 17 then
        let (times, bits) ← takeNumber 3 bits
        takeLengths code count n (List.replicate (3 + times) 0 ++ acc) bits
      else
        let (times, bits) ← takeNumber 7 bits
        takeLengths code count n (List.replicate (11 + times) 0 ++ acc) bits

def takeCodes (bits : List Bool) : Except Error (PrefixCode × PrefixCode × List Bool) := do
  let (literalCount, bits) ← takeNumber 5 bits
  let (distanceCount, bits) ← takeNumber 5 bits
  let (orderCount, bits) ← takeNumber 4 bits
  let (given, bits) ← takeNumbers 3 (orderCount + 4) bits
  let lengths := (List.range 19).map fun symbol =>
    ((lengthOrder.zip given).lookup symbol).getD 0
  match PrefixCode.ofLengths? lengths with
  | none => .error .stream
  | some code =>
    let literalCount := literalCount + 257
    let count := literalCount + distanceCount + 1
    let (acc, bits) ← takeLengths code count (count + 1) [] bits
    let all := acc.reverse
    match PrefixCode.ofLengths? (all.take literalCount),
        PrefixCode.ofLengths? (all.drop literalCount) with
    | some literals, some distances => .ok (literals, distances, bits)
    | _, _ => .error .stream

def inflateBlock (kind : Nat) (out : Array UInt8) (bits : List Bool) :
    Except Error (Array UInt8 × List Bool) := do
  -- Each word takes a bit at least, so there are no more words than bits.
  if kind = 0 then inflateStored out bits
  else if kind = 1 then
    match PrefixCode.ofLengths? fixedLengths, PrefixCode.ofLengths? fixedDistanceLengths with
    | some literals, some distances => inflateWords literals distances (bits.length + 1) out bits
    | _, _ => .error .stream
  else if kind = 2 then
    let (literals, distances, bits) ← takeCodes bits
    inflateWords literals distances (bits.length + 1) out bits
  else .error .stream

/-- The blocks up to the one that is marked as the last. Each takes at least three bits. -/
def inflateBlocks : Nat → Array UInt8 → List Bool → Except Error (Array UInt8 × List Bool)
  | 0, _, _ => .error .endOfData
  | n + 1, out, bits => do
    let (last, bits) ← takeNumber 1 bits
    let (kind, bits) ← takeNumber 2 bits
    let (out, bits) ← inflateBlock kind out bits
    if last = 1 then .ok (out, bits) else inflateBlocks n out bits

def inflate (bits : List Bool) : Except Error (Array UInt8 × List Bool) :=
  inflateBlocks (bits.length + 1) #[] bits

end PathQuery.Gzip
