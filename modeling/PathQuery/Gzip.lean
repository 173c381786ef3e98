import PathQuery.Gzip.Inflate
import PathQuery.Text.Utf8
/-!
Compressed files: a header, compressed data, and a checksum and the length of the data. What follows
is ignored.
-/
namespace PathQuery.Gzip

def checksumStep (c : UInt32) : UInt32 :=
  if c &&& 1 = 1 then (c >>> 1) ^^^ 0xedb88320 else c >>> 1

def checksumByte (c : UInt32) (b : UInt8) : UInt32 :=
  (List.range 8).foldl (fun c _ => checksumStep c) (c ^^^ b.toUInt32)

/-- The remainder of the bytes as a polynomial, with all bits inverted before and after. -/
def checksum (bytes : List UInt8) : UInt32 :=
  bytes.foldl checksumByte 0xffffffff ^^^ 0xffffffff

def takePart (n : Nat) (bytes : List UInt8) : Except Error (List UInt8 × List UInt8) :=
  if bytes.length < n then .error .endOfData else .ok (bytes.take n, bytes.drop n)

def takeField (bytes : List UInt8) : Except Error (List UInt8 × List UInt8) :=
  let field := bytes.takeWhile (· ≠ 0)
  match bytes.dropWhile (· ≠ 0) with
  | zero :: rest => if 65535 < field.length then .error .longField else .ok (field ++ [zero], rest)
  | [] => if 65535 < field.length then .error .longField else .error .endOfData

def number16 : List UInt8 → Nat
  | [low, high] => low.toNat + 256 * high.toNat
  | _ => 0

/-- What is behind the header. Its flags say which fields it has behind the first ten bytes; the last
of them may be a checksum of all before it. -/
def skipHeader (bytes : List UInt8) : Except Error (List UInt8) := do
  let (start, rest) ← takePart 10 bytes
  if start.take 3 ≠ [0x1f, 0x8b, 8] then .error .header
  else
    let flags := ((start.drop 3).headD 0).toNat
    if 32 ≤ flags then .error .header
    else
      let (extra, rest) ←
        if flags.testBit 2 then do
          let (size, rest) ← takePart 2 rest
          let (extra, rest) ← takePart (number16 size) rest
          Except.ok (size ++ extra, rest)
        else Except.ok ([], rest)
      let (name, rest) ← if flags.testBit 3 then takeField rest else .ok ([], rest)
      let (comment, rest) ← if flags.testBit 4 then takeField rest else .ok ([], rest)
      if flags.testBit 1 then
        let (sum, rest) ← takePart 2 rest
        if (checksum (start ++ extra ++ name ++ comment)).toNat % 2 ^ 16 = number16 sum then .ok rest
        else .error .checksum
      else .ok rest

def decompress (bytes : List UInt8) : Except Error (List UInt8) := do
  let rest ← skipHeader bytes
  let (out, bits) ← inflate (bitsOf rest)
  let (sum, bits) ← takeNumber 32 (alignToByte bits)
  let (size, _) ← takeNumber 32 bits
  let content := out.toList
  if (checksum content).toNat = sum ∧ content.length % 2 ^ 32 = size then .ok content
  else .error .checksum

def decompressText (bytes : List UInt8) : Except Error String := do
  let content ← decompress bytes
  (Utf8.decode content).mapError fun _ => .encoding

/-- Whether data start like compressed ones. No text does, since the second byte starts no
character. -/
def hasMagic (bytes : List UInt8) : Bool := bytes.take 2 == [0x1f, 0x8b]

end PathQuery.Gzip
