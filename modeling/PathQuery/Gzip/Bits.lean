import PathQuery.Number.Power
/-!
The bits of compressed data: each byte gives its least significant bit first.
-/
namespace PathQuery.Gzip

inductive Error where
  | endOfData
  | header
  | longField
  | stream
  | checksum
  | encoding
  deriving DecidableEq, Repr

def Error.message : Error → String
  | .endOfData => "unexpected end of file"
  | .header => "invalid gzip header"
  | .longField => "gzip header field too long"
  | .stream => "corrupt deflate stream"
  | .checksum => "corrupt gzip stream does not have a matching checksum"
  | .encoding => "stream did not contain valid UTF-8"

def bitsOfByte (b : UInt8) : List Bool := (List.range 8).map fun i => b.toNat.testBit i

def bitsOf (bytes : List UInt8) : List Bool := bytes.flatMap bitsOfByte

def takeNumber : Nat → List Bool → Except Error (Nat × List Bool)
  | 0, bits => .ok (0, bits)
  | _ + 1, [] => .error .endOfData
  | n + 1, b :: bits =>
    (takeNumber n bits).map fun r => ((if b then 1 else 0) + 2 * r.1, r.2)

/-- Drops what is left of a byte; behind the bits there is a byte's end. -/
def alignToByte (bits : List Bool) : List Bool := bits.drop (bits.length % 8)

end PathQuery.Gzip
