import PathQuery.Gzip
import PathQuery.Proofs.Text.Utf8
import Mathlib.Algebra.BigOperators.Group.List.Basic

/-!
Compressed files that hold bytes as they are. However the bytes are cut into
blocks, decompression gives them back, so every text has a compressed file.
-/
namespace PathQuery.Gzip

variable {bits : List Bool} {rest : List UInt8} {chunks : List (List UInt8)}

section Numbers

theorem takeNumber_add (m n : Nat) (bits : List Bool) : takeNumber (m + n) bits =
    (takeNumber m bits).bind fun low =>
      (takeNumber n low.2).map fun high => (low.1 + 2 ^ m * high.1, high.2) := by
  induction m generalizing bits with
  | zero =>
    simp only [takeNumber, Nat.zero_add, Except.bind, Nat.pow_zero, Nat.one_mul]
    cases takeNumber n bits <;> rfl
  | succ m ih =>
    rw [Nat.add_right_comm]
    cases bits with
    | nil => rfl
    | cons b bits =>
      simp only [takeNumber, ih]
      cases takeNumber m bits with
      | error e => rfl
      | ok low =>
        simp only [Except.bind, Except.map]
        cases takeNumber n low.2 with
        | error e => rfl
        | ok high =>
          simp only [Except.ok.injEq, Prod.mk.injEq, and_true]
          rw [Nat.pow_succ', Nat.mul_add, Nat.mul_assoc, Nat.add_assoc]

theorem takeNumber_byte (b : UInt8) (bits : List Bool) :
    takeNumber 8 (bitsOfByte b ++ bits) = .ok (b.toNat, bits) := by
  have value : ∀ n < 256, (List.range 8).foldr
      (fun i sum => (if n.testBit i then 1 else 0) + 2 * sum) 0 = n := by decide +kernel
  have here := value b.toNat b.toNat_lt
  simp only [bitsOfByte, List.range, List.range.loop, List.map_cons, List.map_nil, List.cons_append,
    List.nil_append, takeNumber, Except.map, List.foldr_cons, List.foldr_nil] at here ⊢
  rw [here]

def lowBytes : Nat → Nat → List UInt8
  | 0, _ => []
  | n + 1, value => UInt8.ofNat (value % 256) :: lowBytes n (value / 256)

theorem takeNumber_lowBytes (n value : Nat) (bits : List Bool) :
    takeNumber (8 * n) (bitsOf (lowBytes n value) ++ bits) = .ok (value % 256 ^ n, bits) := by
  induction n generalizing value with
  | zero => simp [takeNumber, bitsOf, lowBytes, Nat.mod_one]
  | succ n ih =>
    have low : (UInt8.ofNat (value % 256)).toNat = value % 256 :=
      Utf8.toNat_ofNat (Nat.mod_lt _ (by decide))
    rw [Nat.mul_succ, Nat.add_comm, takeNumber_add, lowBytes, bitsOf, List.flatMap_cons,
      List.append_assoc, takeNumber_byte, low]
    have high := ih (value / 256)
    unfold bitsOf at high
    have split : value % 256 ^ (n + 1) = value % 256 + 256 * (value / 256 % 256 ^ n) := by
      rw [Nat.pow_succ', Nat.mod_mul]
    simp only [Except.bind, high, Except.map, split]
    rfl

theorem length_bitsOf (bytes : List UInt8) : (bitsOf bytes).length = 8 * bytes.length := by
  induction bytes with
  | nil => rfl
  | cons b bytes ih =>
    rw [bitsOf, List.flatMap_cons, List.length_append, ← bitsOf, ih]
    simp [bitsOfByte]
    omega

theorem bitsOf_append (front back : List UInt8) :
    bitsOf (front ++ back) = bitsOf front ++ bitsOf back := List.flatMap_append

theorem alignToByte_append (h : bits.length < 8) (bytes : List UInt8) :
    alignToByte (bits ++ bitsOf bytes) = bitsOf bytes := by
  have left : (bits ++ bitsOf bytes).length % 8 = bits.length := by
    rw [List.length_append, length_bitsOf]
    omega
  rw [alignToByte, left, List.drop_left]

end Numbers

def storedBlock (last : Bool) (chunk : List UInt8) : List UInt8 :=
  (if last then 1 else 0) ::
    (lowBytes 2 chunk.length ++ (lowBytes 2 (65535 - chunk.length) ++ chunk))

/-- Blocks that hold chunks of bytes; the last block is empty. -/
def storedBlocks (chunks : List (List UInt8)) : List UInt8 :=
  chunks.flatMap (storedBlock false) ++ storedBlock true []

/-- The compressed file that holds chunks of bytes as they are. -/
def stored (chunks : List (List UInt8)) : List UInt8 :=
  [0x1f, 0x8b, 8, 0, 0, 0, 0, 0, 0, 0xff] ++ (storedBlocks chunks ++
    (lowBytes 4 (checksum chunks.flatten).toNat ++ lowBytes 4 chunks.flatten.length))

theorem takeBytes_append (chunk : List UInt8) (out : Array UInt8) (bits : List Bool) :
    takeBytes chunk.length out (bitsOf chunk ++ bits) = .ok (out ++ chunk.toArray, bits) := by
  induction chunk generalizing out with
  | nil => simp [takeBytes, bitsOf]
  | cons b chunk ih =>
    rw [List.length_cons, takeBytes, bitsOf, List.flatMap_cons, List.append_assoc, takeNumber_byte,
      ← bitsOf]
    simp [ih]

theorem inflateStored_append (chunk : List UInt8) (h : chunk.length < 65536) (out : Array UInt8)
    (bytes : List UInt8) (small : bits.length < 8) :
    inflateStored out (bits ++ bitsOf (lowBytes 2 chunk.length ++
        (lowBytes 2 (65535 - chunk.length) ++ (chunk ++ bytes)))) =
      .ok (out ++ chunk.toArray, bitsOf bytes) := by
  have length := takeNumber_lowBytes 2 chunk.length
  have complement := takeNumber_lowBytes 2 (65535 - chunk.length)
  rw [Nat.mod_eq_of_lt (by omega)] at length complement
  have whole : chunk.length + (65535 - chunk.length) = 2 ^ 16 - 1 := by omega
  rw [inflateStored, alignToByte_append small]
  simp only [bitsOf_append, length, complement, takeBytes_append, whole, if_true, bind, Except.bind]

theorem inflateBlocks_storedBlock (last : Bool) (chunk : List UInt8) (h : chunk.length < 65536)
    (n : Nat) (out : Array UInt8) (bytes : List UInt8) :
    inflateBlocks (n + 1) out (bitsOf (storedBlock last chunk ++ bytes)) =
      if last then .ok (out ++ chunk.toArray, bitsOf bytes)
      else inflateBlocks n (out ++ chunk.toArray) (bitsOf bytes) := by
  have flag : bitsOfByte (if last then 1 else 0) =
      last :: false :: false :: List.replicate 5 false := by
    cases last <;> decide
  have few : (List.replicate 5 false).length < 8 := by decide
  have content := inflateStored_append chunk h out bytes few
  rw [storedBlock, List.cons_append, bitsOf, List.flatMap_cons, flag, ← bitsOf]
  simp only [List.append_assoc, inflateBlocks, List.cons_append, takeNumber, Except.map, bind,
    Except.bind, inflateBlock, content]
  cases last <;> rfl

theorem inflateBlocks_storedBlocks (h : ∀ chunk ∈ chunks, chunk.length < 65536) (out : Array UInt8)
    (bytes : List UInt8) {n : Nat} (enough : chunks.length < n) :
    inflateBlocks n out (bitsOf (storedBlocks chunks ++ bytes)) =
      .ok (out ++ chunks.flatten.toArray, bitsOf bytes) := by
  induction chunks generalizing out n with
  | nil =>
    obtain ⟨n, rfl⟩ := Nat.exists_eq_succ_of_ne_zero (Nat.ne_zero_of_lt enough)
    rw [storedBlocks, List.flatMap_nil, List.nil_append,
      inflateBlocks_storedBlock true [] (by decide)]
    rfl
  | cons chunk chunks ih =>
    obtain ⟨n, rfl⟩ := Nat.exists_eq_succ_of_ne_zero (Nat.ne_zero_of_lt enough)
    obtain ⟨first, later⟩ := List.forall_mem_cons.mp h
    rw [storedBlocks, List.flatMap_cons, List.append_assoc, List.append_assoc,
      inflateBlocks_storedBlock false chunk first, ← List.append_assoc, ← storedBlocks]
    simp [ih later _ (Nat.lt_of_succ_lt_succ enough)]

theorem length_le_storedBlocks (chunks : List (List UInt8)) :
    chunks.length ≤ (storedBlocks chunks).length := by
  have long : ∀ n ∈ chunks.map fun chunk => (storedBlock false chunk).length, 1 ≤ n := by
    simp [storedBlock]
  have blocks : chunks.length ≤ (chunks.flatMap (storedBlock false)).length := by
    simpa [List.length_flatMap] using List.length_le_sum_of_one_le _ long
  rw [storedBlocks, List.length_append]
  omega

theorem skipHeader_append (bytes : List UInt8) :
    skipHeader ([0x1f, 0x8b, 8, 0, 0, 0, 0, 0, 0, 0xff] ++ bytes) = .ok bytes := by
  have start : takePart 10 ([0x1f, 0x8b, 8, 0, 0, 0, 0, 0, 0, 0xff] ++ bytes) =
      .ok ([0x1f, 0x8b, 8, 0, 0, 0, 0, 0, 0, 0xff], bytes) := by
    simp [takePart]
  rw [skipHeader, start]
  rfl

/-- Decompression gives the bytes back, however they are cut. -/
theorem decompress_stored (h : ∀ chunk ∈ chunks, chunk.length < 65536) :
    decompress (stored chunks) = .ok chunks.flatten := by
  have sum := takeNumber_lowBytes 4 (checksum chunks.flatten).toNat
  have size := takeNumber_lowBytes 4 chunks.flatten.length []
  have small : (checksum chunks.flatten).toNat < 256 ^ 4 := UInt32.toNat_lt _
  have none : ([] : List Bool).length < 8 := by decide
  have aligned (bytes : List UInt8) : alignToByte (bitsOf bytes) = bitsOf bytes :=
    alignToByte_append none bytes
  -- Blocks take bits, so there are more bits than blocks to read.
  have blocks (bytes : List UInt8) : inflate (bitsOf (storedBlocks chunks ++ bytes)) =
      .ok (chunks.flatten.toArray, bitsOf bytes) := by
    rw [inflate, inflateBlocks_storedBlocks h]
    · simp
    · have least := length_le_storedBlocks chunks
      rw [length_bitsOf, List.length_append]
      omega
  rw [Nat.mod_eq_of_lt small] at sum
  rw [List.append_nil] at size
  rw [decompress, stored, skipHeader_append]
  simp only [bind, Except.bind, blocks, aligned]
  rw [bitsOf_append]
  simp only [sum, size, true_and]
  exact if_pos rfl

theorem exists_decompressText_eq (text : String) : ∃ bytes, decompressText bytes = .ok text := by
  refine ⟨stored ((Utf8.encode text).map fun b => [b]), ?_⟩
  have content : decompress (stored ((Utf8.encode text).map fun b => [b])) =
      .ok (Utf8.encode text) := by
    rw [decompress_stored (by simp), ← List.flatMap_def, List.flatMap_singleton']
  rw [decompressText, content]
  simp only [bind, Except.bind, Utf8.decode_encode, Except.mapError]

end PathQuery.Gzip
