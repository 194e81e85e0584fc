/-! Numbers in byte strings, and the checksums of compressed data. -/
namespace Planar.Bytes

/-- The number in its `count` low bytes, most significant first. -/
def big (count n : Nat) : ByteArray :=
  ⟨(Array.range count).map fun i => UInt8.ofNat (n / Nat.pow 256 (count - 1 - i))⟩

/-- The number in its `count` low bytes, least significant first. -/
def little (count n : Nat) : ByteArray :=
  ⟨(Array.range count).map fun i => UInt8.ofNat (n / Nat.pow 256 i)⟩

def readBig (bytes : ByteArray) : Nat := bytes.foldl (fun n b => 256 * n + b.toNat) 0

def readLittle (bytes : ByteArray) : Nat :=
  bytes.data.foldr (fun b n => 256 * n + b.toNat) 0

/-- `count` bytes from `start` on, if there are so many. -/
def slice? (bytes : ByteArray) (start count : Nat) : Option ByteArray :=
  if start + count ≤ bytes.size then some (bytes.extract start (start + count)) else none

def ofList (bytes : List UInt8) : ByteArray := ⟨bytes.toArray⟩

/-- The sum and the sum of partial sums, modulo the largest 16-bit prime. -/
def adler32 (bytes : ByteArray) : Nat :=
  let (a, b) := bytes.foldl (fun (a, b) byte =>
    let a : UInt32 := (a + byte.toUInt32) % 65521
    (a, (b + a) % 65521)) (1, 0)
  b.toNat * 65536 + a.toNat

/-- One bit of the reflected cyclic redundancy code. -/
def crcBit (crc : UInt32) : UInt32 :=
  if crc &&& 1 = 1 then (crc >>> 1) ^^^ 0xEDB88320 else crc >>> 1

def crcByte (crc : UInt32) (byte : UInt8) : UInt32 :=
  crcBit <| crcBit <| crcBit <| crcBit <| crcBit <| crcBit <| crcBit <| crcBit <|
    crc ^^^ byte.toUInt32

def crc32 (bytes : ByteArray) : Nat := (bytes.foldl crcByte 0xFFFFFFFF ^^^ 0xFFFFFFFF).toNat

end Planar.Bytes
