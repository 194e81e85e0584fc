import Planar.Codec.Bytes

/-! The zlib container: written as stored blocks, read with all block types. -/
namespace Planar.Deflate
open Bytes

/-- A block that holds its bytes as they are. -/
def storedBlock (last : Bool) (bytes : ByteArray) : ByteArray :=
  ofList [if last then 1 else 0] ++ little 2 bytes.size ++ little 2 (65535 - bytes.size) ++ bytes

/-- Bytes in one stored block, at most. -/
def blockSize : Nat := 65535

def compress (bytes : ByteArray) : ByteArray :=
  let blocks := max 1 ((bytes.size + blockSize - 1) / blockSize)
  let body := (List.range blocks).foldl (fun out i =>
    out ++ storedBlock (i + 1 = blocks) (bytes.extract (i * blockSize) ((i + 1) * blockSize)))
    (ofList [0x78, 0x01])
  body ++ big 4 (adler32 bytes)

/-- Reads from a position counted in bits, and moves it. -/
abbrev BitReader := StateT Nat Option

def bit (bytes : ByteArray) : BitReader Nat := fun position =>
  if h : position / 8 < bytes.size then
    some (bytes[position / 8].toNat / Nat.pow 2 (position % 8) % 2, position + 1)
  else none

/-- A number of the given width, least significant bit first. -/
def bits (bytes : ByteArray) : Nat → BitReader Nat
  | 0 => return 0
  | width + 1 => do
    let low ← bit bytes
    let high ← bits bytes width
    return low + 2 * high

/-- A canonical prefix code: the number of codes of each length, and the symbols in code order. -/
structure Code where
  counts : Array Nat
  symbols : Array Nat

def Code.ofLengths (lengths : List Nat) : Code where
  counts := (Array.range 16).map fun n => lengths.count n
  symbols := ((List.range 15).flatMap fun n =>
    lengths.zipIdx.filterMap fun (len, symbol) => if len = n + 1 then some symbol else none).toArray

/-- Reads a symbol whose code has at least `length` bits, the earlier ones being `code`. Codes of
the current length start at `first`, their symbols at `index`. -/
def Code.readFrom (c : Code) (bytes : ByteArray) (length code first index : Nat) :
    Nat → BitReader Nat
  | 0 => failure
  | fuel + 1 => do
    let code := code + (← bit bytes)
    let count := c.counts.getD length 0
    if code < first + count then
      match c.symbols[index + (code - first)]? with
      | some symbol => return symbol
      | none => failure
    else
      c.readFrom bytes (length + 1) (2 * code) (2 * (first + count)) (index + count) fuel

def Code.read (c : Code) (bytes : ByteArray) : BitReader Nat := c.readFrom bytes 1 0 0 0 15

def fixedLiterals : Code :=
  .ofLengths (List.replicate 144 8 ++ List.replicate 112 9 ++ List.replicate 24 7 ++
    List.replicate 8 8)

def fixedDistances : Code := .ofLengths (List.replicate 30 5)

/-- Shortest length of each length symbol and the width of what is added to it. -/
def lengthTable : Array (Nat × Nat) :=
  #[(3, 0), (4, 0), (5, 0), (6, 0), (7, 0), (8, 0), (9, 0), (10, 0), (11, 1), (13, 1), (15, 1),
    (17, 1), (19, 2), (23, 2), (27, 2), (31, 2), (35, 3), (43, 3), (51, 3), (59, 3), (67, 4),
    (83, 4), (99, 4), (115, 4), (131, 5), (163, 5), (195, 5), (227, 5), (258, 0)]

/-- Shortest distance of each distance symbol and the width of what is added to it. -/
def distanceTable : Array (Nat × Nat) :=
  (Array.range 30).map fun i =>
    if i < 4 then (i + 1, 0) else ((2 + i % 2) * Nat.pow 2 (i / 2 - 1) + 1, i / 2 - 1)

def readValue (bytes : ByteArray) (table : Array (Nat × Nat)) (symbol : Nat) : BitReader Nat := do
  let (base, width) ← StateT.lift table[symbol]?
  return base + (← bits bytes width)

/-- Repeats `count` bytes from `distance` bytes back. -/
def copyBack (out : ByteArray) (distance : Nat) : Nat → ByteArray
  | 0 => out
  | count + 1 =>
    let i := out.size - distance
    copyBack (out.push (if h : i < out.size then out[i] else 0)) distance count

/-- The literals and repeats of a block up to its end. -/
def readSymbols (bytes : ByteArray) (literals distances : Code) (out : ByteArray) :
    Nat → BitReader ByteArray
  | 0 => failure
  | fuel + 1 => do
    let symbol ← literals.read bytes
    if symbol < 256 then
      readSymbols bytes literals distances (out.push (UInt8.ofNat symbol)) fuel
    else if symbol = 256 then return out
    else
      let length ← readValue bytes lengthTable (symbol - 257)
      let distance ← readValue bytes distanceTable (← distances.read bytes)
      if out.size < distance then failure
      readSymbols bytes literals distances (copyBack out distance length) fuel

def readStored (bytes : ByteArray) (out : ByteArray) : BitReader ByteArray := do
  modify fun position => (position + 7) / 8 * 8
  let size ← bits bytes 16
  let _ ← bits bytes 16
  let block ← StateT.lift (slice? bytes ((← get) / 8) size)
  modify (· + 8 * size)
  return out ++ block

/-- The order in which the lengths of the length code are written. -/
def lengthOrder : List Nat := [16, 17, 18, 0, 8, 7, 9, 6, 10, 5, 11, 4, 12, 3, 13, 2, 14, 1, 15]

/-- Code lengths written in the length code, until `count` of them are read. -/
def readLengths (bytes : ByteArray) (code : Code) (count : Nat) (lengths : List Nat) :
    Nat → BitReader (List Nat)
  | 0 => failure
  | fuel + 1 => do
    if count ≤ lengths.length then return lengths
    let symbol ← code.read bytes
    let more ←
      if symbol < 16 then pure [symbol]
      else if symbol = 16 then do
        pure (List.replicate (3 + (← bits bytes 2)) (lengths.getLast?.getD 0))
      else if symbol = 17 then do pure (List.replicate (3 + (← bits bytes 3)) 0)
      else do pure (List.replicate (11 + (← bits bytes 7)) 0)
    readLengths bytes code count (lengths ++ more) fuel

def readCodes (bytes : ByteArray) : BitReader (Code × Code) := do
  let literals := 257 + (← bits bytes 5)
  let distances := 1 + (← bits bytes 5)
  let count := 4 + (← bits bytes 4)
  let given ← (lengthOrder.take count).mapM fun symbol => do pure (symbol, ← bits bytes 3)
  let code := Code.ofLengths ((List.range 19).map fun symbol => (given.lookup symbol).getD 0)
  let total := literals + distances
  let lengths ← readLengths bytes code total [] (total + 1)
  return (.ofLengths (lengths.take literals), .ofLengths ((lengths.take total).drop literals))

/-- The bytes of the blocks that follow. Every block and every symbol takes at least a bit. -/
def readBlocks (bytes : ByteArray) (out : ByteArray) : Nat → BitReader ByteArray
  | 0 => failure
  | fuel + 1 => do
    let last ← bit bytes
    let kind ← bits bytes 2
    let room := 8 * bytes.size + 1
    let out ←
      if kind = 0 then readStored bytes out
      else if kind = 1 then readSymbols bytes fixedLiterals fixedDistances out room
      else if kind = 2 then do
        let (literals, distances) ← readCodes bytes
        readSymbols bytes literals distances out room
      else failure
    if last = 1 then return out else readBlocks bytes out fuel

/-- The bytes that a zlib container holds. -/
def decompress (bytes : ByteArray) : Option ByteArray :=
  ((readBlocks bytes .empty (8 * bytes.size + 1)).run 16).map (·.1)

end Planar.Deflate
