import Planar.Codec.Deflate
import Planar.Picture

/-! PNG files of grey or coloured pixels, with or without alpha, in 8 or 16 bits. -/
namespace Planar.Png
open Bytes

/-- What a pixel consists of. -/
structure Kind where
  coloured : Bool
  alpha : Bool
  wide : Bool
  deriving DecidableEq, Repr

namespace Kind

/-- The kind of pictures, three bytes a pixel. -/
def rgb : Kind := ⟨true, false, false⟩

def components (kind : Kind) : Nat :=
  (if kind.coloured then 3 else 1) + (if kind.alpha then 1 else 0)

def sampleBytes (kind : Kind) : Nat := if kind.wide then 2 else 1

def pixelBytes (kind : Kind) : Nat := kind.components * kind.sampleBytes

def colourType (kind : Kind) : Nat :=
  (if kind.coloured then 2 else 0) + (if kind.alpha then 4 else 0)

/-- The kind with a given bit depth and colour type. -/
def ofHeader? (depth colourType : Nat) : Option Kind :=
  if (depth = 8 ∨ depth = 16) ∧ colourType ∈ [0, 2, 4, 6] then
    some ⟨colourType = 2 ∨ colourType = 6, 4 ≤ colourType, depth = 16⟩
  else none

end Kind

def signature : ByteArray := ofList [0x89, 0x50, 0x4E, 0x47, 0x0D, 0x0A, 0x1A, 0x0A]

def chunk (name : String) (content : ByteArray) : ByteArray :=
  let named := name.toUTF8 ++ content
  big 4 content.size ++ named ++ big 4 (crc32 named)

/-- Sample values in the bytes of the kind. -/
def pack (kind : Kind) (samples : Array Nat) : ByteArray :=
  samples.foldl (fun bytes v =>
    if kind.wide then (bytes.push (UInt8.ofNat (v / 256))).push (UInt8.ofNat v)
    else bytes.push (UInt8.ofNat v)) .empty

/-- The file of a picture whose pixels are given as bytes of the kind. -/
def encode (kind : Kind) (shape : Shape) (pixels : ByteArray) : ByteArray :=
  let stride := shape.width * kind.pixelBytes
  let header := big 4 shape.width ++ big 4 shape.height ++
    ofList [if kind.wide then 16 else 8, UInt8.ofNat kind.colourType, 0, 0, 0]
  let lines := (List.range shape.height).foldl (fun out row =>
    out.push 0 ++ pixels.extract (row * stride) ((row + 1) * stride)) .empty
  signature ++ chunk "IHDR" header ++ chunk "IDAT" (Deflate.compress lines) ++
    chunk "IEND" .empty

/-- Header and joined image data of the chunks from `start` on. -/
def readChunks (bytes : ByteArray) (start : Nat) (header data : ByteArray) :
    Nat → Option (ByteArray × ByteArray)
  | 0 => none
  | fuel + 1 => do
    let size := readBig (← slice? bytes start 4)
    let name ← String.fromUTF8? (← slice? bytes (start + 4) 4)
    let content ← slice? bytes (start + 8) size
    let next := start + size + 12
    if name = "IEND" then return (header, data)
    else if name = "IHDR" then readChunks bytes next content data fuel
    else if name = "IDAT" then readChunks bytes next header (data ++ content) fuel
    else readChunks bytes next header data fuel

/-- The neighbour nearest to what a plane through the three neighbours predicts. -/
def paeth (left up corner : UInt8) : UInt8 :=
  let guess : Int := left.toNat + up.toNat - corner.toNat
  let off (v : UInt8) := (guess - v.toNat).natAbs
  if off left ≤ off up ∧ off left ≤ off corner then left
  else if off up ≤ off corner then up
  else corner

/-- The prediction of a filter. -/
def predict (filter : UInt8) (left up corner : UInt8) : UInt8 :=
  match filter with
  | 1 => left
  | 2 => up
  | 3 => UInt8.ofNat ((left.toNat + up.toNat) / 2)
  | 4 => paeth left up corner
  | _ => 0

def byteAt (bytes : ByteArray) (i : Nat) : UInt8 := if h : i < bytes.size then bytes[i] else 0

/-- Undoes the filters of the lines. -/
def unfilter (lines : ByteArray) (height stride pixel : Nat) : ByteArray :=
  (List.range height).foldl (fun out row =>
    let filter := byteAt lines (row * (stride + 1))
    (List.range stride).foldl (fun out col =>
      let here := row * stride + col
      let left := if pixel ≤ col then byteAt out (here - pixel) else 0
      let up := if 0 < row then byteAt out (here - stride) else 0
      let corner := if pixel ≤ col ∧ 0 < row then byteAt out (here - stride - pixel) else 0
      out.push (byteAt lines (row * (stride + 1) + 1 + col) + predict filter left up corner))
      out) .empty

/-- The colour of the pixel that starts at a byte. Alpha is dropped, 16 bits are rounded to 8 and
grey is repeated. -/
def colourAt (kind : Kind) (pixels : ByteArray) (start : Nat) : Colour :=
  let sample (i : Nat) : UInt8 :=
    let first := byteAt pixels (start + i * kind.sampleBytes)
    if kind.wide then
      let value := 256 * first.toNat + (byteAt pixels (start + i * kind.sampleBytes + 1)).toNat
      UInt8.ofNat ((value + 128) / 257)
    else first
  if kind.coloured then ⟨sample 0, sample 1, sample 2⟩ else ⟨sample 0, sample 0, sample 0⟩

/-- The picture in a file. -/
def decode? (bytes : ByteArray) : Option Picture := do
  guard (bytes.extract 0 8 == signature)
  let (header, data) ← readChunks bytes 8 .empty .empty bytes.size
  guard (header.size = 13)
  let shape : Shape := ⟨readBig (header.extract 0 4), readBig (header.extract 4 8)⟩
  let kind ← Kind.ofHeader? (byteAt header 8).toNat (byteAt header 9).toNat
  guard (byteAt header 12 = 0 ∧ 0 < shape.area)
  let lines ← Deflate.decompress data
  let stride := shape.width * kind.pixelBytes
  guard (shape.height * (stride + 1) ≤ lines.size)
  let pixels := unfilter lines shape.height stride kind.pixelBytes
  return Grid.ofFn shape fun row col =>
    colourAt kind pixels ((row.val * shape.width + col.val) * kind.pixelBytes)

end Planar.Png
