import Planar.Codec.Deflate
import Planar.Codec.Lzw
import Planar.Picture

/-! TIFF files of 8-bit colour pictures, little-endian and in strips. -/
namespace Planar.Tiff
open Bytes

inductive Compression where
  | none
  | lzw
  | deflateFast
  | deflateBalanced
  | deflateBest
  deriving DecidableEq, Repr

namespace Compression

def code : Compression → Nat
  | .none => 1
  | .lzw => 5
  | .deflateFast | .deflateBalanced | .deflateBest => 8

def apply : Compression → ByteArray → ByteArray
  | .none, bytes => bytes
  | .lzw, bytes => Lzw.compress bytes
  | .deflateFast, bytes | .deflateBalanced, bytes | .deflateBest, bytes =>
    Deflate.compress bytes

/-- Undoes the compression with the given code. -/
def undo? (code : Nat) (bytes : ByteArray) : Option ByteArray :=
  match code with
  | 1 => some bytes
  | 5 => Lzw.decompress bytes
  | 8 => Deflate.decompress bytes
  | _ => .none

end Compression

/-- Each byte of a row less the byte of the same colour in the pixel before it. -/
def difference (stride : Nat) (pixels : ByteArray) : ByteArray :=
  (List.range pixels.size).foldl (fun out i =>
    let here := if h : i < pixels.size then pixels[i] else 0
    let before := if h : 3 ≤ i % stride ∧ i < pixels.size then pixels[i - 3] else 0
    out.push (here - before)) .empty

/-- Undoes the differences. -/
def accumulate (stride : Nat) (lines : ByteArray) : ByteArray :=
  lines.foldl (fun out b =>
    let i := out.size
    let before := if h : 3 ≤ i % stride ∧ i - 3 < out.size then out[i - 3] else 0
    out.push (b + before)) .empty

inductive Width where
  | short
  | long
  deriving DecidableEq

/-- One field of a directory. -/
def field (tag : Nat) (width : Width) (count value : Nat) : ByteArray :=
  let size := match width with | .short => 3 | .long => 4
  little 2 tag ++ little 2 size ++ little 4 count ++ little 4 value

/-- Where the samples start: after the header and the three sample widths. -/
def dataStart : Nat := 14

/-- The file of a picture in one strip, its rows written as differences if `predicted`. -/
def encode (compression : Compression) (predicted : Bool) (picture : Picture) : ByteArray :=
  let pixels := picture.bytes
  let strip := compression.apply <|
    if predicted then difference (3 * picture.width) pixels else pixels
  let padding := ofList (List.replicate (strip.size % 2) 0)
  let directory := dataStart + strip.size + strip.size % 2
  let fields := [
    field 256 .long 1 picture.width, field 257 .long 1 picture.height, field 258 .short 3 8,
    field 259 .short 1 compression.code, field 262 .short 1 2, field 273 .long 1 dataStart,
    field 277 .short 1 3, field 278 .long 1 picture.height, field 279 .long 1 strip.size,
    field 317 .short 1 (if predicted then 2 else 1)]
  let head := ofList [0x49, 0x49, 42, 0] ++ little 4 directory ++ ofList [8, 0, 8, 0, 8, 0]
  fields.foldl (· ++ ·) (head ++ strip ++ padding ++ little 2 fields.length) ++ little 4 0

/-- The values of a directory's field, `none` if it has no such field of numbers. -/
def values? (bytes : ByteArray) (directory tag : Nat) : Option (List Nat) := do
  let count := readLittle (← slice? bytes directory 2)
  let fields ← (List.range count).mapM fun i => slice? bytes (directory + 2 + 12 * i) 12
  let found ← fields.find? fun f => readLittle (f.extract 0 2) = tag
  let size ← match readLittle (found.extract 2 4) with
    | 3 => some 2
    | 4 => some 4
    | _ => none
  let items := readLittle (found.extract 4 8)
  let content ←
    if items * size ≤ 4 then some (found.extract 8 12)
    else slice? bytes (readLittle (found.extract 8 12)) (items * size)
  return (List.range items).map fun i => readLittle (content.extract (i * size) ((i + 1) * size))

/-- The picture in a file. -/
def decode? (bytes : ByteArray) : Option Picture := do
  guard (bytes.extract 0 4 == ofList [0x49, 0x49, 42, 0])
  let directory := readLittle (← slice? bytes 4 4)
  let value (tag default : Nat) : Nat :=
    ((values? bytes directory tag).bind List.head?).getD default
  let shape : Shape := ⟨value 256 0, value 257 0⟩
  guard (values? bytes directory 258 = some [8, 8, 8] ∧ 0 < shape.area)
  let starts ← values? bytes directory 273
  let sizes ← values? bytes directory 279
  let strips ← (starts.zip sizes).mapM fun (start, size) => do
    Compression.undo? (value 259 1) (← slice? bytes start size)
  let lines := strips.foldl (· ++ ·) .empty
  let pixels := if value 317 1 = 2 then accumulate (3 * shape.width) lines else lines
  guard (3 * shape.area ≤ pixels.size)
  return Grid.ofFn shape fun row col =>
    let start := 3 * (row.val * shape.width + col.val)
    let byte (i : Nat) : UInt8 := if h : i < pixels.size then pixels[i] else 0
    ⟨byte start, byte (start + 1), byte (start + 2)⟩

end Planar.Tiff
