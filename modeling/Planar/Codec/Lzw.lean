import Std.Data.HashMap
import Planar.Codec.Bytes

/-! Variable-width LZW, most significant bit first, with codes of 9 to 12 bits. -/
namespace Planar.Lzw

def clearCode : Nat := 256

def endCode : Nat := 257

/-- The width of the next code when the reader's table ends before entry `next`. -/
def codeWidth (next : Nat) : Nat :=
  if next < 511 then 9 else if next < 1023 then 10 else if next < 2047 then 11 else 12

/-- Bytes written, and the bits that do not fill one yet. -/
structure BitWriter where
  bytes : ByteArray
  pending : Nat
  width : Nat

namespace BitWriter

def flush (w : BitWriter) : Nat → BitWriter
  | 0 => w
  | fuel + 1 =>
    if w.width < 8 then w
    else
      let rest := w.width - 8
      let unit := Nat.pow 2 rest
      flush ⟨w.bytes.push (UInt8.ofNat (w.pending / unit)), w.pending % unit, rest⟩ fuel

def write (w : BitWriter) (width value : Nat) : BitWriter :=
  flush ⟨w.bytes, w.pending * Nat.pow 2 width + value, w.width + width⟩ 3

def finish (w : BitWriter) : ByteArray :=
  if w.width = 0 then w.bytes else (w.write (8 - w.width) 0).bytes

end BitWriter

/-- The table of known strings, by the code of a string and the byte after it, and the string
read last. -/
structure Encoder where
  writer : BitWriter
  table : Std.HashMap (Nat × UInt8) Nat
  next : Nat
  current : Option Nat

namespace Encoder

def emit (e : Encoder) (code : Nat) : Encoder :=
  { e with writer := e.writer.write (codeWidth (e.next - 1)) code }

def start : Encoder :=
  { writer := (⟨.empty, 0, 0⟩ : BitWriter).write 9 clearCode, table := ∅, next := 258,
    current := none }

def step (e : Encoder) (byte : UInt8) : Encoder :=
  match e.current with
  | none => { e with current := some byte.toNat }
  | some code =>
    match e.table[(code, byte)]? with
    | some longer => { e with current := some longer }
    | none =>
      let e := e.emit code
      if e.next < 4094 then
        { e with table := e.table.insert (code, byte) e.next, next := e.next + 1,
                 current := some byte.toNat }
      else
        { e.emit clearCode with table := ∅, next := 258, current := some byte.toNat }

end Encoder

def compress (bytes : ByteArray) : ByteArray :=
  let e := bytes.foldl Encoder.step Encoder.start
  let e := match e.current with
    | some code => { e.emit code with next := e.next + 1 }
    | none => e
  (e.emit endCode).writer.finish

/-- The number in `width` bits from a position on. -/
def readCode? (bytes : ByteArray) (position width : Nat) : Option Nat :=
  (List.range width).foldlM (fun code i =>
    let here := position + i
    if h : here / 8 < bytes.size then
      some (2 * code + bytes[here / 8].toNat / Nat.pow 2 (7 - here % 8) % 2)
    else none) 0

/-- Appends the strings of the codes from a position on, up to the end code. The table holds the
strings from code 258 on, `previous` the string read last. -/
def readCodes (bytes : ByteArray) (position : Nat) (table : Array ByteArray)
    (previous : Option ByteArray) (out : ByteArray) : Nat → Option ByteArray
  | 0 => none
  | fuel + 1 => do
    let width := codeWidth (258 + table.size)
    let code ← readCode? bytes position width
    let position := position + width
    if code = endCode then return out
    else if code = clearCode then readCodes bytes position #[] none out fuel
    else
      let known :=
        if code < 256 then some (Bytes.ofList [UInt8.ofNat code]) else table[code - 258]?
      match previous with
      | none =>
        let string ← known
        readCodes bytes position table (some string) (out ++ string) fuel
      | some last =>
        let string ← match known with
          | some string => some string
          | none => if code = 258 + table.size then some (last ++ last.extract 0 1) else none
        readCodes bytes position (table.push (last ++ string.extract 0 1)) (some string)
          (out ++ string) fuel

def decompress (bytes : ByteArray) : Option ByteArray :=
  readCodes bytes 0 #[] none .empty (8 * bytes.size + 1)

end Planar.Lzw
