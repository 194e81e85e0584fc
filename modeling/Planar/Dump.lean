import Planar.Decimal.Reading
import Planar.Image
import Planar.Text.Words

/-! Decimal text dumps of one plane: a line per row, samples separated by one space. A reader
takes any blanks between samples, and only the number of samples is checked. -/
namespace Planar.Dump

/-- The text of a dump. Rows without samples leave no line. -/
def render (grid : Grid UInt8) : String :=
  String.join <| grid.rows.map fun row =>
    " ".intercalate (row.toList.map fun v => toString v.toNat) ++ "\n"

def encode (grid : Grid UInt8) : ByteArray := (render grid).toUTF8

/-- The sample that a word spells: decimal digits, at most 255 in value, after an optional
plus sign. -/
def sample? (letters : List Char) : Option UInt8 :=
  (Decimal.readNat? 256 letters).map UInt8.ofNat

def readWord (word : Word) : Except Fault UInt8 :=
  match sample? word.letters with
  | some v => .ok v
  | none => .error (.decode (.badSample word.line (String.ofList word.letters)))

/-- Reads a dump of a plane of the given shape. -/
def decode (shape : Shape) (bytes : ByteArray) : Except Fault (Grid UInt8) := do
  let text ← (Utf8.decode bytes).mapError fun flaw => .decode (.notUtf8 flaw)
  let expected ← sampleCount shape
  let samples ← (words text).mapM readWord
  if samples.length ≠ expected then
    throw (.mismatch (.dump shape) expected samples.length)
  Grid.ofArray shape samples.toArray

end Planar.Dump
