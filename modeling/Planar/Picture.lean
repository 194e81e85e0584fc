import Planar.Grid

/-! Pictures with 8-bit red, green and blue. -/
namespace Planar

structure Colour where
  red : UInt8
  green : UInt8
  blue : UInt8
  deriving DecidableEq, Repr, Inhabited

abbrev Picture := Grid Colour

/-- The rows from `top` and the columns from `left` on, up to `bottom` and `right`, which are
outside. -/
structure Rect where
  left : Nat
  top : Nat
  right : Nat
  bottom : Nat
  deriving DecidableEq, Repr

namespace Picture

def blank (shape : Shape) (colour : Colour) : Picture := Grid.ofFn shape fun _ _ => colour

/-- Paints the part of a rectangle that lies in the picture. -/
def fill (picture : Picture) (area : Rect) (colour : Colour) : Picture :=
  let columns := List.range' area.left (min area.right picture.width - area.left)
  let rows := List.range' area.top (min area.bottom picture.height - area.top)
  rows.foldl (fun picture row =>
    columns.foldl (fun picture col => picture.put row col colour) picture) picture

/-- Red, green and blue of every pixel, row by row. -/
def bytes (picture : Picture) : ByteArray :=
  picture.samples.foldl (fun bytes c => ((bytes.push c.red).push c.green).push c.blue)
    (ByteArray.emptyWithCapacity (3 * picture.shape.area))

end Picture

end Planar
