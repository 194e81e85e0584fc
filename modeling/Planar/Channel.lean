import Planar.Shape

/-! Channels of an image and the layouts they come in. -/
namespace Planar

inductive Channel where
  | gray | r | g | b | y | cb | cr
  deriving DecidableEq, Repr

namespace Channel

def all : List Channel := [.gray, .r, .g, .b, .y, .cb, .cr]

def name : Channel → String
  | .gray => "Gray"
  | .r => "R"
  | .g => "G"
  | .b => "B"
  | .y => "Y"
  | .cb => "Cb"
  | .cr => "Cr"

/-- The letter that marks the channel in names of exported dumps. -/
def letter : Channel → String
  | .gray => "L"
  | .cb => "U"
  | .cr => "V"
  | c => c.name

end Channel

/-- How the planes of an image relate to its nominal shape. -/
inductive Layout where
  | single
  | rgb
  | ycbcr
  /-- Luma at full size, both chroma planes halved along each axis. -/
  | yuv420
  deriving DecidableEq, Repr

namespace Layout

def all : List Layout := [.single, .rgb, .ycbcr, .yuv420]

def name : Layout → String
  | .single => "Single"
  | .rgb => "Rgb"
  | .ycbcr => "YCbCr"
  | .yuv420 => "Yuv420"

def channels : Layout → List Channel
  | .single => [.gray]
  | .rgb => [.r, .g, .b]
  | .ycbcr | .yuv420 => [.y, .cb, .cr]

/-- The shape of plane `index` in an image of the given nominal shape. Halving drops an odd
row or column. -/
def planeShape (layout : Layout) (index : Nat) (nominal : Shape) : Shape :=
  if layout = .yuv420 ∧ 0 < index then ⟨nominal.width / 2, nominal.height / 2⟩ else nominal

end Layout

end Planar
