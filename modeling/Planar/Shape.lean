/-! Sizes of images and planes. -/
namespace Planar

structure Shape where
  width : Nat
  height : Nat
  deriving DecidableEq, Repr, Inhabited

namespace Shape

/-- Number of samples. -/
def area (s : Shape) : Nat := s.width * s.height

def transpose (s : Shape) : Shape := ⟨s.height, s.width⟩

/-- Counts of samples and bytes are held in 64-bit words. -/
def wordLimit : Nat := 0x10000000000000000

instance : ToString Shape where
  toString s := s!"{s.width}x{s.height}"

end Shape

end Planar
