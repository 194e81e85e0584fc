import Planar.Fault

/-! Outputs that may fill up. -/
namespace Planar

structure Sink where
  /-- Bytes it still takes, unlimited for `none`. -/
  room : Option Nat
  written : ByteArray

namespace Sink

def empty (room : Option Nat) : Sink := ⟨room, .empty⟩

/-- Writes as many of the bytes as there is room for. -/
def write (sink : Sink) (bytes : ByteArray) : Except Fault Unit × Sink :=
  match sink.room with
  | none => (.ok (), ⟨none, sink.written ++ bytes⟩)
  | some room =>
    if bytes.size ≤ room then (.ok (), ⟨some (room - bytes.size), sink.written ++ bytes⟩)
    else (.error (.device "sink full"), ⟨some 0, sink.written ++ bytes.extract 0 room⟩)

end Sink

end Planar
