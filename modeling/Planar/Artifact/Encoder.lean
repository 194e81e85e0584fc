import Planar.Codec.Png
import Planar.Codec.Tiff
import Planar.Sink

/-! Encoders of the pictures that go with a comparison. -/
namespace Planar

structure PictureEncoder where
  extension : String
  encode : Picture → Except Fault ByteArray
  /-- How a failing sink is reported. -/
  sinkFault : Fault → Fault

namespace PictureEncoder

def png : PictureEncoder where
  extension := "png"
  encode picture :=
    if picture.width = 0 then .error (.encode "Zero width not allowed")
    else if picture.height = 0 then .error (.encode "Zero height not allowed")
    else .ok (Png.encode .rgb picture.shape picture.bytes)
  sinkFault
    | .device detail => .encode detail
    | fault => fault

def tiff (compression : Tiff.Compression) (predicted : Bool) : PictureEncoder where
  extension := "tiff"
  encode picture :=
    if picture.shape.area = 0 then
      .error (.encode s!"format error: invalid dimensions: {picture.shape}")
    else .ok (Tiff.encode compression predicted picture)
  sinkFault := id

/-- Encodes a picture into a sink. -/
def write (encoder : PictureEncoder) (picture : Picture) (sink : Sink) :
    Except Fault Unit × Sink :=
  match encoder.encode picture with
  | .error fault => (.error fault, sink)
  | .ok bytes =>
    let (written, sink) := sink.write bytes
    (written.mapError encoder.sinkFault, sink)

end PictureEncoder

end Planar
