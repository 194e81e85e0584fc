import Planar.Channel
import Planar.Path

/-! File names of the pictures that go with a comparison. -/
namespace Planar.Artifact

inductive Kind where
  | histogram
  | heatMap
  deriving DecidableEq, Repr

def Kind.stem : Kind → String
  | .histogram => "difference_histogram"
  | .heatMap => "difference_heatmap"

/-- Lowers ASCII letters and writes one underscore for each gap between runs of letters and
digits. `begun` says that something is written, `gap` that a run has ended since. -/
def sanitizeFrom (begun gap : Bool) : List Char → List Char
  | [] => []
  | c :: rest =>
    if c.isAlphanum then
      let lowered := c.toLower :: sanitizeFrom true false rest
      if begun && gap then '_' :: lowered else lowered
    else sanitizeFrom begun true rest

def sanitize (label : String) : String := String.ofList (sanitizeFrom false false label.toList)

/-- The name of a picture. The channel is named only if there are several. -/
def fileName (kind : Kind) (channel : Option Channel) (a b extension : String) : String :=
  let labels := (channel.toList.map Channel.name ++ [a, b]).map sanitize
  "_".intercalate (kind.stem :: labels) ++ "." ++ extension

def path (folder : String) (kind : Kind) (channel : Option Channel) (a b extension : String) :
    String :=
  Path.join folder (fileName kind channel a b extension)

end Planar.Artifact
