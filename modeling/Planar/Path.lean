/-! File paths. -/
namespace Planar.Path

/-- The parts between slashes. A path with a leading slash starts with an empty part. -/
def parts (path : String) : List String := (path.toList.splitOn '/').map String.ofList

/-- A file of the given name in a folder. -/
def join (folder name : String) : String :=
  if folder = "" ∨ folder.endsWith "/" then folder ++ name else s!"{folder}/{name}"

/-- Drops empty parts, and every part for the same folder but a leading one. -/
def normalize (parts : List String) : List String :=
  parts.take 1 ++ (parts.drop 1).filter fun part => part ≠ "" ∧ part ≠ "."

theorem length_normalize_le (parts : List String) :
    (normalize parts).length ≤ parts.length := by
  have := (parts.drop 1).length_filter_le fun part => part ≠ "" ∧ part ≠ "."
  simp only [normalize, List.length_append, List.length_take, List.length_drop] at *
  omega

/-- The number of letters before the last point, or of all letters if there is none after the
first letter. -/
def stemLength (name : List Char) : Nat :=
  let fromPoint := name.reverse.dropWhile (· ≠ '.')
  if fromPoint.length ≤ 1 then name.length else fromPoint.length - 1

/-- Drops the reversed path's trailing slashes and parts for the same folder. -/
def trimEnd : List Char → List Char
  | '/' :: rest => trimEnd rest
  | '.' :: '/' :: rest => trimEnd rest
  | reversed => reversed

/-- The path without the extension of its last part. Paths that end in no name stay as they
are. -/
def withoutExtension (path : String) : String :=
  let reversed := trimEnd path.toList.reverse
  let name := (reversed.takeWhile (· ≠ '/')).reverse
  if name = [] ∨ name = ['.'] ∨ name = ['.', '.'] then path
  else
    let folder := (reversed.dropWhile (· ≠ '/')).reverse
    String.ofList (folder ++ name.take (stemLength name))

end Planar.Path
