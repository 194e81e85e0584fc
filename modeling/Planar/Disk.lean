import Planar.Path

/-! A tree of files and folders in memory. -/
namespace Planar

/-- Why a file or folder cannot be used. -/
inductive FileFault where
  | missing
  | notFolder
  | isFolder
  | taken
  | nameTooLong
  | nulInName
  | other (text : String)
  deriving DecidableEq, Repr

def FileFault.message : FileFault → String
  | .missing => "No such file or directory (os error 2)"
  | .notFolder => "Not a directory (os error 20)"
  | .isFolder => "Is a directory (os error 21)"
  | .taken => "File exists (os error 17)"
  | .nameTooLong => "File name too long (os error 36)"
  | .nulInName => "file name contained an unexpected NUL byte"
  | .other text => text

inductive Entry where
  | file (content : ByteArray)
  | folder

instance : DecidableEq Entry
  | .file a, .file b =>
    match a.instDecidableEq b with
    | isTrue h => isTrue (congrArg Entry.file h)
    | isFalse h => isFalse fun he => h (Entry.file.inj he)
  | .folder, .folder => isTrue rfl
  | .file _, .folder | .folder, .file _ => isFalse nofun

/-- The names on the way from the root. -/
abbrev Place := List String

/-- What is at each place but the root, which is a folder. -/
structure Disk where
  entries : List (Place × Entry)

namespace Disk

def empty : Disk := ⟨[]⟩

def entry? (disk : Disk) (place : Place) : Option Entry :=
  if place = [] then some .folder else disk.entries.lookup place

/-- The disk with an entry put in place of what was there. -/
def insert (disk : Disk) (place : Place) (entry : Entry) : Disk :=
  ⟨disk.entries.filter (·.1 ≠ place) ++ [(place, entry)]⟩

/-- Length of a name in bytes, at most. -/
def nameLimit : Nat := 255

/-- Follows path parts from a folder. The root is its own parent. -/
def walk (disk : Disk) (here : Place) : List String → Except FileFault Place
  | [] => .ok here
  | part :: rest =>
    match disk.entry? here with
    | none => .error .missing
    | some (.file _) => .error .notFolder
    | some .folder =>
      if part = "" ∨ part = "." then disk.walk here rest
      else if part = ".." then disk.walk here.dropLast rest
      else if nameLimit < part.utf8ByteSize then .error .nameTooLong
      else if (disk.entry? (here ++ [part])).isNone then .error .missing
      else disk.walk (here ++ [part]) rest

/-- Length of a path in bytes, at most. -/
def pathLimit : Nat := 4095

/-- The parts of a path that can be looked up at all. The working folder is the root, so paths with
and without a leading slash start from the same place. -/
def lookupParts (path : String) : Except FileFault (List String) :=
  if path.contains '\x00' then .error .nulInName
  else if pathLimit < path.utf8ByteSize then .error .nameTooLong
  else if path = "" then .error .missing
  else .ok (Path.parts path)

/-- The existing file or folder that parts lead to. -/
def find (disk : Disk) (parts : List String) : Except FileFault Place := disk.walk [] parts

def isFolder (disk : Disk) (parts : List String) : Bool :=
  match disk.find parts with
  | .ok place => disk.entry? place = some .folder
  | .error _ => false

/-- The folder that parts lead to. -/
def findFolder (disk : Disk) (parts : List String) : Except FileFault Place :=
  match disk.find parts with
  | .error fault => .error fault
  | .ok place => if disk.entry? place = some .folder then .ok place else .error .notFolder

def read (disk : Disk) (path : String) : Except FileFault ByteArray := do
  let place ← disk.find (← lookupParts path)
  match disk.entry? place with
  | some (.file content) => .ok content
  | some .folder => .error .isFolder
  | none => .error .missing

/-- Splits off trailing empty parts, and says whether there were any. -/
def splitTrailing (parts : List String) : List String × Bool :=
  let kept := (parts.reverse.dropWhile (· = "")).reverse
  (kept, kept.length < parts.length)

/-- The place of a file to be written. Its folder must exist, and no folder may be there. -/
def target (disk : Disk) (path : String) : Except FileFault Place := do
  let (parts, slash) := splitTrailing (← lookupParts path)
  let folder ← disk.findFolder parts.dropLast
  let name := parts.getLast?.getD ""
  if slash ∨ name = "." ∨ name = ".." then throw .isFolder
  if nameLimit < name.utf8ByteSize then throw .nameTooLong
  let place := folder ++ [name]
  if disk.entry? place = some .folder then throw .isFolder
  return place

/-- Creates or replaces a file. -/
def write (disk : Disk) (path : String) (content : ByteArray) : Except FileFault Disk := do
  let place ← disk.target path
  return disk.insert place (.file content)

/-- Creates one folder in an existing one. -/
def makeFolder (disk : Disk) (parts : List String) : Except FileFault Disk := do
  let (parts, _) := splitTrailing parts
  let folder ← disk.findFolder parts.dropLast
  let name := parts.getLast?.getD ""
  if name = "" ∨ name = "." ∨ name = ".." then throw .taken
  if nameLimit < name.utf8ByteSize then throw .nameTooLong
  let place := folder ++ [name]
  if (disk.entry? place).isSome then throw .taken
  return disk.insert place .folder

/-- Creates the folder that parts lead to and those on the way that are missing. The disk returned
has what was created before a fault. -/
def makeFoldersAt (disk : Disk) (parts : List String) : Except FileFault Unit × Disk :=
  let settle (disk : Disk) (fault : FileFault) : Except FileFault Unit × Disk :=
    if disk.isFolder parts then (.ok (), disk) else (.error fault, disk)
  if parts = [] then (.ok (), disk)
  else
    match disk.makeFolder parts with
    | .ok disk => (.ok (), disk)
    | .error .missing =>
      match disk.makeFoldersAt (Path.normalize parts).dropLast with
      | (.error fault, disk) => (.error fault, disk)
      | (.ok (), disk) =>
        match disk.makeFolder parts with
        | .ok disk => (.ok (), disk)
        | .error fault => settle disk fault
    | .error fault => settle disk fault
termination_by parts.length
decreasing_by
  have := Path.length_normalize_le parts
  have := List.length_pos_iff.mpr ‹¬parts = []›
  simp only [List.length_dropLast]
  omega

def makeFolders (disk : Disk) (path : String) : Except FileFault Unit × Disk :=
  if path = "" then (.ok (), disk)
  else
    match lookupParts path with
    | .error fault => (.error fault, disk)
    | .ok parts => disk.makeFoldersAt parts

/-- What is new or changed since an earlier disk. -/
def changesSince (disk earlier : Disk) : List (Place × Entry) :=
  disk.entries.filter fun (place, entry) => earlier.entry? place ≠ some entry

end Disk

end Planar
