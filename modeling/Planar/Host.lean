import Planar.Disk
import Planar.Event
import Planar.Image
import Planar.Dump
import Planar.Timings

/-! What a run asks of the machine it runs on, and a machine that is a value. -/
namespace Planar

/-- Files, a log and a clock that counts nanoseconds. -/
class Host (α : outParam Type) (m : Type → Type) where
  readFile : String → m (Except FileFault ByteArray)
  writeFile : String → ByteArray → m (Except FileFault Unit)
  makeFolders : String → m (Except FileFault Unit)
  log : Event α → m Unit
  clock : m Nat

/-- A disk and the events logged so far. Its clock stands still. -/
structure World (α : Type) where
  disk : Disk
  events : List (Event α)

namespace World
variable {α : Type}

def writeFile (world : World α) (path : String) (content : ByteArray) :
    Except FileFault Unit × World α :=
  match world.disk.write path content with
  | .ok disk => (.ok (), { world with disk })
  | .error fault => (.error fault, world)

def makeFolders (world : World α) (path : String) : Except FileFault Unit × World α :=
  let (outcome, disk) := world.disk.makeFolders path
  (outcome, { world with disk })

instance : Host α (StateM (World α)) where
  readFile path := fun world => (world.disk.read path, world)
  writeFile path content := fun world => world.writeFile path content
  makeFolders path := fun world => world.makeFolders path
  log event := fun world => ((), { world with events := world.events ++ [event] })
  clock := fun world => (0, world)

end World

/-- Work on a host that may fail. -/
abbrev Task (m : Type → Type) (β : Type) : Type := ExceptT Fault m β

namespace Task
variable {α : Type} {m : Type → Type} [Monad m] [Host α m] {β : Type}

/-- Logs the events of a result and gives its outcome. -/
def report (result : Logged α β) : Task m β := do
  result.events.forM fun event => (Host.log event : m Unit)
  ExceptT.mk (pure result.outcome)

/-- Takes the time of some work. -/
def timed (stage : String) (work : Unit → Task m β) : Task m (β × Timing) := do
  let start ← (Host.clock : m Nat)
  let result ← work ()
  let stop ← (Host.clock : m Nat)
  return (result, ⟨stage, stop - start⟩)

def readInput (path : String) : Task m ByteArray := do
  match ← (Host.readFile path : m _) with
  | .ok content => return content
  | .error fault => throw (.input s!"{path}: {fault.message}")

def writeOutput (path : String) (content : ByteArray) : Task m Unit := do
  match ← (Host.writeFile path content : m _) with
  | .ok () => return ()
  | .error fault => throw (.output s!"{path}: {fault.message}")

def makeFolders (path : String) : Task m Unit := do
  match ← (Host.makeFolders path : m _) with
  | .ok () => return ()
  | .error fault => throw (.output s!"{path}: {fault.message}")

end Task

namespace Dump
variable {α : Type} {m : Type → Type} [Monad m] [Host α m]

/-- The file of one channel's dump. -/
def path (stem letter : String) : String := s!"{stem}_{letter}_channel.txt"

/-- The file that a plane is dumped to. -/
def file (stem : String) (plane : Plane) : String := path stem plane.channel.letter

/-- Writes a dump of each plane next to the stem and gives their paths. -/
def writePlanes (stem : String) : List Plane → Task m (List String)
  | [] => return []
  | plane :: planes => do
    Task.writeOutput (file stem plane) (encode plane.grid)
    let files ← writePlanes stem planes
    return file stem plane :: files

end Dump

end Planar
