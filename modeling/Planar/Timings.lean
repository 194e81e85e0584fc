import Planar.Decimal.Fixed

/-! How long the stages of a run took. -/
namespace Planar
open Decimal

structure Timing where
  stage : String
  nanos : Nat
  deriving DecidableEq, Repr

/-- Recordings in the order they were made. -/
structure Timings where
  stages : List Timing
  deriving DecidableEq, Repr

namespace Timings

def nanosPerSecond : Nat := 1000000000

/-- Durations have a 64-bit number of seconds. -/
def limit : Nat := 0x10000000000000000 * nanosPerSecond

def sum (timings : List Timing) : Nat := timings.foldr (fun timing total => timing.nanos + total) 0

/-- The sum of all recordings, if it is a duration. -/
def total? (t : Timings) : Option Nat :=
  if sum t.stages < limit then some (sum t.stages) else none

/-- The sum of the recordings of one stage, if there are any. -/
def stage? (t : Timings) (name : String) : Option Nat :=
  let matching := t.stages.filter (·.stage = name)
  if matching = [] then none else some (sum matching)

def seconds (nanos : Nat) : Float :=
  Float.ofNat (nanos / nanosPerSecond) + Float.ofNat (nanos % nanosPerSecond) / 1e9

def renderRow (name : String) (seconds : Float) : String :=
  let millis := padLeft 12 ' ' (fixed 3 (seconds * 1000))
  s!"{padRight 30 name} {millis}ms"

/-- A table of all recordings with their shares of the total. -/
def render? (t : Timings) : Option String :=
  t.total?.map fun nanos =>
    let total := seconds nanos
    let rule := "".pushn '-' 60
    let rows := t.stages.map fun s =>
      let share := if 0 < total then seconds s.nanos / total * 100 else 0
      let percent := padLeft 5 ' ' (fixed 1 share)
      s!"{renderRow s.stage (seconds s.nanos)} ({percent}%)\n"
    s!"Stage timings:\n{rule}\n" ++ String.join rows ++ s!"{rule}\n" ++ renderRow "Total" total

end Timings

end Planar
