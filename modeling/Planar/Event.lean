import Planar.Divergence

/-! Events worth a warning, and results that come with them. -/
namespace Planar

inductive Event (α : Type) where
  | targetTooLarge (target : Shape) (limit : Nat)
  | sampleDiverges (plane : Channel) (divergence : Divergence α)
  | planeDiverges (plane : Channel) (flagged : Nat)
  | comparisonFailed (fault : Fault) (reference candidate : String)

namespace Event
variable {α : Type}

def isError : Event α → Bool
  | .comparisonFailed .. => true
  | _ => false

def message : Event α → String
  | .targetTooLarge target limit => s!"Target dimensions {target} exceed maximum {limit}"
  | .sampleDiverges .. => "Resized sample diverges from reference"
  | .planeDiverges .. => "Resized plane diverges from reference"
  | .comparisonFailed fault .. => s!"Comparison failed: {fault.message}"

end Event

/-- An outcome and the events on the way to it. -/
structure Logged (α β : Type) where
  events : List (Event α)
  outcome : Except Fault β

namespace Logged
variable {α β : Type}

instance : Monad (Logged α) where
  pure b := ⟨[], .ok b⟩
  bind x f :=
    match x.outcome with
    | .error fault => ⟨x.events, .error fault⟩
    | .ok b => ⟨x.events ++ (f b).events, (f b).outcome⟩

def ofExcept (outcome : Except Fault β) : Logged α β := ⟨[], outcome⟩

def fail (fault : Fault) : Logged α β := ⟨[], .error fault⟩

def tell (events : List (Event α)) : Logged α Unit := ⟨events, .ok ()⟩

end Logged

end Planar
