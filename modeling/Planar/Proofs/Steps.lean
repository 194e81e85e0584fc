import Planar.Command.Run
import Planar.Proofs.World

/-! Steps of a command on a host that is a value. -/
namespace Planar.Command

variable {β γ : Type} {world after : World Float} {b : β} {c : γ}
  {step : Step (StateM (World Float)) β} {task : Task (StateM (World Float)) β}

/-- The outcome of a step and the world it leaves. -/
def on (step : Step (StateM (World Float)) β) (world : World Float) :
    Except Failure β × World Float :=
  StateT.run step.run world

theorem on_bind_eq_ok {k : β → Step (StateM (World Float)) γ} :
    on (step >>= k) world = (.ok c, after) ↔
      ∃ b between, on step world = (.ok b, between) ∧ on (k b) between = (.ok c, after) :=
  run_bind_eq_ok

theorem on_pure_eq_ok {d : β} : on (pure d) world = (.ok b, after) ↔ d = b ∧ world = after := by
  have hon : on (pure d) world = (.ok d, world) := rfl
  rw [hon, Prod.mk.injEq, Except.ok.injEq]

/-- A task that succeeds does so under whatever name its faults would have. -/
theorem on_mapError_eq_ok {rename : Fault → Failure} :
    on (ExceptT.mk do return (← task.run).mapError rename) world = (.ok b, after) ↔
      Task.on task world = (.ok b, after) := by
  rw [on, ExceptT.run_mk, StateT.run_bind, Task.on]
  rcases StateT.run task.run world with ⟨outcome, between⟩
  cases outcome with
  | error fault =>
    constructor
    · intro h
      cases h
    · intro h
      cases h
  | ok b' =>
    constructor
    · intro h
      cases h
      rfl
    · intro h
      cases h
      rfl

theorem on_bare_eq_ok : on (bare task) world = (.ok b, after) ↔
    Task.on task world = (.ok b, after) :=
  on_mapError_eq_ok

theorem on_within_eq_ok {name : String} : on (within name task) world = (.ok b, after) ↔
    Task.on task world = (.ok b, after) :=
  on_mapError_eq_ok

theorem on_except_eq_ok {outcome : Except Failure β} :
    on (liftM outcome) world = (.ok b, after) ↔ outcome = .ok b ∧ world = after := by
  have hon : on (liftM outcome : Step (StateM (World Float)) β) world = (outcome, world) := rfl
  rw [hon, Prod.mk.injEq]

theorem on_lift_eq_ok {work : StateM (World Float) β} :
    on (liftM work) world = (.ok b, after) ↔ work.run world = (b, after) := by
  have hon : on (liftM work) world = (.ok (work.run world).1, (work.run world).2) := rfl
  rw [hon, Prod.mk.injEq, Except.ok.injEq, Prod.ext_iff]

theorem on_readAs_eq_ok {path : String} {bytes : ByteArray} :
    on (readAs path) world = (.ok bytes, after) ↔
      world.disk.read path = .ok bytes ∧ world = after := by
  constructor
  · intro h
    obtain ⟨content, between, hread, h⟩ := on_bind_eq_ok.mp h
    obtain ⟨rfl, rfl⟩ := Prod.mk.inj ((World.run_readFile path).symm.trans (on_lift_eq_ok.mp hread))
    split at h
    · rename_i hread
      obtain ⟨rfl, rfl⟩ := on_pure_eq_ok.mp h
      exact ⟨hread, rfl⟩
    · cases h
  · rintro ⟨hread, rfl⟩
    refine on_bind_eq_ok.mpr ⟨_, _, on_lift_eq_ok.mpr (World.run_readFile path), ?_⟩
    rw [hread]
    rfl

/-- The output of a command line and the world it leaves. -/
def runOn [PictureDecoder] (args : List String) (world : World Float) : Output × World Float :=
  StateT.run (run args : StateM (World Float) Output) world

/-- Runs end with zero when they succeed, and print what they have to say. -/
theorem code_ofStep_eq_zero {result : Except Failure String} :
    (Output.ofStep result).code = 0 ↔
      ∃ text, result = .ok text ∧ Output.ofStep result = ⟨0, text, ""⟩ := by
  cases result with
  | error failure =>
    constructor
    · intro h
      cases h
    · rintro ⟨text, h, -⟩
      cases h
  | ok text => exact ⟨fun _ => ⟨text, rfl, rfl⟩, fun _ => rfl⟩

end Planar.Command
