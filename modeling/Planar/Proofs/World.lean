import Planar.Host

/-! Tasks on a host that is a value. -/
namespace Planar
variable {α β γ : Type} {world : World α}

/-- The world with more events logged. -/
def World.logged (world : World α) (events : List (Event α)) : World α :=
  { world with events := world.events ++ events }

namespace World

@[simp] theorem logged_nil : world.logged [] = world := by
  simp [logged]

@[simp] theorem logged_logged {events more : List (Event α)} :
    (world.logged events).logged more = world.logged (events ++ more) := by
  simp [logged]

@[simp] theorem disk_logged {events : List (Event α)} : (world.logged events).disk = world.disk :=
  rfl

theorem run_readFile (path : String) :
    (Host.readFile path : StateM (World α) _).run world = (world.disk.read path, world) := rfl

theorem run_writeFile (path : String) (content : ByteArray) :
    (Host.writeFile path content : StateM (World α) _).run world =
      world.writeFile path content := rfl

theorem run_makeFolders (path : String) :
    (Host.makeFolders path : StateM (World α) _).run world = world.makeFolders path := rfl

theorem run_log (event : Event α) :
    (Host.log event : StateM (World α) _).run world = ((), world.logged [event]) := rfl

theorem run_clock : (Host.clock : StateM (World α) _).run world = (0, world) := rfl

end World

theorem run_bind_eq_ok {ε σ : Type} {work : ExceptT ε (StateM σ) β}
    {k : β → ExceptT ε (StateM σ) γ} {state after : σ} {c : γ} :
    StateT.run (work >>= k).run state = (.ok c, after) ↔ ∃ b between,
      StateT.run work.run state = (.ok b, between) ∧
        StateT.run (k b).run between = (.ok c, after) := by
  rw [ExceptT.run_bind, StateT.run_bind]
  rcases StateT.run work.run state with ⟨outcome, between⟩
  cases outcome with
  | error fault =>
    constructor
    · intro h
      cases h
    · rintro ⟨b, between', hsame, -⟩
      cases hsame
  | ok b =>
    constructor
    · exact fun h => ⟨b, between, rfl, h⟩
    · rintro ⟨b', between', hsame, h⟩
      cases hsame
      exact h

namespace Task

/-- The outcome of a task and the world it leaves. -/
def on (task : Task (StateM (World α)) β) (world : World α) : Except Fault β × World α :=
  StateT.run task.run world

theorem on_pure (b : β) : on (pure b) world = (.ok b, world) := rfl

theorem on_lift (work : StateM (World α) β) :
    on (liftM work) world = (.ok (work.run world).1, (work.run world).2) := rfl

theorem on_bind (task : Task (StateM (World α)) β) (k : β → Task (StateM (World α)) γ) :
    on (task >>= k) world =
      match on task world with
      | (.ok b, world) => on (k b) world
      | (.error fault, world) => (.error fault, world) := by
  rw [on, ExceptT.run_bind, StateT.run_bind]
  change _ = match StateT.run task.run world with
    | (.ok b, world) => on (k b) world
    | (.error fault, world) => (.error fault, world)
  rcases StateT.run task.run world with ⟨outcome, next⟩
  cases outcome with
  | error fault => rfl
  | ok b => rfl

theorem on_log (events : List (Event α)) :
    on (events.forM fun event => liftM (Host.log event : StateM (World α) Unit)) world =
      (.ok (), world.logged events) := by
  induction events generalizing world with
  | nil =>
    rw [World.logged_nil]
    rfl
  | cons event events ih =>
    change on (liftM (Host.log event : StateM (World α) Unit) >>= fun _ => _) world = _
    rw [on_bind, on_lift, World.run_log]
    simpa using @ih (world.logged [event])

theorem on_report (result : Logged α β) :
    on (report result) world = (result.outcome, world.logged result.events) := by
  rw [report, on_bind, on_log]
  rfl

theorem on_timed (stage : String) (work : Unit → Task (StateM (World α)) β) :
    on (timed stage work) world =
      ((on (work ()) world).1.map fun b => (b, ⟨stage, 0⟩), (on (work ()) world).2) := by
  rw [timed, on_bind, on_lift, World.run_clock]
  simp only [on_bind]
  rcases on (work ()) world with ⟨outcome, next⟩
  cases outcome with
  | error fault => rfl
  | ok b => rfl

theorem on_timed_eq_ok {stage : String} {work : Unit → Task (StateM (World α)) β} {b : β}
    {timing : Timing} {after : World α} :
    on (timed stage work) world = (.ok (b, timing), after) ↔
      timing = ⟨stage, 0⟩ ∧ on (work ()) world = (.ok b, after) := by
  rw [on_timed]
  rcases on (work ()) world with ⟨outcome, next⟩
  cases outcome with
  | error fault =>
    constructor
    · intro h
      cases h
    · rintro ⟨-, h⟩
      cases h
  | ok b' =>
    constructor
    · intro h
      cases h
      exact ⟨rfl, rfl⟩
    · rintro ⟨rfl, h⟩
      cases h
      rfl

theorem on_report_eq_ok {result : Logged α β} {b : β} {after : World α} :
    on (report result) world = (.ok b, after) ↔
      result.outcome = .ok b ∧ after = world.logged result.events := by
  rw [on_report, Prod.mk.injEq, eq_comm (a := after)]

theorem on_readInput (path : String) :
    on (readInput path) world =
      ((world.disk.read path).mapError fun fault => .input s!"{path}: {fault.message}", world) := by
  rw [readInput, on_bind, on_lift, World.run_readFile]
  cases world.disk.read path with
  | error fault => rfl
  | ok content => rfl

theorem on_readInput_eq_ok {path : String} {content : ByteArray} {after : World α} :
    on (readInput path) world = (.ok content, after) ↔
      world.disk.read path = .ok content ∧ after = world := by
  rw [on_readInput, Prod.mk.injEq, eq_comm (a := after)]
  refine and_congr_left fun _ => ?_
  cases world.disk.read path with
  | error fault =>
    constructor
    · intro h
      cases h
    · intro h
      cases h
  | ok content' =>
    constructor
    · intro h
      cases h
      rfl
    · intro h
      cases h
      rfl

theorem on_writeOutput (path : String) (content : ByteArray) :
    on (writeOutput path content) world =
      match world.disk.write path content with
      | .ok disk => (.ok (), { world with disk })
      | .error fault => (.error (.output s!"{path}: {fault.message}"), world) := by
  rw [writeOutput, on_bind, on_lift, World.run_writeFile, World.writeFile]
  cases world.disk.write path content with
  | error fault => rfl
  | ok disk => rfl

theorem on_makeFolders (path : String) :
    on (makeFolders path) world =
      match world.disk.makeFolders path with
      | (.ok (), disk) => (.ok (), { world with disk })
      | (.error fault, disk) =>
        (.error (.output s!"{path}: {fault.message}"), { world with disk }) := by
  rw [makeFolders, on_bind, on_lift, World.run_makeFolders, World.makeFolders]
  rcases world.disk.makeFolders path with ⟨outcome, disk⟩
  cases outcome with
  | error fault => rfl
  | ok made => rfl

theorem on_except (outcome : Except Fault β) :
    on (liftM outcome : Task (StateM (World α)) β) world = (outcome, world) := rfl

/-- A run of two tasks that succeeds is a run of the first and then one of the second. -/
theorem on_bind_eq_ok {task : Task (StateM (World α)) β} {k : β → Task (StateM (World α)) γ}
    {c : γ} {after : World α} : on (task >>= k) world = (.ok c, after) ↔
      ∃ b between, on task world = (.ok b, between) ∧ on (k b) between = (.ok c, after) :=
  run_bind_eq_ok

end Task

end Planar
