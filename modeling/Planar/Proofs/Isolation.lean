import Planar.Proofs.Batch
import Planar.Proofs.Reports

/-! Jobs of a run that draws no pictures. Each finds the disk as it was before the run and leaves
nothing but an event if it fails, so their order does not matter to any of them. -/
namespace Planar

section
variable {α β γ : Type} {world : World α}

/-- A task whose outcome depends on the disk alone, and that leaves the world as it is. -/
def Task.Reads (task : Task (StateM (World α)) β) : Prop :=
  ∃ outcome : Disk → Except Fault β, ∀ world, on task world = (outcome world.disk, world)

theorem Task.reads_except (outcome : Except Fault β) :
    (liftM outcome : Task (StateM (World α)) β).Reads :=
  ⟨fun _ => outcome, fun _ => on_except outcome⟩

theorem Task.reads_readInput (path : String) :
    (readInput path : Task (StateM (World α)) ByteArray).Reads :=
  ⟨fun disk => (disk.read path).mapError fun fault => .input s!"{path}: {fault.message}",
    fun _ => on_readInput path⟩

theorem Task.Reads.bind {task : Task (StateM (World α)) β} {k : β → Task (StateM (World α)) γ}
    (h : task.Reads) (hk : ∀ b, (k b).Reads) : (task >>= k).Reads := by
  obtain ⟨first, hfirst⟩ := h
  choose rest hrest using hk
  refine ⟨fun disk => first disk >>= fun b => rest b disk, ?_⟩
  intro world
  rw [on_bind, hfirst]
  dsimp only
  cases first world.disk with
  | error fault => rfl
  | ok b => exact hrest b world

theorem Source.reads_load [PictureDecoder] (source : Source) :
    (source.load : Task (StateM (World α)) Labelled).Reads := by
  refine (Task.reads_readInput source.path).bind ?_
  intro bytes
  cases source.format.decode bytes with
  | error fault => exact Task.reads_except (.error (fault.inFile source.path))
  | ok image => exact Task.reads_except (.ok (Labelled.mk source.label image))

end

/-- The event that a job of a run is logged with, none unless it fails. -/
def Job.event? {α : Type} (job : Job) : Except Fault (Report α) → Option (Event α)
  | .ok _ => none
  | .error fault => some (.comparisonFailed fault job.reference.path job.candidate.path)

namespace Comparer
variable {α : Type} [Scalar α] [Analytic α] {comparer : Comparer α} {job : Job} {jobs : List Job}
  {world : World α}

/-- What a comparison of files gives if it is all that is done on a disk. -/
def alone [PictureDecoder] (comparer : Comparer α) (disk : Disk) (job : Job) :
    Except Fault (Report α) :=
  (Task.on (comparer.compareFiles job) ⟨disk, []⟩).1

/-- Without pictures, nothing is left to be done once the statistics are there. -/
theorem reads_compare (h : comparer.config.writePictures = false)
    (native reference candidate : Labelled) :
    (comparer.compare native reference candidate : Task (StateM (World α)) (Report α)).Reads := by
  rcases hassess : comparer.assess native reference candidate with fault | ⟨report, drawings⟩
  · exact ⟨fun _ => .error fault, fun _ => comparer.on_compare_of_error hassess⟩
  · obtain ⟨-, hartifacts, maps, -, rfl⟩ := assess_eq_ok hassess
    rw [comparer.drawings_eq_nil h] at hassess
    exact ⟨fun _ => .ok report, fun _ => comparer.on_compare_without_pictures hartifacts hassess⟩

theorem comparable_dot (v : UInt8) :
    Comparable (.single .gray (dot 7)) (.single .gray (dot 7)) (.single .gray (dot v)) :=
  .of_zip rfl rfl (by decide)

variable [PictureDecoder]

theorem reads_compareFiles (h : comparer.config.writePictures = false) (job : Job) :
    (comparer.compareFiles job : Task (StateM (World α)) (Report α)).Reads :=
  job.native.reads_load.bind fun native => job.reference.reads_load.bind fun reference =>
    job.candidate.reads_load.bind fun candidate => reads_compare h native reference candidate

theorem on_compareFiles_of_plain (h : comparer.config.writePictures = false) :
    Task.on (comparer.compareFiles job) world = (comparer.alone world.disk job, world) := by
  obtain ⟨outcome, houtcome⟩ := reads_compareFiles h job
  rw [alone, houtcome, houtcome]

/-- A job leaves the disk as it is, and its event if there is one. -/
theorem afterJob_of_plain (h : comparer.config.writePictures = false) :
    comparer.afterJob job world =
      world.logged (job.event? (comparer.alone world.disk job)).toList := by
  rw [afterJob, on_compareFiles_of_plain h]
  cases comparer.alone world.disk job with
  | error fault => rfl
  | ok report => exact World.logged_nil.symm

/-- The disk is the same before every job, so each gives what it gives alone. -/
theorem runOn_of_plain (h : comparer.config.writePictures = false) :
    comparer.runOn jobs world = (jobs.map (comparer.alone world.disk),
      world.logged (jobs.filterMap fun job => job.event? (comparer.alone world.disk job))) := by
  induction jobs generalizing world with
  | nil => exact congrArg (Prod.mk []) World.logged_nil.symm
  | cons job jobs ih =>
    rw [runOn_cons, afterJob_of_plain h, ih, on_compareFiles_of_plain h, World.disk_logged,
      World.logged_logged, List.map_cons, List.filterMap_cons]
    cases job.event? (comparer.alone world.disk job) with
    | none => rfl
    | some event => rfl

/-- One sample compares with another. -/
theorem alone_dot [ZeroLaws α] {name : String} {v : UInt8}
    (h : comparer.config.writePictures = false) (hdots : world.HasDots)
    (hname : (name, v) ∈ dots) : ∃ report, comparer.alone world.disk (.dot name) = .ok report := by
  have hload : Task.on (comparer.compareFiles (.dot name)) world = _ :=
    on_compareFiles (hdots.on_load (by decide : ("native", 7) ∈ dots))
      (hdots.on_load (by decide : ("reference", 7) ∈ dots)) (hdots.on_load hname)
  have hcompare : ∃ report, Task.on (comparer.compare
      ⟨"Original Image", .single .gray (dot 7)⟩ ⟨"FFmpeg", .single .gray (dot 7)⟩
      ⟨"Custom Bilinear", .single .gray (dot v)⟩) world = (.ok report, world) :=
    on_compare_of_comparable h (comparable_dot v)
  obtain ⟨report, hcompare⟩ := hcompare
  rw [on_compareFiles_of_plain h, hcompare] at hload
  exact ⟨report, congrArg Prod.fst hload⟩

/-- No comparison finds a missing candidate, whatever its label. -/
theorem alone_gone (comparer : Comparer α) (label : String) :
    comparer.alone .dots
      { Job.dot "gone" with candidate := ⟨label, "gone", .dump ⟨1, 1⟩ .gray⟩ } =
        .error (.input "gone: No such file or directory (os error 2)") := by cbv

end Comparer

/-- A run without pictures gives for each job what the job gives alone. It leaves the disk as it is
and logs one error for each failing job, in the order of the jobs. Another order of the jobs gives
the same results and errors in that order. -/
theorem runBatch_isolated {α : Type} [Scalar α] [Analytic α] [PictureDecoder]
    (comparer : Comparer α) (jobs : List Job) (world : World α)
    (h : comparer.config.writePictures = false) :
    let run := comparer.runOn jobs world
    let failures := jobs.filterMap fun job => job.event? (comparer.alone world.disk job)
    run.1 = jobs.map (comparer.alone world.disk) ∧ run.2.disk = world.disk ∧
      run.2.events = world.events ++ failures ∧ (∀ event ∈ failures, event.isError = true) ∧
      ∀ order : Equiv.Perm (Fin jobs.length),
        let reordered := comparer.runOn (List.ofFn fun i => jobs[order i]) world
        reordered.1.length = run.1.length ∧
          (∀ i : Fin jobs.length, reordered.1[i.val]? = run.1[(order i).val]?) ∧
          reordered.2.disk = run.2.disk ∧
          ∃ failures', reordered.2.events = world.events ++ failures' ∧
            failures'.Perm failures := by
  intro run failures
  have hrun : run = (jobs.map (comparer.alone world.disk), world.logged failures) :=
    Comparer.runOn_of_plain h
  refine ⟨congrArg Prod.fst hrun, by rw [hrun, World.disk_logged], ?_, ?_, ?_⟩
  · rw [hrun]
    rfl
  · intro event hevent
    obtain ⟨job, -, hjob⟩ := List.mem_filterMap.mp hevent
    cases houtcome : comparer.alone world.disk job with
    | error fault =>
      rw [houtcome] at hjob
      cases hjob
      rfl
    | ok report =>
      rw [houtcome] at hjob
      cases hjob
  · intro order reordered
    have hreordered : reordered = (_, world.logged _) := Comparer.runOn_of_plain h
    refine ⟨?_, ?_, ?_, _, congrArg (fun run => run.2.events) hreordered, ?_⟩
    · rw [hreordered, hrun]
      simp
    · intro i
      rw [hreordered, hrun]
      simp
    · rw [hreordered, hrun]
      rfl
    · have hperm : (List.ofFn fun i => jobs[order i]).Perm (List.ofFn jobs.get) :=
        order.ofFn_comp_perm jobs.get
      rw [List.ofFn_get] at hperm
      exact hperm.filterMap _

/-- A missing candidate fails, before or after one that is there, and no file is touched. -/
theorem runBatch_isolated_gone :
    let comparer : Comparer Float :=
      ⟨.png, { ComparisonConfig.default with writePictures := false }⟩
    let jobs := [Job.dot "gone", Job.dot "a"]
    let world : World Float := ⟨.dots, []⟩
    let run := comparer.runOn jobs world
    let fault : Fault := .input "gone: No such file or directory (os error 2)"
    comparer.config.writePictures = false ∧
      (∃ report, run.1 = [.error fault, .ok report]) ∧ run.2.disk = .dots ∧
      run.2.events = [.comparisonFailed fault "reference" "gone"] ∧
      (comparer.runOn [Job.dot "a", Job.dot "gone"] world).1[1]? = some (.error fault) := by
  intro comparer jobs world run fault
  have hgone : comparer.alone .dots (.dot "gone") = .error fault :=
    comparer.alone_gone "Custom Bilinear"
  have ha : ∃ report, comparer.alone .dots (.dot "a") = .ok report :=
    Comparer.alone_dot rfl .start (by decide : ("a", 7) ∈ dots)
  obtain ⟨report, ha⟩ := ha
  obtain ⟨hresults, hdisk, hevents, -, horder⟩ := runBatch_isolated comparer jobs world rfl
  have hboth : run.1 = [.error fault, .ok report] := by
    rw [hresults, List.map_cons, List.map_cons, hgone, ha]
    rfl
  refine ⟨rfl, ⟨report, hboth⟩, hdisk, ?_, ?_⟩
  · rw [hevents, List.filterMap_cons, List.filterMap_cons, hgone, ha]
    rfl
  · obtain ⟨-, hswapped, -⟩ := horder (Equiv.swap 0 1)
    have hlast := hswapped 1
    rw [Equiv.swap_apply_right, hboth] at hlast
    exact hlast

end Planar
