import Planar.Command.Run
import Planar.Proofs.HeatMaps
import Planar.Proofs.Loading
import Planar.Proofs.Pictures

/-! Which pictures are left when all comparisons of a run have written theirs: all of them exactly
if no two jobs draw different ones for one path, which the names do not prevent. -/
namespace Planar

namespace Comparer
variable {α : Type} [Scalar α] [PictureDecoder] {world after : World α} {comparer : Comparer α}
  {job : Job} {jobs : List Job} {report : Report α} {drawing : Drawing} {place : Place}
  {bytes : ByteArray} {i : Nat}

/-- A drawing of a job: some picture of the differences of the planes that its files hold. -/
def DrawnBy (comparer : Comparer α) (world : World α) (job : Job) (drawing : Drawing) : Prop :=
  ∃ reference candidate, Task.on job.reference.load world = (.ok reference, world) ∧
    Task.on job.candidate.load world = (.ok candidate, world) ∧
    comparer.Draws reference candidate drawing

theorem DrawnBy.inside (hext : '/' ∉ comparer.encoder.extension.toList)
    (h : comparer.DrawnBy world job drawing) : comparer.Inside drawing := by
  obtain ⟨reference, candidate, -, -, i, r, c, map, kind, -, -, -, rfl⟩ := h
  exact inside_picturePath hext rfl

variable [Analytic α]

theorem on_compareFiles {native reference candidate : Labelled}
    (hnative : Task.on job.native.load world = (.ok native, world))
    (hreference : Task.on job.reference.load world = (.ok reference, world))
    (hcandidate : Task.on job.candidate.load world = (.ok candidate, world)) :
    Task.on (comparer.compareFiles job) world =
      Task.on (comparer.compare native reference candidate) world := by
  rw [compareFiles, Task.on_bind, hnative]
  dsimp only
  rw [Task.on_bind, hreference]
  dsimp only
  rw [Task.on_bind, hcandidate]

theorem written_of_compareFiles (hext : '/' ∉ comparer.encoder.extension.toList)
    (hpictures : comparer.config.writePictures = true)
    (h : Task.on (comparer.compareFiles job) world = (.ok report, after)) :
    ∃ drawings, (∀ drawing, drawing ∈ drawings ↔ comparer.DrawnBy world job drawing) ∧
      report.artifacts = drawings.map Drawing.path ∧ comparer.Written drawings world after := by
  obtain ⟨native, between, hnative, hloads⟩ := Task.on_bind_eq_ok.mp h
  obtain ⟨rfl, -⟩ := Source.load_eq_ok hnative
  obtain ⟨reference, between', hreference, hload⟩ := Task.on_bind_eq_ok.mp hloads
  obtain ⟨rfl, hw⟩ := Source.load_eq_ok hreference
  obtain ⟨candidate, between'', hcandidate, hcompare⟩ := Task.on_bind_eq_ok.mp hload
  obtain ⟨rfl, -⟩ := Source.load_eq_ok hcandidate
  obtain ⟨-, hartifacts, drawings, hdraws, hpaths, hwritten⟩ :=
    written_of_compare hext hpictures hw hcompare
  refine ⟨drawings, ?_, hartifacts.trans hpaths.symm, hwritten⟩
  intro drawing
  rw [hdraws]
  constructor
  · exact fun hd => ⟨reference, candidate, hreference, hcandidate, hd⟩
  · rintro ⟨reference', candidate', hreference', hcandidate', hd⟩
    cases hreference.symm.trans hreference'
    cases hcandidate.symm.trans hcandidate'
    exact hd

/-- What one job of a run leaves: what its comparison leaves, and an event if that failed. -/
def afterJob (comparer : Comparer α) (job : Job) (world : World α) : World α :=
  match Task.on (comparer.compareFiles job) world with
  | (.ok _, after) => after
  | (.error fault, after) =>
    after.logged [.comparisonFailed fault job.reference.path job.candidate.path]

theorem afterJob_of_ok (h : Task.on (comparer.compareFiles job) world = (.ok report, after)) :
    comparer.afterJob job world = after := by
  rw [afterJob, h]

/-- The outcomes of a run and the world it leaves. -/
def runOn (comparer : Comparer α) (jobs : List Job) (world : World α) :
    List (Except Fault (Report α)) × World α :=
  StateT.run (comparer.runBatch jobs : StateM (World α) _) world

theorem runOn_cons (comparer : Comparer α) (job : Job) (jobs : List Job) (world : World α) :
    comparer.runOn (job :: jobs) world =
      ((Task.on (comparer.compareFiles job) world).1 ::
          (comparer.runOn jobs (comparer.afterJob job world)).1,
        (comparer.runOn jobs (comparer.afterJob job world)).2) := by
  rw [runOn, runBatch.eq_def, afterJob]
  dsimp only
  rw [StateT.run_bind]
  unfold Task.on
  rcases StateT.run (comparer.compareFiles job).run world with ⟨outcome, next⟩
  cases outcome with
  | error fault => rfl
  | ok report => rfl

/-- The world that a job of a run finds. -/
def before (comparer : Comparer α) (jobs : List Job) (world : World α) (i : Nat) : World α :=
  (comparer.runOn (jobs.take i) world).2

theorem before_zero : comparer.before jobs world 0 = world := rfl

theorem before_succ : comparer.before (job :: jobs) world (i + 1) =
    comparer.before jobs (comparer.afterJob job world) i := by
  rw [before, List.take_succ_cons, runOn_cons]
  rfl

/-- A drawing of one of the jobs of a run. -/
def DrawnIn (comparer : Comparer α) (jobs : List Job) (world : World α) (i : Nat)
    (drawing : Drawing) : Prop :=
  ∃ job, jobs[i]? = some job ∧ comparer.DrawnBy (comparer.before jobs world i) job drawing

theorem drawnIn_zero : comparer.DrawnIn (job :: jobs) world 0 drawing ↔
    comparer.DrawnBy world job drawing := by
  simp [DrawnIn, before_zero]

theorem drawnIn_succ : comparer.DrawnIn (job :: jobs) world (i + 1) drawing ↔
    comparer.DrawnIn jobs (comparer.afterJob job world) i drawing := by
  simp only [DrawnIn, before_succ, List.getElem?_cons_succ]

/-- Every comparison of the run succeeds. -/
def AllDone (comparer : Comparer α) (jobs : List Job) (world : World α) : Prop :=
  ∀ outcome ∈ (comparer.runOn jobs world).1, ∃ report, outcome = .ok report

theorem allDone_cons : comparer.AllDone (job :: jobs) world ↔
    (∃ report, Task.on (comparer.compareFiles job) world =
      (.ok report, comparer.afterJob job world)) ∧
      comparer.AllDone jobs (comparer.afterJob job world) := by
  rw [AllDone, runOn_cons, List.forall_mem_cons, AllDone]
  refine and_congr_left fun _ => exists_congr fun report => ?_
  rw [afterJob]
  rcases Task.on (comparer.compareFiles job) world with ⟨outcome, next⟩
  cases outcome with
  | error fault => simp
  | ok report => simp

/-- A stored drawing outlasts a run whose drawings for its path all encode as it does. -/
theorem Stored.of_runOn (hext : '/' ∉ comparer.encoder.extension.toList)
    (hpictures : comparer.config.writePictures = true) (hdone : comparer.AllDone jobs world)
    (hdrawing : comparer.Inside drawing)
    (hsame : ∀ i other, comparer.DrawnIn jobs world i other → drawing.path = other.path →
      comparer.encoder.encode drawing.picture = comparer.encoder.encode other.picture)
    (h : comparer.Stored world.disk drawing place bytes) :
    comparer.Stored (comparer.runOn jobs world).2.disk drawing place bytes := by
  induction jobs generalizing world with
  | nil => exact h
  | cons job jobs ih =>
    obtain ⟨⟨report, hreport⟩, hrest⟩ := allDone_cons.mp hdone
    obtain ⟨drawings, hdraws, -, hwritten⟩ := written_of_compareFiles hext hpictures hreport
    rw [runOn_cons]
    refine ih hrest ?_ ?_
    · intro i other hother
      exact hsame (i + 1) other (drawnIn_succ.mpr hother)
    · refine hwritten.keeps ?_ hdrawing ?_ h
      · intro other hother
        exact ((hdraws other).mp hother).inside hext
      · intro other hother
        exact hsame 0 other (drawnIn_zero.mpr ((hdraws other).mp hother))

/-- Each report of a run lists the paths of its job's drawings. -/
theorem mem_artifacts_of_runOn (hext : '/' ∉ comparer.encoder.extension.toList)
    (hpictures : comparer.config.writePictures = true) (hdone : comparer.AllDone jobs world)
    (hreport : (comparer.runOn jobs world).1[i]? = some (.ok report)) (path : String) :
    path ∈ report.artifacts ↔
      ∃ drawing, comparer.DrawnIn jobs world i drawing ∧ drawing.path = path := by
  induction jobs generalizing world i with
  | nil => cases hreport
  | cons job jobs ih =>
    obtain ⟨⟨first, hfirst⟩, hrest⟩ := allDone_cons.mp hdone
    rw [runOn_cons, hfirst] at hreport
    cases i with
    | zero =>
      cases hreport
      obtain ⟨drawings, hdraws, hartifacts, -⟩ := written_of_compareFiles hext hpictures hfirst
      simp only [hartifacts, List.mem_map, hdraws, drawnIn_zero]
    | succ i =>
      simp only [drawnIn_succ]
      exact ih hrest hreport

/-- At the end of a run a drawing is where it was written, if no later one took its place. -/
theorem stored_of_drawnIn (hext : '/' ∉ comparer.encoder.extension.toList)
    (hpictures : comparer.config.writePictures = true) (hdone : comparer.AllDone jobs world)
    (hsame : ∀ j other, i < j → comparer.DrawnIn jobs world j other → drawing.path = other.path →
      comparer.encoder.encode drawing.picture = comparer.encoder.encode other.picture)
    (h : comparer.DrawnIn jobs world i drawing) :
    ∃ place bytes, comparer.Stored (comparer.runOn jobs world).2.disk drawing place bytes := by
  induction jobs generalizing world i with
  | nil =>
    obtain ⟨job, hjob, -⟩ := h
    cases hjob
  | cons job jobs ih =>
    obtain ⟨⟨report, hreport⟩, hrest⟩ := allDone_cons.mp hdone
    rw [runOn_cons]
    cases i with
    | zero =>
      have hdrawn := drawnIn_zero.mp h
      obtain ⟨drawings, hdraws, -, hwritten⟩ := written_of_compareFiles hext hpictures hreport
      obtain ⟨place, bytes, hstored⟩ := hwritten.stored drawing ((hdraws drawing).mpr hdrawn)
      refine ⟨place, bytes, hstored.of_runOn hext hpictures hrest (hdrawn.inside hext) ?_⟩
      intro j other hother
      exact hsame (j + 1) other j.succ_pos (drawnIn_succ.mpr hother)
    | succ i =>
      refine ih hrest ?_ (drawnIn_succ.mp h)
      intro j other hlater hother
      exact hsame (j + 1) other (Nat.succ_lt_succ hlater) (drawnIn_succ.mpr hother)

end Comparer

/-- One sample. -/
def dot (v : UInt8) : Grid UInt8 := ⟨⟨1, 1⟩, #[v], rfl⟩

/-- The comparison of one sample, in a file of the given name. -/
def Job.dot (name : String) : Job where
  native := ⟨"Original Image", "native", .dump ⟨1, 1⟩ .gray⟩
  reference := ⟨"FFmpeg", "reference", .dump ⟨1, 1⟩ .gray⟩
  candidate := ⟨"Custom Bilinear", name, .dump ⟨1, 1⟩ .gray⟩

/-- Images of one sample, all but the last the same. -/
def dots : List (String × UInt8) := [("native", 7), ("reference", 7), ("a", 7), ("b", 9)]

/-- A dump of each of these images. -/
def Disk.dots : Disk := ⟨Planar.dots.map fun (name, v) => ([name], .file (Dump.encode (dot v)))⟩

/-- Pictures as they are, in the folder of the images. -/
def Comparer.plain (α : Type) [Scalar α] : Comparer α :=
  ⟨⟨"raw", fun picture => .ok picture.bytes, id⟩, .default⟩

/-- What a picture of the comparison of one sample is called. -/
def dotName (kind : Artifact.Kind) : String :=
  Artifact.fileName kind none "FFmpeg" "Custom Bilinear" "raw"

/-- The images are there, and no name is taken by a folder. -/
structure World.HasDots {α : Type} (world : World α) : Prop where
  images : ∀ file ∈ dots, world.disk.entry? [file.1] = some (.file (Dump.encode (dot file.2)))
  free : ∀ name, world.disk.entry? [name] ≠ some .folder

namespace World.HasDots
variable {α : Type} {world : World α} {name label : String} {v : UInt8}

theorem start : (World.mk .dots [] : World α).HasDots where
  images := by
    have hall : ∀ file ∈ dots, Disk.dots.entry? [file.1] =
        some (.file (Dump.encode (dot file.2))) := by decide +kernel
    exact hall
  free name h := by
    obtain ⟨before, after, hentries, -⟩ := List.lookup_eq_some_iff.mp h
    have hmem : ([name], Entry.folder) ∈ Disk.dots.entries := hentries ▸ by simp
    simp [Disk.dots] at hmem

theorem insert {kind : Artifact.Kind} {bytes : ByteArray} (h : world.HasDots) :
    World.HasDots { world with disk := world.disk.insert [dotName kind] (.file bytes) } where
  images file hfile := by
    rw [← h.images file hfile]
    refine Disk.entry?_insert_of_ne ?_
    have hother : ∀ file ∈ dots, [file.1] ≠ [dotName kind] := by
      cases kind <;> decide +kernel
    exact hother file hfile
  free name := Disk.entry?_insert_file_ne_folder (h.free name)

theorem on_load [PictureDecoder] (h : world.HasDots) (hname : (name, v) ∈ dots) :
    Task.on (Source.load ⟨label, name, .dump ⟨1, 1⟩ .gray⟩) world =
      (.ok ⟨label, .single .gray (dot v)⟩, world) := by
  have hplain : ∀ file ∈ dots, '/' ∉ file.1.toList ∧ '\x00' ∉ file.1.toList ∧
      Disk.Named file.1 := by decide
  have hdecode : Dump.decode ⟨1, 1⟩ (Dump.encode (dot v)) = .ok (dot v) :=
    Dump.decode_encode (by decide : Shape.area ⟨1, 1⟩ < Shape.wordLimit)
  obtain ⟨hslash, hnul, hnamed⟩ := hplain (name, v) hname
  exact Source.on_load (Disk.leads_of_name hslash hnul hnamed) (h.images _ hname)
    (congrArg (Except.map (Image.single .gray)) hdecode)

end World.HasDots

namespace Comparer
variable {α : Type} [Scalar α] {world : World α} {name : String} {v : UInt8}

theorem dotName_parts (kind : Artifact.Kind) :
    Disk.lookupParts (Path.join "." (dotName kind)) = .ok [".", dotName kind] := by
  rw [Disk.lookupParts_of_short]
  all_goals cases kind <;> decide +kernel

variable [PictureDecoder]

theorem drawnBy_dot {drawing : Drawing} (h : world.HasDots) (hname : (name, v) ∈ dots) :
    (plain α).DrawnBy world (.dot name) drawing ↔ ∃ map kind,
      difference α (⟨.gray, dot 7⟩, ⟨.gray, dot v⟩) = .ok map ∧
        drawing = ⟨Path.join "." (dotName kind), (plain α).picture map kind⟩ := by
  have hloadReference : Task.on (Job.dot name).reference.load world = _ :=
    h.on_load (by decide : ("reference", 7) ∈ dots)
  have hloadCandidate : Task.on (Job.dot name).candidate.load world = _ := h.on_load hname
  constructor
  · rintro ⟨reference, candidate, hreference, hcandidate, i, r, c, map, kind, hr, hc, hmap, rfl⟩
    cases hloadReference.symm.trans hreference
    cases hloadCandidate.symm.trans hcandidate
    match i, hr, hc with
    | 0, rfl, rfl => exact ⟨map, kind, hmap, rfl⟩
  · rintro ⟨map, kind, hmap, rfl⟩
    exact ⟨_, _, hloadReference, hloadCandidate, 0, _, _, map, kind, rfl, rfl, hmap, rfl⟩

variable [Analytic α]

/-- One sample compares with another, and the images stay where they were. -/
theorem afterJob_dot [ZeroLaws α] (h : world.HasDots) (hname : (name, v) ∈ dots) :
    (∃ report, Task.on ((plain α).compareFiles (.dot name)) world =
      (.ok report, (plain α).afterJob (.dot name) world)) ∧
        ((plain α).afterJob (.dot name) world).HasDots := by
  have hfolder : Task.on (Task.makeFolders ".") world = (.ok (), world) := by
    have hmade : world.disk.makeFolders "." = (.ok (), world.disk) := by cbv
    rw [Task.on_makeFolders, hmade]
  have hhome : world.disk.findFolder ["."] = .ok [] := by cbv
  have hn : (Labelled.mk "Original Image" (.single .gray (dot 7))).image.planes =
      [⟨.gray, dot 7⟩] := rfl
  have hr : (Labelled.mk "FFmpeg" (.single .gray (dot 7))).image.planes = [⟨.gray, dot 7⟩] := rfl
  have hc : (Labelled.mk "Custom Bilinear" (.single .gray (dot v))).image.planes =
      [⟨.gray, dot v⟩] := rfl
  have hnamed : ∀ kind, Disk.Named (dotName kind) := by
    intro kind
    cases kind <;> decide +kernel
  obtain ⟨report, map, -, hcompare⟩ := (plain α).on_compare_of_single rfl (fun _ => rfl)
    hn hr hc rfl (by decide) hfolder hhome
    (fun kind => ⟨dotName_parts kind, hnamed kind, h.free _⟩)
  have hload : Task.on ((plain α).compareFiles (.dot name)) world = _ :=
    on_compareFiles (h.on_load (by decide : ("native", 7) ∈ dots))
      (h.on_load (by decide : ("reference", 7) ∈ dots)) (h.on_load hname)
  have hdone := hload.trans hcompare
  refine ⟨⟨report, hdone.trans ?_⟩, ?_⟩
  · rw [afterJob_of_ok hdone]
  · rw [afterJob_of_ok hdone]
    exact h.insert.insert

end Comparer

/-- The options of a comparison of two candidates, which are given no labels. -/
def Command.CompareOptions.pair (first second : String) : Command.CompareOptions where
  native := "native"
  reference := "reference"
  candidates := [first, second]
  format := .dump
  nativeShape := ⟨1, 1⟩
  shape := ⟨1, 1⟩
  nativeLabel := "Original Image"
  referenceLabel := "FFmpeg"
  candidateLabels := []
  folder := "."
  pictures := .png
  compression := .deflateBalanced
  writePictures := true

namespace Comparer
variable {α : Type} [Scalar α] [Analytic α] [ZeroLaws α] [PictureDecoder] {world : World α}
  {first second : String} {v w : UInt8}

theorem allDone_pair (h : world.HasDots) (hfirst : (first, v) ∈ dots)
    (hsecond : (second, w) ∈ dots) :
    (plain α).AllDone (Command.jobs (.pair first second)) world := by
  obtain ⟨hdone, hnext⟩ := afterJob_dot h hfirst
  refine allDone_cons.mpr ⟨hdone, allDone_cons.mpr ⟨(afterJob_dot hnext hsecond).1, ?_⟩⟩
  intro outcome hmem
  cases hmem

/-- The drawings of both candidates go to the same paths. -/
theorem drawnIn_pair {i : Nat} {drawing : Drawing} (h : world.HasDots)
    (hfirst : (first, v) ∈ dots) (hsecond : (second, w) ∈ dots) :
    (plain α).DrawnIn (Command.jobs (.pair first second)) world i drawing ↔ ∃ u map kind,
      [v, w][i]? = some u ∧ difference α (⟨.gray, dot 7⟩, ⟨.gray, dot u⟩) = .ok map ∧
        drawing = ⟨Path.join "." (dotName kind), (plain α).picture map kind⟩ := by
  have hjobs : Command.jobs (.pair first second) = [.dot first, .dot second] := rfl
  obtain ⟨-, hnext⟩ := afterJob_dot h hfirst
  rw [hjobs]
  match i with
  | 0 => simp [drawnIn_zero, drawnBy_dot h hfirst]
  | 1 => simp [drawnIn_succ, drawnIn_zero, drawnBy_dot hnext hsecond]
  | i + 2 => simp [DrawnIn]

end Comparer

theorem dotName_injective {kind kind' : Artifact.Kind}
    (h : Path.join "." (dotName kind) = Path.join "." (dotName kind')) : kind = kind' :=
  (Artifact.fileName_injective (Path.join_injective h)).1

/-- The reports of a run in which every comparison succeeds list the drawings of their jobs. All
these are in their files at the end exactly if no two jobs have drawings for one path that encode
differently: the name of a picture does not say which job it is of. -/
theorem runBatch_keeps_pictures_iff [Scalar α] [Analytic α] [PictureDecoder]
    (comparer : Comparer α) (jobs : List Job) (world : World α)
    (hext : '/' ∉ comparer.encoder.extension.toList)
    (hpictures : comparer.config.writePictures = true) (hdone : comparer.AllDone jobs world) :
    let run := comparer.runOn jobs world
    (∀ (i : Nat) (report : Report α), run.1[i]? = some (.ok report) → ∀ path,
      path ∈ report.artifacts ↔
        ∃ drawing, comparer.DrawnIn jobs world i drawing ∧ drawing.path = path) ∧
    ((∀ i drawing, comparer.DrawnIn jobs world i drawing → ∃ bytes,
        comparer.encoder.encode drawing.picture = .ok bytes ∧
          run.2.disk.read drawing.path = .ok bytes) ↔
      ∀ i j drawing other, i < j → comparer.DrawnIn jobs world i drawing →
        comparer.DrawnIn jobs world j other → drawing.path = other.path →
          comparer.encoder.encode drawing.picture = comparer.encoder.encode other.picture) := by
  intro run
  refine ⟨?_, ?_, ?_⟩
  · intro i report hreport path
    exact Comparer.mem_artifacts_of_runOn hext hpictures hdone hreport path
  · intro hkept i j drawing other _ hdrawing hother hpath
    obtain ⟨bytes, hencoded, hread⟩ := hkept i drawing hdrawing
    obtain ⟨bytes', hencoded', hread'⟩ := hkept j other hother
    rw [← hpath] at hread'
    rw [hencoded, hencoded', Except.ok.inj (hread.symm.trans hread')]
  · intro hsame i drawing hdrawing
    obtain ⟨place, bytes, hstored⟩ := Comparer.stored_of_drawnIn hext hpictures hdone
      (fun j other hlater hother => hsame i j drawing other hlater hdrawing hother) hdrawing
    exact ⟨bytes, hstored.encoded, hstored.leads.read hstored.file⟩

/-- The same candidate twice draws the same pictures twice, and they are there at the end. -/
theorem runBatch_keeps_pictures_iff_twice :
    let comparer := Comparer.plain Float
    let jobs := Command.jobs (.pair "a" "a")
    let world : World Float := ⟨.dots, []⟩
    ('/' ∉ comparer.encoder.extension.toList ∧ comparer.config.writePictures = true ∧
      comparer.AllDone jobs world) ∧
    ∀ i drawing, comparer.DrawnIn jobs world i drawing → ∃ bytes,
      comparer.encoder.encode drawing.picture = .ok bytes ∧
        (comparer.runOn jobs world).2.disk.read drawing.path = .ok bytes := by
  intro comparer jobs world
  have hext : '/' ∉ comparer.encoder.extension.toList := by decide
  have ha : ("a", 7) ∈ dots := by decide
  have hdone : comparer.AllDone jobs world := Comparer.allDone_pair .start ha ha
  obtain ⟨-, hkept⟩ := runBatch_keeps_pictures_iff comparer jobs world hext rfl hdone
  refine ⟨⟨hext, rfl, hdone⟩, hkept.mpr ?_⟩
  intro i j drawing other _ hdrawing hother hpath
  obtain ⟨u, map, kind, hu, hmap, rfl⟩ := (Comparer.drawnIn_pair .start ha ha).mp hdrawing
  obtain ⟨u', map', kind', hu', hmap', rfl⟩ := (Comparer.drawnIn_pair .start ha ha).mp hother
  have hall : ∀ u ∈ [(7 : UInt8), 7], u = 7 := by simp
  obtain rfl := hall u (List.mem_of_getElem? hu)
  obtain rfl := hall u' (List.mem_of_getElem? hu')
  obtain rfl := dotName_injective hpath
  cases hmap.symm.trans hmap'
  rfl

/-- Two candidates without labels are compared, both comparisons succeed, and at the end the heat
map of the first is not in the file that its report lists. -/
theorem runBatch_loses_picture :
    let _ : Analytic Rat := ⟨id, id⟩
    let comparer := Comparer.plain Rat
    let jobs := Command.jobs (.pair "a" "b")
    let world : World Rat := ⟨.dots, []⟩
    let run := comparer.runOn jobs world
    comparer.AllDone jobs world ∧
    ∃ (report : Report Rat) (path : String), run.1[0]? = some (.ok report) ∧
      path ∈ report.artifacts ∧
      ∀ drawing, comparer.DrawnIn jobs world 0 drawing → drawing.path = path →
        ¬ ∃ bytes, comparer.encoder.encode drawing.picture = .ok bytes ∧
          run.2.disk.read path = .ok bytes := by
  intro _ comparer jobs world run
  have hext : '/' ∉ comparer.encoder.extension.toList := by decide
  have ha : ("a", 7) ∈ dots := by decide
  have hb : ("b", 9) ∈ dots := by decide
  have hdone : comparer.AllDone jobs world := Comparer.allDone_pair .start ha hb
  have hsame : Comparer.difference Rat (⟨.gray, dot 7⟩, ⟨.gray, dot 7⟩) =
      .ok ⟨⟨⟨1, 1⟩, #[0], rfl⟩⟩ := by decide +kernel
  have hother : Comparer.difference Rat (⟨.gray, dot 7⟩, ⟨.gray, dot 9⟩) =
      .ok ⟨⟨⟨1, 1⟩, #[-2], rfl⟩⟩ := by decide +kernel
  have hfirst : comparer.DrawnIn jobs world 0 _ :=
    (Comparer.drawnIn_pair .start ha hb).mpr ⟨7, _, .heatMap, rfl, hsame, rfl⟩
  have hsecond : comparer.DrawnIn jobs world 1 _ :=
    (Comparer.drawnIn_pair .start ha hb).mpr ⟨9, _, .heatMap, rfl, hother, rfl⟩
  obtain ⟨⟨report, hreport⟩, -⟩ := Comparer.allDone_cons.mp hdone
  have hrun : run.1[0]? = some (.ok report) := by
    rw [show run = _ from Comparer.runOn_cons _ _ _ _, hreport]
    rfl
  refine ⟨hdone, report, _, hrun,
    (Comparer.mem_artifacts_of_runOn hext rfl hdone hrun _).mpr ⟨_, hfirst, rfl⟩, ?_⟩
  rintro drawing hdrawing hpath ⟨bytes, hencoded, hread⟩
  obtain ⟨u, map, kind, hu, hmap, rfl⟩ := (Comparer.drawnIn_pair .start ha hb).mp hdrawing
  cases hu
  obtain rfl := dotName_injective hpath
  cases hsame.symm.trans hmap
  -- Nothing is written after the second heat map, so it is there at the end.
  have hlast : ∀ j other, 1 < j → ¬ comparer.DrawnIn jobs world j other := by
    intro j other hlater hdrawn
    obtain ⟨u, -, -, hu, -⟩ := (Comparer.drawnIn_pair .start ha hb).mp hdrawn
    obtain ⟨hlt, -⟩ := List.getElem?_eq_some_iff.mp hu
    exact absurd hlt (Nat.not_lt.mpr hlater)
  obtain ⟨place, bytes', hstored⟩ := Comparer.stored_of_drawnIn hext rfl hdone
    (fun j other hlater hdrawn => (hlast j other hlater hdrawn).elim) hsecond
  have hbytes : bytes = bytes' :=
    Except.ok.inj (hread.symm.trans (hstored.leads.read hstored.file))
  have hpictures : Picture.bytes (HeatMap.render _) = Picture.bytes (HeatMap.render _) :=
    (Except.ok.inj hencoded).trans (hbytes.trans (Except.ok.inj hstored.encoded).symm)
  have hcool := (HeatMap.head_render (⟨⟨⟨1, 1⟩, #[0], rfl⟩⟩ : DifferenceMap Rat)).trans
    (by decide +kernel : _ = some HeatMap.cool)
  have hwarm := (HeatMap.head_render (⟨⟨⟨1, 1⟩, #[-2], rfl⟩⟩ : DifferenceMap Rat)).trans
    (by decide +kernel : _ = some HeatMap.warm)
  have hred := Picture.head_bytes hcool
  rw [hpictures, Picture.head_bytes hwarm] at hred
  exact absurd hred (by decide)

end Planar
