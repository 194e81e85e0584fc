import Planar.Proofs.Disk
import Planar.Proofs.Logged
import Planar.Proofs.Resizing
import Planar.Proofs.World

/-! The three ways to run a resize: into a sink, into a sink with timings, and from file to file. -/
namespace Planar

theorem Sink.written_of_write {sink sink' : Sink} {bytes : ByteArray}
    (h : sink.write bytes = (.ok (), sink')) : sink'.written = sink.written ++ bytes := by
  unfold write at h
  split at h
  · cases h
    rfl
  · split at h
    · cases h
      rfl
    · cases h

namespace Resizer
variable {α : Type} [Scalar α] {resizer : Resizer α} {world : World α} {bytes encoded : ByteArray}
  {resized : Image} {fault : Fault} {sink sink' : Sink}

/-- Decoding, resizing or encoding stops at the fault. -/
def Fails (resizer : Resizer α) (bytes : ByteArray) (fault : Fault) : Prop :=
  resizer.decode bytes = .error fault ∨
  ∃ image, resizer.decode bytes = .ok image ∧
    ((resizer.resizeImage image).outcome = .error fault ∨
    ∃ resized, (resizer.resizeImage image).outcome = .ok resized ∧
      resizer.encode resized = .error fault)

/-- What is decoded is resized to the image, and that encoded to the bytes. -/
def Yields (resizer : Resizer α) (bytes : ByteArray) (resized : Image) (encoded : ByteArray) :
    Prop :=
  ∃ image, resizer.decode bytes = .ok image ∧
    (resizer.resizeImage image).outcome = .ok resized ∧ resizer.encode resized = .ok encoded

theorem process_of_fails (h : resizer.Fails bytes fault) :
    (resizer.process bytes).outcome = .error fault := by
  rw [process, Logged.outcome_bind]
  rcases h with hdecode | ⟨image, hdecode, h⟩
  · exact bind_eq_error.mpr (Or.inl hdecode)
  refine bind_eq_error.mpr (Or.inr ⟨image, hdecode, ?_⟩)
  rw [Logged.outcome_bind]
  rcases h with hresize | ⟨resized, hresize, hencode⟩
  · exact bind_eq_error.mpr (Or.inl hresize)
  refine bind_eq_error.mpr (Or.inr ⟨resized, hresize, ?_⟩)
  rw [Logged.outcome_bind]
  exact bind_eq_error.mpr (Or.inl hencode)

theorem process_of_yields (h : resizer.Yields bytes resized encoded) :
    (resizer.process bytes).outcome = .ok (resized, encoded) := by
  obtain ⟨image, hdecode, hresize, hencode⟩ := h
  rw [process, Logged.outcome_bind]
  refine bind_eq_ok.mpr ⟨image, hdecode, ?_⟩
  rw [Logged.outcome_bind]
  refine bind_eq_ok.mpr ⟨resized, hresize, ?_⟩
  rw [Logged.outcome_bind]
  exact bind_eq_ok.mpr ⟨encoded, hencode, rfl⟩

/-- Timed stages do what the bare ones do, and log the same events. -/
theorem on_runStages (resizer : Resizer α) (world : World α) (bytes : ByteArray) :
    Task.on (resizer.runStages bytes) world =
      ((resizer.process bytes).outcome.map fun result =>
          (result.2, [⟨"decode_planes", 0⟩, ⟨"resize", 0⟩, ⟨"encode_planes", 0⟩]),
        world.logged (resizer.process bytes).events) := by
  rw [runStages, process]
  simp only [Task.on_bind, Task.on_timed, Task.on_report]
  cases resizer.decode bytes with
  | error fault => rfl
  | ok image =>
    rcases hresize : resizer.resizeImage image with ⟨events, outcome⟩
    cases outcome with
    | error fault => simp [Logged.ofExcept, Logged.mk_bind, Except.map, hresize]
    | ok resized =>
      cases hencode : resizer.encode resized with
      | error fault => simp [Logged.ofExcept, Logged.mk_bind, Except.map, hresize, hencode]
      | ok encoded =>
        simp [Logged.ofExcept, Logged.mk_bind, Except.map, hresize, hencode, Task.on_pure]

theorem fails_or_yields (resizer : Resizer α) (bytes : ByteArray) :
    (∃ fault, resizer.Fails bytes fault) ∨
      ∃ resized encoded, resizer.Yields bytes resized encoded := by
  cases hdecode : resizer.decode bytes with
  | error fault => exact Or.inl ⟨fault, Or.inl hdecode⟩
  | ok image =>
    cases hresize : (resizer.resizeImage image).outcome with
    | error fault => exact Or.inl ⟨fault, Or.inr ⟨image, hdecode, Or.inl hresize⟩⟩
    | ok resized =>
      cases hencode : resizer.encode resized with
      | error fault =>
        exact Or.inl ⟨fault, Or.inr ⟨image, hdecode, Or.inr ⟨resized, hresize, hencode⟩⟩⟩
      | ok encoded => exact Or.inr ⟨resized, encoded, image, hdecode, hresize, hencode⟩

theorem resize_of_fails (h : resizer.Fails bytes fault) :
    resizer.resize bytes sink = (⟨(resizer.process bytes).events, .error fault⟩, sink) := by
  simp only [resize, process_of_fails h]

theorem resize_of_yields (h : resizer.Yields bytes resized encoded)
    (hs : sink.write encoded = (.ok (), sink')) :
    resizer.resize bytes sink = (⟨(resizer.process bytes).events, .ok resized⟩, sink') := by
  simp only [resize, process_of_yields h, hs, Except.map]

theorem run_resizeTimed :
    (resizer.resizeTimed bytes sink : StateM (World α) _).run world =
      (match (resizer.process bytes).outcome with
        | .error fault => (.error fault, sink)
        | .ok (_, encoded) =>
          ((sink.write encoded).1.map fun () => ⟨[⟨"decode_planes", 0⟩, ⟨"resize", 0⟩,
            ⟨"encode_planes", 0⟩, ⟨"write_output", 0⟩]⟩, (sink.write encoded).2),
        world.logged (resizer.process bytes).events) := by
  have hstages := on_runStages resizer world bytes
  rw [Task.on] at hstages
  rw [resizeTimed, StateT.run_bind, hstages]
  cases (resizer.process bytes).outcome with
  | error fault => rfl
  | ok result => rfl

theorem resizeTimed_of_fails (h : resizer.Fails bytes fault) :
    (resizer.resizeTimed bytes sink : StateM (World α) _).run world =
      ((.error fault, sink), world.logged (resizer.process bytes).events) := by
  rw [run_resizeTimed, process_of_fails h]

theorem resizeTimed_of_yields (h : resizer.Yields bytes resized encoded)
    (hs : sink.write encoded = (.ok (), sink')) :
    ∃ timings, (resizer.resizeTimed bytes sink : StateM (World α) _).run world =
      ((.ok timings, sink'), world.logged (resizer.process bytes).events) := by
  rw [run_resizeTimed, process_of_yields h]
  simp only [hs]
  exact ⟨_, rfl⟩

theorem resizeFile_of_unread {input output : String} {cause : FileFault}
    (hread : world.disk.read input = .error cause) :
    Task.on (resizer.resizeFile input output) world =
      (.error (.input s!"{input}: {cause.message}"), world) := by
  rw [resizeFile, Task.on_bind, Task.on_timed, Task.on_readInput, hread]
  simp only [Except.mapError, Except.map]

theorem resizeFile_of_fails {input output : String} (hread : world.disk.read input = .ok bytes)
    (h : resizer.Fails bytes fault) :
    Task.on (resizer.resizeFile input output) world =
      (.error fault, world.logged (resizer.process bytes).events) := by
  rw [resizeFile, Task.on_bind, Task.on_timed, Task.on_readInput, hread]
  simp only [Except.mapError, Except.map, Task.on_bind, on_runStages, process_of_fails h]

theorem resizeFile_of_yields {input output : String} {disk : Disk}
    (hread : world.disk.read input = .ok bytes) (h : resizer.Yields bytes resized encoded)
    (hwrite : world.disk.write output encoded = .ok disk) :
    ∃ timings, Task.on (resizer.resizeFile input output) world =
      (.ok timings, { world.logged (resizer.process bytes).events with disk }) := by
  rw [resizeFile, Task.on_bind, Task.on_timed, Task.on_readInput, hread]
  simp only [Except.mapError, Except.map, Task.on_bind, on_runStages, process_of_yields h,
    Task.on_timed, Task.on_writeOutput, World.disk_logged, hwrite, Task.on_pure]
  exact ⟨_, rfl⟩

/-- A run that succeeds has read, processed and written. -/
theorem resizeFile_eq_ok {input output : String} {timings : Timings} {after : World α}
    (h : Task.on (resizer.resizeFile input output) world = (.ok timings, after)) :
    ∃ bytes resized encoded, world.disk.read input = .ok bytes ∧
      resizer.Yields bytes resized encoded ∧ world.disk.write output encoded = .ok after.disk := by
  obtain ⟨⟨bytes, reading⟩, between, hread, h⟩ := Task.on_bind_eq_ok.mp h
  obtain ⟨⟨encoded, stages⟩, staged, hstages, h⟩ := Task.on_bind_eq_ok.mp h
  obtain ⟨⟨⟨⟩, writing⟩, written, hwrite, h⟩ := Task.on_bind_eq_ok.mp h
  cases h
  obtain ⟨-, hread⟩ := Task.on_timed_eq_ok.mp hread
  obtain ⟨hread, rfl⟩ := Task.on_readInput_eq_ok.mp hread
  obtain ⟨-, hwrite⟩ := Task.on_timed_eq_ok.mp hwrite
  rw [on_runStages] at hstages
  rcases resizer.fails_or_yields bytes with ⟨fault, hfails⟩ | ⟨resized, encoded', hyields⟩
  · rw [process_of_fails hfails] at hstages
    cases hstages
  · rw [process_of_yields hyields] at hstages
    cases hstages
    refine ⟨bytes, resized, _, hread, hyields, ?_⟩
    rw [Task.on_writeOutput, World.disk_logged] at hwrite
    split at hwrite
    · rename_i disk hdisk
      cases hwrite
      exact hdisk
    · cases hwrite

end Resizer

/-- Bytes either stop every run at the same fault, with no file or sink touched, or give every run
the same bytes to write. A file is read before it is written, so it may be resized into itself. -/
theorem resize_entry_points_agree {α : Type} [Scalar α] (resizer : Resizer α) (world : World α)
    (input output : String) :
    let file := Task.on (resizer.resizeFile input output) world
    let timed := fun bytes sink =>
      (resizer.resizeTimed bytes sink : StateM (World α) _).run world
    (∀ cause, world.disk.read input = .error cause →
      file = (.error (.input s!"{input}: {cause.message}"), world)) ∧
    ∀ bytes,
      ((∃ fault, resizer.Fails bytes fault) ∨
        ∃ resized encoded, resizer.Yields bytes resized encoded) ∧
      (∀ fault, resizer.Fails bytes fault →
        (world.disk.read input = .ok bytes →
          file.1 = .error fault ∧ file.2.disk = world.disk) ∧
        ∀ sink, (resizer.resize bytes sink).1.outcome = .error fault ∧
          (resizer.resize bytes sink).2 = sink ∧
          (timed bytes sink).1 = (.error fault, sink) ∧ (timed bytes sink).2.disk = world.disk) ∧
      ∀ resized encoded, resizer.Yields bytes resized encoded →
        (world.disk.read input = .ok bytes →
          ∀ disk, world.disk.write output encoded = .ok disk →
            (∃ timings, file.1 = .ok timings) ∧ file.2.disk = disk ∧
            disk.read output = .ok encoded ∧
            ∃ place, world.disk.target output = .ok place ∧
              ∀ other, other ≠ place → disk.entry? other = world.disk.entry? other) ∧
        ∀ sink sink', sink.write encoded = (.ok (), sink') →
          sink'.written = sink.written ++ encoded ∧
          (resizer.resize bytes sink).1.outcome = .ok resized ∧
          (resizer.resize bytes sink).2 = sink' ∧
          (∃ timings, (timed bytes sink).1 = (.ok timings, sink')) ∧
          (timed bytes sink).2.disk = world.disk := by
  intro file timed
  refine ⟨fun cause hread => Resizer.resizeFile_of_unread hread, ?_⟩
  intro bytes
  refine ⟨Resizer.fails_or_yields resizer bytes, ?_, ?_⟩
  · intro fault h
    refine ⟨?_, ?_⟩
    · intro hread
      have hfile : file = _ := Resizer.resizeFile_of_fails hread h
      rw [hfile]
      exact ⟨rfl, rfl⟩
    · intro sink
      have htimed : timed bytes sink = _ := Resizer.resizeTimed_of_fails h
      rw [Resizer.resize_of_fails h, htimed]
      exact ⟨rfl, rfl, rfl, rfl⟩
  · intro resized encoded h
    refine ⟨?_, ?_⟩
    · intro hread disk hwrite
      obtain ⟨timings, hfile⟩ := Resizer.resizeFile_of_yields hread h hwrite
      obtain ⟨hback, place, htarget, -, hothers⟩ := Disk.write_eq_ok hwrite
      exact ⟨⟨timings, congrArg Prod.fst hfile⟩, congrArg (fun result => result.2.disk) hfile,
        hback, place, htarget, hothers⟩
    · intro sink sink' hs
      obtain ⟨timings, htimed⟩ : ∃ timings, timed bytes sink = ((.ok timings, sink'), _) :=
        Resizer.resizeTimed_of_yields h hs
      rw [Resizer.resize_of_yields h hs]
      exact ⟨Sink.written_of_write hs, rfl, rfl, ⟨timings, congrArg Prod.fst htimed⟩,
        congrArg (fun result => result.2.disk) htimed⟩

/-- A dump of two samples is resized in place to its first. One with a sample too few is not, and
neither is one that is missing. -/
theorem resize_entry_points_agree_in_place :
    let resizer : Resizer Rat :=
      ⟨(SourceFormat.dump ⟨2, 1⟩ .gray).decode, RawFormat.dump.encode, Kernel.bilinear,
        { ResizeConfig.default with target := some ⟨1, 1⟩ }, none⟩
    let world : World Rat :=
      ⟨⟨[(["part"], .file ⟨#[55]⟩), (["whole"], .file ⟨#[55, 32, 57]⟩)]⟩, []⟩
    let resized : Image := Image.single .gray ⟨⟨1, 1⟩, #[7], rfl⟩
    let disk : Disk := ⟨[(["part"], .file ⟨#[55]⟩), (["whole"], .file ⟨#[55, 10]⟩)]⟩
    let sink := Sink.empty none
    (world.disk.read "none" = .error .missing ∧
      Task.on (resizer.resizeFile "none" "whole") world =
        (.error (.input "none: No such file or directory (os error 2)"), world)) ∧
    (world.disk.read "part" = .ok ⟨#[55]⟩ ∧
      resizer.Fails ⟨#[55]⟩ (.mismatch (.dump ⟨2, 1⟩) 2 1) ∧
      (Task.on (resizer.resizeFile "part" "whole") world).2.disk = world.disk ∧
      (resizer.resize ⟨#[55]⟩ sink).2 = sink) ∧
    world.disk.read "whole" = .ok ⟨#[55, 32, 57]⟩ ∧
      resizer.Yields ⟨#[55, 32, 57]⟩ resized ⟨#[55, 10]⟩ ∧
      world.disk.write "whole" ⟨#[55, 10]⟩ = .ok disk ∧
      (Task.on (resizer.resizeFile "whole" "whole") world).2.disk = disk ∧
      sink.write ⟨#[55, 10]⟩ = (.ok (), ⟨none, ⟨#[55, 10]⟩⟩) ∧
      (resizer.resize ⟨#[55, 32, 57]⟩ sink).2 = ⟨none, ⟨#[55, 10]⟩⟩ := by
  intro resizer world resized disk sink
  have hmissing : world.disk.read "none" = .error .missing := by cbv
  have hpart : world.disk.read "part" = .ok ⟨#[55]⟩ := by cbv
  have hfails : resizer.Fails ⟨#[55]⟩ (.mismatch (.dump ⟨2, 1⟩) 2 1) := Or.inl (by cbv)
  have hwhole : world.disk.read "whole" = .ok ⟨#[55, 32, 57]⟩ := by cbv
  have hyields : resizer.Yields ⟨#[55, 32, 57]⟩ resized ⟨#[55, 10]⟩ :=
    ⟨Image.single .gray ⟨⟨2, 1⟩, #[7, 9], rfl⟩, by cbv, by cbv, by cbv⟩
  have hwrite : world.disk.write "whole" ⟨#[55, 10]⟩ = .ok disk := by cbv
  have hsink : sink.write ⟨#[55, 10]⟩ = (.ok (), ⟨none, ⟨#[55, 10]⟩⟩) := by cbv
  obtain ⟨hunread, -⟩ := resize_entry_points_agree resizer world "none" "whole"
  obtain ⟨-, hrest⟩ := resize_entry_points_agree resizer world "part" "whole"
  obtain ⟨-, hstop, -⟩ := hrest ⟨#[55]⟩
  obtain ⟨hfile, hsinks⟩ := hstop _ hfails
  obtain ⟨-, hplace⟩ := resize_entry_points_agree resizer world "whole" "whole"
  obtain ⟨-, -, hgive⟩ := hplace ⟨#[55, 32, 57]⟩
  obtain ⟨hdisk, hwritten⟩ := hgive _ _ hyields
  exact ⟨⟨hmissing, hunread _ hmissing⟩, ⟨hpart, hfails, (hfile hpart).2, (hsinks sink).2.1⟩,
    hwhole, hyields, hwrite, (hdisk hwhole disk hwrite).2.1, hsink, (hwritten sink _ hsink).2.2.1⟩

end Planar
