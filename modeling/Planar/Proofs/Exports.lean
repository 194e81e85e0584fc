import Planar.Proofs.ChannelDumps
import Planar.Proofs.SoundImages

/-! Exports of all channels of an image, read back from the files they were written to. -/
namespace Planar

variable {α : Type} {stem : String} {planes : List Plane} {paths : List String}
  {world after : World α} {place : Place}

/-- A plain name is free for a file unless a folder of the root has it. -/
theorem Disk.target_of_name {disk : Disk} {name : String} (hslash : '/' ∉ name.toList)
    (hnul : '\x00' ∉ name.toList) (hname : Named name)
    (hfree : disk.entry? [name] ≠ some .folder) : disk.target name = .ok [name] := by
  have hshort : name.utf8ByteSize ≤ pathLimit := hname.2.2.2.trans (by decide)
  have hparts : lookupParts name = .ok ([] ++ [name]) := by
    rw [lookupParts_of_short hnul hshort hname.1, Path.parts_of_name hslash]
    rfl
  exact target_of_folder hparts (findFolder_iff.mpr ⟨rfl, rfl⟩) hname hfree

/-- A file can be written where it could be before another one was. -/
theorem Disk.target_of_insert {disk : Disk} {path path' : String} {place' : Place}
    {content : ByteArray} (h : disk.target path = .ok place)
    (hother : disk.target path' = .ok place') :
    Disk.target (disk.insert place' (.file content)) path = .ok place := by
  obtain ⟨parts, home, name, hparts, hwalk, hhome, hname, rfl, hfree⟩ := target_eq_ok h
  have hextends : disk.Extends (disk.insert place' (.file content)) [place'] :=
    insert_target_extends hother
  exact target_of_folder hparts
    (findFolder_of_extends (findFolder_iff.mpr ⟨hwalk, hhome⟩) hextends) hname
    (entry?_insert_file_ne_folder hfree)

theorem Task.entry?_ne_folder_of_writeOutput {path : String} {content : ByteArray}
    (h : on (writeOutput path content) world = (.ok (), after))
    (hplace : world.disk.entry? place ≠ some .folder) :
    after.disk.entry? place ≠ some .folder := by
  rw [on_writeOutput] at h
  split at h
  · rename_i disk hwrite
    cases h
    obtain ⟨target, -, hwritten⟩ := bind_eq_ok.mp hwrite
    cases hwritten
    exact Disk.entry?_insert_file_ne_folder hplace
  · cases h

namespace Dump

/-- An export succeeds where every dump can be written. -/
theorem on_writePlanes_of_targets
    (h : ∀ plane ∈ planes, ∃ place, world.disk.target (file stem plane) = .ok place) :
    ∃ after, Task.on (writePlanes stem planes) world = (.ok (planes.map (file stem)), after) := by
  induction planes generalizing world with
  | nil => exact ⟨world, rfl⟩
  | cons plane planes ih =>
    obtain ⟨place, hplace⟩ := h plane List.mem_cons_self
    have hwritten : world.disk.write (file stem plane) (encode plane.grid) =
        .ok (world.disk.insert place (.file (encode plane.grid))) :=
      bind_eq_ok.mpr ⟨place, hplace, rfl⟩
    obtain ⟨next, hnext⟩ : ∃ next : World α,
        next = ⟨world.disk.insert place (.file (encode plane.grid)), world.events⟩ := ⟨_, rfl⟩
    have hwrite : Task.on (Task.writeOutput (file stem plane) (encode plane.grid)) world =
        (.ok (), next) := by
      rw [Task.on_writeOutput, hwritten, hnext]
    have hlater : ∀ other ∈ planes, ∃ place, next.disk.target (file stem other) = .ok place := by
      intro other hother
      obtain ⟨place', hplace'⟩ := h other (List.mem_cons_of_mem plane hother)
      exact ⟨place', hnext ▸ Disk.target_of_insert hplace' hplace⟩
    obtain ⟨after, hrest⟩ := ih hlater
    exact ⟨after, Task.on_bind_eq_ok.mpr ⟨(), next, hwrite,
      Task.on_bind_eq_ok.mpr ⟨_, after, hrest, rfl⟩⟩⟩

theorem entry?_ne_folder_of_writePlanes
    (h : Task.on (writePlanes stem planes) world = (.ok paths, after))
    (hplace : world.disk.entry? place ≠ some .folder) :
    after.disk.entry? place ≠ some .folder := by
  induction planes generalizing world paths with
  | nil =>
    cases h
    exact hplace
  | cons plane planes ih =>
    obtain ⟨⟨⟩, written, hwrite, h⟩ := Task.on_bind_eq_ok.mp h
    obtain ⟨rest, last, hrest, h⟩ := Task.on_bind_eq_ok.mp h
    cases h
    exact ih hrest (Task.entry?_ne_folder_of_writeOutput hwrite hplace)

/-- An export changes what its paths lead to and nothing else. -/
theorem entry?_of_writePlanes (hchannels : (planes.map Plane.channel).Nodup)
    (h : Task.on (writePlanes stem planes) world = (.ok paths, after))
    (hplace : ∀ path ∈ paths, ¬ after.disk.Leads path place) :
    after.disk.entry? place = world.disk.entry? place := by
  obtain ⟨rfl, hdumped⟩ := on_writePlanes hchannels h
  obtain ⟨places, hextends, hleads⟩ := hdumped.places
  have houtside : place ∉ places := by
    intro hmem
    obtain ⟨plane, hplane, hlead⟩ := hleads place hmem
    exact hplace _ (List.mem_map_of_mem hplane) hlead
  rcases hextends.elsewhere place houtside with hsame | ⟨hnone, hfolder⟩
  · exact hsame
  · have hfree : world.disk.entry? place ≠ some .folder := by
      rw [hnone]
      exact nofun
    exact (entry?_ne_folder_of_writePlanes h hfree hfolder).elim

theorem nodup_files (hchannels : (planes.map Plane.channel).Nodup) :
    (planes.map (file stem)).Nodup := by
  have hinjective : Function.Injective fun channel : Channel => path stem channel.letter := by
    intro c d hpath
    simp only [path_letter] at hpath
    exact suffix_injective (String.append_right_inj .. |>.mp hpath)
  have hfiles : planes.map (file stem) =
      (planes.map Plane.channel).map fun channel => path stem channel.letter := by
    rw [List.map_map]
    rfl
  rw [hfiles]
  exact hchannels.map hinjective

end Dump

/-- An export that succeeds gives one path for each plane, in order and no two of them the same.
From each the plane is read back under any channel, and nothing changed but the files at these
paths. Planes have fewer samples than the word limit. -/
theorem writePlanes_read_back [PictureDecoder] {α : Type} (image : Image) (stem : String)
    (paths : List String) (world after : World α) (hw : image.WellFormed)
    (hsize : ∀ plane ∈ image.planes, plane.grid.samples.size < Shape.wordLimit)
    (h : Task.on (Dump.writePlanes stem image.planes) world = (.ok paths, after)) :
    paths = image.planes.map (fun plane => Dump.path stem plane.channel.letter) ∧ paths.Nodup ∧
      (∀ (i : Nat) (plane : Plane), image.planes[i]? = some plane → ∃ path bytes,
        paths[i]? = some path ∧ after.disk.read path = .ok bytes ∧ ∀ channel,
          (SourceFormat.dump plane.grid.shape channel).decode bytes =
            .ok (Image.single channel plane.grid)) ∧
      (∀ place, (∀ path ∈ paths, ¬ after.disk.Leads path place) →
        after.disk.entry? place = world.disk.entry? place) ∧
      after.events = world.events := by
  have hchannels := hw.sound.distinct
  obtain ⟨hpaths, hdumped⟩ := Dump.on_writePlanes hchannels h
  refine ⟨hpaths, hpaths ▸ Dump.nodup_files hchannels, ?_, ?_, hdumped.events⟩
  · intro i plane hi
    have hplane := List.mem_of_getElem? hi
    have harea : plane.grid.shape.area < Shape.wordLimit :=
      plane.grid.size_samples ▸ hsize plane hplane
    refine ⟨_, _, ?_, hdumped.read hplane, ?_⟩
    · rw [hpaths, List.getElem?_map, hi]
      rfl
    · intro channel
      exact decode_dump_eq_ok.mpr ⟨plane.grid, Dump.decode_encode harea, rfl⟩
  · intro place hplace
    exact Dump.entry?_of_writePlanes hchannels h hplace

/-- The chroma of a frame of one column has no samples, and is read back from files that are
empty. -/
theorem writePlanes_read_back_column :
    let column : Image := ⟨⟨1, 2⟩, .yuv420, [⟨.y, ⟨⟨1, 2⟩, #[7, 9], rfl⟩⟩,
      ⟨.cb, ⟨⟨0, 1⟩, #[], rfl⟩⟩, ⟨.cr, ⟨⟨0, 1⟩, #[], rfl⟩⟩]⟩
    let world : World Float := ⟨⟨[(["a_V_channel.txt"], .file ⟨#[49, 10]⟩)]⟩, []⟩
    ∃ paths after, (column.WellFormed ∧
      (∀ plane ∈ column.planes, plane.grid.samples.size < Shape.wordLimit) ∧
      Task.on (Dump.writePlanes "a" column.planes) world = (.ok paths, after)) ∧
      paths = ["a_Y_channel.txt", "a_U_channel.txt", "a_V_channel.txt"] ∧
      ∃ bytes, after.disk.read "a_V_channel.txt" = .ok bytes ∧
        (SourceFormat.dump ⟨0, 1⟩ .gray).decode bytes =
          .ok (.single .gray ⟨⟨0, 1⟩, #[], rfl⟩) := by
  intro column world
  have hassemble : Image.assemble ⟨1, 2⟩ .yuv420 [⟨⟨1, 2⟩, #[7, 9], rfl⟩, ⟨⟨0, 1⟩, #[], rfl⟩,
      ⟨⟨0, 1⟩, #[], rfl⟩] = .ok column := by decide
  have hw : column.WellFormed := Image.wellFormed_of_assemble hassemble
  have hsize : ∀ plane ∈ column.planes, plane.grid.samples.size < Shape.wordLimit := by decide
  have htargets : ∀ plane ∈ column.planes, ∃ place,
      world.disk.target (Dump.file "a" plane) = .ok place := by
    have hnames : ∀ channel ∈ [Channel.y, .cb, .cr], let name := Dump.path "a" channel.letter
        '/' ∉ name.toList ∧ '\x00' ∉ name.toList ∧ Disk.Named name ∧
          world.disk.entry? [name] ≠ some .folder := by decide +kernel
    intro plane hplane
    have hchannel : plane.channel ∈ [Channel.y, .cb, .cr] := List.mem_map_of_mem hplane
    obtain ⟨hslash, hnul, hname, hfree⟩ := hnames plane.channel hchannel
    exact ⟨_, Disk.target_of_name hslash hnul hname hfree⟩
  obtain ⟨after, h⟩ := Dump.on_writePlanes_of_targets htargets
  obtain ⟨-, -, hback, -⟩ := writePlanes_read_back column "a" _ world after hw hsize h
  obtain ⟨path, bytes, hpath, hread, hdecode⟩ := hback 2 ⟨.cr, ⟨⟨0, 1⟩, #[], rfl⟩⟩ rfl
  obtain rfl := Option.some.inj hpath
  exact ⟨_, after, ⟨hw, hsize, h⟩, rfl, bytes, hread, hdecode .gray⟩

end Planar
