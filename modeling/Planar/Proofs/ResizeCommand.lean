import Planar.Proofs.ChannelDumps
import Planar.Proofs.Loading
import Planar.Proofs.References
import Planar.Proofs.ResizeRuns
import Planar.Proofs.SoundImages
import Planar.Proofs.Steps

/-! Which planes of a resized image a run of the command leaves in the files that it names. -/
namespace Planar.Command

variable {world after : World Float} {options : ResizeOptions}
  {format : SourceFormat} {reference : Option Image} {text : String}
  {timings : Timings} {paths : List String} {resized : Image} {plane : Plane}

/-- The files that a run writes. -/
def ResizeOptions.files (options : ResizeOptions) (resized : Image) : List String :=
  if options.Splits then resized.planes.map (Dump.file (Path.withoutExtension options.output))
  else [options.output]

theorem on_resizeToDumps_eq_ok {resizer : Resizer Float} {input stem : String}
    (h : on (resizeToDumps resizer input stem) world = (.ok (timings, paths), after)) :
    ∃ bytes image resized, world.disk.read input = .ok bytes ∧
      resizer.decode bytes = .ok image ∧ (resizer.resizeImage image).outcome = .ok resized ∧
      Task.on (Dump.writePlanes stem resized.planes)
        (world.logged (resizer.resizeImage image).events) = (.ok paths, after) := by
  obtain ⟨start, first, hstart, h⟩ := on_bind_eq_ok.mp h
  obtain ⟨-, rfl⟩ := Prod.mk.inj (on_lift_eq_ok.mp hstart)
  obtain ⟨bytes, second, hread, h⟩ := on_bind_eq_ok.mp h
  obtain ⟨hbytes, rfl⟩ := on_readAs_eq_ok.mp hread
  obtain ⟨stop, third, hstop, h⟩ := on_bind_eq_ok.mp h
  obtain ⟨-, rfl⟩ := Prod.mk.inj (on_lift_eq_ok.mp hstop)
  obtain ⟨⟨image, decoding⟩, fourth, hdecode, h⟩ := on_bind_eq_ok.mp h
  obtain ⟨-, hdecode⟩ := Task.on_timed_eq_ok.mp (on_bare_eq_ok.mp hdecode)
  obtain ⟨himage, rfl⟩ := Task.on_report_eq_ok.mp hdecode
  obtain ⟨⟨resized, resizing⟩, fifth, hresize, h⟩ := on_bind_eq_ok.mp h
  obtain ⟨-, hresize⟩ := Task.on_timed_eq_ok.mp (on_bare_eq_ok.mp hresize)
  obtain ⟨hresized, rfl⟩ := Task.on_report_eq_ok.mp hresize
  obtain ⟨⟨written, writing⟩, last, hwrite, h⟩ := on_bind_eq_ok.mp h
  obtain ⟨-, hwrite⟩ := Task.on_timed_eq_ok.mp (on_bare_eq_ok.mp hwrite)
  obtain ⟨hsame, rfl⟩ := on_pure_eq_ok.mp h
  cases hsame
  have hdecoded : world.logged (Logged.ofExcept (resizer.decode bytes)).events = world :=
    World.logged_nil
  rw [hdecoded] at hwrite
  exact ⟨bytes, image, resized, hbytes, himage, hresized, hwrite⟩

/-- The layout of what is decoded from inputs of the kind. -/
def InputKind.layout (colour : ColourModel) : InputKind → Layout
  | .text => .single
  | .yuv420 => .yuv420
  | .raster => colour.layout

theorem layout_of_sourceFormat {kind : InputKind} {colour : ColourModel}
    {width height : Option Nat} (h : sourceFormat kind colour width height = .ok format) :
    format.layout = kind.layout colour := by
  unfold sourceFormat at h
  split at h <;> cases h <;> rfl

theorem exists_encode_dump (hw : resized.WellFormed) :
    ∃ encoded, RawFormat.dump.encode resized = .ok encoded := by
  obtain ⟨first, hfirst⟩ := hw.sound.inBounds.first
  rw [RawFormat.encode]
  split
  · rename_i hnil
    rw [hnil] at hfirst
    cases hfirst
  · exact ⟨_, rfl⟩

theorem read_of_parse {args : List String} {found : Bindings}
    (hparse : parse resizeRules args = .ok found) (hoptions : resizeOptions? found = some options) :
    read ("resize" :: args) = .ok (.resize options) := by
  rw [read, readWith]
  refine bind_eq_ok.mpr ⟨found, hparse, ?_⟩
  rw [hoptions]
  rfl

section
variable [PictureDecoder]

/-- References are read and nothing is written. -/
theorem on_loadReference_eq_ok (h : on (loadReference options) world = (.ok reference, after)) :
    world = after := by
  unfold loadReference at h
  split at h
  · exact (on_pure_eq_ok.mp h).2
  · obtain ⟨format, between, hformat, h⟩ := on_bind_eq_ok.mp h
    obtain ⟨-, rfl⟩ := on_except_eq_ok.mp hformat
    obtain ⟨loaded, between, hload, h⟩ := on_bind_eq_ok.mp h
    rw [← (Source.load_eq_ok (on_within_eq_ok.mp hload)).1]
    exact (on_pure_eq_ok.mp h).2

/-- A run that succeeds has written one file, or a dump of each channel. -/
theorem on_resize_eq_ok (h : on (resize options) world = (.ok text, after)) :
    ∃ format reference timings,
      sourceFormat options.kind options.colour options.width options.height = .ok format ∧
      ((options.Splits ∧ ∃ paths,
        on (resizeToDumps (options.resizer format reference) options.input
          (Path.withoutExtension options.output)) world = (.ok (timings, paths), after) ∧
        text = String.join (paths.map options.say) ++ options.table timings) ∨
      (¬ options.Splits ∧
        Task.on ((options.resizer format reference).resizeFile options.input options.output)
          world = (.ok timings, after) ∧
        text = String.join ([options.output].map options.say) ++ options.table timings)) := by
  obtain ⟨format, first, hformat, h⟩ := on_bind_eq_ok.mp h
  obtain ⟨hsource, rfl⟩ := on_except_eq_ok.mp hformat
  obtain ⟨reference, second, hreference, h⟩ := on_bind_eq_ok.mp h
  obtain rfl := on_loadReference_eq_ok hreference
  obtain ⟨⟨timings, paths⟩, third, hwritten, h⟩ := on_bind_eq_ok.mp h
  obtain ⟨rfl, rfl⟩ := on_pure_eq_ok.mp h
  refine ⟨format, reference, timings, hsource, ?_⟩
  by_cases hsplits : options.Splits
  · rw [resizeToFiles, if_pos hsplits] at hwritten
    exact Or.inl ⟨hsplits, paths, hwritten, rfl⟩
  · rw [resizeToFiles, if_neg hsplits] at hwritten
    obtain ⟨timings, fourth, hfile, hpure⟩ := on_bind_eq_ok.mp hwritten
    obtain ⟨hsame, rfl⟩ := on_pure_eq_ok.mp hpure
    cases hsame
    exact Or.inr ⟨hsplits, on_within_eq_ok.mp hfile, rfl⟩

/-- What a run is to write: the decoded input, resized under no reference. -/
def ResizeOptions.Resizes (options : ResizeOptions) (disk : Disk) (resized : Image) : Prop :=
  ∃ format bytes image,
    sourceFormat options.kind options.colour options.width options.height = .ok format ∧
    disk.read options.input = .ok bytes ∧ format.decode bytes = .ok image ∧
    ((options.resizer format none).resizeImage image).outcome = .ok resized

/-- A plane that is read back from one of the files as a dump of its shape. -/
def ReadBack (disk : Disk) (files : List String) (plane : Plane) : Prop :=
  ∃ path ∈ files, ∃ content, disk.read path = .ok content ∧
    Dump.decode plane.grid.shape content = .ok plane.grid

theorem ResizeOptions.Resizes.fits {disk : Disk} (h : options.Resizes disk resized) :
    resized.WellFormed ∧ resized.layout = options.kind.layout options.colour ∧
      resized.Fits options.target ∧ 1 ≤ options.target.width ∧ 1 ≤ options.target.height ∧
      options.target.area < Shape.wordLimit := by
  obtain ⟨format, bytes, image, hsource, -, hdecode, hresize⟩ := h
  obtain ⟨⟨hwidth, hheight, hmax⟩, hw, hlayout, hfits⟩ := Resizer.fits_of_plain
    (options.resizer format none) (SourceFormat.wellFormed_of_decode hdecode) hresize
  obtain ⟨hshort, hlow⟩ := hmax 50000 rfl
  refine ⟨hw, ?_, hfits, hwidth, hheight, ?_⟩
  · rw [hlayout, SourceFormat.layout_of_decode hdecode, layout_of_sourceFormat hsource]
  · exact Nat.lt_of_le_of_lt (Nat.mul_le_mul hshort hlow) (by decide)

theorem ResizeOptions.Resizes.area_lt {disk : Disk} {i : Nat} (h : options.Resizes disk resized)
    (hi : resized.planes[i]? = some plane) : plane.grid.shape.area < Shape.wordLimit := by
  obtain ⟨-, -, ⟨-, hshapes⟩, -, -, harea⟩ := h.fits
  rw [hshapes i plane hi]
  exact Nat.lt_of_le_of_lt (Layout.area_planeShape_le _ _ _) harea

/-- One dump for each channel keeps all planes. -/
theorem readBack_of_writePlanes {disk : Disk} (hresizes : options.Resizes disk resized)
    (hsplits : options.Splits)
    (hwrite : Task.on (Dump.writePlanes (Path.withoutExtension options.output) resized.planes)
      world = (.ok paths, after)) :
    paths = options.files resized ∧ ∀ (i : Nat) (plane : Plane), resized.planes[i]? = some plane →
      ReadBack after.disk (options.files resized) plane := by
  have hfiles : options.files resized =
      resized.planes.map (Dump.file (Path.withoutExtension options.output)) := if_pos hsplits
  obtain ⟨rfl, hdumped⟩ := Dump.on_writePlanes hresizes.fits.1.sound.distinct hwrite
  refine ⟨hfiles.symm, ?_⟩
  intro i plane hi
  have hplane := List.mem_of_getElem? hi
  refine ⟨_, hfiles ▸ List.mem_map_of_mem hplane, _, hdumped.read hplane, ?_⟩
  exact Dump.decode_encode (hresizes.area_lt hi)

theorem eq_zero_of_text {disk : Disk} {i : Nat} (hresizes : options.Resizes disk resized)
    (hkind : options.kind = .text) (hi : resized.planes[i]? = some plane) : i = 0 := by
  obtain ⟨hw, hlayout, -⟩ := hresizes.fits
  obtain ⟨hlt, -⟩ := List.getElem?_eq_some_iff.mp hi
  rw [hw.count, hlayout, hkind] at hlt
  exact Nat.lt_one_iff.mp hlt

/-- Only the first plane has the number of samples that is in a single dump. -/
theorem eq_zero_of_area {disk : Disk} {first : Plane} {i : Nat}
    (hresizes : options.Resizes disk resized) (hkind : options.kind ≠ .raster)
    (hfirst : resized.planes[0]? = some first) (hi : resized.planes[i]? = some plane)
    (harea : plane.grid.shape.area = first.grid.samples.size) : i = 0 := by
  obtain ⟨-, hlayout, ⟨-, hshapes⟩, hwidth, hheight, -⟩ := hresizes.fits
  cases hk : options.kind with
  | raster => exact (hkind hk).elim
  | text => exact eq_zero_of_text hresizes hk hi
  | yuv420 =>
    rw [hk] at hlayout
    have hluma : first.grid.shape = options.target := by
      rw [hshapes 0 first hfirst, hlayout]
      rfl
    by_contra hne
    have hless := Layout.area_chroma_lt (Nat.pos_of_ne_zero hne) hwidth hheight
    rw [first.grid.size_samples, hluma, hshapes i plane hi, hlayout] at harea
    exact absurd harea (Nat.ne_of_lt hless)

/-- A single dump keeps the first plane and no other. -/
theorem readBack_iff_of_write {disk : Disk} {encoded : ByteArray} {i : Nat}
    (hresizes : options.Resizes disk resized) (hkind : options.kind ≠ .raster)
    (hencode : RawFormat.dump.encode resized = .ok encoded)
    (hread : after.disk.read options.output = .ok encoded) (hi : resized.planes[i]? = some plane) :
    ReadBack after.disk (options.files resized) plane ↔ i = 0 := by
  have hfiles : options.files resized = [options.output] := if_neg fun hsplits => hkind hsplits.1
  obtain ⟨first, rest, hplanes⟩ : ∃ first rest, resized.planes = first :: rest := by
    apply List.exists_cons_of_ne_nil
    intro hnil
    rw [hnil] at hi
    cases hi
  have hfirst : resized.planes[0]? = some first := by rw [hplanes]; rfl
  obtain rfl : Dump.encode first.grid = encoded := by
    rw [RawFormat.encode, hplanes] at hencode
    exact Except.ok.inj hencode
  rw [hfiles]
  constructor
  -- A reader checks nothing but the number of samples, and the file has that of the first plane.
  · rintro ⟨path, hpath, content, hcontent, hdecode⟩
    obtain rfl := List.mem_singleton.mp hpath
    obtain rfl := Except.ok.inj (hread.symm.trans hcontent)
    exact eq_zero_of_area hresizes hkind hfirst hi (Dump.samples_of_decode_encode hdecode)
  · rintro rfl
    obtain rfl := Option.some.inj (hfirst.symm.trans hi)
    exact ⟨_, List.mem_singleton_self _, _, hread, Dump.decode_encode (hresizes.area_lt hi)⟩

/-- Frames have chroma, which no single dump keeps. -/
theorem exists_not_readBack {disk disk' : Disk} {files : List String}
    (hresizes : options.Resizes disk resized) (hkind : options.kind = .yuv420)
    (hback : ∀ (i : Nat) (plane : Plane), resized.planes[i]? = some plane →
      (ReadBack disk' files plane ↔ i = 0 ∨ options.kind ≠ .yuv420)) :
    ∃ plane ∈ resized.planes, ¬ ReadBack disk' files plane := by
  obtain ⟨hw, hlayout, -⟩ := hresizes.fits
  have hcount : 1 < resized.planes.length := by
    rw [hw.count, hlayout, hkind]
    exact (by decide : 1 < Layout.yuv420.channels.length)
  refine ⟨resized.planes[1], List.getElem_mem hcount, ?_⟩
  intro hkept
  rcases (hback 1 _ (List.getElem?_eq_getElem hcount)).mp hkept with hzero | hplain
  · cases hzero
  · exact hplain hkind

/-- A run that succeeds has resized its input and named its files, and a plane is in one of these
unless it is chroma of a 4:2:0 frame. -/
theorem readBack_iff_of_resize (hformat : options.outputFormat = .dump)
    (h : on (resize options) world = (.ok text, after)) :
    ∃ resized timings, options.Resizes world.disk resized ∧
      text = String.join ((options.files resized).map options.say) ++ options.table timings ∧
      ∀ (i : Nat) (plane : Plane), resized.planes[i]? = some plane →
        (ReadBack after.disk (options.files resized) plane ↔ i = 0 ∨ options.kind ≠ .yuv420) := by
  obtain ⟨format, reference, timings, hsource, ⟨hsplits, paths, hdumps, htext⟩ |
    ⟨hsplits, hfile, htext⟩⟩ := on_resize_eq_ok h
  · obtain ⟨bytes, image, resized, hread, hdecode, hresize, hwrite⟩ :=
      on_resizeToDumps_eq_ok hdumps
    have hresizes : options.Resizes world.disk resized :=
      ⟨format, bytes, image, hsource, hread, hdecode, Resizer.resizeImage_unwatched hresize⟩
    obtain ⟨rfl, hback⟩ := readBack_of_writePlanes hresizes hsplits hwrite
    refine ⟨resized, timings, hresizes, htext, ?_⟩
    intro i plane hi
    have hkind : options.kind ≠ .yuv420 := by
      rw [hsplits.1]
      decide
    exact iff_of_true (hback i plane hi) (Or.inr hkind)
  · have hkind : options.kind ≠ .raster := fun hkind => hsplits ⟨hkind, hformat⟩
    obtain ⟨bytes, resized, encoded, hread, ⟨image, hdecode, hresize, hencode⟩, hwrite⟩ :=
      Resizer.resizeFile_eq_ok hfile
    have hresizes : options.Resizes world.disk resized :=
      ⟨format, bytes, image, hsource, hread, hdecode, Resizer.resizeImage_unwatched hresize⟩
    have hfiles : options.files resized = [options.output] := if_neg hsplits
    refine ⟨resized, timings, hresizes, hfiles ▸ htext, ?_⟩
    intro i plane hi
    have hdump : RawFormat.dump.encode resized = .ok encoded := hformat ▸ hencode
    rw [readBack_iff_of_write hresizes hkind hdump (Disk.write_eq_ok hwrite).1 hi]
    constructor
    · exact Or.inl
    · rintro (hzero | hplain)
      · exact hzero
      · have htextual : options.kind = .text := by
          cases hk : options.kind with
          | text => rfl
          | yuv420 => exact (hplain hk).elim
          | raster => exact (hkind hk).elim
        exact eq_zero_of_text hresizes htextual hi

theorem runOn_of_resize {args : List String} (hargs : read args = .ok (.resize options)) :
    runOn args world =
      (Output.ofStep (on (resize options) world).1, (on (resize options) world).2) := by
  unfold runOn run
  rw [hargs]
  rfl

/-- Raw input is resized into one file if there is nothing to hold it against. -/
theorem on_resize_of_write {bytes encoded : ByteArray} {disk : Disk}
    (hsource : sourceFormat options.kind options.colour options.width options.height = .ok format)
    (hreference : options.reference = none) (hsplits : ¬ options.Splits)
    (hread : world.disk.read options.input = .ok bytes)
    (hyields : (options.resizer format none).Yields bytes resized encoded)
    (hwrite : world.disk.write options.output encoded = .ok disk) :
    ∃ timings, on (resize options) world =
      (.ok (String.join ((options.files resized).map options.say) ++ options.table timings),
        { world.logged ((options.resizer format none).process bytes).events with disk }) := by
  obtain ⟨timings, hfile⟩ := Resizer.resizeFile_of_yields hread hyields hwrite
  have hload : on (loadReference options) world = (.ok none, world) := by
    rw [loadReference, hreference]
    rfl
  refine ⟨timings, on_bind_eq_ok.mpr ⟨format, world, on_except_eq_ok.mpr ⟨hsource, rfl⟩,
    on_bind_eq_ok.mpr ⟨none, world, hload, on_bind_eq_ok.mpr ⟨(timings, [options.output]), _, ?_,
      on_pure_eq_ok.mpr ⟨?_, rfl⟩⟩⟩⟩⟩
  · rw [resizeToFiles, if_neg hsplits]
    exact on_bind_eq_ok.mpr ⟨timings, _, on_within_eq_ok.mpr hfile, on_pure_eq_ok.mpr ⟨rfl, rfl⟩⟩
  · rw [ResizeOptions.files, if_neg hsplits]

theorem on_resize_of_code {args : List String} (hargs : read args = .ok (.resize options))
    (hcode : (runOn args world).1.code = 0) :
    ∃ text, on (resize options) world = (.ok text, (runOn args world).2) ∧
      (runOn args world).1 = ⟨0, text, ""⟩ := by
  rw [runOn_of_resize hargs] at hcode ⊢
  obtain ⟨text, htext, houtput⟩ := code_ofStep_eq_zero.mp hcode
  exact ⟨text, Prod.ext htext rfl, houtput⟩

/-- Samples in every plane, an allowed target and a place for the file are all that takes. -/
theorem code_of_samples {args : List String} {bytes : ByteArray} {image : Image} {place : Place}
    (hargs : read args = .ok (.resize options)) (hformat : options.outputFormat = .dump)
    (hkind : options.kind ≠ .raster) (hreference : options.reference = none)
    (hsource : sourceFormat options.kind options.colour options.width options.height = .ok format)
    (hread : world.disk.read options.input = .ok bytes) (hdecode : format.decode bytes = .ok image)
    (hsamples : ∀ plane ∈ image.planes, plane.grid.samples ≠ #[])
    (hallows : (options.resizer format none).config.Allows options.target)
    (hplace : world.disk.target options.output = .ok place) :
    (runOn args world).1.code = 0 := by
  obtain ⟨resized, hresize⟩ := Resizer.resizeImage_of_samples (options.resizer format none)
    (SourceFormat.wellFormed_of_decode hdecode) hallows hsamples
  obtain ⟨encoded, hencode⟩ := exists_encode_dump (Resizer.wellFormed_of_resizeImage hresize)
  have hyields : (options.resizer format none).Yields bytes resized encoded :=
    ⟨image, hdecode, hresize, by rw [ResizeOptions.resizer, hformat]; exact hencode⟩
  have hwrite : world.disk.write options.output encoded =
      .ok (world.disk.insert place (.file encoded)) := bind_eq_ok.mpr ⟨place, hplace, rfl⟩
  obtain ⟨timings, hon⟩ := on_resize_of_write hsource hreference
    (fun hsplits => hkind hsplits.1) hread hyields hwrite
  rw [runOn_of_resize hargs, hon]
  rfl

/-- Text output keeps every plane exactly when the input is no 4:2:0 frame. Of a frame it keeps the
luma alone. -/
theorem resize_keeps_planes_iff {args : List String} (hargs : read args = .ok (.resize options))
    (hformat : options.outputFormat = .dump) (hcode : (runOn args world).1.code = 0) :
    let ended := runOn args world
    ∃ resized timings, options.Resizes world.disk resized ∧
      ended.1.stdout = String.join ((options.files resized).map options.say) ++
        options.table timings ∧
      (∀ (i : Nat) (plane : Plane), resized.planes[i]? = some plane →
        (ReadBack ended.2.disk (options.files resized) plane ↔ i = 0 ∨ options.kind ≠ .yuv420)) ∧
      ((∀ plane ∈ resized.planes, ReadBack ended.2.disk (options.files resized) plane) ↔
        options.kind ≠ .yuv420) := by
  intro ended
  obtain ⟨text, hresize, houtput⟩ := on_resize_of_code hargs hcode
  obtain ⟨resized, timings, hresizes, hsaid, hback⟩ := readBack_iff_of_resize hformat hresize
  have hstdout : ended.1.stdout = text := congrArg Output.stdout houtput
  refine ⟨resized, timings, hresizes, hstdout.trans hsaid, hback, ?_⟩
  constructor
  · intro hall hkind
    obtain ⟨plane, hplane, hlost⟩ := exists_not_readBack hresizes hkind hback
    exact hlost (hall plane hplane)
  · intro hkind plane hplane
    obtain ⟨i, hi⟩ := List.mem_iff_getElem?.mp hplane
    exact (hback i plane hi).mpr (Or.inr hkind)

end

/-- A row of two samples is reduced to one, which is in the file that the run names. -/
theorem resize_keeps_planes_iff_row :
    let args := ["resize", "--input", "row", "--width", "2", "--height", "1", "--out-width", "1",
      "--out-height", "1", "--output", "out"]
    let options : ResizeOptions := ⟨"row", .text, some 2, some 1, .rgb, ⟨1, 1⟩, "out", .dump, none,
      Divergence.defaultThreshold, false⟩
    let world : World Float := ⟨⟨[(["row"], .file ⟨#[55, 32, 57]⟩)]⟩, []⟩
    let ended := runOn args world
    (read args = .ok (.resize options) ∧ options.outputFormat = .dump ∧ ended.1.code = 0) ∧
      ∃ resized, options.Resizes world.disk resized ∧
        ∀ plane ∈ resized.planes, ReadBack ended.2.disk ["out"] plane := by
  intro args options world ended
  have hparse : parse resizeRules args.tail = .ok [("input", "row"), ("width", "2"),
      ("height", "1"), ("out-width", "1"), ("out-height", "1"), ("output", "out")] := by cbv
  have hargs : read args = .ok (.resize options) := read_of_parse hparse rfl
  have hread : world.disk.read "row" = .ok ⟨#[55, 32, 57]⟩ := by cbv
  have hdecode : (SourceFormat.dump ⟨2, 1⟩ .gray).decode ⟨#[55, 32, 57]⟩ =
      .ok (Image.single .gray ⟨⟨2, 1⟩, #[7, 9], rfl⟩) := by cbv
  have hplace : world.disk.target "out" = .ok ["out"] := by cbv
  have hallows : (options.resizer (.dump ⟨2, 1⟩ .gray) none).config.Allows ⟨1, 1⟩ :=
    ResizeConfig.allows_of_maxSide rfl (by decide) (by decide)
  have hcode : ended.1.code = 0 := code_of_samples hargs rfl (by decide : InputKind.text ≠ .raster)
    rfl rfl hread hdecode (by decide) hallows hplace
  obtain ⟨resized, -, hresizes, -, -, hback⟩ := resize_keeps_planes_iff hargs rfl hcode
  exact ⟨⟨hargs, rfl, hcode⟩, resized, hresizes, hback.mpr (by decide : InputKind.text ≠ .yuv420)⟩

/-- A frame of two rows is kept at its size. The run names one file and ends with zero, and chroma
is in no such file. -/
theorem resize_loses_chroma :
    let args := ["resize", "--input", "frame", "--format", "yuv420", "--width", "2", "--height",
      "2", "--out-width", "2", "--out-height", "2", "--output", "out"]
    let options : ResizeOptions := ⟨"frame", .yuv420, some 2, some 2, .rgb, ⟨2, 2⟩, "out", .dump,
      none, Divergence.defaultThreshold, false⟩
    let world : World Float := ⟨⟨[(["frame"], .file ⟨#[1, 2, 3, 4, 5, 6]⟩)]⟩, []⟩
    let ended := runOn args world
    read args = .ok (.resize options) ∧ options.outputFormat = .dump ∧
      ended.1 = ⟨0, "Resized image written to out\n", ""⟩ ∧
      ∃ resized, options.Resizes world.disk resized ∧
        ∃ plane ∈ resized.planes, ¬ ReadBack ended.2.disk ["out"] plane := by
  intro args options world ended
  have hparse : parse resizeRules args.tail = .ok [("input", "frame"), ("format", "yuv420"),
      ("width", "2"), ("height", "2"), ("out-width", "2"), ("out-height", "2"),
      ("output", "out")] := by cbv
  have hargs : read args = .ok (.resize options) := read_of_parse hparse rfl
  have hread : world.disk.read "frame" = .ok ⟨#[1, 2, 3, 4, 5, 6]⟩ := by cbv
  have hdecode : (SourceFormat.frame ⟨2, 2⟩).decode ⟨#[1, 2, 3, 4, 5, 6]⟩ =
      .ok (Frame.ofPlanes ⟨2, 2⟩ ⟨⟨2, 2⟩, #[1, 2, 3, 4], rfl⟩ ⟨⟨1, 1⟩, #[5], rfl⟩
        ⟨⟨1, 1⟩, #[6], rfl⟩) := by cbv
  have hplace : world.disk.target "out" = .ok ["out"] := by cbv
  have hallows : (options.resizer (.frame ⟨2, 2⟩) none).config.Allows ⟨2, 2⟩ :=
    ResizeConfig.allows_of_maxSide rfl (by decide) (by decide)
  have hcode : ended.1.code = 0 := code_of_samples hargs rfl
    (by decide : InputKind.yuv420 ≠ .raster) rfl rfl hread hdecode (by decide) hallows hplace
  obtain ⟨text, hresize, houtput⟩ := on_resize_of_code hargs hcode
  obtain ⟨resized, timings, hresizes, hsaid, hback⟩ := readBack_iff_of_resize rfl hresize
  have hsaid : text = "Resized image written to out\n" := hsaid
  refine ⟨hargs, rfl, hsaid ▸ houtput, resized, hresizes,
    exists_not_readBack hresizes rfl hback⟩

end Planar.Command
