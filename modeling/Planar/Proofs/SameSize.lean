import Planar.Proofs.Bilinear
import Planar.Proofs.Dump
import Planar.Proofs.Loading
import Planar.Proofs.ResizeRuns

/-! Resizing an image to the size it has. In exact arithmetic nothing changes. -/
namespace Planar

variable {resizer : Resizer Rat} {image : Image} {shape : Shape} {bytes encoded : ByteArray}

/-- The shape is its own target. -/
def ResizeConfig.Keeps {α : Type} (config : ResizeConfig α) (shape : Shape) : Prop :=
  config.target = none ∨ config.target = some shape

theorem ResizeConfig.Keeps.targetFor {α : Type} {config : ResizeConfig α}
    (h : config.Keeps shape) : config.targetFor shape = shape := by
  rcases h with h | h <;> simp [ResizeConfig.targetFor, h]

/-- Resampled to its own shape, a plane is what it was, also when it has no samples. -/
theorem Resampled.eq_of_shape {source result : Grid UInt8}
    (h : Resampled Rat source source.shape result) : result = source := by
  unfold Resampled at h
  split at h
  · rename_i hempty
    exact Grid.eq_of_samples h.1 (h.2.trans (Grid.samples_eq_empty hempty).symm)
  · rename_i hsides
    obtain ⟨g, hg, rfl⟩ := h
    have hsides : 0 < (source.toScalar : Grid Rat).height ∧
        0 < (source.toScalar : Grid Rat).width := by
      change 0 < source.shape.height ∧ 0 < source.shape.width
      omega
    have hself : bilinear (source.toScalar : Grid Rat) source.shape = .ok source.toScalar :=
      bilinear_self hsides
    obtain rfl := Except.ok.inj (hg.symm.trans hself)
    exact Grid.quantize_toScalar source

/-- A plane of the share's own shape can always fill it. -/
theorem fillable_of_shape {source : Grid UInt8} {share : Shape} (h : source.shape = share) :
    Fillable share source := by
  subst h
  by_cases hsamples : source.samples = #[]
  · left
    have harea : source.shape.area = 0 := by
      rw [← source.size_samples, hsamples]
      rfl
    exact Shape.area_eq_zero.mp harea
  · exact Or.inr hsamples

/-- Planes tagged with their own channels again. -/
theorem Image.zipWith_channel {planes : List Plane} {grids : List (Grid UInt8)}
    (h : ∀ (i : Nat) (plane : Plane), planes[i]? = some plane → grids[i]? = some plane.grid) :
    List.zipWith Plane.mk (planes.map Plane.channel) grids = planes := by
  apply List.ext_getElem?
  intro i
  cases hi : planes[i]? with
  | none => simp [List.getElem?_zipWith, hi]
  | some plane => simp [List.getElem?_zipWith, hi, h i plane hi]

namespace Resizer

theorem resizeImage_of_keeps (resizer : Resizer Rat) (hw : image.WellFormed)
    (ha : resizer.config.Allows image.shape) (hk : resizer.config.Keeps image.shape) :
    (resizer.plain.resizeImage image).outcome = .ok image := by
  have hcases := resizeImage_cases resizer hw
  simp only [hk.targetFor] at hcases
  rcases hcases with ⟨hn, -⟩ | ⟨-, i, plane, hi, hn, -⟩ | ⟨-, -, grids, -, hout, hgrids⟩
  · exact (hn ha).elim
  · exact (hn (fillable_of_shape (hw.shapes i plane hi))).elim
  · have hsame : List.zipWith Plane.mk (image.planes.map Plane.channel) grids = image.planes := by
      apply Image.zipWith_channel
      intro i plane hi
      obtain ⟨grid, hgrid, hres⟩ := hgrids i plane hi
      rw [← hw.shapes i plane hi] at hres
      rw [hgrid, hres.eq_of_shape]
    rw [hout, hsame]

/-- The same resizer without a reference, from files of one format to files of another. -/
def between [PictureDecoder] (resizer : Resizer Rat) (source : SourceFormat) (target : RawFormat) :
    Resizer Rat :=
  { resizer.plain with decode := source.decode, encode := target.encode }

/-- What the stages yield goes to the sink, byte for byte. -/
theorem written_of_yields (h : resizer.Yields bytes image encoded) :
    (resizer.process bytes).outcome = .ok (image, encoded) ∧
      (resizer.resize bytes (Sink.empty none)).2.written = encoded := by
  refine ⟨process_of_yields h, ?_⟩
  have hwrite : (Sink.empty none).write encoded = (.ok (), ⟨none, .empty ++ encoded⟩) := rfl
  rw [resize_of_yields h hwrite, ByteArray.empty_append]

end Resizer

/-- Resized to the size it has, an image comes back with every plane as it was. So a frame is
written back byte for byte, and a dump as the one that is written for its samples. -/
theorem same_size_exact [PictureDecoder] (resizer : Resizer Rat)
    (ha : resizer.config.Allows shape) (hk : resizer.config.Keeps shape) :
    (∀ image : Image, image.WellFormed → image.shape = shape →
      (resizer.plain.resizeImage image).outcome = .ok image) ∧
    (∀ bytes image, (SourceFormat.frame shape).decode bytes = .ok image →
      let frames := resizer.between (.frame shape) .frame
      (frames.process bytes).outcome = .ok (image, bytes) ∧
        (frames.resize bytes (Sink.empty none)).2.written = bytes) ∧
    ∀ channel bytes grid, Dump.decode shape bytes = .ok grid →
      let dumps := resizer.between (.dump shape channel) .dump
      (dumps.process bytes).outcome = .ok (Image.single channel grid, Dump.encode grid) ∧
        (dumps.resize bytes (Sink.empty none)).2.written = Dump.encode grid := by
  refine ⟨?_, ?_, ?_⟩
  · rintro image hw rfl
    exact resizer.resizeImage_of_keeps hw ha hk
  · intro bytes image hdecode
    obtain ⟨-, y, cb, cr, -, -, himage⟩ := Frame.decode_eq_ok.mp hdecode
    obtain rfl : image.shape = shape := congrArg Image.shape himage
    apply Resizer.written_of_yields
    refine ⟨image, hdecode, ?_, Frame.encode_of_decode hdecode⟩
    exact (resizer.between (.frame image.shape) .frame).resizeImage_of_keeps
      (Frame.wellFormed_of_decode hdecode) ha hk
  · intro channel bytes grid hdecode
    obtain rfl := (Dump.decode_shape hdecode).2
    apply Resizer.written_of_yields
    refine ⟨Image.single channel grid, decode_dump_eq_ok.mpr ⟨grid, hdecode, rfl⟩, ?_, rfl⟩
    exact (resizer.between (.dump grid.shape channel) .dump).resizeImage_of_keeps
      (Image.wellFormed_single channel grid) ha hk

/-- One row of three samples, whose frame has no chroma bytes, and a dump with odd blanks. -/
theorem same_size_exact_row :
    let resizer : Resizer Rat :=
      ⟨Frame.decode ⟨3, 1⟩, Frame.encode, Kernel.bilinear, ResizeConfig.default, none⟩
    let image : Image := ⟨⟨3, 1⟩, .yuv420, [⟨.y, ⟨⟨3, 1⟩, #[10, 20, 30], rfl⟩⟩,
      ⟨.cb, ⟨⟨1, 0⟩, #[], rfl⟩⟩, ⟨.cr, ⟨⟨1, 0⟩, #[], rfl⟩⟩]⟩
    let grid : Grid UInt8 := ⟨⟨3, 1⟩, #[10, 20, 30], rfl⟩
    (resizer.config.Allows ⟨3, 1⟩ ∧ resizer.config.Keeps ⟨3, 1⟩ ∧ image.WellFormed ∧
      (SourceFormat.frame ⟨3, 1⟩).decode ⟨#[10, 20, 30]⟩ = .ok image ∧
      Dump.decode ⟨3, 1⟩ "10\n20 +30".toUTF8 = .ok grid) ∧
    (resizer.plain.resizeImage image).outcome = .ok image ∧
    ((resizer.between (.frame ⟨3, 1⟩) .frame).resize ⟨#[10, 20, 30]⟩
      (Sink.empty none)).2.written = ⟨#[10, 20, 30]⟩ ∧
    ((resizer.between (.dump ⟨3, 1⟩ .gray) .dump).resize "10\n20 +30".toUTF8
      (Sink.empty none)).2.written = Dump.encode grid := by
  intro resizer image grid
  have ha : resizer.config.Allows ⟨3, 1⟩ :=
    ResizeConfig.allows_of_maxSide rfl (by decide) (by decide)
  have hk : resizer.config.Keeps ⟨3, 1⟩ := Or.inl rfl
  have hframe : (SourceFormat.frame ⟨3, 1⟩).decode ⟨#[10, 20, 30]⟩ = .ok image := by cbv
  have hdump : Dump.decode ⟨3, 1⟩ "10\n20 +30".toUTF8 = .ok grid := by cbv
  have hw : image.WellFormed := Frame.wellFormed_of_decode hframe
  obtain ⟨himage, hframes, hdumps⟩ := same_size_exact resizer ha hk
  exact ⟨⟨ha, hk, hw, hframe, hdump⟩, himage image hw rfl, (hframes _ image hframe).2,
    (hdumps .gray _ grid hdump).2⟩

end Planar
