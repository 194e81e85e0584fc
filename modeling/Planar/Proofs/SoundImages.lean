import Planar.Proofs.Loading
import Planar.Proofs.ResizeShapes

/-! Images are sound wherever they come from, so what is read of them without a check is there. -/
namespace Planar

variable {image : Image} {plane : Plane}

namespace Image

/-- Well-formed, every channel once, and in every plane as many samples as its sides ask for. -/
structure Sound (image : Image) : Prop extends image.WellFormed where
  distinct : (image.planes.map Plane.channel).Nodup
  buffers : ∀ plane ∈ image.planes,
    plane.grid.samples.size = plane.grid.width * plane.grid.height

/-- There is a first plane, and every row of every plane is a slice of its samples as wide as the
plane. The rows hold all samples. -/
structure InBounds (image : Image) : Prop where
  first : ∃ plane, image.planes[0]? = some plane
  slices : ∀ plane ∈ image.planes, ∀ row < plane.grid.height,
    ∃ samples, plane.grid.row? row = some samples ∧ samples.size = plane.grid.width
  rows : ∀ plane ∈ image.planes,
    (plane.grid.rows.map Array.toList).flatten = plane.grid.samples.toList ∧
      ∀ row ∈ plane.grid.rows, row.size = plane.grid.width

theorem WellFormed.sound (hw : image.WellFormed) : image.Sound where
  toWellFormed := hw
  distinct := by
    by_cases hl : image.layout = .single
    · have hcount := hw.count
      rw [hl] at hcount
      obtain ⟨plane, hplanes⟩ := List.length_eq_one_iff.mp hcount
      simp [hplanes]
    · rw [hw.channels hl]
      cases image.layout <;> decide
  buffers plane _ := plane.grid.size_samples

theorem Sound.inBounds (hs : image.Sound) : image.InBounds where
  first := by
    have hsome : 0 < image.planes.length := by
      rw [hs.count]
      cases image.layout <;> decide
    exact ⟨_, List.getElem?_eq_getElem hsome⟩
  slices _ _ _ hrow := Grid.row?_of_lt hrow
  rows plane _ := ⟨plane.grid.flatten_rows, fun _ hrow => Grid.size_of_mem_rows hrow⟩

section
variable [PictureDecoder]

/-- Where images come from: grids put together or one grid tagged, bytes in any format, files, and
resizes of sound images by any kernel. -/
inductive Produced : Image → Prop
  | assembled {shape : Shape} {layout : Layout} {parts : List (Shape × Array UInt8)}
      {grids : List (Grid UInt8)} {image : Image}
      (hgrids : parts.mapM (fun part => Grid.ofArray part.1 part.2) = .ok grids)
      (h : assemble shape layout grids = .ok image) : Produced image
  | tagged {shape : Shape} {samples : Array UInt8} {grid : Grid UInt8} {channel : Channel}
      (hgrid : Grid.ofArray shape samples = .ok grid) : Produced (single channel grid)
  | read {format : SourceFormat} {bytes : ByteArray} {image : Image}
      (h : format.decode bytes = .ok image) : Produced image
  | pictured {model : ColourModel} {declared : Option Shape} {bytes : ByteArray} {image : Image}
      (h : Raster.decode model declared bytes = .ok image) : Produced image
  | loaded {α : Type} {world after : World α} {source : Source} {labelled : Labelled}
      (h : Task.on source.load world = (.ok labelled, after)) : Produced labelled.image
  | resized {α : Type} [Scalar α] {resizer : Resizer α} {image result : Image}
      (hs : image.Sound) (h : (resizer.resizeImage image).outcome = .ok result) : Produced result

end

end Image

theorem Image.Produced.wellFormed [PictureDecoder] (h : image.Produced) : image.WellFormed := by
  cases h with
  | assembled _ h => exact Image.wellFormed_of_assemble h
  | tagged _ => exact Image.wellFormed_single _ _
  | read h => exact SourceFormat.wellFormed_of_decode h
  | pictured h => exact Raster.wellFormed_of_decode h
  | loaded h => exact (Source.load_eq_ok h).2
  | resized _ h => exact Resizer.wellFormed_of_resizeImage h

/-- A grid is made of exactly as many samples as it has positions, and every image that is made of
grids, read, loaded or resized is sound and read within bounds. -/
theorem produced_images_sound [PictureDecoder] :
    (∀ (shape : Shape) (samples : Array UInt8),
      (∃ grid, Grid.ofArray shape samples = .ok grid ∧ grid.samples = samples) ↔
        samples.size = shape.width * shape.height ∧ samples.size < Shape.wordLimit) ∧
    ∀ image : Image, image.Produced → image.Sound ∧ image.InBounds := by
  refine ⟨?_, ?_⟩
  · intro shape samples
    constructor
    · rintro ⟨grid, h, -⟩
      obtain ⟨hlimit, rfl, rfl⟩ := Grid.ofArray_eq_ok.mp h
      rw [← grid.size_samples] at hlimit
      exact ⟨grid.size_samples, hlimit⟩
    · rintro ⟨hsize, hlimit⟩
      rw [hsize] at hlimit
      exact ⟨⟨shape, samples, hsize⟩, Grid.ofArray_eq_ok.mpr ⟨hlimit, rfl, rfl⟩, rfl⟩
  · intro image h
    have hs := h.wellFormed.sound
    exact ⟨hs, hs.inBounds⟩

/-- A dump of one row is read and resized by a kernel that exchanges the sides. The column it makes
of the row is still an image in itself. -/
theorem produced_images_sound_column :
    let row := Image.single .gray ⟨⟨2, 1⟩, #[0, 100], rfl⟩
    let resizer : Resizer Rat :=
      ⟨(SourceFormat.dump ⟨2, 1⟩ .gray).decode, RawFormat.dump.encode,
        fun source target => Kernel.bilinear source target.transpose,
        { ResizeConfig.default with target := some ⟨3, 1⟩ }, none⟩
    let column := Image.single .gray ⟨⟨1, 3⟩, #[0, 0, 0], rfl⟩
    ((SourceFormat.dump ⟨2, 1⟩ .gray).decode "0 100".toUTF8 = .ok row ∧
      (resizer.resizeImage row).outcome = .ok column) ∧
    row.Sound ∧ column.Sound ∧ column.InBounds := by
  intro row resizer column
  have hread : (SourceFormat.dump ⟨2, 1⟩ .gray).decode "0 100".toUTF8 = .ok row := by cbv
  have hresize : (resizer.resizeImage row).outcome = .ok column := by cbv
  have hrow := (produced_images_sound.2 row (.read hread)).1
  exact ⟨⟨hread, hresize⟩, hrow, produced_images_sound.2 column (.resized hrow hresize)⟩

end Planar
