import Planar.Proofs.Dump
import Planar.Proofs.Folders
import Planar.Proofs.Frame
import Planar.Proofs.World

/-! Images that are read from files. -/
namespace Planar

section
variable {bytes : ByteArray} {image : Image}

theorem Frame.wellFormed_of_decode {shape : Shape} (h : Frame.decode shape bytes = .ok image) :
    image.WellFormed := by
  obtain ⟨-, y, cb, cr, hfits, -, rfl⟩ := Frame.decode_eq_ok.mp h
  exact Image.wellFormed_of_assemble (Frame.assemble_eq_ok.mpr ⟨y, cb, cr, rfl, hfits, rfl⟩)

variable [PictureDecoder]

/-- Pictures are split into planes of their own shape. -/
theorem Raster.assemble_of_decode {model : ColourModel} {declared : Option Shape}
    (h : Raster.decode model declared bytes = .ok image) :
    ∃ shape grids, Image.assemble shape model.layout grids = .ok image := by
  unfold Raster.decode at h
  split at h
  · unfold Raster.ofPicture at h
    split at h
    · split at h
      · cases h
      · exact ⟨_, _, h⟩
    · exact ⟨_, _, h⟩
  · cases h

theorem Raster.wellFormed_of_decode {model : ColourModel} {declared : Option Shape}
    (h : Raster.decode model declared bytes = .ok image) : image.WellFormed := by
  obtain ⟨shape, grids, hassemble⟩ := Raster.assemble_of_decode h
  exact Image.wellFormed_of_assemble hassemble

/-- The layout of images in the format. -/
def SourceFormat.layout : SourceFormat → Layout
  | .dump _ _ => .single
  | .frame _ => .yuv420
  | .raster model => model.layout

theorem SourceFormat.layout_of_decode {format : SourceFormat}
    (h : format.decode bytes = .ok image) : image.layout = format.layout := by
  cases format with
  | dump shape channel =>
    obtain ⟨grid, -, rfl⟩ := decode_dump_eq_ok.mp h
    rfl
  | frame shape =>
    obtain ⟨-, y, cb, cr, -, -, rfl⟩ := Frame.decode_eq_ok.mp h
    rfl
  | raster model =>
    obtain ⟨shape, grids, hassemble⟩ := Raster.assemble_of_decode h
    obtain ⟨-, -, rfl⟩ := Image.assemble_eq_ok.mp hassemble
    rfl

/-- Whatever the format, what is read has the planes of its layout. -/
theorem SourceFormat.wellFormed_of_decode {format : SourceFormat}
    (h : format.decode bytes = .ok image) : image.WellFormed := by
  cases format with
  | dump shape channel =>
    obtain ⟨grid, -, rfl⟩ := decode_dump_eq_ok.mp h
    exact Image.wellFormed_single channel grid
  | frame shape => exact Frame.wellFormed_of_decode h
  | raster model => exact Raster.wellFormed_of_decode h

end

variable {α : Type} {world after : World α} [PictureDecoder]

/-- Loading an image leaves the world as it is. -/
theorem Source.load_eq_ok {source : Source} {labelled : Labelled}
    (h : Task.on source.load world = (.ok labelled, after)) :
    after = world ∧ labelled.image.WellFormed := by
  obtain ⟨bytes, between, hread, h⟩ := Task.on_bind_eq_ok.mp h
  rw [Task.on_readInput] at hread
  obtain ⟨-, rfl⟩ := Prod.mk.inj hread
  split at h
  · rename_i image hdecode
    cases h
    exact ⟨rfl, SourceFormat.wellFormed_of_decode hdecode⟩
  · cases h

theorem Source.label_of_load {source : Source} {labelled : Labelled}
    (h : Task.on source.load world = (.ok labelled, after)) : labelled.label = source.label := by
  obtain ⟨bytes, between, -, h⟩ := Task.on_bind_eq_ok.mp h
  split at h
  · cases h
    rfl
  · cases h

theorem Source.on_load {source : Source} {place : Place} {content : ByteArray} {image : Image}
    (hleads : world.disk.Leads source.path place)
    (hfile : world.disk.entry? place = some (.file content))
    (hdecode : source.format.decode content = .ok image) :
    Task.on source.load world = (.ok ⟨source.label, image⟩, world) := by
  refine Task.on_bind_eq_ok.mpr ⟨content, world, ?_, ?_⟩
  · rw [Task.on_readInput, hleads.read hfile]
    rfl
  · rw [hdecode]
    rfl

end Planar
