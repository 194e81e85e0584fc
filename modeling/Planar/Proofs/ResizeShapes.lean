import Planar.Proofs.Resizing

/-! Shapes of resized images, whatever grids the kernel returns. -/
namespace Planar

variable {α : Type} [Scalar α] {resizer : Resizer α} {image result : Image} {plane : Plane}
  {planes : List Plane} {grid : Grid UInt8} {grids : List (Grid UInt8)} {layout : Layout}
  {share target : Shape} {index : Nat}

namespace Resizer

/-- Shares with samples are whatever the kernel makes of the plane. -/
theorem kernel_of_resizePlane (hs : share.area ≠ 0)
    (h : (resizer.resizePlane share index plane).outcome = .ok grid) :
    ∃ resampled, resizer.kernel plane.grid share = .ok resampled ∧ grid = resampled.quantize := by
  rw [resizePlane, dif_neg hs, Logged.outcome_bind] at h
  obtain ⟨resampled, hkernel, h⟩ := bind_eq_ok.mp h
  rw [Logged.outcome_bind] at h
  obtain ⟨-, -, h⟩ := bind_eq_ok.mp h
  cases h
  exact ⟨resampled, hkernel, rfl⟩

theorem length_of_resizePlanes
    (h : (resizer.resizePlanes layout target index planes).outcome = .ok grids) :
    grids.length = planes.length := by
  rw [outcome_resizePlanes] at h
  have hall := (mapM_eq_ok.mp h).length_eq
  rw [List.length_zipIdx] at hall
  exact hall.symm

/-- Images of one plane are made of the last resized grid as it is, all others are checked. -/
theorem resizeImage_eq_ok (h : (resizer.resizeImage image).outcome = .ok result) :
    let target := resizer.config.targetFor image.shape
    resizer.config.Allows target ∧ ∃ grids,
      (resizer.resizePlanes image.layout target 0 image.planes).outcome = .ok grids ∧
      ((image.layout = .single ∧ ∃ plane grid, image.planes.head? = some plane ∧
          grids.getLast? = some grid ∧ result = Image.single plane.channel grid) ∨
        image.layout ≠ .single ∧ Image.assemble target image.layout grids = .ok result) := by
  intro target
  rw [resizeImage, Logged.outcome_bind] at h
  obtain ⟨⟨⟩, hcheck, h⟩ := bind_eq_ok.mp h
  rw [Logged.outcome_bind] at h
  obtain ⟨grids, hplanes, h⟩ := bind_eq_ok.mp h
  have hallows : resizer.config.Allows target := by
    by_contra hn
    cases (outcome_checkTarget_of_not_allows hn).symm.trans hcheck
  refine ⟨hallows, grids, hplanes, ?_⟩
  change gather image target grids = .ok result at h
  unfold gather at h
  split at h
  · rename_i hlayout
    split at h
    · rename_i plane grid hplane hgrid
      cases h
      exact Or.inl ⟨hlayout, plane, grid, hplane, hgrid, rfl⟩
    · cases h
  · rename_i hlayout
    exact Or.inr ⟨hlayout, h⟩

/-- Grids of any shape that the kernel returns are checked or taken for the image's own size. -/
theorem wellFormed_of_resizeImage (h : (resizer.resizeImage image).outcome = .ok result) :
    result.WellFormed := by
  obtain ⟨-, grids, -, ⟨-, plane, grid, -, -, rfl⟩ | ⟨-, hassemble⟩⟩ := resizeImage_eq_ok h
  · exact Image.wellFormed_single plane.channel grid
  · exact Image.wellFormed_of_assemble hassemble

theorem resizeImage_of_single (hw : image.WellFormed) (hl : image.layout = .single)
    (h : (resizer.resizeImage image).outcome = .ok result) :
    ∃ plane resampled, image.planes = [plane] ∧
      resizer.kernel plane.grid (resizer.config.targetFor image.shape) = .ok resampled ∧
      result = Image.single plane.channel resampled.quantize := by
  obtain ⟨⟨hwidth, hheight, -⟩, grids, hgrids, ⟨-, first, grid, hfirst, hgrid, rfl⟩ | ⟨hn, -⟩⟩ :=
    resizeImage_eq_ok h
  · have hcount := hw.count
    rw [hl] at hcount
    obtain ⟨plane, hplanes⟩ := List.length_eq_one_iff.mp hcount
    rw [hplanes, hl] at hgrids
    obtain ⟨only, rfl⟩ := List.length_eq_one_iff.mp (length_of_resizePlanes hgrids)
    obtain rfl : only = grid := by simpa using hgrid
    obtain rfl : plane = first := by simpa [hplanes] using hfirst
    have harea : (resizer.config.targetFor image.shape).area ≠ 0 := by
      rw [Ne, Shape.area_eq_zero]
      omega
    rw [resizePlanes, Logged.outcome_bind] at hgrids
    obtain ⟨only, honly, hgrids⟩ := bind_eq_ok.mp hgrids
    cases hgrids
    obtain ⟨resampled, hkernel, rfl⟩ := kernel_of_resizePlane harea honly
    exact ⟨plane, resampled, hplanes, hkernel, rfl⟩
  · exact (hn hl).elim

end Resizer

namespace Image

/-- The image has the target's shape, and every plane its share of the target. -/
def Fits (image : Image) (target : Shape) : Prop :=
  image.shape = target ∧ ∀ i plane, image.planes[i]? = some plane →
    plane.grid.shape = image.layout.planeShape i target

theorem WellFormed.fits_iff (hw : image.WellFormed) : image.Fits target ↔ image.shape = target := by
  constructor
  · exact fun h => h.1
  · rintro rfl
    exact ⟨rfl, hw.shapes⟩

end Image

/-- A resize by the bilinear kernel without a reference fits its target. -/
theorem Resizer.fits_of_plain (resizer : Resizer α) (hw : image.WellFormed)
    (h : (resizer.plain.resizeImage image).outcome = .ok result) :
    let target := resizer.config.targetFor image.shape
    resizer.config.Allows target ∧ result.WellFormed ∧ result.layout = image.layout ∧
      result.Fits target := by
  intro target
  have hresult := Resizer.wellFormed_of_resizeImage h
  obtain ⟨-, ho⟩ | ⟨-, i, plane, -, -, ho, -⟩ | ⟨hallows, -, grids, -, ho, -⟩ :=
    Resizer.resizeImage_cases resizer hw
  · cases ho.symm.trans h
  · cases ho.symm.trans h
  · cases ho.symm.trans h
    exact ⟨hallows, hresult, rfl, hresult.fits_iff.mpr rfl⟩

theorem Layout.area_planeShape_le (layout : Layout) (index : Nat) (nominal : Shape) :
    (layout.planeShape index nominal).area ≤ nominal.area := by
  unfold planeShape
  split
  · exact Nat.mul_le_mul (Nat.div_le_self _ _) (Nat.div_le_self _ _)
  · exact Nat.le_refl _

/-- Chroma has fewer samples than luma, however small the image. -/
theorem Layout.area_chroma_lt {index : Nat} {nominal : Shape} (hi : 0 < index)
    (hw : 1 ≤ nominal.width) (hh : 1 ≤ nominal.height) :
    (Layout.yuv420.planeShape index nominal).area < nominal.area := by
  rw [planeShape, if_pos ⟨rfl, hi⟩]
  exact Nat.mul_lt_mul_of_lt_of_le (Nat.div_lt_self hw (by decide)) (Nat.div_le_self _ _) hh

/-- Whatever the kernel, the planes of a resized image are checked against the target, except that
the one plane of a single layout is only as large as the kernel made it. -/
theorem resizeImage_fits_iff (resizer : Resizer α) (hw : image.WellFormed)
    (h : (resizer.resizeImage image).outcome = .ok result) :
    let target := resizer.config.targetFor image.shape
    result.layout = image.layout ∧ result.planes.length = image.planes.length ∧
      (result.Fits target ↔ (image.layout = .single → ∀ plane resampled, image.planes = [plane] →
        resizer.kernel plane.grid target = .ok resampled → resampled.shape = target)) := by
  intro target
  by_cases hl : image.layout = .single
  · obtain ⟨plane, resampled, hplanes, hkernel, rfl⟩ := Resizer.resizeImage_of_single hw hl h
    refine ⟨hl.symm, by rw [hplanes]; rfl, ?_⟩
    rw [(Image.wellFormed_single _ _).fits_iff]
    constructor
    · rintro hshape - only other honly hother
      obtain rfl : plane = only := by simpa [hplanes] using honly
      obtain rfl : resampled = other := Except.ok.inj (hkernel.symm.trans hother)
      exact hshape
    · exact fun hall => hall hl plane resampled hplanes hkernel
  · obtain ⟨-, grids, hgrids, ⟨hsingle, -⟩ | ⟨-, hassemble⟩⟩ := Resizer.resizeImage_eq_ok h
    · exact (hl hsingle).elim
    · have hresult := Image.wellFormed_of_assemble hassemble
      obtain ⟨hcount, -, rfl⟩ := Image.assemble_eq_ok.mp hassemble
      refine ⟨rfl, ?_, fun _ hsingle => (hl hsingle).elim, fun _ => hresult.fits_iff.mpr rfl⟩
      rw [List.length_zipWith, hcount, Nat.min_self, hw.count]

/-- A kernel that exchanges the sides of its target resizes one plane to a square. -/
theorem resizeImage_fits_iff_square :
    let image := Image.single .gray ⟨⟨2, 1⟩, #[0, 100], rfl⟩
    let resizer : Resizer Rat :=
      ⟨(SourceFormat.dump ⟨2, 1⟩ .gray).decode, RawFormat.dump.encode,
        fun source target => Kernel.bilinear source target.transpose,
        { ResizeConfig.default with target := some ⟨2, 2⟩ }, none⟩
    let result := Image.single .gray ⟨⟨2, 2⟩, #[0, 100, 0, 100], rfl⟩
    image.WellFormed ∧ (resizer.resizeImage image).outcome = .ok result ∧ result.Fits ⟨2, 2⟩ := by
  intro image resizer result
  have hw : image.WellFormed := Image.wellFormed_single _ _
  have hresult : (resizer.resizeImage image).outcome = .ok result := by cbv
  obtain ⟨-, -, hfits⟩ := resizeImage_fits_iff resizer hw hresult
  refine ⟨hw, hresult, hfits.mpr ?_⟩
  intro _ plane resampled _ hkernel
  have hbilinear : bilinear plane.grid.toScalar ⟨2, 2⟩ = .ok resampled := hkernel
  exact bilinear_shape hbilinear

/-- The same kernel turns a row of three samples into a column. -/
theorem resizeImage_not_fits_column :
    let image := Image.single .gray ⟨⟨2, 1⟩, #[0, 100], rfl⟩
    let resizer : Resizer Rat :=
      ⟨(SourceFormat.dump ⟨2, 1⟩ .gray).decode, RawFormat.dump.encode,
        fun source target => Kernel.bilinear source target.transpose,
        { ResizeConfig.default with target := some ⟨3, 1⟩ }, none⟩
    let result := Image.single .gray ⟨⟨1, 3⟩, #[0, 0, 0], rfl⟩
    image.WellFormed ∧ resizer.config.targetFor image.shape = ⟨3, 1⟩ ∧
      (resizer.resizeImage image).outcome = .ok result ∧ result.shape ≠ ⟨3, 1⟩ ∧
      ¬ result.Fits ⟨3, 1⟩ := by
  intro image resizer result
  have hshape : result.shape ≠ ⟨3, 1⟩ := by decide
  exact ⟨Image.wellFormed_single _ _, rfl, by cbv, hshape, fun hfits => hshape hfits.1⟩

end Planar
