import Planar.Proofs.Image
import Planar.Proofs.Logged
import Planar.Resizer

/-! Which resizes succeed, what every plane becomes, and which plane stops the others. -/
namespace Planar

section
variable {α : Type} {config : ResizeConfig α} {target : Shape}

/-- Targets with samples, and no side longer than the configured one. -/
def ResizeConfig.Allows (config : ResizeConfig α) (target : Shape) : Prop :=
  1 ≤ target.width ∧ 1 ≤ target.height ∧
    ∀ limit, config.maxSide = some limit → target.width ≤ limit ∧ target.height ≤ limit

theorem ResizeConfig.allows_of_maxSide {limit : Nat} (hmax : config.maxSide = some limit)
    (hw : 1 ≤ target.width ∧ target.width ≤ limit)
    (hh : 1 ≤ target.height ∧ target.height ≤ limit) : config.Allows target := by
  refine ⟨hw.1, hh.1, ?_⟩
  intro limit' hlimit
  obtain rfl : limit = limit' := Option.some.inj (hmax.symm.trans hlimit)
  exact ⟨hw.2, hh.2⟩

namespace Resizer

theorem checkTarget_of_allows (h : config.Allows target) :
    checkTarget config target = pure () := by
  obtain ⟨hw, hh, hm⟩ := h
  rw [checkTarget, if_neg (by omega)]
  cases hl : config.maxSide with
  | none => rfl
  | some limit =>
    obtain ⟨hlw, hlh⟩ := hm limit hl
    have hshort : ¬ (limit < target.width ∨ limit < target.height) := by omega
    simp only [if_neg hshort]

theorem outcome_checkTarget_of_allows (h : config.Allows target) :
    (checkTarget config target).outcome = .ok () := by
  rw [checkTarget_of_allows h, Logged.outcome_pure]

theorem outcome_checkTarget_of_not_allows (h : ¬ config.Allows target) :
    (checkTarget config target).outcome = .error (.badShape target) := by
  rw [checkTarget]
  split
  · rfl
  · rename_i hsides
    cases hl : config.maxSide with
    | none =>
      refine (h ⟨by omega, by omega, ?_⟩).elim
      intro limit hlimit
      rw [hl] at hlimit
      cases hlimit
    | some limit =>
      have hlong : limit < target.width ∨ limit < target.height := by
        by_contra hshort
        refine h ⟨by omega, by omega, ?_⟩
        intro limit' hlimit
        rw [hl] at hlimit
        cases hlimit
        omega
      simp only [if_pos hlong]

end Resizer

end

variable {α : Type} [Scalar α] {resizer : Resizer α} {image : Image} {plane : Plane}
  {planes : List Plane} {grids : List (Grid UInt8)} {layout : Layout} {share target : Shape}
  {index : Nat} {fault : Fault}

/-- A share without samples is filled from any plane, any other only from samples. -/
def Fillable (share : Shape) (source : Grid UInt8) : Prop :=
  (share.width = 0 ∨ share.height = 0) ∨ source.samples ≠ #[]

variable (α) in
/-- What a plane becomes when it is resized to its share of the target. -/
def Resampled (source : Grid UInt8) (share : Shape) (result : Grid UInt8) : Prop :=
  if share.width = 0 ∨ share.height = 0 then result.shape = share ∧ result.samples = #[]
  else ∃ g : Grid α, bilinear source.toScalar share = .ok g ∧ result = g.quantize

theorem bilinear_shape {source g : Grid α} (h : bilinear source target = .ok g) :
    g.shape = target := by
  unfold bilinear at h
  split at h
  · cases h
  · split at h
    · cases h
      rfl
    · cases h

theorem bilinear_of_pos {source : Grid α} (ht : ¬ (target.width = 0 ∨ target.height = 0))
    (hs : source.samples ≠ #[]) : ∃ g, bilinear source target = .ok g := by
  have harea : source.shape.area ≠ 0 := by
    rw [← source.size_samples]
    exact fun h => hs (Array.eq_empty_of_size_eq_zero h)
  have hsides : 0 < source.height ∧ 0 < source.width := by
    rw [Ne, Shape.area_eq_zero] at harea
    simp only [Grid.height, Grid.width]
    omega
  have ht' : ¬ (target.height = 0 ∨ target.width = 0) := by omega
  rw [bilinear, if_neg ht', dif_pos hsides]
  exact ⟨_, rfl⟩

theorem bilinear_of_empty {source : Grid α} (ht : ¬ (target.width = 0 ∨ target.height = 0))
    (hs : source.samples = #[]) : bilinear source target = .error (.badShape source.shape) := by
  have harea : source.shape.area = 0 := by rw [← source.size_samples, hs]; rfl
  have hsides : ¬ (0 < source.height ∧ 0 < source.width) := by
    rw [Shape.area_eq_zero] at harea
    simp only [Grid.height, Grid.width]
    omega
  have ht' : ¬ (target.height = 0 ∨ target.width = 0) := by omega
  rw [bilinear, if_neg ht', dif_neg hsides]

theorem Resampled.shape {source result : Grid UInt8} (h : Resampled α source share result) :
    result.shape = share := by
  unfold Resampled at h
  split at h
  · exact h.1
  · obtain ⟨g, hg, rfl⟩ := h
    exact (bilinear_shape hg : g.shape = share)

namespace Resizer

/-- The resizer with the bilinear kernel and nothing to hold results against. -/
def plain (resizer : Resizer α) : Resizer α :=
  { resizer with kernel := Kernel.bilinear, reference := none }

/-- Planes are resized one by one, and the first that fails ends the resize. -/
theorem outcome_resizePlanes :
    (resizer.resizePlanes layout target index planes).outcome =
      (planes.zipIdx index).mapM fun (plane, i) =>
        (resizer.resizePlane (layout.planeShape i target) i plane).outcome := by
  induction planes generalizing index with
  | nil => rfl
  | cons plane planes ih =>
    rw [resizePlanes, Logged.outcome_bind, List.zipIdx_cons, List.mapM_cons]
    congr 1
    funext grid
    rw [Logged.outcome_bind, ih]
    rfl

theorem outcome_resizePlane_of_pos (h : ¬ (share.width = 0 ∨ share.height = 0)) :
    (resizer.plain.resizePlane share index plane).outcome =
      (bilinear plane.grid.toScalar share).map (Grid.quantize (α := α)) := by
  rw [← Shape.area_eq_zero] at h
  rw [resizePlane, dif_neg h, Logged.outcome_bind]
  change (bilinear (plane.grid.toScalar (α := α)) share >>= _) = _
  cases bilinear (plane.grid.toScalar (α := α)) share with
  | error fault => rfl
  | ok g => rfl

theorem resizePlane_of_fillable (resizer : Resizer α) (index : Nat)
    (h : Fillable share plane.grid) :
    ∃ result, (resizer.plain.resizePlane share index plane).outcome = .ok result ∧
      Resampled α plane.grid share result := by
  by_cases hz : share.width = 0 ∨ share.height = 0
  · have harea : share.area = 0 := Shape.area_eq_zero.mpr hz
    rw [resizePlane, dif_pos harea]
    refine ⟨_, rfl, ?_⟩
    rw [Resampled, if_pos hz]
    exact ⟨rfl, rfl⟩
  · have hs : (plane.grid.toScalar (α := α)).samples ≠ #[] := by
      simpa [Grid.toScalar, Grid.map] using h.resolve_left hz
    obtain ⟨g, hg⟩ := bilinear_of_pos hz hs
    rw [outcome_resizePlane_of_pos hz, hg]
    refine ⟨g.quantize, rfl, ?_⟩
    rw [Resampled, if_neg hz]
    exact ⟨g, hg, rfl⟩

theorem resizePlane_of_not_fillable (h : ¬ Fillable share plane.grid) :
    (resizer.plain.resizePlane share index plane).outcome =
      .error (.badShape plane.grid.shape) := by
  obtain ⟨hz, hs⟩ := not_or.mp h
  have hs : (plane.grid.toScalar (α := α)).samples = #[] := by
    simpa [Grid.toScalar, Grid.map] using hs
  rw [outcome_resizePlane_of_pos hz, bilinear_of_empty hz hs]
  rfl

theorem resizePlane_eq_ok {result : Grid UInt8}
    (h : (resizer.plain.resizePlane share index plane).outcome = .ok result) :
    Fillable share plane.grid ∧ Resampled α plane.grid share result := by
  by_cases hf : Fillable share plane.grid
  · obtain ⟨result', hr, hres⟩ := resizePlane_of_fillable resizer index hf
    rw [hr] at h
    cases h
    exact ⟨hf, hres⟩
  · rw [resizePlane_of_not_fillable hf] at h
    cases h

theorem resizePlane_eq_error
    (h : (resizer.plain.resizePlane share index plane).outcome = .error fault) :
    ¬ Fillable share plane.grid ∧ fault = .badShape plane.grid.shape := by
  by_cases hf : Fillable share plane.grid
  · obtain ⟨result, hr, -⟩ := resizePlane_of_fillable resizer index hf
    rw [hr] at h
    cases h
  · rw [resizePlane_of_not_fillable hf] at h
    exact ⟨hf, (Except.error.inj h).symm⟩

/-- Grids of the right shapes always make an image, so the last checks of a resize never fail. -/
theorem resizeImage_of_planes (hw : image.WellFormed)
    (hc : (checkTarget resizer.config (resizer.config.targetFor image.shape)).outcome = .ok ())
    (hp : (resizer.resizePlanes image.layout (resizer.config.targetFor image.shape) 0
      image.planes).outcome = .ok grids)
    (hlen : grids.length = image.planes.length)
    (hs : ∀ i g, grids[i]? = some g →
      g.shape = image.layout.planeShape i (resizer.config.targetFor image.shape)) :
    (resizer.resizeImage image).outcome =
      .ok ⟨resizer.config.targetFor image.shape, image.layout,
        List.zipWith Plane.mk (image.planes.map Plane.channel) grids⟩ := by
  rw [resizeImage, Logged.outcome_bind]
  refine bind_eq_ok.mpr ⟨(), hc, ?_⟩
  rw [Logged.outcome_bind]
  refine bind_eq_ok.mpr ⟨grids, hp, ?_⟩
  have hcount := hlen.trans hw.count
  obtain ⟨shape, layout, planes⟩ := image
  cases layout with
  | single =>
    obtain ⟨plane, rfl⟩ := List.length_eq_one_iff.mp hw.count
    obtain ⟨grid, rfl⟩ := List.length_eq_one_iff.mp hcount
    have hg : grid.shape = resizer.config.targetFor shape := hs 0 grid rfl
    change Except.ok (Image.single plane.channel grid) = _
    rw [Image.single, hg]
    rfl
  | rgb | ycbcr | yuv420 =>
    have hch := hw.channels (fun h => nomatch h)
    refine Image.assemble_eq_ok.mpr ⟨hcount, hs, ?_⟩
    rw [hch]

theorem resizeImage_of_planes_error
    (hc : (checkTarget resizer.config (resizer.config.targetFor image.shape)).outcome = .ok ())
    (hp : (resizer.resizePlanes image.layout (resizer.config.targetFor image.shape) 0
      image.planes).outcome = .error fault) :
    (resizer.resizeImage image).outcome = .error fault := by
  rw [resizeImage, Logged.outcome_bind]
  refine bind_eq_error.mpr (Or.inr ⟨(), hc, ?_⟩)
  rw [Logged.outcome_bind]
  exact bind_eq_error.mpr (Or.inl hp)

/-- A resize ends at the target, at the first plane that cannot be filled, or with every plane
resampled. -/
theorem resizeImage_cases (resizer : Resizer α) (hw : image.WellFormed) :
    let target := resizer.config.targetFor image.shape
    let share := fun i => image.layout.planeShape i target
    let outcome := (resizer.plain.resizeImage image).outcome
    (¬ resizer.config.Allows target ∧ outcome = .error (.badShape target)) ∨
    (resizer.config.Allows target ∧ ∃ i plane, image.planes[i]? = some plane ∧
      ¬ Fillable (share i) plane.grid ∧ outcome = .error (.badShape plane.grid.shape) ∧
      ∀ j other, j < i → image.planes[j]? = some other → Fillable (share j) other.grid) ∨
    (resizer.config.Allows target ∧
      (∀ i plane, image.planes[i]? = some plane → Fillable (share i) plane.grid) ∧
      ∃ grids : List (Grid UInt8), grids.length = image.planes.length ∧
        outcome = .ok ⟨target, image.layout,
          List.zipWith Plane.mk (image.planes.map Plane.channel) grids⟩ ∧
        ∀ i plane, image.planes[i]? = some plane →
          ∃ grid, grids[i]? = some grid ∧ Resampled α plane.grid (share i) grid) := by
  intro target share outcome
  by_cases ha : resizer.config.Allows target
  · have hc : (checkTarget resizer.plain.config target).outcome = .ok () :=
      outcome_checkTarget_of_allows ha
    right
    cases hp : (resizer.plain.resizePlanes image.layout target 0 image.planes).outcome with
    | error fault =>
      left
      have hout : outcome = .error fault := resizeImage_of_planes_error hc hp
      rw [outcome_resizePlanes] at hp
      obtain ⟨i, plane, hi, hf, hbefore⟩ := mapM_zipIdx_eq_error.mp hp
      obtain ⟨hstop, rfl⟩ := resizePlane_eq_error hf
      refine ⟨ha, i, plane, hi, hstop, hout, ?_⟩
      intro j other hj ho
      obtain ⟨grid, hg⟩ := hbefore j other hj ho
      exact (resizePlane_eq_ok hg).1
    | ok grids =>
      right
      have hplanes := hp
      rw [outcome_resizePlanes] at hplanes
      obtain ⟨hlen, hgrids⟩ := mapM_zipIdx_eq_ok.mp hplanes
      have hres : ∀ i plane, image.planes[i]? = some plane → ∃ grid, grids[i]? = some grid ∧
          Fillable (share i) plane.grid ∧ Resampled α plane.grid (share i) grid := by
        intro i plane hi
        obtain ⟨grid, hgi, hg⟩ := hgrids i plane hi
        exact ⟨grid, hgi, resizePlane_eq_ok hg⟩
      refine ⟨ha, ?_, grids, hlen, resizeImage_of_planes hw hc hp hlen ?_, ?_⟩
      · intro i plane hi
        obtain ⟨grid, -, hf, -⟩ := hres i plane hi
        exact hf
      · intro i grid hgi
        obtain ⟨hlt, -⟩ := List.getElem?_eq_some_iff.mp hgi
        have hi : i < image.planes.length := hlen ▸ hlt
        obtain ⟨grid', hgi', -, hr⟩ := hres i _ (List.getElem?_eq_getElem hi)
        obtain rfl : grid = grid' := Option.some.inj (hgi.symm.trans hgi')
        exact hr.shape
      · intro i plane hi
        obtain ⟨grid, hgi, -, hr⟩ := hres i plane hi
        exact ⟨grid, hgi, hr⟩
  · left
    refine ⟨ha, ?_⟩
    have hc : (checkTarget resizer.plain.config target).outcome = .error (.badShape target) :=
      outcome_checkTarget_of_not_allows ha
    change (resizer.plain.resizeImage image).outcome = _
    rw [resizeImage, Logged.outcome_bind]
    exact bind_eq_error.mpr (Or.inl hc)

/-- Planes that all have samples can be resized to any target that is allowed. -/
theorem resizeImage_of_samples (resizer : Resizer α) (hw : image.WellFormed)
    (hallows : resizer.config.Allows (resizer.config.targetFor image.shape))
    (hsamples : ∀ plane ∈ image.planes, plane.grid.samples ≠ #[]) :
    ∃ result, (resizer.plain.resizeImage image).outcome = .ok result := by
  obtain ⟨hn, -⟩ | ⟨-, i, plane, hi, hn, -⟩ | ⟨-, -, grids, -, ho, -⟩ :=
    resizeImage_cases resizer hw
  · exact (hn hallows).elim
  · exact (hn (Or.inr (hsamples plane (List.mem_of_getElem? hi)))).elim
  · exact ⟨_, ho⟩

end Resizer

/-- A bilinear resize succeeds exactly when the target is allowed and every plane can fill its
share. The result then has the target's shape with every plane resampled under its own channel.
Otherwise the fault is the target's, or else that of the first plane without samples to give. -/
theorem resizeImage_outcome (resizer : Resizer α) (hw : image.WellFormed) :
    let target := resizer.config.targetFor image.shape
    let share := fun i => image.layout.planeShape i target
    let outcome := (resizer.plain.resizeImage image).outcome
    ((∃ result, outcome = .ok result) ↔ resizer.config.Allows target ∧
      ∀ i plane, image.planes[i]? = some plane → Fillable (share i) plane.grid) ∧
    (∀ result, outcome = .ok result →
      result.shape = target ∧ result.layout = image.layout ∧
      result.planes.map Plane.channel = image.planes.map Plane.channel ∧
      ∀ i plane, image.planes[i]? = some plane → ∃ resized, result.planes[i]? = some resized ∧
        Resampled α plane.grid (share i) resized.grid) ∧
    ∀ fault, outcome = .error fault →
      (¬ resizer.config.Allows target → fault = .badShape target) ∧
      (resizer.config.Allows target → ∃ i plane, image.planes[i]? = some plane ∧
        ¬ Fillable (share i) plane.grid ∧ fault = .badShape plane.grid.shape ∧
        ∀ j other, j < i → image.planes[j]? = some other → Fillable (share j) other.grid) := by
  intro target share outcome
  rcases Resizer.resizeImage_cases resizer hw with ⟨ha, ho⟩ | ⟨ha, i, plane, hi, hf, ho, hb⟩ |
    ⟨ha, hf, grids, hlen, ho, hr⟩
  · refine ⟨?_, ?_, ?_⟩
    · constructor
      · rintro ⟨result, h⟩
        cases ho.symm.trans h
      · exact fun h => (ha h.1).elim
    · intro result h
      cases ho.symm.trans h
    · intro fault h
      cases ho.symm.trans h
      exact ⟨fun _ => rfl, fun h => (ha h).elim⟩
  · refine ⟨?_, ?_, ?_⟩
    · constructor
      · rintro ⟨result, h⟩
        cases ho.symm.trans h
      · exact fun h => (hf (h.2 i plane hi)).elim
    · intro result h
      cases ho.symm.trans h
    · intro fault h
      cases ho.symm.trans h
      exact ⟨fun h => (h ha).elim, fun _ => ⟨i, plane, hi, hf, rfl, hb⟩⟩
  · refine ⟨⟨fun _ => ⟨ha, hf⟩, fun _ => ⟨_, ho⟩⟩, ?_, ?_⟩
    · intro result h
      cases ho.symm.trans h
      refine ⟨rfl, rfl, ?_, ?_⟩
      · exact Image.map_channel_zipWith (by rw [hlen, List.length_map])
      · intro i plane hi
        obtain ⟨grid, hgi, hres⟩ := hr i plane hi
        refine ⟨⟨plane.channel, grid⟩, ?_, hres⟩
        simp [List.getElem?_zipWith, hi, hgi]
    · intro fault h
      cases ho.symm.trans h

/-- One row shrinks to one sample, with chroma left empty, and cannot grow to two rows. -/
theorem resizeImage_outcome_one_row :
    let image : Image := ⟨⟨3, 1⟩, .yuv420, [⟨.y, ⟨⟨3, 1⟩, #[10, 20, 30], rfl⟩⟩,
      ⟨.cb, ⟨⟨1, 0⟩, #[], rfl⟩⟩, ⟨.cr, ⟨⟨1, 0⟩, #[], rfl⟩⟩]⟩
    let resizer := fun target : Shape =>
      (⟨Frame.decode ⟨3, 1⟩, Frame.encode, Kernel.bilinear,
        { ResizeConfig.default with target := some target }, none⟩ : Resizer Rat)
    let outcome := fun target => ((resizer target).plain.resizeImage image).outcome
    image.WellFormed ∧
      (∃ result, outcome ⟨1, 1⟩ = .ok result ∧ result.shape = ⟨1, 1⟩) ∧
      ¬ ∃ result, outcome ⟨2, 2⟩ = .ok result := by
  intro image resizer outcome
  have hw : image.WellFormed := by
    refine ⟨rfl, fun _ => rfl, ?_⟩
    intro i plane hi
    match i, hi with
    | 0, rfl | 1, rfl | 2, rfl => decide
  refine ⟨hw, ?_, ?_⟩
  · obtain ⟨hok, hshape, -⟩ := resizeImage_outcome (resizer ⟨1, 1⟩) hw
    have hallows : (resizer ⟨1, 1⟩).config.Allows ⟨1, 1⟩ := by
      refine ⟨by decide, by decide, ?_⟩
      rintro limit ⟨⟩
      decide
    obtain ⟨result, hr⟩ := hok.mpr ⟨hallows, fun i plane hi => by
      match i, hi with
      | 0, rfl => exact Or.inr (by simp)
      | 1, rfl | 2, rfl => exact Or.inl (by decide)⟩
    exact ⟨result, hr, (hshape result hr).1⟩
  · obtain ⟨hok, -, -⟩ := resizeImage_outcome (resizer ⟨2, 2⟩) hw
    intro h
    rcases (hok.mp h).2 1 _ rfl with hshare | hsamples
    · exact absurd hshare (by decide)
    · exact hsamples rfl

end Planar
