import Planar.Proofs.Lines
import Planar.Proofs.SampleRange

/-! What exact resampling commutes with: doing one axis after the other, exchanging the axes, and
turning an axis around. -/
namespace Planar

namespace Grid
variable {β : Type} {shape : Shape}

/-- The grid with left and right exchanged. -/
def mirror (g : Grid β) : Grid β := ofFn g.shape fun row col => g.get row col.rev

/-- The grid with top and bottom exchanged. -/
def flip (g : Grid β) : Grid β := ofFn g.shape fun row col => g.get row.rev col

theorem transpose_ofFn (sample : Fin shape.height → Fin shape.width → β) :
    (ofFn shape sample).transpose = ofFn shape.transpose fun row col => sample col row :=
  congrArg (fun get : Fin shape.height → Fin shape.width → β =>
    ofFn shape.transpose fun row col => get col row) (funext_get_ofFn sample)

theorem mirror_ofFn (sample : Fin shape.height → Fin shape.width → β) :
    (ofFn shape sample).mirror = ofFn shape fun row col => sample row col.rev :=
  congrArg (fun get : Fin shape.height → Fin shape.width → β =>
    ofFn shape fun row col => get row col.rev) (funext_get_ofFn sample)

theorem flip_ofFn (sample : Fin shape.height → Fin shape.width → β) :
    (ofFn shape sample).flip = ofFn shape fun row col => sample row.rev col :=
  congrArg (fun get : Fin shape.height → Fin shape.width → β =>
    ofFn shape fun row col => get row.rev col) (funext_get_ofFn sample)

end Grid

section
variable {shape target : Shape} (hs : 0 < shape.height ∧ 0 < shape.width)
  (ht : 0 < target.height ∧ 0 < target.width)
  (sample : Fin shape.height → Fin shape.width → Rat)
include ht

/-! ### One axis after the other -/

theorem bilinear_across :
    (bilinear (Grid.ofFn shape sample) ⟨target.width, shape.height⟩ >>= fun across =>
      bilinear across target) = .ok (Grid.ofFn target (resamplePlane target hs sample)) := by
  let band : Shape := ⟨target.width, shape.height⟩
  have hband : 0 < band.height ∧ 0 < band.width := ⟨hs.1, ht.2⟩
  have hpass : bilinear (Grid.ofFn shape sample) band =
      .ok (Grid.ofFn band fun r => resampleLine band.width hs.2 (sample r)) :=
    bilinear_ofFn_of_eq hs hband fun r _ => resampleLine_self hs.1 _ r
  rw [hpass]
  refine bilinear_ofFn_of_eq hband ht ?_
  intro row col
  refine congrArg (fun line => resampleLine target.height hs.1 line row) ?_
  funext r
  exact resampleLine_self hband.2 _ col

theorem bilinear_down :
    (bilinear (Grid.ofFn shape sample) ⟨shape.width, target.height⟩ >>= fun down =>
      bilinear down target) = .ok (Grid.ofFn target (resamplePlane target hs sample)) := by
  let band : Shape := ⟨shape.width, target.height⟩
  have hband : 0 < band.height ∧ 0 < band.width := ⟨ht.1, hs.2⟩
  have hpass : bilinear (Grid.ofFn shape sample) band = .ok (Grid.ofFn band fun row c =>
      resampleLine band.height hs.1 (fun r => sample r c) row) := by
    refine bilinear_ofFn_of_eq hs hband ?_
    intro row c
    rw [resamplePlane_comm]
    exact resampleLine_self hs.2 _ c
  rw [hpass]
  refine bilinear_ofFn_of_eq hband ht ?_
  intro row col
  rw [resamplePlane_comm, resamplePlane_comm]
  refine congrArg (fun line => resampleLine target.width hs.2 line col) ?_
  funext c
  exact resampleLine_self hband.1 _ row

theorem bilinear_transpose :
    bilinear (Grid.ofFn shape sample).transpose target.transpose =
      .ok (Grid.ofFn target (resamplePlane target hs sample)).transpose := by
  rw [Grid.transpose_ofFn, Grid.transpose_ofFn]
  exact bilinear_ofFn_of_eq ⟨hs.2, hs.1⟩ ⟨ht.2, ht.1⟩ fun row col =>
    (resamplePlane_comm hs sample col row).symm

/-! ### An axis turned around -/

theorem bilinear_mirror (h : 1 < target.width ∨ shape.width = 1) :
    bilinear (Grid.ofFn shape sample).mirror target =
      .ok (Grid.ofFn target (resamplePlane target hs sample)).mirror := by
  rw [Grid.mirror_ofFn, Grid.mirror_ofFn]
  refine bilinear_ofFn_of_eq hs ht ?_
  intro row col
  refine congrArg (fun line => resampleLine target.height hs.1 line row) ?_
  funext r
  exact resampleLine_rev hs.2 h (sample r) col

theorem bilinear_flip (h : 1 < target.height ∨ shape.height = 1) :
    bilinear (Grid.ofFn shape sample).flip target =
      .ok (Grid.ofFn target (resamplePlane target hs sample)).flip := by
  rw [Grid.flip_ofFn, Grid.flip_ofFn]
  refine bilinear_ofFn_of_eq hs ht ?_
  intro row col
  exact resampleLine_rev hs.1 h (fun r => resampleLine target.width hs.2 (sample r) col) row

end

/-- Both axes at once, one after the other in either order, and with the axes exchanged: all give
one result. -/
theorem bilinear_separable (source : Grid Rat) (target : Shape) (hs : source.HasSides)
    (hheight : 0 < target.height) (hwidth : 0 < target.width) :
    ∃ result, bilinear source target = .ok result ∧
      (bilinear source ⟨target.width, source.height⟩ >>= fun across => bilinear across target) =
        .ok result ∧
      (bilinear source ⟨source.width, target.height⟩ >>= fun down => bilinear down target) =
        .ok result ∧
      bilinear source.transpose target.transpose = .ok result.transpose := by
  obtain ⟨shape, sample, rfl⟩ := source.exists_ofFn
  have hs : 0 < shape.height ∧ 0 < shape.width := ⟨hs.height_pos, hs.width_pos⟩
  have ht : 0 < target.height ∧ 0 < target.width := ⟨hheight, hwidth⟩
  exact ⟨_, bilinear_ofFn hs ht sample, bilinear_across hs ht sample, bilinear_down hs ht sample,
    bilinear_transpose hs ht sample⟩

/-- Six samples in two rows enlarged to twelve in three. -/
theorem bilinear_separable_enlarged :
    let source : Grid Rat := ⟨⟨3, 2⟩, #[10, 20, 40, 7, 1, 255], rfl⟩
    let target : Shape := ⟨4, 3⟩
    let result : Grid Rat := ⟨⟨4, 3⟩, #[10, 50 / 3, 80 / 3, 40,
      17 / 2, 59 / 6, 337 / 6, 295 / 2, 7, 3, 257 / 3, 255], rfl⟩
    (source.HasSides ∧ 0 < target.height ∧ 0 < target.width) ∧
    bilinear source target = .ok result ∧
    (bilinear source ⟨4, 2⟩ >>= fun across => bilinear across target) = .ok result ∧
    (bilinear source ⟨3, 3⟩ >>= fun down => bilinear down target) = .ok result ∧
    bilinear source.transpose ⟨3, 4⟩ = .ok result.transpose := by
  intro source target result
  have hs : source.HasSides := ⟨Nat.succ_pos 1, Nat.succ_pos 2⟩
  have hheight : 0 < target.height := by decide
  have hwidth : 0 < target.width := by decide
  have hresult : bilinear source target = .ok result := by decide +kernel
  obtain ⟨found, hfound, hacross, hdown, htranspose⟩ :=
    bilinear_separable source target hs hheight hwidth
  obtain rfl : found = result := Except.ok.inj (hfound.symm.trans hresult)
  exact ⟨⟨hs, hheight, hwidth⟩, hfound, hacross, hdown, htranspose⟩

/-- A source turned around gives the result turned around, on an axis with two output positions or
more, or with one source position. -/
theorem bilinear_mirror_symmetric (source : Grid Rat) (target : Shape) (hs : source.HasSides) :
    (0 < target.height → 0 < target.width → ∃ result, bilinear source target = .ok result) ∧
    (2 ≤ target.width ∨ source.width = 1 →
      bilinear source.mirror target = (bilinear source target).map Grid.mirror) ∧
    (2 ≤ target.height ∨ source.height = 1 →
      bilinear source.flip target = (bilinear source target).map Grid.flip) := by
  obtain ⟨shape, sample, rfl⟩ := source.exists_ofFn
  have hs : 0 < shape.height ∧ 0 < shape.width := ⟨hs.height_pos, hs.width_pos⟩
  by_cases ht : 0 < target.height ∧ 0 < target.width
  · rw [bilinear_ofFn hs ht]
    exact ⟨fun _ _ => ⟨_, rfl⟩, bilinear_mirror hs ht sample, bilinear_flip hs ht sample⟩
  · have hempty : target.height = 0 ∨ target.width = 0 := by omega
    have hfails : ∀ g : Grid Rat, bilinear g target = .error (.badShape target) :=
      fun g => if_pos hempty
    simp only [hfails]
    exact ⟨fun hheight hwidth => absurd ⟨hheight, hwidth⟩ ht, fun _ => rfl, fun _ => rfl⟩

/-- One row, which keeps its height, enlarged from three samples to four. -/
theorem bilinear_mirror_symmetric_row :
    let source : Grid Rat := ⟨⟨3, 1⟩, #[10, 20, 40], rfl⟩
    let target : Shape := ⟨4, 1⟩
    let result : Grid Rat := ⟨⟨4, 1⟩, #[10, 50 / 3, 80 / 3, 40], rfl⟩
    (source.HasSides ∧ 0 < target.height ∧ 0 < target.width ∧ 2 ≤ target.width ∧
      source.height = 1) ∧
    (∃ found, bilinear source target = .ok found) ∧
    bilinear source.mirror target = .ok result.mirror ∧
    bilinear source.flip target = .ok result.flip := by
  intro source target result
  have hs : source.HasSides := ⟨Nat.one_pos, Nat.succ_pos 2⟩
  have hresult : bilinear source target = .ok result := by decide +kernel
  obtain ⟨hfound, hmirror, hflip⟩ := bilinear_mirror_symmetric source target hs
  exact ⟨⟨hs, by decide, by decide, by decide, rfl⟩, hfound (by decide) (by decide),
    (hmirror (Or.inl (by decide))).trans (congrArg (Except.map Grid.mirror) hresult),
    (hflip (Or.inr rfl)).trans (congrArg (Except.map Grid.flip) hresult)⟩

end Planar
