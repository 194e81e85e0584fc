import Planar.Image
import Planar.Proofs.Grid

/-! What assembling grids into an image accepts and gives. -/
namespace Planar.Image

variable {layout : Layout} {shape : Shape} {index : Nat} {channels : List Channel}
  {grids : List (Grid UInt8)} {planes : List Plane} {image : Image}

theorem single_injective {channel : Channel} {a b : Grid UInt8}
    (h : single channel a = single channel b) : a = b := by
  have hp : [Plane.mk channel a] = [Plane.mk channel b] := congrArg Image.planes h
  exact congrArg Plane.grid (List.cons.inj hp).1

theorem map_channel_zipWith (h : grids.length = channels.length) :
    (List.zipWith Plane.mk channels grids).map Plane.channel = channels := by
  induction channels generalizing grids with
  | nil => rfl
  | cons channel channels ih =>
    cases grids with
    | nil => cases h
    | cons grid grids =>
      rw [List.zipWith_cons_cons, List.map_cons, ih (Nat.succ.inj h)]

theorem tagPlanes_eq_ok (hlen : grids.length = channels.length) :
    tagPlanes layout shape index channels grids = .ok planes ↔
      (∀ i g, grids[i]? = some g → g.shape = layout.planeShape (index + i) shape) ∧
        planes = List.zipWith Plane.mk channels grids := by
  induction channels generalizing grids index planes with
  | nil =>
    obtain rfl : grids = [] := List.length_eq_zero_iff.mp hlen
    rw [tagPlanes, Except.ok.injEq]
    · simp [eq_comm]
    · intros
      contradiction
  | cons channel channels ih =>
    cases grids with
    | nil => cases hlen
    | cons grid grids =>
      have hlen : grids.length = channels.length := Nat.succ.inj hlen
      have hshift : ∀ i, index + (i + 1) = index + 1 + i := by omega
      rw [tagPlanes]
      constructor
      · intro h
        split at h
        · rename_i hg
          obtain ⟨rest, hr, h⟩ := bind_eq_ok.mp h
          obtain ⟨hs, rfl⟩ := (ih hlen).mp hr
          cases h
          refine ⟨?_, rfl⟩
          intro i g hi
          cases i with
          | zero =>
            obtain rfl : grid = g := Option.some.inj hi
            exact hg
          | succ i =>
            rw [hshift]
            exact hs i g (by simpa using hi)
        · cases h
      · rintro ⟨hs, rfl⟩
        have hg : grid.shape = layout.planeShape index shape := hs 0 grid rfl
        rw [if_pos hg]
        refine bind_eq_ok.mpr ⟨_, (ih hlen).mpr ⟨?_, rfl⟩, rfl⟩
        intro i g hi
        rw [← hshift]
        exact hs (i + 1) g (by simpa using hi)

theorem assemble_eq_ok :
    assemble shape layout grids = .ok image ↔
      grids.length = layout.channels.length ∧
      (∀ i g, grids[i]? = some g → g.shape = layout.planeShape i shape) ∧
      image = ⟨shape, layout, List.zipWith Plane.mk layout.channels grids⟩ := by
  rw [assemble]
  by_cases hlen : grids.length = layout.channels.length
  · rw [if_neg (not_not_intro hlen)]
    constructor
    · intro h
      obtain ⟨planes, hp, h⟩ := bind_eq_ok.mp h
      obtain ⟨hs, rfl⟩ := (tagPlanes_eq_ok hlen).mp hp
      cases h
      exact ⟨hlen, fun i g hi => Nat.zero_add i ▸ hs i g hi, rfl⟩
    · rintro ⟨-, hs, rfl⟩
      refine bind_eq_ok.mpr ⟨_, (tagPlanes_eq_ok hlen).mpr ⟨?_, rfl⟩, rfl⟩
      intro i g hi
      rw [Nat.zero_add]
      exact hs i g hi
  · rw [if_pos hlen]
    constructor
    · intro h
      cases h
    · exact fun h => (hlen h.1).elim

theorem wellFormed_single (channel : Channel) (grid : Grid UInt8) :
    (single channel grid).WellFormed where
  count := rfl
  channels h := (h rfl).elim
  shapes i plane hi := by
    match i, hi with
    | 0, rfl => rfl

theorem wellFormed_of_assemble (h : assemble shape layout grids = .ok image) :
    image.WellFormed := by
  obtain ⟨hlen, hshapes, rfl⟩ := assemble_eq_ok.mp h
  refine ⟨?_, fun _ => map_channel_zipWith hlen, ?_⟩
  · rw [List.length_zipWith, hlen, Nat.min_self]
  · intro i plane hi
    obtain ⟨channel, grid, -, hgrid, rfl⟩ := List.getElem?_zipWith_eq_some.mp hi
    exact hshapes i grid hgrid

end Planar.Image
