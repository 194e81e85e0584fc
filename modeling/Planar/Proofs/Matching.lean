import Planar.Comparer
import Planar.Proofs.Fidelity

/-! Which images can be compared, and the first fault of others. -/
namespace Planar

variable {a b native reference candidate : Labelled} {fault : Fault} {i : Nat} {x y : Plane}
  {grids : List (Grid UInt8)}

/-- The shapes of the planes, in order. -/
def Image.shapes (image : Image) : List Shape := image.planes.map fun plane => plane.grid.shape

theorem Image.shapes_eq_iff {a b : Image} : a.shapes = b.shapes ↔
    a.planes.length = b.planes.length ∧ ∀ (i : Nat) (x y : Plane),
      a.planes[i]? = some x → b.planes[i]? = some y → x.grid.shape = y.grid.shape := by
  constructor
  · intro h
    refine ⟨by simpa [shapes] using congrArg List.length h, ?_⟩
    intro i x y hx hy
    have hi : a.shapes[i]? = b.shapes[i]? := by rw [h]
    simpa [shapes, hx, hy] using hi
  · rintro ⟨hlen, h⟩
    refine List.ext_getElem (by simpa [shapes] using hlen) ?_
    intro i hi hi'
    simp only [shapes, List.getElem_map]
    rw [shapes, List.length_map] at hi hi'
    exact h i _ _ (List.getElem?_eq_getElem hi) (List.getElem?_eq_getElem hi')

/-- Images to compare match plane by plane, and the native image covers each of their planes. -/
structure Comparable (native reference candidate : Image) : Prop where
  matching : reference.shapes = candidate.shapes
  count : native.planes.length = reference.planes.length
  covered : ∀ (i : Nat) (n r : Plane), native.planes[i]? = some n → reference.planes[i]? = some r →
    r.grid.shape.FitsIn n.grid.shape

theorem Comparable.of_zip {native reference candidate : Image}
    (hmatching : reference.shapes = candidate.shapes)
    (hcount : native.planes.length = reference.planes.length)
    (hcovered : ∀ pair ∈ native.planes.zip reference.planes,
      pair.2.grid.shape.FitsIn pair.1.grid.shape) : Comparable native reference candidate where
  matching := hmatching
  count := hcount
  covered _ n r hn hr :=
    hcovered (n, r) (List.mem_of_getElem? (List.getElem?_zip_eq_some.mpr ⟨hn, hr⟩))

/-- The fault of two images that do not match, which is that of the first differing plane if there
are as many planes in both. -/
inductive Unmatched (a b : Labelled) : Fault → Prop
  | count (h : a.image.planes.length ≠ b.image.planes.length) :
    Unmatched a b (.mismatch (.labelledCount a.label b.label)
      a.image.planes.length b.image.planes.length)
  | plane (i : Nat) (x y : Plane) (hcount : a.image.planes.length = b.image.planes.length)
    (hx : a.image.planes[i]? = some x) (hy : b.image.planes[i]? = some y)
    (hfirst : ∀ (j : Nat) (x y : Plane), j < i → a.image.planes[j]? = some x →
      b.image.planes[j]? = some y → x.grid.shape = y.grid.shape)
    (hne : x.grid.shape ≠ y.grid.shape) :
    Unmatched a b (.mismatch
      (.labelledPlane x.channel a.label x.grid.shape b.label y.grid.shape)
      x.grid.samples.size y.grid.samples.size)

/-- The fault of a native image that does not cover a reference, which is that of the reference's
first plane that is not covered if there are as many planes in both. -/
inductive Uncovered (native reference : Labelled) : Fault → Prop
  | count (h : native.image.planes.length ≠ reference.image.planes.length) :
    Uncovered native reference (.mismatch (.nativeCount native.label)
      reference.image.planes.length native.image.planes.length)
  | plane (i : Nat) (n r : Plane)
    (hcount : native.image.planes.length = reference.image.planes.length)
    (hn : native.image.planes[i]? = some n) (hr : reference.image.planes[i]? = some r)
    (hfirst : ∀ (j : Nat) (n r : Plane), j < i → native.image.planes[j]? = some n →
      reference.image.planes[j]? = some r → r.grid.shape.FitsIn n.grid.shape)
    (hfit : ¬ r.grid.shape.FitsIn n.grid.shape) :
    Uncovered native reference (.badShape r.grid.shape)

namespace Comparer

theorem matchPlanes_eq (pairs : List (Plane × Plane)) :
    matchPlanes a b pairs = pairs.mapM (matchPair a b) >>= fun _ => .ok () := by
  induction pairs with
  | nil => rfl
  | cons pair pairs ih =>
    rw [matchPlanes, List.mapM_cons, ih]
    cases matchPair a b pair with
    | error fault => rfl
    | ok _ =>
      cases pairs.mapM (matchPair a b) with
      | error fault => rfl
      | ok units => rfl

theorem matchPair_isOk : (∃ u, matchPair a b (x, y) = .ok u) ↔ x.grid.shape = y.grid.shape := by
  simp [matchPair]

theorem matchImages_eq_ok : matchImages a b = .ok () ↔ a.image.shapes = b.image.shapes := by
  have hpairs : (∃ units, (a.image.planes.zip b.image.planes).mapM (matchPair a b) = .ok units) ↔
      ∀ (i : Nat) (x y : Plane), a.image.planes[i]? = some x → b.image.planes[i]? = some y →
        x.grid.shape = y.grid.shape := by
    rw [exists_mapM_zip_eq_ok]
    simp only [matchPair_isOk]
  rw [Image.shapes_eq_iff, matchImages]
  split
  · rename_i hcount
    rw [matchPlanes_eq, bind_eq_ok, ← hpairs]
    constructor
    · rintro ⟨units, hunits, -⟩
      exact ⟨hcount, units, hunits⟩
    · rintro ⟨-, units, hunits⟩
      exact ⟨units, hunits, rfl⟩
  · rename_i hcount
    constructor
    · intro h
      cases h
    · exact fun h => (hcount h.1).elim

theorem matchImages_eq_error : matchImages a b = .error fault ↔ Unmatched a b fault := by
  rw [matchImages]
  split
  · rename_i hcount
    rw [matchPlanes_eq, bind_eq_error, mapM_zip_eq_error]
    constructor
    · rintro (⟨i, x, y, hx, hy, hne, hfirst⟩ | ⟨-, -, h⟩)
      · simp only [matchPair_isOk] at hfirst
        unfold matchPair at hne
        split at hne
        · cases hne
        · rename_i hdiffer
          cases hne
          exact .plane i x y hcount hx hy hfirst hdiffer
      · cases h
    · intro h
      cases h with
      | count h => exact (h hcount).elim
      | plane i x y hcount hx hy hfirst hne =>
        refine Or.inl ⟨i, x, y, hx, hy, if_neg hne, ?_⟩
        intro j x y hj hx hy
        exact matchPair_isOk.mpr (hfirst j x y hj hx hy)
  · rename_i hcount
    constructor
    · intro h
      cases h
      exact .count hcount
    · intro h
      cases h with
      | count h => rfl
      | plane i x y hcount' => exact (hcount hcount').elim

theorem subsample_isOk : (∃ grid, subsample x.grid y.grid.shape = .ok grid) ↔
    y.grid.shape.FitsIn x.grid.shape := by
  constructor
  · rintro ⟨grid, h⟩
    exact (subsample_eq_ok h).1
  · intro h
    obtain ⟨grid, hgrid, -⟩ := subsample_of_fits h
    exact ⟨grid, hgrid⟩

theorem baselines_isOk : (∃ grids, baselines native reference = .ok grids) ↔
    native.image.planes.length = reference.image.planes.length ∧
      ∀ (i : Nat) (n r : Plane), native.image.planes[i]? = some n →
        reference.image.planes[i]? = some r → r.grid.shape.FitsIn n.grid.shape := by
  rw [baselines]
  split
  · rename_i hcount
    rw [exists_mapM_zip_eq_ok]
    simp only [subsample_isOk]
    exact ⟨fun h => ⟨hcount, h⟩, fun h => h.2⟩
  · rename_i hcount
    constructor
    · rintro ⟨grids, h⟩
      cases h
    · exact fun h => (hcount h.1).elim

theorem baselines_eq_error : baselines native reference = .error fault ↔
    Uncovered native reference fault := by
  rw [baselines]
  split
  · rename_i hcount
    rw [mapM_zip_eq_error]
    simp only [subsample_isOk]
    constructor
    · rintro ⟨i, n, r, hn, hr, hfault, hfirst⟩
      have hfit : ¬ r.grid.shape.FitsIn n.grid.shape := by
        intro hfit
        obtain ⟨grid, hgrid⟩ := subsample_isOk.mpr hfit
        cases hgrid.symm.trans hfault
      cases (subsample_of_not_fits hfit).symm.trans hfault
      exact .plane i n r hcount hn hr hfirst hfit
    · intro h
      cases h with
      | count h => exact (h hcount).elim
      | plane i n r hcount hn hr hfirst hfit =>
        exact ⟨i, n, r, hn, hr, subsample_of_not_fits hfit, hfirst⟩
  · rename_i hcount
    constructor
    · intro h
      cases h
      exact .count hcount
    · intro h
      cases h with
      | count h => rfl
      | plane i n r hcount' => exact (hcount hcount').elim

/-- Baselines are as many and as large as the planes of the reference. -/
theorem shapes_of_baselines (h : baselines native reference = .ok grids) :
    native.image.planes.length = reference.image.planes.length ∧
      grids.map Grid.shape = reference.image.shapes := by
  obtain ⟨hcount, -⟩ := baselines_isOk.mp ⟨grids, h⟩
  rw [baselines, if_pos hcount] at h
  have hall := (mapM_eq_ok.mp h).imp fun pair grid hg => (subsample_eq_ok hg).2
  refine ⟨hcount, ?_⟩
  calc grids.map Grid.shape
      = (native.image.planes.zip reference.image.planes).map fun pair => pair.2.grid.shape :=
        map_eq_map_of_forall₂ hall
    _ = ((native.image.planes.zip reference.image.planes).map Prod.snd).map
          fun plane => plane.grid.shape := by rw [List.map_map, Function.comp_def]
    _ = reference.image.shapes := by rw [List.map_snd_zip hcount.ge, Image.shapes]

theorem length_of_baselines (h : baselines native reference = .ok grids) :
    grids.length = reference.image.planes.length := by
  obtain ⟨-, hshapes⟩ := shapes_of_baselines h
  simpa [Image.shapes] using congrArg List.length hshapes

/-- Baselines have samples. -/
theorem size_pos_of_baselines (hgrids : baselines native reference = .ok grids)
    {grid : Grid UInt8} (h : grids[i]? = some grid) : 0 < grid.samples.size := by
  obtain ⟨hcount, hfits⟩ := baselines_isOk.mp ⟨grids, hgrids⟩
  obtain ⟨-, hshapes⟩ := shapes_of_baselines hgrids
  have hi : (reference.image.planes.map fun plane => plane.grid.shape)[i]? = some grid.shape := by
    rw [← Image.shapes, ← hshapes, List.getElem?_map, h]
    rfl
  rw [List.getElem?_map, Option.map_eq_some_iff] at hi
  obtain ⟨r, hr, hshape⟩ := hi
  obtain ⟨hlt, -⟩ := List.getElem?_eq_some_iff.mp hr
  have hn := List.getElem?_eq_getElem (hcount ▸ hlt : i < native.image.planes.length)
  obtain ⟨hwidth, hheight, -⟩ := hfits i _ r hn hr
  rw [grid.size_samples, ← hshape]
  exact Nat.mul_pos hwidth hheight

end Comparer

end Planar
