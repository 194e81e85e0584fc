import Planar.Proofs.Divergence
import Planar.Proofs.ResizeShapes

/-! Resizing under a reference. It adds events and faults, and never changes a result. -/
namespace Planar

variable {α : Type} [Scalar α] {resizer : Resizer α} {reference image result : Image}
  {plane other : Plane} {planes : List Plane} {layout : Layout} {share target : Shape}
  {index : Nat} {channel : Channel} {grid : Grid UInt8} {grids : List (Grid UInt8)}
  {resampled : Grid α} {fault : Fault}

namespace Resizer

def unwatched (resizer : Resizer α) : Resizer α := { resizer with reference := none }

def watched (resizer : Resizer α) (reference : Image) : Resizer α :=
  { resizer with reference := some reference }

/-- The reference has no plane of this index, or one of another shape. -/
inductive Unmatched (reference : Image) (index : Nat) (resampled : Grid α) : Fault → Prop where
  | missing (h : reference.planes[index]? = none) :
    Unmatched reference index resampled
      (.mismatch .referenceCount (index + 1) reference.planes.length)
  | shape {plane : Plane} (h : reference.planes[index]? = some plane)
      (hs : resampled.shape ≠ plane.grid.shape) :
    Unmatched reference index resampled (.mismatch
      (.reference resampled.shape plane.grid.shape) resampled.samples.size plane.grid.samples.size)

/-- One event for every divergence, then their number unless there are none. -/
def report (channel other : Channel) (found : List (Divergence α)) : List (Event α) :=
  found.map (.sampleDiverges channel) ++
    if 0 < found.length then [.planeDiverges other found.length] else []

/-- What a resize logs of a plane whose samples the reference matches, or that ends up with none. -/
inductive Logs (resizer : Resizer α) (reference : Image) (share : Shape) (index : Nat)
    (plane : Plane) : List (Event α) → Prop where
  | empty (hs : share.area = 0) : Logs resizer reference share index plane []
  | scanned {resampled : Grid α} {other : Plane} (hs : share.area ≠ 0)
      (hk : resizer.kernel plane.grid share = .ok resampled)
      (ho : reference.planes[index]? = some other) (h : resampled.shape = other.grid.shape) :
    Logs resizer reference share index plane (report plane.channel other.channel
      (Divergence.strays resizer.config.threshold resampled other.grid.toScalar h))

/-- The plane of this index ends up with samples, and the reference has no match for them. -/
def Clashes (resizer : Resizer α) (reference image : Image) (index : Nat) (fault : Fault) : Prop :=
  let share := image.layout.planeShape index (resizer.config.targetFor image.shape)
  ∃ plane resampled, image.planes[index]? = some plane ∧ share.area ≠ 0 ∧
    resizer.kernel plane.grid share = .ok resampled ∧ Unmatched reference index resampled fault

theorem probe_of_unmatched (h : Unmatched reference index resampled fault) :
    ((resizer.watched reference).probe index channel resampled).outcome = .error fault := by
  cases h with
  | missing hnone => simp only [probe, watched, hnone, Logged.fail]
  | shape hsome hs =>
    simp only [probe, watched, hsome]
    rw [Logged.outcome_bind, Divergence.scan_of_shape_ne hs]
    simp only [Logged.ofExcept, Grid.toScalar, Grid.map, Array.size_map]
    rfl

theorem probe_of_shape (ho : reference.planes[index]? = some other)
    (h : resampled.shape = other.grid.shape) :
    (resizer.watched reference).probe index channel resampled =
      ⟨report channel other.channel
        (Divergence.strays resizer.config.threshold resampled other.grid.toScalar h), .ok ()⟩ := by
  simp only [probe, watched, ho]
  have hshape : resampled.shape = (other.grid.toScalar : Grid α).shape := h
  rw [Divergence.scan_of_shape hshape]
  cases Divergence.strays resizer.config.threshold resampled other.grid.toScalar h with
  | nil => rfl
  | cons d found => rfl

omit [Scalar α] in
/-- Every grid is matched by the reference or not. -/
theorem matched_or_unmatched (reference : Image) (index : Nat) (resampled : Grid α) :
    (∃ other, reference.planes[index]? = some other ∧ resampled.shape = other.grid.shape) ∨
      ∃ fault, Unmatched reference index resampled fault := by
  cases ho : reference.planes[index]? with
  | none => exact Or.inr ⟨_, .missing ho⟩
  | some other =>
    by_cases hs : resampled.shape = other.grid.shape
    · exact Or.inl ⟨other, rfl, hs⟩
    · exact Or.inr ⟨_, .shape ho hs⟩

theorem resizePlane_of_kernel (resizer : Resizer α) (index : Nat) (hs : share.area ≠ 0)
    (hk : resizer.kernel plane.grid share = .ok resampled) :
    resizer.resizePlane share index plane =
      resizer.probe index plane.channel resampled >>= fun _ => pure resampled.quantize := by
  rw [resizePlane, dif_neg hs, hk]
  rfl

/-- Resized without a reference, a plane is what the kernel makes of it, and nothing is logged. -/
theorem resizePlane_unwatched (hs : share.area ≠ 0)
    (hk : resizer.kernel plane.grid share = .ok resampled) :
    resizer.unwatched.resizePlane share index plane = pure resampled.quantize :=
  resizePlane_of_kernel resizer.unwatched index hs hk

theorem resizePlane_watched_of_unmatched (hs : share.area ≠ 0)
    (hk : resizer.kernel plane.grid share = .ok resampled)
    (hu : Unmatched reference index resampled fault) :
    ((resizer.watched reference).resizePlane share index plane).outcome = .error fault := by
  rw [resizePlane_of_kernel (resizer.watched reference) index hs hk, Logged.outcome_bind,
    probe_of_unmatched hu]
  rfl

theorem resizePlane_watched_of_shape (hs : share.area ≠ 0)
    (hk : resizer.kernel plane.grid share = .ok resampled)
    (ho : reference.planes[index]? = some other) (h : resampled.shape = other.grid.shape) :
    (resizer.watched reference).resizePlane share index plane =
      ⟨report plane.channel other.channel
        (Divergence.strays resizer.config.threshold resampled other.grid.toScalar h),
        .ok resampled.quantize⟩ := by
  rw [resizePlane_of_kernel (resizer.watched reference) index hs hk, probe_of_shape ho h,
    Logged.mk_bind]
  simp

theorem resizePlane_of_empty (resizer : Resizer α) (plane : Plane) (index : Nat)
    (hs : share.area = 0) :
    resizer.resizePlane share index plane = pure ⟨share, #[], hs.symm⟩ := by
  rw [resizePlane, dif_pos hs]

/-- A plane that passes the reference is resized the same without it. -/
theorem resizePlane_of_watched
    (h : ((resizer.watched reference).resizePlane share index plane).outcome = .ok grid) :
    (resizer.unwatched.resizePlane share index plane).outcome = .ok grid ∧
      Logs resizer reference share index plane
        ((resizer.watched reference).resizePlane share index plane).events := by
  by_cases hs : share.area = 0
  · rw [resizePlane_of_empty _ _ _ hs] at h
    rw [resizePlane_of_empty _ _ _ hs, resizePlane_of_empty _ _ _ hs]
    exact ⟨h, .empty hs⟩
  · obtain ⟨resampled, hk, rfl⟩ := kernel_of_resizePlane hs h
    have hk : resizer.kernel plane.grid share = .ok resampled := hk
    rcases matched_or_unmatched reference index resampled with ⟨other, ho, hshape⟩ | ⟨fault, hu⟩
    · rw [resizePlane_unwatched hs hk, resizePlane_watched_of_shape hs hk ho hshape]
      exact ⟨rfl, .scanned hs hk ho hshape⟩
    · cases h.symm.trans (resizePlane_watched_of_unmatched hs hk hu)

/-- Only an unmatched plane fails under a reference and not without it. -/
theorem unmatched_of_resizePlane
    (hok : (resizer.unwatched.resizePlane share index plane).outcome = .ok grid)
    (h : ((resizer.watched reference).resizePlane share index plane).outcome = .error fault) :
    share.area ≠ 0 ∧ ∃ resampled, resizer.kernel plane.grid share = .ok resampled ∧
      Unmatched reference index resampled fault := by
  by_cases hs : share.area = 0
  · rw [resizePlane_of_empty _ _ _ hs] at h
    cases h
  · obtain ⟨resampled, hk, -⟩ := kernel_of_resizePlane hs hok
    have hk : resizer.kernel plane.grid share = .ok resampled := hk
    refine ⟨hs, resampled, hk, ?_⟩
    rcases matched_or_unmatched reference index resampled with ⟨other, ho, hshape⟩ | ⟨other, hu⟩
    · rw [resizePlane_watched_of_shape hs hk ho hshape] at h
      cases h
    · cases h.symm.trans (resizePlane_watched_of_unmatched hs hk hu)
      exact hu

theorem not_clashes_of_resizePlane (hi : image.planes[index]? = some plane)
    (h : ((resizer.watched reference).resizePlane
      (image.layout.planeShape index (resizer.config.targetFor image.shape)) index plane).outcome =
        .ok grid) : ¬ resizer.Clashes reference image index fault := by
  rintro ⟨plane', resampled, hi', hs, hk, hu⟩
  obtain rfl := Option.some.inj (hi.symm.trans hi')
  cases h.symm.trans (resizePlane_watched_of_unmatched hs hk hu)

/-- The planes log one after the other. -/
theorem events_resizePlanes
    (h : (resizer.resizePlanes layout target index planes).outcome = .ok grids) :
    (resizer.resizePlanes layout target index planes).events =
      ((planes.zipIdx index).map fun (plane, i) =>
        (resizer.resizePlane (layout.planeShape i target) i plane).events).flatten := by
  induction planes generalizing index grids with
  | nil => rfl
  | cons plane planes ih =>
    rw [resizePlanes, Logged.outcome_bind] at h
    obtain ⟨grid, hgrid, h⟩ := bind_eq_ok.mp h
    rw [Logged.outcome_bind] at h
    obtain ⟨rest, hrest, -⟩ := bind_eq_ok.mp h
    rw [resizePlanes, Logged.events_bind_of_ok hgrid, Logged.events_bind_of_ok hrest, ih hrest,
      Logged.events_pure, List.append_nil, List.zipIdx_cons, List.map_cons, List.flatten_cons]

theorem resizePlanes_of_watched
    (h : ((resizer.watched reference).resizePlanes layout target index planes).outcome =
      .ok grids) :
    (resizer.unwatched.resizePlanes layout target index planes).outcome = .ok grids := by
  rw [outcome_resizePlanes] at h ⊢
  exact mapM_eq_ok.mpr ((mapM_eq_ok.mp h).imp fun _ _ hgrid => (resizePlane_of_watched hgrid).1)

/-- Images whose planes come out the same are put together the same. -/
theorem outcome_resizeImage_congr (first second : Resizer α) (hc : first.config = second.config)
    (hp : (first.resizePlanes image.layout (first.config.targetFor image.shape) 0
      image.planes).outcome = (second.resizePlanes image.layout
        (second.config.targetFor image.shape) 0 image.planes).outcome) :
    (first.resizeImage image).outcome = (second.resizeImage image).outcome := by
  rw [resizeImage, resizeImage]
  simp only [Logged.outcome_bind]
  rw [hp, hc]

theorem resizeImage_of_watched
    (h : ((resizer.watched reference).resizeImage image).outcome = .ok result) :
    (resizer.unwatched.resizeImage image).outcome = .ok result := by
  obtain ⟨-, grids, hgrids, -⟩ := resizeImage_eq_ok h
  rw [← h]
  exact outcome_resizeImage_congr _ _ rfl ((resizePlanes_of_watched hgrids).trans hgrids.symm)

/-- Whatever the reference, what comes out comes out without it. -/
theorem resizeImage_unwatched (h : (resizer.resizeImage image).outcome = .ok result) :
    (resizer.unwatched.resizeImage image).outcome = .ok result := by
  cases href : resizer.reference with
  | none =>
    have hsame : resizer.unwatched = resizer := by rw [unwatched, ← href]
    rw [hsame, h]
  | some reference =>
    have hsame : resizer.watched reference = resizer := by rw [watched, ← href]
    rw [← hsame] at h
    exact resizeImage_of_watched h

/-- A resize that fails under a reference only fails at the first plane that clashes with it. -/
theorem clashes_of_resizeImage
    (hok : (resizer.unwatched.resizeImage image).outcome = .ok result)
    (h : ((resizer.watched reference).resizeImage image).outcome = .error fault) :
    ∃ i, resizer.Clashes reference image i fault ∧
      ∀ j other, j < i → ¬ resizer.Clashes reference image j other := by
  obtain ⟨hallows, grids, hgrids, -⟩ := resizeImage_eq_ok hok
  -- Target and last checks are the same with and without a reference, so the planes decide.
  cases hp : ((resizer.watched reference).resizePlanes image.layout
      (resizer.config.targetFor image.shape) 0 image.planes).outcome with
  | ok grids' =>
    have hsame := outcome_resizeImage_congr (resizer.watched reference) resizer.unwatched rfl
      (hp.trans (resizePlanes_of_watched hp).symm)
    cases (h.symm.trans hsame).trans hok
  | error fault' =>
    have hout : ((resizer.watched reference).resizeImage image).outcome = .error fault' :=
      resizeImage_of_planes_error (outcome_checkTarget_of_allows hallows) hp
    obtain rfl := Except.error.inj (h.symm.trans hout)
    rw [outcome_resizePlanes] at hp hgrids
    obtain ⟨i, plane, hi, herror, hbefore⟩ := mapM_zipIdx_eq_error.mp hp
    obtain ⟨grid, -, hgrid⟩ := (mapM_zipIdx_eq_ok.mp hgrids).2 i plane hi
    obtain ⟨hs, resampled, hk, hu⟩ := unmatched_of_resizePlane hgrid herror
    refine ⟨i, ⟨plane, resampled, hi, hs, hk, hu⟩, ?_⟩
    -- Planes before the first that fails come out, which a clash would not let them.
    intro j other hj hclash
    have ⟨before, _, hi', _⟩ := hclash
    obtain ⟨grid', hgrid'⟩ := hbefore j before hj hi'
    exact not_clashes_of_resizePlane hi' hgrid' hclash

theorem not_clashes_of_resizeImage
    (h : ((resizer.watched reference).resizeImage image).outcome = .ok result) :
    ¬ resizer.Clashes reference image index fault := by
  intro hclash
  obtain ⟨-, grids, hgrids, -⟩ := resizeImage_eq_ok h
  have ⟨plane, _, hi, _⟩ := hclash
  rw [outcome_resizePlanes] at hgrids
  obtain ⟨grid, -, hgrid⟩ := (mapM_zipIdx_eq_ok.mp hgrids).2 index plane hi
  exact not_clashes_of_resizePlane hi hgrid hclash

theorem events_resizeImage (h : (resizer.resizeImage image).outcome = .ok result) :
    (resizer.resizeImage image).events = (image.planes.zipIdx.map fun (plane, i) =>
      (resizer.resizePlane (image.layout.planeShape i (resizer.config.targetFor image.shape)) i
        plane).events).flatten := by
  obtain ⟨hallows, grids, hgrids, -⟩ := resizeImage_eq_ok h
  rw [resizeImage, checkTarget_of_allows hallows,
    Logged.events_bind_of_ok (Logged.outcome_pure ()), Logged.events_bind_of_ok hgrids,
    events_resizePlanes hgrids]
  exact List.append_nil _

/-- A resize that passes the reference logs what its planes do, in their order. -/
theorem logs_of_resizeImage
    (h : ((resizer.watched reference).resizeImage image).outcome = .ok result) :
    ∃ logs, ((resizer.watched reference).resizeImage image).events = logs.flatten ∧
      List.Forall₂ (fun (plane, i) => Logs resizer reference
        (image.layout.planeShape i (resizer.config.targetFor image.shape)) i plane)
        image.planes.zipIdx logs := by
  refine ⟨_, events_resizeImage h, ?_⟩
  obtain ⟨-, grids, hgrids, -⟩ := resizeImage_eq_ok h
  rw [outcome_resizePlanes] at hgrids
  rw [List.forall₂_map_right_iff, List.forall₂_same]
  intro x hx
  obtain ⟨grid, hgrid⟩ := exists_mapM_eq_ok.mp ⟨grids, hgrids⟩ x hx
  exact (resizePlane_of_watched hgrid).2

end Resizer

/-- A reference only observes. What passes it comes out as without it. What comes out without it
fails under it exactly when a plane clashes with it, at the first such plane. And a run that passes
it logs, plane by plane, the divergences row by row and then their number. -/
theorem reference_observes (resizer : Resizer α) (reference image : Image) :
    let share := fun i => image.layout.planeShape i (resizer.config.targetFor image.shape)
    let plain := (resizer.unwatched.resizeImage image).outcome
    let run := (resizer.watched reference).resizeImage image
    (∀ result, run.outcome = .ok result → plain = .ok result) ∧
    (∀ result, plain = .ok result →
      ((∃ fault, run.outcome = .error fault) ↔ ∃ i fault, resizer.Clashes reference image i fault) ∧
      ∀ fault, run.outcome = .error fault → ∃ i, resizer.Clashes reference image i fault ∧
        ∀ j other, j < i → ¬ resizer.Clashes reference image j other) ∧
    ∀ result, run.outcome = .ok result → ∃ logs, run.events = logs.flatten ∧
      List.Forall₂ (fun (plane, i) => Resizer.Logs resizer reference (share i) i plane)
        image.planes.zipIdx logs := by
  intro share plain run
  refine ⟨fun result => Resizer.resizeImage_of_watched, ?_,
    fun result => Resizer.logs_of_resizeImage⟩
  intro result hplain
  refine ⟨⟨?_, ?_⟩, fun fault => Resizer.clashes_of_resizeImage hplain⟩
  · rintro ⟨fault, hrun⟩
    obtain ⟨i, hclash, -⟩ := Resizer.clashes_of_resizeImage hplain hrun
    exact ⟨i, fault, hclash⟩
  · rintro ⟨i, fault, hclash⟩
    cases hrun : run.outcome with
    | error fault' => exact ⟨fault', rfl⟩
    | ok result' => exact (Resizer.not_clashes_of_resizeImage hrun hclash).elim

/-- A row passes a reference that is far off at its second sample, and fails under one of another
shape. -/
theorem reference_observes_row :
    let image := Image.single .gray ⟨⟨2, 1⟩, #[0, 100], rfl⟩
    let near := Image.single .gray ⟨⟨2, 1⟩, #[0, 50], rfl⟩
    let other := Image.single .gray ⟨⟨1, 1⟩, #[0], rfl⟩
    let resizer : Resizer Rat :=
      ⟨(SourceFormat.dump ⟨2, 1⟩ .gray).decode, RawFormat.dump.encode, Kernel.bilinear,
        ResizeConfig.default, none⟩
    (resizer.watched near).resizeImage image =
      ⟨[.sampleDiverges .gray ⟨0, 1, 100, 50⟩, .planeDiverges .gray 1], .ok image⟩ ∧
    (resizer.unwatched.resizeImage image).outcome = .ok image ∧
    ∃ i fault, resizer.Clashes other image i fault := by
  intro image near other resizer
  have hnear : (resizer.watched near).resizeImage image =
      ⟨[.sampleDiverges .gray ⟨0, 1, 100, 50⟩, .planeDiverges .gray 1], .ok image⟩ := by cbv
  obtain ⟨hplain, -, -⟩ := reference_observes resizer near image
  have himage : (resizer.unwatched.resizeImage image).outcome = .ok image :=
    hplain image (congrArg Logged.outcome hnear)
  have hother : ((resizer.watched other).resizeImage image).outcome =
      .error (.mismatch (.reference ⟨2, 1⟩ ⟨1, 1⟩) 2 1) := by cbv
  obtain ⟨-, hclash, -⟩ := reference_observes resizer other image
  exact ⟨hnear, himage, (hclash image himage).1.mp ⟨_, hother⟩⟩

end Planar
