import Planar.Proofs.Matching
import Planar.Proofs.World

/-! Comparisons: when there is a report, what it says, and how they fail without one. -/
namespace Planar

variable {α : Type} [Scalar α] [Analytic α]

namespace Comparer

/-- All difference maps are made before anything is drawn of them. -/
theorem comparePlanes_eq (comparer : Comparer α) (reference candidate : Labelled)
    (pairs : List (Plane × Plane)) :
    comparer.comparePlanes reference candidate pairs =
      pairs.mapM (difference α) >>= fun maps =>
      .ok (List.zipWith comparer.comparison pairs maps,
        (List.zipWith (comparer.drawings reference candidate) pairs maps).flatten) := by
  induction pairs with
  | nil => rfl
  | cons pair pairs ih =>
    rw [comparePlanes, ih, List.mapM_cons]
    cases difference α pair with
    | error fault => rfl
    | ok map =>
      cases pairs.mapM (difference α) with
      | error fault => rfl
      | ok maps => rfl

end Comparer

/-- A summary with an entry for each plane, in order, that holds the plane against the baseline of
the same position. -/
structure ImageSummary.Of (summary : ImageSummary α) (label : String) (planes : List Plane)
    (baselines : List (Grid UInt8)) : Prop where
  label_eq : summary.label = label
  count : summary.planes.length = planes.length
  entries : ∀ (i : Nat) (s : PlaneSummary α), summary.planes[i]? = some s →
    ∃ p g, planes[i]? = some p ∧ baselines[i]? = some g ∧ s.channel = p.channel ∧
      Summary.of p.grid.toScalar g.toScalar = .ok s.summary

namespace Comparer

theorem summarize_of_shapes (label : String) {planes : List Plane} {grids : List (Grid UInt8)}
    (h : planes.map (fun plane => plane.grid.shape) = grids.map Grid.shape) :
    ∃ summary : ImageSummary α, summarize label planes grids = .ok summary ∧
      summary.Of label planes grids := by
  have hlen : planes.length = grids.length := by simpa using congrArg List.length h
  have hpairs : ∀ (i : Nat) (p : Plane) (g : Grid UInt8), planes[i]? = some p →
      grids[i]? = some g → p.grid.shape = g.shape := by
    intro i p g hp hg
    have hi := congrArg (fun shapes => shapes[i]?) h
    simpa [hp, hg] using hi
  obtain ⟨entries, hentries⟩ : ∃ entries,
      (planes.zip grids).mapM (fun (pair : Plane × Grid UInt8) => (do
        let summary ← Summary.of pair.1.grid.toScalar pair.2.toScalar
        return PlaneSummary.mk pair.1.channel summary : Except Fault (PlaneSummary α))) =
      .ok entries := by
    refine exists_mapM_zip_eq_ok.mpr ?_
    intro i p g hp hg
    obtain ⟨summary, hsummary⟩ := summary_of_shape (α := α) (hpairs i p g hp hg)
    exact ⟨_, bind_eq_ok.mpr ⟨summary, hsummary, rfl⟩⟩
  refine ⟨⟨label, entries⟩, bind_eq_ok.mpr ⟨entries, hentries, rfl⟩, rfl, ?_, ?_⟩
  · rw [(mapM_eq_ok_at.mp hentries).1, List.length_zip, hlen, Nat.min_self]
  · intro i s hs
    obtain ⟨⟨p, g⟩, hpair, hsummary⟩ := getElem?_of_mapM hentries hs
    obtain ⟨hp, hg⟩ := List.getElem?_zip_eq_some.mp hpair
    obtain ⟨summary, hof, hsummary⟩ := bind_eq_ok.mp hsummary
    cases hsummary
    exact ⟨p, g, hp, hg, rfl, hof⟩

end Comparer

/-- What a report says: it sums up the subsampled native image, the reference and the candidate, the
first without noise, and has one comparison for each pair of planes. -/
structure Report.Of (report : Report α) (thresholds : List α)
    (native reference candidate : Labelled) : Prop where
  labels : report.referenceLabel = reference.label ∧ report.candidateLabel = candidate.label
  summaries : ∃ (baselines : List (Grid UInt8)) (first second third : ImageSummary α),
    Comparer.baselines native reference = .ok baselines ∧
      report.summaries = [first, second, third] ∧
      first.Of s!"{native.label} (subsampled)"
        (List.zipWith (fun p grid => Plane.mk p.channel grid) native.image.planes baselines)
        baselines ∧
      second.Of reference.label reference.image.planes baselines ∧
      third.Of candidate.label candidate.image.planes baselines ∧
      ∀ s ∈ first.planes, s.summary.psnr = .unbounded
  counts : ∀ summary ∈ report.summaries, summary.planes.length = reference.image.planes.length
  comparisons : report.comparisons.length = reference.image.planes.length ∧
    ∀ (i : Nat) (c : PlaneComparison α), report.comparisons[i]? = some c →
      ∃ x y map, reference.image.planes[i]? = some x ∧ candidate.image.planes[i]? = some y ∧
        DifferenceMap.between x.grid.toScalar y.grid.toScalar = .ok map ∧
        c = ⟨x.channel, Comparison.ofMap map thresholds⟩

namespace Comparer

variable {native reference candidate : Labelled} {grids : List (Grid UInt8)}

omit [Analytic α] in
variable (α) in
theorem exists_differences (h : reference.image.shapes = candidate.image.shapes) :
    ∃ maps, (reference.image.planes.zip candidate.image.planes).mapM (difference α) = .ok maps := by
  obtain ⟨-, hshapes⟩ := Image.shapes_eq_iff.mp h
  refine exists_mapM_zip_eq_ok.mpr ?_
  intro i x y hx hy
  exact differenceMap_of_shape (hshapes i x y hx hy)

/-- Planes of the native image, subsampled, hold their baselines' samples. -/
theorem shapes_subsampled (h : baselines native reference = .ok grids) :
    (List.zipWith (fun p grid => Plane.mk p.channel grid) native.image.planes grids).map
      (fun plane => plane.grid.shape) = grids.map Grid.shape := by
  have hlen : grids.length = native.image.planes.length :=
    (length_of_baselines h).trans (shapes_of_baselines h).1.symm
  calc _ = (native.image.planes.zip grids).map fun pair => pair.2.shape := by
        rw [List.map_zipWith, List.zip, List.map_zipWith]
    _ = ((native.image.planes.zip grids).map Prod.snd).map Grid.shape := by
        rw [List.map_map, Function.comp_def]
    _ = grids.map Grid.shape := by rw [List.map_snd_zip hlen.le]

/-- The subsampled native image is its own baseline. -/
theorem unbounded_of_subsampled [ZeroLaws α] {summary : ImageSummary α} {label : String}
    (hgrids : baselines native reference = .ok grids)
    (h : summary.Of label
      (List.zipWith (fun p grid => Plane.mk p.channel grid) native.image.planes grids) grids) :
    ∀ s ∈ summary.planes, s.summary.psnr = .unbounded := by
  intro s hs
  obtain ⟨i, hi⟩ := List.mem_iff_getElem?.mp hs
  obtain ⟨p, g, hp, hg, -, hof⟩ := h.entries i s hi
  obtain ⟨n, grid, -, hgrid, rfl⟩ := List.getElem?_zipWith_eq_some.mp hp
  obtain rfl := Option.some.inj (hgrid.symm.trans hg)
  exact psnr_of_self (size_pos_of_baselines hgrids hg) hof

theorem comparisons_of_differences (comparer : Comparer α) {maps : List (DifferenceMap α)}
    (hcount : reference.image.planes.length = candidate.image.planes.length)
    (h : (reference.image.planes.zip candidate.image.planes).mapM (difference α) = .ok maps) :
    let comparisons := List.zipWith comparer.comparison
      (reference.image.planes.zip candidate.image.planes) maps
    comparisons.length = reference.image.planes.length ∧
      ∀ (i : Nat) (c : PlaneComparison α), comparisons[i]? = some c →
        ∃ x y map, reference.image.planes[i]? = some x ∧ candidate.image.planes[i]? = some y ∧
          DifferenceMap.between x.grid.toScalar y.grid.toScalar = .ok map ∧
          c = ⟨x.channel, Comparison.ofMap map comparer.config.thresholds⟩ := by
  refine ⟨?_, ?_⟩
  · rw [List.length_zipWith, (mapM_eq_ok_at.mp h).1, List.length_zip, ← hcount, Nat.min_self,
      Nat.min_self]
  · intro i c hc
    obtain ⟨pair, map, hpair, hmap, rfl⟩ := List.getElem?_zipWith_eq_some.mp hc
    obtain ⟨pair', hpair', hdifference⟩ := getElem?_of_mapM h hmap
    obtain rfl := Option.some.inj (hpair.symm.trans hpair')
    obtain ⟨hx, hy⟩ := List.getElem?_zip_eq_some.mp hpair
    exact ⟨_, _, map, hx, hy, hdifference, rfl⟩

/-- Once the images match and have baselines, nothing fails. -/
theorem assess_of_comparable [ZeroLaws α] (comparer : Comparer α)
    (h : Comparable native.image reference.image candidate.image) :
    ∃ report maps,
      (reference.image.planes.zip candidate.image.planes).mapM (difference α) = .ok maps ∧
      comparer.assess native reference candidate = .ok (report,
        (List.zipWith (comparer.drawings reference candidate)
          (reference.image.planes.zip candidate.image.planes) maps).flatten) ∧
      report.artifacts = [] ∧
      report.Of comparer.config.thresholds native reference candidate := by
  obtain ⟨hcount, -⟩ := Image.shapes_eq_iff.mp h.matching
  obtain ⟨grids, hgrids⟩ := baselines_isOk.mpr ⟨h.count, h.covered⟩
  obtain ⟨-, hshapes⟩ := shapes_of_baselines hgrids
  obtain ⟨maps, hmaps⟩ := exists_differences α h.matching
  have hcompared := comparePlanes_eq comparer reference candidate
    (reference.image.planes.zip candidate.image.planes)
  rw [hmaps] at hcompared
  obtain ⟨first, hfirst, hfirstOf⟩ := summarize_of_shapes (α := α)
    s!"{native.label} (subsampled)" (shapes_subsampled hgrids)
  obtain ⟨second, hsecond, hsecondOf⟩ := summarize_of_shapes (α := α) reference.label hshapes.symm
  obtain ⟨third, hthird, hthirdOf⟩ := summarize_of_shapes (α := α) candidate.label
    (h.matching.symm.trans hshapes.symm)
  refine ⟨⟨reference.label, candidate.label, [first, second, third],
    List.zipWith comparer.comparison (reference.image.planes.zip candidate.image.planes) maps, []⟩,
    maps, hmaps, ?_, rfl, ⟨⟨rfl, rfl⟩, ?_, ?_, comparisons_of_differences comparer hcount hmaps⟩⟩
  · exact bind_eq_ok.mpr ⟨(), matchImages_eq_ok.mpr h.matching, bind_eq_ok.mpr ⟨grids, hgrids,
      bind_eq_ok.mpr ⟨[first, second, third],
        mapM_eq_ok.mpr (.cons hfirst (.cons hsecond (.cons hthird .nil))),
        bind_eq_ok.mpr ⟨_, hcompared, rfl⟩⟩⟩⟩
  · exact ⟨grids, first, second, third, hgrids, rfl, hfirstOf, hsecondOf, hthirdOf,
      unbounded_of_subsampled hgrids hfirstOf⟩
  · have hfirstCount := hfirstOf.count
    rw [List.length_zipWith, length_of_baselines hgrids, h.count, Nat.min_self] at hfirstCount
    intro summary hs
    simp only [List.mem_cons, List.not_mem_nil, or_false] at hs
    rcases hs with rfl | rfl | rfl
    · exact hfirstCount
    · exact hsecondOf.count
    · exact hthirdOf.count.trans hcount.symm

theorem assess_eq_error [ZeroLaws α] (comparer : Comparer α) {fault : Fault} :
    comparer.assess native reference candidate = .error fault ↔
      Unmatched reference candidate fault ∨
        reference.image.shapes = candidate.image.shapes ∧ Uncovered native reference fault := by
  constructor
  · intro h
    rcases bind_eq_error.mp h with hmatch | ⟨⟨⟩, hmatch, hrest⟩
    · exact Or.inl (matchImages_eq_error.mp hmatch)
    have hmatching := matchImages_eq_ok.mp hmatch
    rcases bind_eq_error.mp hrest with hgrids | ⟨grids, hgrids, -⟩
    · exact Or.inr ⟨hmatching, baselines_eq_error.mp hgrids⟩
    obtain ⟨hcount, hfits⟩ := baselines_isOk.mp ⟨grids, hgrids⟩
    obtain ⟨report, maps, -, hok, -⟩ := comparer.assess_of_comparable ⟨hmatching, hcount, hfits⟩
    cases hok.symm.trans h
  · rintro (h | ⟨hmatching, h⟩)
    · exact bind_eq_error.mpr (Or.inl (matchImages_eq_error.mpr h))
    · exact bind_eq_error.mpr (Or.inr ⟨(), matchImages_eq_ok.mpr hmatching,
        bind_eq_error.mpr (Or.inl (baselines_eq_error.mpr h))⟩)

theorem on_compare_of_error (comparer : Comparer α) {fault : Fault} {world : World α}
    (h : comparer.assess native reference candidate = .error fault) :
    Task.on (comparer.compare native reference candidate) world = (.error fault, world) := by
  rw [compare, Task.on_bind, h]
  rfl

theorem on_compare_of_ok (comparer : Comparer α) {report : Report α} {drawings : List Drawing}
    {world : World α} (h : comparer.assess native reference candidate = .ok (report, drawings)) :
    Task.on (comparer.compare native reference candidate) world =
      Task.on (do
        if drawings ≠ [] then Task.makeFolders comparer.config.folder
        let artifacts ← comparer.writeDrawings drawings
        return { report with artifacts }) world := by
  rw [compare, Task.on_bind, h]
  rfl

/-- An assessment that succeeds is of comparable images, and draws the pictures of their difference
maps. -/
theorem assess_eq_ok {comparer : Comparer α} {report : Report α} {drawings : List Drawing}
    (h : comparer.assess native reference candidate = .ok (report, drawings)) :
    Comparable native.image reference.image candidate.image ∧ report.artifacts = [] ∧ ∃ maps,
      (reference.image.planes.zip candidate.image.planes).mapM (difference α) = .ok maps ∧
      drawings = (List.zipWith (comparer.drawings reference candidate)
        (reference.image.planes.zip candidate.image.planes) maps).flatten := by
  obtain ⟨⟨⟩, hmatch, h⟩ := bind_eq_ok.mp h
  obtain ⟨grids, hgrids, h⟩ := bind_eq_ok.mp h
  obtain ⟨summaries, -, h⟩ := bind_eq_ok.mp h
  obtain ⟨⟨comparisons, all⟩, hcompared, h⟩ := bind_eq_ok.mp h
  cases h
  rw [comparePlanes_eq] at hcompared
  obtain ⟨maps, hmaps, hcompared⟩ := bind_eq_ok.mp hcompared
  cases hcompared
  obtain ⟨hcount, hfits⟩ := baselines_isOk.mp ⟨grids, hgrids⟩
  exact ⟨⟨matchImages_eq_ok.mp hmatch, hcount, hfits⟩, rfl, maps, hmaps, rfl⟩

theorem assess_isOk [ZeroLaws α] (comparer : Comparer α) :
    (∃ result, comparer.assess native reference candidate = .ok result) ↔
      Comparable native.image reference.image candidate.image := by
  constructor
  · rintro ⟨⟨report, drawings⟩, h⟩
    exact (assess_eq_ok h).1
  · intro h
    obtain ⟨report, maps, -, hok, -⟩ := comparer.assess_of_comparable h
    exact ⟨_, hok⟩

omit [Analytic α] in
theorem drawings_eq_nil (comparer : Comparer α) (h : comparer.config.writePictures = false)
    (pairs : List (Plane × Plane)) (maps : List (DifferenceMap α)) :
    (List.zipWith (comparer.drawings reference candidate) pairs maps).flatten = [] := by
  rw [List.flatten_eq_nil_iff]
  intro drawings hd
  obtain ⟨i, hi⟩ := List.mem_iff_getElem?.mp hd
  obtain ⟨pair, map, -, -, rfl⟩ := List.getElem?_zipWith_eq_some.mp hi
  rw [Comparer.drawings, h]
  rfl

theorem on_compare_without_pictures (comparer : Comparer α) {report : Report α} {world : World α}
    (hartifacts : report.artifacts = [])
    (h : comparer.assess native reference candidate = .ok (report, [])) :
    Task.on (comparer.compare native reference candidate) world = (.ok report, world) := by
  obtain ⟨labelA, labelB, summaries, comparisons, artifacts⟩ := report
  cases hartifacts
  rw [on_compare_of_ok comparer h]
  rfl

end Comparer

/-- A comparison without pictures succeeds on comparable images and no others, which fail as their
first differing plane does, or else as the first that is not covered. -/
theorem compare_outcome [ZeroLaws α] (comparer : Comparer α)
    (native reference candidate : Labelled) (world : World α)
    (h : comparer.config.writePictures = false) :
    let outcome := (Task.on (comparer.compare native reference candidate) world).1
    ((∃ report, outcome = .ok report) ↔
        Comparable native.image reference.image candidate.image) ∧
      (∀ fault, outcome = .error fault ↔ Unmatched reference candidate fault ∨
        reference.image.shapes = candidate.image.shapes ∧ Uncovered native reference fault) ∧
      ∀ report, outcome = .ok report → report.artifacts = [] ∧
        report.Of comparer.config.thresholds native reference candidate := by
  intro outcome
  by_cases hc : Comparable native.image reference.image candidate.image
  · obtain ⟨report, maps, -, hok, hartifacts, hof⟩ := comparer.assess_of_comparable hc
    rw [comparer.drawings_eq_nil h] at hok
    have houtcome : outcome = .ok report :=
      congrArg Prod.fst (comparer.on_compare_without_pictures hartifacts hok)
    refine ⟨⟨fun _ => hc, fun _ => ⟨report, houtcome⟩⟩, ?_, ?_⟩
    · intro fault
      rw [houtcome, ← comparer.assess_eq_error, hok]
      simp
    · intro other hother
      cases houtcome.symm.trans hother
      exact ⟨hartifacts, hof⟩
  · rcases hassess : comparer.assess native reference candidate with fault | result
    · have houtcome : outcome = .error fault :=
        congrArg Prod.fst (comparer.on_compare_of_error hassess)
      refine ⟨⟨?_, fun h => (hc h).elim⟩, ?_, ?_⟩
      · rintro ⟨report, hreport⟩
        cases houtcome.symm.trans hreport
      · intro other
        rw [houtcome, ← comparer.assess_eq_error, hassess]
        simp
      · intro report hreport
        cases houtcome.symm.trans hreport
    · exact (hc (comparer.assess_isOk.mp ⟨result, hassess⟩)).elim

/-- Planes of odd sides have baselines at whole steps, and one wider than the native image's has
none. -/
theorem compare_outcome_odd :
    let comparer : Comparer Float :=
      ⟨.png, { ComparisonConfig.default with writePictures := false }⟩
    let frame (luma chroma : Shape) : Image := ⟨luma, .yuv420,
      [⟨.y, Grid.ofFn luma fun _ _ => 9⟩, ⟨.cb, Grid.ofFn chroma fun _ _ => 9⟩,
        ⟨.cr, Grid.ofFn chroma fun _ _ => 9⟩]⟩
    let native : Labelled := ⟨"native", frame ⟨5, 3⟩ ⟨2, 1⟩⟩
    let small : Labelled := ⟨"small", frame ⟨3, 2⟩ ⟨1, 1⟩⟩
    let wide : Labelled := ⟨"wide", frame ⟨6, 3⟩ ⟨3, 1⟩⟩
    let outcome (reference candidate : Labelled) :=
      (Task.on (comparer.compare native reference candidate) ⟨.empty, []⟩).1
    comparer.config.writePictures = false ∧
      (∃ report, outcome small small = .ok report ∧
        report.Of comparer.config.thresholds native small small) ∧
      outcome wide wide = .error (.badShape ⟨6, 3⟩) := by
  intro comparer frame native small wide outcome
  have hcomparable : Comparable native.image small.image small.image := by
    refine ⟨rfl, rfl, ?_⟩
    intro i n r hn hr
    match i, hn, hr with
    | 0, rfl, rfl => decide
    | 1, rfl, rfl => decide
    | 2, rfl, rfl => decide
  have huncovered : Uncovered native wide (.badShape ⟨6, 3⟩) :=
    .plane 0 ⟨.y, Grid.ofFn ⟨5, 3⟩ fun _ _ => 9⟩ ⟨.y, Grid.ofFn ⟨6, 3⟩ fun _ _ => 9⟩ rfl rfl rfl
      (by omega) (by decide)
  obtain ⟨hok, -, hreport⟩ := compare_outcome comparer native small small ⟨.empty, []⟩ rfl
  obtain ⟨-, herror, -⟩ := compare_outcome comparer native wide wide ⟨.empty, []⟩ rfl
  obtain ⟨report, hr⟩ := hok.mpr hcomparable
  exact ⟨rfl, ⟨report, hr, (hreport report hr).2⟩, (herror _).mpr (Or.inr ⟨rfl, huncovered⟩)⟩

end Planar
