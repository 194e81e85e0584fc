import Planar.Proofs.Comparing

/-! What a comparison that succeeds reports, whether or not it has pictures. -/
namespace Planar.Comparer

variable {α : Type} [Scalar α] [Analytic α] {comparer : Comparer α} {report : Report α}
  {native reference candidate : Labelled} {world after : World α}

/-- Pictures add nothing to a report but their paths. -/
theorem assess_of_compare
    (h : Task.on (comparer.compare native reference candidate) world = (.ok report, after)) :
    ∃ assessed drawings, comparer.assess native reference candidate = .ok (assessed, drawings) ∧
      report = { assessed with artifacts := report.artifacts } := by
  rcases hassess : comparer.assess native reference candidate with fault | ⟨assessed, drawings⟩
  · cases (comparer.on_compare_of_error hassess).symm.trans h
  · rw [on_compare_of_ok comparer hassess] at h
    refine ⟨assessed, drawings, rfl, ?_⟩
    split at h
    · obtain ⟨⟨⟩, made, hmade, h⟩ := Task.on_bind_eq_ok.mp h
      obtain ⟨paths, last, -, h⟩ := Task.on_bind_eq_ok.mp h
      cases h
      rfl
    · obtain ⟨paths, last, -, h⟩ := Task.on_bind_eq_ok.mp h
      cases h
      rfl

/-- Every report is of comparable images, and says the same of them with pictures as without. -/
theorem report_of_compare [ZeroLaws α]
    (h : Task.on (comparer.compare native reference candidate) world = (.ok report, after)) :
    Comparable native.image reference.image candidate.image ∧
      report.Of comparer.config.thresholds native reference candidate := by
  obtain ⟨assessed, drawings, hassess, hreport⟩ := assess_of_compare h
  obtain ⟨hcomparable, -⟩ := assess_eq_ok hassess
  obtain ⟨assessed', maps, -, hassess', -, hof⟩ := comparer.assess_of_comparable hcomparable
  cases hassess.symm.trans hassess'
  rw [hreport]
  exact ⟨hcomparable, hof.labels, hof.summaries, hof.counts, hof.comparisons⟩

/-- Comparable images are all that a comparison without pictures takes. -/
theorem on_compare_of_comparable [ZeroLaws α] (h : comparer.config.writePictures = false)
    (hcomparable : Comparable native.image reference.image candidate.image) :
    ∃ report, Task.on (comparer.compare native reference candidate) world =
      (.ok report, world) := by
  obtain ⟨report, maps, -, hassess, hartifacts, -⟩ := comparer.assess_of_comparable hcomparable
  rw [comparer.drawings_eq_nil h] at hassess
  exact ⟨report, comparer.on_compare_without_pictures hartifacts hassess⟩

end Planar.Comparer
