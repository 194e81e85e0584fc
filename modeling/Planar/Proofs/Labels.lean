import Mathlib
import Planar.Artifact.Name

/-! A sanitized label is the maximal runs of letters and digits in the label, lowered and joined by
single underscores. -/
namespace Planar.Artifact
variable {c : Char} {begun pending : Bool} {gap run rest text : List Char}
  {cuts : List (List Char)}

/-- A run of ASCII letters and digits. -/
structure Lettered (run : List Char) : Prop where
  ne_nil : run ≠ []
  isAlphanum : ∀ c ∈ run, c.isAlphanum = true

/-- The pieces of a text between characters that are no ASCII letters or digits. -/
def runs (text : List Char) : List (List Char) :=
  (text.splitOnP fun c => !c.isAlphanum).filter fun run => run ≠ []

/-- A text cut into its maximal runs, in order: what stands before, between and behind them is no
letter or digit, and something stands between any two. -/
inductive Cut : List Char → List (List Char) → Prop
  | gap {gap : List Char} (hgap : ∀ c ∈ gap, c.isAlphanum = false) : Cut gap []
  | run {gap run rest : List Char} {cuts : List (List Char)}
      (hgap : ∀ c ∈ gap, c.isAlphanum = false) (hrun : Lettered run)
      (hcloses : ∀ c ∈ rest.head?, c.isAlphanum = false) (hrest : Cut rest cuts) :
      Cut (gap ++ (run ++ rest)) (run :: cuts)

namespace Cut

theorem cons_of_gap (hc : c.isAlphanum = false) (h : Cut text cuts) : Cut (c :: text) cuts := by
  cases h with
  | gap hgap => exact .gap (List.forall_mem_cons.mpr ⟨hc, hgap⟩)
  | run hgap hrun hcloses hrest =>
    exact .run (List.forall_mem_cons.mpr ⟨hc, hgap⟩) hrun hcloses hrest

/-- A letter in front of a text begins a run, or lengthens the one that the text begins with. -/
theorem cons_of_letter (hc : c.isAlphanum = true) (h : Cut text cuts) :
    ∃ cuts', Cut (c :: text) cuts' := by
  have hone : Lettered [c] := ⟨List.cons_ne_nil c [], by simpa using hc⟩
  have hnone : ∀ d ∈ ([] : List Char), d.isAlphanum = false := nofun
  cases h with
  | gap hgap =>
    exact ⟨_, .run hnone hone (fun d hd => hgap d (List.mem_of_head? hd)) (.gap hgap)⟩
  | @run gap run rest cuts hgap hrun hcloses hrest =>
    cases gap with
    | nil =>
      have hlonger : Lettered (c :: run) :=
        ⟨List.cons_ne_nil c run, List.forall_mem_cons.mpr ⟨hc, hrun.isAlphanum⟩⟩
      exact ⟨_, .run hnone hlonger hcloses hrest⟩
    | cons d gap =>
      have hd : d.isAlphanum = false := hgap d List.mem_cons_self
      exact ⟨_, .run hnone hone (by simpa using hd) (.run hgap hrun hcloses hrest)⟩

theorem exists_of_text (text : List Char) : ∃ cuts, Cut text cuts := by
  induction text with
  | nil => exact ⟨[], .gap nofun⟩
  | cons c text ih =>
    obtain ⟨cuts, h⟩ := ih
    cases hc : c.isAlphanum with
    | false => exact ⟨cuts, h.cons_of_gap hc⟩
    | true => exact h.cons_of_letter hc

theorem lettered (h : Cut text cuts) : ∀ run ∈ cuts, Lettered run := by
  induction h with
  | gap _ => exact nofun
  | run _ hrun _ _ ih => exact List.forall_mem_cons.mpr ⟨hrun, ih⟩

end Cut

theorem runs_cons_of_gap (hc : c.isAlphanum = false) (text : List Char) :
    runs (c :: text) = runs text := by
  rw [runs, List.splitOnP_cons_eq_if_modifyHead, if_pos (by simp [hc]),
    List.filter_cons_of_neg (by simp)]
  rfl

theorem runs_gap_append (hgap : ∀ c ∈ gap, c.isAlphanum = false) (text : List Char) :
    runs (gap ++ text) = runs text := by
  induction gap with
  | nil => rfl
  | cons c gap ih =>
    obtain ⟨hc, hgap⟩ := List.forall_mem_cons.mp hgap
    rw [List.cons_append, runs_cons_of_gap hc, ih hgap]

theorem runs_run_append (hrun : Lettered run)
    (hcloses : ∀ c ∈ rest.head?, c.isAlphanum = false) : runs (run ++ rest) = run :: runs rest := by
  have hletters : ∀ c ∈ run, (!c.isAlphanum) = false := by
    simpa using hrun.isAlphanum
  cases rest with
  | nil =>
    rw [List.append_nil, runs, List.splitOnP_eq_singleton hletters,
      List.filter_cons_of_pos (by simpa using hrun.ne_nil)]
    rfl
  | cons c rest =>
    have hc : c.isAlphanum = false := hcloses c rfl
    rw [runs_cons_of_gap hc, runs,
      List.splitOnP_append_cons_of_forall_mem hletters c (by simp [hc]),
      List.filter_cons_of_pos (by simpa using hrun.ne_nil)]
    rfl

theorem Cut.eq_runs (h : Cut text cuts) : cuts = runs text := by
  induction h with
  | @gap gap hgap =>
    have hruns := runs_gap_append hgap []
    rw [List.append_nil] at hruns
    exact hruns.symm
  | run hgap hrun hcloses _ ih =>
    rw [runs_gap_append hgap, runs_run_append hrun hcloses, ← ih]

/-- A text is cut in one way only. -/
theorem cut_iff : Cut text cuts ↔ cuts = runs text := by
  constructor
  · exact Cut.eq_runs
  · rintro rfl
    obtain ⟨cuts, h⟩ := Cut.exists_of_text text
    exact h.eq_runs ▸ h

theorem cut_nil_iff : Cut text [] ↔ ∀ c ∈ text, c.isAlphanum = false := by
  constructor
  · intro h
    cases h with
    | gap hgap => exact hgap
  · exact .gap

theorem cut_runs (text : List Char) : Cut text (runs text) := cut_iff.mpr rfl

/-! ### What is written for a text that is cut -/

/-- Whether a run has ended makes no difference before the first one begins. -/
theorem sanitizeFrom_first (text : List Char) :
    sanitizeFrom false pending text = sanitizeFrom false false text := by
  induction text generalizing pending with
  | nil => rfl
  | cons c text ih =>
    rw [sanitizeFrom, sanitizeFrom]
    cases c.isAlphanum with
    | false => exact ih.trans ih.symm
    | true => rfl

theorem sanitizeFrom_of_gap (hgap : ∀ c ∈ gap, c.isAlphanum = false) :
    sanitizeFrom begun pending gap = [] := by
  induction gap generalizing pending with
  | nil => rfl
  | cons c gap ih =>
    obtain ⟨hc, hgap⟩ := List.forall_mem_cons.mp hgap
    rw [sanitizeFrom, if_neg (by simp [hc]), ih hgap]

theorem sanitizeFrom_gap_append (hgap : ∀ c ∈ gap, c.isAlphanum = false) (hne : gap ≠ []) :
    sanitizeFrom begun pending (gap ++ text) = sanitizeFrom begun true text := by
  induction gap generalizing pending with
  | nil => exact (hne rfl).elim
  | cons c gap ih =>
    obtain ⟨hc, hgap⟩ := List.forall_mem_cons.mp hgap
    rw [List.cons_append, sanitizeFrom, if_neg (by simp [hc])]
    by_cases hempty : gap = []
    · rw [hempty, List.nil_append]
    · exact ih hgap hempty

theorem sanitizeFrom_letters (hrun : ∀ c ∈ run, c.isAlphanum = true) :
    sanitizeFrom true false (run ++ text) =
      run.map Char.toLower ++ sanitizeFrom true false text := by
  induction run with
  | nil => rfl
  | cons c run ih =>
    obtain ⟨hc, hrun⟩ := List.forall_mem_cons.mp hrun
    rw [List.cons_append, sanitizeFrom, if_pos hc, ih hrun]
    rfl

theorem sanitizeFrom_run (hrun : Lettered run) :
    sanitizeFrom begun pending (run ++ text) =
      (if begun && pending then ['_'] else []) ++
        (run.map Char.toLower ++ sanitizeFrom true false text) := by
  obtain ⟨c, run, rfl⟩ := List.exists_cons_of_ne_nil hrun.ne_nil
  obtain ⟨hc, hletters⟩ := List.forall_mem_cons.mp hrun.isAlphanum
  rw [List.cons_append, sanitizeFrom, if_pos hc, sanitizeFrom_letters hletters]
  cases begun && pending <;> rfl

/-- After a run, one underscore is written in front of each further one. -/
theorem Cut.sanitizeFrom_rest (h : Cut text cuts)
    (hopens : ∀ c ∈ text.head?, c.isAlphanum = false) :
    sanitizeFrom true false text = cuts.flatMap fun run => '_' :: run.map Char.toLower := by
  induction h with
  | gap hgap => exact sanitizeFrom_of_gap hgap
  | @run gap run rest cuts hgap hrun hcloses _ ih =>
    have hne : gap ≠ [] := by
      rintro rfl
      obtain ⟨c, letters, rfl⟩ := List.exists_cons_of_ne_nil hrun.ne_nil
      have hletter := hrun.isAlphanum c List.mem_cons_self
      rw [hopens c rfl] at hletter
      cases hletter
    rw [sanitizeFrom_gap_append hgap hne, sanitizeFrom_run hrun, ih hcloses]
    rfl

theorem intercalate_cons_eq_flatMap (sep : List Char) (run : List Char) (cuts : List (List Char)) :
    sep.intercalate (run :: cuts) = run ++ cuts.flatMap fun run => sep ++ run := by
  induction cuts generalizing run with
  | nil => simp
  | cons other cuts ih =>
    rw [List.intercalate_cons_cons, ih]
    simp

theorem Cut.sanitizeFrom_eq (h : Cut text cuts) :
    sanitizeFrom false false text = ['_'].intercalate (cuts.map (List.map Char.toLower)) := by
  cases h with
  | gap hgap => exact sanitizeFrom_of_gap hgap
  | @run gap run rest cuts hgap hrun hcloses hrest =>
    have hskip : sanitizeFrom false false (gap ++ (run ++ rest)) =
        sanitizeFrom false false (run ++ rest) := by
      by_cases hempty : gap = []
      · rw [hempty, List.nil_append]
      · rw [sanitizeFrom_gap_append hgap hempty]
        exact sanitizeFrom_first _
    rw [hskip, sanitizeFrom_run hrun, hrest.sanitizeFrom_rest hcloses, List.map_cons,
      intercalate_cons_eq_flatMap, List.flatMap_map]
    rfl

/-! ### Sanitized labels -/

/-- The maximal runs of letters and digits in a label, lowered. -/
def loweredRuns (label : String) : List (List Char) :=
  (runs label.toList).map (List.map Char.toLower)

theorem toList_sanitize (label : String) :
    (sanitize label).toList = ['_'].intercalate (loweredRuns label) := by
  rw [sanitize, String.toList_ofList]
  exact (cut_runs label.toList).sanitizeFrom_eq

/-- Lowering a letter or digit gives a small letter or a digit, which it leaves alone. -/
theorem toLower_of_isAlphanum (h : c.isAlphanum = true) :
    (c.toLower.isLower ∨ c.toLower.isDigit) ∧ c.toLower.toLower = c.toLower := by
  have htable : ∀ n : Fin 128, (Char.ofNat n).isAlphanum = true →
      ((Char.ofNat n).toLower.isLower ∨ (Char.ofNat n).toLower.isDigit) ∧
        (Char.ofNat n).toLower.toLower = (Char.ofNat n).toLower := by
    decide
  have hsmall : c.toNat < 128 := by
    simp [Char.isAlphanum, Char.isAlpha, Char.isUpper, Char.isLower, Char.isDigit,
      UInt32.le_iff_toNat_le] at h
    omega
  have hc := htable ⟨c.toNat, hsmall⟩
  rw [Char.ofNat_toNat] at hc
  exact hc h

/-- A run as sanitizing writes it. -/
structure Lowered (run : List Char) : Prop where
  ne_nil : run ≠ []
  small : ∀ c ∈ run, (c.isLower ∨ c.isDigit) ∧ c.toLower = c

theorem lowered_of_mem (label : String) : ∀ run ∈ loweredRuns label, Lowered run := by
  rw [loweredRuns, List.forall_mem_map]
  intro run hrun
  have hletters := (cut_runs label.toList).lettered run hrun
  refine ⟨by simpa using hletters.ne_nil, ?_⟩
  rw [List.forall_mem_map]
  exact fun c hc => toLower_of_isAlphanum (hletters.isAlphanum c hc)

theorem Lowered.lettered (h : Lowered run) : Lettered run := by
  refine ⟨h.ne_nil, ?_⟩
  intro c hc
  rcases (h.small c hc).1 with hlower | hdigit <;> simp_all [Char.isAlphanum, Char.isAlpha]

theorem cut_intercalate (h : ∀ run ∈ cuts, Lettered run) : Cut (['_'].intercalate cuts) cuts := by
  induction cuts with
  | nil => exact .gap nofun
  | cons run cuts ih =>
    obtain ⟨hrun, hcuts⟩ := List.forall_mem_cons.mp h
    have hrest : Cut (cuts.flatMap fun run => ['_'] ++ run) cuts := by
      cases cuts with
      | nil => exact .gap nofun
      | cons other cuts =>
        have hjoined := (ih hcuts).cons_of_gap (c := '_') (by decide)
        rw [intercalate_cons_eq_flatMap] at hjoined
        exact hjoined
    have hcloses : ∀ c ∈ (cuts.flatMap fun run => ['_'] ++ run).head?, c.isAlphanum = false := by
      cases cuts with
      | nil => exact nofun
      | cons other cuts =>
        rintro c ⟨⟩
        decide
    rw [intercalate_cons_eq_flatMap]
    exact @Cut.run [] run _ cuts nofun hrun hcloses hrest

/-- The runs of a sanitized label are those that it was written for. -/
theorem runs_sanitize (label : String) : runs (sanitize label).toList = loweredRuns label := by
  have hcut : Cut (['_'].intercalate (loweredRuns label)) (loweredRuns label) :=
    cut_intercalate fun run hrun => (lowered_of_mem label run hrun).lettered
  rw [toList_sanitize]
  exact hcut.eq_runs.symm

theorem Lowered.map_toLower (h : Lowered run) : run.map Char.toLower = run :=
  (List.map_congr_left fun c hc => (h.small c hc).2).trans (List.map_id run)

theorem loweredRuns_sanitize (label : String) :
    loweredRuns (sanitize label) = loweredRuns label := by
  rw [loweredRuns, runs_sanitize]
  exact (List.map_congr_left fun run hrun => (lowered_of_mem label run hrun).map_toLower).trans
    (List.map_id _)

theorem sanitize_eq_iff (label other : String) :
    sanitize label = sanitize other ↔ loweredRuns label = loweredRuns other := by
  constructor
  · intro h
    rw [← runs_sanitize, h, runs_sanitize]
  · intro h
    apply String.toList_inj.mp
    rw [toList_sanitize, toList_sanitize, h]

theorem sanitize_sanitize (label : String) : sanitize (sanitize label) = sanitize label :=
  (sanitize_eq_iff _ _).mpr (loweredRuns_sanitize label)

theorem sanitize_eq_empty_iff (label : String) :
    sanitize label = "" ↔ ∀ c ∈ label.toList, c.isAlphanum = false := by
  have hempty : sanitize "" = "" := by decide
  have hnone : loweredRuns "" = [] := by decide
  rw [← hempty, sanitize_eq_iff, hnone, loweredRuns, List.map_eq_nil_iff, eq_comm, ← cut_iff,
    cut_nil_iff]

theorem small_of_mem_sanitize {label : String} (h : c ∈ (sanitize label).toList) :
    c.isLower ∨ c.isDigit ∨ c = '_' := by
  have hsmall : ∀ run ∈ loweredRuns label, c ∈ run → c.isLower ∨ c.isDigit ∨ c = '_' :=
    fun run hrun hc => or_assoc.mp (Or.inl ((lowered_of_mem label run hrun).small c hc).1)
  rw [toList_sanitize] at h
  cases hruns : loweredRuns label with
  | nil =>
    rw [hruns] at h
    cases h
  | cons run cuts =>
    rw [hruns] at h hsmall
    rw [intercalate_cons_eq_flatMap, List.mem_append, List.mem_flatMap] at h
    rcases h with hfirst | ⟨other, hother, hc⟩
    · exact hsmall run List.mem_cons_self hfirst
    · rcases List.mem_cons.mp hc with rfl | hc
      · exact Or.inr (Or.inr rfl)
      · exact hsmall other (List.mem_cons_of_mem run hother) hc

/-- Between underscores stand the runs, and no empty part. -/
theorem nil_not_mem_splitOn_sanitize {label : String} (h : loweredRuns label ≠ []) :
    [] ∉ (sanitize label).toList.splitOn '_' := by
  have hclean : ∀ run ∈ loweredRuns label, '_' ∉ run := by
    intro run hrun hmem
    have hsmall := ((lowered_of_mem label run hrun).small '_' hmem).1
    revert hsmall
    decide
  rw [toList_sanitize, List.splitOn_intercalate '_' hclean h]
  intro hnil
  exact (lowered_of_mem label [] hnil).ne_nil rfl

/-- Small letters, digits and single underscores between them. -/
structure Tidy (text : List Char) : Prop where
  small : ∀ c ∈ text, c.isLower ∨ c.isDigit ∨ c = '_'
  no_leading : ¬ ['_'] <+: text
  no_trailing : ¬ ['_'] <:+ text
  no_doubled : ¬ ['_', '_'] <:+: text

/-- An underscore out of place has an empty part beside it. -/
theorem tidy_of_splitOn (hsmall : ∀ c ∈ text, c.isLower ∨ c.isDigit ∨ c = '_')
    (hparts : [] ∉ text.splitOn '_') : Tidy text := by
  have hsplit : ∀ front rest, text = front ++ '_' :: rest →
      [] ∉ front.splitOn '_' ∧ [] ∉ rest.splitOn '_' := by
    rintro front rest rfl
    rw [List.splitOn_append_cons_self, List.mem_append, not_or] at hparts
    exact hparts
  have hnil : [] ∈ ([] : List Char).splitOn '_' := List.mem_cons_self
  constructor
  · exact hsmall
  · rintro ⟨rest, htext⟩
    exact (hsplit [] rest htext.symm).1 hnil
  · rintro ⟨front, htext⟩
    exact (hsplit front [] htext.symm).2 hnil
  · rintro ⟨front, rest, htext⟩
    rw [List.append_assoc] at htext
    have hrest := (hsplit front ('_' :: rest) htext.symm).2
    exact hrest List.mem_cons_self

theorem tidy_sanitize (label : String) : Tidy (sanitize label).toList := by
  by_cases hnone : loweredRuns label = []
  · have hempty : (sanitize label).toList = [] := by
      rw [toList_sanitize, hnone]
      rfl
    rw [hempty]
    exact ⟨nofun, by decide, by decide, by decide⟩
  · exact tidy_of_splitOn (fun c => small_of_mem_sanitize) (nil_not_mem_splitOn_sanitize hnone)

end Planar.Artifact
