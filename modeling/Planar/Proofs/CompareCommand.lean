import Planar.Proofs.Arguments
import Planar.Proofs.Isolation
import Planar.Proofs.Steps

/-! Runs of the command that compares candidates. Whatever becomes of one candidate, the next one
is compared and told of in its turn, and how the run ends tells how many failed. -/
namespace Planar

namespace Comparer
variable {α : Type} [Scalar α] [Analytic α] [PictureDecoder] {comparer : Comparer α} {job : Job}
  {jobs : List Job} {world after : World α} {report : Report α} {i : Nat}

theorem length_runOn : (comparer.runOn jobs world).1.length = jobs.length := by
  induction jobs generalizing world with
  | nil => rfl
  | cons job jobs ih => rw [runOn_cons, List.length_cons, ih, List.length_cons]

theorem before_length : comparer.before jobs world jobs.length = (comparer.runOn jobs world).2 := by
  rw [before, List.take_length]

/-- Each job of a run gives what it gives in the world that it finds, and the next one finds what
it leaves. -/
theorem runOn_at (hjob : jobs[i]? = some job) :
    (comparer.runOn jobs world).1[i]? =
        some (Task.on (comparer.compareFiles job) (comparer.before jobs world i)).1 ∧
      comparer.before jobs world (i + 1) =
        comparer.afterJob job (comparer.before jobs world i) := by
  induction jobs generalizing world i with
  | nil => cases hjob
  | cons first jobs ih =>
    rw [runOn_cons]
    cases i with
    | zero =>
      cases hjob
      exact ⟨rfl, before_succ⟩
    | succ i =>
      rw [before_succ, before_succ]
      exact ih hjob

theorem candidateLabel_of_compareFiles [ZeroLaws α]
    (h : Task.on (comparer.compareFiles job) world = (.ok report, after)) :
    report.candidateLabel = job.candidate.label := by
  obtain ⟨native, between, -, h⟩ := Task.on_bind_eq_ok.mp h
  obtain ⟨reference, between', -, h⟩ := Task.on_bind_eq_ok.mp h
  obtain ⟨candidate, between'', hcandidate, h⟩ := Task.on_bind_eq_ok.mp h
  obtain ⟨-, hof⟩ := report_of_compare h
  exact hof.labels.2.trans (Source.label_of_load hcandidate)

end Comparer

namespace Command
variable {options : CompareOptions} {args : List String} {found : Bindings} {path label : String}
  {world after : World Float} {i : Nat}

/-- A candidate is compared under its label, and its report is told, or its path and the error. A
failure is logged besides. -/
inductive Told [PictureDecoder] (options : CompareOptions) (path label : String)
    (world : World Float) : Except Fault (Report Float) → String → World Float → Prop where
  | report (report : Report Float) (after : World Float)
    (hdone : Task.on ((comparer options).compareFiles (options.job path label)) world =
      (.ok report, after))
    (hlabel : report.candidateLabel = label) :
    Told options path label world (.ok report) (report.render ++ "\n") after
  | failure (fault : Fault) (after : World Float)
    (hfailed : Task.on ((comparer options).compareFiles (options.job path label)) world =
      (.error fault, after)) :
    Told options path label world (.error fault)
      s!"Comparison of {path} failed: {fault.message}\n\n"
      (after.logged [.comparisonFailed fault options.reference path])

/-- One outcome, one text and one world are told of a candidate. -/
theorem told_iff [PictureDecoder] {outcome : Except Fault (Report Float)} {text : String} :
    let job := options.job path label
    Told options path label world outcome text after ↔
      outcome = (Task.on ((comparer options).compareFiles job) world).1 ∧
        text = sayResult job outcome ∧ after = (comparer options).afterJob job world := by
  intro job
  constructor
  · intro h
    cases h with
    | report report after hdone _ =>
      exact ⟨(congrArg Prod.fst hdone).symm, rfl, (Comparer.afterJob_of_ok hdone).symm⟩
    | failure fault after hfailed =>
      refine ⟨(congrArg Prod.fst hfailed).symm, rfl, ?_⟩
      rw [Comparer.afterJob, hfailed]
      rfl
  · rintro ⟨rfl, rfl, rfl⟩
    rw [Comparer.afterJob]
    rcases hrun : Task.on ((comparer options).compareFiles job) world with ⟨outcome, after⟩
    cases outcome with
    | error fault => exact .failure fault after hrun
    | ok report => exact .report report after hrun (Comparer.candidateLabel_of_compareFiles hrun)

theorem getElem?_jobs (hpath : options.candidates[i]? = some path) : (jobs options)[i]? =
    some (options.job path (options.candidateLabels[i]?.getD "Custom Bilinear")) := by
  rw [jobs, List.getElem?_map, List.getElem?_zipIdx, hpath, Nat.zero_add]
  rfl

theorem length_jobs : (jobs options).length = options.candidates.length := by
  rw [jobs, List.length_map, List.length_zipIdx]

/-- What is told of the candidate at a position is its result and its part of the text. -/
theorem told_at [PictureDecoder] (hpath : options.candidates[i]? = some path) :
    let run := (comparer options).runOn (jobs options) world
    ∃ outcome text, run.1[i]? = some outcome ∧
      (List.zipWith sayResult (jobs options) run.1)[i]? = some text ∧
      Told options path (options.candidateLabels[i]?.getD "Custom Bilinear")
        ((comparer options).before (jobs options) world i) outcome text
        ((comparer options).before (jobs options) world (i + 1)) := by
  intro run
  have hjob := getElem?_jobs hpath
  obtain ⟨hresult, hnext⟩ : run.1[i]? = _ ∧ _ := Comparer.runOn_at hjob
  refine ⟨_, _, hresult, List.getElem?_zipWith_eq_some.mpr ⟨_, _, hjob, hresult, rfl⟩, ?_⟩
  exact told_iff.mpr ⟨rfl, rfl, hnext⟩

theorem compareOptions?_eq_some (h : compareOptions? found = some options) :
    options.candidates = found.values "candidate" ∧
      options.candidateLabels = found.values "candidate-label" ∧ options.candidates ≠ [] := by
  obtain ⟨⟨⟩, hguard, h⟩ := Option.bind_eq_some_iff.mp h
  obtain ⟨native, -, h⟩ := Option.bind_eq_some_iff.mp h
  obtain ⟨reference, -, h⟩ := Option.bind_eq_some_iff.mp h
  obtain ⟨nativeShape, -, h⟩ := Option.bind_eq_some_iff.mp h
  obtain ⟨shape, -, h⟩ := Option.bind_eq_some_iff.mp h
  have hcandidates : found.values "candidate" ≠ [] := by
    by_contra hnone
    rw [guard, if_neg (not_not.mpr hnone)] at hguard
    cases hguard
  cases h
  exact ⟨rfl, rfl, hcandidates⟩

theorem takesValue_of_compareRules :
    TakesValue compareRules "candidate" ∧ TakesValue compareRules "candidate-label" :=
  ⟨⟨by decide, by decide, by decide⟩, ⟨by decide, by decide, by decide⟩⟩

/-- The options of a run that compares have the candidates and labels as they were given. -/
theorem given_of_read (h : read ("compare" :: args) = .ok (.compare options)) :
    options.candidates = given "candidate" args ∧
      options.candidateLabels = given "candidate-label" args ∧ options.candidates ≠ [] := by
  obtain ⟨found, hparse, h⟩ := bind_eq_ok.mp h
  split at h
  · rename_i action hmake
    obtain ⟨options', hoptions, rfl⟩ := Option.map_eq_some_iff.mp hmake
    cases h
    obtain ⟨hcandidates, hlabels, hsome⟩ := compareOptions?_eq_some hoptions
    obtain ⟨hcandidate, hlabel⟩ := takesValue_of_compareRules
    exact ⟨hcandidates.trans (values_of_parse hcandidate hparse),
      hlabels.trans (values_of_parse hlabel hparse), hsome⟩
  · cases h

theorem runOn_of_compare [PictureDecoder] (hargs : read args = .ok (.compare options)) :
    let results := (comparer options).runOn (jobs options) world
    let failed := results.1.countP fun result => result.toOption.isNone
    runOn args world = (.ofRun (String.join (List.zipWith sayResult (jobs options) results.1))
      (verdict failed (jobs options).length), results.2) := by
  intro results failed
  have hcompare : (compare options : StateM (World Float) _).run world =
      ((String.join (List.zipWith sayResult (jobs options) results.1),
        verdict failed (jobs options).length), results.2) := by
    rw [compare, StateT.run_bind]
    rfl
  unfold runOn run
  rw [hargs]
  dsimp only
  rw [StateT.run_bind, hcompare]
  rfl

theorem stdout_ofRun {said : String} {ended : Except Failure Unit} :
    (Output.ofRun said ended).stdout = said := by
  cases ended with
  | ok _ => rfl
  | error failure => rfl

theorem code_ofRun_verdict {said : String} {failed total : Nat} :
    (Output.ofRun said (verdict failed total)).code = 0 ↔ failed = 0 := by
  rw [verdict]
  split
  · rename_i hnone
    exact ⟨fun _ => hnone, fun _ => rfl⟩
  · rename_i hsome
    constructor
    · intro h
      cases h
    · exact fun h => (hsome h).elim

theorem stderr_ofRun_verdict {said : String} {failed total : Nat} (hfailed : failed ≠ 0) :
    (Output.ofRun said (verdict failed total)).stderr =
      s!"Error: {failed} of {total} comparisons failed\n" := by
  have hline : " comparisons failed\n" = " comparisons failed" ++ "\n" := by decide
  rw [verdict, if_neg hfailed, hline]
  change "Error: " ++ (toString failed ++ " of " ++ toString total ++ " comparisons failed") ++
    "\n" = "Error: " ++ toString failed ++ " of " ++ toString total ++
      (" comparisons failed" ++ "\n")
  simp only [String.append_assoc]

theorem countP_isNone_eq_zero {β : Type} {outcomes : List (Except Fault β)} :
    (outcomes.countP fun outcome => outcome.toOption.isNone) = 0 ↔
      ∀ outcome ∈ outcomes, ∃ b, outcome = .ok b := by
  rw [List.countP_eq_zero]
  refine forall₂_congr fun outcome _ => ?_
  cases outcome with
  | error fault => simp [Except.toOption]
  | ok b => simp [Except.toOption]

theorem read_compare_of_parse (hparse : parse compareRules args = .ok found)
    (hoptions : compareOptions? found = some options) :
    read ("compare" :: args) = .ok (.compare options) := by
  rw [read, readWith]
  refine bind_eq_ok.mpr ⟨found, hparse, ?_⟩
  rw [hoptions]
  rfl

/-- Every candidate is compared, in the order given, under its own label or the shared one, in the
world that the candidates before it leave. The run prints what is told of each in that order. It
ends with zero exactly if all comparisons succeed, and otherwise counts those that failed. -/
theorem compare_tells_of_all [PictureDecoder] (args : List String) (options : CompareOptions)
    (world : World Float) (hargs : read ("compare" :: args) = .ok (.compare options)) :
    let candidates := given "candidate" args
    let labels := given "candidate-label" args
    let ended := runOn ("compare" :: args) world
    candidates ≠ [] ∧ ∃ (worlds : Nat → World Float)
      (outcomes : List (Except Fault (Report Float))) (texts : List String),
      outcomes.length = candidates.length ∧ texts.length = candidates.length ∧
      worlds 0 = world ∧ worlds candidates.length = ended.2 ∧
      (∀ (i : Nat) (path : String), candidates[i]? = some path → ∃ outcome text,
        outcomes[i]? = some outcome ∧ texts[i]? = some text ∧
          Told options path (labels[i]?.getD "Custom Bilinear") (worlds i) outcome text
            (worlds (i + 1))) ∧
      ended.1.stdout = String.join texts ∧
      (ended.1.code = 0 ↔ ∀ outcome ∈ outcomes, ∃ report, outcome = .ok report) ∧
      let failed := outcomes.countP fun outcome => outcome.toOption.isNone
      ended.1.code ≠ 0 → 0 < failed ∧
        ended.1.stderr = s!"Error: {failed} of {candidates.length} comparisons failed\n" := by
  intro candidates labels ended
  obtain ⟨hcandidates, hlabels, hsome⟩ := given_of_read hargs
  have hended : ended = _ := runOn_of_compare hargs
  have hcount : candidates.length = (jobs options).length := by
    rw [length_jobs, hcandidates]
  refine ⟨fun h => hsome (hcandidates.trans h), (comparer options).before (jobs options) world,
    ((comparer options).runOn (jobs options) world).1,
    List.zipWith sayResult (jobs options) ((comparer options).runOn (jobs options) world).1,
    ?_, ?_, rfl, ?_, ?_, ?_, ?_, ?_⟩
  · rw [Comparer.length_runOn, hcount]
  · rw [List.length_zipWith, Comparer.length_runOn, Nat.min_self, hcount]
  · rw [hcount, Comparer.before_length, hended]
  · intro i path hpath
    have hgiven : options.candidates[i]? = some path := by rw [hcandidates, hpath]
    rw [show labels = options.candidateLabels from hlabels.symm]
    exact told_at hgiven
  · rw [hended, stdout_ofRun]
  · rw [hended, code_ofRun_verdict, countP_isNone_eq_zero]
  · intro failed hcode
    have hfailed : failed ≠ 0 := by
      intro h
      rw [hended] at hcode
      exact hcode (code_ofRun_verdict.mpr h)
    refine ⟨Nat.pos_of_ne_zero hfailed, ?_⟩
    rw [hended, stderr_ofRun_verdict hfailed, hcount]

/-- The first of two candidates is missing. The second is reported under the shared label, and the
run ends with one and counts the first. -/
theorem compare_tells_of_all_gone :
    let args := ["--original", "native", "--original-width", "1", "--original-height", "1",
      "--reference=reference", "--width", "1", "--height", "1", "--candidate", "gone",
      "--candidate=a", "--candidate-label", "Lost", "--no-artifacts"]
    let options : CompareOptions :=
      { CompareOptions.pair "gone" "a" with candidateLabels := ["Lost"], writePictures := false }
    let world : World Float := ⟨.dots, []⟩
    let missing := "Comparison of gone failed: " ++
      "Failed to read input file: gone: No such file or directory (os error 2)\n\n"
    read ("compare" :: args) = .ok (.compare options) ∧
      ∃ report : Report Float, report.candidateLabel = "Custom Bilinear" ∧
        (runOn ("compare" :: args) world).1.stdout = missing ++ report.render ++ "\n" ∧
        (runOn ("compare" :: args) world).1.stderr = "Error: 1 of 2 comparisons failed\n" := by
  intro args options world missing
  have hparse : parse compareRules args = .ok [("original", "native"), ("original-width", "1"),
      ("original-height", "1"), ("reference", "reference"), ("width", "1"), ("height", "1"),
      ("candidate", "gone"), ("candidate", "a"), ("candidate-label", "Lost"),
      ("no-artifacts", "")] := by decide +kernel
  have hargs : read ("compare" :: args) = .ok (.compare options) := read_compare_of_parse hparse rfl
  have hcandidates : given "candidate" args = ["gone", "a"] := by decide +kernel
  have hlabels : given "candidate-label" args = ["Lost"] := by decide +kernel
  have hgone : (comparer options).alone .dots (options.job "gone" "Lost") =
      .error (.input "gone: No such file or directory (os error 2)") :=
    (comparer options).alone_gone "Lost"
  have ha : ∃ report, (comparer options).alone .dots (options.job "a" "Custom Bilinear") =
      .ok report := Comparer.alone_dot rfl World.HasDots.start (by decide : ("a", 7) ∈ dots)
  obtain ⟨report, ha⟩ := ha
  obtain ⟨-, worlds, outcomes, texts, houtcomes, htexts, hstart, -, htold, hstdout, hcode,
    hstderr⟩ := compare_tells_of_all args options world hargs
  rw [hcandidates] at houtcomes htexts htold hstderr
  rw [hlabels] at htold
  obtain ⟨outcome, text, ho, ht, htold₀⟩ := htold 0 "gone" rfl
  obtain ⟨outcome', text', ho', ht', htold₁⟩ := htold 1 "a" rfl
  obtain ⟨rfl, rfl, hnext⟩ := told_iff.mp htold₀
  obtain ⟨rfl, rfl, -⟩ := told_iff.mp htold₁
  rw [hstart, Comparer.on_compareFiles_of_plain rfl] at ho ht
  rw [hstart, Comparer.afterJob_of_plain rfl] at hnext
  rw [hnext, Comparer.on_compareFiles_of_plain rfl, World.disk_logged] at ho' ht'
  obtain ⟨first, second, rfl⟩ := List.length_eq_two.mp houtcomes
  obtain ⟨said, said', rfl⟩ := List.length_eq_two.mp htexts
  obtain rfl : first = .error _ := (Option.some.inj ho).trans hgone
  obtain rfl : second = .ok report := (Option.some.inj ho').trans ha
  have hsaid : said = missing :=
    (Option.some.inj ht).trans ((congrArg (sayResult (options.job "gone" "Lost")) hgone).trans
      (by decide +kernel))
  have hsaid' : said' = report.render ++ "\n" :=
    (Option.some.inj ht').trans (congrArg (sayResult (options.job "a" "Custom Bilinear")) ha)
  have hrun : Task.on ((comparer options).compareFiles (options.job "a" "Custom Bilinear")) world =
      (.ok report, world) := (Comparer.on_compareFiles_of_plain rfl).trans (congrArg (·, world) ha)
  have hfailed : (runOn ("compare" :: args) world).1.code ≠ 0 := by
    intro h
    obtain ⟨report, hreport⟩ := hcode.mp h _ List.mem_cons_self
    cases hreport
  refine ⟨hargs, report, Comparer.candidateLabel_of_compareFiles hrun, ?_, ?_⟩
  · rw [hstdout, hsaid, hsaid']
    simp [String.join, String.append_assoc]
  · have hline : s!"Error: {1} of {2} comparisons failed\n" =
        "Error: 1 of 2 comparisons failed\n" := by decide +kernel
    exact (hstderr hfailed).2.trans hline

end Command

end Planar
