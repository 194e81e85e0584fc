import Mathlib
import Planar.Proofs.Text

/-! The words of a text are its maximal runs of characters that are not blank, in text order, each
on the line that the line feeds before it make. -/
namespace Planar

/-- A cut of a text in three. -/
structure Run where
  before : List Char
  letters : List Char
  after : List Char

namespace Run

/-- The letters hold no blank, and on either side stands one unless the text ends there. -/
structure Of (text : List Char) (run : Run) : Prop where
  text_eq : text = run.before ++ (run.letters ++ run.after)
  solid : Solid run.letters
  opens : ∀ c ∈ run.before.getLast?, isBlank c = true
  closes : ∀ c ∈ run.after.head?, isBlank c = true

/-- One line feed ends one line. -/
def line (run : Run) : Nat := 1 + run.before.count '\n'

/-- The word that a run is if the first line has the given number. -/
def toWord (first : Nat) (run : Run) : Word := ⟨first + run.before.count '\n', run.letters⟩

/-- The same letters in a text that has more in front. -/
def behind (front : List Char) (run : Run) : Run := { run with before := front ++ run.before }

/-- The run that a text starts with, if it starts with a word. -/
def leading (word after : List Char) : List Run := if word = [] then [] else [⟨[], word, after⟩]

variable {text word rest front : List Char} {c : Char} {run : Run}

theorem mem_leading : run ∈ leading word rest ↔ word ≠ [] ∧ run = ⟨[], word, rest⟩ := by
  unfold leading
  split <;> simp_all

/-- A run with no blank in front of it begins the text. -/
theorem Of.before_eq_nil (h : Of text run) (hbefore : ∀ d ∈ run.before, isBlank d = false) :
    run.before = [] := by
  by_contra hne
  have hblank := h.opens _ (List.getLast_mem_getLast? hne)
  simp [hbefore _ (List.getLast_mem hne)] at hblank

theorem of_leading (hword : ∀ d ∈ word, isBlank d = false)
    (hrest : ∀ d ∈ rest.head?, isBlank d = true) (h : run ∈ leading word rest) :
    Of (word ++ rest) run := by
  obtain ⟨hne, rfl⟩ := mem_leading.mp h
  exact ⟨rfl, ⟨hne, hword⟩, by simp, hrest⟩

theorem Of.behind (h : Of rest run) (hc : isBlank c = true) :
    Of (word ++ c :: rest) (run.behind (word ++ [c])) := by
  refine ⟨?_, h.solid, ?_, h.closes⟩
  · simp [Run.behind, h.text_eq]
  · intro d hd
    have hlast : run.before.getLast?.getD c = d := by
      simpa [Run.behind, List.getLast?_append, List.getLast?_cons] using hd
    cases hown : run.before.getLast? with
    | none =>
      obtain rfl : c = d := by simpa [hown] using hlast
      exact hc
    | some e =>
      obtain rfl : e = d := by simpa [hown] using hlast
      exact h.opens e hown

theorem takeWhile_append_of_head (hword : ∀ d ∈ word, isBlank d = false)
    (hrest : ∀ d ∈ rest.head?, isBlank d = true) :
    (word ++ rest).takeWhile (fun d => !isBlank d) = word := by
  rw [List.takeWhile_append_of_pos (by simpa using hword)]
  cases rest with
  | nil => simp
  | cons d rest => simp [hrest d (by simp)]

/-- The run that a text starts with ends at the first blank. -/
theorem Of.mem_leading (h : Of (word ++ rest) run) (hbefore : run.before = [])
    (hword : ∀ d ∈ word, isBlank d = false) (hrest : ∀ d ∈ rest.head?, isBlank d = true) :
    run ∈ leading word rest := by
  have htext := h.text_eq
  rw [hbefore, List.nil_append] at htext
  have hletters : word = run.letters :=
    calc word = (word ++ rest).takeWhile (fun d => !isBlank d) :=
          (takeWhile_append_of_head hword hrest).symm
      _ = (run.letters ++ run.after).takeWhile (fun d => !isBlank d) := by rw [htext]
      _ = run.letters := takeWhile_append_of_head h.solid.not_blank h.closes
  have hne := h.solid.ne_nil
  obtain ⟨before, letters, after⟩ := run
  subst hbefore hletters
  obtain rfl := List.append_cancel_left htext
  exact Run.mem_leading.mpr ⟨hne, rfl⟩

/-- Without blanks there is at most one run, the whole text. -/
theorem of_iff_of_unbroken (h : ∀ d ∈ text, isBlank d = false) :
    Of text run ↔ run ∈ leading text [] := by
  constructor
  · intro hrun
    have hbefore := hrun.before_eq_nil fun d hd => h d (by simp [hrun.text_eq, hd])
    rw [← List.append_nil text] at hrun
    exact hrun.mem_leading hbefore h (by simp)
  · intro hrun
    simpa using of_leading h (by simp) hrun

/-- A run further on has the first blank before it. -/
theorem Of.exists_behind (h : Of (word ++ c :: rest) run) {skipped : List Char}
    (hbefore : run.before = word ++ skipped) (hskipped : skipped ≠ []) :
    ∃ r, Of rest r ∧ run = r.behind (word ++ [c]) := by
  obtain ⟨before, letters, after⟩ := run
  obtain rfl : before = word ++ skipped := hbefore
  obtain ⟨d, skipped, rfl⟩ := List.exists_cons_of_ne_nil hskipped
  have htext : c :: rest = d :: (skipped ++ (letters ++ after)) := by
    simpa using h.text_eq
  obtain ⟨rfl, rfl⟩ := List.cons.inj htext
  refine ⟨⟨skipped, letters, after⟩, ⟨rfl, h.solid, ?_, h.closes⟩, by simp [Run.behind]⟩
  intro d hd
  exact h.opens d (by simp_all [List.getLast?_append, List.getLast?_cons])

/-- A blank ends the word before it, and the runs further on are those of the rest. -/
theorem of_append_blank (hword : ∀ d ∈ word, isBlank d = false) (hc : isBlank c = true) :
    Of (word ++ c :: rest) run ↔
      run ∈ leading word (c :: rest) ∨ ∃ r, Of rest r ∧ run = r.behind (word ++ [c]) := by
  have hrest : ∀ d ∈ (c :: rest).head?, isBlank d = true := by simp [hc]
  constructor
  · intro hrun
    rcases List.append_eq_append_iff.mp hrun.text_eq with ⟨skipped, hbefore, htext⟩ | ⟨own, hown, -⟩
    · refine Or.inr (hrun.exists_behind hbefore ?_)
      rintro rfl
      -- the letters would begin with the blank
      obtain ⟨d, letters, hletters⟩ := List.exists_cons_of_ne_nil hrun.solid.ne_nil
      have hd := hrun.solid.not_blank d (by simp [hletters])
      obtain ⟨rfl, -⟩ : c = d ∧ rest = letters ++ run.after := by simpa [hletters] using htext
      simp [hc] at hd
    · have hnil := hrun.before_eq_nil fun d hd => hword d (by simp [hown, hd])
      exact Or.inl (hrun.mem_leading hnil hword hrest)
  · rintro (hrun | ⟨r, hr, rfl⟩)
    · exact of_leading hword hrest hrun
    · exact hr.behind hc

theorem toWord_behind (first : Nat) :
    (run.behind front).toWord first = run.toWord (first + front.count '\n') := by
  simp [toWord, behind, Nat.add_assoc]

end Run

/-- All runs of a text, in text order. -/
structure Runs (text : List Char) (runs : List Run) : Prop where
  mem_iff : ∀ run, run ∈ runs ↔ Run.Of text run
  inOrder : runs.Pairwise fun a b => a.before.length < b.before.length

theorem Runs.unique {text : List Char} {a b : List Run} (ha : Runs text a) (hb : Runs text b) :
    a = b := by
  have hirrefl : Std.Irrefl fun a b : Run => a.before.length < b.before.length :=
    ⟨fun a => Nat.lt_irrefl a.before.length⟩
  have hantisymm : Std.Antisymm fun a b : Run => a.before.length < b.before.length :=
    ⟨fun _ _ hab hba => (Nat.lt_asymm hab hba).elim⟩
  exact ha.inOrder.eq_of_mem_iff hb.inOrder fun run => (ha.mem_iff run).trans (hb.mem_iff run).symm

section
variable {text word rest : List Char} {c : Char} {line : Nat} {current : List Char}
  {before : Array Word} {runs : List Run}

theorem line_after_eq : (if c = '\n' then line + 1 else line) = line + [c].count '\n' := by
  by_cases hc : c = '\n' <;> simp [hc]

/-- Reading goes on after a blank as at the start of a text. -/
theorem wordsFrom_append_blank (hc : isBlank c = true) :
    wordsFrom line current before (text ++ c :: rest) =
      wordsFrom (line + (text ++ [c]).count '\n') [] (wordsFrom line current before text) rest := by
  induction text generalizing line current before with
  | nil => simp only [List.nil_append, wordsFrom, if_pos hc, line_after_eq]
  | cons d text ih =>
    have hcount : (d :: text ++ [c]).count '\n' = [d].count '\n' + (text ++ [c]).count '\n' :=
      @List.count_append _ _ _ [d] _
    rw [List.cons_append, wordsFrom, wordsFrom, hcount, ← Nat.add_assoc]
    by_cases hd : isBlank d = true
    · rw [if_pos hd, if_pos hd, ih, line_after_eq]
    · have hfeed : [d].count '\n' = 0 := by
        rw [List.count_eq_zero, List.mem_singleton]
        rintro rfl
        exact hd (by decide)
      rw [if_neg hd, if_neg hd, ih, hfeed, Nat.add_zero]

theorem toList_wordsFrom_unbroken (h : ∀ d ∈ word, isBlank d = false) (after : List Char) :
    (wordsFrom line [] before word).toList =
      before.toList ++ (Run.leading word after).map (Run.toWord line) := by
  have hread : wordsFrom line [] before (word ++ []) =
      wordsFrom line (word.reverse ++ []) before [] := wordsFrom_letters h
  rw [List.append_nil] at hread
  rw [hread, wordsFrom, endWord, Run.leading]
  by_cases hword : word = [] <;> simp [hword, Run.toWord]

theorem Runs.leading (h : ∀ d ∈ text, isBlank d = false) : Runs text (Run.leading text []) := by
  refine ⟨fun run => (Run.of_iff_of_unbroken h).symm, ?_⟩
  unfold Run.leading
  split <;> simp

theorem Runs.append_blank (hword : ∀ d ∈ word, isBlank d = false) (hc : isBlank c = true)
    (h : Runs rest runs) :
    Runs (word ++ c :: rest)
      (Run.leading word (c :: rest) ++ runs.map (Run.behind (word ++ [c]))) := by
  constructor
  · intro run
    rw [Run.of_append_blank hword hc, List.mem_append, List.mem_map]
    simp only [h.mem_iff, eq_comm]
  · refine List.pairwise_append.mpr ⟨?_, ?_, ?_⟩
    · unfold Run.leading
      split <;> simp
    · exact List.pairwise_map.mpr (h.inOrder.imp fun hlt => by simpa [Run.behind] using hlt)
    · intro a ha b hb
      obtain ⟨-, rfl⟩ := Run.mem_leading.mp ha
      obtain ⟨r, -, rfl⟩ := List.mem_map.mp hb
      simp [Run.behind]

/-- The text is cut at its first blank, and what follows is shorter. -/
theorem exists_runs (text : List Char) : ∃ runs, Runs text runs ∧ ∀ line before,
    (wordsFrom line [] before text).toList = before.toList ++ runs.map (Run.toWord line) := by
  cases hfind : text.find? isBlank with
  | none =>
    have hunbroken : ∀ d ∈ text, isBlank d = false := by
      simpa using List.find?_eq_none.mp hfind
    exact ⟨_, Runs.leading hunbroken, fun line before => toList_wordsFrom_unbroken hunbroken []⟩
  | some c =>
    obtain ⟨hc, word, rest, rfl, hword⟩ := List.find?_eq_some_iff_append.mp hfind
    have hword : ∀ d ∈ word, isBlank d = false := by simpa using hword
    obtain ⟨runs, hruns, hread⟩ := exists_runs rest
    refine ⟨_, hruns.append_blank hword hc, ?_⟩
    intro line before
    rw [wordsFrom_append_blank hc, hread, toList_wordsFrom_unbroken hword (c :: rest)]
    simp [Function.comp_def, Run.toWord_behind]
termination_by text.length

theorem words_eq_map {text : String} (h : Runs text.toList runs) :
    words text = runs.map (Run.toWord 1) := by
  obtain ⟨runs', hruns', hread⟩ := exists_runs text.toList
  obtain rfl := h.unique hruns'
  exact (hread 1 #[]).trans (List.nil_append _)

/-- A separation of words. -/
structure Gap (gap : List Char) : Prop where
  ne_nil : gap ≠ []
  blank : ∀ c ∈ gap, isBlank c = true

/-- Letters do not depend on how lines are counted. -/
theorem letters_wordsFrom_congr {line' : Nat} {before' : Array Word}
    (h : before.toList.map Word.letters = before'.toList.map Word.letters) :
    (wordsFrom line current before text).toList.map Word.letters =
      (wordsFrom line' current before' text).toList.map Word.letters := by
  have hend : (endWord line current before).toList.map Word.letters =
      (endWord line' current before').toList.map Word.letters := by
    unfold endWord
    split <;> simp [h]
  induction text generalizing line line' current before before' with
  | nil => exact hend
  | cons c text ih =>
    simp only [wordsFrom]
    split
    · exact ih hend (by simpa [endWord] using hend)
    · refine ih h ?_
      unfold endWord
      split <;> simp [h]

theorem wordsFrom_gap {gap : List Char} (h : ∀ c ∈ gap, isBlank c = true) (rest : List Char) :
    ∃ line', wordsFrom line [] before (gap ++ rest) = wordsFrom line' [] before rest := by
  induction gap generalizing line with
  | nil => exact ⟨line, rfl⟩
  | cons c gap ih =>
    obtain ⟨line', hrest⟩ := ih fun d hd => h d (List.mem_cons_of_mem c hd)
    refine ⟨line', ?_⟩
    rw [List.cons_append, wordsFrom, if_pos (h c List.mem_cons_self)]
    exact hrest

/-- Words are the same however they are set apart. -/
theorem letters_words_gap {front gap back : List Char} (h : Gap gap) :
    (words (String.ofList (front ++ gap ++ back))).map Word.letters =
      (wordsFrom 1 [] (wordsFrom 1 [] #[] front) back).toList.map Word.letters := by
  obtain ⟨c, gap, rfl⟩ := List.exists_cons_of_ne_nil h.ne_nil
  have hgap : ∀ d ∈ gap, isBlank d = true := fun d hd => h.blank d (List.mem_cons_of_mem c hd)
  rw [words, String.toList_ofList, List.append_assoc, List.cons_append,
    wordsFrom_append_blank (h.blank c List.mem_cons_self)]
  obtain ⟨line', hback⟩ := wordsFrom_gap hgap back
  rw [hback]
  exact letters_wordsFrom_congr rfl

end

end Planar
