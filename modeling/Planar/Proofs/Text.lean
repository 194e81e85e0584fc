import Planar.Decimal.Reading
import Planar.Text.Words

/-! Written words and numbers read back. -/
namespace Planar

variable {line : Nat} {current word rest : List Char} {row : List (List Char)}
  {rows : List (List (List Char))} {before : Array Word}

/-- A word as a separated text can hold it. -/
structure Solid (word : List Char) : Prop where
  ne_nil : word ≠ []
  not_blank : ∀ c ∈ word, isBlank c = false

theorem wordsFrom_letters (h : ∀ c ∈ word, isBlank c = false) :
    wordsFrom line current before (word ++ rest) =
      wordsFrom line (word.reverse ++ current) before rest := by
  induction word generalizing current with
  | nil => rfl
  | cons c word ih =>
    have hc : isBlank c = false := h c List.mem_cons_self
    have hw : ∀ d ∈ word, isBlank d = false := fun d hd => h d (List.mem_cons_of_mem c hd)
    rw [List.cons_append, wordsFrom, if_neg (by simp [hc]), ih hw]
    simp

theorem wordsFrom_word (h : Solid word) {c : Char} (hc : isBlank c = true) :
    wordsFrom line [] before (word ++ c :: rest) =
      wordsFrom (if c = '\n' then line + 1 else line) [] (before.push ⟨line, word⟩) rest := by
  rw [wordsFrom_letters h.not_blank, wordsFrom, if_pos hc]
  have hne : word.reverse ++ [] ≠ [] := by simpa using h.ne_nil
  rw [endWord, if_neg hne]
  simp

theorem wordsFrom_row (h : ∀ w ∈ row, Solid w) :
    wordsFrom line [] before ([' '].intercalate row ++ '\n' :: rest) =
      wordsFrom (line + 1) [] (before ++ row.map (Word.mk line)) rest := by
  induction row generalizing before with
  | nil => simp [wordsFrom, isBlank, endWord]
  | cons w row ih =>
    have hw : Solid w := h w List.mem_cons_self
    have hr : ∀ v ∈ row, Solid v := fun v hv => h v (List.mem_cons_of_mem w hv)
    cases row with
    | nil =>
      rw [List.intercalate_singleton, wordsFrom_word hw (by decide)]
      simp
    | cons v row =>
      rw [List.intercalate_cons_cons, List.append_assoc, List.append_assoc, List.singleton_append,
        wordsFrom_word hw (by decide), if_neg (by decide), ih hr]
      simp

/-- Whatever the lines are, the words of a text written line by line come back in order. -/
theorem letters_wordsFrom_lines (h : ∀ row ∈ rows, ∀ w ∈ row, Solid w) :
    (wordsFrom line [] before (rows.flatMap fun row => [' '].intercalate row ++ ['\n'])).toList.map
      Word.letters = before.toList.map Word.letters ++ rows.flatten := by
  induction rows generalizing line before with
  | nil => simp [wordsFrom, endWord]
  | cons row rows ih =>
    have hrow : ∀ w ∈ row, Solid w := h row List.mem_cons_self
    have hrows : ∀ r ∈ rows, ∀ w ∈ r, Solid w := fun r hr => h r (List.mem_cons_of_mem row hr)
    rw [List.flatMap_cons, List.append_assoc, List.singleton_append, wordsFrom_row hrow, ih hrows]
    simp [Function.comp_def]

theorem isBlank_of_isDigit {c : Char} (h : c.isDigit = true) : isBlank c = false := by
  have hc : 48 ≤ c.toNat ∧ c.toNat ≤ 57 := by
    simpa [Char.isDigit, UInt32.le_iff_toNat_le] using h
  simp [isBlank]
  omega

namespace Decimal

theorem isDigit_of_mem_toString {n : Nat} {c : Char} (h : c ∈ (toString n).toList) :
    c.isDigit = true := by
  rw [Nat.toString_eq_repr, Nat.toList_repr] at h
  exact Nat.isDigit_of_mem_toDigits (by decide) (by decide) h

theorem toString_ne_nil (n : Nat) : (toString n).toList ≠ [] := by
  rw [Nat.toString_eq_repr, Nat.toList_repr]
  exact Nat.toDigits_ne_nil

theorem solid_toString (n : Nat) : Solid (toString n).toList :=
  ⟨toString_ne_nil n, fun _ hc => isBlank_of_isDigit (isDigit_of_mem_toString hc)⟩

theorem ofDigits_toString (n : Nat) : ofDigits (toString n).toList = n := by
  rw [Nat.toString_eq_repr, Nat.toList_repr]
  exact Nat.ofDigitChars_ten_toDigits

/-- Decimals have no sign in front, so reading one takes all its letters for digits. -/
theorem readNat?_toString {n limit : Nat} (h : n < limit) :
    readNat? limit (toString n).toList = some n := by
  have hsign : (toString n).toList.head? ≠ some '+' := by
    intro hs
    have hd := isDigit_of_mem_toString (List.mem_of_head? hs)
    revert hd
    decide
  have hdigits : (toString n).toList.all Char.isDigit = true :=
    List.all_eq_true.mpr fun _ hc => isDigit_of_mem_toString hc
  simp only [readNat?, if_neg hsign, ofDigits_toString]
  exact if_pos ⟨toString_ne_nil n, hdigits, h⟩

end Decimal

end Planar
