import Planar.Proofs.Counting
import Planar.Statistics

/-! Means and medians of exact numbers, the median by the ranks of the values. -/
namespace Planar.Statistics
variable {values others : List Rat} {v : Rat}

theorem sum_eq_list_sum (values : List Rat) : Scalar.sum values = values.sum := by
  rw [List.sum_eq_foldl]
  rfl

theorem mean_eq (values : List Rat) : mean values = values.sum / values.length := by
  rw [mean, sum_eq_list_sum]

theorem mean_nonneg (h : ∀ v ∈ values, 0 ≤ v) : 0 ≤ mean values := by
  rw [mean_eq]
  exact div_nonneg (List.sum_nonneg h) (Nat.cast_nonneg _)

/-- Values one by one at most others have a mean that is at most theirs. -/
theorem mean_le_mean (h : List.Forall₂ (· ≤ ·) values others) : mean values ≤ mean others := by
  rw [mean_eq, mean_eq, h.length_eq]
  exact div_le_div_of_nonneg_right h.sum_le_sum (Nat.cast_nonneg _)

/-- The value at a place in sorted order, counted from 0 and with every repetition. -/
def ranked (values : List Rat) (k : Fin values.length) : Rat :=
  (values.mergeSort Scalar.totalLe).get (k.cast (List.length_mergeSort values).symm)

theorem totalLe_iff (x y : Rat) : Scalar.totalLe x y ↔ x ≤ y := decide_eq_true_iff

theorem pairwise_sorted (values : List Rat) :
    (values.mergeSort Scalar.totalLe).Pairwise (· ≤ ·) := by
  have htrans : ∀ x y z : Rat, Scalar.totalLe x y → Scalar.totalLe y z → Scalar.totalLe x z := by
    intro x y z
    rw [totalLe_iff, totalLe_iff, totalLe_iff]
    exact le_trans
  have htotal : ∀ x y : Rat, Scalar.totalLe x y || Scalar.totalLe y x := by
    intro x y
    rw [Bool.or_eq_true, totalLe_iff, totalLe_iff]
    exact le_total x y
  exact (List.pairwise_mergeSort htrans htotal values).imp (totalLe_iff _ _).mp

/-- In a sorted list the values with a property that goes down to lesser ones come first. -/
theorem get_iff {sorted : List Rat} (h : sorted.Pairwise (· ≤ ·)) {p : Rat → Bool}
    (hdown : ∀ x y, x ≤ y → p y → p x) (k : Fin sorted.length) :
    p (sorted.get k) ↔ k.val < sorted.countP p := by
  induction sorted with
  | nil => exact k.elim0
  | cons x rest ih =>
    obtain ⟨hx, hrest⟩ := List.pairwise_cons.mp h
    by_cases hp : p x
    · rw [List.countP_cons_of_pos hp]
      cases k using Fin.cases with
      | zero => simpa using hp
      | succ k => simpa using ih hrest k
    · have hnone : rest.countP p = 0 := by
        rw [List.countP_eq_zero]
        intro y hy hpy
        exact hp (hdown x y (hx y hy) hpy)
      have hfirst : x ≤ (x :: rest).get k := by
        cases k using Fin.cases with
        | zero => exact le_rfl
        | succ k => exact hx _ (List.get_mem _ _)
      rw [List.countP_cons_of_neg hp, hnone]
      exact iff_of_false (fun hk => hp (hdown x _ hfirst hk)) (Nat.not_lt_zero _)

/-- A value of a rank has such a property if there is room for so many values and one more. -/
theorem ranked_iff {p : Rat → Bool} (hdown : ∀ x y, x ≤ y → p y → p x) (k : Fin values.length) :
    p (ranked values k) ↔ k.val < values.countP p := by
  rw [ranked, get_iff (pairwise_sorted values) hdown,
    (List.mergeSort_perm values Scalar.totalLe).countP_eq]
  rfl

theorem ranked_le_iff (k : Fin values.length) :
    ranked values k ≤ v ↔ k.val < values.countP (· ≤ v) := by
  rw [← ranked_iff, decide_eq_true_iff]
  intro x y hxy hy
  exact decide_eq_true (hxy.trans (of_decide_eq_true hy))

theorem ranked_lt_iff (k : Fin values.length) :
    ranked values k < v ↔ k.val < values.countP (· < v) := by
  rw [← ranked_iff, decide_eq_true_iff]
  intro x y hxy hy
  exact decide_eq_true (hxy.trans_lt (of_decide_eq_true hy))

/-- Values one by one at most others are so rank by rank, though sorting moves them apart. -/
theorem ranked_le_ranked (h : List.Forall₂ (· ≤ ·) values others) {j : Fin values.length}
    {k : Fin others.length} (hjk : j.val = k.val) : ranked values j ≤ ranked others k := by
  have hcount : others.countP (· ≤ ranked others k) ≤ values.countP (· ≤ ranked others k) := by
    apply countP_le_of_forall₂
    refine h.flip.imp ?_
    intro y x hxy hy
    exact decide_eq_true (hxy.trans (of_decide_eq_true hy))
  rw [ranked_le_iff, hjk]
  exact ((ranked_le_iff k).mp le_rfl).trans_le hcount

/-- The middle two values, which are one and the same if the number of values is odd. -/
theorem median_eq (h : 0 < values.length) : median values =
    (ranked values ⟨(values.length - 1) / 2, by omega⟩ +
      ranked values ⟨values.length / 2, by omega⟩) / 2 := by
  have hsize : (values.mergeSort Scalar.totalLe).toArray.size = values.length := by simp
  unfold median ranked
  simp only [hsize, h.ne', dite_false]
  split
  · rename_i heven
    have hlow : (values.length - 1) / 2 = values.length / 2 - 1 := by omega
    simp [hlow]
  · rename_i hodd
    have hsame : (values.length - 1) / 2 = values.length / 2 := by omega
    simp [hsame]

theorem median_le_median (h : List.Forall₂ (· ≤ ·) values others) (hsome : 0 < values.length) :
    median values ≤ median others := by
  have hlength := h.length_eq
  have hlow : ranked values ⟨(values.length - 1) / 2, by omega⟩ ≤
      ranked others ⟨(others.length - 1) / 2, by omega⟩ :=
    ranked_le_ranked h (congrArg (fun n => (n - 1) / 2) hlength)
  have hhigh : ranked values ⟨values.length / 2, by omega⟩ ≤
      ranked others ⟨others.length / 2, by omega⟩ :=
    ranked_le_ranked h (congrArg (· / 2) hlength)
  rw [median_eq hsome, median_eq (hlength ▸ hsome)]
  linarith

end Planar.Statistics
