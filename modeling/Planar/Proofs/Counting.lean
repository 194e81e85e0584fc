import Mathlib

/-! Counting the related pairs of two lists from either side. -/
namespace Planar
variable {ι δ : Type}

theorem countP_eq_sum (p : δ → Bool) (xs : List δ) :
    xs.countP p = (xs.map fun x => if p x then 1 else 0).sum := by
  induction xs with
  | nil => rfl
  | cons x xs ih => rw [List.countP_cons, List.map_cons, List.sum_cons, ih, Nat.add_comm]

/-- The pairs are the same whichever member is counted first. -/
theorem sum_countP_comm (r : ι → δ → Bool) (is : List ι) (xs : List δ) :
    (is.map fun i => xs.countP (r i)).sum = (xs.map fun x => is.countP fun i => r i x).sum := by
  induction xs with
  | nil => simp
  | cons x xs ih =>
    simp only [List.countP_cons, List.sum_map_add, List.map_cons, List.sum_cons, ih]
    rw [countP_eq_sum, Nat.add_comm]

/-- Members that count on one side have partners that count on the other. -/
theorem countP_le_of_forall₂ {p : ι → Bool} {q : δ → Bool} {xs : List ι} {ys : List δ}
    (h : List.Forall₂ (fun x y => p x → q y) xs ys) : xs.countP p ≤ ys.countP q := by
  induction h with
  | nil => exact le_rfl
  | @cons x y xs ys hxy _ ih =>
    by_cases hx : p x
    · simpa [hx, hxy hx] using ih
    · rw [List.countP_cons_of_neg hx]
      exact ih.trans (List.sublist_cons_self y ys).countP_le

end Planar
