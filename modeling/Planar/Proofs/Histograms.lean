import Planar.Difference
import Planar.Proofs.Counting
import Planar.Proofs.Exact

/-! A histogram counts every difference in its range once, in the bin that takes it. -/
namespace Planar.Histogram

section
variable {δ : Type} (key : δ → Option Nat) (xs : List δ)

/-- Counters raised one after the other end at what they started from and their own share. -/
theorem getElem?_tally (counts : Array Nat) (i : Nat) :
    (xs.foldl (fun counts x =>
      match key x with
      | some i => counts.modify i (· + 1)
      | none => counts) counts)[i]? =
        counts[i]?.map (· + xs.countP fun x => key x = some i) := by
  induction xs generalizing counts with
  | nil => simp
  | cons x xs ih =>
    rw [List.foldl_cons, ih]
    cases hkey : key x with
    | none => simp [hkey]
    | some j =>
      rw [Array.getElem?_modify]
      by_cases hj : j = i
      · simp [hkey, hj, Function.comp_def, Nat.add_assoc, Nat.add_comm]
      · simp [hkey, hj]

/-- Adding up the counters of a window counts the keys in it. -/
theorem sum_countP_window (start length : Nat) :
    ((List.range' start length).map fun i => xs.countP fun x => key x = some i).sum =
      xs.countP fun x => (key x).any fun i => start ≤ i ∧ i < start + length := by
  rw [sum_countP_comm, countP_eq_sum]
  congr 2
  funext x
  cases key x with
  | none => simp
  | some j =>
    have hcount := List.count_range_1' (a := j) (s := start) (n := length)
    rw [List.count_eq_countP] at hcount
    simpa [beq_eq_decide, eq_comm (a := j)] using hcount

end

section
variable {α : Type} [Scalar α] {lower upper d : α} {bins i : Nat} (map : DifferenceMap α)

theorem binOf_lt (hbins : 0 < bins) (h : binOf lower upper bins d = some i) : i < bins := by
  unfold binOf at h
  split at h
  · cases h
  · cases h
    omega

theorem isSome_binOf : (binOf lower upper bins d).isSome ↔ ¬ d < lower ∧ ¬ upper < d := by
  rw [binOf, ← not_or]
  by_cases hout : d < lower ∨ upper < d <;> simp [hout]

theorem toList_counts_ofMap : (ofMap map bins lower upper).counts.toList =
    (List.range (max bins 1)).map fun i =>
      map.signed.samples.toList.countP fun d => binOf lower upper (max bins 1) d = some i := by
  apply List.ext_getElem?
  intro i
  have htally := getElem?_tally (binOf lower upper (max bins 1)) map.signed.samples.toList
    (Array.replicate (max bins 1) 0) i
  rw [Array.foldl_toList] at htally
  rw [Array.getElem?_toList]
  refine htally.trans ?_
  by_cases hi : i < max bins 1 <;> simp [hi]

theorem size_counts_ofMap : (ofMap map bins lower upper).counts.size = max bins 1 := by
  rw [← Array.length_toList, toList_counts_ofMap, List.length_map, List.length_range]

theorem getElem?_counts_ofMap (hi : i < max bins 1) : (ofMap map bins lower upper).counts[i]? =
    some (map.signed.samples.toList.countP fun d =>
      binOf lower upper (max bins 1) d = some i) := by
  rw [← Array.getElem?_toList, toList_counts_ofMap, List.getElem?_map, List.getElem?_range hi]
  rfl

/-- The counts of a window of bins, added up. -/
theorem sum_extract_counts_ofMap {start length : Nat} (h : start + length ≤ max bins 1) :
    ((ofMap map bins lower upper).counts.extract start (start + length)).sum =
      map.signed.samples.toList.countP fun d =>
        (binOf lower upper (max bins 1) d).any fun i => start ≤ i ∧ i < start + length := by
  rw [← sum_countP_window, ← Array.sum_toList, Array.toList_extract, toList_counts_ofMap,
    List.extract_eq_take_drop, List.range_eq_range', ← List.map_drop, List.drop_range',
    ← List.map_take, List.take_range'_of_length_ge (by omega)]
  congr 3 <;> omega

theorem total_ofMap : (ofMap map bins lower upper).total =
    map.signed.samples.countP fun d => ¬ d < lower ∧ ¬ upper < d := by
  rw [total, ← Array.foldl_toList, ← List.sum_eq_foldl_nat, toList_counts_ofMap,
    List.range_eq_range', sum_countP_window, ← Array.countP_toList]
  apply List.countP_congr
  intro d _
  rw [decide_eq_true_iff,
    ← (isSome_binOf : (binOf lower upper (max bins 1) d).isSome ↔ _)]
  cases hbin : binOf lower upper (max bins 1) d with
  | none => simp
  | some i =>
    have hi := binOf_lt (by omega) hbin
    simpa using hi

end

section
variable {lower upper d : Rat} {bins n k i : Nat}

/-- The differences that a bin takes: from its lower end to below the next bin's, and in the last
bin the upper end of the range too. -/
def Takes (histogram : Histogram Rat) (i : Nat) (d : Rat) : Prop :=
  histogram.lower + i * histogram.binWidth ≤ d ∧
      d < histogram.lower + (i + 1) * histogram.binWidth ∨
    i + 1 = histogram.counts.size ∧ d = histogram.upper

instance (histogram : Histogram Rat) (i : Nat) : DecidablePred (histogram.Takes i) :=
  fun _ => inferInstanceAs (Decidable (_ ∨ _))

theorem binOf_eq_some : binOf lower upper bins d = some i ↔
    (lower ≤ d ∧ d ≤ upper) ∧ min ⌊(d - lower) / ((upper - lower) / bins)⌋₊ (bins - 1) = i := by
  rw [binOf, Option.ite_none_left_eq_some, not_or, not_lt, not_lt, Option.some.injEq,
    floorNat_eq_floor]

/-- The whole steps of a given width from one value up to another. -/
theorem floor_steps {width x : Rat} (hwidth : 0 < width) (hx : 0 ≤ x) :
    ⌊x / width⌋₊ = i ↔ i * width ≤ x ∧ x < (i + 1) * width := by
  rw [Nat.floor_eq_iff (div_nonneg hx hwidth.le), le_div_iff₀ hwidth, div_lt_iff₀ hwidth]

theorem binOf_eq_some_iff (hrange : lower < upper) (hbins : 0 < bins) :
    binOf lower upper bins d = some i ↔ i < bins ∧
      (lower + i * ((upper - lower) / bins) ≤ d ∧ d < lower + (i + 1) * ((upper - lower) / bins) ∨
        i + 1 = bins ∧ d = upper) := by
  have hcount : (0 : Rat) < bins := Nat.cast_pos.mpr hbins
  have hspan : bins * ((upper - lower) / bins) = upper - lower := mul_div_cancel₀ _ hcount.ne'
  have hwidth : 0 < (upper - lower) / bins := div_pos (sub_pos.mpr hrange) hcount
  rw [binOf_eq_some]
  generalize (upper - lower) / (bins : Rat) = width at hspan hwidth
  constructor
  · rintro ⟨⟨hlow, hhigh⟩, hmin⟩
    have hd : 0 ≤ d - lower := sub_nonneg.mpr hlow
    obtain ⟨hstep, hnext⟩ := (floor_steps hwidth hd).mp rfl
    by_cases hfloor : ⌊(d - lower) / width⌋₊ < bins
    · obtain rfl : ⌊(d - lower) / width⌋₊ = i := by omega
      exact ⟨hfloor, Or.inl ⟨by linarith, by linarith⟩⟩
    · -- Only the upper end lies that many steps up, and the last bin takes it.
      have hall : (bins : Rat) ≤ ⌊(d - lower) / width⌋₊ := Nat.cast_le.mpr (not_lt.mp hfloor)
      have hend := mul_le_mul_of_nonneg_right hall hwidth.le
      exact ⟨by omega, Or.inr ⟨by omega, by linarith⟩⟩
  · rintro ⟨hi, ⟨hlow, hhigh⟩ | ⟨hlast, rfl⟩⟩
    · have hnonneg : 0 ≤ i * width := by positivity
      have hnext : (i + 1 : Rat) ≤ bins := by exact_mod_cast hi
      have hend := mul_le_mul_of_nonneg_right hnext hwidth.le
      have hfloor : ⌊(d - lower) / width⌋₊ = i :=
        (floor_steps hwidth (by linarith)).mpr ⟨by linarith, by linarith⟩
      exact ⟨⟨by linarith, by linarith⟩, by omega⟩
    · have hfloor : ⌊(d - lower) / width⌋₊ = bins := by
        rw [← hspan, mul_div_cancel_right₀ _ hwidth.ne', Nat.floor_natCast]
      exact ⟨⟨hrange.le, le_rfl⟩, by omega⟩

/-- A bin of a coarse histogram is made of whole bins of a finer one. -/
theorem binOf_eq_map (hk : 0 < k) (hn : 0 < n) :
    binOf lower upper n d = (binOf lower upper (k * n) d).map (· / k) := by
  have hfactor : (k : Rat) ≠ 0 := Nat.cast_ne_zero.mpr hk.ne'
  have hsteps : (d - lower) / ((upper - lower) / n) =
      (d - lower) / ((upper - lower) / (k * n : Nat)) / k := by
    rw [Nat.cast_mul]
    field_simp
  have hlast : (k * n - 1) / k = n - 1 := by
    rw [Nat.mul_sub_div 0 k n (Nat.mul_pos hk hn), Nat.zero_div]
  have hfloor : floorNat ((d - lower) / ((upper - lower) / n)) =
      floorNat ((d - lower) / ((upper - lower) / (k * n : Nat))) / k := by
    rw [floorNat_eq_floor, floorNat_eq_floor, hsteps, Nat.floor_div_natCast]
  have hmin : ∀ m : Nat, min (m / k) (n - 1) = min m (k * n - 1) / k := by
    intro m
    rw [← hlast]
    exact (Monotone.map_min (f := (· / k)) fun _ _ => Nat.div_le_div_right).symm
  simp only [binOf, hfloor, hmin]
  split <;> rfl

variable (map : DifferenceMap Rat)

theorem binOf_eq_some_iff_takes (hrange : lower < upper) :
    binOf lower upper (max bins 1) d = some i ↔
      i < max bins 1 ∧ (ofMap map bins lower upper).Takes i d := by
  rw [Takes, binWidth, size_counts_ofMap]
  exact binOf_eq_some_iff hrange (by omega)

theorem getElem?_counts_of_takes (hrange : lower < upper) (hi : i < max bins 1) :
    (ofMap map bins lower upper).counts[i]? =
      some (map.signed.samples.countP ((ofMap map bins lower upper).Takes i)) := by
  rw [getElem?_counts_ofMap map hi, ← Array.countP_toList]
  refine congrArg some (List.countP_congr ?_)
  intro d _
  rw [decide_eq_true_iff, decide_eq_true_iff, binOf_eq_some_iff_takes map hrange]
  exact and_iff_right hi

/-- A difference is in a coarse bin if it is in one of the fine bins that make it up. -/
theorem binOf_eq_some_iff_any (hk : 0 < k) (hn : 0 < n) :
    binOf lower upper n d = some i ↔
      (binOf lower upper (k * n) d).any fun j => i * k ≤ j ∧ j < i * k + k := by
  rw [binOf_eq_map hk hn]
  cases binOf lower upper (k * n) d with
  | none => simp
  | some j =>
    have hdiv : j / k = i ↔ i * k ≤ j ∧ j < i * k + k := by
      rw [Nat.div_eq_iff hk]
      omega
    simpa using hdiv

theorem counts_ofMap_mul (hk : 0 < k) (hn : 0 < n) :
    (ofMap map n lower upper).counts = Array.ofFn fun i : Fin n =>
      ((ofMap map (k * n) lower upper).counts.extract (i * k) ((i + 1) * k)).sum := by
  have hpos : 0 < k * n := Nat.mul_pos hk hn
  apply Array.ext_getElem?
  intro i
  by_cases hi : i < n
  · have hend : i * k + k ≤ k * n := by
      rw [← Nat.succ_mul, Nat.mul_comm k n]
      exact Nat.mul_le_mul_right k hi
    rw [getElem?_counts_ofMap map (by omega), Array.getElem?_ofFn, dif_pos hi]
    dsimp only
    rw [Nat.succ_mul, sum_extract_counts_ofMap map (by omega), Nat.max_eq_left hn,
      Nat.max_eq_left hpos]
    refine congrArg some (List.countP_congr ?_)
    intro d _
    rw [decide_eq_true_iff, binOf_eq_some_iff_any hk hn]
  · rw [Array.getElem?_eq_none, Array.getElem?_eq_none]
    · rw [Array.size_ofFn]
      omega
    · rw [size_counts_ofMap]
      omega

end

/-- There are as many counts as bins asked for, and at least one. Every difference that is neither
below nor above the range is counted, at a bin that exists. In exact arithmetic it is counted in the
bin that takes it, so that bins merged in groups are the bins of a coarser histogram. -/
theorem ofMap_counts_once :
    (∀ (α : Type) [Scalar α] (map : DifferenceMap α) (bins : Nat) (lower upper : α),
      let histogram := ofMap map bins lower upper
      histogram.counts.size = max 1 bins ∧
      histogram.total = (map.signed.samples.countP fun d => ¬ d < lower ∧ ¬ upper < d) ∧
      ∀ d i, binOf lower upper (max bins 1) d = some i → i < histogram.counts.size) ∧
    (∀ (map : DifferenceMap Rat) (bins : Nat) (lower upper : Rat), lower < upper →
      let histogram := ofMap map bins lower upper
      ∀ i < max 1 bins,
        (∀ d, binOf lower upper (max bins 1) d = some i ↔ histogram.Takes i d) ∧
        histogram.counts[i]? = some (map.signed.samples.countP (histogram.Takes i))) ∧
    ∀ (map : DifferenceMap Rat) (n k : Nat) (lower upper : Rat), 0 < n → 0 < k →
      (ofMap map n lower upper).counts = Array.ofFn fun i : Fin n =>
        ((ofMap map (k * n) lower upper).counts.extract (i * k) ((i + 1) * k)).sum := by
  refine ⟨?_, ?_, ?_⟩
  · intro α _ map bins lower upper
    refine ⟨(size_counts_ofMap map).trans (Nat.max_comm bins 1), total_ofMap map, ?_⟩
    intro d i hbin
    rw [size_counts_ofMap]
    exact binOf_lt (by omega) hbin
  · intro map bins lower upper hrange histogram i hi
    have hi' : i < max bins 1 := by omega
    refine ⟨?_, getElem?_counts_of_takes map hrange hi'⟩
    intro d
    rw [binOf_eq_some_iff_takes map hrange]
    exact and_iff_right hi'
  · intro map n k lower upper hn hk
    exact counts_ofMap_mul map hk hn

/-- Five differences, one of them out of the range and two at its upper end, in twenty bins and in
five. -/
theorem ofMap_counts_once_row :
    let map : DifferenceMap Rat := ⟨⟨⟨5, 1⟩, #[10, 0, 10, -20, 1], rfl⟩⟩
    let fine := ofMap map 20 (-10) 10
    ((-10 : Rat) < 10 ∧ 0 < 5 ∧ 0 < 4 ∧ 19 < max 1 20 ∧
      binOf (-10 : Rat) 10 (max 20 1) 10 = some 19) ∧
    (19 < fine.counts.size ∧ fine.counts.size = 20 ∧ fine.total = 4) ∧
    (fine.Takes 19 10 ∧ fine.counts[19]? = some 2) ∧
    (ofMap map 5 (-10) 10).counts = Array.ofFn fun i : Fin 5 =>
      (fine.counts.extract (i * 4) ((i + 1) * 4)).sum := by
  intro map fine
  have hrange : (-10 : Rat) < 10 := by decide +kernel
  have hbin : binOf (-10 : Rat) 10 (max 20 1) 10 = some 19 := by decide +kernel
  obtain ⟨hcounted, htakes, hmerged⟩ := ofMap_counts_once
  obtain ⟨hsize, htotal, hinside⟩ := hcounted Rat map 20 (-10) 10
  obtain ⟨hbins, hcount⟩ := htakes map 20 (-10) 10 hrange 19 (by decide)
  exact ⟨⟨hrange, by decide, by decide, by decide, hbin⟩,
    ⟨hinside 10 19 hbin, hsize, htotal.trans (by decide +kernel)⟩,
    ⟨(hbins 10).mp hbin, hcount.trans (by decide +kernel)⟩,
    hmerged map 5 4 (-10) 10 (by decide) (by decide)⟩

end Planar.Histogram
