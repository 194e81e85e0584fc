import Planar.Proofs.Gaps

/-! Percentages above thresholds as the tail of the distribution of gaps. -/
namespace Planar

section
variable {m : Nat} {ns : List Nat}

theorem countP_lt_range (n m : Nat) : (List.range m).countP (· < n) = min n m := by
  induction m with
  | zero => simp
  | succ m ih =>
    rw [List.range_succ, List.countP_append, ih]
    by_cases hm : m < n
    · simp [hm]
      omega
    · simp [hm]
      omega

/-- Whole numbers are counted once by every threshold below them. -/
theorem sum_countP_lt (h : ∀ n ∈ ns, n ≤ m) :
    ((List.range m).map fun t => ns.countP (t < ·)).sum = ns.sum := by
  rw [sum_countP_comm]
  refine congrArg List.sum ((List.map_congr_left ?_).trans (List.map_id ns))
  intro n hn
  rw [countP_lt_range, Nat.min_eq_left (h n hn)]
  rfl

end

namespace Grid
variable {shape : Shape} {f g : Fin shape.height → Fin shape.width → UInt8} {a b : Grid UInt8}

/-- The gaps of two equally shaped planes of bytes, which are whole. -/
def byteGaps (a b : Grid UInt8) (h : a.shape = b.shape) : List Nat :=
  (positions a.shape).map fun (row, col) =>
    (((a.get row col).toNat : Int) - (b.get (row.cast (congrArg Shape.height h))
      (col.cast (congrArg Shape.width h))).toNat).natAbs

theorem byteGaps_ofFn : (ofFn shape f).byteGaps (ofFn shape g) rfl =
    (positions shape).map fun (row, col) =>
      (((f row col).toNat : Int) - (g row col).toNat).natAbs := by
  simp only [byteGaps, funext_get_ofFn]
  rfl

theorem length_byteGaps (h : a.shape = b.shape) : (a.byteGaps b h).length = a.samples.size := by
  rw [byteGaps, List.length_map, length_positions, a.size_samples]

theorem le_of_mem_byteGaps (h : a.shape = b.shape) : ∀ n ∈ a.byteGaps b h, n ≤ 255 := by
  obtain ⟨shape, f, g, rfl, rfl⟩ := exists_ofFn_of_shape h
  rw [byteGaps_ofFn, List.forall_mem_map]
  rintro ⟨row, col⟩ _
  have hbyte : ∀ v : UInt8, v.toNat ≤ 255 := fun v => Nat.le_of_lt_succ v.toNat_lt
  have hf := hbyte (f row col)
  have hg := hbyte (g row col)
  dsimp only
  omega

end Grid

theorem Comparison.exists_measures_bytes [Analytic Rat] {a b : Grid UInt8}
    (h : a.shape = b.shape) (thresholds : List Rat) :
    ∃ comparison, between (a.toScalar : Grid Rat) b.toScalar thresholds = .ok comparison ∧
      comparison.Measures ((a.byteGaps b h).map fun n : Nat => (n : Rat)) thresholds := by
  obtain ⟨shape, f, g, rfl, rfl⟩ := Grid.exists_ofFn_of_shape h
  have hgaps : (Grid.ofFn shape fun row col => ((f row col).toNat : Rat)).gaps
      (Grid.ofFn shape fun row col => ((g row col).toNat : Rat)) rfl =
        ((Grid.ofFn shape f).byteGaps (Grid.ofFn shape g) rfl).map fun n : Nat => (n : Rat) := by
    rw [Grid.gaps_ofFn, Grid.byteGaps_ofFn, List.map_map]
    simp only [Function.comp_def, Nat.cast_natAbs]
    push_cast
    rfl
  rw [Grid.toScalar_ofFn, Grid.toScalar_ofFn, ← hgaps]
  exact exists_measures h thresholds

namespace Comparison
variable {comparison : Comparison Rat} {gaps thresholds : List Rat}

/-- The shares of a comparison as the tail of a distribution of gaps. -/
structure TailOf (comparison : Comparison Rat) (gaps thresholds : List Rat) : Prop where
  thresholds_eq : comparison.exceeding.map Share.threshold = thresholds
  percent_eq : ∀ s ∈ comparison.exceeding,
    s.percent = (gaps.countP (s.threshold < ·) : Nat) / (gaps.length : Rat) * 100
  percent_mem : ∀ s ∈ comparison.exceeding, s.percent ∈ Set.Icc 0 100
  percent_antitone : ∀ s ∈ comparison.exceeding, ∀ t ∈ comparison.exceeding,
    s.threshold ≤ t.threshold → t.percent ≤ s.percent
  percent_eq_zero : ∀ s ∈ comparison.exceeding, 0 ≤ s.threshold →
    (s.percent = 0 ↔ comparison.maxAbs ≤ s.threshold)

theorem Measures.tailOf (h : comparison.Measures gaps thresholds) (hsome : 0 < gaps.length) :
    comparison.TailOf gaps thresholds := by
  have hlength : (0 : Rat) < gaps.length := Nat.cast_pos.mpr hsome
  have hshares : ∀ s ∈ comparison.exceeding, s = share gaps s.threshold := by
    rw [h.exceeding_eq, List.forall_mem_map]
    exact fun _ _ => rfl
  have hpercent : ∀ s ∈ comparison.exceeding,
      s.percent = (gaps.countP (s.threshold < ·) : Nat) / (gaps.length : Rat) * 100 :=
    fun s hs => (congrArg Share.percent (hshares s hs)).trans (percent_share gaps s.threshold)
  refine ⟨?_, hpercent, ?_, ?_, ?_⟩
  · rw [h.exceeding_eq]
    exact map_threshold_shares gaps thresholds
  · intro s hs
    have hcount : (gaps.countP (s.threshold < ·) : Rat) ≤ gaps.length :=
      Nat.cast_le.mpr List.countP_le_length
    have hshare := div_le_one_of_le₀ hcount hlength.le
    rw [hpercent s hs]
    exact ⟨by positivity, by linarith⟩
  · intro s hs t ht hle
    have hcount : gaps.countP (t.threshold < ·) ≤ gaps.countP (s.threshold < ·) := by
      apply List.countP_mono_left
      intro d _ hd
      exact decide_eq_true (hle.trans_lt (of_decide_eq_true hd))
    rw [hpercent s hs, hpercent t ht]
    gcongr
  · intro s hs hnonneg
    have hcount : gaps.countP (s.threshold < ·) = 0 ↔ ∀ d ∈ gaps, d ≤ s.threshold := by
      rw [List.countP_eq_zero]
      simp only [decide_eq_true_iff, not_lt]
    rw [hpercent s hs, h.maxAbs_eq, foldl_max_le_iff, and_iff_right hnonneg, ← hcount]
    simp [hlength.ne']

/-- Over all whole thresholds below the greatest byte, the shares add up to the mean. -/
theorem Measures.sum_percents {ns : List Nat} (hbytes : ∀ n ∈ ns, n ≤ 255)
    (h : comparison.Measures (ns.map fun n : Nat => (n : Rat))
      ((List.range 255).map fun t : Nat => (t : Rat))) :
    (comparison.exceeding.map Share.percent).sum = 100 * comparison.meanAbs := by
  have hpercent : ∀ t : Nat, (share (ns.map fun n : Nat => (n : Rat)) t).percent =
      100 / (ns.length : Rat) * (ns.countP (t < ·) : Nat) := by
    intro t
    rw [percent_share, List.countP_map, List.length_map]
    simp only [Function.comp_def, Nat.cast_lt]
    ring
  rw [h.exceeding_eq, h.meanAbs_eq, Statistics.mean_eq, List.map_map, List.map_map]
  simp only [Function.comp_def, hpercent]
  have hsum := congrArg (Nat.cast : Nat → Rat) (sum_countP_lt hbytes)
  rw [Nat.cast_list_sum, Nat.cast_list_sum, List.map_map] at hsum
  rw [List.sum_map_mul_left, List.length_map, ← hsum]
  simp only [Function.comp_def]
  ring

end Comparison

/-- There is one share for each threshold, in their order, and it is the percentage of positions
that are further apart. So it falls as the threshold grows and vanishes from the largest gap on, and
the shares above all whole numbers below the greatest byte add up to the mean gap. Planes without
samples have empty shares, also in doubles. -/
theorem exceeding_is_tail :
    (∀ [Analytic Rat] (a b : Grid UInt8) (h : a.shape = b.shape), 0 < a.samples.size →
      ∀ thresholds : List Rat, ∃ comparison,
        Comparison.between (a.toScalar : Grid Rat) b.toScalar thresholds = .ok comparison ∧
        comparison.TailOf ((a.byteGaps b h).map fun n : Nat => (n : Rat)) thresholds ∧
        (thresholds = ((List.range 255).map fun t : Nat => (t : Rat)) →
          (comparison.exceeding.map Share.percent).sum = 100 * comparison.meanAbs)) ∧
    ∀ (α : Type) [Scalar α] [Analytic α] (a b : Grid α), a.shape = b.shape →
      a.samples.size = 0 → ∀ thresholds : List α, ∃ comparison,
        Comparison.between a b thresholds = .ok comparison ∧
        comparison.exceeding.map Share.threshold = thresholds ∧
        ∀ s ∈ comparison.exceeding, s.percent = ((0 : Nat) : α) := by
  constructor
  · intro _ a b h hsome thresholds
    obtain ⟨comparison, hbetween, hmeasures⟩ := Comparison.exists_measures_bytes h thresholds
    refine ⟨comparison, hbetween, hmeasures.tailOf ?_, ?_⟩
    · rw [List.length_map, Grid.length_byteGaps]
      exact hsome
    · rintro rfl
      exact hmeasures.sum_percents (Grid.le_of_mem_byteGaps h)
  · intro α _ _ a b h hnone thresholds
    have hbetween : DifferenceMap.between a b = .ok ⟨a.zipWith (· - ·) b h⟩ := dif_pos h
    have habsolute :
        (⟨a.zipWith (· - ·) b h⟩ : DifferenceMap α).absolute.samples.toList = [] := by
      apply List.eq_nil_of_length_eq_zero
      rw [Array.length_toList, Grid.size_samples]
      exact a.size_samples.symm.trans hnone
    refine ⟨Comparison.ofMap ⟨a.zipWith (· - ·) b h⟩ thresholds, ?_,
      Comparison.map_threshold_shares _ thresholds, ?_⟩
    · rw [Comparison.between, hbetween]
      rfl
    · rw [Comparison.ofMap, List.forall_mem_map]
      intro threshold _
      exact if_pos habsolute

/-- Four samples against four others that are none, one, three and four steps away, and planes of
doubles without samples. -/
theorem exceeding_is_tail_row :
    let a : Grid UInt8 := ⟨⟨4, 1⟩, #[10, 20, 30, 40], rfl⟩
    let b : Grid UInt8 := ⟨⟨4, 1⟩, #[10, 19, 33, 36], rfl⟩
    let empty : Grid Float := ⟨⟨0, 3⟩, #[], rfl⟩
    -- The deviation, of two and a half, comes out exact.
    let _ : Analytic Rat := ⟨Rat.sqrt, fun x => Int.log 10 x⟩
    (a.shape = b.shape ∧ 0 < a.samples.size ∧ empty.samples.size = 0) ∧
    (∃ comparison,
      Comparison.between (a.toScalar : Grid Rat) b.toScalar [0, 1, 3] = .ok comparison ∧
      comparison.TailOf [0, 1, 3, 4] [0, 1, 3] ∧
      comparison.exceeding = [⟨0, 75⟩, ⟨1, 50⟩, ⟨3, 25⟩]) ∧
    (∃ comparison, Comparison.between (a.toScalar : Grid Rat) b.toScalar
        ((List.range 255).map fun t : Nat => (t : Rat)) = .ok comparison ∧
      comparison.meanAbs = 2 ∧ (comparison.exceeding.map Share.percent).sum = 200) ∧
    ∃ comparison, Comparison.between empty empty [0, 1] = .ok comparison ∧
      comparison.exceeding.map Share.threshold = [0, 1] ∧
      ∀ s ∈ comparison.exceeding, s.percent = ((0 : Nat) : Float) := by
  intro a b empty analytic
  have hshape : a.shape = b.shape := rfl
  have hsome : 0 < a.samples.size := by decide
  have hgaps : ((a.byteGaps b rfl).map fun n : Nat => (n : Rat)) = [0, 1, 3, 4] := by
    decide +kernel
  have hshares : (Comparison.between (a.toScalar : Grid Rat) b.toScalar [0, 1, 3]).map
      Comparison.exceeding = .ok [⟨0, 75⟩, ⟨1, 50⟩, ⟨3, 25⟩] := by decide +kernel
  have hmean : (Comparison.between (a.toScalar : Grid Rat) b.toScalar
      ((List.range 255).map fun t : Nat => (t : Rat))).map Comparison.meanAbs = .ok 2 := by
    decide +kernel
  obtain ⟨hbytes, hempty⟩ := exceeding_is_tail
  obtain ⟨some, hbetween, htail, -⟩ := hbytes a b hshape hsome [0, 1, 3]
  obtain ⟨all, hbetween', -, hsum⟩ :=
    hbytes a b hshape hsome ((List.range 255).map fun t : Nat => (t : Rat))
  rw [hbetween] at hshares
  rw [hbetween'] at hmean
  have hall : all.meanAbs = 2 := Except.ok.inj hmean
  refine ⟨⟨hshape, hsome, rfl⟩, ⟨some, hbetween, hgaps ▸ htail, Except.ok.inj hshares⟩,
    ⟨all, hbetween', hall, ?_⟩, hempty Float empty empty rfl rfl [0, 1]⟩
  rw [hsum rfl, hall]
  norm_num

end Planar
