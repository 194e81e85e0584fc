import Planar.Proofs.Differences
import Planar.Proofs.Lines
import Planar.Proofs.SampleRange

/-! Two sources resampled alike: their order is kept, and they do not move apart. -/
namespace Planar

section
variable {shape target : Shape} {hs : 0 < shape.height ∧ 0 < shape.width}
  {f g : Fin shape.height → Fin shape.width → Rat} {row : Fin target.height}
  {col : Fin target.width}

theorem resamplePlane_mono (h : ∀ r c, f r c ≤ g r c) :
    resamplePlane target hs f row col ≤ resamplePlane target hs g row col :=
  resampleLine_mono hs.1 (fun r => resampleLine_mono hs.2 (h r) col) row

theorem resamplePlane_add_const (k : Rat) :
    resamplePlane target hs (fun r c => f r c + k) row col =
      resamplePlane target hs f row col + k := by
  unfold resamplePlane
  simp only [resampleLine_add_const]

theorem resamplePlane_le_add {k : Rat} (h : ∀ r c, f r c ≤ g r c + k) :
    resamplePlane target hs f row col ≤ resamplePlane target hs g row col + k := by
  rw [← resamplePlane_add_const]
  exact resamplePlane_mono h

/-- Results are no further apart than the sources are anywhere. -/
theorem abs_resamplePlane_sub_le {bound : Rat} (h : ∀ r c, |f r c - g r c| ≤ bound) :
    |resamplePlane target hs f row col - resamplePlane target hs g row col| ≤ bound := by
  have hfg : ∀ r c, f r c ≤ g r c + bound := fun r c =>
    sub_le_iff_le_add'.mp (abs_sub_le_iff.mp (h r c)).1
  have hgf : ∀ r c, g r c ≤ f r c + bound := fun r c =>
    sub_le_iff_le_add'.mp (abs_sub_le_iff.mp (h r c)).2
  exact abs_sub_le_iff.mpr ⟨sub_le_iff_le_add'.mpr (resamplePlane_le_add hfg),
    sub_le_iff_le_add'.mpr (resamplePlane_le_add hgf)⟩

theorem peak_resamplePlane_le :
    (⟨Grid.ofFn target fun row col =>
      resamplePlane target hs f row col - resamplePlane target hs g row col⟩ :
        DifferenceMap Rat).peak ≤
      (⟨Grid.ofFn shape fun r c => f r c - g r c⟩ : DifferenceMap Rat).peak := by
  obtain ⟨hnonneg, hbound⟩ := DifferenceMap.peak_le_iff.mp (le_refl
    (⟨Grid.ofFn shape fun r c => f r c - g r c⟩ : DifferenceMap Rat).peak)
  exact DifferenceMap.peak_le_iff.mpr ⟨hnonneg, fun row col => abs_resamplePlane_sub_le hbound⟩

end

section
variable {shape target : Shape} {hs : 0 < shape.height ∧ 0 < shape.width}
  {f g : Fin shape.height → Fin shape.width → UInt8}

/-- A plane of bytes resampled exactly and brought back to bytes. -/
def resampleBytes (target : Shape) (hs : 0 < shape.height ∧ 0 < shape.width)
    (f : Fin shape.height → Fin shape.width → UInt8) (row : Fin target.height)
    (col : Fin target.width) : UInt8 :=
  quantizeSample (resamplePlane target hs (fun r c => ((f r c).toNat : Rat)) row col)

theorem quantize_bilinear_ofFn (hs : 0 < shape.height ∧ 0 < shape.width)
    (ht : 0 < target.height ∧ 0 < target.width)
    (f : Fin shape.height → Fin shape.width → UInt8) :
    (bilinear (Grid.toScalar (Grid.ofFn shape f) : Grid Rat) target).map Grid.quantize =
      .ok (Grid.ofFn target (resampleBytes target hs f)) := by
  rw [Grid.toScalar_ofFn, bilinear_ofFn hs ht]
  exact congrArg Except.ok (Grid.quantize_ofFn _)

theorem resampleBytes_mono (h : ∀ r c, f r c ≤ g r c) (row : Fin target.height)
    (col : Fin target.width) :
    resampleBytes target hs f row col ≤ resampleBytes target hs g row col := by
  have hle : ∀ r c, ((f r c).toNat : Rat) ≤ (g r c).toNat := fun r c =>
    Nat.cast_le.mpr (UInt8.le_iff_toNat_le.mp (h r c))
  exact quantizeSample_mono (resamplePlane_mono hle)

theorem peak_resampleBytes_le :
    (⟨Grid.ofFn target fun row col => ((resampleBytes target hs f row col).toNat : Rat) -
      (resampleBytes target hs g row col).toNat⟩ : DifferenceMap Rat).peak ≤
      (⟨Grid.ofFn shape fun r c => ((f r c).toNat : Rat) - (g r c).toNat⟩ :
        DifferenceMap Rat).peak := by
  -- The bound is whole, so rounding to bytes respects it as well.
  obtain ⟨n, hn⟩ := DifferenceMap.exists_natCast_peak f g
  obtain ⟨hnonneg, hbound⟩ := DifferenceMap.peak_le_iff.mp hn.le
  rw [hn]
  refine DifferenceMap.peak_le_iff.mpr ⟨hnonneg, ?_⟩
  intro row col
  exact abs_quantizeSample_sub_le (abs_resamplePlane_sub_le hbound)

end

/-- Of two equally shaped sources, one nowhere above the other stays so, also in bytes. Whatever
their order, the largest difference between them does not grow, in bytes neither if the sources
are of bytes. -/
theorem bilinear_nonexpansive [Analytic Rat] (target : Shape) (hheight : 0 < target.height)
    (hwidth : 0 < target.width) (thresholds : List Rat) :
    (∀ a b : Grid Rat, a.HasSides → a.shape = b.shape →
      ∃ a' b' before after,
        bilinear a target = .ok a' ∧ bilinear b target = .ok b' ∧
        (a.Related (· ≤ ·) b →
          a'.Related (· ≤ ·) b' ∧ a'.quantize.Related (· ≤ ·) b'.quantize) ∧
        Comparison.between a b thresholds = .ok before ∧
        Comparison.between a' b' thresholds = .ok after ∧ after.maxAbs ≤ before.maxAbs) ∧
    ∀ a b : Grid UInt8, a.HasSides → a.shape = b.shape →
      ∃ a' b' before after,
        (bilinear (a.toScalar : Grid Rat) target).map Grid.quantize = .ok a' ∧
        (bilinear (b.toScalar : Grid Rat) target).map Grid.quantize = .ok b' ∧
        (a.Related (· ≤ ·) b → a'.Related (· ≤ ·) b') ∧
        Comparison.between (a.toScalar : Grid Rat) b.toScalar thresholds = .ok before ∧
        Comparison.between (a'.toScalar : Grid Rat) b'.toScalar thresholds = .ok after ∧
        after.maxAbs ≤ before.maxAbs := by
  have ht : 0 < target.height ∧ 0 < target.width := ⟨hheight, hwidth⟩
  constructor
  · intro a b hsides hshape
    obtain ⟨shape, f, g, rfl, rfl⟩ := Grid.exists_ofFn_of_shape hshape
    have hs : 0 < shape.height ∧ 0 < shape.width := ⟨hsides.height_pos, hsides.width_pos⟩
    obtain ⟨before, hbefore, hpeak⟩ := Comparison.between_ofFn f g thresholds
    obtain ⟨after, hafter, hpeak'⟩ := Comparison.between_ofFn (resamplePlane target hs f)
      (resamplePlane target hs g) thresholds
    refine ⟨_, _, before, after, bilinear_ofFn hs ht f, bilinear_ofFn hs ht g, ?_, hbefore,
      hafter, ?_⟩
    · intro horder
      have hle : ∀ row col, resamplePlane target hs f row col ≤ resamplePlane target hs g row col :=
        fun row col => resamplePlane_mono (Grid.related_ofFn.mp horder)
      refine ⟨Grid.related_ofFn.mpr hle, ?_⟩
      rw [Grid.quantize_ofFn, Grid.quantize_ofFn]
      exact Grid.related_ofFn.mpr fun row col => quantizeSample_mono (hle row col)
    · rw [hpeak, hpeak']
      exact peak_resamplePlane_le
  · intro a b hsides hshape
    obtain ⟨shape, f, g, rfl, rfl⟩ := Grid.exists_ofFn_of_shape hshape
    have hs : 0 < shape.height ∧ 0 < shape.width := ⟨hsides.height_pos, hsides.width_pos⟩
    obtain ⟨before, hbefore, hpeak⟩ := Comparison.between_ofFn
      (fun r c => ((f r c).toNat : Rat)) (fun r c => ((g r c).toNat : Rat)) thresholds
    obtain ⟨after, hafter, hpeak'⟩ := Comparison.between_ofFn
      (fun row col => ((resampleBytes target hs f row col).toNat : Rat))
      (fun row col => ((resampleBytes target hs g row col).toNat : Rat)) thresholds
    refine ⟨_, _, before, after, quantize_bilinear_ofFn hs ht f, quantize_bilinear_ofFn hs ht g,
      ?_, ?_, ?_, ?_⟩
    · intro horder
      exact Grid.related_ofFn.mpr (resampleBytes_mono (Grid.related_ofFn.mp horder))
    · rw [Grid.toScalar_ofFn, Grid.toScalar_ofFn]
      exact hbefore
    · rw [Grid.toScalar_ofFn, Grid.toScalar_ofFn]
      exact hafter
    · rw [hpeak, hpeak']
      exact peak_resampleBytes_le

/-- Two samples and two others enlarged to seven: the differences grow from nothing to six, before
and after. -/
theorem bilinear_nonexpansive_row :
    let a : Grid UInt8 := ⟨⟨2, 1⟩, #[10, 20], rfl⟩
    let b : Grid UInt8 := ⟨⟨2, 1⟩, #[10, 26], rfl⟩
    let target : Shape := ⟨7, 1⟩
    -- Deviations that are square roots of squares, as those here are, come out exact.
    let _ : Analytic Rat := ⟨Rat.sqrt, fun x => Int.log 10 x⟩
    (0 < target.height ∧ 0 < target.width ∧ a.HasSides ∧ a.shape = b.shape ∧
      a.Related (· ≤ ·) b ∧ (a.toScalar : Grid Rat).Related (· ≤ ·) b.toScalar) ∧
    (∃ a' b' after, bilinear (a.toScalar : Grid Rat) target = .ok a' ∧
      bilinear (b.toScalar : Grid Rat) target = .ok b' ∧
      a'.Related (· ≤ ·) b' ∧ a'.quantize.Related (· ≤ ·) b'.quantize ∧
      Comparison.between a' b' [0, 5] = .ok after ∧ after.maxAbs ≤ 6) ∧
    ∃ a' b' after,
      (bilinear (a.toScalar : Grid Rat) target).map Grid.quantize = .ok a' ∧
      (bilinear (b.toScalar : Grid Rat) target).map Grid.quantize = .ok b' ∧
      a'.Related (· ≤ ·) b' ∧
      Comparison.between (a'.toScalar : Grid Rat) b'.toScalar [0, 5] = .ok after ∧
      after.maxAbs ≤ 6 := by
  intro a b target analytic
  have hsides : a.HasSides := ⟨Nat.one_pos, Nat.succ_pos 1⟩
  have hscalar : (a.toScalar : Grid Rat).HasSides := ⟨Nat.one_pos, Nat.succ_pos 1⟩
  have hbytes : a.Related (· ≤ ·) b := ⟨rfl, by decide⟩
  have horder : (a.toScalar : Grid Rat).Related (· ≤ ·) b.toScalar := ⟨rfl, by decide +kernel⟩
  have hbefore : (Comparison.between (a.toScalar : Grid Rat) b.toScalar [0, 5]).map
      Comparison.maxAbs = .ok 6 := by decide +kernel
  obtain ⟨hvalues, hquantized⟩ := bilinear_nonexpansive target (by decide) (by decide) [0, 5]
  obtain ⟨a', b', before, after, ha, hb, hkeeps, hcompared, hafter, hle⟩ :=
    hvalues a.toScalar b.toScalar hscalar rfl
  obtain ⟨p, q, before', after', hp, hq, hkeeps', hcompared', hafter', hle'⟩ :=
    hquantized a b hsides rfl
  have hmax : before.maxAbs = 6 :=
    Except.ok.inj ((congrArg (Except.map Comparison.maxAbs) hcompared).symm.trans hbefore)
  have hmax' : before'.maxAbs = 6 :=
    Except.ok.inj ((congrArg (Except.map Comparison.maxAbs) hcompared').symm.trans hbefore)
  obtain ⟨hordered, hordered'⟩ := hkeeps horder
  exact ⟨⟨by decide, by decide, hsides, rfl, hbytes, horder⟩,
    ⟨a', b', after, ha, hb, hordered, hordered', hafter, hmax ▸ hle⟩,
    p, q, after', hp, hq, hkeeps' hbytes, hafter', hmax' ▸ hle'⟩

end Planar
