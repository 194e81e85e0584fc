import Planar.Proofs.Painting
import Planar.Proofs.PerfectScores

/-! A heat map shows every difference as a square block, coloured by its part of the largest. -/
namespace Planar

/-- The pixels that show the sample at a row and column, enlarged. -/
def Rect.block (scale row col : Nat) : Rect :=
  ⟨scale * col, scale * row, scale * (col + 1), scale * (row + 1)⟩

section
variable {scale row col r c : Nat}

theorem segment_iff {n i bound : Nat} (hscale : 0 < scale) (hi : i < bound) :
    scale * i ≤ n ∧ n < scale * (i + 1) ↔ n < scale * bound ∧ n / scale = i := by
  have hlast : scale * (i + 1) ≤ scale * bound := Nat.mul_le_mul_left scale hi
  have hquotient : n / scale = i ↔ n / scale < i + 1 ∧ i ≤ n / scale := by omega
  rw [hquotient, Nat.div_lt_iff_lt_mul hscale, Nat.le_div_iff_mul_le hscale, Nat.mul_comm (i + 1),
    Nat.mul_comm i]
  exact ⟨fun h => ⟨h.2.trans_le hlast, h.2, h.1⟩, fun h => ⟨h.2.2, h.2.1⟩⟩

/-- The blocks of all samples make up the enlarged grid without overlap. -/
theorem Rect.covers_block_iff {shape : Shape} (hscale : 0 < scale) (hr : r < shape.height)
    (hc : c < shape.width) : (block scale r c).Covers row col ↔
      (row < scale * shape.height ∧ col < scale * shape.width) ∧
        row / scale = r ∧ col / scale = c := by
  have hrow := segment_iff (n := row) hscale hr
  have hcol := segment_iff (n := col) hscale hc
  exact (and_congr hrow hcol).trans and_and_and_comm

namespace Grid
variable {α : Type}

theorem pixel?_enlarge (g : Grid α) (hrow : row < scale * g.height)
    (hcol : col < scale * g.width) : (g.enlarge scale).pixel? row col =
      some (g.get ⟨row / scale, Nat.div_lt_of_lt_mul hrow⟩
        ⟨col / scale, Nat.div_lt_of_lt_mul hcol⟩) :=
  pixel?_ofFn _ hrow hcol

theorem mem_samples_iff {g : Grid α} {v : α} : v ∈ g.samples ↔ ∃ row col, g.get row col = v := by
  have hmem := mem_samples_ofFn (f := g.get) (v := v)
  rwa [g.ofFn_get] at hmem

end Grid

end

theorem DifferenceMap.isGreatest_peak (map : DifferenceMap Rat) (hwidth : 0 < map.signed.width)
    (hheight : 0 < map.signed.height) :
    IsGreatest {size | ∃ row col, |map.signed.get row col| = size} map.peak := by
  have hset : {size | ∃ row col, |map.signed.get row col| = size} =
      {size | size ∈ map.signed.samples.toList.map fun d => |d|} := by
    ext size
    simp only [Set.mem_ofPred_eq, List.mem_map, Array.mem_toList_iff, Grid.mem_samples_iff]
    constructor
    · rintro ⟨row, col, hsize⟩
      exact ⟨_, ⟨row, col, rfl⟩, hsize⟩
    · rintro ⟨_, ⟨row, col, rfl⟩, hsize⟩
      exact ⟨row, col, hsize⟩
  have hfirst : |map.signed.get ⟨0, hheight⟩ ⟨0, hwidth⟩| ∈
      {size | size ∈ map.signed.samples.toList.map fun d => |d|} := hset ▸ ⟨_, _, rfl⟩
  rw [hset, peak_eq_foldl_max]
  refine isGreatest_foldl_max (List.ne_nil_of_mem hfirst) ?_
  rw [List.forall_mem_map]
  exact fun d _ => abs_nonneg d

namespace HeatMap

/-! ### The size of blocks -/

section
variable {shape : Shape}

theorem scale_pos (shape : Shape) : 0 < scale shape :=
  Nat.lt_of_lt_of_le Nat.one_pos (Nat.le_max_left _ _)

theorem scale_of_pos (h : 0 < max shape.width shape.height) :
    scale shape = max 1 (512 / max shape.width shape.height) := by
  rw [scale, Nat.max_eq_right (Nat.succ_le_of_lt h)]
  rfl

/-- More than half of the side is used. -/
theorem scale_mul_of_le (h : 0 < max shape.width shape.height)
    (hside : max shape.width shape.height ≤ 512) :
    256 < scale shape * max shape.width shape.height ∧
      scale shape * max shape.width shape.height ≤ 512 := by
  rw [scale_of_pos h]
  generalize max shape.width shape.height = longest at h hside ⊢
  have hone : 1 ≤ 512 / longest := (Nat.one_le_div_iff h).mpr hside
  have hquotient : 512 / longest * longest ≤ 512 := Nat.div_mul_le_self 512 longest
  have hnext : 512 < (512 / longest + 1) * longest := by
    rw [Nat.mul_comm]
    exact Nat.lt_mul_div_succ 512 h
  have hlongest : longest ≤ 512 / longest * longest := Nat.le_mul_of_pos_left longest hone
  rw [Nat.succ_mul] at hnext
  rw [Nat.max_eq_right hone]
  omega

theorem scale_mul_lt (h : 0 < max shape.width shape.height)
    (hword : max shape.width shape.height < 2 ^ 32) :
    scale shape * max shape.width shape.height < 2 ^ 32 := by
  rcases le_or_gt (max shape.width shape.height) 512 with hside | hlarge
  · exact (scale_mul_of_le h hside).2.trans_lt (by norm_num)
  · rw [scale_of_pos h, Nat.div_eq_of_lt hlarge, Nat.max_eq_left (Nat.zero_le 1), Nat.one_mul]
    exact hword

end

/-! ### Colours -/

section
variable {α : Type} [Scalar α] {row col : Nat}

theorem pixel?_render (map : DifferenceMap α)
    (hrow : row < scale map.signed.shape * map.signed.height)
    (hcol : col < scale map.signed.shape * map.signed.width) :
    (render map).pixel? row col = some (ramp (if ((0 : Nat) : α) < map.peak then
      Scalar.abs (map.signed.get ⟨_, Nat.div_lt_of_lt_mul hrow⟩ ⟨_, Nat.div_lt_of_lt_mul hcol⟩) /
        map.peak else ((0 : Nat) : α))) := by
  have hcolours := Grid.pixel?_enlarge (map.absolute.map fun d =>
    ramp (if ((0 : Nat) : α) < map.peak then d / map.peak else ((0 : Nat) : α))) hrow hcol
  have habs : map.absolute.get = fun row col => Scalar.abs (map.signed.get row col) :=
    Grid.get_map map.signed Scalar.abs
  rw [render, hcolours, Grid.get_map, habs]
  rfl

end

section
variable {map : DifferenceMap Rat} {d : Rat}

theorem ramp_zero : ramp (0 : Rat) = cool := by decide +kernel

theorem ramp_one : ramp (1 : Rat) = warm := by decide +kernel

/-- The colour of a difference: its part of the largest on the ramp. -/
def shade (map : DifferenceMap Rat) (d : Rat) : Colour :=
  ramp (if map.peak = 0 then 0 else |d| / map.peak)

theorem shade_zero (map : DifferenceMap Rat) : shade map 0 = cool := by
  rw [shade, abs_zero, zero_div, ite_self, ramp_zero]

theorem pixel?_render_exact (map : DifferenceMap Rat) {row col : Nat}
    (hrow : row < scale map.signed.shape * map.signed.height)
    (hcol : col < scale map.signed.shape * map.signed.width) :
    (render map).pixel? row col = some (shade map (map.signed.get
      ⟨_, Nat.div_lt_of_lt_mul hrow⟩ ⟨_, Nat.div_lt_of_lt_mul hcol⟩)) := by
  have hzero : ((0 : Nat) : Rat) = 0 := rfl
  rw [pixel?_render map hrow hcol, shade, scalarAbs_eq_abs, hzero]
  rcases map.peak_nonneg.eq_or_lt' with hnone | hsome
  · rw [if_pos hnone, hnone, if_neg (lt_irrefl 0)]
  · rw [if_pos hsome, if_neg hsome.ne']

/-- All pixels of a block have the colour of its difference. -/
theorem pixel?_of_block {map : DifferenceMap Rat} {row col : Nat} {r : Fin map.signed.height}
    {c : Fin map.signed.width}
    (h : (Rect.block (scale map.signed.shape) r.val c.val).Covers row col) :
    (render map).pixel? row col = some (shade map (map.signed.get r c)) := by
  obtain ⟨⟨hrow, hcol⟩, hr, hc⟩ :=
    (Rect.covers_block_iff (scale_pos map.signed.shape) r.isLt c.isLt).mp h
  rw [pixel?_render_exact map hrow hcol]
  obtain rfl : ⟨_, Nat.div_lt_of_lt_mul hrow⟩ = r := Fin.ext hr
  obtain rfl : ⟨_, Nat.div_lt_of_lt_mul hcol⟩ = c := Fin.ext hc
  rfl

theorem shade_of_peak (hpeak : map.peak ≠ 0) (hd : |d| = map.peak) : shade map d = warm := by
  rw [shade, if_neg hpeak, hd, div_self hpeak, ramp_one]

end

/-- A heat map in exact arithmetic. Every sample of the map is one block of the picture, read within
the map, and its colour tells its part of the largest difference: the largest is warm, none is
cool, and equal ones look the same. Up to 512 pixels the picture is as large as whole blocks let
it be. -/
theorem blocks_show_differences (map : DifferenceMap Rat) (hwidth : 0 < map.signed.width)
    (hheight : 0 < map.signed.height)
    (hword : max map.signed.width map.signed.height < 2 ^ 32) :
    ∃ s, s = max 1 (512 / max map.signed.width map.signed.height) ∧
    (render map).shape = ⟨map.signed.width * s, map.signed.height * s⟩ ∧
    (map.signed.width * s < 2 ^ 32 ∧ map.signed.height * s < 2 ^ 32) ∧
    (max map.signed.width map.signed.height ≤ 512 →
      256 < max (render map).width (render map).height ∧
        max (render map).width (render map).height ≤ 512) ∧
    IsGreatest {size | ∃ row col, |map.signed.get row col| = size} map.peak ∧
    (∀ row col, row < map.signed.height * s → col < map.signed.width * s →
      ∃ (hrow : row / s < map.signed.height) (hcol : col / s < map.signed.width),
        (render map).pixel? row col = some (shade map (map.signed.get ⟨_, hrow⟩ ⟨_, hcol⟩))) ∧
    ∀ r c, (∀ row col, (Rect.block s r.val c.val).Covers row col ↔
        (row < map.signed.height * s ∧ col < map.signed.width * s) ∧
          row / s = r.val ∧ col / s = c.val) ∧
      ∀ row col, (Rect.block s r.val c.val).Covers row col →
        (render map).pixel? row col = some (shade map (map.signed.get r c)) ∧
        (map.peak ≠ 0 → |map.signed.get r c| = map.peak →
          (render map).pixel? row col = some warm) ∧
        (map.signed.get r c = 0 → (render map).pixel? row col = some cool) ∧
        ∀ r' c' row' col', |map.signed.get r c| = |map.signed.get r' c'| →
          (Rect.block s r'.val c'.val).Covers row' col' →
            (render map).pixel? row col = (render map).pixel? row' col' := by
  have hlongest : 0 < max map.signed.width map.signed.height :=
    hwidth.trans_le (Nat.le_max_left _ _)
  have hshape : (render map).shape = ⟨scale map.signed.shape * map.signed.width,
    scale map.signed.shape * map.signed.height⟩ := rfl
  have hside : max (render map).width (render map).height =
      scale map.signed.shape * max map.signed.width map.signed.height :=
    Nat.mul_max_mul_left _ _ _
  have hlarge := scale_mul_lt hlongest hword
  refine ⟨scale map.signed.shape, scale_of_pos hlongest, ?_⟩
  rw [Nat.mul_comm map.signed.width, Nat.mul_comm map.signed.height, hside]
  refine ⟨hshape, ⟨?_, ?_⟩, scale_mul_of_le hlongest, map.isGreatest_peak hwidth hheight,
    fun row col hrow hcol => ⟨_, _, pixel?_render_exact map hrow hcol⟩, ?_⟩
  · exact (Nat.mul_le_mul_left _ (Nat.le_max_left _ _)).trans_lt hlarge
  · exact (Nat.mul_le_mul_left _ (Nat.le_max_right _ _)).trans_lt hlarge
  · intro r c
    refine ⟨fun row col => Rect.covers_block_iff (scale_pos map.signed.shape) r.isLt c.isLt, ?_⟩
    intro row col hblock
    rw [pixel?_of_block hblock]
    refine ⟨rfl, fun hpeak hlargest => ?_, fun hnone => ?_, ?_⟩
    · rw [shade_of_peak hpeak hlargest]
    · rw [hnone, shade_zero]
    · intro r' c' row' col' hequal hblock'
      rw [pixel?_of_block hblock', shade, shade, hequal]

/-- Three columns by two rows in blocks of 170 pixels. The last two differences are equally large,
one up and one down; the first sample is the same in both planes. -/
theorem blocks_show_differences_three :
    let a : Grid UInt8 := ⟨⟨3, 2⟩, #[5, 9, 7, 200, 10, 0], rfl⟩
    let b : Grid UInt8 := ⟨⟨3, 2⟩, #[5, 4, 8, 203, 0, 10], rfl⟩
    let map : DifferenceMap Rat := ⟨⟨⟨3, 2⟩, #[0, 5, -1, -3, 10, -10], rfl⟩⟩
    DifferenceMap.between a.toScalar b.toScalar = .ok map ∧
    (0 < map.signed.width ∧ 0 < map.signed.height ∧
      max map.signed.width map.signed.height < 2 ^ 32) ∧
    (render map).shape = ⟨510, 340⟩ ∧ 256 < max (render map).width (render map).height ∧
    (render map).pixel? 169 169 = some cool ∧ (render map).pixel? 170 170 = some warm ∧
    (render map).pixel? 339 509 = some warm ∧
    (render map).pixel? 339 509 = (render map).pixel? 170 339 := by
  intro a b map
  have hbetween : DifferenceMap.between a.toScalar b.toScalar = .ok map :=
    (dif_pos rfl).trans (congrArg (fun signed => Except.ok (DifferenceMap.mk signed))
      (Grid.eq_of_samples rfl (by decide +kernel)))
  have hpeak : map.peak ≠ 0 := by decide +kernel
  have hlargest : |map.signed.get 1 1| = map.peak := by decide +kernel
  have hequal : |map.signed.get 1 2| = |map.signed.get 1 1| := by decide +kernel
  obtain ⟨s, rfl, hshape, -, hside, -, -, hblocks⟩ :=
    blocks_show_differences map (by decide) (by decide) (by decide)
  have hlast := (hblocks 1 2).2 339 509 (by decide)
  exact ⟨hbetween, ⟨by decide, by decide, by decide⟩, hshape.trans (by decide),
    (hside (by decide)).1,
    ((hblocks 0 0).2 169 169 (by decide)).2.2.1 rfl,
    ((hblocks 1 1).2 170 170 (by decide)).2.1 hpeak hlargest,
    hlast.2.1 hpeak (hequal.trans hlargest), hlast.2.2.2 1 1 170 339 hequal (by decide)⟩

end HeatMap

end Planar
