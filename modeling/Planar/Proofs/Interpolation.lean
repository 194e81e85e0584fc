import Planar.Proofs.SampleRange
import Planar.Proofs.Strides

/-! What exact resampling passes through: the source samples wherever a position lies on one, and
every function that is linear along both axes. -/
namespace Planar

section
variable {source target i : Nat}

theorem coordinate_first : coordinate source target 0 = 0 := by
  unfold coordinate
  split <;> simp

theorem coordinate_last (hs : 0 < source) (ht : 1 < target) (hi : i + 1 = target) :
    coordinate source target i = ((source - 1 : Nat) : Rat) := by
  subst hi
  have hne : (i : Rat) ≠ 0 := by
    rw [Nat.cast_ne_zero]
    omega
  rw [coordinate, if_neg (by omega), Nat.cast_pred hs, Nat.cast_add, Nat.cast_one,
    add_sub_cancel_right, mul_div_cancel_left₀ _ hne]

/-- An axis on which every source step became `k` steps has a source position at every `k`-th. -/
theorem coordinate_mul {k : Nat} (hk : 0 < k) (hi : i < source) :
    coordinate source (k * (source - 1) + 1) (i * k) = i := by
  have hs : 0 < source := Nat.zero_lt_of_lt hi
  rcases Nat.eq_zero_or_pos (source - 1) with hone | hmore
  · obtain rfl : i = 0 := by omega
    simp [coordinate, hone]
  · have hsource : ((source - 1 : Nat) : Rat) ≠ 0 := Nat.cast_ne_zero.mpr hmore.ne'
    have hstep : (k : Rat) ≠ 0 := Nat.cast_ne_zero.mpr hk.ne'
    have htarget : k * (source - 1) + 1 ≠ 1 := by
      have := Nat.mul_pos hk hmore
      omega
    rw [coordinate, if_neg htarget, ← Nat.cast_pred hs, Nat.cast_add, Nat.cast_one,
      add_sub_cancel_right, Nat.cast_mul, Nat.cast_mul, mul_assoc,
      mul_div_cancel_right₀ _ (mul_ne_zero hstep hsource)]

/-- A whole coordinate is a position of the source. -/
theorem exists_fin_of_coordinate (hs : 0 < source) (hi : i < target) {y : Int}
    (h : coordinate source target i = y) :
    ∃ k : Fin source, (k.val : Int) = y ∧ coordinate source target i = k.val := by
  have hnonneg : (0 : Rat) ≤ y := h ▸ coordinate_nonneg hs (Nat.zero_lt_of_lt hi)
  have hlast : (y : Rat) ≤ ((source - 1 : Nat) : Rat) := h ▸ coordinate_le hs hi
  have hnonneg : 0 ≤ y := by exact_mod_cast hnonneg
  have hlast : y ≤ ((source - 1 : Nat) : Int) := by exact_mod_cast hlast
  lift y to Nat using hnonneg
  exact ⟨⟨y, by omega⟩, rfl, h⟩

end

/-- Both positions are the first ones of their axes, or both the last. -/
def SameEnd {m n : Nat} (i : Fin m) (k : Fin n) : Prop :=
  (i.val = 0 ∧ k.val = 0) ∨ (i.val + 1 = m ∧ k.val + 1 = n)

theorem coordinate_of_sameEnd {source target : Nat} {i : Fin target} {k : Fin source}
    (h : SameEnd i k) (ht : 1 < target) : coordinate source target i = k.val := by
  rcases h with ⟨hi, hk⟩ | ⟨hi, hk⟩
  · rw [hi, hk, coordinate_first, Nat.cast_zero]
  · have hlast : k.val = source - 1 := by omega
    rw [hlast]
    exact coordinate_last (Nat.zero_lt_of_lt k.isLt) ht hi

section
variable {source : Grid Rat} {target : Shape} {row : Fin target.height} {col : Fin target.width}

theorem blendRow_of_coordinates (hs : source.HasSides) {r : Fin source.height}
    {c : Fin source.width} (hrow : coordinate source.height target.height row = r.val)
    (hcol : coordinate source.width target.width col = c.val) :
    blendRow source target hs row col = source.get r c := by
  have hy := Tap.forIndex_of_position hs.height_pos r.isLt
    ((ratio_mul_eq_coordinate hs.height_pos (Nat.zero_lt_of_lt row.isLt) row).trans hrow)
  have hx := Tap.forIndex_of_position hs.width_pos c.isLt
    ((ratio_mul_eq_coordinate hs.width_pos (Nat.zero_lt_of_lt col.isLt) col).trans hcol)
  rw [blendRow, rowTap, colTap, hy, hx]
  exact Tap.blend_of_weights rfl rfl source.get

/-- The shape in which every step of the source is `ky` rows and `kx` columns. -/
def Shape.stretch (shape : Shape) (ky kx : Nat) : Shape :=
  ⟨kx * (shape.width - 1) + 1, ky * (shape.height - 1) + 1⟩

theorem strided_stretch (hs : source.HasSides) {ky kx : Nat} (hky : 0 < ky) (hkx : 0 < kx) :
    (Grid.ofFn (source.shape.stretch ky kx)
      (blendRow source (source.shape.stretch ky kx) hs)).strided ky kx source.shape =
        .ok source := by
  have hheight := hs.height_pos
  have hwidth := hs.width_pos
  have hlastRow : (source.height - 1) * ky < ky * (source.height - 1) + 1 := by
    rw [Nat.mul_comm]
    exact Nat.lt_succ_self _
  have hlastCol : (source.width - 1) * kx < kx * (source.width - 1) + 1 := by
    rw [Nat.mul_comm]
    exact Nat.lt_succ_self _
  have hsample : ∀ (row : Fin source.height) (col : Fin source.width),
      blendRow source (source.shape.stretch ky kx) hs
        ⟨row.val * ky, Grid.mul_lt_of_last hlastRow row⟩
        ⟨col.val * kx, Grid.mul_lt_of_last hlastCol col⟩ = source.get row col := by
    intro row col
    exact blendRow_of_coordinates hs (coordinate_mul hky row.isLt) (coordinate_mul hkx col.isLt)
  refine Grid.strided_eq_ok_iff.mpr
    ⟨Shape.stepsWithin_iff.mpr ⟨hheight, hwidth, hlastRow, hlastCol⟩, rfl,
      Grid.mul_lt_of_last hlastRow, Grid.mul_lt_of_last hlastCol, ?_⟩
  intro row col
  exact ((Grid.get_ofFn _ _ _).trans (hsample row col)).symm

/-- A function that is linear along both axes mixes to its value at the coordinate. -/
theorem mix_of_bilinear (p q r s y a b w : Rat) :
    mix (p + q * y + r * a + s * y * a) (p + q * y + r * b + s * y * b) w =
      (p + r * mix a b w) + (q + s * mix a b w) * y := by
  unfold mix
  ring

theorem blendRow_of_bilinear (hs : source.HasSides) {p q r s : Rat}
    (h : ∀ row col, source.get row col = p + q * row.val + r * col.val + s * row.val * col.val) :
    let y := coordinate source.height target.height row
    let x := coordinate source.width target.width col
    blendRow source target hs row col = p + q * y + r * x + s * y * x := by
  intro y x
  have hrow := (Tap.at_forIndex hs.height_pos row.isLt).mix_eq
    (coordinate_nonneg hs.height_pos (Nat.zero_lt_of_lt row.isLt))
  have hcol := (Tap.at_forIndex hs.width_pos col.isLt).mix_eq
    (coordinate_nonneg hs.width_pos (Nat.zero_lt_of_lt col.isLt))
  rw [blendRow, Tap.blend_eq_mix]
  simp only [h, mix_of_bilinear, rowTap, colTap, mix_affine, hrow, hcol]
  ring

end

/-- Wherever both coordinates are whole, the output sample is the source sample there. So corners
lie on corners, and a source enlarged by whole steps is found again at every step. -/
theorem bilinear_through_samples {T : Type} (value : T → Rat) (source : Grid T) (target : Shape)
    (hs : source.HasSides) (hheight : 0 < target.height) (hwidth : 0 < target.width) :
    (∃ result, bilinear (source.map value) target = .ok (Grid.ofFn target result) ∧
      (∀ (row : Fin target.height) (col : Fin target.width) (y x : Int),
        coordinate source.height target.height row = y →
        coordinate source.width target.width col = x →
        ∃ (r : Fin source.height) (c : Fin source.width), (r.val : Int) = y ∧ (c.val : Int) = x ∧
          result row col = value (source.get r c)) ∧
      (1 < target.height → 1 < target.width → ∀ row col r c, SameEnd row r → SameEnd col c →
        result row col = value (source.get r c))) ∧
    ∀ ky kx, 1 ≤ ky → 1 ≤ kx →
      (bilinear (source.map value) (source.shape.stretch ky kx) >>= fun enlarged =>
        enlarged.strided ky kx source.shape) = .ok (source.map value) := by
  have hs' : (source.map value).HasSides := ⟨hs.height_pos, hs.width_pos⟩
  have hget : ∀ r c, (source.map value).get r c = value (source.get r c) := fun r c =>
    congrFun (congrFun (Grid.get_map source value) r) c
  refine ⟨⟨_, bilinear_eq_blendRow hs' ⟨hheight, hwidth⟩, ?_, ?_⟩, ?_⟩
  · intro row col y x hrow hcol
    obtain ⟨r, hy, hr⟩ := exists_fin_of_coordinate hs.height_pos row.isLt hrow
    obtain ⟨c, hx, hc⟩ := exists_fin_of_coordinate hs.width_pos col.isLt hcol
    exact ⟨r, c, hy, hx, (blendRow_of_coordinates hs' hr hc).trans (hget r c)⟩
  · intro hrows hcols row col r c hrow hcol
    have hr := coordinate_of_sameEnd hrow hrows
    have hc := coordinate_of_sameEnd hcol hcols
    exact (blendRow_of_coordinates hs' hr hc).trans (hget r c)
  · intro ky kx hky hkx
    have hstretch : 0 < (source.shape.stretch ky kx).height ∧
        0 < (source.shape.stretch ky kx).width := ⟨Nat.succ_pos _, Nat.succ_pos _⟩
    rw [bilinear_eq_blendRow hs' hstretch]
    exact strided_stretch hs' hky hkx

/-- Six samples enlarged to fifteen, with a whole position inside and the last ones on each
other. -/
theorem bilinear_through_samples_inside :
    let source : Grid UInt8 := ⟨⟨3, 2⟩, #[10, 20, 40, 7, 1, 255], rfl⟩
    let value : UInt8 → Rat := fun v => v.toNat
    let target : Shape := ⟨5, 3⟩
    (source.HasSides ∧ 0 < target.height ∧ 0 < target.width ∧
      coordinate source.height target.height 2 = (1 : Int) ∧
      coordinate source.width target.width 2 = (1 : Int) ∧
      1 < target.height ∧ 1 < target.width ∧
      SameEnd (2 : Fin 3) (1 : Fin 2) ∧ SameEnd (4 : Fin 5) (2 : Fin 3)) ∧
    (∃ result : Fin 3 → Fin 5 → Rat,
      bilinear (source.map value) target = .ok (Grid.ofFn target result) ∧
      result 2 2 = 1 ∧ result 2 4 = 255) ∧
    (bilinear (source.map value) ⟨7, 3⟩ >>= fun enlarged => enlarged.strided 2 3 ⟨3, 2⟩) =
      .ok (source.map value) := by
  intro source value target
  have hs : source.HasSides := ⟨Nat.succ_pos 1, Nat.succ_pos 2⟩
  have hheight : 0 < target.height := by decide
  have hwidth : 0 < target.width := by decide
  have hrow : coordinate source.height target.height 2 = (1 : Int) := by
    change coordinate 2 3 2 = (1 : Int)
    norm_num [coordinate]
  have hcol : coordinate source.width target.width 2 = (1 : Int) := by
    change coordinate 3 5 2 = (1 : Int)
    norm_num [coordinate]
  have hlastRow : SameEnd (2 : Fin 3) (1 : Fin 2) := Or.inr ⟨rfl, rfl⟩
  have hlastCol : SameEnd (4 : Fin 5) (2 : Fin 3) := Or.inr ⟨rfl, rfl⟩
  obtain ⟨⟨result, hresult, hwhole, hends⟩, hstretched⟩ :=
    bilinear_through_samples value source target hs hheight hwidth
  obtain ⟨r, c, hr, hc, hinside⟩ := hwhole 2 2 1 1 hrow hcol
  obtain rfl : r = (1 : Fin 2) := Fin.ext (Int.ofNat.inj hr)
  obtain rfl : c = (1 : Fin 3) := Fin.ext (Int.ofNat.inj hc)
  exact ⟨⟨hs, hheight, hwidth, hrow, hcol, by decide, by decide, hlastRow, hlastCol⟩,
    ⟨result, hresult, hinside, hends (by decide) (by decide) 2 4 1 2 hlastRow hlastCol⟩,
    hstretched 2 3 (by decide) (by decide)⟩

/-- A source that is linear along both axes keeps its formula at the coordinates of the target. -/
theorem bilinear_reproduces (p q r s : Rat) (source : Grid Rat) (target : Shape)
    (hs : source.HasSides) (hheight : 0 < target.height) (hwidth : 0 < target.width)
    (h : ∀ row col, source.get row col = p + q * row.val + r * col.val + s * row.val * col.val) :
    bilinear source target = .ok (Grid.ofFn target fun row col =>
      let y := coordinate source.height target.height row
      let x := coordinate source.width target.width col
      p + q * y + r * x + s * y * x) := by
  rw [bilinear_eq_blendRow hs ⟨hheight, hwidth⟩]
  refine congrArg (fun value => Except.ok (Grid.ofFn target value)) ?_
  funext row col
  exact blendRow_of_bilinear hs h

/-- Four samples of a saddle enlarged to fifteen. -/
theorem bilinear_reproduces_saddle :
    let source : Grid Rat := Grid.ofFn ⟨2, 2⟩ fun row col =>
      1 + 2 * row.val + 3 * col.val + 4 * row.val * col.val
    (source.HasSides ∧ ∀ row col,
      source.get row col = 1 + 2 * row.val + 3 * col.val + 4 * row.val * col.val) ∧
    bilinear source ⟨5, 3⟩ = .ok (Grid.ofFn ⟨5, 3⟩ fun row col =>
      let y := coordinate 2 3 row
      let x := coordinate 2 5 col
      1 + 2 * y + 3 * x + 4 * y * x) := by
  intro source
  have hs : source.HasSides := ⟨Nat.succ_pos 1, Nat.succ_pos 1⟩
  have hget : ∀ row col,
      source.get row col = 1 + 2 * row.val + 3 * col.val + 4 * row.val * col.val :=
    Grid.get_ofFn _
  exact ⟨⟨hs, hget⟩,
    bilinear_reproduces 1 2 3 4 source ⟨5, 3⟩ hs (by decide) (by decide) hget⟩

end Planar
