import Planar.Proofs.Axis

/-! Exact resampling one axis at a time: a tap reads one value off a line of samples. -/
namespace Planar

theorem mix_self (a w : Rat) : mix a a w = a := by
  unfold mix
  ring

/-- From the other end the weight is what is left of it. -/
theorem mix_swap (a b w : Rat) : mix b a (1 - w) = mix a b w := by
  unfold mix
  ring

/-- Four samples mix to one value whichever axis comes first. -/
theorem mix_mix (a b c d v w : Rat) :
    mix (mix a b v) (mix c d v) w = mix (mix a c w) (mix b d w) v := by
  unfold mix
  ring

theorem mix_mono {a b a' b' w : Rat} (h₀ : 0 ≤ w) (h₁ : w ≤ 1) (ha : a ≤ a') (hb : b ≤ b') :
    mix a b w ≤ mix a' b' w :=
  add_le_add (mul_le_mul_of_nonneg_right ha (sub_nonneg.mpr h₁))
    (mul_le_mul_of_nonneg_right hb h₀)

namespace Tap
variable {n rows cols : Nat} {tap : Tap Rat n} {line line' : Fin n → Rat}

/-- The value at a tap of a line of samples. -/
def read (tap : Tap Rat n) (line : Fin n → Rat) : Rat :=
  mix (line tap.low) (line tap.high) tap.weight

theorem blend_eq_read (y : Tap Rat rows) (x : Tap Rat cols) (sample : Fin rows → Fin cols → Rat) :
    y.blend x sample = y.read fun row => x.read (sample row) := blend_eq_mix y x sample

/-- Rows may be read before columns or after them. -/
theorem read_comm (y : Tap Rat rows) (x : Tap Rat cols) (sample : Fin rows → Fin cols → Rat) :
    (y.read fun row => x.read (sample row)) = x.read fun col => y.read fun row => sample row col :=
  mix_mix _ _ _ _ _ _

theorem read_mono (hw : tap.weight ∈ Set.Ico 0 1) (h : ∀ k, line k ≤ line' k) :
    tap.read line ≤ tap.read line' :=
  mix_mono hw.1 hw.2.le (h tap.low) (h tap.high)

theorem read_add_const (tap : Tap Rat n) (line : Fin n → Rat) (c : Rat) :
    (tap.read fun k => line k + c) = tap.read line + c := by
  unfold read mix
  ring

/-! ### Reading a line backwards -/

variable {mirrored : Tap Rat n} {x : Rat}

/-- Seen from the other end, the sample above a coordinate is the one below it. -/
theorem At.low_mirrored (h : tap.At x) (h' : mirrored.At (((n - 1 : Nat) : Rat) - x))
    (hx : 0 ≤ x) : mirrored.low = tap.high.rev := by
  have hhigh := tap.high.isLt
  have hceil := Nat.le_ceil x
  have hceil' := Nat.ceil_lt_add_one hx
  have hlow : (n - 1) - ⌈x⌉₊ = ⌊((n - 1 : Nat) : Rat) - x⌋₊ := by
    rw [h.high_eq] at hhigh
    have hcast : (((n - 1) - ⌈x⌉₊ : Nat) : Rat) = ((n - 1 : Nat) : Rat) - ⌈x⌉₊ :=
      Nat.cast_sub (by omega)
    refine ((Nat.floor_eq_iff ?_).mpr ⟨?_, ?_⟩).symm
    · have : ((⌈x⌉₊ : Nat) : Rat) ≤ ((n - 1 : Nat) : Rat) := by exact_mod_cast (by omega)
      linarith
    · linarith
    · linarith
  apply Fin.ext
  rw [h'.low_eq, ← hlow, Fin.val_rev, h.high_eq]
  omega

theorem At.high_mirrored (h : tap.At x) (h' : mirrored.At (((n - 1 : Nat) : Rat) - x))
    (hx : x ≤ ((n - 1 : Nat) : Rat)) : mirrored.high = tap.low.rev := by
  have hback : tap.At (((n - 1 : Nat) : Rat) - (((n - 1 : Nat) : Rat) - x)) := by
    rwa [sub_sub_cancel]
  rw [h'.low_mirrored hback (sub_nonneg.mpr hx), Fin.rev_rev]

/-- Between two samples the weights of the two ends add up to one. -/
theorem At.weight_mirrored (h : tap.At x) (h' : mirrored.At (((n - 1 : Nat) : Rat) - x))
    (hx : 0 ≤ x) (hpart : tap.low ≠ tap.high) : mirrored.weight = 1 - tap.weight := by
  have hhigh : tap.high.val = tap.low.val + 1 := by
    have hne : tap.low.val ≠ tap.high.val := fun he => hpart (Fin.ext he)
    have hge := Nat.floor_le_ceil x
    have hle := Nat.ceil_le_floor_add_one x
    rw [h.low_eq, h.high_eq] at hne ⊢
    omega
  have hends : (mirrored.low.val : Rat) + tap.low.val + 1 = ((n - 1 : Nat) : Rat) := by
    have hlow := congrArg Fin.val (h.low_mirrored h' hx)
    have hlast := tap.high.isLt
    rw [Fin.val_rev] at hlow
    exact_mod_cast (by omega : mirrored.low.val + tap.low.val + 1 = n - 1)
  rw [h.weight_eq, h'.weight_eq, ← h.low_eq, ← h'.low_eq]
  linarith

/-- A line read from one end is the reversed line read from the other. -/
theorem At.read_mirrored (h : tap.At x) (h' : mirrored.At (((n - 1 : Nat) : Rat) - x))
    (hx : 0 ≤ x) (hx' : x ≤ ((n - 1 : Nat) : Rat)) (line : Fin n → Rat) :
    (tap.read fun k => line k.rev) = mirrored.read line := by
  have hlow := h.low_mirrored h' hx
  have hhigh := h.high_mirrored h' hx'
  unfold read
  -- On a sample the weight is 0 from either end, not 1 from the other, but there both sides agree.
  by_cases hwhole : tap.low = tap.high
  · rw [hlow, hhigh, hwhole, mix_self, mix_self]
  · rw [hlow, hhigh, h.weight_mirrored h' hx hwhole, mix_swap]

end Tap

/-! ### A line brought to another length -/

section
variable {source target : Nat}

def resampleLine (target : Nat) (hs : 0 < source) (line : Fin source → Rat) (i : Fin target) :
    Rat :=
  (Tap.forIndex source target hs i).read line

/-- A line that keeps its length is read sample by sample. -/
theorem resampleLine_self (hs : 0 < source) (line : Fin source → Rat) (i : Fin source) :
    resampleLine source hs line i = line i := by
  rw [resampleLine, Tap.forIndex_self, Tap.read]
  exact mix_self (line i) 0

theorem resampleLine_mono (hs : 0 < source) {line line' : Fin source → Rat}
    (h : ∀ k, line k ≤ line' k) (i : Fin target) :
    resampleLine target hs line i ≤ resampleLine target hs line' i :=
  Tap.read_mono (Tap.weight_forIndex hs i.isLt) h

theorem resampleLine_add_const (hs : 0 < source) (line : Fin source → Rat) (c : Rat)
    (i : Fin target) :
    resampleLine target hs (fun k => line k + c) i = resampleLine target hs line i + c :=
  Tap.read_add_const _ line c

/-- Positions counted from the other end lie at the coordinates counted from the other end. -/
theorem coordinate_rev (hs : 0 < source) (h : 1 < target ∨ source = 1) (i : Fin target) :
    coordinate source target i.rev = ((source - 1 : Nat) : Rat) - coordinate source target i := by
  have hi := i.isLt
  unfold coordinate
  split
  · have hone : source = 1 := by omega
    simp [hone]
  · have hne : (target : Rat) - 1 ≠ 0 := by
      rw [← Nat.cast_pred (by omega), Nat.cast_ne_zero]
      omega
    have hrev : (i.rev.val : Rat) = (target : Rat) - 1 - i.val := by
      rw [Fin.val_rev, Nat.cast_sub hi, Nat.cast_succ]
      ring
    rw [hrev, Nat.cast_pred hs]
    field_simp

theorem resampleLine_rev (hs : 0 < source) (h : 1 < target ∨ source = 1)
    (line : Fin source → Rat) (i : Fin target) :
    resampleLine target hs (fun k => line k.rev) i = resampleLine target hs line i.rev := by
  have hat : (Tap.forIndex source target hs i.rev : Tap Rat source).At
      (((source - 1 : Nat) : Rat) - coordinate source target i) := by
    rw [← coordinate_rev hs h]
    exact Tap.at_forIndex hs i.rev.isLt
  exact (Tap.at_forIndex hs i.isLt).read_mirrored hat
    (coordinate_nonneg hs (Nat.zero_lt_of_lt i.isLt)) (coordinate_le hs i.isLt) line

end

section
variable {shape target : Shape}

/-- The rows of a plane brought to the width of the target, and the columns to its height. -/
def resamplePlane (target : Shape) (hs : 0 < shape.height ∧ 0 < shape.width)
    (sample : Fin shape.height → Fin shape.width → Rat) (row : Fin target.height)
    (col : Fin target.width) : Rat :=
  resampleLine target.height hs.1 (fun r => resampleLine target.width hs.2 (sample r) col) row

/-- Columns may be resampled before rows. -/
theorem resamplePlane_comm (hs : 0 < shape.height ∧ 0 < shape.width)
    (sample : Fin shape.height → Fin shape.width → Rat) (row : Fin target.height)
    (col : Fin target.width) :
    resamplePlane target hs sample row col =
      resampleLine target.width hs.2
        (fun c => resampleLine target.height hs.1 (fun r => sample r c) row) col :=
  Tap.read_comm _ _ sample

theorem bilinear_ofFn (hs : 0 < shape.height ∧ 0 < shape.width)
    (ht : 0 < target.height ∧ 0 < target.width)
    (sample : Fin shape.height → Fin shape.width → Rat) :
    bilinear (Grid.ofFn shape sample) target =
      .ok (Grid.ofFn target (resamplePlane target hs sample)) := by
  rw [bilinear_eq_ofFn ht hs]
  refine congrArg (fun value => Except.ok (Grid.ofFn target value)) ?_
  funext row col
  rw [Grid.funext_get_ofFn]
  exact Tap.blend_eq_read _ _ sample

theorem bilinear_ofFn_of_eq (hs : 0 < shape.height ∧ 0 < shape.width)
    (ht : 0 < target.height ∧ 0 < target.width)
    {sample : Fin shape.height → Fin shape.width → Rat}
    {value : Fin target.height → Fin target.width → Rat}
    (h : ∀ row col, resamplePlane target hs sample row col = value row col) :
    bilinear (Grid.ofFn shape sample) target = .ok (Grid.ofFn target value) := by
  rw [bilinear_ofFn hs ht]
  exact congrArg (fun value => Except.ok (Grid.ofFn target value)) (funext₂ h)

end

end Planar
