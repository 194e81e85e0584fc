import Planar.Proofs.Axis
import Planar.Proofs.Resizing

/-! Resampling never leaves the source: it reads no position outside and yields no value beyond
those of the samples that it blends. -/
namespace Planar

section
variable {α : Type} [Scalar α]

theorem bilinear_isError_iff {source : Grid α} {target : Shape} :
    (∃ fault, bilinear source target = .error fault) ↔
      target.height = 0 ∨ target.width = 0 ∨ source.samples = #[] := by
  by_cases ht : target.width = 0 ∨ target.height = 0
  · have hfails : bilinear source target = .error (.badShape target) := if_pos ht.symm
    simp only [hfails, Except.error.injEq, exists_eq', true_iff]
    tauto
  · by_cases hs : source.samples = #[]
    · simp [bilinear_of_empty ht hs, hs]
    · obtain ⟨g, hg⟩ := bilinear_of_pos ht hs
      simp only [hg, hs, reduceCtorEq, exists_false, false_iff, or_false]
      tauto

/-- There are samples to blend, so every target position has taps. -/
structure Grid.HasSides {β : Type} (g : Grid β) : Prop where
  height_pos : 0 < g.height
  width_pos : 0 < g.width

variable {source : Grid α} {target : Shape}

def rowTap (source : Grid α) (target : Shape) (hs : source.HasSides) (row : Fin target.height) :
    Tap α source.height := Tap.forIndex source.height target.height hs.height_pos row

def colTap (source : Grid α) (target : Shape) (hs : source.HasSides) (col : Fin target.width) :
    Tap α source.width := Tap.forIndex source.width target.width hs.width_pos col

/-- One row of the target. -/
def blendRow (source : Grid α) (target : Shape) (hs : source.HasSides) (row : Fin target.height)
    (col : Fin target.width) : α :=
  (rowTap source target hs row).blend (colTap source target hs col) source.get

/-- Fills a buffer row by row, in the order given. -/
def fillRows (source : Grid α) (target : Shape) (hs : source.HasSides)
    (order : List (Fin target.height)) (buffer : Fin target.height → Fin target.width → α) :
    Fin target.height → Fin target.width → α :=
  order.foldl (fun buffer row => Function.update buffer row (blendRow source target hs row)) buffer

theorem bilinear_eq_blendRow (hs : source.HasSides) (ht : 0 < target.height ∧ 0 < target.width) :
    bilinear source target = .ok (Grid.ofFn target (blendRow source target hs)) :=
  bilinear_eq_ofFn ht ⟨hs.height_pos, hs.width_pos⟩

/-- A row once filled is filled for good, for it is filled the same way again. -/
theorem fillRows_apply (hs : source.HasSides) {order : List (Fin target.height)}
    {buffer : Fin target.height → Fin target.width → α} {row : Fin target.height}
    (h : row ∈ order ∨ buffer row = blendRow source target hs row) :
    fillRows source target hs order buffer row = blendRow source target hs row := by
  induction order generalizing buffer with
  | nil => exact h.resolve_left List.not_mem_nil
  | cons next order ih =>
    refine ih ?_
    by_cases hrow : row = next
    · subst hrow
      exact Or.inr (Function.update_self row _ buffer)
    · have hkept : Function.update buffer next (blendRow source target hs next) row = buffer row :=
        Function.update_of_ne hrow _ buffer
      exact h.imp (fun hmem => (List.mem_cons.mp hmem).resolve_left hrow) hkept.trans

theorem fillRows_of_all (hs : source.HasSides) {order : List (Fin target.height)}
    (h : ∀ row, row ∈ order) (buffer : Fin target.height → Fin target.width → α) :
    fillRows source target hs order buffer = blendRow source target hs :=
  funext fun row => fillRows_apply hs (Or.inl (h row))

end

namespace Tap
variable {rows cols : Nat}

/-- The least of the four samples that two taps blend. -/
def least (y : Tap Rat rows) (x : Tap Rat cols) (sample : Fin rows → Fin cols → Rat) : Rat :=
  min (min (sample y.low x.low) (sample y.low x.high))
    (min (sample y.high x.low) (sample y.high x.high))

/-- The greatest of the four samples that two taps blend. -/
def greatest (y : Tap Rat rows) (x : Tap Rat cols) (sample : Fin rows → Fin cols → Rat) : Rat :=
  max (max (sample y.low x.low) (sample y.low x.high))
    (max (sample y.high x.low) (sample y.high x.high))

variable {y : Tap Rat rows} {x : Tap Rat cols}

theorem least_le_blend (hy : y.weight ∈ Set.Ico 0 1) (hx : x.weight ∈ Set.Ico 0 1)
    (sample : Fin rows → Fin cols → Rat) : y.least x sample ≤ y.blend x sample := by
  have hlow := min_le_mix (a := sample y.low x.low) (b := sample y.low x.high) hx.1 hx.2.le
  have hhigh := min_le_mix (a := sample y.high x.low) (b := sample y.high x.high) hx.1 hx.2.le
  rw [blend_eq_mix]
  exact (min_le_min hlow hhigh).trans (min_le_mix hy.1 hy.2.le)

theorem blend_le_greatest (hy : y.weight ∈ Set.Ico 0 1) (hx : x.weight ∈ Set.Ico 0 1)
    (sample : Fin rows → Fin cols → Rat) : y.blend x sample ≤ y.greatest x sample := by
  have hlow := mix_le_max (a := sample y.low x.low) (b := sample y.low x.high) hx.1 hx.2.le
  have hhigh := mix_le_max (a := sample y.high x.low) (b := sample y.high x.high) hx.1 hx.2.le
  rw [blend_eq_mix]
  exact (mix_le_max hy.1 hy.2.le).trans (max_le_max hlow hhigh)

/-- Bytes are whole, and so are the bounds that they set. -/
theorem least_toNat (y : Tap Rat rows) (x : Tap Rat cols) (sample : Fin rows → Fin cols → UInt8) :
    ∃ n : Nat, y.least x (fun row col => ((sample row col).toNat : Rat)) = n := by
  refine ⟨min (min (sample y.low x.low).toNat (sample y.low x.high).toNat)
    (min (sample y.high x.low).toNat (sample y.high x.high).toNat), ?_⟩
  simp only [least, Nat.cast_min]

theorem greatest_toNat (y : Tap Rat rows) (x : Tap Rat cols)
    (sample : Fin rows → Fin cols → UInt8) :
    ∃ n ≤ 255, y.greatest x (fun row col => ((sample row col).toNat : Rat)) = (n : Nat) := by
  have hbyte : ∀ row col, (sample row col).toNat ≤ 255 := fun row col =>
    Nat.le_of_lt_succ (sample row col).toNat_lt
  refine ⟨max (max (sample y.low x.low).toNat (sample y.low x.high).toNat)
    (max (sample y.high x.low).toNat (sample y.high x.high).toNat), ?_, ?_⟩
  · exact max_le (max_le (hbyte _ _) (hbyte _ _)) (max_le (hbyte _ _) (hbyte _ _))
  · simp only [greatest, Nat.cast_max]

end Tap

/-- Rounding does not leave a range between whole numbers. -/
theorem round_mem_Icc {m n : Nat} {v : Rat} (h₀ : (m : Rat) ≤ v) (h₁ : v ≤ n) :
    (m : Int) ≤ round v ∧ round v ≤ n := by
  rw [round_eq]
  constructor
  · rw [Int.le_floor]
    push_cast
    linarith
  · rw [← Int.lt_add_one_iff, Int.floor_lt]
    push_cast
    linarith

/-- What one output sample is made of and where its value lies. -/
structure WithinSource (source : Grid Rat) (target : Shape) (hs : source.HasSides)
    (row : Fin target.height) (col : Fin target.width) (value : Rat) : Prop where
  row_at : (rowTap source target hs row).At (coordinate source.height target.height row)
  col_at : (colTap source target hs col).At (coordinate source.width target.width col)
  row_weight : (rowTap source target hs row).weight ∈ Set.Ico 0 1
  col_weight : (colTap source target hs col).weight ∈ Set.Ico 0 1
  value_eq : value = (rowTap source target hs row).blend (colTap source target hs col) source.get
  least_le : (rowTap source target hs row).least (colTap source target hs col) source.get ≤ value
  le_greatest :
    value ≤ (rowTap source target hs row).greatest (colTap source target hs col) source.get

theorem withinSource_blendRow {source : Grid Rat} {target : Shape} (hs : source.HasSides)
    (row : Fin target.height) (col : Fin target.width) :
    WithinSource source target hs row col (blendRow source target hs row col) := by
  have hrow : (rowTap source target hs row).At (coordinate source.height target.height row) :=
    Tap.at_forIndex hs.height_pos row.isLt
  have hcol : (colTap source target hs col).At (coordinate source.width target.width col) :=
    Tap.at_forIndex hs.width_pos col.isLt
  have hy : (rowTap source target hs row).weight ∈ Set.Ico 0 1 :=
    Tap.weight_forIndex hs.height_pos row.isLt
  have hx : (colTap source target hs col).weight ∈ Set.Ico 0 1 :=
    Tap.weight_forIndex hs.width_pos col.isLt
  exact ⟨hrow, hcol, hy, hx, rfl, Tap.least_le_blend hy hx source.get,
    Tap.blend_le_greatest hy hx source.get⟩

/-- Between whole bounds in the 8-bit range, the nearest sample is the rounded value. -/
theorem WithinSource.quantized {source : Grid UInt8} {target : Shape}
    {hs : (source.toScalar : Grid Rat).HasSides} {row : Fin target.height} {col : Fin target.width}
    {value : Rat} (h : WithinSource source.toScalar target hs row col value) :
    let y := rowTap source.toScalar target hs row
    let x := colTap source.toScalar target hs col
    y.least x (Grid.get source.toScalar) ≤ (quantizeSample value).toNat ∧
      (quantizeSample value).toNat ≤ y.greatest x (Grid.get source.toScalar) ∧
      ((quantizeSample value).toNat : Int) = round value := by
  intro y x
  have hget :
      (source.toScalar : Grid Rat).get = fun row col => ((source.get row col).toNat : Rat) :=
    Grid.get_map source fun v => (v.toNat : Rat)
  obtain ⟨m, hm⟩ := y.least_toNat x source.get
  obtain ⟨n, hn, hn'⟩ := y.greatest_toNat x source.get
  have hleast : y.least x (Grid.get source.toScalar) = m := (congrArg (y.least x) hget).trans hm
  have hgreatest : y.greatest x (Grid.get source.toScalar) = n :=
    (congrArg (y.greatest x) hget).trans hn'
  have hlow : (m : Rat) ≤ value := hleast ▸ h.least_le
  have hhigh : value ≤ n := hgreatest ▸ h.le_greatest
  obtain ⟨hround₀, hround₁⟩ := round_mem_Icc hlow hhigh
  have hquantized := natCast_quantizeSample (x := value) (by omega) (by omega)
  refine ⟨?_, ?_, hquantized⟩
  · rw [hleast]
    exact_mod_cast (by omega : m ≤ (quantizeSample value).toNat)
  · rw [hgreatest]
    exact_mod_cast (by omega : (quantizeSample value).toNat ≤ n)

/-- Resampling fails for a target or a source without samples only, and reads no position outside
the source. Rows may be filled in any order, also more than once. In exact arithmetic every value
lies among the samples it blends, and bytes made of values lie there too and need no clamping. -/
theorem bilinear_within_source :
    (∀ (α : Type) [Scalar α] (source : Grid α) (target : Shape),
      ((∃ fault, bilinear source target = .error fault) ↔
        target.height = 0 ∨ target.width = 0 ∨ source.samples = #[]) ∧
      ∀ hs : source.HasSides, 0 < target.height → 0 < target.width →
        (∀ order buffer, (∀ row, row ∈ order) →
          bilinear source target =
            .ok (Grid.ofFn target (fillRows source target hs order buffer))) ∧
        ∀ row col, ∀ r ∈ [(rowTap source target hs row).low, (rowTap source target hs row).high],
          ∃ samples, source.row? r = some samples ∧
            ∀ c ∈ [(colTap source target hs col).low, (colTap source target hs col).high],
              samples[c.val]? = some (source.get r c)) ∧
    (∀ (source : Grid Rat) (target : Shape) (hs : source.HasSides),
      0 < target.height → 0 < target.width →
      ∃ value, bilinear source target = .ok (Grid.ofFn target value) ∧
        ∀ row col, WithinSource source target hs row col (value row col)) ∧
    ∀ (source : Grid UInt8) (target : Shape) (hs : (source.toScalar : Grid Rat).HasSides),
      0 < target.height → 0 < target.width →
      ∃ bytes : Fin target.height → Fin target.width → UInt8,
        (bilinear (source.toScalar : Grid Rat) target).map Grid.quantize =
          .ok (Grid.ofFn target bytes) ∧
        ∀ row col,
          let y := rowTap source.toScalar target hs row
          let x := colTap source.toScalar target hs col
          y.least x (Grid.get source.toScalar) ≤ (bytes row col).toNat ∧
            (bytes row col).toNat ≤ y.greatest x (Grid.get source.toScalar) ∧
            ((bytes row col).toNat : Int) = round (y.blend x (Grid.get source.toScalar)) := by
  refine ⟨?_, ?_, ?_⟩
  · intro α _ source target
    refine ⟨bilinear_isError_iff, ?_⟩
    intro hs hheight hwidth
    refine ⟨?_, ?_⟩
    · intro order buffer horder
      rw [fillRows_of_all hs horder]
      exact bilinear_eq_blendRow hs ⟨hheight, hwidth⟩
    · intro row col r _
      obtain ⟨samples, hrow, hsamples⟩ := source.row?_eq_some r
      exact ⟨samples, hrow, fun c _ => hsamples c⟩
  · intro source target hs hheight hwidth
    exact ⟨_, bilinear_eq_blendRow hs ⟨hheight, hwidth⟩, withinSource_blendRow hs⟩
  · intro source target hs hheight hwidth
    refine ⟨fun row col => quantizeSample (blendRow source.toScalar target hs row col), ?_, ?_⟩
    · rw [bilinear_eq_blendRow hs ⟨hheight, hwidth⟩]
      exact congrArg Except.ok (Grid.map_ofFn _ _)
    · intro row col
      exact (withinSource_blendRow hs row col).quantized

/-- One row of three samples enlarged to two of five, in doubles with the rows filled from below,
and exactly. -/
theorem bilinear_within_source_row :
    let source : Grid UInt8 := ⟨⟨3, 1⟩, #[10, 20, 40], rfl⟩
    let target : Shape := ⟨5, 2⟩
    let order : List (Fin 2) := [1, 0]
    ((∀ row, row ∈ order) ∧ 0 < target.height ∧ 0 < target.width) ∧
    (∃ hs : (source.toScalar : Grid Float).HasSides,
      bilinear (source.toScalar : Grid Float) target =
        .ok (Grid.ofFn target (fillRows source.toScalar target hs order fun _ _ => 0)) ∧
      let r := (rowTap (source.toScalar : Grid Float) target hs 1).low
      let c := (colTap (source.toScalar : Grid Float) target hs 3).low
      ∃ samples, Grid.row? source.toScalar r = some samples ∧
        samples[c.val]? = some (Grid.get source.toScalar r c)) ∧
    ∃ hs : (source.toScalar : Grid Rat).HasSides,
      (∃ value, bilinear (source.toScalar : Grid Rat) target = .ok (Grid.ofFn target value) ∧
        WithinSource source.toScalar target hs 1 3 (value 1 3)) ∧
      ∃ bytes : Fin 2 → Fin 5 → UInt8,
        (bilinear (source.toScalar : Grid Rat) target).map Grid.quantize =
          .ok (Grid.ofFn target bytes) ∧
        (rowTap source.toScalar target hs 1).least (colTap source.toScalar target hs 3)
          (Grid.get source.toScalar) ≤ (bytes 1 3).toNat := by
  intro source target order
  have horder : ∀ row, row ∈ order := by decide
  have hheight : 0 < target.height := by decide
  have hwidth : 0 < target.width := by decide
  have hdoubles : (source.toScalar : Grid Float).HasSides := ⟨Nat.one_pos, Nat.succ_pos 2⟩
  have hexact : (source.toScalar : Grid Rat).HasSides := ⟨Nat.one_pos, Nat.succ_pos 2⟩
  obtain ⟨htotal, hvalues, hbytes⟩ := bilinear_within_source
  obtain ⟨value, hvalue, hwithin⟩ := hvalues source.toScalar target hexact hheight hwidth
  obtain ⟨bytes, hquantized, hbounds⟩ := hbytes source target hexact hheight hwidth
  obtain ⟨hrows, hreads⟩ := (htotal Float source.toScalar target).2 hdoubles hheight hwidth
  obtain ⟨samples, hsamples, hsample⟩ := hreads 1 3 _ List.mem_cons_self
  exact ⟨⟨horder, hheight, hwidth⟩,
    ⟨hdoubles, hrows order _ horder, samples, hsamples, hsample _ List.mem_cons_self⟩,
    hexact, ⟨value, hvalue, hwithin 1 3⟩, bytes, hquantized, (hbounds 1 3).1⟩

end Planar
