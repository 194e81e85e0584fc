import Planar.Divergence
import Planar.Proofs.Positions

/-! A scan for divergences visits every position once, row by row. -/
namespace Planar

namespace Grid
variable {α : Type}

theorem toList_zipIdx_zip (a b : Grid α) (h : a.shape = b.shape) :
    (a.samples.zip b.samples).zipIdx.toList = (List.finRange a.shape.area).map fun i =>
      ((a.get (rowOf i) (colOf i),
        b.get ((rowOf i).cast (congrArg Shape.height h))
          ((colOf i).cast (congrArg Shape.width h))), i.val) := by
  obtain ⟨shape, xs, hx⟩ := a
  obtain ⟨shape', ys, hy⟩ := b
  obtain rfl : shape = shape' := h
  apply List.ext_getElem
  · simp [hx, hy]
  · intro i hi hi'
    simp [get, rowOf, colOf, Nat.div_add_mod']

end Grid

namespace Divergence
variable {α : Type} [Scalar α] {threshold : α} {resized reference : Grid α}

/-- The divergence at a position of equally shaped grids, if the values there differ by more than
the threshold. -/
def at? (threshold : α) (resized reference : Grid α) (h : resized.shape = reference.shape)
    (row : Fin resized.height) (col : Fin resized.width) : Option (Divergence α) :=
  let value := resized.get row col
  let expected := reference.get (row.cast (congrArg Shape.height h))
    (col.cast (congrArg Shape.width h))
  if threshold < Scalar.abs (value - expected) then some ⟨row, col, value, expected⟩ else none

/-- The divergences of equally shaped grids, row by row. -/
def strays (threshold : α) (resized reference : Grid α) (h : resized.shape = reference.shape) :
    List (Divergence α) :=
  (Grid.positions resized.shape).filterMap fun (row, col) =>
    at? threshold resized reference h row col

/-- Positions and values are those found at the flat indices. -/
theorem strays_eq_filterMap_zip (h : resized.shape = reference.shape) :
    strays threshold resized reference h =
      (resized.samples.zip reference.samples).zipIdx.toList.filterMap fun ((value, expected), i) =>
        if threshold < Scalar.abs (value - expected) then
          some ⟨i / resized.width, i % resized.width, value, expected⟩
        else none := by
  rw [strays, ← Grid.map_finRange_positions, Grid.toList_zipIdx_zip _ _ h, List.filterMap_map,
    List.filterMap_map]
  rfl

/-- Counting the calls of an observer while making them. -/
theorem foldl_calls {β δ σ : Type} (p : β → Prop) [DecidablePred p] (call : β → δ)
    (observer : σ → δ → σ) (xs : List β) (count : Nat) (state : σ) :
    let calls := xs.filterMap fun x => if p x then some (call x) else none
    xs.foldl (fun (count, state) x =>
      if p x then (count + 1, observer state (call x)) else (count, state)) (count, state) =
        (count + calls.length, calls.foldl observer state) := by
  induction xs generalizing count state with
  | nil => rfl
  | cons x xs ih =>
    by_cases hx : p x
    · simpa [hx, Nat.add_assoc, Nat.add_comm] using ih (count + 1) (observer state (call x))
    · simpa [hx] using ih count state

variable {σ : Type} (observer : σ → Divergence α → σ) (state : σ)

theorem observe_of_shape (h : resized.shape = reference.shape) :
    observe threshold resized reference observer state =
      (.ok (strays threshold resized reference h).length,
        (strays threshold resized reference h).foldl observer state) := by
  have hcalls := foldl_calls
    (fun x : (α × α) × Nat => threshold < Scalar.abs (x.1.1 - x.1.2))
    (fun x => Divergence.mk (x.2 / resized.width) (x.2 % resized.width) x.1.1 x.1.2)
    observer (resized.samples.zip reference.samples).zipIdx.toList 0 state
  simp only [Nat.zero_add, Array.foldl_toList] at hcalls
  rw [observe, if_pos h, strays_eq_filterMap_zip]
  exact congrArg (fun run : Nat × σ => (Except.ok run.1, run.2)) hcalls

theorem observe_of_shape_ne (h : resized.shape ≠ reference.shape) :
    observe threshold resized reference observer state = (.error (.mismatch
      (.reference resized.shape reference.shape) resized.samples.size reference.samples.size),
      state) :=
  if_neg h

theorem scan_of_shape (h : resized.shape = reference.shape) :
    scan threshold resized reference = .ok (strays threshold resized reference h) := by
  rw [scan, observe_of_shape Array.push #[] h]
  simp [Except.map]

theorem scan_of_shape_ne (h : resized.shape ≠ reference.shape) :
    scan threshold resized reference = .error (.mismatch
      (.reference resized.shape reference.shape) resized.samples.size reference.samples.size) := by
  rw [scan, observe_of_shape_ne Array.push #[] h]
  rfl

/-- Row by row, and from left to right in a row. -/
def Before (d e : Divergence α) : Prop := d.row < e.row ∨ d.row = e.row ∧ d.col < e.col

/-- What a position of equally shaped grids holds when its values differ by more than the
threshold. -/
structure StraysAt (threshold : α) (resized reference : Grid α)
    (h : resized.shape = reference.shape) (d : Divergence α) (row : Fin resized.height)
    (col : Fin resized.width) : Prop where
  row_eq : d.row = row
  col_eq : d.col = col
  resized_eq : d.resized = resized.get row col
  reference_eq : d.reference = reference.get (row.cast (congrArg Shape.height h))
    (col.cast (congrArg Shape.width h))
  above : threshold < Scalar.abs (resized.get row col -
    reference.get (row.cast (congrArg Shape.height h)) (col.cast (congrArg Shape.width h)))

variable {h : resized.shape = reference.shape} {d : Divergence α} {row : Fin resized.height}
  {col : Fin resized.width}

theorem at?_eq_some :
    at? threshold resized reference h row col = some d ↔
      StraysAt threshold resized reference h d row col := by
  simp only [at?, Option.ite_none_right_eq_some, Option.some.injEq]
  constructor
  · rintro ⟨habove, rfl⟩
    exact ⟨rfl, rfl, rfl, rfl, habove⟩
  · intro hstrays
    obtain ⟨r, c, value, expected⟩ := d
    obtain ⟨rfl, rfl, rfl, rfl, habove⟩ := hstrays
    exact ⟨habove, rfl⟩

theorem mem_strays : d ∈ strays threshold resized reference h ↔
    ∃ row col, StraysAt threshold resized reference h d row col := by
  rw [strays, List.mem_filterMap]
  constructor
  · rintro ⟨⟨row, col⟩, -, hat⟩
    exact ⟨row, col, at?_eq_some.mp hat⟩
  · rintro ⟨row, col, hstrays⟩
    exact ⟨(row, col), Grid.mem_positions _, at?_eq_some.mpr hstrays⟩

theorem pairwise_strays : (strays threshold resized reference h).Pairwise Before := by
  refine List.Pairwise.filterMap _ ?_ Grid.pairwise_positions
  intro p q hpq d hd e he
  have hd := at?_eq_some.mp hd
  have he := at?_eq_some.mp he
  rw [Before, hd.row_eq, hd.col_eq, he.row_eq, he.col_eq]
  exact hpq.imp id fun hcol => ⟨congrArg Fin.val hcol.1, hcol.2⟩

/-- Every observer is called, row by row, once for each position whose values differ by more than
the threshold and for no other, and the calls are counted. No position is visited in grids without
width. Grids of different shapes fail without a call. -/
theorem observe_exact {α : Type} [Scalar α] (threshold : α) (resized reference : Grid α) :
    (∀ h : resized.shape = reference.shape, ∃ calls : List (Divergence α),
      (∀ (σ : Type) (observer : σ → Divergence α → σ) (state : σ),
        observe threshold resized reference observer state =
          (.ok calls.length, calls.foldl observer state)) ∧
      scan threshold resized reference = .ok calls ∧
      calls.Pairwise Before ∧
      (∀ d, d ∈ calls ↔ ∃ row col, StraysAt threshold resized reference h d row col) ∧
      ∀ i, i < (resized.samples.zip reference.samples).size → 0 < resized.width) ∧
    (resized.shape ≠ reference.shape →
      ∀ (σ : Type) (observer : σ → Divergence α → σ) (state : σ),
        observe threshold resized reference observer state = (.error (.mismatch
          (.reference resized.shape reference.shape) resized.samples.size reference.samples.size),
          state)) := by
  constructor
  · intro h
    refine ⟨strays threshold resized reference h, ?_, scan_of_shape h, pairwise_strays,
      fun d => mem_strays, ?_⟩
    · intro σ observer state
      exact observe_of_shape observer state h
    · intro i hi
      rw [Array.size_zip, lt_min_iff, resized.size_samples] at hi
      exact Nat.pos_of_mul_pos_right (Nat.zero_lt_of_lt hi.1)
  · intro h σ observer state
    exact observe_of_shape_ne observer state h

/-- Two of four positions are told of, and a grid of another shape is refused. -/
theorem observe_exact_square :
    let resized : Grid Rat := ⟨⟨2, 2⟩, #[10, 50, 100, 60], rfl⟩
    let reference : Grid Rat := ⟨⟨2, 2⟩, #[10, 90, 69, 30], rfl⟩
    let row : Grid Rat := ⟨⟨4, 1⟩, #[10, 90, 69, 30], rfl⟩
    let count : Nat → Divergence Rat → Nat := fun n _ => n + 1
    (resized.shape = reference.shape ∧ resized.shape ≠ row.shape) ∧
    (∃ calls : List (Divergence Rat), observe 30 resized reference count 0 = (.ok 2, 2) ∧
      calls.length = 2 ∧ scan 30 resized reference = .ok calls ∧ calls.Pairwise Before ∧
      ⟨0, 1, 50, 90⟩ ∈ calls ∧ ⟨1, 0, 100, 69⟩ ∈ calls ∧ ⟨1, 1, 60, 30⟩ ∉ calls) ∧
    observe 30 resized row count 7 = (.error (.mismatch (.reference ⟨2, 2⟩ ⟨4, 1⟩) 4 4), 7) := by
  intro resized reference row count
  have hother : resized.shape ≠ row.shape := by decide
  obtain ⟨calls, hobserve, hscan, horder, hcalls, -⟩ :=
    (observe_exact 30 resized reference).1 rfl
  have hcount : observe 30 resized reference count 0 = (.ok 2, 2) := by decide +kernel
  have hlength : calls.length = 2 :=
    Except.ok.inj (congrArg Prod.fst ((hobserve Nat count 0).symm.trans hcount))
  refine ⟨⟨rfl, hother⟩, ⟨calls, hcount, hlength, hscan, horder, ?_, ?_, ?_⟩,
    (observe_exact 30 resized row).2 hother Nat count 7⟩
  · exact (hcalls _).mpr ⟨0, 1, rfl, rfl, rfl, rfl, by decide +kernel⟩
  · exact (hcalls _).mpr ⟨1, 0, rfl, rfl, rfl, rfl, by decide +kernel⟩
  · intro hmem
    obtain ⟨r, c, hstrays⟩ := (hcalls _).mp hmem
    obtain rfl : r = 1 := Fin.ext hstrays.row_eq.symm
    obtain rfl : c = 1 := Fin.ext hstrays.col_eq.symm
    exact absurd hstrays.above (by decide +kernel)

end Divergence

end Planar
