import Mathlib

/-! Steps that may fail, in sequence and along a list. A run stops at the first failing step. -/
namespace Planar

variable {ε α β : Type} {e : ε} {b : β} {x : Except ε α} {f : α → Except ε β}

theorem bind_eq_ok {k : α → Except ε β} :
    x >>= k = .ok b ↔ ∃ a, x = .ok a ∧ k a = .ok b := by
  cases x with
  | error e =>
    constructor
    · intro h
      cases h
    · rintro ⟨a, ha, -⟩
      cases ha
  | ok a =>
    constructor
    · exact fun h => ⟨a, rfl, h⟩
    · rintro ⟨a', ha, h⟩
      cases ha
      exact h

theorem bind_eq_error {k : α → Except ε β} :
    x >>= k = .error e ↔ x = .error e ∨ ∃ a, x = .ok a ∧ k a = .error e := by
  cases x with
  | error e' =>
    constructor
    · intro h
      exact Or.inl (congrArg Except.error (Except.error.inj h))
    · rintro (h | ⟨a, ha, -⟩)
      · exact congrArg Except.error (Except.error.inj h)
      · cases ha
  | ok a =>
    constructor
    · exact fun h => Or.inr ⟨a, rfl, h⟩
    · rintro (h | ⟨a', ha, h⟩)
      · cases h
      · cases ha
        exact h

theorem mapM_eq_ok {xs : List α} {ys : List β} :
    xs.mapM f = .ok ys ↔ List.Forall₂ (fun x y => f x = .ok y) xs ys := by
  induction xs generalizing ys with
  | nil =>
    rw [List.mapM_nil, List.forall₂_nil_left_iff]
    exact ⟨fun h => (Except.ok.inj h).symm, fun h => by rw [h]; rfl⟩
  | cons x xs ih =>
    rw [List.mapM_cons, bind_eq_ok, List.forall₂_cons_left_iff]
    constructor
    · rintro ⟨y, hy, h⟩
      obtain ⟨rest, hr, h⟩ := bind_eq_ok.mp h
      cases h
      exact ⟨y, rest, hy, ih.mp hr, rfl⟩
    · rintro ⟨y, rest, hy, hr, rfl⟩
      exact ⟨y, hy, bind_eq_ok.mpr ⟨rest, ih.mpr hr, rfl⟩⟩

/-- A failing traversal fails as its first failing element does. -/
theorem mapM_eq_error {xs : List α} :
    xs.mapM f = .error e ↔ ∃ before x after, xs = before ++ x :: after ∧
      (∀ y ∈ before, ∃ b, f y = .ok b) ∧ f x = .error e := by
  induction xs with
  | nil =>
    constructor
    · intro h
      cases h
    · rintro ⟨before, x, after, h, -⟩
      simp at h
  | cons x xs ih =>
    rw [List.mapM_cons, bind_eq_error]
    constructor
    · rintro (hx | ⟨y, hy, h⟩)
      · exact ⟨[], x, xs, rfl, by simp, hx⟩
      · rcases bind_eq_error.mp h with hr | ⟨ys, -, h⟩
        · obtain ⟨before, z, after, rfl, hb, hz⟩ := ih.mp hr
          refine ⟨x :: before, z, after, rfl, ?_, hz⟩
          intro w hw
          rcases List.mem_cons.mp hw with rfl | hw
          · exact ⟨y, hy⟩
          · exact hb w hw
        · cases h
    · rintro ⟨before, z, after, h, hb, hz⟩
      cases before with
      | nil =>
        obtain ⟨rfl, rfl⟩ := List.cons.inj h
        exact Or.inl hz
      | cons w before =>
        obtain ⟨rfl, rfl⟩ := List.cons.inj h
        obtain ⟨y, hy⟩ := hb x List.mem_cons_self
        refine Or.inr ⟨y, hy, bind_eq_error.mpr (Or.inl ?_)⟩
        exact ih.mpr ⟨before, z, after, rfl, fun v hv => hb v (List.mem_cons_of_mem x hv), hz⟩

variable {g : α × Nat → Except ε β} {xs : List α} {ys : List β}

theorem mapM_eq_ok_at :
    xs.mapM f = .ok ys ↔ ys.length = xs.length ∧
      ∀ (i : Nat) (x : α), xs[i]? = some x → ∃ y, ys[i]? = some y ∧ f x = .ok y := by
  rw [mapM_eq_ok, List.forall₂_iff_get]
  constructor
  · rintro ⟨hlen, h⟩
    refine ⟨hlen.symm, ?_⟩
    intro i x hx
    obtain ⟨hi, rfl⟩ := List.getElem?_eq_some_iff.mp hx
    have hy : i < ys.length := hlen ▸ hi
    exact ⟨ys[i], List.getElem?_eq_getElem hy, h i hi hy⟩
  · rintro ⟨hlen, h⟩
    refine ⟨hlen.symm, ?_⟩
    intro i hi hy
    obtain ⟨y, hys, hf⟩ := h i xs[i] (List.getElem?_eq_getElem hi)
    obtain ⟨_, rfl⟩ := List.getElem?_eq_some_iff.mp hys
    exact hf

theorem getElem?_of_mapM (h : xs.mapM f = .ok ys) {i : Nat} {y : β} (hy : ys[i]? = some y) :
    ∃ x, xs[i]? = some x ∧ f x = .ok y := by
  obtain ⟨hlen, hall⟩ := mapM_eq_ok_at.mp h
  obtain ⟨hi, -⟩ := List.getElem?_eq_some_iff.mp hy
  have hx : xs[i]? = some xs[i] := List.getElem?_eq_getElem (hlen ▸ hi)
  obtain ⟨y', hy', hf⟩ := hall i _ hx
  obtain rfl := Option.some.inj (hy'.symm.trans hy)
  exact ⟨_, hx, hf⟩

theorem mapM_eq_error_at :
    xs.mapM f = .error e ↔ ∃ (i : Nat) (x : α), xs[i]? = some x ∧ f x = .error e ∧
      ∀ (j : Nat) (y : α), j < i → xs[j]? = some y → ∃ b, f y = .ok b := by
  rw [mapM_eq_error]
  constructor
  · rintro ⟨before, x, after, rfl, hb, hx⟩
    refine ⟨before.length, x, by simp, hx, ?_⟩
    intro j y hj hy
    rw [List.getElem?_append_left hj] at hy
    exact hb y (List.mem_of_getElem? hy)
  · rintro ⟨i, x, hget, hx, hb⟩
    refine ⟨xs.take i, x, xs.drop (i + 1), ?_, ?_, hx⟩
    · obtain ⟨hlt, rfl⟩ := List.getElem?_eq_some_iff.mp hget
      rw [List.getElem_cons_drop, List.take_append_drop]
    · intro y hy
      obtain ⟨j, hj⟩ := List.mem_iff_getElem?.mp hy
      rw [List.getElem?_take] at hj
      split at hj
      · rename_i hlt
        exact hb j y hlt hj
      · cases hj

theorem map_eq_map_of_forall₂ {γ : Type} {k : β → γ} {g : α → γ} {xs : List α} {ys : List β}
    (h : List.Forall₂ (fun x y => k y = g x) xs ys) : ys.map k = xs.map g := by
  induction h with
  | nil => rfl
  | cons hxy _ ih => rw [List.map_cons, List.map_cons, hxy, ih]

theorem exists_mapM_eq_ok {xs : List α} :
    (∃ ys, xs.mapM f = .ok ys) ↔ ∀ x ∈ xs, ∃ y, f x = .ok y := by
  constructor
  · rintro ⟨ys, h⟩ x hx
    obtain ⟨i, hi⟩ := List.mem_iff_getElem?.mp hx
    obtain ⟨y, -, hy⟩ := (mapM_eq_ok_at.mp h).2 i x hi
    exact ⟨y, hy⟩
  · intro hall
    rcases h : xs.mapM f with e | ys
    · obtain ⟨before, x, after, rfl, -, hx⟩ := mapM_eq_error.mp h
      obtain ⟨y, hy⟩ := hall x (by simp)
      cases hx.symm.trans hy
    · exact ⟨ys, rfl⟩

section
variable {γ : Type} {k : α × γ → Except ε β} {xs : List α} {zs : List γ}

theorem exists_mapM_zip_eq_ok :
    (∃ ys, (xs.zip zs).mapM k = .ok ys) ↔ ∀ (i : Nat) (x : α) (z : γ),
      xs[i]? = some x → zs[i]? = some z → ∃ y, k (x, z) = .ok y := by
  rw [exists_mapM_eq_ok]
  constructor
  · intro h i x z hx hz
    exact h _ (List.mem_of_getElem? (List.getElem?_zip_eq_some.mpr ⟨hx, hz⟩))
  · rintro h ⟨x, z⟩ hp
    obtain ⟨i, hi⟩ := List.mem_iff_getElem?.mp hp
    obtain ⟨hx, hz⟩ := List.getElem?_zip_eq_some.mp hi
    exact h i x z hx hz

theorem mapM_zip_eq_error :
    (xs.zip zs).mapM k = .error e ↔ ∃ (i : Nat) (x : α) (z : γ), xs[i]? = some x ∧
      zs[i]? = some z ∧ k (x, z) = .error e ∧ ∀ (j : Nat) (x : α) (z : γ), j < i →
        xs[j]? = some x → zs[j]? = some z → ∃ y, k (x, z) = .ok y := by
  rw [mapM_eq_error_at]
  constructor
  · rintro ⟨i, ⟨x, z⟩, hi, hk, hb⟩
    obtain ⟨hx, hz⟩ := List.getElem?_zip_eq_some.mp hi
    refine ⟨i, x, z, hx, hz, hk, ?_⟩
    intro j x z hj hx hz
    exact hb j (x, z) hj (List.getElem?_zip_eq_some.mpr ⟨hx, hz⟩)
  · rintro ⟨i, x, z, hx, hz, hk, hb⟩
    refine ⟨i, (x, z), List.getElem?_zip_eq_some.mpr ⟨hx, hz⟩, hk, ?_⟩
    rintro j ⟨x, z⟩ hj hi
    obtain ⟨hx, hz⟩ := List.getElem?_zip_eq_some.mp hi
    exact hb j x z hj hx hz

end

theorem getElem?_zipIdx_eq_some {i j : Nat} {x : α} :
    xs.zipIdx[i]? = some (x, j) ↔ xs[i]? = some x ∧ j = i := by
  rw [List.getElem?_zipIdx, Option.map_eq_some_iff]
  constructor
  · rintro ⟨a, ha, h⟩
    obtain ⟨rfl, rfl⟩ := Prod.mk.inj h
    exact ⟨ha, Nat.zero_add i⟩
  · rintro ⟨hx, rfl⟩
    exact ⟨x, hx, by rw [Nat.zero_add]⟩

theorem mapM_zipIdx_eq_ok :
    xs.zipIdx.mapM g = .ok ys ↔ ys.length = xs.length ∧
      ∀ i x, xs[i]? = some x → ∃ y, ys[i]? = some y ∧ g (x, i) = .ok y := by
  rw [mapM_eq_ok_at, List.length_zipIdx]
  refine and_congr_right fun _ => ⟨fun h i x hx => ?_, ?_⟩
  · exact h i (x, i) (getElem?_zipIdx_eq_some.mpr ⟨hx, rfl⟩)
  · rintro h i ⟨x, j⟩ hx
    obtain ⟨hx, rfl⟩ := getElem?_zipIdx_eq_some.mp hx
    exact h j x hx

theorem mapM_zipIdx_eq_error :
    xs.zipIdx.mapM g = .error e ↔ ∃ i x, xs[i]? = some x ∧ g (x, i) = .error e ∧
      ∀ j y, j < i → xs[j]? = some y → ∃ b, g (y, j) = .ok b := by
  rw [mapM_eq_error_at]
  constructor
  · rintro ⟨i, ⟨x, k⟩, hget, hx, hb⟩
    obtain ⟨hget, rfl⟩ := getElem?_zipIdx_eq_some.mp hget
    refine ⟨k, x, hget, hx, ?_⟩
    intro j y hj hy
    exact hb j (y, j) hj (getElem?_zipIdx_eq_some.mpr ⟨hy, rfl⟩)
  · rintro ⟨i, x, hget, hx, hb⟩
    refine ⟨i, (x, i), getElem?_zipIdx_eq_some.mpr ⟨hget, rfl⟩, hx, ?_⟩
    rintro j ⟨y, k⟩ hj hy
    obtain ⟨hy, rfl⟩ := getElem?_zipIdx_eq_some.mp hy
    exact hb k y hj hy

end Planar
