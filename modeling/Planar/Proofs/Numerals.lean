import Mathlib
import Planar.Dump

/-! Which words are samples of a dump, and for which numbers they stand. -/
namespace Planar

/-- Decimal digits after an optional plus sign, with any number of zeros in front. -/
def Spells (letters : List Char) (n : Nat) : Prop :=
  ∃ digits, (letters = digits ∨ letters = '+' :: digits) ∧ digits ≠ [] ∧
    (∀ c ∈ digits, c.isDigit = true) ∧
    n = Nat.ofDigits 10 (digits.reverse.map fun c => c.toNat - '0'.toNat)

namespace Decimal
variable {letters digits : List Char} {n limit : Nat}

theorem ofDigits_eq (digits : List Char) :
    ofDigits digits = Nat.ofDigits 10 (digits.reverse.map fun c => c.toNat - '0'.toNat) := by
  rw [ofDigits, Nat.ofDigits_eq_foldr, List.foldr_map, List.foldr_reverse]
  simp [Nat.add_comm]

/-- No digit is a plus sign, so a sign is never taken for one of the digits. -/
theorem unsigned_of_digits (h : letters = digits ∨ letters = '+' :: digits)
    (hdigits : ∀ c ∈ digits, c.isDigit = true) :
    (if letters.head? = some '+' then letters.tail else letters) = digits := by
  rcases h with rfl | rfl
  · refine if_neg fun hsign => ?_
    have hplus := hdigits '+' (List.mem_of_head? hsign)
    exact absurd hplus (by decide)
  · rfl

theorem eq_or_eq_cons_unsigned (letters : List Char) :
    let digits := if letters.head? = some '+' then letters.tail else letters
    letters = digits ∨ letters = '+' :: digits := by
  dsimp only
  split
  · rename_i hsign
    obtain ⟨digits, rfl⟩ := List.head?_eq_some_iff.mp hsign
    exact Or.inr rfl
  · exact Or.inl rfl

theorem readNat?_eq_some_iff : readNat? limit letters = some n ↔ Spells letters n ∧ n < limit := by
  simp only [readNat?, Option.ite_none_right_eq_some, Option.some.injEq]
  constructor
  · rintro ⟨⟨hne, hdigits, hlt⟩, rfl⟩
    refine ⟨⟨_, eq_or_eq_cons_unsigned letters, hne, ?_, ofDigits_eq _⟩, hlt⟩
    exact List.all_eq_true.mp hdigits
  · rintro ⟨⟨digits, hletters, hne, hdigits, rfl⟩, hlt⟩
    rw [← ofDigits_eq] at hlt ⊢
    rw [unsigned_of_digits hletters hdigits]
    exact ⟨⟨hne, List.all_eq_true.mpr hdigits, hlt⟩, rfl⟩

end Decimal

namespace Dump
variable {letters : List Char} {v : UInt8}

/-- A word that an 8-bit number spells. -/
def IsSample (letters : List Char) : Prop := ∃ n ≤ 255, Spells letters n

theorem sample?_eq_some_iff : sample? letters = some v ↔ Spells letters v.toNat := by
  rw [sample?, Option.map_eq_some_iff]
  constructor
  · rintro ⟨n, hn, rfl⟩
    obtain ⟨hspells, hlt⟩ := Decimal.readNat?_eq_some_iff.mp hn
    rwa [UInt8.toNat_ofNat_of_lt' hlt]
  · intro h
    exact ⟨v.toNat, Decimal.readNat?_eq_some_iff.mpr ⟨h, v.toNat_lt⟩, UInt8.ofNat_toNat⟩

theorem isSample_iff : IsSample letters ↔ ∃ v, sample? letters = some v := by
  constructor
  · rintro ⟨n, hn, hspells⟩
    refine ⟨UInt8.ofNat n, sample?_eq_some_iff.mpr ?_⟩
    rwa [UInt8.toNat_ofNat_of_lt' (Nat.lt_succ_of_le hn)]
  · rintro ⟨v, hv⟩
    exact ⟨v.toNat, Nat.le_of_lt_succ v.toNat_lt, sample?_eq_some_iff.mp hv⟩

instance : Decidable (IsSample letters) :=
  decidable_of_iff ((sample? letters).isSome = true)
    (Option.isSome_iff_exists.trans isSample_iff.symm)

end Dump

end Planar
