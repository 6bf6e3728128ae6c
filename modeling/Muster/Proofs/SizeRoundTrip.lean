import Mathlib
import Muster.Proofs.SizeText

/-!
What is read where a size was written for a launched process. Up to five kilobytes it is the size
itself. Above, the size has lost what is less than a hundredth of its unit, and since there are more
than five of the unit, this is at most a thousandth of the size.
-/

namespace Muster.Size

variable {value bytes : Nat}

theorem five_units_lt (many : stepLimit < value) : 5 * (formatUnit value).1.bytes < value := by
  rw [formatUnit_fst]
  split_ifs <;> simp only [stepLimit, ByteUnit.bytes] at * <;> omega

theorem bytes_le_peta (unit : ByteUnit) : unit.bytes ≤ 2 ^ 50 := by
  cases unit <;> decide

theorem hundredths_near (value : Nat) :
    2 * (hundredths value * (formatUnit value).1.bytes) ≤
        200 * value + (formatUnit value).1.bytes ∧
      200 * value ≤
        2 * (hundredths value * (formatUnit value).1.bytes) + (formatUnit value).1.bytes := by
  have near := Rounding.nearest_spec (100 * value) (unit_pos (formatUnit value).1)
  rw [← hundredths] at near
  omega

theorem bytesOf_hundredths_small {hundredths : Nat} {unit : ByteUnit}
    (small : hundredths * unit.bytes ≤ 100 * (2 ^ 53 - 1)) :
    hundredths * unit.bytes < 100 * (bytesOf ⟨hundredths, 2⟩ unit + 1) ∧
      100 * bytesOf ⟨hundredths, 2⟩ unit < hundredths * unit.bytes + 100 := by
  let exact := hundredths * unit.bytes
  have exact_def : hundredths * unit.bytes = exact := rfl
  rw [exact_def] at small ⊢
  have precision : Rounding.precision = 53 := rfl
  have below : exact / 100 ≤ bytesOf ⟨hundredths, 2⟩ unit := by
    refine le_bytesOf (Rounding.representable_of_lt (by rw [precision]; omega)) ?_ ?_
    · have bound : limit = 2 ^ 64 - 1 := rfl
      omega
    · show exact / 100 * 100 ≤ exact
      omega
  have above : bytesOf ⟨hundredths, 2⟩ unit ≤ (exact + 99) / 100 := by
    refine bytesOf_le (Rounding.representable_of_lt (by rw [precision]; omega)) ?_
    show exact ≤ (exact + 99) / 100 * 100
    omega
  omega

theorem bytesOf_hundredths_large {hundredths : Nat} {unit : ByteUnit}
    (fits : hundredths * unit.bytes ≤ 100 * 2 ^ 64) :
    hundredths * unit.bytes ≤ 100 * (bytesOf ⟨hundredths, 2⟩ unit + 2 ^ 12) ∧
      100 * bytesOf ⟨hundredths, 2⟩ unit ≤ hundredths * unit.bytes + 100 * 2 ^ 12 := by
  let exact := hundredths * unit.bytes
  have exact_def : hundredths * unit.bytes = exact := rfl
  rw [exact_def] at fits ⊢
  have precision : Rounding.precision = 53 := rfl
  have below : (exact - 1) / (100 * 2 ^ 12) * 2 ^ 12 ≤ bytesOf ⟨hundredths, 2⟩ unit := by
    refine le_bytesOf ⟨_, 12, ?_, rfl⟩ ?_ ?_
    · rw [precision]
      omega
    · have bound : limit = 2 ^ 64 - 1 := rfl
      omega
    · show (exact - 1) / (100 * 2 ^ 12) * 2 ^ 12 * 100 ≤ exact
      omega
  have above : bytesOf ⟨hundredths, 2⟩ unit ≤ (exact / (100 * 2 ^ 12) + 1) * 2 ^ 12 := by
    refine bytesOf_le ⟨_, 12, ?_, rfl⟩ ?_
    · rw [precision]
      omega
    · show exact ≤ (exact / (100 * 2 ^ 12) + 1) * 2 ^ 12 * 100
      omega
  omega

theorem hundredths_fit (fits : value ≤ 2 ^ 64) :
    hundredths value * (formatUnit value).1.bytes ≤ 100 * 2 ^ 64 := by
  -- Every unit divides the bound, so that rounding does not go beyond it.
  have divides : (formatUnit value).1.bytes ∣ 100 * 2 ^ 64 := by
    cases (formatUnit value).1 <;> decide
  rw [← Nat.div_mul_cancel divides]
  refine Nat.mul_le_mul_right _ (Rounding.nearest_le (unit_pos _) ?_)
  rw [Nat.div_mul_cancel divides]
  exact Nat.mul_le_mul_left 100 fits

/-! ## Sizes -/

theorem read_close_small (many : stepLimit < bytes) (few : bytes ≤ 6 * 2 ^ 50) :
    let read := bytesOf ⟨hundredths bytes, 2⟩ (formatUnit bytes).1
    1000 * read ≤ 1001 * bytes + 2000 ∧ 999 * bytes ≤ 1000 * read + 2000 := by
  intro read
  have five := five_units_lt many
  have near := hundredths_near bytes
  have digits := bytesOf_hundredths_small
    (show hundredths bytes * (formatUnit bytes).1.bytes ≤ 100 * (2 ^ 53 - 1) by omega)
  change _ < 100 * (read + 1) ∧ 100 * read < _ at digits
  omega

theorem read_close_large (many : 6 * 2 ^ 50 < bytes) (fits : bytes < 2 ^ 64) :
    let written := Rounding.significant bytes 1
    let read := bytesOf ⟨hundredths written, 2⟩ (formatUnit written).1
    1000 * read ≤ 1001 * bytes + 2000 ∧ 999 * bytes ≤ 1000 * read + 2000 := by
  intro written read
  have double : 2 ^ 53 * (written * 1) ≤ (2 ^ 53 + 1) * bytes ∧
      (2 ^ 53 - 1) * bytes ≤ 2 ^ 53 * (written * 1) :=
    Rounding.significant_near Nat.one_pos (by omega)
  have limited : written ≤ 2 ^ 64 :=
    Rounding.significant_le Nat.one_pos ⟨1, 64, by decide, rfl⟩ (by omega)
  have unit := bytes_le_peta (formatUnit written).1
  have near := hundredths_near written
  have digits := bytesOf_hundredths_large (hundredths_fit limited)
  change _ ≤ 100 * (read + 2 ^ 12) ∧ 100 * read ≤ _ at digits
  omega

theorem parse_format_near (many : stepLimit < bytes) (fits : bytes < 2 ^ 64) :
    ∃ read, parse (format bytes) = .ok read ∧
      1000 * read ≤ 1001 * bytes + 2000 ∧ 999 * bytes ≤ 1000 * read + 2000 := by
  refine ⟨_, parse_format_of_lt many, ?_⟩
  by_cases few : bytes ≤ 6 * 2 ^ 50
  · have double : Rounding.significant bytes 1 = bytes :=
      Rounding.significant_of_representable
        (Rounding.representable_of_lt (Nat.lt_of_le_of_lt few (by decide)))
    rw [double]
    exact read_close_small many few
  · exact read_close_large (Nat.lt_of_not_le few) fits

/-- A size of up to five kilobytes is read as it was written, and any other within a thousandth of
it and two bytes. -/
theorem parse_format_close (size : UInt64) :
    ∃ read, parse (format size.toNat) = .ok read ∧ (size.toNat ≤ 5120 → read = size.toNat) ∧
      (5120 < size.toNat → 1000 * |(read : ℤ) - size.toNat| ≤ size.toNat + 2000) := by
  by_cases few : size.toNat ≤ stepLimit
  · refine ⟨_, parse_format_of_le few, fun _ => rfl, ?_⟩
    intro many
    exact absurd few (Nat.not_le_of_lt many)
  · obtain ⟨read, same, most, least⟩ := parse_format_near (Nat.lt_of_not_le few) size.toNat_lt
    refine ⟨read, same, fun small => absurd small few, fun _ => ?_⟩
    rcases abs_cases ((read : ℤ) - size.toNat) with above | below
    · omega
    · omega

example : format 5121 = "5.00KB" ∧ parse "5.00KB" = .ok 5120 := by
  decide +kernel

end Muster.Size
