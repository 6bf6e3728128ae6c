import Mathlib
import Muster.Proofs.Rounding
import Muster.Proofs.SizeGrammar

/-!
How many bytes are read for an exact quantity of them. Below `2 ^ 53` bytes it is one of the two
whole numbers next to the quantity, above it differs by at most one part in `2 ^ 53`, and from
`2 ^ 64` bytes on it is the largest number that there is. Larger quantities are never read as fewer
bytes, whatever units they are written in.
-/

namespace Muster.Size

variable {number number' : Decimal} {unit unit' : ByteUnit} {bound bytes : Nat}
  {quantity : ℚ} {s : String}

theorem exact_eq (number : Decimal) (unit : ByteUnit) :
    number.value * unit.bytes =
      ((number.digits * unit.bytes : Nat) : ℚ) / ((10 ^ number.places : Nat) : ℚ) := by
  rw [Decimal.value]
  push_cast
  ring

theorem places_pos (number : Decimal) : (0 : ℚ) < ((10 ^ number.places : Nat) : ℚ) :=
  Nat.cast_pos.mpr (Nat.pow_pos (by decide))

theorem exact_le_iff : number.value * unit.bytes ≤ bound ↔
    number.digits * unit.bytes ≤ bound * 10 ^ number.places := by
  rw [exact_eq, div_le_iff₀ (places_pos number)]
  exact_mod_cast Iff.rfl

theorem le_exact_iff : (bound : ℚ) ≤ number.value * unit.bytes ↔
    bound * 10 ^ number.places ≤ number.digits * unit.bytes := by
  rw [exact_eq, le_div_iff₀ (places_pos number)]
  exact_mod_cast Iff.rfl

theorem exact_le_exact_iff : number.value * unit.bytes ≤ number'.value * unit'.bytes ↔
    number.digits * unit.bytes * 10 ^ number'.places ≤
      number'.digits * unit'.bytes * 10 ^ number.places := by
  rw [exact_eq, exact_eq, div_le_div_iff₀ (places_pos number) (places_pos number')]
  exact_mod_cast Iff.rfl

def wholeOf (number : Decimal) (unit : ByteUnit) : Nat :=
  Rounding.significant (number.digits * unit.bytes * 2 ^ Rounding.precision)
    (10 ^ number.places) / 2 ^ Rounding.precision

theorem bytesOf_eq_min (number : Decimal) (unit : ByteUnit) :
    bytesOf number unit = min limit (wholeOf number unit) := by
  simp only [bytesOf, wholeOf, Nat.shiftLeft_eq, Nat.shiftRight_eq_div_pow, Nat.pow_eq]

theorem bytesOf_mono (most : number.value * unit.bytes ≤ number'.value * unit'.bytes) :
    bytesOf number unit ≤ bytesOf number' unit' := by
  rw [exact_le_exact_iff] at most
  rw [bytesOf_eq_min, bytesOf_eq_min]
  refine min_le_min_left limit (Nat.div_le_div_right (Rounding.significant_mono
    (Nat.pow_pos (by decide)) (Nat.pow_pos (by decide)) ?_))
  rw [Nat.mul_right_comm _ (2 ^ Rounding.precision), Nat.mul_right_comm _ (2 ^ Rounding.precision)]
  exact Nat.mul_le_mul_right _ most

theorem bytesOf_eq_of_exact_eq (same : number.value * unit.bytes = number'.value * unit'.bytes) :
    bytesOf number unit = bytesOf number' unit' :=
  Nat.le_antisymm (bytesOf_mono same.le) (bytesOf_mono same.ge)

/-- What a quantity of bytes is read as. -/
structure Rounds (exact : ℚ) (bytes : Nat) : Prop where
  small : exact < 2 ^ 53 → bytes = ⌊exact⌋₊ ∨ bytes = ⌈exact⌉₊
  whole : ∀ count : Nat, exact = count → exact < 2 ^ 53 → bytes = count
  large : 2 ^ 53 ≤ exact → exact < 2 ^ 64 → |(bytes : ℚ) - exact| ≤ exact / 2 ^ 53
  beyond : 2 ^ 64 ≤ exact → bytes = 2 ^ 64 - 1

theorem representable_of_le (few : bound ≤ 2 ^ 53) : Rounding.Representable bound := by
  rcases Nat.eq_or_lt_of_le few with rfl | less
  · exact ⟨1, 53, by decide, rfl⟩
  · exact Rounding.representable_of_lt less

theorem bytesOf_small (small : number.value * unit.bytes < 2 ^ 53) :
    ⌊number.value * unit.bytes⌋₊ ≤ bytesOf number unit ∧
      bytesOf number unit ≤ ⌈number.value * unit.bytes⌉₊ := by
  have few : ⌈number.value * unit.bytes⌉₊ ≤ 2 ^ 53 := by
    rw [Nat.ceil_le]
    exact_mod_cast small.le
  have order := Nat.floor_le_ceil (number.value * unit.bytes)
  have positive : 0 ≤ number.value * unit.bytes := by
    rw [exact_eq]
    positivity
  constructor
  · refine le_bytesOf (representable_of_le (order.trans few)) ?_
      (le_exact_iff.mp (Nat.floor_le positive))
    exact order.trans (few.trans (by decide))
  · exact bytesOf_le (representable_of_le few) (exact_le_iff.mp (Nat.le_ceil _))

theorem wholeOf_large (large : 2 ^ 53 * 10 ^ number.places ≤ number.digits * unit.bytes) :
    2 ^ 53 * (wholeOf number unit * 10 ^ number.places) ≤
        (2 ^ 53 + 1) * (number.digits * unit.bytes) ∧
      (2 ^ 53 - 1) * (number.digits * unit.bytes) ≤
        2 ^ 53 * (wholeOf number unit * 10 ^ number.places) := by
  have positive : 0 < 10 ^ number.places := Nat.pow_pos (by decide)
  -- Behind the point all digits are dropped, so that nothing is left there to be cut off.
  have many : 2 ^ (53 + 52) * 10 ^ number.places ≤
      number.digits * unit.bytes * 2 ^ Rounding.precision := by
    rw [Rounding.precision]
    omega
  obtain ⟨whole, rounded⟩ := Rounding.dvd_significant positive many
  have same : wholeOf number unit = whole := by
    rw [wholeOf, rounded, Rounding.precision, Nat.mul_div_cancel_left _ (by decide)]
  have ample : 2 ^ 52 * 10 ^ number.places ≤
      number.digits * unit.bytes * 2 ^ Rounding.precision := by omega
  have near := Rounding.significant_near positive ample
  rw [rounded, Rounding.precision, Nat.mul_assoc] at near
  rw [same]
  omega

theorem bytesOf_beyond (beyond : 2 ^ 64 ≤ number.value * unit.bytes) :
    bytesOf number unit = limit := by
  have above : (2 ^ 64 : Nat) * 10 ^ number.places ≤ number.digits * unit.bytes :=
    le_exact_iff.mp (by exact_mod_cast beyond)
  have power : Rounding.Representable (2 ^ 64) := ⟨1, 64, by decide, rfl⟩
  have rounded := Rounding.le_significant (Nat.pow_pos (by decide))
    (power.mul_two_pow Rounding.precision)
    (show 2 ^ 64 * 2 ^ Rounding.precision * 10 ^ number.places ≤
        number.digits * unit.bytes * 2 ^ Rounding.precision by
      rw [Nat.mul_right_comm]
      exact Nat.mul_le_mul_right _ above)
  have more : 2 ^ 64 ≤ wholeOf number unit :=
    (Nat.le_div_iff_mul_le (Nat.two_pow_pos _)).mpr rounded
  rw [bytesOf_eq_min]
  exact Nat.min_eq_left (Nat.le_trans (by decide) more)

theorem bytesOf_large (large : 2 ^ 53 ≤ number.value * unit.bytes)
    (fits : number.value * unit.bytes < 2 ^ 64) :
    |(bytesOf number unit : ℚ) - number.value * unit.bytes| ≤
      number.value * unit.bytes / 2 ^ 53 := by
  have above : (2 ^ 53 : Nat) * 10 ^ number.places ≤ number.digits * unit.bytes :=
    le_exact_iff.mp (by exact_mod_cast large)
  have below : number.digits * unit.bytes < 2 ^ 64 * 10 ^ number.places := by
    by_contra beyond
    exact absurd (le_exact_iff.mpr (Nat.le_of_not_lt beyond)) (by exact_mod_cast fits.not_ge)
  obtain ⟨most, least⟩ := wholeOf_large above
  have near : 2 ^ 53 * (bytesOf number unit * 10 ^ number.places) ≤
        (2 ^ 53 + 1) * (number.digits * unit.bytes) ∧
      (2 ^ 53 - 1) * (number.digits * unit.bytes) ≤
        2 ^ 53 * (bytesOf number unit * 10 ^ number.places) := by
    -- What is above the limit comes only closer to a quantity that is not.
    rw [bytesOf_eq_min]
    rcases Nat.le_total limit (wholeOf number unit) with limited | same
    · have less := Nat.mul_le_mul_right (10 ^ number.places) limited
      have bound : limit = 2 ^ 64 - 1 := rfl
      rw [Nat.min_eq_left limited]
      rw [bound] at less ⊢
      omega
    · rw [Nat.min_eq_right same]
      exact ⟨most, least⟩
  have upper : (2 ^ 53 : ℚ) * bytesOf number unit ≤
      (2 ^ 53 + 1) * (number.value * unit.bytes) := by
    rw [exact_eq, ← mul_div_assoc, le_div_iff₀ (places_pos number), mul_assoc]
    exact_mod_cast near.1
  have lower : (2 ^ 53 - 1 : ℚ) * (number.value * unit.bytes) ≤
      2 ^ 53 * bytesOf number unit := by
    rw [exact_eq, ← mul_div_assoc, div_le_iff₀ (places_pos number), mul_assoc]
    have cast := (Nat.cast_le (α := ℚ)).mpr near.2
    push_cast at cast ⊢
    linarith
  rw [abs_le]
  constructor
  · linarith
  · linarith

theorem rounds_bytesOf (number : Decimal) (unit : ByteUnit) :
    Rounds (number.value * unit.bytes) (bytesOf number unit) where
  small few := by
    obtain ⟨least, most⟩ := bytesOf_small few
    have next := Nat.ceil_le_floor_add_one (number.value * unit.bytes)
    omega
  whole count same few := by
    obtain ⟨least, most⟩ := bytesOf_small few
    rw [same, Nat.floor_natCast] at least
    rw [same, Nat.ceil_natCast] at most
    exact Nat.le_antisymm most least
  large := bytesOf_large
  beyond := bytesOf_beyond

/-! ## Doubles -/

theorem exists_bytes_eq (unit : ByteUnit) : ∃ power ≤ 50, unit.bytes = 2 ^ power := by
  cases unit with
  | byte => exact ⟨0, by decide, rfl⟩
  | kilo => exact ⟨10, by decide, rfl⟩
  | mega => exact ⟨20, by decide, rfl⟩
  | giga => exact ⟨30, by decide, rfl⟩
  | tera => exact ⟨40, by decide, rfl⟩
  | peta => exact ⟨50, by decide, rfl⟩

theorem wholeOf_eq (number : Decimal) (unit : ByteUnit) {places : Nat} (enough : 103 ≤ places) :
    wholeOf number unit =
      Rounding.significant (number.digits * 2 ^ places) (10 ^ number.places) * unit.bytes /
        2 ^ places := by
  obtain ⟨power, few, same⟩ := exists_bytes_eq unit
  have positive : 0 < 10 ^ number.places := Nat.pow_pos (by decide)
  obtain ⟨more, rfl⟩ : ∃ more, places = power + 53 + more := ⟨places - (power + 53), by omega⟩
  have scaled : number.digits * unit.bytes * 2 ^ Rounding.precision =
      number.digits * 2 ^ (power + 53) := by
    rw [same, Rounding.precision, Nat.pow_add, Nat.mul_assoc]
  have rest : number.digits * 2 ^ (power + 53 + more) =
      number.digits * 2 ^ (power + 53) * 2 ^ more := by
    rw [Nat.mul_assoc, ← Nat.pow_add]
  rw [wholeOf, scaled, same, rest, Rounding.precision]
  by_cases half : 2 ^ 52 * 10 ^ number.places ≤ number.digits * 2 ^ (power + 53)
  · have shifts : 2 ^ (power + 53 + more) = 2 ^ 53 * (2 ^ more * 2 ^ power) := by ring
    rw [Rounding.significant_mul_two_pow positive half, Nat.mul_assoc, shifts,
      Nat.mul_div_mul_right _ _ (Nat.mul_pos (Nat.two_pow_pos _) (Nat.two_pow_pos _))]
  · -- Neither way is there a whole byte.
    have less : number.digits * 2 ^ (power + 53) ≤ 2 ^ 52 * 10 ^ number.places :=
      Nat.le_of_not_le half
    have once := Rounding.significant_le positive ⟨1, 52, by decide, rfl⟩
      (show number.digits * 2 ^ (power + 53) ≤ 1 * 2 ^ 52 * 10 ^ number.places by omega)
    have twice := Rounding.significant_le positive ⟨1, 52 + more, by decide, rfl⟩
      (show number.digits * 2 ^ (power + 53) * 2 ^ more ≤
          1 * 2 ^ (52 + more) * 10 ^ number.places by
        calc number.digits * 2 ^ (power + 53) * 2 ^ more
            ≤ 2 ^ 52 * 10 ^ number.places * 2 ^ more := Nat.mul_le_mul_right _ less
          _ = 1 * 2 ^ (52 + more) * 10 ^ number.places := by ring)
    have product : 1 * 2 ^ (52 + more) * 2 ^ power < 2 ^ (power + 53 + more) := by
      rw [Nat.one_mul, ← Nat.pow_add]
      exact Nat.pow_lt_pow_right (by decide) (by omega)
    rw [Nat.div_eq_of_lt (Nat.lt_of_le_of_lt once (by decide)),
      Nat.div_eq_of_lt (Nat.lt_of_le_of_lt (Nat.mul_le_mul_right _ twice) product)]

def finest : Nat := 1074

def range : Nat := 1024

/-- The double nearest to a number, or infinity, times the unit; then without its fraction and
limited. The double is counted in units of the least positive one. -/
def throughDouble (number : Decimal) (unit : ByteUnit) : Nat :=
  let double := Rounding.significant (number.digits * 2 ^ finest) (10 ^ number.places)
  if double < 2 ^ (range + finest) then min limit (double * unit.bytes / 2 ^ finest) else limit

theorem throughDouble_eq (number : Decimal) (unit : ByteUnit) :
    throughDouble number unit = bytesOf number unit := by
  have enough : 103 ≤ finest := by
    rw [finest]
    omega
  rw [bytesOf_eq_min, wholeOf_eq number unit enough, throughDouble]
  split
  · rfl
  · -- An infinite number is read as the limit, and so is every number that large.
    rename_i infinite
    have some : 1 ≤ unit.bytes := by
      cases unit <;> decide
    have large : 2 ^ range ≤ Rounding.significant (number.digits * 2 ^ finest)
        (10 ^ number.places) * unit.bytes / 2 ^ finest := by
      rw [Nat.le_div_iff_mul_le (Nat.two_pow_pos _), ← Nat.pow_add]
      exact Nat.le_trans (Nat.le_of_not_lt infinite) (Nat.le_mul_of_pos_right _ some)
    have bound : limit ≤ 2 ^ range := by
      have wide : 64 ≤ range := by
        rw [range]
        omega
      exact Nat.le_trans (show limit ≤ 2 ^ 64 by decide) (Nat.pow_le_pow_right (by decide) wide)
    exact (Nat.min_eq_left (Nat.le_trans bound large)).symm

/-! ## Reading -/

theorem Written.parse (written : Written (Text.trimChars s.toList) quantity unit) :
    ∃ number : Decimal, number.value = quantity ∧ Size.parse s = .ok (bytesOf number unit) := by
  obtain ⟨number, read, same, named⟩ := written.parts
  exact ⟨number, same, parse_eq_ok_iff.mpr ⟨number, unit, read, named, rfl⟩⟩

/-- What is read is the exact quantity as far as fifty-three binary digits allow, and it is what the
double nearest to the number leads to. A larger number of the same unit is not read as less, and a
quantity is read alike in a unit and in the next smaller one. -/
theorem parse_rounds (read : parse s = .ok bytes) :
    (∃ quantity unit, Written (Text.trimChars s.toList) quantity unit) ∧
      ∀ quantity unit, Written (Text.trimChars s.toList) quantity unit →
        Rounds (quantity * unit.bytes) bytes ∧
          (∃ number : Decimal, number.value = quantity ∧ throughDouble number unit = bytes) ∧
          ∀ s' quantity' unit', Written (Text.trimChars s'.toList) quantity' unit' →
            ∃ bytes', parse s' = .ok bytes' ∧
              (unit' = unit → quantity ≤ quantity' → bytes ≤ bytes') ∧
              (unit.bytes = 1024 * unit'.bytes → quantity' = 1024 * quantity →
                bytes' = bytes) := by
  refine ⟨exists_parse_iff.mp ⟨bytes, read⟩, ?_⟩
  intro quantity unit written
  obtain ⟨number, rfl, same⟩ := written.parse
  obtain rfl : bytesOf number unit = bytes := Except.ok.inj (same.symm.trans read)
  refine ⟨rounds_bytesOf number unit, ⟨number, rfl, throughDouble_eq number unit⟩, ?_⟩
  intro s' quantity' unit' written'
  obtain ⟨number', rfl, read'⟩ := written'.parse
  refine ⟨_, read', ?_, ?_⟩
  · rintro rfl more
    exact bytesOf_mono (mul_le_mul_of_nonneg_right more (Nat.cast_nonneg _))
  · intro larger multiplied
    apply bytesOf_eq_of_exact_eq
    rw [multiplied, larger]
    push_cast
    ring

theorem parse_rounds_brim :
    Size.parse "16383.99999999999999999999 PB" = .ok 18446744073709551615 ∧
      Written (Text.trimChars "16383.99999999999999999999 PB".toList)
        (Decimal.value ⟨1638399999999999999999999, 20⟩) .peta ∧
      Rounds (Decimal.value ⟨1638399999999999999999999, 20⟩ * ByteUnit.peta.bytes)
        18446744073709551615 ∧
      Size.parse "16777215.99999999999999998976tb" = .ok 18446744073709551615 := by
  have read : Size.parse "16383.99999999999999999999 PB" = .ok 18446744073709551615 := by
    decide +kernel
  have written : Written (Text.trimChars "16383.99999999999999999999 PB".toList)
      (Decimal.value ⟨1638399999999999999999999, 20⟩) .peta :=
    written_of_parts (Text.trims_trimChars _).last (by decide +kernel) (by decide +kernel)
  have written' : Written (Text.trimChars "16777215.99999999999999998976tb".toList)
      (Decimal.value ⟨1677721599999999999999998976, 20⟩) .tera :=
    written_of_parts (Text.trims_trimChars _).last (by decide +kernel) (by decide +kernel)
  obtain ⟨_, sizes⟩ := parse_rounds read
  obtain ⟨rounds, _, others⟩ := sizes _ _ written
  obtain ⟨bytes', read', _, alike⟩ := others _ _ _ written'
  have multiplied : Decimal.value ⟨1677721599999999999999998976, 20⟩ =
      1024 * Decimal.value ⟨1638399999999999999999999, 20⟩ := by
    norm_num [Decimal.value]
  rw [alike rfl multiplied] at read'
  exact ⟨read, written, rounds, read'⟩

end Muster.Size
