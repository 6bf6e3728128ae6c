import Mathlib
import Muster.Rounding

/-!
What rounding does to bounds. A value that needs no rounding itself is never crossed: what is not
above it is not rounded above it, and what is not below it is not rounded below it. So rounding
keeps the order of quotients, and a large one moves by no more than one part in `2 ^ precision`.
-/

namespace Muster.Rounding

variable {num den num' den' bound : Nat}

theorem nearest_spec (num : Nat) (positive : 0 < den) :
    2 * (nearest num den * den) ≤ 2 * num + den ∧ 2 * num ≤ 2 * (nearest num den * den) + den := by
  have whole : num / den * den + num % den = num := Nat.div_add_mod' num den
  have part := Nat.mod_lt num positive
  simp only [nearest]
  split
  · omega
  · split
    · rcases Nat.mod_two_eq_zero_or_one (num / den) with even | odd
      · rw [even, Nat.add_zero]
        omega
      · rw [odd, Nat.add_mul, Nat.one_mul]
        omega
    · rw [Nat.add_mul, Nat.one_mul]
      omega

theorem nearest_le (positive : 0 < den) (below : num ≤ bound * den) : nearest num den ≤ bound := by
  by_contra above
  have more : (bound + 1) * den ≤ nearest num den * den := Nat.mul_le_mul_right _ (by omega)
  have rounded := (nearest_spec num positive).1
  rw [Nat.add_mul, Nat.one_mul] at more
  omega

theorem le_nearest (positive : 0 < den) (above : bound * den ≤ num) : bound ≤ nearest num den := by
  by_contra below
  have less : (nearest num den + 1) * den ≤ bound * den := Nat.mul_le_mul_right _ (by omega)
  have rounded := (nearest_spec num positive).2
  rw [Nat.add_mul, Nat.one_mul] at less
  omega

theorem nearest_mul (bound : Nat) (positive : 0 < den) : nearest (bound * den) den = bound :=
  Nat.le_antisymm (nearest_le positive (Nat.le_refl _)) (le_nearest positive (Nat.le_refl _))

theorem nearest_tie (positive : 0 < den) {low : Nat} (half : 2 * num = (2 * low + 1) * den) :
    nearest num den = low + low % 2 := by
  have spread : (2 * low + 1) * den = 2 * (low * den) + den := by ring
  have next : (low + 1) * den = low * den + den := Nat.succ_mul low den
  have whole : num / den = low := Nat.div_eq_of_lt_le (by omega) (by omega)
  have part : num / den * den + num % den = num := Nat.div_add_mod' num den
  rw [whole] at part
  have twice : 2 * (num % den) = den := by omega
  simp only [nearest, whole, twice, Nat.lt_irrefl, if_false, if_true]

theorem nearest_mono (positive : 0 < den) (positive' : 0 < den')
    (most : num * den' ≤ num' * den) : nearest num den ≤ nearest num' den' := by
  by_contra above
  -- Only when both quotients are halfway between the same integers is the bound not crossed.
  let low := nearest num' den'
  have spread (den : Nat) : (2 * low + 1) * den = 2 * (low * den) + den := by ring
  have rounded := (nearest_spec num positive).1
  have rounded' : 2 * num' ≤ 2 * (low * den') + den' := (nearest_spec num' positive').2
  have more : (low + 1) * den ≤ nearest num den * den :=
    Nat.mul_le_mul_right _ (Nat.lt_of_not_le above)
  have least : (2 * low + 1) * den ≤ 2 * num := by
    rw [Nat.succ_mul] at more
    rw [spread]
    omega
  have largest : 2 * num' ≤ (2 * low + 1) * den' := spread den' ▸ rounded'
  have upper : 2 * num * den' ≤ (2 * low + 1) * den * den' := by
    calc 2 * num * den' = 2 * (num * den') := Nat.mul_assoc ..
      _ ≤ 2 * (num' * den) := Nat.mul_le_mul_left 2 most
      _ = 2 * num' * den := (Nat.mul_assoc ..).symm
      _ ≤ (2 * low + 1) * den' * den := Nat.mul_le_mul_right _ largest
      _ = (2 * low + 1) * den * den' := Nat.mul_right_comm ..
  have half : 2 * num = (2 * low + 1) * den :=
    Nat.le_antisymm (Nat.le_of_mul_le_mul_right upper positive') least
  have lower : (2 * low + 1) * den' * den ≤ 2 * num' * den := by
    calc (2 * low + 1) * den' * den = 2 * num * den' := by
          rw [half]
          exact Nat.mul_right_comm ..
      _ = 2 * (num * den') := Nat.mul_assoc ..
      _ ≤ 2 * (num' * den) := Nat.mul_le_mul_left 2 most
      _ = 2 * num' * den := (Nat.mul_assoc ..).symm
  have half' : 2 * num' = (2 * low + 1) * den' :=
    Nat.le_antisymm largest (Nat.le_of_mul_le_mul_right lower positive)
  apply above
  rw [nearest_tie positive half, nearest_tie positive' half']

theorem nearest_mul_right (num : Nat) (positive : 0 < den) {factor : Nat} (some : 0 < factor) :
    nearest (num * factor) (den * factor) = nearest num den := by
  have positive' : 0 < den * factor := Nat.mul_pos positive some
  have same : num * factor * den = num * (den * factor) := by ring
  exact Nat.le_antisymm (nearest_mono positive' positive (Nat.le_of_eq same))
    (nearest_mono positive positive' (Nat.le_of_eq same.symm))

/-! ## To significant digits -/

/-- A value of at most `precision` significant binary digits. -/
def Representable (value : Nat) : Prop :=
  ∃ digits zeros, digits < 2 ^ precision ∧ value = digits * 2 ^ zeros

theorem representable_of_lt {value : Nat} (small : value < 2 ^ precision) : Representable value :=
  ⟨value, 0, small, by rw [Nat.pow_zero, Nat.mul_one]⟩

theorem Representable.mul_two_pow {value : Nat} (representable : Representable value)
    (zeros : Nat) : Representable (value * 2 ^ zeros) := by
  obtain ⟨digits, own, small, rfl⟩ := representable
  exact ⟨digits, own + zeros, small, by rw [Nat.pow_add, Nat.mul_assoc]⟩

theorem Representable.split {value : Nat} (representable : Representable value) (dropped : Nat) :
    (∃ kept, value = kept * 2 ^ dropped) ∨ value * 2 < 2 ^ (dropped + precision) := by
  obtain ⟨digits, zeros, small, rfl⟩ := representable
  by_cases enough : dropped ≤ zeros
  · left
    refine ⟨digits * 2 ^ (zeros - dropped), ?_⟩
    rw [Nat.mul_assoc, ← Nat.pow_add, Nat.sub_add_cancel enough]
  · right
    calc digits * 2 ^ zeros * 2 = digits * 2 ^ (zeros + 1) := by rw [Nat.mul_assoc, Nat.pow_succ]
      _ < 2 ^ precision * 2 ^ (zeros + 1) := Nat.mul_lt_mul_of_pos_right small (Nat.two_pow_pos _)
      _ ≤ 2 ^ precision * 2 ^ dropped :=
        Nat.mul_le_mul_left _ (Nat.pow_le_pow_right (by omega) (by omega))
      _ = 2 ^ (dropped + precision) := by rw [Nat.mul_comm, Nat.pow_add]

theorem significant_cases (num : Nat) (positive : 0 < den) :
    significant num den = nearest num den ∨
      ∃ dropped, significant num den = nearest num (den * 2 ^ dropped) * 2 ^ dropped ∧
        2 ^ (dropped + precision) * den ≤ 2 * num := by
  let dropped := Nat.log2 (num / den) + 1 - precision
  have rounded : significant num den = nearest num (den * 2 ^ dropped) * 2 ^ dropped := by
    simp only [significant, Nat.shiftLeft_eq, dropped]
  by_cases none : dropped = 0
  · left
    rw [rounded, none, Nat.pow_zero, Nat.mul_one, Nat.mul_one]
  · right
    refine ⟨dropped, rounded, ?_⟩
    have large : num / den ≠ 0 := by
      intro zero
      apply none
      simp only [dropped, zero, precision]
      decide
    have digits : dropped + precision = Nat.log2 (num / den) + 1 := by omega
    have power : 2 ^ Nat.log2 (num / den) * den ≤ num :=
      (Nat.le_div_iff_mul_le positive).mp (Nat.log2_self_le large)
    have twice : 2 ^ (Nat.log2 (num / den) + 1) * den = 2 * (2 ^ Nat.log2 (num / den) * den) := by
      ring
    rw [digits, twice]
    omega

theorem significant_le (positive : 0 < den) (representable : Representable bound)
    (below : num ≤ bound * den) : significant num den ≤ bound := by
  rcases significant_cases num positive with same | ⟨dropped, same, large⟩
  · rw [same]
    exact nearest_le positive below
  · have power := Nat.two_pow_pos dropped
    rcases representable.split dropped with ⟨kept, rfl⟩ | small
    · rw [same]
      refine Nat.mul_le_mul_right _ (nearest_le (Nat.mul_pos positive power) ?_)
      rwa [Nat.mul_comm den, ← Nat.mul_assoc]
    · -- The quotient is above the bound, so that there is nothing to show.
      exfalso
      have less : bound * 2 * den < 2 ^ (dropped + precision) * den :=
        Nat.mul_lt_mul_of_pos_right small positive
      have twice : bound * 2 * den = 2 * (bound * den) := by ring
      omega

theorem le_significant (positive : 0 < den) (representable : Representable bound)
    (above : bound * den ≤ num) : bound ≤ significant num den := by
  rcases significant_cases num positive with same | ⟨dropped, same, large⟩
  · rw [same]
    exact le_nearest positive above
  · have power := Nat.two_pow_pos dropped
    rcases representable.split dropped with ⟨kept, rfl⟩ | small
    · rw [same]
      refine Nat.mul_le_mul_right _ (le_nearest (Nat.mul_pos positive power) ?_)
      rwa [Nat.mul_comm den, ← Nat.mul_assoc]
    · -- Rounding does not go below the least quotient of which as many digits are dropped.
      have halves : 2 ^ (dropped + precision) = 2 * (2 ^ 52 * 2 ^ dropped) := by
        rw [precision]
        ring
      have least : 2 ^ 52 ≤ nearest num (den * 2 ^ dropped) := by
        refine le_nearest (Nat.mul_pos positive power) ?_
        have twice : 2 ^ (dropped + precision) * den = 2 * (2 ^ 52 * (den * 2 ^ dropped)) := by
          rw [halves]
          ring
        omega
      have kept := Nat.mul_le_mul_right (2 ^ dropped) least
      rw [same]
      omega

theorem significant_of_representable {value : Nat} (representable : Representable value) :
    significant value 1 = value := by
  have same : value = value * 1 := (Nat.mul_one value).symm
  exact Nat.le_antisymm (significant_le Nat.one_pos representable (Nat.le_of_eq same))
    (le_significant Nat.one_pos representable (Nat.le_of_eq same.symm))

/-! ## Order and distance -/

def excess (num den : Nat) : Nat :=
  Nat.log2 (num / den) + 1 - precision

theorem significant_eq (num den : Nat) :
    significant num den = nearest num (den * 2 ^ excess num den) * 2 ^ excess num den := by
  simp only [significant, Nat.shiftLeft_eq, excess]

theorem log2_mono {small large : Nat} (most : small ≤ large) : small.log2 ≤ large.log2 := by
  rw [Nat.log2_eq_log_two, Nat.log2_eq_log_two]
  exact Nat.log_mono_right most

theorem significant_mono (positive : 0 < den) (positive' : 0 < den')
    (most : num * den' ≤ num' * den) : significant num den ≤ significant num' den' := by
  have quotients : num / den ≤ num' / den' := by
    rw [Nat.le_div_iff_mul_le positive']
    apply Nat.le_of_mul_le_mul_right _ positive
    calc num / den * den' * den = num / den * den * den' := Nat.mul_right_comm ..
      _ ≤ num * den' := Nat.mul_le_mul_right _ (Nat.div_mul_le_self num den)
      _ ≤ num' * den := most
  have digits : excess num den ≤ excess num' den' :=
    Nat.sub_le_sub_right (Nat.succ_le_succ (log2_mono quotients)) _
  rcases Nat.eq_or_lt_of_le digits with same | fewer
  · rw [significant_eq, significant_eq, ← same]
    have power := Nat.two_pow_pos (excess num den)
    refine Nat.mul_le_mul_right _ (nearest_mono (Nat.mul_pos positive power)
      (Nat.mul_pos positive' power) ?_)
    rw [← Nat.mul_assoc, ← Nat.mul_assoc]
    exact Nat.mul_le_mul_right _ most
  · -- A power of two lies between the quotients.
    have more : (num / den).log2 + 1 ≤ (num' / den').log2 := by
      simp only [excess] at fewer
      omega
    have large : num' / den' ≠ 0 := by
      intro none
      rw [none, Nat.log2_zero] at more
      omega
    have power : Representable (2 ^ (num' / den').log2) :=
      ⟨1, _, by decide, (Nat.one_mul _).symm⟩
    have below : num ≤ 2 ^ (num' / den').log2 * den := by
      have part : num / den < 2 ^ (num' / den').log2 :=
        Nat.lt_of_lt_of_le Nat.lt_log2_self (Nat.pow_le_pow_right (by decide) more)
      exact Nat.le_of_lt ((Nat.div_lt_iff_lt_mul positive).mp part)
    have above : 2 ^ (num' / den').log2 * den' ≤ num' :=
      (Nat.le_div_iff_mul_le positive').mp (Nat.log2_self_le large)
    exact Nat.le_trans (significant_le positive power below)
      (le_significant positive' power above)

/-- A quotient of so many digits is rounded by at most one part in `2 ^ precision`. -/
theorem significant_near (positive : 0 < den) (large : 2 ^ 52 * den ≤ num) :
    2 ^ precision * (significant num den * den) ≤ (2 ^ precision + 1) * num ∧
      (2 ^ precision - 1) * num ≤ 2 ^ precision * (significant num den * den) := by
  rw [precision]
  rcases significant_cases num positive with same | ⟨dropped, same, many⟩
  · rw [same]
    have near := nearest_spec num positive
    omega
  · rw [same]
    have near := nearest_spec num (Nat.mul_pos positive (Nat.two_pow_pos dropped))
    have split : 2 ^ (dropped + precision) * den = 2 ^ 53 * (den * 2 ^ dropped) := by
      rw [precision]
      ring
    have order : nearest num (den * 2 ^ dropped) * 2 ^ dropped * den =
        nearest num (den * 2 ^ dropped) * (den * 2 ^ dropped) := by ring
    rw [split] at many
    rw [order]
    omega

theorem dvd_significant (positive : 0 < den) {zeros : Nat} (large : 2 ^ (zeros + 52) * den ≤ num) :
    2 ^ zeros ∣ significant num den := by
  rw [significant_eq]
  apply Nat.dvd_mul_left_of_dvd
  apply Nat.pow_dvd_pow
  have quotient : 2 ^ (zeros + 52) ≤ num / den := (Nat.le_div_iff_mul_le positive).mpr large
  have least := log2_mono quotient
  rw [Nat.log2_two_pow] at least
  rw [excess, precision]
  omega

theorem significant_mul_two_pow (positive : 0 < den) (large : 2 ^ 52 * den ≤ num) (zeros : Nat) :
    significant (num * 2 ^ zeros) den = significant num den * 2 ^ zeros := by
  have power := Nat.two_pow_pos zeros
  have quotient : 2 ^ 52 ≤ num / den := (Nat.le_div_iff_mul_le positive).mpr large
  have some : num / den ≠ 0 := by
    intro none
    rw [none] at quotient
    exact absurd quotient (by decide)
  have digits : (num * 2 ^ zeros / den).log2 = (num / den).log2 + zeros := by
    rw [Nat.log2_eq_iff]
    · constructor
      · rw [Nat.pow_add, Nat.le_div_iff_mul_le positive, Nat.mul_right_comm]
        exact Nat.mul_le_mul_right _
          ((Nat.le_div_iff_mul_le positive).mp (Nat.log2_self_le some))
      · rw [Nat.div_lt_iff_lt_mul positive, Nat.add_right_comm, Nat.pow_add, Nat.mul_right_comm]
        exact Nat.mul_lt_mul_of_pos_right
          ((Nat.div_lt_iff_lt_mul positive).mp Nat.lt_log2_self) power
    · have kept : num / den ≤ num * 2 ^ zeros / den :=
        Nat.div_le_div_right (Nat.le_mul_of_pos_right _ power)
      omega
  have least := log2_mono quotient
  rw [Nat.log2_two_pow] at least
  have more : excess (num * 2 ^ zeros) den = excess num den + zeros := by
    rw [excess, excess, digits, precision]
    omega
  rw [significant_eq, significant_eq, more, Nat.pow_add, ← Nat.mul_assoc, ← Nat.mul_assoc,
    nearest_mul_right num (Nat.mul_pos positive (Nat.two_pow_pos _)) power]

end Muster.Rounding
