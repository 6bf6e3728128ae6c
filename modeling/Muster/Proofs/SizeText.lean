import Mathlib
import Muster.Size
import Muster.Proofs.Rounding

/-!
Sizes that are written and read back. What is read is the written number of the written unit, and a
value that needs no rounding is not crossed on the way.
-/

namespace Muster

namespace Text

theorem isBlank_of_visible {c : Char} (low : 0x20 < c.toNat) (high : c.toNat < 0x85) :
    isBlank c = false := by
  simp only [isBlank, Bool.or_eq_false_iff, Bool.and_eq_false_iff, decide_eq_false_iff_not,
    beq_eq_false_iff_ne]
  omega

theorem trimChars_of_ink {cs : List Char} (ink : ∀ c ∈ cs, isBlank c = false) :
    trimChars cs = cs := by
  have kept {cs : List Char} (ink : ∀ c ∈ cs, isBlank c = false) : cs.dropWhile isBlank = cs := by
    rw [List.dropWhile_eq_self_iff]
    intro some
    rw [ink _ (List.getElem_mem some)]
    exact Bool.false_ne_true
  rw [trimChars, kept ink, dropEnd, kept fun c member => ink c (List.mem_reverse.mp member),
    List.reverse_reverse]

end Text

namespace Size

theorem isNumeric_of_isDigit {c : Char} (digit : c.isDigit = true) : isNumeric c = true := by
  rw [isNumeric, digit, Bool.true_or]

theorem isBlank_of_isNumeric {c : Char} (numeric : isNumeric c = true) :
    Text.isBlank c = false := by
  rcases Bool.or_eq_true_iff.mp numeric with digit | point
  · have bounds : 48 ≤ c.toNat ∧ c.toNat ≤ 57 := Char.isDigit_iff_toNat.mp digit
    exact Text.isBlank_of_visible (by omega) (by omega)
  · rw [beq_iff_eq.mp point]
    rfl

theorem apart_of_isAlpha {c : Char} (letter : c.isAlpha = true) :
    isNumeric c = false ∧ Text.isBlank c = false := by
  have bounds : 65 ≤ c.toNat ∧ c.toNat ≤ 90 ∨ 97 ≤ c.toNat ∧ c.toNat ≤ 122 := by
    simpa [Char.isAlpha, Char.isUpper, Char.isLower, UInt32.le_iff_toNat_le] using letter
  refine ⟨?_, Text.isBlank_of_visible (by omega) (by omega)⟩
  rw [isNumeric, Bool.or_eq_false_iff, beq_eq_false_iff_ne]
  constructor
  · rw [Bool.eq_false_iff]
    intro digit
    have other : 48 ≤ c.toNat ∧ c.toNat ≤ 57 := Char.isDigit_iff_toNat.mp digit
    omega
  · rintro rfl
    revert bounds
    decide

namespace Decimal

variable {whole fraction : List Char}

theorem ofChars?_digits (digits : ∀ c ∈ whole, c.isDigit = true) (some : whole ≠ []) :
    ofChars? whole = .some ⟨Nat.ofDigitChars 10 whole 0, 0⟩ := by
  simp only [ofChars?, List.takeWhile_eq_self_iff.mpr digits, List.dropWhile_eq_nil_iff.mpr digits,
    List.isEmpty_eq_false_iff.mpr some]
  rfl

theorem ofChars?_point (digits : ∀ c ∈ whole, c.isDigit = true)
    (places : ∀ c ∈ fraction, c.isDigit = true) (some : whole ++ fraction ≠ []) :
    ofChars? (whole ++ '.' :: fraction) =
      .some ⟨Nat.ofDigitChars 10 (whole ++ fraction) 0, fraction.length⟩ := by
  have before : (whole ++ '.' :: fraction).takeWhile Char.isDigit = whole := by
    rw [List.takeWhile_append_of_pos digits, List.takeWhile_cons_of_neg (by decide),
      List.append_nil]
  have after : (whole ++ '.' :: fraction).dropWhile Char.isDigit = '.' :: fraction := by
    rw [List.dropWhile_append_of_pos digits, List.dropWhile_cons_of_neg (by decide)]
  have all : fraction.all Char.isDigit = true := List.all_eq_true.mpr places
  have filled : (whole ++ fraction).isEmpty = false := List.isEmpty_eq_false_iff.mpr some
  simp only [ofChars?, before, after, all, filled]
  rfl

end Decimal

theorem isDigit_of_mem_toDigits {n : Nat} {c : Char} (member : c ∈ Nat.toDigits 10 n) :
    c.isDigit = true :=
  Nat.isDigit_of_mem_toDigits (by decide) (by decide) member

def placesOf (hundredths : Nat) : List Char :=
  Nat.toDigits 10 (hundredths % 100 / 10) ++ Nat.toDigits 10 (hundredths % 100 % 10)

theorem length_placesOf (hundredths : Nat) : (placesOf hundredths).length = 2 := by
  rw [placesOf, List.length_append, Nat.toDigits_of_lt_base (by omega),
    Nat.toDigits_of_lt_base (by omega)]
  rfl

theorem toList_twoPlaces (hundredths : Nat) :
    (twoPlaces hundredths).toList =
      Nat.toDigits 10 (hundredths / 100) ++ '.' :: placesOf hundredths := by
  simp only [twoPlaces, placesOf, String.toList_append, Nat.repr_eq_ofList_toDigits,
    String.toList_ofList, ToString.toString, List.append_assoc]
  rfl

theorem isDigit_of_mem_placesOf {hundredths : Nat} {c : Char} (member : c ∈ placesOf hundredths) :
    c.isDigit = true := by
  rcases List.mem_append.mp member with tenths | last
  · exact isDigit_of_mem_toDigits tenths
  · exact isDigit_of_mem_toDigits last

theorem ofDigitChars_twoPlaces (hundredths : Nat) :
    Nat.ofDigitChars 10 (Nat.toDigits 10 (hundredths / 100) ++ placesOf hundredths) 0 =
      hundredths := by
  rw [Nat.ofDigitChars_append, Nat.ofDigitChars_ten_toDigits, placesOf, Nat.ofDigitChars_append,
    Nat.toDigits_of_lt_base (show hundredths % 100 / 10 < 10 by omega),
    Nat.toDigits_of_lt_base (show hundredths % 100 % 10 < 10 by omega)]
  have value : ∀ digit < 10, (Nat.digitChar digit).toNat - '0'.toNat = digit := by decide
  rw [Nat.ofDigitChars_cons, Nat.ofDigitChars_nil, Nat.ofDigitChars_cons, Nat.ofDigitChars_nil,
    value _ (by omega), value _ (by omega)]
  omega

theorem ofChars?_twoPlaces (hundredths : Nat) :
    Decimal.ofChars? (twoPlaces hundredths).toList = some ⟨hundredths, 2⟩ := by
  rw [toList_twoPlaces, Decimal.ofChars?_point (fun _ => isDigit_of_mem_toDigits)
    (fun _ => isDigit_of_mem_placesOf)
    (List.append_ne_nil_of_left_ne_nil Nat.toDigits_ne_nil _), ofDigitChars_twoPlaces,
    length_placesOf]

theorem isNumeric_of_mem_twoPlaces {hundredths : Nat} {c : Char}
    (member : c ∈ (twoPlaces hundredths).toList) : isNumeric c = true := by
  rw [toList_twoPlaces] at member
  rcases List.mem_append.mp member with whole | rest
  · exact isNumeric_of_isDigit (isDigit_of_mem_toDigits whole)
  · rcases List.mem_cons.mp rest with rfl | place
    · decide
    · exact isNumeric_of_isDigit (isDigit_of_mem_placesOf place)

variable {number : Decimal} {unit : ByteUnit} {bound : Nat}

theorem unit_pos (unit : ByteUnit) : 0 < unit.bytes := by
  cases unit <;> decide

theorem bytesOf_le_limit (number : Decimal) (unit : ByteUnit) : bytesOf number unit ≤ limit :=
  Nat.min_le_left _ _

/-- A bound that needs no rounding holds for the bytes of a quantity as it does for the quantity. -/
theorem bytesOf_le (representable : Rounding.Representable bound)
    (below : number.digits * unit.bytes ≤ bound * 10 ^ number.places) :
    bytesOf number unit ≤ bound := by
  -- With the digits behind the point, which are dropped last, the bound needs no rounding either.
  have rounded := Rounding.significant_le (Nat.pow_pos (by decide))
    (representable.mul_two_pow Rounding.precision)
    (show (number.digits * unit.bytes) * 2 ^ Rounding.precision ≤
        bound * 2 ^ Rounding.precision * 10 ^ number.places by
      rw [Nat.mul_right_comm bound]
      exact Nat.mul_le_mul_right _ below)
  refine Nat.le_trans (Nat.min_le_right _ _) ?_
  rw [Nat.shiftRight_eq_div_pow, Nat.shiftLeft_eq]
  exact Nat.div_le_of_le_mul (Nat.mul_comm bound _ ▸ rounded)

theorem le_bytesOf (representable : Rounding.Representable bound) (fits : bound ≤ limit)
    (above : bound * 10 ^ number.places ≤ number.digits * unit.bytes) :
    bound ≤ bytesOf number unit := by
  have rounded := Rounding.le_significant (Nat.pow_pos (by decide))
    (representable.mul_two_pow Rounding.precision)
    (show bound * 2 ^ Rounding.precision * 10 ^ number.places ≤
        (number.digits * unit.bytes) * 2 ^ Rounding.precision by
      rw [Nat.mul_right_comm bound]
      exact Nat.mul_le_mul_right _ above)
  refine Nat.le_min.mpr ⟨fits, ?_⟩
  rw [Nat.shiftRight_eq_div_pow, Nat.shiftLeft_eq, Nat.le_div_iff_mul_le (Nat.two_pow_pos _)]
  exact rounded

theorem bytesOf_eq (representable : Rounding.Representable bound) (fits : bound ≤ limit)
    (same : number.digits * unit.bytes = bound * 10 ^ number.places) :
    bytesOf number unit = bound :=
  Nat.le_antisymm (bytesOf_le representable (Nat.le_of_eq same))
    (le_bytesOf representable fits (Nat.le_of_eq same.symm))

/-! ## Texts -/

theorem parse_append {number name : String} {value : Decimal} {unit : ByteUnit}
    (numeric : ∀ c ∈ number.toList, isNumeric c = true)
    (letters : name.toList.all Char.isAlpha = true)
    (read : Decimal.ofChars? number.toList = some value)
    (named : ByteUnit.ofName? name.toList = some unit) :
    parse (number ++ name) = .ok (bytesOf value unit) := by
  have other c (member : c ∈ name.toList) :=
    apart_of_isAlpha (List.all_eq_true.mp letters c member)
  have ink : ∀ c ∈ number.toList ++ name.toList, Text.isBlank c = false := by
    intro c member
    rcases List.mem_append.mp member with first | second
    · exact isBlank_of_isNumeric (numeric c first)
    · exact (other c second).2
  have none : name.toList.takeWhile isNumeric = [] := by
    rw [List.takeWhile_eq_nil_iff]
    intro some
    rw [List.get_eq_getElem, (other _ (List.getElem_mem some)).1]
    exact Bool.false_ne_true
  have all : name.toList.dropWhile isNumeric = name.toList := by
    rw [List.dropWhile_eq_self_iff]
    intro some
    rw [(other _ (List.getElem_mem some)).1]
    exact Bool.false_ne_true
  simp only [parse, String.toList_append, Text.trimChars_of_ink ink,
    List.takeWhile_append_of_pos numeric, List.dropWhile_append_of_pos numeric, none, all,
    List.append_nil, Text.trimChars_of_ink fun c member => (other c member).2, read, named]

theorem named_of_mem_steps {step : ByteUnit × String} (member : step ∈ (.peta, "PB") :: steps) :
    ByteUnit.ofName? step.2.toList = some step.1 ∧ step.2.toList.all Char.isAlpha = true := by
  revert step
  decide

theorem formatUnit_mem (value : Nat) : formatUnit value ∈ (.peta, "PB") :: steps := by
  rw [formatUnit]
  cases found : steps.find? fun step => value ≤ stepLimit * step.1.bytes with
  | none => exact List.mem_cons_self
  | some step => exact List.mem_cons_of_mem _ (List.mem_of_find?_eq_some found)

theorem formatUnit_fst (value : Nat) : (formatUnit value).1 =
    if value ≤ stepLimit * ByteUnit.kilo.bytes then .kilo
    else if value ≤ stepLimit * ByteUnit.mega.bytes then .mega
    else if value ≤ stepLimit * ByteUnit.giga.bytes then .giga
    else if value ≤ stepLimit * ByteUnit.tera.bytes then .tera
    else .peta := by
  simp only [formatUnit, steps, List.find?_cons, List.find?_nil]
  split_ifs <;> simp [*]

def hundredths (value : Nat) : Nat :=
  Rounding.nearest (100 * value) (formatUnit value).1.bytes

theorem parse_format_of_le {bytes : Nat} (few : bytes ≤ stepLimit) :
    parse (format bytes) = .ok bytes := by
  have written : (toString bytes).toList = Nat.toDigits 10 bytes := by
    rw [Nat.toString_eq_repr, Nat.repr_eq_ofList_toDigits, String.toList_ofList]
  have digits : ∀ c ∈ (toString bytes).toList, c.isDigit = true := by
    rw [written]
    exact fun _ => isDigit_of_mem_toDigits
  have shown : format bytes = toString bytes ++ "B" := by
    rw [format, if_pos few]
    rfl
  have read : Decimal.ofChars? (toString bytes).toList = some ⟨bytes, 0⟩ := by
    have some : (toString bytes).toList ≠ [] := by
      rw [written]
      exact Nat.toDigits_ne_nil
    rw [Decimal.ofChars?_digits digits some, written, Nat.ofDigitChars_ten_toDigits]
  have value : bytesOf ⟨bytes, 0⟩ .byte = bytes := by
    have small : bytes < 2 ^ 53 := Nat.lt_of_le_of_lt few (by decide)
    exact bytesOf_eq (Rounding.representable_of_lt small) (Nat.le_trans few (by decide)) rfl
  rw [shown, parse_append (fun c member => isNumeric_of_isDigit (digits c member)) (by decide)
    read rfl, value]

theorem parse_format_of_lt {bytes : Nat} (many : stepLimit < bytes) :
    parse (format bytes) = .ok (bytesOf ⟨hundredths (Rounding.significant bytes 1), 2⟩
      (formatUnit (Rounding.significant bytes 1)).1) := by
  have named := named_of_mem_steps (formatUnit_mem (Rounding.significant bytes 1))
  rw [format, if_neg (Nat.not_le_of_lt many)]
  exact parse_append (fun _ => isNumeric_of_mem_twoPlaces) named.2 (ofChars?_twoPlaces _) named.1

theorem parse_le_limit {text : String} {bytes : Nat} (read : parse text = .ok bytes) :
    bytes ≤ limit := by
  simp only [parse] at read
  split at read
  · obtain rfl := Except.ok.inj read
    exact bytesOf_le_limit _ _
  · cases read

end Size

end Muster
