import Mathlib
import Muster.Proofs.SizeText

/-!
The texts that are read as sizes: a decimal number, perhaps white space, and perhaps the name of a
unit. A text is read exactly when it has this form between the white space at its ends, and any
other text is reported without that white space.
-/

namespace Muster

namespace Text

/-- What is left of some characters when the white space at both ends is taken away. -/
structure Trims (cs trimmed : List Char) : Prop where
  ends : ∃ before after, cs = before ++ trimmed ++ after ∧
    (∀ c ∈ before, isBlank c = true) ∧ ∀ c ∈ after, isBlank c = true
  first : ∀ c ∈ trimmed.head?, isBlank c = false
  last : ∀ c ∈ trimmed.getLast?, isBlank c = false

variable {cs rest : List Char}

theorem first_dropWhile {drop : Char → Bool} : ∀ c ∈ (cs.dropWhile drop).head?, drop c = false := by
  have first := List.head?_dropWhile_not drop cs
  intro c member
  rwa [Option.mem_def.mp member] at first

theorem last_dropEnd {drop : Char → Bool} : ∀ c ∈ (dropEnd drop cs).getLast?, drop c = false := by
  rw [dropEnd, List.getLast?_reverse]
  exact first_dropWhile

theorem dropEnd_append (drop : Char → Bool) (cs : List Char) :
    ∃ after, dropEnd drop cs ++ after = cs ∧ ∀ c ∈ after, drop c = true :=
  ⟨cs.rtakeWhile drop, List.rdropWhile_append_rtakeWhile, fun _ => List.mem_rtakeWhile_imp⟩

theorem trims_trimChars (cs : List Char) : Trims cs (trimChars cs) := by
  obtain ⟨after, split, blank⟩ := dropEnd_append isBlank (cs.dropWhile isBlank)
  refine ⟨⟨cs.takeWhile isBlank, after, ?_, fun _ => List.mem_takeWhile_imp, blank⟩, ?_,
    last_dropEnd⟩
  · rw [trimChars, List.append_assoc, split, List.takeWhile_append_dropWhile]
  · -- What is cut off at the end leaves the first character where it is.
    intro c member
    apply first_dropWhile c
    rw [← split]
    exact List.mem_head?_append_of_mem_head? member

theorem trimChars_rest {front : List Char}
    (last : ∀ c ∈ (front ++ rest).getLast?, isBlank c = false) :
    trimChars rest = rest.dropWhile isBlank := by
  rw [trimChars]
  refine List.rdropWhile_eq_self_iff.mpr fun some => ?_
  rw [last _ ?_]
  · exact Bool.false_ne_true
  · have split : front ++ rest =
        front ++ rest.takeWhile isBlank ++ rest.dropWhile isBlank := by
      rw [List.append_assoc, List.takeWhile_append_dropWhile]
    rw [split, List.getLast?_append_of_ne_nil _ some]
    exact List.getLast?_eq_some_getLast some

end Text

namespace Size

variable {cs text number gap name : List Char} {quantity : ℚ} {unit : ByteUnit} {s : String}

def ofDigits (digits : List Char) : Nat :=
  Nat.ofDigitChars 10 digits 0

/-- The characters of a decimal number: digits, or digits on at least one side of a point. -/
inductive Numeral : List Char → ℚ → Prop
  | whole {digits : List Char} (some : digits ≠ []) (all : ∀ c ∈ digits, c.isDigit = true) :
      Numeral digits (ofDigits digits)
  | point {whole fraction : List Char} (some : whole ++ fraction ≠ [])
      (before : ∀ c ∈ whole, c.isDigit = true) (behind : ∀ c ∈ fraction, c.isDigit = true) :
      Numeral (whole ++ '.' :: fraction) (ofDigits whole + ofDigits fraction / 10 ^ fraction.length)

def Decimal.value (number : Decimal) : ℚ :=
  number.digits / 10 ^ number.places

theorem Decimal.value_point (whole fraction : List Char) :
    Decimal.value ⟨ofDigits (whole ++ fraction), fraction.length⟩ =
      ofDigits whole + ofDigits fraction / 10 ^ fraction.length := by
  have digits : ofDigits (whole ++ fraction) =
      10 ^ fraction.length * ofDigits whole + ofDigits fraction := by
    rw [ofDigits, Nat.ofDigitChars_append, Nat.ofDigitChars_eq_ofDigitChars_zero]
    rfl
  rw [Decimal.value, digits]
  push_cast
  field_simp

theorem numeral_of_ofChars? {decimal : Decimal} (read : Decimal.ofChars? cs = some decimal) :
    Numeral cs decimal.value := by
  have split : cs.takeWhile Char.isDigit ++ cs.dropWhile Char.isDigit = cs :=
    List.takeWhile_append_dropWhile
  have whole : ∀ c ∈ cs.takeWhile Char.isDigit, c.isDigit = true :=
    fun _ => List.mem_takeWhile_imp
  simp only [Decimal.ofChars?] at read
  split at read
  · rename_i none
    rw [none, List.append_nil] at split
    split at read
    · cases read
    · rename_i some
      obtain rfl := Option.some.inj read
      rw [split] at whole some ⊢
      rw [Decimal.value, pow_zero, div_one]
      exact .whole (by simpa using some) whole
  · rename_i fraction point
    split at read
    · rename_i checked
      obtain rfl := Option.some.inj read
      simp only [Bool.and_eq_true, List.all_eq_true, Bool.not_eq_true', List.isEmpty_eq_false_iff]
        at checked
      rw [point] at split
      have number := Numeral.point checked.2 whole checked.1
      rw [split] at number
      exact Decimal.value_point _ _ ▸ number
    · cases read
  · cases read

theorem Numeral.ofChars? (numeral : Numeral cs quantity) :
    ∃ decimal, Decimal.ofChars? cs = some decimal ∧ decimal.value = quantity := by
  cases numeral with
  | whole some all =>
      refine ⟨_, Decimal.ofChars?_digits all some, ?_⟩
      rw [Decimal.value, pow_zero, div_one]
      rfl
  | point some before behind =>
      exact ⟨_, Decimal.ofChars?_point before behind some, Decimal.value_point _ _⟩

theorem Numeral.isNumeric (numeral : Numeral cs quantity) : ∀ c ∈ cs, isNumeric c = true := by
  cases numeral with
  | whole _ all => exact fun c member => isNumeric_of_isDigit (all c member)
  | point _ before behind =>
      intro c member
      rcases List.mem_append.mp member with whole | rest
      · exact isNumeric_of_isDigit (before c whole)
      · rcases List.mem_cons.mp rest with rfl | fraction
        · rfl
        · exact isNumeric_of_isDigit (behind c fraction)

def ByteUnit.names : ByteUnit → List (List Char)
  | .byte => [[], ['B']]
  | .kilo => [['K'], ['K', 'B']]
  | .mega => [['M'], ['M', 'B']]
  | .giga => [['G'], ['G', 'B']]
  | .tera => [['T'], ['T', 'B']]
  | .peta => [['P'], ['P', 'B']]

def Spells (cs : List Char) (unit : ByteUnit) : Prop :=
  ∃ name ∈ unit.names, List.Forall₂ (fun c letter => c = letter ∨ c = letter.toLower) cs name

theorem isUpper_of_mem_names (member : name ∈ unit.names) :
    ∀ letter ∈ name, letter.isUpper = true := by
  have all : (unit.names.all fun name => name.all Char.isUpper) = true := by
    cases unit <;> rfl
  exact List.all_eq_true.mp (List.all_eq_true.mp all name member)

theorem toUpper_eq_iff {c letter : Char} (capital : letter.isUpper = true) :
    c.toUpper = letter ↔ c = letter ∨ c = letter.toLower := by
  have fixed : letter.toUpper = letter :=
    Char.toUpper_eq_of_not_isLower (Char.not_isLower_of_isUpper capital)
  constructor
  · rintro rfl
    by_cases small : c.isLower = true
    · right
      rw [Char.toLower_toUpper_eq_toLower,
        Char.toLower_eq_of_not_isUpper (Char.not_isUpper_of_isLower small)]
    · exact .inl (Char.toUpper_eq_of_not_isLower small).symm
  · rintro (rfl | rfl)
    · exact fixed
    · rw [Char.toUpper_toLower_eq_toUpper, fixed]

theorem map_toUpper_eq_iff (capital : ∀ letter ∈ name, letter.isUpper = true) :
    cs.map Char.toUpper = name ↔
      List.Forall₂ (fun c letter => c = letter ∨ c = letter.toLower) cs name := by
  induction cs generalizing name with
  | nil => rw [List.map_nil, List.forall₂_nil_left_iff, eq_comm]
  | cons c rest ih =>
      cases name with
      | nil => simp
      | cons letter letters =>
          have tail := ih fun other member => capital other (List.mem_cons_of_mem _ member)
          rw [List.map_cons, List.cons.injEq, List.forall₂_cons, tail,
            toUpper_eq_iff (capital letter List.mem_cons_self)]

theorem ofName?_eq_some_iff_mem :
    ByteUnit.ofName? cs = some unit ↔ cs.map Char.toUpper ∈ unit.names := by
  constructor
  · intro named
    simp only [ByteUnit.ofName?] at named
    split at named <;> cases named <;> rename_i upper <;> rw [upper] <;> decide
  · intro member
    cases unit <;>
      simp only [ByteUnit.names, List.mem_cons, List.not_mem_nil, or_false] at member <;>
      rcases member with upper | upper <;> simp only [ByteUnit.ofName?, upper]

theorem ofName?_eq_some_iff : ByteUnit.ofName? cs = some unit ↔ Spells cs unit := by
  rw [ofName?_eq_some_iff_mem]
  constructor
  · intro member
    exact ⟨_, member, (map_toUpper_eq_iff (isUpper_of_mem_names member)).mp rfl⟩
  · rintro ⟨name, member, spelled⟩
    rwa [(map_toUpper_eq_iff (isUpper_of_mem_names member)).mpr spelled]

theorem Spells.isAlpha (spells : Spells cs unit) : ∀ c ∈ cs, c.isAlpha = true := by
  rw [← ofName?_eq_some_iff, ofName?_eq_some_iff_mem] at spells
  intro c member
  have upper := isUpper_of_mem_names spells _ (List.mem_map_of_mem (f := Char.toUpper) member)
  rwa [Char.isUpper_toUpper_eq_isAlpha] at upper

/-! ## Texts -/

/-- The characters of a size: a number, white space and a name, where the last two may be missing. -/
inductive Written : List Char → ℚ → ByteUnit → Prop
  | intro {number gap name : List Char} {quantity : ℚ} {unit : ByteUnit}
      (numeral : Numeral number quantity) (blank : ∀ c ∈ gap, Text.isBlank c = true)
      (spells : Spells name unit) : Written (number ++ gap ++ name) quantity unit

theorem isNumeric_of_isBlank {c : Char} (blank : Text.isBlank c = true) : isNumeric c = false := by
  by_contra numeric
  rw [isBlank_of_isNumeric (by simpa using numeric)] at blank
  cases blank

theorem Written.parts (written : Written text quantity unit) :
    ∃ decimal, Decimal.ofChars? (text.takeWhile isNumeric) = some decimal ∧
      decimal.value = quantity ∧
      ByteUnit.ofName? (Text.trimChars (text.dropWhile isNumeric)) = some unit := by
  cases written with
  | @intro number gap name _ _ numeral blank spells =>
      obtain ⟨decimal, read, same⟩ := numeral.ofChars?
      have other c (member : c ∈ name) := apart_of_isAlpha (spells.isAlpha c member)
      have stops : ∀ c ∈ gap ++ name, isNumeric c = false := by
        intro c member
        rcases List.mem_append.mp member with between | letter
        · exact isNumeric_of_isBlank (blank c between)
        · exact (other c letter).1
      have before : (number ++ gap ++ name).takeWhile isNumeric = number := by
        rw [List.append_assoc, List.takeWhile_append_of_pos numeral.isNumeric,
          List.takeWhile_eq_nil_iff.mpr, List.append_nil]
        intro some
        rw [List.get_eq_getElem, stops _ (List.getElem_mem some)]
        exact Bool.false_ne_true
      have behind : (number ++ gap ++ name).dropWhile isNumeric = gap ++ name := by
        rw [List.append_assoc, List.dropWhile_append_of_pos numeral.isNumeric,
          List.dropWhile_eq_self_iff]
        intro some
        rw [stops _ (List.getElem_mem some)]
        exact Bool.false_ne_true
      have trimmed : Text.trimChars (gap ++ name) = name := by
        rw [Text.trimChars, List.dropWhile_append_of_pos blank]
        exact Text.trimChars_of_ink fun c member => (other c member).2
      refine ⟨decimal, ?_, same, ?_⟩
      · rw [before, read]
      · rw [behind, trimmed, ofName?_eq_some_iff]
        exact spells

theorem written_of_parts {decimal : Decimal}
    (last : ∀ c ∈ text.getLast?, Text.isBlank c = false)
    (read : Decimal.ofChars? (text.takeWhile isNumeric) = some decimal)
    (named : ByteUnit.ofName? (Text.trimChars (text.dropWhile isNumeric)) = some unit) :
    Written text decimal.value unit := by
  let rest := text.dropWhile isNumeric
  have split : text.takeWhile isNumeric ++ rest = text := List.takeWhile_append_dropWhile
  have inner : rest.takeWhile Text.isBlank ++ rest.dropWhile Text.isBlank = rest :=
    List.takeWhile_append_dropWhile
  have trimmed : Text.trimChars rest = rest.dropWhile Text.isBlank :=
    Text.trimChars_rest (split.symm ▸ last)
  have whole : text.takeWhile isNumeric ++ rest.takeWhile Text.isBlank ++
      rest.dropWhile Text.isBlank = text := by
    rw [List.append_assoc, inner, split]
  have spells : Spells (rest.dropWhile Text.isBlank) unit := by
    rw [← ofName?_eq_some_iff, ← trimmed]
    exact named
  rw [← whole]
  exact .intro (numeral_of_ofChars? read) (fun _ => List.mem_takeWhile_imp) spells

/-! ## Reading -/

theorem parse_eq_ok_iff {bytes : Nat} :
    parse s = .ok bytes ↔ ∃ decimal unit,
      Decimal.ofChars? ((Text.trimChars s.toList).takeWhile isNumeric) = some decimal ∧
      ByteUnit.ofName? (Text.trimChars ((Text.trimChars s.toList).dropWhile isNumeric)) =
        some unit ∧ bytesOf decimal unit = bytes := by
  simp only [parse]
  split
  · rename_i decimal unit read named
    simp [read, named]
  · rename_i none
    constructor
    · rintro ⟨⟩
    · rintro ⟨decimal, unit, read, named, _⟩
      exact (none decimal unit read named).elim

theorem exists_parse_iff :
    (∃ bytes, parse s = .ok bytes) ↔
      ∃ quantity unit, Written (Text.trimChars s.toList) quantity unit := by
  constructor
  · rintro ⟨bytes, read⟩
    obtain ⟨decimal, unit, number, named, _⟩ := parse_eq_ok_iff.mp read
    exact ⟨_, unit, written_of_parts (Text.trims_trimChars _).last number named⟩
  · rintro ⟨quantity, unit, written⟩
    obtain ⟨decimal, number, _, named⟩ := written.parts
    exact ⟨_, parse_eq_ok_iff.mpr ⟨decimal, unit, number, named, rfl⟩⟩

theorem eq_of_parse_error {error : Invalid} (refused : parse s = .error error) :
    error = ⟨String.ofList (Text.trimChars s.toList)⟩ := by
  simp only [parse] at refused
  split at refused
  · cases refused
  · exact (Except.error.inj refused).symm

def Usable (c : Char) : Prop :=
  isNumeric c = true ∨ Text.isBlank c = true ∨ c.toUpper ∈ ['B', 'K', 'M', 'G', 'T', 'P']

theorem Spells.letters (spells : Spells cs unit) :
    ∀ c ∈ cs, c.toUpper ∈ ['B', 'K', 'M', 'G', 'T', 'P'] := by
  rw [← ofName?_eq_some_iff, ofName?_eq_some_iff_mem] at spells
  have all : (unit.names.all fun name =>
      name.all fun c => ['B', 'K', 'M', 'G', 'T', 'P'].contains c) = true := by
    cases unit <;> rfl
  intro c member
  have upper := List.all_eq_true.mp (List.all_eq_true.mp all _ spells) _
    (List.mem_map_of_mem (f := Char.toUpper) member)
  exact List.contains_iff_mem.mp upper

theorem Written.usable (written : Written text quantity unit) : ∀ c ∈ text, Usable c := by
  cases written with
  | intro numeral blank spells =>
      intro c member
      rcases List.mem_append.mp member with front | letter
      · rcases List.mem_append.mp front with numeric | between
        · exact .inl (numeral.isNumeric c numeric)
        · exact .inr (.inl (blank c between))
      · exact .inr (.inr (spells.letters c letter))

theorem count_point_of_isDigit (all : ∀ c ∈ cs, c.isDigit = true) : cs.count '.' = 0 :=
  List.count_eq_zero.mpr fun member => absurd (all _ member) (by decide)

theorem Numeral.count_point_le (numeral : Numeral cs quantity) : cs.count '.' ≤ 1 := by
  cases numeral with
  | whole _ all => exact (count_point_of_isDigit all).trans_le (Nat.zero_le 1)
  | point _ before behind =>
      rw [List.count_append, List.count_cons_self, count_point_of_isDigit before,
        count_point_of_isDigit behind]

theorem Written.count_point_le (written : Written text quantity unit) : text.count '.' ≤ 1 := by
  cases written with
  | @intro number gap name _ _ numeral blank spells =>
      have between : gap.count '.' = 0 :=
        List.count_eq_zero.mpr fun member => absurd (blank _ member) (by decide)
      have behind : name.count '.' = 0 :=
        List.count_eq_zero.mpr fun member => absurd (spells.isAlpha _ member) (by decide)
      rw [List.count_append, List.count_append, between, behind]
      exact numeral.count_point_le

/-- A text is read exactly when what is left of it without the white space at its ends is a size,
and otherwise this is what is reported. So a text with a second point is refused, and so is one with
a sign, the letter of an exponent or a digit of another script. -/
theorem parse_accepts_exactly (s : String) :
    Text.Trims s.toList (Text.trimChars s.toList) ∧
      ((∃ bytes, parse s = .ok bytes) ↔
        ∃ quantity unit, Written (Text.trimChars s.toList) quantity unit) ∧
      (∀ error, parse s = .error error → error = ⟨String.ofList (Text.trimChars s.toList)⟩) ∧
      ∀ bytes, parse s = .ok bytes →
        (∀ c ∈ Text.trimChars s.toList, Usable c) ∧ (Text.trimChars s.toList).count '.' ≤ 1 := by
  refine ⟨Text.trims_trimChars _, exists_parse_iff, fun _ => eq_of_parse_error, ?_⟩
  intro bytes read
  obtain ⟨quantity, unit, written⟩ := exists_parse_iff.mp ⟨bytes, read⟩
  exact ⟨written.usable, written.count_point_le⟩

example : parse "\u00a0.5 gB\n" = .ok 536870912 ∧ parse " 1e3 " = .error ⟨"1e3"⟩ := by
  decide +kernel

end Size

end Muster
