import Muster.Proofs.TomlText

/-!
TOML documents of sections are read back as they were written: counts in decimal digits, settings
on a line each, sections under headers with empty lines between them.
-/

namespace Muster.Toml

variable {c : Char} {cs rest : List Char}

theorem ne_of_isDigit (digit : c.isDigit = true) {other : Char} (no : other.isDigit = false) :
    c ≠ other := by
  rintro rfl
  rw [digit] at no
  cases no

theorem moreDigits_append (digits : ∀ c ∈ cs, c.isDigit = true) :
    moreDigits Char.isDigit (cs ++ '\n' :: rest) = (cs, '\n' :: rest) := by
  induction cs with
  | nil =>
      rw [List.nil_append, moreDigits]
      · rfl
      · simp
  | cons c cs ih =>
      have digit := digits c List.mem_cons_self
      have others := ih fun d member => digits d (List.mem_cons_of_mem _ member)
      rw [List.cons_append, moreDigits]
      · rw [digit, others]
        rfl
      · exact fun _ _ same => absurd same (ne_of_isDigit digit rfl)

theorem leading_toDigits (n : Nat) (positive : 0 < n) :
    ∃ c cs, Nat.toDigits 10 n = c :: cs ∧ c ≠ '0' := by
  induction n using Nat.strongRecOn with
  | ind n ih =>
      rw [Nat.toDigits_eq_if (by decide)]
      split
      · rename_i small
        have leading : ∀ digit < 10, 0 < digit → Nat.digitChar digit ≠ '0' := by decide
        exact ⟨_, [], rfl, leading n small positive⟩
      · obtain ⟨c, cs, digits, leading⟩ := ih (n / 10) (by omega) (by omega)
        rw [digits]
        exact ⟨c, _, rfl, leading⟩

theorem wholeDigits?_toDigits (n : Nat) (rest : List Char) :
    wholeDigits? (Nat.toDigits 10 n ++ '\n' :: rest) = some (Nat.toDigits 10 n, '\n' :: rest) := by
  by_cases zero : n = 0
  · subst zero
    rfl
  · obtain ⟨c, cs, written, leading⟩ := leading_toDigits n (by omega)
    have digits : ∀ d ∈ c :: cs, d.isDigit = true := by
      rw [← written]
      exact fun d => Nat.isDigit_of_mem_toDigits (by decide) (by decide)
    have more : moreDigits Char.isDigit (cs ++ '\n' :: rest) = (cs, '\n' :: rest) :=
      moreDigits_append fun d member => digits d (List.mem_cons_of_mem _ member)
    rw [written, List.cons_append, wholeDigits?]
    · rw [digits?, digits c List.mem_cons_self, more]
      rfl
    · exact fun _ same => leading (List.cons.inj same).1

theorem twoDigits?_digits {low high value : Nat} {left : List Char}
    (digits : ∀ c ∈ cs, c.isDigit = true)
    (read : twoDigits? low high (cs ++ '\n' :: rest) = some (value, left)) :
    ∃ ds, (∀ c ∈ ds, c.isDigit = true) ∧ left = ds ++ '\n' :: rest := by
  match cs with
  | [] =>
      cases rest with
      | nil => cases read
      | cons d rest => simp [twoDigits?] at read
  | [c] => simp [twoDigits?] at read
  | c :: d :: ds =>
      simp only [List.cons_append, twoDigits?] at read
      split at read
      · cases read
        exact ⟨ds, fun e member => digits e (List.mem_cons_of_mem _ (List.mem_cons_of_mem _ member)),
          rfl⟩
      · cases read

theorem expect?_digits (mark : Char) (digits : ∀ c ∈ cs, c.isDigit = true)
    (undigit : mark.isDigit = false) (unbroken : '\n' ≠ mark) :
    expect? mark (cs ++ '\n' :: rest) = none := by
  cases cs with
  | nil => exact if_neg unbroken
  | cons c cs => exact if_neg (ne_of_isDigit (digits c List.mem_cons_self) undigit)

theorem moment?_digits (digits : ∀ c ∈ cs, c.isDigit = true) :
    moment? (cs ++ '\n' :: rest) = none := by
  have undated : date? (cs ++ '\n' :: rest) = none := by
    unfold date?
    cases first : twoDigits? 0 99 (cs ++ '\n' :: rest) with
    | none => rfl
    | some read =>
        obtain ⟨century, left⟩ := read
        obtain ⟨ds, more, rfl⟩ := twoDigits?_digits digits first
        cases second : twoDigits? 0 99 (ds ++ '\n' :: rest) with
        | none => simp [second]
        | some read =>
            obtain ⟨year, left⟩ := read
            obtain ⟨es, last, rfl⟩ := twoDigits?_digits more second
            simp [second, expect?_digits '-' last rfl (by decide)]
  have untimed : time? (cs ++ '\n' :: rest) = none := by
    unfold time? hourMinute?
    cases first : twoDigits? 0 23 (cs ++ '\n' :: rest) with
    | none => rfl
    | some read =>
        obtain ⟨hour, left⟩ := read
        obtain ⟨ds, more, rfl⟩ := twoDigits?_digits digits first
        simp [expect?_digits ':' more rfl (by decide)]
  rw [moment?, undated]
  exact untimed

theorem ne_cons_of_digits (digits : ∀ c ∈ cs, c.isDigit = true) {c : Char}
    (undigit : c.isDigit = false) (unbroken : '\n' ≠ c) (more : List Char) :
    cs ++ '\n' :: rest ≠ c :: more := by
  cases cs with
  | nil => exact fun same => unbroken (List.cons.inj same).1
  | cons d cs =>
      exact fun same => ne_of_isDigit (digits d List.mem_cons_self) undigit (List.cons.inj same).1

theorem ne_cons_cons_of_digits (some : cs ≠ []) (digits : ∀ c ∈ cs, c.isDigit = true) {c : Char}
    (undigit : c.isDigit = false) (unbroken : '\n' ≠ c) (first : Char) (more : List Char) :
    cs ++ '\n' :: rest ≠ first :: c :: more := by
  cases cs with
  | nil => exact absurd rfl some
  | cons d cs =>
      have others : cs ++ '\n' :: rest ≠ c :: more :=
        ne_cons_of_digits (fun e member => digits e (List.mem_cons_of_mem d member)) undigit
          unbroken more
      exact fun same => others (List.cons.inj same).2

theorem number?_toDigits {n : Nat} (fits : (n : Int) ≤ Int64.maxValue.toInt) (rest : List Char) :
    number? (Nat.toDigits 10 n ++ '\n' :: rest) = some (.integer n, '\n' :: rest) := by
  have digits : ∀ c ∈ Nat.toDigits 10 n, c.isDigit = true :=
    fun c => Nat.isDigit_of_mem_toDigits (by decide) (by decide)
  have some : Nat.toDigits 10 n ≠ [] := Nat.toDigits_ne_nil
  have whole := wholeDigits?_toDigits n rest
  have value := @Nat.ofDigitChars_ten_toDigits n
  have held : integerIn64? n = .some (.integer n) := by
    have least : Int64.minValue.toInt ≤ 0 := by decide
    rw [integerIn64?, if_pos ⟨by omega, fits⟩]
  generalize Nat.toDigits 10 n = written at *
  have unsigned : sign (written ++ '\n' :: rest) = (false, written ++ '\n' :: rest) := by
    rw [sign]
    · exact fun _ => ne_cons_of_digits digits rfl (by decide) _
    · exact fun _ => ne_cons_of_digits digits rfl (by decide) _
  rw [number?]
  · rw [unsigned]
    simp only
    split
    · rename_i same
      exact absurd same (ne_cons_of_digits digits rfl (by decide) _)
    · rename_i same
      exact absurd same (ne_cons_of_digits digits rfl (by decide) _)
    · rw [whole]
      simp [value, held]
  -- No mark of another base follows the first digit.
  · exact fun _ => ne_cons_cons_of_digits some digits rfl (by decide) _ _
  · exact fun _ => ne_cons_cons_of_digits some digits rfl (by decide) _ _
  · exact fun _ => ne_cons_cons_of_digits some digits rfl (by decide) _ _

theorem scalar?_toDigits {n : Nat} (fits : (n : Int) ≤ Int64.maxValue.toInt) (rest : List Char) :
    scalar? (Nat.toDigits 10 n ++ '\n' :: rest) = some (.integer n, '\n' :: rest) := by
  have digits : ∀ c ∈ Nat.toDigits 10 n, c.isDigit = true :=
    fun c => Nat.isDigit_of_mem_toDigits (by decide) (by decide)
  have number := number?_toDigits fits rest
  have moment : moment? (Nat.toDigits 10 n ++ '\n' :: rest) = none := moment?_digits digits
  obtain ⟨c, cs, written⟩ := List.exists_cons_of_ne_nil (@Nat.toDigits_ne_nil n 10)
  have digit : c.isDigit = true := digits c (written ▸ List.mem_cons_self)
  rw [written, List.cons_append] at moment number ⊢
  rw [scalar?, moment]
  · exact number
  all_goals
    intro _ same
    exact ne_of_isDigit digit rfl (List.cons.inj same).1

/-! ## Lines -/

/-- How a value is shown on the rest of a line. -/
structure Shows (shown : List Char) (value : Value) : Prop where
  read : ∀ rest, scalar? (shown ++ '\n' :: rest) = some (value, '\n' :: rest)
  head : ∃ c cs, shown = c :: cs ∧ isSpace c = false ∧ c ≠ '[' ∧ c ≠ '\x7b'

theorem shows_text (text : String) :
    Shows ((Style.choose text.toList).write text.toList) (.text text) := by
  have read := text?_write text.toList
  obtain ⟨c, cs, written, quote⟩ : ∃ c cs, (Style.choose text.toList).write text.toList = c :: cs ∧
      (c = '"' ∨ c = '\'') := by
    cases Style.choose text.toList with
    | basic => exact ⟨'"', _, rfl, .inl rfl⟩
    | literal => exact ⟨'\'', _, rfl, .inr rfl⟩
    | multilineBasic => exact ⟨'"', _, rfl, .inl rfl⟩
    | multilineLiteral => exact ⟨'\'', _, rfl, .inr rfl⟩
  rw [written] at read ⊢
  constructor
  · intro rest
    have text := read rest
    rw [List.cons_append] at text ⊢
    rcases quote with rfl | rfl
    · rw [scalar?, text]
      simp
    · rw [scalar?, text]
      simp
  · refine ⟨c, cs, rfl, ?_⟩
    rcases quote with rfl | rfl
    · decide
    · decide

theorem shows_count (count : UInt32) :
    Shows (Nat.toDigits 10 count.toNat) (.integer count.toNat) := by
  have below := count.toNat_lt
  have most : Int64.maxValue.toInt = 9223372036854775807 := by decide
  constructor
  · exact scalar?_toDigits (by omega)
  · obtain ⟨c, cs, written⟩ := List.exists_cons_of_ne_nil (@Nat.toDigits_ne_nil count.toNat 10)
    have digit : c.isDigit = true :=
      Nat.isDigit_of_mem_toDigits (by decide) (by decide) (written ▸ List.mem_cons_self)
    refine ⟨c, cs, written, ?_, ne_of_isDigit digit rfl, ne_of_isDigit digit rfl⟩
    simp [isSpace, ne_of_isDigit digit]

def isBare (name : String) : Bool :=
  !name.toList.isEmpty && name.toList.all isBareKeyChar

theorem exists_of_isBare {name : String} (bare : isBare name = true) :
    ∃ c cs, name.toList = c :: cs ∧ isBareKeyChar c = true := by
  simp only [isBare, Bool.and_eq_true, Bool.not_eq_true', List.all_eq_true] at bare
  cases letters : name.toList with
  | nil => simp [letters] at bare
  | cons c cs =>
      rw [letters] at bare
      exact ⟨c, cs, rfl, bare.2 c List.mem_cons_self⟩

theorem ne_of_bare (bare : isBareKeyChar c = true) {other : Char}
    (no : isBareKeyChar other = false) : c ≠ other := by
  rintro rfl
  rw [bare] at no
  cases no

theorem skipSpace_cons (shown : isSpace c = false) : skipSpace (c :: cs) = c :: cs :=
  List.dropWhile_cons_of_neg (by simp [shown])

theorem simpleKey?_bare {name : String} (bare : isBare name = true)
    (ended : isBareKeyChar c = false) :
    simpleKey? (name.toList ++ c :: rest) = some (name, c :: rest) := by
  obtain ⟨first, others, letters, start⟩ := exists_of_isBare bare
  simp only [isBare, Bool.and_eq_true, List.all_eq_true] at bare
  have taken : (name.toList ++ c :: rest).takeWhile isBareKeyChar = name.toList := by
    rw [List.takeWhile_append_of_pos bare.2, List.takeWhile_cons_of_neg (by simp [ended]),
      List.append_nil]
  have left : (name.toList ++ c :: rest).dropWhile isBareKeyChar = c :: rest := by
    rw [List.dropWhile_append_of_pos bare.2, List.dropWhile_cons_of_neg (by simp [ended])]
  rw [simpleKey?, taken, left]
  · rw [letters]
    simp only
    rw [← letters, String.ofList_toList]
  · rw [letters]
    exact fun _ same => ne_of_bare start rfl (List.cons.inj same).1
  · rw [letters]
    exact fun _ same => ne_of_bare start rfl (List.cons.inj same).1

theorem key?_bare {name : String} (bare : isBare name = true) (limit : Nat)
    (ended : isBareKeyChar c = false) (last : ∀ more, skipSpace (c :: rest) ≠ '.' :: more) :
    key? (limit + 1) (name.toList ++ c :: rest) = some (([], name), skipSpace (c :: rest)) := by
  have simple : simpleKey? (name.toList ++ c :: rest) = some (name, c :: rest) :=
    simpleKey?_bare bare ended
  obtain ⟨first, others, letters, start⟩ := exists_of_isBare bare
  have unspaced : isSpace first = false := by
    have blank : first ≠ ' ' := ne_of_bare start rfl
    have tab : first ≠ '\t' := ne_of_bare start rfl
    simp [isSpace, blank, tab]
  have begun : skipSpace (name.toList ++ c :: rest) = name.toList ++ c :: rest := by
    rw [letters]
    exact skipSpace_cons unspaced
  rw [key?, begun, simple]
  simp only [Option.bind_eq_bind, Option.bind_some]
  rfl

theorem endLine?_feed (rest : List Char) : endLine? ('\n' :: rest) = some rest := rfl

theorem line?_setting {name : String} (bare : isBare name = true) {shown : List Char}
    {value : Value} (shows : Shows shown value) {document next : Document}
    (added : document.add [] name value = some next) (rest : List Char) :
    line? document (name.toList ++ ' ' :: '=' :: ' ' :: (shown ++ '\n' :: rest)) =
      some (next, rest) := by
  obtain ⟨first, others, letters, start⟩ := exists_of_isBare bare
  obtain ⟨c, cs, written, unspaced, unlisted, untabled⟩ := shows.head
  have key : key? maxDepth (name.toList ++ ' ' :: '=' :: ' ' :: (shown ++ '\n' :: rest)) =
      some (([], name), '=' :: ' ' :: (shown ++ '\n' :: rest)) :=
    key?_bare bare 78 rfl (fun _ => by simp [skipSpace, isSpace])
  have begun : skipSpace (' ' :: (shown ++ '\n' :: rest)) = shown ++ '\n' :: rest := by
    rw [written]
    exact skipSpace_cons unspaced
  have valued : value? maxDepth (shown ++ '\n' :: rest) = some (value, '\n' :: rest) := by
    rw [← shows.read rest, written, List.cons_append]
    change value? (78 + 1) _ = _
    rw [value?]
    · exact fun _ same => unlisted (List.cons.inj same).1
    · exact fun _ same => untabled (List.cons.inj same).1
  have entry : keyValue? (value? maxDepth)
      (name.toList ++ ' ' :: '=' :: ' ' :: (shown ++ '\n' :: rest)) =
        some ((([], name), value), '\n' :: rest) := by
    rw [keyValue?, key]
    simp only [Option.bind_eq_bind, Option.bind_some, begun, valued]
    rfl
  have unbracketed {more : List Char} :
      name.toList ++ ' ' :: '=' :: ' ' :: (shown ++ '\n' :: rest) ≠ '[' :: more := by
    rw [letters]
    exact fun same => ne_of_bare start rfl (List.cons.inj same).1
  rw [line?, entry]
  · simp only [Option.bind_eq_bind, Option.bind_some, added, endLine?_feed]
    rfl
  · exact fun _ => unbracketed
  · exact fun _ => unbracketed

theorem line?_header {name : String} (bare : isBare name = true) {document next : Document}
    (opened : document.open? [] name = some next) (rest : List Char) :
    line? document ('[' :: (name.toList ++ ']' :: '\n' :: rest)) = some (next, rest) := by
  obtain ⟨first, others, letters, start⟩ := exists_of_isBare bare
  have key : key? maxDepth (name.toList ++ ']' :: '\n' :: rest) =
      some (([], name), ']' :: '\n' :: rest) :=
    key?_bare bare 78 rfl (fun _ => by simp [skipSpace, isSpace])
  rw [line?, key]
  · simp only [Option.bind_eq_bind, Option.bind_some, opened, endLine?_feed]
    rfl
  · intro more same
    rw [letters] at same
    exact ne_of_bare start rfl (List.cons.inj same).1

variable {entries earlier : Entries} {key : String}

theorem valueAt?_cons (key name : String) (value : Value) (entries : Entries) :
    Entries.valueAt? ((key, value) :: entries) name =
      if key = name then some value else entries.valueAt? name := by
  simp only [Entries.valueAt?, List.find?_cons]
  split <;> simp_all

theorem valueAt?_fresh (fresh : key ∉ entries.map (·.1)) : entries.valueAt? key = none := by
  have unfound : List.find? (·.1 == key) entries = none := by
    rw [List.find?_eq_none]
    intro entry member same
    exact fresh (List.mem_map.2 ⟨entry, member, by simpa using same⟩)
  rw [Entries.valueAt?, unfound]
  rfl

theorem valueAt?_last (fresh : key ∉ earlier.map (·.1)) (value : Value) :
    Entries.valueAt? (earlier ++ [(key, value)]) key = some value := by
  have unfound := valueAt?_fresh fresh
  rw [Entries.valueAt?, Option.map_eq_none_iff] at unfound
  rw [Entries.valueAt?, List.find?_append, unfound]
  simp

theorem put_fresh (fresh : key ∉ entries.map (·.1)) (value : Value) :
    entries.put key value = entries ++ [(key, value)] := by
  refine if_neg ?_
  rw [List.any_eq_true]
  rintro ⟨entry, member, same⟩
  exact fresh (List.mem_map.2 ⟨entry, member, by simpa using same⟩)

theorem put_last (fresh : key ∉ earlier.map (·.1)) (old value : Value) :
    Entries.put (earlier ++ [(key, old)]) key value = earlier ++ [(key, value)] := by
  have kept : earlier.map (fun entry => if entry.1 == key then (key, value) else entry) =
      earlier.map id := by
    refine List.map_congr_left fun entry member => if_neg ?_
    intro same
    exact fresh (List.mem_map.2 ⟨entry, member, by simpa using same⟩)
  rw [Entries.put, if_pos (by simp), List.map_append, kept, List.map_id]
  simp

/-- A document whose current table is the last one of those with a header. -/
def Document.atSection (earlier : Entries) (name : String) (entries : Entries) : Document :=
  ⟨⟨.header, earlier ++ [(name, .table .header entries)]⟩, [name]⟩

variable {name : String}

theorem open?_fresh (fresh : name ∉ earlier.map (·.1)) (path : List String) :
    Document.open? ⟨⟨.header, earlier⟩, path⟩ [] name = some (.atSection earlier name []) := by
  simp only [Document.open?, Table.changeAt, Table.open?, valueAt?_fresh fresh, put_fresh fresh]
  rfl

theorem add_fresh (named : name ∉ earlier.map (·.1)) (fresh : key ∉ entries.map (·.1))
    (value : Value) :
    (Document.atSection earlier name entries).add [] key value =
      some (.atSection earlier name (entries ++ [(key, value)])) := by
  have added : Table.addAt [] key value ⟨.header, entries⟩ =
      some ⟨.header, entries ++ [(key, value)]⟩ := by
    simp only [Table.addAt, Table.changeAt, Table.add, valueAt?_fresh fresh, put_fresh fresh]
    rfl
  simp only [Document.add, Document.atSection, Table.changeAt, valueAt?_last named,
    put_last named, Option.bind_eq_bind, added]
  rfl

/-! ## Sections -/

structure Setting where
  key : String
  value : Value
  shown : List Char

namespace Setting

def entry (setting : Setting) : String × Value :=
  (setting.key, setting.value)

def chars (setting : Setting) : List Char :=
  setting.key.toList ++ ' ' :: '=' :: ' ' :: (setting.shown ++ ['\n'])

structure WellFormed (setting : Setting) : Prop where
  bare : isBare setting.key = true
  shows : Shows setting.shown setting.value

end Setting

/-- A header and the lines under it. -/
structure Section where
  name : String
  settings : List Setting

namespace Section

def entry (part : Section) : String × Value :=
  (part.name, .table .header (part.settings.map Setting.entry))

def chars (part : Section) : List Char :=
  '[' :: (part.name.toList ++ ']' :: '\n' :: part.settings.flatMap Setting.chars)

structure WellFormed (part : Section) : Prop where
  bare : isBare part.name = true
  settings : ∀ setting ∈ part.settings, setting.WellFormed
  distinct : (part.settings.map Setting.key).Nodup

end Section

/-- The lines that are left make one document of another, whatever is left of the fuel. -/
def Reads (document : Document) (cs : List Char) (final : Document) : Prop :=
  ∀ fuel, cs.length < fuel → lines? fuel document cs = some final

variable {document next final : Document}

theorem reads_nil : Reads document [] document := by
  intro fuel enough
  obtain ⟨fuel, rfl⟩ := Nat.exists_eq_succ_of_ne_zero (Nat.pos_iff_ne_zero.1 enough)
  rfl

theorem reads_blank (others : Reads document rest final) : Reads document ('\n' :: rest) final := by
  intro fuel enough
  cases fuel with
  | zero => cases enough
  | succ fuel => exact others fuel (by simpa using enough)

theorem reads_line (unspaced : isSpace c = false) (unbroken : c ≠ '\n') (unreturned : c ≠ '\r')
    (uncommented : c ≠ '#') (read : line? document (c :: cs) = some (next, rest))
    (shorter : rest.length ≤ cs.length) (others : Reads next rest final) :
    Reads document (c :: cs) final := by
  intro fuel enough
  cases fuel with
  | zero => cases enough
  | succ fuel =>
      rw [List.length_cons] at enough
      rw [lines?, skipSpace_cons unspaced]
      split
      · rename_i same
        cases same
      · rename_i same
        exact absurd (List.cons.inj same).1 unbroken
      · rename_i same
        exact absurd (List.cons.inj same).1 unreturned
      · rename_i same
        exact absurd (List.cons.inj same).1 uncommented
      · rw [read]
        exact others fuel (by omega)

theorem reads_header (bare : isBare name = true) (opened : document.open? [] name = some next)
    (others : Reads next rest final) :
    Reads document ('[' :: (name.toList ++ ']' :: '\n' :: rest)) final := by
  refine reads_line rfl (by decide) (by decide) (by decide) (line?_header bare opened rest) ?_ others
  simp only [List.length_append, List.length_cons]
  omega

theorem reads_setting {setting : Setting} (wellFormed : setting.WellFormed)
    (added : document.add [] setting.key setting.value = some next)
    (others : Reads next rest final) : Reads document (setting.chars ++ rest) final := by
  obtain ⟨c, cs, letters, start⟩ := exists_of_isBare wellFormed.bare
  have line := line?_setting wellFormed.bare wellFormed.shows added rest
  have written : setting.chars ++ rest =
      setting.key.toList ++ ' ' :: '=' :: ' ' :: (setting.shown ++ '\n' :: rest) := by
    simp [Setting.chars]
  have blank : c ≠ ' ' := ne_of_bare start rfl
  have tab : c ≠ '\t' := ne_of_bare start rfl
  rw [written]
  rw [letters, List.cons_append] at line ⊢
  refine reads_line (by simp [isSpace, blank, tab]) (ne_of_bare start rfl) (ne_of_bare start rfl)
    (ne_of_bare start rfl) line ?_ others
  simp only [List.length_append, List.length_cons]
  omega

theorem reads_settings (named : name ∉ earlier.map (·.1)) {settings : List Setting}
    (wellFormed : ∀ setting ∈ settings, setting.WellFormed) :
    ∀ {entries : Entries}, (entries.map (·.1) ++ settings.map Setting.key).Nodup →
      Reads (.atSection earlier name (entries ++ settings.map Setting.entry)) rest final →
        Reads (.atSection earlier name entries) (settings.flatMap Setting.chars ++ rest) final := by
  induction settings with
  | nil =>
      intro entries _ others
      simpa using others
  | cons setting settings ih =>
      intro entries distinct others
      have fresh : setting.key ∉ entries.map (·.1) := by
        intro member
        exact (List.nodup_append.1 distinct).2.2 _ member _ List.mem_cons_self rfl
      rw [List.flatMap_cons, List.append_assoc]
      refine reads_setting (wellFormed _ List.mem_cons_self) (add_fresh named fresh setting.value) ?_
      refine ih (fun later member => wellFormed later (List.mem_cons_of_mem _ member)) ?_ ?_
      · simpa using distinct
      · simpa [Setting.entry] using others

theorem reads_section {part : Section} (wellFormed : part.WellFormed)
    (fresh : part.name ∉ earlier.map (·.1)) (path : List String)
    (others : Reads ⟨⟨.header, earlier ++ [part.entry]⟩, [part.name]⟩ rest final) :
    Reads ⟨⟨.header, earlier⟩, path⟩ (part.chars ++ rest) final := by
  have written : part.chars ++ rest =
      '[' :: (part.name.toList ++ ']' :: '\n' :: (part.settings.flatMap Setting.chars ++ rest)) := by
    simp [Section.chars]
  rw [written]
  refine reads_header wellFormed.bare (open?_fresh fresh path) ?_
  refine reads_settings fresh wellFormed.settings ?_ ?_
  · simpa using wellFormed.distinct
  · simpa [Document.atSection, Section.entry] using others

theorem reads_sections {parts : List Section} (wellFormed : ∀ part ∈ parts, part.WellFormed) :
    ∀ (earlier : Entries) (path : List String), (earlier.map (·.1) ++ parts.map Section.name).Nodup →
      ∃ last, Reads ⟨⟨.header, earlier⟩, path⟩ (['\n'].intercalate (parts.map Section.chars))
        ⟨⟨.header, earlier ++ parts.map Section.entry⟩, last⟩ := by
  induction parts with
  | nil =>
      intro _ path _
      refine ⟨path, ?_⟩
      simpa using reads_nil
  | cons part parts ih =>
      intro earlier path distinct
      have fresh : part.name ∉ earlier.map (·.1) := by
        intro member
        exact (List.nodup_append.1 distinct).2.2 _ member _ List.mem_cons_self rfl
      have first := wellFormed part List.mem_cons_self
      have apart : ((earlier ++ [part.entry]).map (·.1) ++ parts.map Section.name).Nodup := by
        simpa [Section.entry] using distinct
      obtain ⟨last, others⟩ :=
        ih (fun later member => wellFormed later (List.mem_cons_of_mem _ member)) _ [part.name] apart
      rw [List.append_assoc] at others
      refine ⟨last, ?_⟩
      cases parts with
      | nil =>
          have whole := reads_section first fresh path others
          simpa using whole
      | cons second parts =>
          have whole := reads_section first fresh path (reads_blank others)
          simpa [List.intercalate_cons_cons] using whole

/-- A document of sections is read as the table of them. -/
theorem parse?_sections {document : String} {parts : List Section}
    (written : document.toList = ['\n'].intercalate (parts.map Section.chars))
    (wellFormed : ∀ part ∈ parts, part.WellFormed) (distinct : (parts.map Section.name).Nodup) :
    parse? document = some (parts.map Section.entry) := by
  obtain ⟨last, read⟩ := reads_sections wellFormed [] [] distinct
  have unmarked : dropByteOrderMark document.toList = document.toList := by
    rw [written]
    cases parts with
    | nil => rfl
    | cons first parts =>
        cases parts with
        | nil => simp [Section.chars, dropByteOrderMark]
        | cons second parts =>
            simp [List.intercalate_cons_cons, Section.chars, dropByteOrderMark]
  rw [← written] at read
  rw [parse?, unmarked]
  simp only [read _ (Nat.lt_succ_self _), Option.bind_eq_bind, Option.bind_some]
  rfl

end Muster.Toml
