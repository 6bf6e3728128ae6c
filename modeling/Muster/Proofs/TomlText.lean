import Mathlib
import Muster.Toml.Parser
import Muster.Toml.Printer

/-!
TOML strings are read back as they were written. Each of the four styles is undone by its reader,
for every text of which the style is chosen: escapes stand for what they were made of, no run of
quotes closes a string early, and only the line end that was put behind the opening quotes is
dropped.
-/

namespace Muster.Toml

variable {c : Char} {cs rest : List Char}

theorem isPlain_of_shown (shown : isControl c = false) (unbroken : c ≠ '\n') : isPlain c = true := by
  have least : ' ' ≤ c ↔ 32 ≤ c.toNat := Iff.rfl
  simp only [isControl, Bool.and_eq_false_iff, Bool.or_eq_false_iff, decide_eq_false_iff_not,
    beq_eq_false_iff_ne, bne_eq_false_iff_eq] at shown
  simp only [isPlain, Bool.or_eq_true, beq_iff_eq, Bool.and_eq_true, decide_eq_true_eq, least,
    bne_iff_ne]
  rcases shown with (⟨low, delete⟩ | tab) | feed
  · exact .inr ⟨by omega, delete⟩
  · exact .inl tab
  · exact absurd feed unbroken

theorem toNat_lt_of_control (control : isControl c = true) : c.toNat < 128 := by
  simp only [isControl, Bool.and_eq_true, Bool.or_eq_true, decide_eq_true_eq, beq_iff_eq] at control
  rcases control.1.1 with low | rfl
  · omega
  · decide

theorem hexChar?_escape : ∀ code < 128,
    hexChar? ['0', '0', (Nat.digitChar (code / 16)).toUpper, (Nat.digitChar (code % 16)).toUpper] =
      some (Char.ofNat code) := by
  decide +kernel

/-- The ways in which a character is shown in a basic string: as itself, by a letter, by its code. -/
inductive Escaped (c : Char) : List Char → Prop
  | plain (plain : isPlain c = true) (unescaped : c ≠ '\\') (unquoted : c ≠ '"') : Escaped c [c]
  | short (letter : Char) (short : shortEscape? letter = some c) : Escaped c ['\\', letter]
  | code (d₁ d₂ d₃ d₄ : Char) (hex : hexChar? [d₁, d₂, d₃, d₄] = some c) :
      Escaped c ['\\', 'u', d₁, d₂, d₃, d₄]

theorem escaped_escape (unquoted : c ≠ '"') (unbroken : c ≠ '\n') : Escaped c (escape c) := by
  unfold escape
  split
  · exact .short 't' rfl
  · exact .short 'b' rfl
  · exact .short 'f' rfl
  · exact .short 'r' rfl
  · exact .short '\\' rfl
  · rename_i unescaped
    split
    · rename_i control
      refine .code _ _ _ _ ?_
      rw [hexChar?_escape _ (toNat_lt_of_control control), Char.ofNat_toNat]
    · rename_i shown
      exact .plain (isPlain_of_shown (by simpa using shown) unbroken) unescaped unquoted

/-! ## Basic strings -/

theorem basic?_escaped {written : List Char} (escaped : Escaped c written) :
    basic? (written ++ rest) = (basic? rest).map (consRead c) := by
  cases escaped with
  | plain plain unescaped unquoted =>
      rw [List.singleton_append, basic?]
      · rw [plain]
        cases basic? rest <;> rfl
      all_goals simp_all
  | short letter short =>
      change basic? ('\\' :: letter :: rest) = _
      rw [basic?]
      · rw [short]
        cases basic? rest <;> rfl
      all_goals
        intros
        simp_all [shortEscape?]
  | code d₁ d₂ d₃ d₄ hex =>
      change basic? ('\\' :: 'u' :: d₁ :: d₂ :: d₃ :: d₄ :: rest) = _
      rw [basic?, hex]
      cases basic? rest <;> rfl

theorem escapeLine_cons (c : Char) (cs : List Char) :
    escapeLine (c :: cs) =
      (if c = '"' then ['\\', '"'] else if c = '\n' then ['\\', 'n'] else escape c) ++
        escapeLine cs := by
  simp only [escapeLine, List.flatMap_cons]
  congr 1
  split
  · rfl
  · rfl
  · rename_i unquoted unbroken
    rw [if_neg unquoted, if_neg unbroken]

theorem basic?_escapeLine (cs rest : List Char) :
    basic? (escapeLine cs ++ '"' :: rest) = some (cs, rest) := by
  induction cs with
  | nil => rfl
  | cons c cs ih =>
      have escaped : Escaped c
          (if c = '"' then ['\\', '"'] else if c = '\n' then ['\\', 'n'] else escape c) := by
        split
        · rename_i quote
          exact .short '"' (congrArg some quote.symm)
        · split
          · rename_i feed
            exact .short 'n' (congrArg some feed.symm)
          · exact escaped_escape ‹_› ‹_›
      rw [escapeLine_cons, List.append_assoc, basic?_escaped escaped, ih]
      rfl

theorem multilineBasic?_escaped {written : List Char} (escaped : Escaped c written) :
    multilineBasic? false (written ++ rest) = (multilineBasic? false rest).map (consRead c) := by
  cases escaped with
  | plain plain unescaped unquoted =>
      have unreturned : c ≠ '\r' := by
        rintro rfl
        cases plain
      rw [List.singleton_append, multilineBasic?]
      · rw [plain]
        cases multilineBasic? false rest <;> rfl
      all_goals simp_all
  | short letter short =>
      change multilineBasic? false ('\\' :: letter :: rest) = _
      have inLine : endsLine (letter :: rest) = false := by
        unfold shortEscape? at short
        split at short <;> first | rfl | cases short
      rw [multilineBasic?]
      · rw [inLine, short]
        cases multilineBasic? false rest <;> rfl
      all_goals
        intros
        simp_all [shortEscape?]
  | code d₁ d₂ d₃ d₄ hex =>
      change multilineBasic? false ('\\' :: 'u' :: d₁ :: d₂ :: d₃ :: d₄ :: rest) = _
      rw [multilineBasic?, hex]
      cases multilineBasic? false rest <;> rfl

theorem multilineBasic?_quote (apart : ∀ more, rest ≠ '"' :: '"' :: more) :
    multilineBasic? false ('"' :: rest) = (multilineBasic? false rest).map (consRead '"') := by
  rw [multilineBasic?]
  · cases multilineBasic? false rest <;> rfl
  all_goals simp_all

theorem multilineBasic?_feed :
    multilineBasic? false ('\n' :: rest) = (multilineBasic? false rest).map (consRead '\n') := by
  rw [multilineBasic?]
  · cases multilineBasic? false rest <;> rfl
  all_goals simp_all

theorem Escaped.head_ne {written : List Char} (escaped : Escaped c written) (more : List Char) :
    written ++ rest ≠ '"' :: more ∧ written ++ rest ≠ '\n' :: more ∧
      written ++ rest ≠ '\r' :: more := by
  cases escaped with
  | plain plain unescaped unquoted =>
      refine ⟨?_, ?_, ?_⟩
      · simp [unquoted]
      · rintro same
        cases same
        cases plain
      · rintro same
        cases same
        cases plain
  | short letter short => simp
  | code d₁ d₂ d₃ d₄ hex => simp

theorem escapeLines_quote {run : Nat} (short : run < 2) (cs : List Char) :
    escapeLines run ('"' :: cs) = '"' :: escapeLines (run + 1) cs := by
  rw [escapeLines, if_neg (by omega)]

theorem escapeLines_other {run : Nat} (unquoted : c ≠ '"') (unbroken : c ≠ '\n')
    (cs : List Char) : escapeLines run (c :: cs) = escape c ++ escapeLines 0 cs := by
  rw [escapeLines]
  all_goals simp_all

/-- The quotes of a text that stand for themselves are followed by fewer than two more, unless they
end the text. -/
theorem escapeLines_apart {run : Nat} (began : 1 ≤ run) (within : run ≤ 2) (some : cs ≠ [])
    (unended : cs ≠ ['"']) (more : List Char) : escapeLines run cs ++ rest ≠ '"' :: '"' :: more := by
  cases cs with
  | nil => exact absurd rfl some
  | cons c cs =>
      by_cases quote : c = '"'
      · subst quote
        by_cases full : run = 2
        · subst full
          simp [escapeLines]
        · rw [escapeLines_quote (by omega)]
          cases cs with
          | nil => exact absurd rfl unended
          | cons d cs =>
              have two : run + 1 = 2 := by omega
              rw [two]
              by_cases again : d = '"'
              · subst again
                simp [escapeLines]
              · by_cases feed : d = '\n'
                · subst feed
                  simp [escapeLines]
                · rw [escapeLines_other again feed, List.cons_append, List.append_assoc, ne_eq,
                    List.cons.injEq, not_and]
                  exact fun _ => ((escaped_escape again feed).head_ne _).1
      · by_cases feed : c = '\n'
        · subst feed
          simp [escapeLines]
        · rw [escapeLines_other quote feed, List.append_assoc]
          exact ((escaped_escape quote feed).head_ne _).1

theorem multilineBasic?_escapeLines (rest : List Char) (cs : List Char) : ∀ run ≤ 2,
    multilineBasic? false (escapeLines run cs ++ '"' :: '"' :: '"' :: '\n' :: rest) =
      some (cs, '\n' :: rest) := by
  -- `run` quotes stand right before `cs`, which close nothing as a third one is escaped.
  induction cs with
  | nil =>
      intro run _
      rfl
  | cons c cs ih =>
      intro run within
      by_cases quote : c = '"'
      · subst quote
        by_cases full : run = 2
        · subst full
          have escaped : Escaped '"' ['\\', '"'] := .short '"' rfl
          have written : escapeLines 2 ('"' :: cs) = ['\\', '"'] ++ escapeLines 0 cs := rfl
          rw [written, List.append_assoc, multilineBasic?_escaped escaped, ih 0 (Nat.zero_le 2)]
          rfl
        · rw [escapeLines_quote (by omega)]
          by_cases last : cs = []
          · subst last
            rfl
          · by_cases ended : cs = ['"'] ∧ run = 0
            · obtain ⟨rfl, rfl⟩ := ended
              rfl
            · rw [List.cons_append, multilineBasic?_quote, ih (run + 1) (by omega)]
              · rfl
              · intro more
                by_cases single : cs = ['"']
                · subst single
                  have began : run ≠ 0 := fun none => ended ⟨rfl, none⟩
                  have two : run + 1 = 2 := by omega
                  rw [two]
                  simp [escapeLines]
                · exact escapeLines_apart (by omega) (by omega) last single more
      · by_cases feed : c = '\n'
        · subst feed
          have written : escapeLines run ('\n' :: cs) = '\n' :: escapeLines 0 cs := rfl
          rw [written, List.cons_append, multilineBasic?_feed, ih 0 (Nat.zero_le 2)]
          rfl
        · rw [escapeLines_other quote feed, List.append_assoc,
            multilineBasic?_escaped (escaped_escape quote feed), ih 0 (Nat.zero_le 2)]
          rfl

theorem literal?_cons (plain : isPlain c = true) (unquoted : c ≠ '\'') :
    literal? (c :: rest) = (literal? rest).map (consRead c) := by
  rw [literal?]
  · rw [plain]
    cases literal? rest <;> rfl
  · exact fun same => absurd same unquoted

theorem literal?_append (plain : ∀ c ∈ cs, isPlain c = true) (unquoted : '\'' ∉ cs) :
    literal? (cs ++ '\'' :: rest) = some (cs, rest) := by
  induction cs with
  | nil => rfl
  | cons c cs ih =>
      rw [List.mem_cons, not_or] at unquoted
      have others := ih (fun d member => plain d (List.mem_cons_of_mem _ member)) unquoted.2
      rw [List.cons_append, literal?_cons (plain c List.mem_cons_self) (Ne.symm unquoted.1), others]
      rfl

theorem multilineLiteral?_cons (shown : isPlain c = true ∨ c = '\n')
    (apart : c = '\'' → ∀ more, rest ≠ '\'' :: '\'' :: more) :
    multilineLiteral? (c :: rest) = (multilineLiteral? rest).map (consRead c) := by
  have unreturned : c ≠ '\r' := by
    rintro rfl
    rcases shown with plain | feed
    · cases plain
    · cases feed
  rw [multilineLiteral?]
  · have readable : (isPlain c || c == '\n') = true := by simpa using shown
    rw [readable]
    cases multilineLiteral? rest <;> rfl
  all_goals simp_all

theorem le_longestRun (quote : Char) (run : Nat) (cs : List Char) :
    run ≤ longestRun quote run cs := by
  induction cs generalizing run with
  | nil => exact Nat.le_refl run
  | cons c cs ih =>
      rw [longestRun]
      split
      · exact Nat.le_trans (Nat.le_succ run) (ih (run + 1))
      · exact Nat.le_max_left _ _

theorem longestRun_quote (quote : Char) (run : Nat) (cs : List Char) :
    longestRun quote run (quote :: cs) = longestRun quote (run + 1) cs := by
  rw [longestRun, if_pos rfl]

theorem multilineLiteral?_append (rest : List Char) (cs : List Char) : ∀ run : Nat,
    (∀ c ∈ cs, isPlain c = true ∨ c = '\n') → longestRun '\'' run cs ≤ 2 →
      multilineLiteral? (cs ++ '\'' :: '\'' :: '\'' :: '\n' :: rest) = some (cs, '\n' :: rest) := by
  induction cs with
  | nil =>
      intro run _ _
      rfl
  | cons c cs ih =>
      intro run shown short
      have others : ∀ d ∈ cs, isPlain d = true ∨ d = '\n' :=
        fun d member => shown d (List.mem_cons_of_mem _ member)
      have first := shown c List.mem_cons_self
      by_cases quote : c = '\''
      · subst quote
        rw [longestRun_quote] at short
        by_cases last : cs = []
        · subst last
          rfl
        · by_cases ended : cs = ['\'']
          · subst ended
            rfl
          · rw [List.cons_append, multilineLiteral?_cons first, ih (run + 1) others short]
            · rfl
            · intro _ more same
              cases cs with
              | nil => exact last rfl
              | cons d cs =>
                  cases cs with
                  | nil =>
                      rw [List.singleton_append, List.cons.injEq] at same
                      exact ended (by rw [same.1])
                  | cons e cs =>
                      rw [List.cons_append, List.cons_append, List.cons.injEq,
                        List.cons.injEq] at same
                      obtain ⟨rfl, rfl, _⟩ := same
                      -- A third quote makes the run too long.
                      rw [longestRun_quote, longestRun_quote] at short
                      have long := le_longestRun '\'' (run + 1 + 1 + 1) cs
                      omega
      · have next : longestRun '\'' 0 cs ≤ 2 := by
          rw [longestRun, if_neg quote] at short
          exact Nat.le_trans (Nat.le_max_right _ _) short
        rw [List.cons_append, multilineLiteral?_cons first, ih 0 others next]
        · rfl
        · exact fun same => absurd same quote

/-! ## Texts -/

theorem dropFirstLineEnd_openingLine (cs : List Char) {written : List Char}
    (unbroken : '\n' ∉ cs → ∀ more, written ≠ '\n' :: more ∧ written ≠ '\r' :: more) :
    dropFirstLineEnd (openingLine cs ++ written) = written := by
  unfold openingLine
  split
  · rfl
  · rename_i single
    have apart := unbroken (by simpa using single)
    rw [List.nil_append]
    unfold dropFirstLineEnd
    split
    · exact absurd rfl (apart _).1
    · exact absurd rfl (apart _).2
    · rfl

theorem text?_basic (cs rest : List Char) :
    text? (Style.basic.write cs ++ '\n' :: rest) = some (cs, '\n' :: rest) := by
  have written : Style.basic.write cs ++ '\n' :: rest =
      '"' :: (escapeLine cs ++ '"' :: '\n' :: rest) := by
    simp [Style.write]
  rw [written, text?]
  · exact basic?_escapeLine cs ('\n' :: rest)
  · intro more same
    cases cs with
    | nil => simp [escapeLine] at same
    | cons c cs =>
        rw [escapeLine_cons] at same
        split at same
        · simp at same
        · rename_i unquoted
          split at same
          · simp at same
          · rename_i unbroken
            rw [List.append_assoc] at same
            exact ((escaped_escape unquoted unbroken).head_ne _).1 same

theorem text?_literal (shown : ∀ c ∈ cs, isPlain c = true) (unquoted : '\'' ∉ cs)
    (rest : List Char) :
    text? (Style.literal.write cs ++ '\n' :: rest) = some (cs, '\n' :: rest) := by
  have written : Style.literal.write cs ++ '\n' :: rest =
      '\'' :: (cs ++ '\'' :: '\n' :: rest) := by
    simp [Style.write]
  rw [written, text?]
  · exact literal?_append shown unquoted
  · intro more same
    cases cs with
    | nil => simp at same
    | cons c cs =>
        rw [List.cons_append, List.cons.injEq] at same
        exact unquoted (same.1 ▸ List.mem_cons_self)

theorem text?_multilineBasic (cs rest : List Char) :
    text? (Style.multilineBasic.write cs ++ '\n' :: rest) = some (cs, '\n' :: rest) := by
  have written : Style.multilineBasic.write cs ++ '\n' :: rest = '"' :: '"' :: '"' ::
      (openingLine cs ++ (escapeLines 0 cs ++ '"' :: '"' :: '"' :: '\n' :: rest)) := by
    simp [Style.write]
  rw [written, text?, dropFirstLineEnd_openingLine]
  · exact multilineBasic?_escapeLines rest cs 0 (Nat.zero_le 2)
  · intro unbroken more
    cases cs with
    | nil => simp [escapeLines]
    | cons c cs =>
        rw [List.mem_cons, not_or] at unbroken
        by_cases quote : c = '"'
        · subst quote
          simp [escapeLines_quote]
        · rw [escapeLines_other quote (Ne.symm unbroken.1), List.append_assoc]
          exact ((escaped_escape quote (Ne.symm unbroken.1)).head_ne more).2

theorem text?_multilineLiteral (shown : ∀ c ∈ cs, isPlain c = true ∨ c = '\n')
    (short : longestRun '\'' 0 cs ≤ 2) (rest : List Char) :
    text? (Style.multilineLiteral.write cs ++ '\n' :: rest) = some (cs, '\n' :: rest) := by
  have written : Style.multilineLiteral.write cs ++ '\n' :: rest = '\'' :: '\'' :: '\'' ::
      (openingLine cs ++ (cs ++ '\'' :: '\'' :: '\'' :: '\n' :: rest)) := by
    simp [Style.write]
  rw [written, text?, dropFirstLineEnd_openingLine]
  · exact multilineLiteral?_append rest cs 0 shown short
  · intro unbroken more
    cases cs with
    | nil => simp
    | cons c cs =>
        rw [List.mem_cons, not_or] at unbroken
        constructor
        · intro same
          exact unbroken.1 (List.cons.inj same).1.symm
        · intro same
          obtain ⟨rfl, _⟩ := List.cons.inj same
          rcases shown '\r' List.mem_cons_self with plain | feed
          · cases plain
          · cases feed

/-- Every text is read back from the style that is chosen for it, up to the end of its line. -/
theorem text?_write (cs rest : List Char) :
    text? ((Style.choose cs).write cs ++ '\n' :: rest) = some (cs, '\n' :: rest) := by
  have visible (none : (!cs.any isControl) = true) {c : Char} (member : c ∈ cs) :
      isPlain c = true ∨ c = '\n' := by
    by_cases feed : c = '\n'
    · exact .inr feed
    · rw [Bool.not_eq_true', List.any_eq_false] at none
      exact .inl (isPlain_of_shown (by simpa using none c member) feed)
  unfold Style.choose
  simp only
  split
  · exact text?_basic cs rest
  · split
    · rename_i literal
      simp only [Bool.and_eq_true] at literal
      obtain ⟨⟨none, unquoted⟩, unbroken⟩ := literal
      refine text?_literal ?_ (by simpa using unquoted) rest
      intro c member
      refine (visible none member).resolve_right ?_
      rintro rfl
      simp [member] at unbroken
    · split
      · exact text?_multilineBasic cs rest
      · split
        · rename_i literal
          simp only [Bool.and_eq_true, decide_eq_true_eq] at literal
          exact text?_multilineLiteral (fun _ => visible literal.1) literal.2 rest
        · split
          · exact text?_multilineBasic cs rest
          · exact text?_basic cs rest

end Muster.Toml
