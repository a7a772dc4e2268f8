/-
# LatticeSketch.Proofs.Json.Lexemes -- blanks, words, strings and numbers taken off a text

Every lemma here is about a lexeme with any text behind it.  Blanks, words and strings end by
themselves: a string is read as what it spells (`readString_of_spells`), or passed over with any
escapes (`skipString_of_stringBody`).  A number ends where no character goes on with it (`Closes`),
and there it is passed over (`skipNumber_append`).
-/
import LatticeSketch.Json.Record
import LatticeSketch.Proofs.Json.Grammar
import Mathlib.Data.List.TakeWhile
import Mathlib.Tactic.IntervalCases

namespace LatticeSketch.Json

set_option autoImplicit false

/-! ## Blanks and words -/

theorem skipSpace_append {blanks : List Char} (blank : Blanks blanks) (text : List Char) :
    skipSpace (blanks ++ text) = skipSpace text := by
  refine List.dropWhile_append_of_pos fun c member => ?_
  have listed := blank c member
  simp only [List.mem_cons, List.not_mem_nil, or_false] at listed
  rcases listed with rfl | rfl | rfl | rfl <;> rfl

theorem skipSpace_cons {c : Char} (solid : isSpace c = false) (text : List Char) :
    skipSpace (c :: text) = c :: text := by
  simp [skipSpace, solid]

theorem skipWord_append (word rest : List Char) : skipWord word (word ++ rest) = .ok rest := by
  induction word with
  | nil => rfl
  | cons c more ih => simp [skipWord, ih]

theorem skipMark_append {mark : Char} (solid : isSpace mark = false) {blanks : List Char}
    (blank : Blanks blanks) (rest : List Char) :
    skipMark mark (blanks ++ mark :: rest) = .ok rest := by
  rw [skipMark, skipSpace_append blank, skipSpace_cons solid]
  simp

/-! ## Strings -/

theorem hexDigit?_of_hexDigit {c : Char} {value : Nat} (digit : HexDigit c value) :
    hexDigit? c = some value := by
  have below : value < 16 := by
    refine Nat.lt_of_not_le fun high => ?_
    simp [HexDigit, high] at digit
  unfold HexDigit at digit
  interval_cases value <;> simp at digit <;> rcases digit with rfl | rfl <;> rfl

theorem hexFour?_of_code {digits : List Char} {value : Nat} (code : Code digits value) :
    ∃ a b c d, digits = [a, b, c, d] ∧ hexFour? a b c d = some value := by
  cases code with
  | mk first second third fourth =>
      exact ⟨_, _, _, _, rfl, by simp [hexFour?, hexDigit?_of_hexDigit first,
        hexDigit?_of_hexDigit second, hexDigit?_of_hexDigit third, hexDigit?_of_hexDigit fourth]⟩

theorem escaped?_of_mem {letter c : Char} (stands : (letter, c) ∈ shortEscapes) :
    escaped? letter = some c ∧ letter ≠ 'u' := by
  simp only [shortEscapes, List.mem_cons, List.not_mem_nil, or_false, Prod.mk.injEq] at stands
  rcases stands with ⟨rfl, rfl⟩ | ⟨rfl, rfl⟩ | ⟨rfl, rfl⟩ | ⟨rfl, rfl⟩ | ⟨rfl, rfl⟩ | ⟨rfl, rfl⟩ |
    ⟨rfl, rfl⟩ | ⟨rfl, rfl⟩ <;> exact ⟨rfl, by decide⟩

/-- No character is a half of a pair. -/
theorem not_isLeading_and_not_isTrailing (c : Char) :
    isLeading c.toNat = false ∧ isTrailing c.toNat = false := by
  have valid : c.toNat < 0xD800 ∨ 0xDFFF < c.toNat ∧ c.toNat < 0x110000 := c.valid
  simp only [isLeading, isTrailing, Bool.and_eq_false_iff, decide_eq_false_iff_not]
  omega

theorem readString_plain {c : Char} (itself : Plain c) (text : List Char) :
    readString (c :: text) = consChar c (readString text) := by
  rw [readString, if_neg (Nat.not_lt.2 itself.printed)]
  · exact itself.unquoted
  all_goals intros; exact itself.unescaped ‹_›

theorem readString_short {letter c : Char} (stands : (letter, c) ∈ shortEscapes)
    (text : List Char) : readString ('\\' :: letter :: text) = consChar c (readString text) := by
  obtain ⟨known, other⟩ := escaped?_of_mem stands
  rw [readString]
  · simp only [known]
  all_goals intros; exact other ‹_›

theorem skipString_plain {c : Char} (itself : Plain c) (text : List Char) :
    skipString (c :: text) = skipString text := by
  rw [skipString, if_neg (Nat.not_lt.2 itself.printed)]
  · exact itself.unquoted
  all_goals intros; exact itself.unescaped ‹_›

theorem skipString_short {letter c : Char} (stands : (letter, c) ∈ shortEscapes)
    (text : List Char) : skipString ('\\' :: letter :: text) = skipString text := by
  obtain ⟨known, other⟩ := escaped?_of_mem stands
  rw [skipString]
  · simp only [known]
  all_goals intros; exact other ‹_›

/-- A string is read as what it spells. -/
theorem readString_of_spells {written meant : List Char} (spelled : Spells written meant)
    (rest : List Char) : readString (written ++ '"' :: rest) = .ok (meant, rest) := by
  induction spelled with
  | nil => rfl
  | plain itself _ ih =>
      rw [List.cons_append, readString_plain itself, ih]
      rfl
  | short stands _ ih =>
      rw [List.cons_append, List.cons_append, readString_short stands, ih]
      rfl
  | @code digits written meant c coded _ ih =>
      obtain ⟨i, j, k, l, rfl, known⟩ := hexFour?_of_code coded
      obtain ⟨former, latter⟩ := not_isLeading_and_not_isTrailing c
      simp [readString, known, former, latter, ih, consChar, Except.map]
  | @pair first second written meant leading trailing c former high latter low joined _ ih =>
      obtain ⟨i, j, k, l, rfl, known⟩ := hexFour?_of_code former
      obtain ⟨m, n, o, p, rfl, knownToo⟩ := hexFour?_of_code latter
      have notTrailing : isTrailing leading = false := by
        simp only [isTrailing, Bool.and_eq_false_iff, decide_eq_false_iff_not]
        omega
      have isLeading_ : isLeading leading = true := by
        simp only [isLeading, Bool.and_eq_true, decide_eq_true_eq]
        exact high
      have isTrailing_ : isTrailing trailing = true := by
        simp only [isTrailing, Bool.and_eq_true, decide_eq_true_eq]
        exact low
      have whole : ofSurrogates leading trailing = c := by
        rw [ofSurrogates, ← joined, Char.ofNat_toNat]
      simp [readString, known, knownToo, notTrailing, isLeading_, isTrailing_, whole, ih, consChar,
        Except.map]

/-- A string of any escapes is passed over. -/
theorem skipString_of_stringBody {written : List Char} (body : StringBody written)
    (rest : List Char) : skipString (written ++ '"' :: rest) = .ok rest := by
  induction body with
  | nil => rfl
  | plain itself _ ih => rw [List.cons_append, skipString_plain itself, ih]
  | short stands _ ih =>
      rw [List.cons_append, List.cons_append, skipString_short stands, ih]
  | code coded _ ih =>
      obtain ⟨i, j, k, l, rfl, known⟩ := hexFour?_of_code coded
      simp [skipString, known, ih]

/-! ## Numbers passed over -/

/-- No number goes on into the text. -/
def Closes (text : List Char) : Prop :=
  ∀ c ∈ text.head?, c.isDigit = false ∧ c ≠ '.' ∧ c ≠ 'e' ∧ c ≠ 'E'

section Ends

variable {p : Char → Bool} {rest : List Char} (ends : ∀ c ∈ rest.head?, p c = false)

include ends

theorem takeWhile_append_of_head (text : List Char) :
    (text ++ rest).takeWhile p = text.takeWhile p := by
  induction text with
  | nil =>
      cases rest with
      | nil => rfl
      | cons c more => simp [ends c rfl]
  | cons c more ih => by_cases more_ : p c = true <;> simp [more_, ih]

theorem dropWhile_append_of_head (text : List Char) :
    (text ++ rest).dropWhile p = text.dropWhile p ++ rest := by
  induction text with
  | nil =>
      cases rest with
      | nil => rfl
      | cons c more => simp [ends c rfl]
  | cons c more ih => by_cases more_ : p c = true <;> simp [more_, ih]

end Ends

theorem Digits.takeWhile_eq {digits rest : List Char} (written : Digits digits)
    (ends : ∀ c ∈ rest.head?, c.isDigit = false) :
    (digits ++ rest).takeWhile Char.isDigit = digits := by
  rw [takeWhile_append_of_head ends, List.takeWhile_eq_self_iff]
  exact written.digits

theorem Digits.dropWhile_eq {digits rest : List Char} (written : Digits digits)
    (ends : ∀ c ∈ rest.head?, c.isDigit = false) :
    (digits ++ rest).dropWhile Char.isDigit = rest := by
  rw [dropWhile_append_of_head ends, List.dropWhile_eq_nil_iff.2 written.digits, List.nil_append]

theorem Digits.exists_cons {digits : List Char} (written : Digits digits) :
    ∃ d more, digits = d :: more ∧ d.isDigit = true := by
  obtain ⟨d, more, rfl⟩ := List.exists_cons_of_ne_nil written.nonempty
  exact ⟨d, more, rfl, written.digits d List.mem_cons_self⟩

theorem skipDigits_append {digits rest : List Char} (written : Digits digits)
    (ends : ∀ c ∈ rest.head?, c.isDigit = false) : skipDigits (digits ++ rest) = .ok rest := by
  have some_ : digits.isEmpty = false := by simpa using written.nonempty
  simp [skipDigits, written.takeWhile_eq ends, written.dropWhile_eq ends, some_]

/-- What begins behind the fraction of a number. -/
theorem head?_exponent_append {exponent rest : List Char} (power : Exponent exponent)
    (closes : Closes rest) : ∀ c ∈ (exponent ++ rest).head?, c.isDigit = false ∧ c ≠ '.' := by
  cases power with
  | absent => exact fun c head => ⟨(closes c head).1, (closes c head).2.1⟩
  | present marked signed written =>
      rintro c head
      obtain rfl : _ = c := by simpa using head
      rcases marked with rfl | rfl <;> decide

theorem skipExponent_append {exponent rest : List Char} (power : Exponent exponent)
    (closes : Closes rest) : skipExponent (exponent ++ rest) = .ok rest := by
  have ends : ∀ c ∈ rest.head?, c.isDigit = false := fun c head => (closes c head).1
  cases power with
  | absent =>
      cases rest with
      | nil => rfl
      | cons c more =>
          obtain ⟨-, -, small, great⟩ := closes c rfl
          simp [skipExponent, small, great]
  | present marked signed written =>
      have skipped := skipDigits_append written ends
      rcases signed with rfl | rfl | rfl
      · obtain ⟨d, more, rfl, digit⟩ := written.exists_cons
        simp only [List.nil_append, List.cons_append] at skipped ⊢
        rw [skipExponent, if_pos marked, skipped]
        all_goals
          rintro digits ⟨⟩
          cases digit
      all_goals simpa [skipExponent, marked] using skipped

/-- A number without its sign is passed over. -/
theorem skipNumber_append {whole fraction exponent rest : List Char} (ones : Whole whole)
    (parts : Fraction fraction) (power : Exponent exponent) (closes : Closes rest) :
    skipNumber (whole ++ (fraction ++ (exponent ++ rest))) = .ok rest := by
  have behind := head?_exponent_append power closes
  have ends : ∀ c ∈ (exponent ++ rest).head?, c.isDigit = false := fun c head => (behind c head).1
  have endsToo : ∀ c ∈ (fraction ++ (exponent ++ rest)).head?, c.isDigit = false := by
    cases parts with
    | absent => exact ends
    | present written =>
        rintro c head
        obtain rfl : _ = c := by simpa using head
        rfl
  have lone : ¬ (whole.head? = some '0' ∧ whole.length ≠ 1) := fun zero => zero.2 (ones.lone zero.1)
  unfold skipNumber
  rw [ones.takeWhile_eq endsToo, skipDigits_append ones.toDigits endsToo]
  dsimp only [bind, Except.bind]
  rw [if_neg lone]
  cases parts with
  | absent =>
      rw [List.nil_append]
      split
      · rename_i point
        exact absurd rfl ((behind '.' (by rw [point]; rfl)).2)
      · exact skipExponent_append power closes
  | present written =>
      simp only [List.cons_append, skipDigits_append written ends]
      exact skipExponent_append power closes

end LatticeSketch.Json
