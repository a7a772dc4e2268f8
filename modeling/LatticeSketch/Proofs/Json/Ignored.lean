/-
# LatticeSketch.Proofs.Json.Ignored -- every value is passed over

`skipOpen` goes through a value one lexeme at a time, with a stack of the brackets that are open and
a bound on its rounds.  A value takes it from awaiting a value to behind that value with the stack
as it was; the items of a pair of brackets, from their first key to behind the closing bracket
(`Passed`).  The rounds it takes are at most two for each character, which is as many as
`skipValue` allows, so a value of any depth is passed over (`skipValue_of_phrase`).
-/
import LatticeSketch.Proofs.Json.Lexemes

namespace LatticeSketch.Json

set_option autoImplicit false

/-! ## One round -/

theorem skipSpace_skipSpace (text : List Char) : skipSpace (skipSpace text) = skipSpace text := by
  induction text with
  | nil => rfl
  | cons c rest ih =>
      by_cases blank : isSpace c = true
      · simpa [skipSpace, blank] using ih
      · simp [skipSpace, blank]

theorem skipMark_skipSpace (mark : Char) (text : List Char) :
    skipMark mark (skipSpace text) = skipMark mark text := by
  rw [skipMark, skipMark, skipSpace_skipSpace]

/-- Blanks in front of a value or of its key make no difference. -/
theorem skipOpen_skipSpace (fuel : Nat) (bracket : Bracket) (stack : List Bracket)
    (text : List Char) :
    (skipKey bracket (skipSpace text) >>= skipOpen fuel .value stack) =
      (skipKey bracket text >>= skipOpen fuel .value stack) := by
  cases bracket with
  | record => simp only [skipKey, skipMark_skipSpace]
  | list =>
      cases fuel with
      | zero => simp [skipKey, bind, Except.bind, skipOpen]
      | succ fuel => simp only [skipKey, bind, Except.bind, skipOpen, skipSpace_skipSpace]

theorem skipKey_of_label {bracket : Bracket} {label : List Char} (labelled : Label bracket label)
    (rest : List Char) : skipKey bracket (label ++ rest) = .ok rest := by
  cases labelled with
  | list => rfl
  | record before key behind =>
      simp only [List.append_assoc, List.cons_append, List.nil_append, skipKey]
      rw [skipMark_append (by decide) before]
      dsimp only [bind, Except.bind]
      rw [skipString_of_stringBody key]
      dsimp only
      rw [skipMark_append (by decide) behind]

theorem skipOpen_scalar {c : Char} (solid : isSpace c = false) (notList : c ≠ '[')
    (notRecord : c ≠ '{') {blanks : List Char} (blank : Blanks blanks) (fuel : Nat)
    (stack : List Bracket) (text : List Char) :
    skipOpen (fuel + 1) .value stack (blanks ++ c :: text) =
      (skipScalar (c :: text) >>= skipOpen fuel .commaOrEnd stack) := by
  rw [skipOpen, skipSpace_append blank, skipSpace_cons solid]
  split
  · rename_i same
    exact absurd (List.cons.inj same).1 notList
  · rename_i same
    exact absurd (List.cons.inj same).1 notRecord
  · rfl

theorem skipOpen_opening (bracket : Bracket) {blanks : List Char} (blank : Blanks blanks)
    (fuel : Nat) (stack : List Bracket) (text : List Char) :
    skipOpen (fuel + 1) .value stack (blanks ++ bracket.opening :: text) =
      skipOpen fuel .firstOrEnd (bracket :: stack) text := by
  rw [skipOpen, skipSpace_append blank]
  cases bracket <;> rfl

theorem isSpace_closing (bracket : Bracket) : isSpace bracket.closing = false := by
  cases bracket <;> rfl

theorem skipOpen_closing (awaited : Awaited) (later : awaited ≠ .value) (bracket : Bracket)
    {blanks : List Char} (blank : Blanks blanks) (fuel : Nat) (outer : List Bracket)
    (text : List Char) :
    skipOpen (fuel + 1) awaited (bracket :: outer) (blanks ++ bracket.closing :: text) =
      skipOpen fuel .commaOrEnd outer text := by
  have front : skipSpace (blanks ++ bracket.closing :: text) = bracket.closing :: text := by
    rw [skipSpace_append blank, skipSpace_cons (isSpace_closing bracket)]
  cases awaited with
  | value => exact absurd rfl later
  | firstOrEnd => simp [skipOpen, front]
  | commaOrEnd => simp [skipOpen, front]

theorem skipOpen_comma (bracket : Bracket) {blanks : List Char} (blank : Blanks blanks)
    (fuel : Nat) (outer : List Bracket) (text : List Char) :
    skipOpen (fuel + 1) .commaOrEnd (bracket :: outer) (blanks ++ ',' :: text) =
      (skipKey bracket text >>= skipOpen fuel .value (bracket :: outer)) := by
  rw [skipOpen, skipSpace_append blank, skipSpace_cons (by decide)]
  cases bracket <;> rfl

/-! ## Whole values -/

/-- What a phrase is for `skipOpen`: it is behind the phrase after some rounds, whatever follows.
Items are followed by the bracket that closes them. -/
def Passed : Form → List Char → Prop
  | .value, text => ∃ rounds ≤ 2 * text.length, ∀ fuel stack blanks rest, Blanks blanks →
      Closes rest → skipOpen (fuel + rounds) .value stack (blanks ++ text ++ rest) =
        skipOpen fuel .commaOrEnd stack rest
  | .items bracket, text => ∃ rounds ≤ 2 * text.length + 1, ∀ fuel outer rest,
      (skipKey bracket (text ++ bracket.closing :: rest) >>=
          skipOpen (fuel + rounds) .value (bracket :: outer)) =
        skipOpen fuel .commaOrEnd outer rest

/-- A value without parts takes one round. -/
theorem passed_scalar {c : Char} {more : List Char} (solid : isSpace c = false) (notList : c ≠ '[')
    (notRecord : c ≠ '{')
    (skips : ∀ rest, Closes rest → skipScalar (c :: (more ++ rest)) = .ok rest) :
    Passed .value (c :: more) := by
  refine ⟨1, by simp; omega, fun fuel stack blanks rest blank closes => ?_⟩
  rw [List.append_assoc, List.cons_append, skipOpen_scalar solid notList notRecord blank,
    skips rest closes]
  rfl

theorem ne_of_isDigit {c d : Char} (digit : d.isDigit = true) (other : c.isDigit = false) :
    d ≠ c := by
  rintro rfl
  rw [digit] at other
  cases other

theorem isSpace_of_isDigit {d : Char} (digit : d.isDigit = true) : isSpace d = false := by
  have other : ∀ c : Char, c.isDigit = false → d ≠ c := fun c => ne_of_isDigit digit
  simp [isSpace, other ' ' rfl, other '\n' rfl, other '\t' rfl, other '\r' rfl]

/-- A number begins with a digit or a minus sign, and is passed over. -/
theorem skipScalar_of_numeral {text : List Char} (numeral : Numeral text) :
    ∃ c more, text = c :: more ∧ (isSpace c = false ∧ c ∉ ['[', '{', ']']) ∧
      ∀ rest, Closes rest → skipScalar (c :: (more ++ rest)) = .ok rest := by
  obtain ⟨signed, ones, parts, power⟩ := numeral
  rename_i sign whole fraction exponent
  obtain ⟨d, digits, rfl, digit⟩ := ones.exists_cons
  have other : ∀ c : Char, c.isDigit = false → d ≠ c := fun c => ne_of_isDigit digit
  have skips : ∀ rest, Closes rest →
      skipNumber (d :: (digits ++ (fraction ++ (exponent ++ rest)))) = .ok rest :=
    fun rest closes => skipNumber_append ones parts power closes
  rcases signed with rfl | rfl
  · refine ⟨d, digits ++ fraction ++ exponent, by simp, ⟨isSpace_of_isDigit digit, ?_⟩,
      fun rest closes => ?_⟩
    · simp [other '[' rfl, other '{' rfl, other ']' rfl]
    · simp only [skipScalar, other 'n' rfl, other 't' rfl, other 'f' rfl, other '"' rfl,
        other '-' rfl, digit, if_false, if_true, List.append_assoc]
      exact skips rest closes
  · refine ⟨'-', d :: digits ++ fraction ++ exponent, by simp, by decide, fun rest closes => ?_⟩
    simpa [skipScalar] using skips rest closes

/-- A value begins with a character of its own, not with a bracket that closes. -/
theorem exists_cons_of_value {text : List Char} (derived : Phrase .value text) :
    ∃ c more, text = c :: more ∧ isSpace c = false ∧ c ≠ ']' := by
  cases derived with
  | null | yes | no | string => exact ⟨_, _, rfl, rfl, by decide⟩
  | empty bracket | @filled bracket =>
      refine ⟨bracket.opening, _, rfl, ?_⟩
      cases bracket <;> exact ⟨rfl, by decide⟩
  | number numeral =>
      obtain ⟨c, more, shape, ⟨solid, own⟩, -⟩ := skipScalar_of_numeral numeral
      exact ⟨c, more, shape, solid, fun same => own (by simp [same])⟩

/-- Items begin with a character that does not close them. -/
theorem exists_cons_of_items {bracket : Bracket} {items : List Char}
    (derived : Phrase (.items bracket) items) (rest : List Char) :
    ∃ c more, skipSpace (items ++ rest) = c :: more ∧ c ≠ bracket.closing := by
  have front : ∀ {label left value right : List Char}, Label bracket label → Blanks left →
      Phrase .value value → ∃ c more,
        skipSpace (label ++ (left ++ (value ++ right))) = c :: more ∧ c ≠ bracket.closing := by
    intro label left value right labelled before inner
    cases labelled with
    | list =>
        obtain ⟨c, more, rfl, solid, other⟩ := exists_cons_of_value inner
        refine ⟨c, more ++ right, ?_, other⟩
        rw [List.nil_append, skipSpace_append before, List.cons_append, skipSpace_cons solid]
    | record blank _ _ =>
        have own : '"' ≠ Bracket.record.closing := by decide
        simp only [List.append_assoc, List.cons_append]
        rw [skipSpace_append blank, skipSpace_cons (by decide)]
        exact ⟨_, _, rfl, own⟩
  cases derived with
  | last labelled before derived behind =>
      simpa only [List.append_assoc] using front labelled before derived
  | more labelled before derived behind others =>
      simpa only [List.append_assoc] using front labelled before derived

theorem skipOpen_items {bracket : Bracket} {items : List Char}
    (derived : Phrase (.items bracket) items) (fuel : Nat) (outer : List Bracket)
    (rest : List Char) :
    skipOpen (fuel + 1) .firstOrEnd (bracket :: outer) (items ++ rest) =
      (skipKey bracket (items ++ rest) >>= skipOpen fuel .value (bracket :: outer)) := by
  obtain ⟨c, more, front, other⟩ := exists_cons_of_items derived rest
  rw [← skipOpen_skipSpace, front]
  simp [skipOpen, front, other]

theorem closes_of_head {text : List Char}
    (head : ∀ c ∈ text.head?, c ∈ [' ', '\t', '\n', '\r', ',', ']', '}']) : Closes text := by
  intro c first
  have listed := head c first
  simp only [List.mem_cons, List.not_mem_nil, or_false] at listed
  rcases listed with rfl | rfl | rfl | rfl | rfl | rfl | rfl <;> decide

theorem Blanks.closes {blanks : List Char} (blank : Blanks blanks) : Closes blanks :=
  closes_of_head fun c first =>
    List.mem_append_left [',', ']', '}'] (blank c (List.mem_of_mem_head? first))

theorem closes_of_mem {c : Char} (mark : c ∈ [',', ']', '}']) {blanks : List Char}
    (blank : Blanks blanks) (rest : List Char) : Closes (blanks ++ c :: rest) := by
  refine closes_of_head fun d head => ?_
  cases blanks with
  | nil =>
      obtain rfl : c = d := by simpa using head
      exact List.mem_append_right [' ', '\t', '\n', '\r'] mark
  | cons first more =>
      obtain rfl : first = d := by simpa using head
      exact List.mem_append_left [',', ']', '}'] (blank first List.mem_cons_self)

theorem closing_mem (bracket : Bracket) : bracket.closing ∈ [',', ']', '}'] := by
  cases bracket <;> decide

/-- Every phrase is passed over. -/
theorem passed_of_phrase {form : Form} {text : List Char} (derived : Phrase form text) :
    Passed form text := by
  induction derived with
  | null =>
      exact passed_scalar rfl (by decide) (by decide) fun rest _ =>
        skipWord_append ['u', 'l', 'l'] rest
  | yes =>
      exact passed_scalar rfl (by decide) (by decide) fun rest _ =>
        skipWord_append ['r', 'u', 'e'] rest
  | no =>
      exact passed_scalar rfl (by decide) (by decide) fun rest _ =>
        skipWord_append ['a', 'l', 's', 'e'] rest
  | number numeral =>
      obtain ⟨c, more, rfl, ⟨solid, own⟩, skips⟩ := skipScalar_of_numeral numeral
      exact passed_scalar solid (fun same => own (by simp [same]))
        (fun same => own (by simp [same])) skips
  | @string body written =>
      refine passed_scalar rfl (by decide) (by decide) fun rest _ => ?_
      have skipped := skipString_of_stringBody written rest
      simpa [skipScalar] using skipped
  | @empty bracket inner inside =>
      refine ⟨2, by simp, fun fuel stack blanks rest blank _ => ?_⟩
      have shape : blanks ++ (bracket.opening :: inner ++ [bracket.closing]) ++ rest =
          blanks ++ bracket.opening :: (inner ++ bracket.closing :: rest) := by
        simp
      rw [shape, skipOpen_opening bracket blank, skipOpen_closing _ (by decide) bracket inside]
  | @filled bracket items inside ih =>
      obtain ⟨rounds, bound, passes⟩ := ih
      refine ⟨rounds + 2, by simp; omega, fun fuel stack blanks rest blank _ => ?_⟩
      have shape : blanks ++ (bracket.opening :: items ++ [bracket.closing]) ++ rest =
          blanks ++ bracket.opening :: (items ++ bracket.closing :: rest) := by
        simp
      rw [shape, ← Nat.add_assoc, skipOpen_opening bracket blank, skipOpen_items inside, passes]
  | @last bracket label left value right labelled before derived behind ih =>
      obtain ⟨rounds, bound, passes⟩ := ih
      refine ⟨rounds + 1, by simp; omega, fun fuel outer rest => ?_⟩
      have shape : label ++ left ++ value ++ right ++ bracket.closing :: rest =
          label ++ (left ++ value ++ (right ++ bracket.closing :: rest)) := by
        simp
      have closes := closes_of_mem (closing_mem bracket) behind rest
      rw [shape, skipKey_of_label labelled]
      have inner := passes (fuel + 1) (bracket :: outer) left _ before closes
      rw [Nat.add_assoc, Nat.add_comm 1] at inner
      exact inner.trans (skipOpen_closing _ (by decide) bracket behind fuel outer rest)
  | @more bracket label left value right items labelled before derived behind others ihValue
      ihItems =>
      obtain ⟨rounds, bound, passes⟩ := ihValue
      obtain ⟨later, boundToo, passesToo⟩ := ihItems
      refine ⟨later + 1 + rounds, by simp; omega, fun fuel outer rest => ?_⟩
      have shape : label ++ left ++ value ++ right ++ ',' :: items ++ bracket.closing :: rest =
          label ++ (left ++ value ++ (right ++ ',' :: (items ++ bracket.closing :: rest))) := by
        simp
      have comma : ',' ∈ [',', ']', '}'] := by decide
      have closes := closes_of_mem comma behind (items ++ bracket.closing :: rest)
      rw [shape, skipKey_of_label labelled]
      have inner := passes (fuel + (later + 1)) (bracket :: outer) left _ before closes
      rw [Nat.add_assoc] at inner
      refine inner.trans ?_
      rw [← Nat.add_assoc, skipOpen_comma bracket behind, passesToo]

/-- A value of any depth is passed over, blanks before it included. -/
theorem skipValue_of_phrase {text blanks rest : List Char} (derived : Phrase .value text)
    (blank : Blanks blanks) (closes : Closes rest) :
    skipValue (blanks ++ text ++ rest) = .ok rest := by
  obtain ⟨rounds, bound, passes⟩ := passed_of_phrase derived
  have enough : rounds ≤ 2 * (blanks ++ text ++ rest).length + 2 := by
    simp only [List.length_append]
    omega
  obtain ⟨fuel, shape⟩ := Nat.exists_eq_add_of_le' enough
  rw [skipValue, shape, passes fuel [] blanks rest blank closes]
  cases fuel <;> rfl

end LatticeSketch.Json
