/-
# LatticeSketch.Proofs.Json.Values -- values that are read

`ReadAs` says that a reader takes a text for a value wherever the text stands: behind any blanks and
in front of anything that no number goes on with.  A string may be written in any way that spells it
(`Quoted`), a word of 32 bits in its digits (`AsWord`).  A double may be written in any way that is
read as it (`AsFloat`); its readers do not look behind the number (`Local`), so it is read so
everywhere.
-/
import LatticeSketch.Proofs.Decimal.Counting
import LatticeSketch.Proofs.Json.Ignored

namespace LatticeSketch.Json

set_option autoImplicit false

variable {α β : Type}

/-- A text is taken for a value, with blanks before it, and nothing behind it is taken. -/
def ReadAs (read : Reader α) (text : List Char) (value : α) : Prop :=
  ∀ ⦃blanks rest : List Char⦄, Blanks blanks → Closes rest →
    read (blanks ++ text ++ rest) = .ok (value, rest)

/-! ## Readers that do not look behind a number -/

/-- What a text is read as does not depend on what is behind it. -/
def Local (read : Reader α) : Prop :=
  ∀ ⦃text more rest : List Char⦄ ⦃value : α⦄, read text = .ok (value, more) → Closes rest →
    read (text ++ rest) = .ok (value, more ++ rest)

theorem Closes.not_digit {rest : List Char} (closes : Closes rest) :
    ∀ c ∈ rest.head?, c.isDigit = false :=
  fun c head => (closes c head).1

/-- A value that is made without taking anything off the text. -/
theorem local_of_made (made : Except JsonFault α) (shape : α → β) :
    Local fun text => made >>= fun value => pure (shape value, text) := by
  intro text more rest value read closes
  cases made with
  | error fault => cases read
  | ok found =>
      cases read
      rfl

theorem Local.bind {read : Reader α} {next : α → Reader β} (first : Local read)
    (second : ∀ value, Local (next value)) :
    Local fun text => read text >>= fun found => next found.1 found.2 := by
  intro text more rest value found closes
  dsimp only at found ⊢
  cases start : read text with
  | error fault =>
      rw [start] at found
      cases found
  | ok middle =>
      rw [start] at found
      rw [first start closes]
      exact second middle.1 found closes

theorem readExponent_local : Local readExponent := by
  intro text more rest value read closes
  cases text with
  | nil => cases read
  | cons c text =>
      have front : (if c = '+' ∨ c = '-' then text ++ rest else c :: (text ++ rest)) =
          (if c = '+' ∨ c = '-' then text else c :: text) ++ rest := by
        split <;> rfl
      simp only [List.cons_append, readExponent, front, takeWhile_append_of_head closes.not_digit,
        dropWhile_append_of_head closes.not_digit] at read ⊢
      generalize (if c = '+' ∨ c = '-' then text else c :: text) = digits at read ⊢
      cases none : (digits.takeWhile Char.isDigit).isEmpty with
      | true => simp [none] at read
      | false =>
          simp only [none, Bool.false_eq_true, if_false, Except.ok.injEq, Prod.mk.injEq] at read ⊢
          exact ⟨read.1, by rw [read.2]⟩

theorem readScaled_local (negative : Bool) (significand : Nat) (power : Int) :
    Local (readScaled negative significand power) := by
  intro text more rest value read closes
  cases text with
  | nil =>
      cases rest with
      | nil => simpa using read
      | cons c rest =>
          obtain ⟨-, -, small, great⟩ := closes c rfl
          rw [List.nil_append, readScaled, if_neg (by simp [small, great])]
          exact local_of_made _ Number.real read closes
  | cons c text =>
      simp only [List.cons_append, readScaled] at read ⊢
      split at read
      · rename_i mark
        rw [if_pos mark]
        have size (raised : Int) : Local fun text =>
            scaled negative significand (power + raised) >>= fun value =>
              pure (Number.real value, text) :=
          local_of_made _ Number.real
        exact readExponent_local.bind size read closes
      · rename_i mark
        rw [if_neg mark]
        exact local_of_made _ Number.real read closes

theorem readFraction_local (negative : Bool) (significand : Nat) (power : Int) :
    Local (readFraction negative significand power) := by
  intro text more rest value read closes
  simp only [readFraction, takeWhile_append_of_head closes.not_digit,
    dropWhile_append_of_head closes.not_digit] at read ⊢
  split at read
  · cases read
  · rename_i some_
    rw [if_neg some_]
    exact readScaled_local _ _ _ read closes

theorem readNumber_local (negative : Bool) : Local (readNumber negative) := by
  intro text more rest value read closes
  simp only [readNumber, takeWhile_append_of_head closes.not_digit,
    dropWhile_append_of_head closes.not_digit] at read ⊢
  split at read
  · cases read
  rename_i some_
  rw [if_neg some_]
  split at read
  · cases read
  rename_i lone
  rw [if_neg lone]
  generalize text.dropWhile Char.isDigit = behind at read ⊢
  -- What decides about the end of a number is the next character, if it is one of these.
  have same : ∀ c ∈ ['.', 'e', 'E'], (behind ++ rest).head? = some c ↔ behind.head? = some c := by
    intro c mark
    cases behind with
    | cons d behind => rfl
    | nil =>
        refine ⟨fun head => ?_, by simp⟩
        obtain ⟨-, point, small, great⟩ := closes c head
        simp [point, small, great] at mark
  split at read
  · exact readFraction_local _ _ _ read closes
  · rename_i other
    split
    · rename_i fraction point
      have head : behind.head? = some '.' := (same '.' (by simp)).1 (by rw [point]; rfl)
      obtain ⟨fraction, rfl⟩ := List.head?_eq_some_iff.1 head
      exact absurd rfl (other fraction)
    · simp only [ne_eq, same 'e' (by simp), same 'E' (by simp)]
      split at read
      · rename_i whole
        rw [if_pos whole]
        cases read
        rfl
      · rename_i broken
        rw [if_neg broken]
        exact readScaled_local _ _ _ read closes

theorem number_local : Local number := by
  intro text more rest value read closes
  have some_ : (skipSpace text).isEmpty = false := by
    refine Bool.eq_false_iff.2 fun none => ?_
    rw [number, List.isEmpty_iff.1 none] at read
    cases read
  have front : skipSpace (text ++ rest) = skipSpace text ++ rest := by
    rw [skipSpace, List.dropWhile_append, ← skipSpace, ← skipSpace, if_neg (by simp [some_])]
  obtain ⟨c, tail, shape⟩ := List.exists_cons_of_ne_nil (by simpa using some_)
  simp only [number, front, shape, List.cons_append] at read ⊢
  split at read
  · rename_i minus
    obtain ⟨rfl, rfl⟩ := List.cons.inj minus
    exact readNumber_local true read closes
  · rename_i other
    split
    · rename_i minus
      exact absurd (by rw [(List.cons.inj minus).1]) (other tail)
    · split at read
      · rename_i digit
        exact (if_pos digit).trans (readNumber_local false read closes)
      · cases read

theorem float_local : Local float := by
  intro text more rest value read closes
  cases start : number text with
  | error fault =>
      rw [float, start] at read
      cases read
  | ok found =>
      obtain ⟨size, behind⟩ := found
      rw [float, start] at read
      rw [float, number_local start closes]
      cases size with
      | natural | negative | real =>
          cases read
          rfl

theorem float_blanks {blanks : List Char} (blank : Blanks blanks) (text : List Char) :
    float (blanks ++ text) = float text := by
  rw [float, number, skipSpace_append blank]
  rfl

/-- Any way to write a double that is read as it. -/
def AsFloat (value : Float) (text : List Char) : Prop :=
  float text = .ok (value, [])

/-- A text that is read as a double is read so everywhere. -/
theorem readAs_float {value : Float} {text : List Char} (read : AsFloat value text) :
    ReadAs float text value := by
  intro blanks rest blank closes
  rw [List.append_assoc, float_blanks blank]
  exact float_local read closes

/-! ## Strings, truth values and choices -/

/-- A text in quotes that spells a value. -/
inductive Quoted (value : String) : List Char → Prop
  | mk {written : List Char} (spelled : Spells written value.toList) :
      Quoted value ('"' :: written ++ ['"'])

/-- A text without quotes, backslashes and control characters spells itself. -/
theorem spells_of_plain {text : List Char}
    (plain : text.all (fun c => 0x20 ≤ c.toNat && c != '"' && c != '\\') = true) :
    Spells text text := by
  induction text with
  | nil => exact .nil
  | cons c text ih =>
      simp only [List.all_cons, Bool.and_eq_true, decide_eq_true_eq, bne_iff_ne] at plain
      obtain ⟨⟨⟨printed, unquoted⟩, unescaped⟩, others⟩ := plain
      exact .plain ⟨printed, unquoted, unescaped⟩ (ih (by simpa [and_assoc] using others))

/-- What stands for a text may be passed over as well. -/
theorem stringBody_of_spells {written meant : List Char} (spelled : Spells written meant) :
    StringBody written := by
  induction spelled with
  | nil => exact .nil
  | plain itself _ ih => exact .plain itself ih
  | short stands _ ih => exact .short stands ih
  | code coded _ ih => exact .code coded ih
  | @pair first second written meant leading trailing c former high latter low joined _ ih =>
      have body := StringBody.code former (.code latter ih)
      simpa only [List.append_assoc, List.cons_append] using body

theorem readAs_string {value : String} {text : List Char} (quoted : Quoted value text) :
    ReadAs string text value := by
  intro blanks rest blank _
  obtain ⟨spelled⟩ := quoted
  simp only [string, List.append_assoc, List.cons_append, List.nil_append, skipSpace_append blank,
    skipSpace_cons (show isSpace '"' = false from rfl), readString_of_spells spelled]
  simp [Except.map]

/-- The word for a truth value. -/
def AsFlag (value : Bool) (text : List Char) : Prop :=
  text = if value then ['t', 'r', 'u', 'e'] else ['f', 'a', 'l', 's', 'e']

theorem readAs_flag {value : Bool} {text : List Char} (written : AsFlag value text) :
    ReadAs flag text value := by
  intro blanks rest blank _
  rw [written, flag, List.append_assoc, skipSpace_append blank]
  cases value with
  | true => simp [skipSpace, isSpace, skipWord, Except.map]
  | false => simp [skipSpace, isSpace, skipWord, Except.map]

/-- A name that is chosen. -/
theorem readAs_choice {ofName? : String → Option α} {name : String} {value : α}
    (named : ofName? name = some value) {text : List Char} (quoted : Quoted name text) :
    ReadAs (choice ofName?) text value := by
  intro blanks rest blank _
  obtain ⟨spelled⟩ := quoted
  simp only [choice, List.append_assoc, List.cons_append, List.nil_append, skipSpace_append blank,
    skipSpace_cons (show isSpace '"' = false from rfl), readString_of_spells spelled]
  simp [bind, Except.bind, named, pure, Except.pure]

/-! ## Words of 32 bits -/

theorem le_foldl_digits (digits : List Char) (start : Nat) :
    start ≤ digits.foldl (fun n d => 10 * n + (d.toNat - '0'.toNat)) start := by
  induction digits generalizing start with
  | nil => exact le_rfl
  | cons d digits ih => exact le_trans (by omega) (ih (10 * start + (d.toNat - '0'.toNat)))

/-- Digits that fit in 64 bits are gathered to the last one. -/
theorem gather_eq {digits : List Char} {start : Nat}
    (fits : digits.foldl (fun n d => 10 * n + (d.toNat - '0'.toNat)) start ≤ significandLimit) :
    gather start digits = (digits.foldl (fun n d => 10 * n + (d.toNat - '0'.toNat)) start, []) := by
  induction digits generalizing start with
  | nil => rfl
  | cons d digits ih =>
      have next : 10 * start + (d.toNat - '0'.toNat) ≤ significandLimit :=
        le_trans (le_foldl_digits digits _) fits
      rw [gather, if_pos next, ih fits]
      rfl

theorem gather_repr {n : Nat} (fits : n ≤ significandLimit) : gather 0 n.repr.toList = (n, []) := by
  have size := Decimal.natOfDigits_repr n
  rw [Decimal.natOfDigits] at size
  rw [gather_eq (by rwa [size]), size]

/-- The digits of a number begin with a zero only where the number is zero. -/
theorem eq_zero_of_head?_toDigits (n : Nat) : (Nat.toDigits 10 n).head? = some '0' → n = 0 := by
  induction n using Nat.strongRecOn with
  | ind n ih =>
      intro head
      rcases Nat.lt_or_ge n 10 with small | great
      · rw [Nat.toDigits_of_lt_base small] at head
        interval_cases n <;> first | rfl | cases head
      · obtain ⟨d, digits, shape⟩ :=
          List.exists_cons_of_ne_nil (Nat.toDigits_ne_nil (n := n / 10) (b := 10))
        have front : (Nat.toDigits 10 n).head? = (Nat.toDigits 10 (n / 10)).head? := by
          rw [Nat.toDigits_of_base_le (by decide) great, shape]
          rfl
        have := ih (n / 10) (by omega) (front ▸ head)
        omega

theorem whole_repr (n : Nat) : Whole n.repr.toList where
  nonempty := by
    rw [Nat.toList_repr]
    exact Nat.toDigits_ne_nil
  digits _ member := Decimal.isDigit_of_mem_repr member
  lone head := by
    rw [Nat.toList_repr] at head
    rw [eq_zero_of_head?_toDigits n head]
    rfl

theorem readNumber_repr {n : Nat} (fits : n ≤ significandLimit) {rest : List Char}
    (closes : Closes rest) :
    readNumber false (n.repr.toList ++ rest) = .ok (.natural n, rest) := by
  have whole := whole_repr n
  have some_ : n.repr.toList.isEmpty = false := List.isEmpty_eq_false_iff.2 whole.nonempty
  have lone : ¬ (n.repr.toList.head? = some '0' ∧ n.repr.toList.length ≠ 1) :=
    fun zero => zero.2 (whole.lone zero.1)
  simp only [readNumber, whole.takeWhile_eq closes.not_digit, whole.dropWhile_eq closes.not_digit,
    some_, gather_repr fits, Bool.false_eq_true, if_false, if_neg lone]
  split
  · exact absurd rfl (closes '.' rfl).2.1
  · have ends : rest.head? ≠ some 'e' ∧ rest.head? ≠ some 'E' :=
      ⟨fun head => (closes 'e' head).2.2.1 rfl, fun head => (closes 'E' head).2.2.2 rfl⟩
    rw [if_pos ⟨rfl, ends⟩]
    rfl

/-- The digits of a word of 32 bits, without zeros in front. -/
def AsWord (value : UInt32) (text : List Char) : Prop :=
  text = value.toNat.repr.toList

theorem readAs_word {value : UInt32} {text : List Char} (written : AsWord value text) :
    ReadAs word text value := by
  subst written
  intro blanks rest blank closes
  have small : value.toNat < wordBound := value.toNat_lt
  have fits : value.toNat ≤ significandLimit := le_trans small.le (by decide)
  have read := readNumber_repr fits closes
  obtain ⟨d, digits, shape, digit⟩ := (whole_repr value.toNat).exists_cons
  have minus : d ≠ '-' := ne_of_isDigit digit rfl
  rw [shape] at read ⊢
  have found : number (blanks ++ d :: digits ++ rest) = .ok (.natural value.toNat, rest) := by
    rw [number, List.append_assoc, skipSpace_append blank, List.cons_append,
      skipSpace_cons (isSpace_of_isDigit digit)]
    split
    · rename_i same
      exact absurd (List.cons.inj same).1 minus
    · exact (if_pos digit).trans read
  rw [word, found]
  simp [bind, Except.bind, small, pure, Except.pure]

end LatticeSketch.Json
