/-
# LatticeSketch.Proofs.Text.Words -- where the words of a row begin

A word begins at each character that is not blank and that has a blank, or nothing, before
it.  Counting these places counts the words (`length_words`), and unlike the words
themselves the places of an appended part depend on the row before it only through its last
character (`beginningsAfter_append`).  Where the appended part begins with a blank, the words are
those of the two parts (`words_append_blank`).
-/
import LatticeSketch.Text.Words

namespace LatticeSketch.Text

set_option autoImplicit false

/-- The number of words that begin in a part of a row, given the character before it. -/
def beginningsAfter (before : Option Char) : List Char → Nat
  | [] => 0
  | c :: rest =>
      (if !isBlank c && before.all isBlank then 1 else 0) + beginningsAfter (some c) rest

theorem length_consFirst (c : Char) {parts : List (List Char)} (nonempty : parts ≠ []) :
    (consFirst c parts).length = parts.length := by
  cases parts with
  | nil => exact absurd rfl nonempty
  | cons part parts => rfl

/-- Only whether the character before a part is blank matters to it. -/
theorem beginningsAfter_congr {before other : Option Char}
    (same : before.all isBlank = other.all isBlank) (row : List Char) :
    beginningsAfter before row = beginningsAfter other row := by
  cases row with
  | nil => rfl
  | cons c rest => simp only [beginningsAfter, same]

/-- After a character that is not blank a part has one beginning less if it goes on with the
word of that character. -/
theorem beginningsAfter_none (row : List Char) {c : Char} (solid : isBlank c = false) :
    beginningsAfter none row =
      beginningsAfter (some c) row + if row.head?.all isBlank then 0 else 1 := by
  cases row with
  | nil => rfl
  | cons d rest =>
      by_cases blank : isBlank d
      · simp [beginningsAfter, blank]
      · simp [beginningsAfter, blank, solid, Nat.add_comm]

/-- A row has as many words as places where one begins. -/
theorem length_words (row : List Char) : (words row).length = beginningsAfter none row := by
  induction row with
  | nil => rfl
  | cons c rest ih =>
      by_cases blank : isBlank c
      · have same : beginningsAfter (some c) rest = beginningsAfter none rest :=
          beginningsAfter_congr (by simp [blank]) rest
        simp [words, beginningsAfter, blank, ih, same]
      · have solid : isBlank c = false := by simpa using blank
        have split := beginningsAfter_none rest solid
        by_cases ends : rest.head?.all isBlank
        · simp only [ends, if_true, Nat.add_zero] at split
          simp [words, beginningsAfter, solid, ends, ih, split, Nat.add_comm]
        · have more : words rest ≠ [] := by
            rw [Ne, words_eq_nil_iff]
            cases rest with
            | nil => simp at ends
            | cons d tail => simp_all
          simp only [ends, Bool.false_eq_true, if_false] at split
          simp [words, beginningsAfter, solid, ends, length_consFirst c more, ih, split,
            Nat.add_comm]

/-- The beginnings of a row are those of its first part, and those of the rest as it follows
the first part's last character. -/
theorem beginningsAfter_append (before : Option Char) (first rest : List Char) :
    beginningsAfter before (first ++ rest) =
      beginningsAfter before first + beginningsAfter (first.getLast?.or before) rest := by
  induction first generalizing before with
  | nil => simp [beginningsAfter]
  | cons c more ih =>
      have last : more.getLast?.or (some c) = ((c :: more).getLast?).or before := by
        cases more with
        | nil => rfl
        | cons d tail => simp [List.getLast?_cons]
      rw [List.cons_append, beginningsAfter, beginningsAfter, ih, last, Nat.add_assoc]

theorem length_words_append (first rest : List Char) :
    (words (first ++ rest)).length =
      (words first).length + beginningsAfter first.getLast? rest := by
  rw [length_words, length_words, beginningsAfter_append, Option.or_none]

/-- A blank ends a word, so the words of a row are those in front of it and those behind it. -/
theorem words_append_blank {blank : Char} (isBlank_ : isBlank blank = true)
    (first rest : List Char) :
    words (first ++ blank :: rest) = words first ++ words rest := by
  induction first with
  | nil => simp [words, isBlank_]
  | cons c more ih =>
      have ends : (more ++ blank :: rest).head?.all isBlank = more.head?.all isBlank := by
        cases more with
        | nil => simpa using isBlank_
        | cons d tail => rfl
      rw [List.cons_append, words, words, ends, ih]
      by_cases solid : isBlank c
      · rw [if_pos solid, if_pos solid]
      · rw [if_neg solid, if_neg solid]
        by_cases last : more.head?.all isBlank = true
        · rw [if_pos last, if_pos last, List.cons_append]
        · rw [if_neg last, if_neg last]
          refine consFirst_append c (fun none => last ?_) (words rest)
          cases more with
          | nil => rfl
          | cons d tail =>
              rw [words_eq_nil_iff, List.all_cons, Bool.and_eq_true] at none
              exact none.1

end LatticeSketch.Text
