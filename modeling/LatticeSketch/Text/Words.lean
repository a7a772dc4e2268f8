/-
# LatticeSketch.Text.Words -- the symbols of a row

`words` splits a row at runs of blank characters; a row is all blank exactly when it has
no word (`words_eq_nil_iff`).

`splitAt` splits at every occurrence of one character and keeps the empty parts.
-/
import LatticeSketch.Text.Blank
import LatticeSketch.Text.Lines

namespace LatticeSketch.Text

set_option autoImplicit false

/-- The maximal runs of non-blank characters, from left to right. -/
def words : List Char → List (List Char)
  | [] => []
  | c :: rest =>
      if isBlank c then words rest
      else if rest.head?.all isBlank then [c] :: words rest
      else consFirst c (words rest)

/-- The parts between the occurrences of `mark`; one more than there are occurrences. -/
def splitAt (mark : Char) : List Char → List (List Char)
  | [] => [[]]
  | c :: rest => if c = mark then [] :: splitAt mark rest else consFirst c (splitAt mark rest)

theorem words_eq_nil_iff (row : List Char) : words row = [] ↔ row.all isBlank = true := by
  induction row with
  | nil => simp [words]
  | cons c rest ih =>
      by_cases hc : isBlank c
      · simp [words, hc, ih]
      · simp only [words, hc, Bool.false_eq_true, if_false, List.all_cons, Bool.false_and]
        split <;> simp [consFirst_ne_nil]

end LatticeSketch.Text
