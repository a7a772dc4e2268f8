/-
# LatticeSketch.Text.Lines -- texts as lines

A line ends at a line feed, or at a carriage return directly before it; a carriage
return anywhere else belongs to its line.  The last line need not be terminated, and a
terminator at the very end opens no further line.

`lines` takes a text apart and `unlines` puts lines together, each with a line feed.
Lines that hold no line feed and do not end in a carriage return come back unchanged
(`lines_unlines`).
-/
namespace LatticeSketch.Text

set_option autoImplicit false

/-- Puts `c` in front of the first part, opening one if there is none. -/
def consFirst (c : Char) : List (List Char) → List (List Char)
  | [] => [[c]]
  | part :: parts => (c :: part) :: parts

/-- The lines of a text, without their terminators. -/
def lines : List Char → List (List Char)
  | [] => []
  | '\n' :: rest => [] :: lines rest
  | '\r' :: '\n' :: rest => [] :: lines rest
  | c :: rest => consFirst c (lines rest)

/-- The text whose lines are the given ones, each with a line feed. -/
def unlines (parts : List (List Char)) : List Char :=
  parts.flatMap (· ++ ['\n'])

theorem unlines_nil : unlines [] = [] := rfl

theorem unlines_cons (part : List Char) (parts : List (List Char)) :
    unlines (part :: parts) = part ++ '\n' :: unlines parts := by
  simp [unlines]

theorem consFirst_ne_nil (c : Char) (parts : List (List Char)) : consFirst c parts ≠ [] := by
  cases parts <;> simp [consFirst]

theorem consFirst_append (c : Char) {first : List (List Char)} (nonempty : first ≠ [])
    (rest : List (List Char)) : consFirst c (first ++ rest) = consFirst c first ++ rest := by
  cases first with
  | nil => exact absurd rfl nonempty
  | cons part parts => rfl

/-- A character that neither ends a line nor starts a terminator belongs to its line. -/
theorem lines_cons {c : Char} (rest : List Char) (feed : c ≠ '\n')
    (pair : c = '\r' → rest.head? ≠ some '\n') :
    lines (c :: rest) = consFirst c (lines rest) := by
  rw [lines.eq_def]
  split <;> simp_all

/-- A terminated line in front of a text is the first line of the whole. -/
theorem lines_append_feed (part rest : List Char) (feed : '\n' ∉ part)
    (lastChar : part.getLast? ≠ some '\r') :
    lines (part ++ '\n' :: rest) = part :: lines rest := by
  induction part with
  | nil => simp [lines]
  | cons c tail ih =>
      have hc : c ≠ '\n' := fun h => feed (by simp [h])
      have htail : '\n' ∉ tail := fun h => feed (List.mem_cons_of_mem _ h)
      rw [List.cons_append, lines_cons _ hc]
      · cases tail with
        | nil => simp [lines, consFirst]
        | cons d more =>
            rw [ih htail (by simpa [List.getLast?_cons_cons] using lastChar)]
            rfl
      · intro hr
        cases tail with
        | nil => simp [hr] at lastChar
        | cons d more =>
            have hd : d ≠ '\n' := fun h => htail (by simp [h])
            simpa using hd

theorem lines_unlines (parts : List (List Char)) (feed : ∀ part ∈ parts, '\n' ∉ part)
    (lastChar : ∀ part ∈ parts, part.getLast? ≠ some '\r') :
    lines (unlines parts) = parts := by
  induction parts with
  | nil => rfl
  | cons part parts ih =>
      rw [unlines_cons, lines_append_feed _ _ (feed part (by simp)) (lastChar part (by simp)),
        ih (fun p h => feed p (by simp [h])) (fun p h => lastChar p (by simp [h]))]

end LatticeSketch.Text
