/-
# LatticeSketch.Proofs.Lattice.Rows -- rows drawn in pairs of characters

A `Row` is what a line is meant to say: its symbols, and the side on which each of them has its
space.  Its line has one pair of characters for every symbol (`Row.line`), and the words of the line
are the symbols again (`Row.words_line`).

On such lines the edits, which count characters, act on symbols: an expansion repeats the last
symbol (`Row.widenLine_line`) and a reduction keeps the first ones (`Row.narrowLine_line`).
-/
import LatticeSketch.Proofs.Lattice.Reloading

namespace LatticeSketch

set_option autoImplicit false

/-- A list with its last element repeated `count` times more. -/
def repeatLast {α : Type} (count : Nat) (list : List α) : List α :=
  list ++ (List.replicate count list.getLast?.toList).flatten

theorem repeatLast_nil {α : Type} (count : Nat) : repeatLast count ([] : List α) = [] := by
  simp [repeatLast]

theorem repeatLast_concat {α : Type} (count : Nat) (front : List α) (last : α) :
    repeatLast count (front ++ [last]) = front ++ [last] ++ List.replicate count last := by
  have single : (front ++ [last]).getLast?.toList = [last] := by
    rw [List.getLast?_concat]
    rfl
  rw [repeatLast, single, List.flatten_replicate_singleton]

theorem mem_of_mem_repeatLast {α : Type} {count : Nat} {list : List α} {element : α}
    (member : element ∈ repeatLast count list) : element ∈ list := by
  rcases List.eq_nil_or_concat list with rfl | ⟨front, last, rfl⟩
  · rwa [repeatLast_nil] at member
  · rw [List.concat_eq_append, repeatLast_concat] at member
    rcases List.mem_append.1 member with inList | repeated
    · rwa [List.concat_eq_append]
    · obtain ⟨-, rfl⟩ := List.mem_replicate.1 repeated
      simp

theorem length_repeatLast {α : Type} (count : Nat) {list : List α} (some_ : list ≠ []) :
    (repeatLast count list).length = list.length + count := by
  obtain ⟨front, last, rfl⟩ := (List.eq_nil_or_concat list).resolve_left some_
  rw [List.concat_eq_append, repeatLast_concat, List.length_append, List.length_replicate]

theorem map_repeatLast {α β : Type} (f : α → β) (count : Nat) (list : List α) :
    (repeatLast count list).map f = repeatLast count (list.map f) := by
  rcases List.eq_nil_or_concat list with rfl | ⟨front, last, rfl⟩
  · rw [repeatLast_nil, List.map_nil, repeatLast_nil]
  · simp [repeatLast_concat]

/-! ## Rows -/

/-- The symbols of a row, none of them blank, and whether the space of each is in front of it, as it
is in a shifted row, or behind it. -/
structure Row where
  shifted : Bool
  symbols : List Char
  solid : ∀ symbol ∈ symbols, Text.isBlank symbol = false

namespace Row

/-- The pair that draws one symbol. -/
def pair (shifted : Bool) (symbol : Char) : List Char :=
  if shifted then [' ', symbol] else [symbol, ' ']

/-- The line that draws a row. -/
def line (row : Row) : List Char :=
  row.symbols.flatMap (pair row.shifted)

/-- The row with its last symbol repeated. -/
def widen (row : Row) (sites : Nat) : Row where
  shifted := row.shifted
  symbols := repeatLast sites row.symbols
  solid symbol member := row.solid symbol (mem_of_mem_repeatLast member)

/-- The row without its last symbols. -/
def narrow (row : Row) (sites : Nat) : Row where
  shifted := row.shifted
  symbols := row.symbols.take (row.symbols.length - sites)
  solid symbol member := row.solid symbol (List.mem_of_mem_take member)

theorem length_pair (shifted : Bool) (symbol : Char) : (pair shifted symbol).length = 2 := by
  cases shifted <;> rfl

theorem length_flatMap_pair (shifted : Bool) (symbols : List Char) :
    (symbols.flatMap (pair shifted)).length = 2 * symbols.length := by
  induction symbols with
  | nil => rfl
  | cons symbol rest ih =>
      rw [List.flatMap_cons, List.length_append, ih, length_pair, List.length_cons]
      omega

theorem length_line (row : Row) : row.line.length = 2 * row.symbols.length :=
  length_flatMap_pair row.shifted row.symbols

theorem mem_pair {shifted : Bool} {symbol c : Char} (member : c ∈ pair shifted symbol) :
    c = ' ' ∨ c = symbol := by
  cases shifted with
  | false =>
      have either : c = symbol ∨ c = ' ' := by simpa [pair] using member
      exact either.symm
  | true => simpa [pair] using member

theorem mem_line {row : Row} {c : Char} (member : c ∈ row.line) :
    c = ' ' ∨ Text.isBlank c = false := by
  obtain ⟨symbol, inRow, inPair⟩ := List.mem_flatMap.1 member
  rcases mem_pair inPair with rfl | rfl
  · exact .inl rfl
  · exact .inr (row.solid _ inRow)

/-- The only blank of a line is the space. -/
theorem not_mem_line (row : Row) {c : Char} (other : c ≠ ' ') (blank : Text.isBlank c = true) :
    c ∉ row.line := by
  intro member
  rcases mem_line member with same | solid
  · exact other same
  · rw [blank] at solid
    cases solid

theorem unbroken_line (row : Row) : Text.Unbroken row.line :=
  ⟨not_mem_line row (by decide) (by decide), not_mem_line row (by decide) (by decide)⟩

/-- The words of a line are the symbols of its row. -/
theorem words_line (row : Row) : Text.words row.line = row.symbols.map fun symbol => [symbol] := by
  obtain ⟨shifted, symbols, solid⟩ := row
  unfold line
  dsimp only
  induction symbols with
  | nil => rfl
  | cons symbol rest ih =>
      have blank : Text.isBlank ' ' = true := by decide
      have drawn : Text.isBlank symbol = false := solid symbol (by simp)
      have behind := ih fun other member => solid other (List.mem_cons_of_mem _ member)
      rw [List.flatMap_cons, List.map_cons, ← behind]
      cases shifted with
      | false =>
          show Text.words (symbol :: ' ' :: rest.flatMap (pair false)) = _
          simp [Text.words, blank, drawn]
      | true =>
          -- the next pair begins with its space, which ends the word
          have ends : (rest.flatMap (pair true)).head?.all Text.isBlank = true := by
            cases rest <;> simp [pair, blank]
          show Text.words (' ' :: symbol :: rest.flatMap (pair true)) = _
          simp [Text.words, blank, drawn, ends]

section Drawn

variable {row : Row} (drawn : row.symbols ≠ [])

include drawn

theorem beginsShifted_line : Grid.beginsShifted row.line = row.shifted := by
  obtain ⟨shifted, symbols, solid⟩ := row
  obtain ⟨symbol, rest, rfl⟩ := List.exists_cons_of_ne_nil drawn
  cases shifted with
  | false =>
      have other : symbol ≠ ' ' := by
        rintro rfl
        exact absurd (solid ' ' (by simp)) (by decide)
      simp [line, pair, Grid.beginsShifted, other]
  | true => simp [line, pair, Grid.beginsShifted]

theorem all_isBlank_line : row.line.all Text.isBlank = false := by
  have words : Text.words row.line ≠ [] := by
    rw [words_line, Ne, List.map_eq_nil_iff]
    exact drawn
  rw [Ne, Text.words_eq_nil_iff] at words
  simpa using words

end Drawn

/-! ### Edited rows -/

/-- An expansion repeats the pair of the last symbol. -/
theorem widenLine_line (row : Row) (sites : Nat) :
    Grid.widenLine sites row.line = (row.widen sites).line := by
  obtain ⟨shifted, symbols, solid⟩ := row
  unfold widen line
  dsimp only
  rcases List.eq_nil_or_concat symbols with rfl | ⟨front, last, rfl⟩
  · simp [Grid.widenLine, Grid.lastPair, repeatLast_nil]
  · have lastPair : Grid.lastPair ((front ++ [last]).flatMap (pair shifted)) =
        pair shifted last := by
      rw [List.flatMap_append, List.flatMap_singleton]
      cases shifted <;> exact Grid.lastPair_append_two _ _ _
    have longer : (front ++ [last] ++ List.replicate sites last).flatMap (pair shifted) =
        (front ++ [last]).flatMap (pair shifted) ++
          (List.replicate sites last).flatMap (pair shifted) :=
      List.flatMap_append
    rw [List.concat_eq_append, repeatLast_concat, Grid.widenLine, lastPair, longer,
      List.flatMap_replicate]

/-- A reduction cuts whole pairs. -/
theorem narrowLine_line (row : Row) (sites : Nat) :
    Grid.narrowLine sites row.line = (row.narrow (Grid.cutSites sites)).line := by
  obtain ⟨shifted, symbols, solid⟩ := row
  let kept := symbols.length - Grid.cutSites sites
  have split : symbols.flatMap (pair shifted) =
      (symbols.take kept).flatMap (pair shifted) ++ (symbols.drop kept).flatMap (pair shifted) := by
    rw [← List.flatMap_append, List.take_append_drop]
  have cut : 2 * symbols.length - 2 * Grid.cutSites sites =
      ((symbols.take kept).flatMap (pair shifted)).length := by
    rw [length_flatMap_pair, List.length_take]
    omega
  show (symbols.flatMap (pair shifted)).take
    ((symbols.flatMap (pair shifted)).length - Grid.cutLength sites) = _
  rw [Grid.cutLength_eq, length_flatMap_pair, cut, split, List.take_left]
  rfl

end Row

end LatticeSketch
