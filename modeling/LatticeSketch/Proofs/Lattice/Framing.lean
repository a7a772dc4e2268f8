/-
# LatticeSketch.Proofs.Lattice.Framing -- a lattice with empty sites all around

One grid frames another if it draws the same rows with an empty site at both ends of each, between
two rows of empty sites.  The rows come to stand one higher, so a frame shifts the even rows where
the other grid shifts the odd ones (`Grid.Frames`).  There is a text that draws a frame around any
grid (`frames_framed`).

A position of the framed lattice is found one row higher and one column further on.  That holds of
the positions outside of it too: they are in the frame or outside of both, and all of these are
empty (`siteAt_of_frames`).  So the two lattices have the same occupied cells, in the same order,
but for this move (`occupied_of_frames`).
-/
import LatticeSketch.Proofs.Lattice.Cells
import LatticeSketch.Proofs.Lattice.Redrawing
import Mathlib.Data.List.Basic

namespace LatticeSketch

set_option autoImplicit false

namespace Grid

/-- A row with an empty site at both ends. -/
def frameRow (symbols : List String) : List String :=
  "." :: (symbols ++ ["."])

/-- `outer` draws `inner` with a row of empty sites above and below it and an empty site at both
ends of every row.  The rows come to stand one higher, and those are shifted that were. -/
structure Frames (outer inner : Grid) : Prop where
  rows : outer.rows =
    (List.replicate inner.columns "." :: (inner.rows ++ [List.replicate inner.columns "."])).map
      frameRow
  evenShifted : outer.evenShifted = !inner.evenShifted

/-! ## Sites of a row -/

/-- The site in a column of a row; the columns outside are empty. -/
def rowSite (symbols : List String) (column : Int) : Site :=
  if column < 0 then .empty else (symbols[column.toNat]?.map Site.ofSymbol).getD .empty

theorem rowSite_natCast (symbols : List String) (column : Nat) :
    rowSite symbols column = (symbols[column]?.map Site.ofSymbol).getD .empty := by
  have after : ¬ (column : Int) < 0 := by omega
  rw [rowSite, if_neg after, Int.toNat_natCast]

/-- A dot draws an empty site. -/
theorem ofSymbol_dot : Site.ofSymbol "." = .empty := rfl

theorem rowSite_replicate (count : Nat) (column : Int) :
    rowSite (List.replicate count ".") column = .empty := by
  unfold rowSite
  split
  · rfl
  · rw [List.getElem?_replicate]
    split
    · rw [Option.map_some, Option.getD_some, ofSymbol_dot]
    · rfl

/-- The sites of a framed row are one column further on. -/
theorem rowSite_frameRow (symbols : List String) (column : Int) :
    rowSite (frameRow symbols) (column + 1) = rowSite symbols column := by
  rcases Int.lt_trichotomy column (-1) with before | rfl | inside
  · rw [rowSite, rowSite, if_pos (by omega), if_pos (by omega)]
  · rfl
  · obtain ⟨place, rfl⟩ := Int.eq_ofNat_of_zero_le (show 0 ≤ column by omega)
    rw [← Int.natCast_succ, rowSite_natCast, rowSite_natCast, frameRow,
      List.getElem?_cons_succ, List.getElem?_append]
    split
    · rfl
    · rename_i beyond
      rw [List.getElem?_eq_none (Nat.le_of_not_lt beyond)]
      -- behind the row there is the dot and then nothing
      cases place - symbols.length <;> rfl

/-- The site at a position is that of its row, rows counted from the last one. -/
theorem siteAt_eq (grid : Grid) (row column : Int) :
    grid.siteAt row column =
      if row < 0 then .empty
      else (grid.rows.reverse[row.toNat]?.map (rowSite · column)).getD .empty := by
  unfold siteAt
  by_cases below : row < 0
  · rw [if_pos (Or.inl below), if_pos below]
  rw [if_neg below]
  by_cases above : (grid.height : Int) ≤ row
  · have beyond : grid.rows.reverse.length ≤ row.toNat := by
      rw [List.length_reverse, grid.rows_length]
      omega
    rw [if_pos (Or.inr (Or.inl above)), List.getElem?_eq_none beyond]
    rfl
  · rw [grid.getElem?_reverse_rows (by omega)]
    by_cases left : column < 0
    · rw [if_pos (Or.inr (Or.inr left))]
      cases grid.rows[grid.height - 1 - row.toNat]? with
      | none => rfl
      | some symbols => rw [Option.map_some, Option.getD_some, rowSite, if_pos left]
    · rw [if_neg (by omega)]
      cases grid.rows[grid.height - 1 - row.toNat]? with
      | none => rfl
      | some symbols =>
          rw [Option.bind_some, Option.map_some, Option.getD_some, rowSite, if_neg left]
          cases symbols[column.toNat]? <;> rfl

/-! ## Sites of a framed lattice -/

section Frames

variable {outer inner : Grid} (frames : outer.Frames inner)

include frames

theorem height_of_frames : outer.height = inner.height + 2 := by
  rw [← rows_length, frames.rows, ← rows_length]
  simp

/-- The rows from the last one upwards, between two rows of empty sites. -/
theorem reverse_rows_of_frames :
    outer.rows.reverse =
      frameRow (List.replicate inner.columns ".") ::
        (inner.rows.reverse ++ [List.replicate inner.columns "."]).map frameRow := by
  rw [frames.rows]
  simp

/-- A position of the framed lattice, or one outside of it, is one row higher and one column
further on in the frame. -/
theorem siteAt_of_frames (row column : Int) :
    outer.siteAt (row + 1) (column + 1) = inner.siteAt row column := by
  have dots : rowSite (frameRow (List.replicate inner.columns ".")) (column + 1) = .empty := by
    rw [rowSite_frameRow, rowSite_replicate]
  rw [siteAt_eq, siteAt_eq, reverse_rows_of_frames frames]
  rcases Int.lt_trichotomy row (-1) with before | rfl | inside
  · rw [if_pos (by omega), if_pos (by omega)]
  · exact dots
  · obtain ⟨place, rfl⟩ := Int.eq_ofNat_of_zero_le (show 0 ≤ row by omega)
    rw [if_neg (by omega), if_neg (by omega), ← Int.natCast_succ, Int.toNat_natCast,
      Int.toNat_natCast, List.getElem?_cons_succ, List.getElem?_map, List.getElem?_append]
    split
    · cases inner.rows.reverse[place]? with
      | none => rfl
      | some symbols => exact rowSite_frameRow symbols column
    · rename_i beyond
      rw [List.getElem?_eq_none (Nat.le_of_not_lt beyond)]
      -- above the last row there is the frame and then nothing
      cases place - inner.rows.reverse.length with
      | zero => exact dots
      | succ more => rfl

section Rectangular

variable (checked : inner.check = .ok ())

include checked

theorem length_of_mem_rows : ∀ row ∈ outer.rows, row.length = inner.columns + 2 := by
  have wide := (check_eq_ok_iff inner).1 checked
  rw [frames.rows, List.forall_mem_map]
  intro row member
  have length : row.length = inner.columns := by
    rcases List.mem_cons.1 member with rfl | member
    · exact List.length_replicate
    rcases List.mem_append.1 member with inRows | last
    · exact wide row inRows
    · rw [List.mem_singleton.1 last, List.length_replicate]
  simp [frameRow, length]

theorem columns_of_frames : outer.columns = inner.columns + 2 := by
  refine columns_of_forall ?_ (length_of_mem_rows frames checked)
  rw [frames.rows]
  simp

theorem check_of_frames : outer.check = .ok () := by
  rw [check_eq_ok_iff, columns_of_frames frames checked]
  exact length_of_mem_rows frames checked

end Rectangular

end Frames

/-! ## Occupied cells -/

/-- The cells of a lattice whose sites are not empty. -/
def occupied (grid : Grid) : List Cell :=
  grid.drawnCells.filter fun cell => !cell.site.isEmpty

/-- The cell at a position, if its site is not empty. -/
def occupant (grid : Grid) (row column : Nat) : List Cell :=
  if (grid.siteAt row column).isEmpty then [] else [⟨row, column, grid.siteAt row column⟩]

theorem occupied_eq (grid : Grid) :
    grid.occupied = (List.range grid.height).flatMap fun row =>
      (List.range grid.columns).flatMap fun column => grid.occupant row column := by
  have single : ∀ row column : Nat,
      ([⟨row, column, grid.siteAt row column⟩] : List Cell).filter
        (fun cell => !cell.site.isEmpty) = grid.occupant row column := by
    intro row column
    unfold occupant
    cases empty : (grid.siteAt row column).isEmpty <;> simp [empty]
  rw [occupied, drawnCells, positions, List.map_flatMap, List.filter_flatMap]
  refine List.flatMap_congr fun row _ => ?_
  rw [List.map_map, List.map_eq_flatMap, List.filter_flatMap]
  exact List.flatMap_congr fun column _ => single row column

/-- Numbers at both ends of a range that contribute nothing can be left out. -/
theorem flatMap_range_inside {α : Type} {count : Nat} {f : Nat → List α} (first : f 0 = [])
    (last : f (count + 1) = []) :
    (List.range (count + 2)).flatMap f =
      (List.range count).flatMap fun number => f (number + 1) := by
  rw [List.range_succ, List.range_succ_eq_map, List.flatMap_append, List.flatMap_cons,
    List.flatMap_map, List.flatMap_singleton, first, last, List.nil_append, List.append_nil]

/-- Right of the last column every position is empty. -/
theorem siteAt_beyond {grid : Grid} (checked : grid.check = .ok ()) (row : Int) {column : Int}
    (beyond : (grid.columns : Int) ≤ column) : grid.siteAt row column = .empty := by
  rw [siteAt_eq]
  split
  · rfl
  · cases found : grid.rows.reverse[row.toNat]? with
    | none => rfl
    | some symbols =>
        have wide := (check_eq_ok_iff grid).1 checked symbols
          (List.mem_reverse.1 (List.mem_of_getElem? found))
        have outside : symbols.length ≤ column.toNat := by omega
        rw [Option.map_some, Option.getD_some, rowSite, List.getElem?_eq_none outside]
        split <;> rfl

theorem siteAt_outside {grid : Grid} {row column : Int}
    (outside : row < 0 ∨ grid.height ≤ row ∨ column < 0) : grid.siteAt row column = .empty := by
  rw [siteAt, if_pos outside]

end Grid

/-- The cell one row higher and one column further on. -/
def Cell.inFrame (cell : Cell) : Cell :=
  { cell with row := cell.row + 1, column := cell.column + 1 }

namespace Grid

/-- A frame occupies the cells that the framed lattice occupies, each one row higher and one column
further on. -/
theorem occupied_of_frames {outer inner : Grid} (frames : outer.Frames inner)
    (checked : inner.check = .ok ()) : outer.occupied = inner.occupied.map Cell.inFrame := by
  have moved : ∀ row column : Nat,
      outer.occupant (row + 1) (column + 1) = (inner.occupant row column).map Cell.inFrame := by
    intro row column
    have site : outer.siteAt ((row + 1 : Nat) : Int) ((column + 1 : Nat) : Int) =
        inner.siteAt row column := siteAt_of_frames frames row column
    unfold occupant
    rw [site]
    split <;> rfl
  -- the rows and columns of the frame occupy nothing
  have vacant : ∀ row column : Nat,
      inner.siteAt ((row : Int) - 1) ((column : Int) - 1) = .empty →
        outer.occupant row column = [] := by
    intro row column empty
    have site := siteAt_of_frames frames (row - 1) (column - 1)
    rw [Int.sub_add_cancel, Int.sub_add_cancel, empty] at site
    rw [occupant, site]
    rfl
  rw [occupied_eq, occupied_eq, height_of_frames frames, columns_of_frames frames checked,
    flatMap_range_inside, List.map_flatMap]
  · refine List.flatMap_congr fun row _ => ?_
    rw [flatMap_range_inside, List.map_flatMap]
    · exact List.flatMap_congr fun column _ => moved row column
    · exact vacant _ _ (siteAt_outside (by omega))
    · exact vacant _ _ (siteAt_beyond checked _ (by omega))
  · rw [List.flatMap_eq_nil_iff]
    exact fun column _ => vacant _ _ (siteAt_outside (by omega))
  · rw [List.flatMap_eq_nil_iff]
    exact fun column _ => vacant _ _ (siteAt_outside (by omega))

/-! ## A frame for every lattice -/

/-- A line with an empty site at both ends, behind a space if its row is shifted. -/
def frameLine (shifted : Bool) (line : List Char) : List Char :=
  (if shifted then [' '] else []) ++ '.' :: ' ' :: (line ++ [' ', '.'])

/-- A line of empty sites. -/
def dots (count : Nat) : List Char :=
  (List.replicate count ['.', ' ']).flatten

/-- The lines of a frame around the lines of a grid. -/
def frameLines (grid : Grid) : List (List Char) :=
  (dots grid.columns :: (grid.lines ++ [dots grid.columns])).map (frameLine (!grid.evenShifted))

theorem words_dots (count : Nat) : Text.words (dots count) = List.replicate count ['.'] := by
  induction count with
  | zero => rfl
  | succ count ih =>
      have more : dots (count + 1) = ['.'] ++ ' ' :: dots count := rfl
      have one : Text.words ['.'] = [['.']] := by decide
      rw [more, Text.words_append_blank (by decide), ih, one]
      rfl

theorem words_frameLine (shifted : Bool) (line : List Char) :
    Text.words (frameLine shifted line) = ['.'] :: (Text.words line ++ [['.']]) := by
  have inside : Text.words ('.' :: ' ' :: (line ++ [' ', '.'])) =
      ['.'] :: (Text.words line ++ [['.']]) := by
    have split : '.' :: ' ' :: (line ++ [' ', '.']) = ['.'] ++ ' ' :: (line ++ ' ' :: ['.']) := rfl
    have one : Text.words ['.'] = [['.']] := by decide
    rw [split, Text.words_append_blank (by decide), Text.words_append_blank (by decide), one]
    rfl
  cases shifted with
  | false => exact inside
  | true =>
      have front := Text.words_append_blank (show Text.isBlank ' ' = true by decide) []
        ('.' :: ' ' :: (line ++ [' ', '.']))
      rw [inside] at front
      exact front

theorem feed_not_mem_dots (count : Nat) : '\n' ∉ dots count := by
  simp [dots, List.mem_flatten, List.mem_replicate]

theorem feed_not_mem_frameLines (grid : Grid) : ∀ line ∈ grid.frameLines, '\n' ∉ line := by
  have inside : ∀ line ∈ dots grid.columns :: (grid.lines ++ [dots grid.columns]),
      '\n' ∉ line := by
    intro line member
    simp only [List.mem_cons, List.mem_append, List.not_mem_nil, or_false] at member
    rcases member with rfl | drawn | rfl
    · exact feed_not_mem_dots _
    · exact feed_not_mem_of_mem_lines drawn
    · exact feed_not_mem_dots _
  rw [frameLines, List.forall_mem_map]
  intro line member
  have plain := inside line member
  unfold frameLine
  cases grid.evenShifted <;> simp [plain]

theorem solid_of_mem_frameLines (grid : Grid) :
    ∀ line ∈ grid.frameLines, line.all Text.isBlank = false := by
  rw [frameLines, List.forall_mem_map]
  intro line _
  rw [← Bool.not_eq_true, ← Text.words_eq_nil_iff, words_frameLine]
  exact List.cons_ne_nil _ _

/-- A framed line ends in a dot, so no carriage return of it is read as a part of its end. -/
theorem chopReturn_frameLine (shifted : Bool) (line : List Char) :
    Text.chopReturn (frameLine shifted line) = frameLine shifted line := by
  apply Text.chopReturn_of_getLast?
  have ends : frameLine shifted line =
      ((if shifted then [' '] else []) ++ '.' :: ' ' :: (line ++ [' '])) ++ ['.'] := by
    simp [frameLine]
  rw [ends, List.getLast?_concat]
  decide

/-- The grid that a frame draws. -/
def framed (grid : Grid) : Grid :=
  ofText (String.ofList (Text.unlines grid.frameLines))

theorem lines_framed (grid : Grid) : grid.framed.lines = grid.frameLines := by
  rw [framed, lines_ofText_unlines (feed_not_mem_frameLines grid) (solid_of_mem_frameLines grid)]
  have same : ∀ line ∈ grid.frameLines, Text.chopReturn (Text.chopReturn line) = line := by
    rw [frameLines, List.forall_mem_map]
    intro line _
    rw [chopReturn_frameLine, chopReturn_frameLine]
  exact (List.map_congr_left same).trans (List.map_id _)

/-- Every lattice can be framed. -/
theorem frames_framed (grid : Grid) : grid.framed.Frames grid := by
  have row : ∀ line : List Char,
      (Text.words (frameLine (!grid.evenShifted) line)).map String.ofList =
        frameRow ((Text.words line).map String.ofList) := by
    intro line
    rw [words_frameLine, List.map_cons, List.map_append]
    rfl
  have empty : (Text.words (dots grid.columns)).map String.ofList =
      List.replicate grid.columns "." := by
    rw [words_dots, List.map_replicate]
  refine ⟨?_, ?_⟩
  · rw [rows, lines_framed, frameLines, List.map_map]
    simp [Function.comp_def, row, empty, rows]
  · have flag : grid.framed.evenShifted =
        ((grid.framed.lines.map beginsShifted).getLast?).getD false :=
      evenShifted_of_read (normalize (String.ofList (Text.unlines grid.frameLines)))
    have last : grid.frameLines =
        (dots grid.columns :: grid.lines).map (frameLine (!grid.evenShifted)) ++
          [frameLine (!grid.evenShifted) (dots grid.columns)] := by
      simp [frameLines]
    rw [flag, lines_framed, last, List.map_append, List.map_singleton, List.getLast?_concat]
    cases grid.evenShifted <;> rfl

end Grid

end LatticeSketch
