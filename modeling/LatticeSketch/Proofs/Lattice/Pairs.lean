/-
# LatticeSketch.Proofs.Lattice.Pairs -- edits of lattices drawn in pairs

A lattice whose lines are all drawn in pairs draws a list of rows (`Grid.Draws`), and an edit of it
draws the edited rows: an expansion repeats the last symbol of each (`Grid.Draws.expand_eq`), a
reduction by fewer sites than there are columns keeps the first ones (`Grid.Draws.reduce_eq`).  Rows
keep their sides, so the offset of the lattice stays, and the edited lattice is drawn in pairs and
read as it stands (`columnwise_edits`).

Two cases are apart.  A lattice without rows has no row that could be too narrow, so no reduction of
it is refused.  And a refused reduction leaves the text as it is, which may have carriage returns
behind its rows that reading drops (`not_columnwise_edits`).
-/
import LatticeSketch.Proofs.Lattice.Redrawing
import LatticeSketch.Proofs.Lattice.Rows

namespace LatticeSketch

set_option autoImplicit false

namespace Grid

/-- The line draws a row of `columns` symbols in pairs. -/
def IsPaired (columns : Nat) (line : List Char) : Prop :=
  ∃ row : Row, row.symbols.length = columns ∧ row.line = line

/-- `edited` is drawn in as many rows as `grid`, on the same sides and with the same offset, each
row in `columns` pairs. -/
structure DrawnLike (grid edited : Grid) (columns : Nat) : Prop where
  height : edited.height = grid.height
  evenShifted : edited.evenShifted = grid.evenShifted
  sides : edited.lines.map beginsShifted = grid.lines.map beginsShifted
  paired : ∀ line ∈ edited.lines, IsPaired columns line
  columns : 0 < edited.height → edited.columns = columns

/-- The grid that the given rows draw. -/
def ofRows (rows : List Row) : Grid :=
  ofLines (rows.map Row.line)

theorem unbroken_lines_of_rows (rows : List Row) :
    ∀ line ∈ rows.map Row.line, Text.Unbroken line := by
  rw [List.forall_mem_map]
  intro row _
  exact row.unbroken_line

theorem lines_ofRows (rows : List Row) : (ofRows rows).lines = rows.map Row.line :=
  lines_ofLines (unbroken_lines_of_rows rows)

/-- Lines that draw rows are the lines of these rows. -/
theorem exists_rows {columns : Nat} {lines : List (List Char)}
    (paired : ∀ line ∈ lines, IsPaired columns line) :
    ∃ rows : List Row, (∀ row ∈ rows, row.symbols.length = columns) ∧ lines = rows.map Row.line := by
  induction lines with
  | nil => exact ⟨[], by simp, rfl⟩
  | cons line rest ih =>
      rw [List.forall_mem_cons] at paired
      obtain ⟨row, wide, rfl⟩ := paired.1
      obtain ⟨rows, wider, rfl⟩ := ih paired.2
      exact ⟨row :: rows, List.forall_mem_cons.2 ⟨wide, wider⟩, rfl⟩

/-- The grid draws the given rows, each of `columns` symbols, and is as reading gives it. -/
structure Draws (grid : Grid) (rows : List Row) (columns : Nat) : Prop where
  legible : grid.Legible
  lines : grid.lines = rows.map Row.line
  some_ : 0 < columns
  wide : ∀ row ∈ rows, row.symbols.length = columns

theorem draws_ofRows {rows : List Row} {columns : Nat} (some_ : 0 < columns)
    (wide : ∀ row ∈ rows, row.symbols.length = columns) : (ofRows rows).Draws rows columns :=
  ⟨legible_ofLines (unbroken_lines_of_rows rows), lines_ofRows rows, some_, wide⟩

/-- A grid that was read and is drawn in pairs draws some rows. -/
theorem exists_draws {text : String} {columns : Nat} (some_ : 0 < columns)
    (paired : ∀ line ∈ (ofText text).lines, IsPaired columns line) :
    ∃ rows, (ofText text).Draws rows columns := by
  obtain ⟨rows, wide, lines⟩ := exists_rows paired
  refine ⟨rows, legible_ofText ?_, lines, some_, wide⟩
  rw [lines]
  exact unbroken_lines_of_rows rows

section Draws

variable {grid : Grid} {rows : List Row} {columns : Nat} (draws : grid.Draws rows columns)

include draws

theorem Draws.symbols_ne_nil {row : Row} (member : row ∈ rows) : row.symbols ≠ [] := by
  apply List.ne_nil_of_length_pos
  rw [draws.wide row member]
  exact draws.some_

/-- The symbols of the rows are the words of their lines. -/
theorem Draws.rows_eq : grid.rows = rows.map fun row => row.symbols.map String.singleton := by
  rw [Grid.rows, draws.lines, List.map_map]
  apply List.map_congr_left
  intro row _
  show (Text.words row.line).map String.ofList = _
  rw [row.words_line, List.map_map]
  apply List.map_congr_left
  intro symbol _
  rfl

theorem Draws.height_eq : grid.height = rows.length := by
  rw [height, draws.lines, List.length_map]

theorem Draws.columns_eq (high : 0 < grid.height) : grid.columns = columns := by
  apply columns_of_forall
  · rw [← rows_length] at high
    exact List.ne_nil_of_length_pos high
  · rw [draws.rows_eq, List.forall_mem_map]
    intro row member
    rw [List.length_map, draws.wide row member]

/-- The lines begin with a space in the shifted rows. -/
theorem Draws.sides_eq : grid.lines.map beginsShifted = rows.map Row.shifted := by
  rw [draws.lines, List.map_map]
  apply List.map_congr_left
  intro row member
  exact Row.beginsShifted_line (draws.symbols_ne_nil member)

/-- Grids that draw their rows on the same sides are alike. -/
theorem Draws.drawnLike {edited : Grid} {changed : List Row} {columns' : Nat}
    (redraws : edited.Draws changed columns')
    (sides : changed.map Row.shifted = rows.map Row.shifted) :
    grid.DrawnLike edited columns' := by
  have same : edited.lines.map beginsShifted = grid.lines.map beginsShifted := by
    rw [redraws.sides_eq, draws.sides_eq, sides]
  refine ⟨?_, ?_, same, ?_, redraws.columns_eq⟩
  · rw [redraws.height_eq, draws.height_eq]
    simpa using congrArg List.length sides
  · rw [redraws.legible.flag, draws.legible.flag, same]
  · rw [redraws.lines, List.forall_mem_map]
    intro row member
    exact ⟨row, redraws.wide row member, rfl⟩

/-- A drawn row is not blank. -/
theorem Draws.solid : ∀ line ∈ rows.map Row.line, line.all Text.isBlank = false := by
  rw [List.forall_mem_map]
  intro row member
  exact Row.all_isBlank_line (draws.symbols_ne_nil member)

/-! ### Wider -/

theorem Draws.expand_eq (sites : Nat) :
    grid.expand sites = ofRows (rows.map fun row => row.widen sites) := by
  rw [expand_of_legible draws.legible, draws.lines, ofRows, List.map_map, List.map_map]
  apply congrArg ofLines
  apply List.map_congr_left
  intro row _
  exact row.widenLine_line sites

theorem Draws.expand (sites : Nat) :
    (grid.expand sites).Draws (rows.map fun row => row.widen sites) (columns + sites) := by
  have positive : 0 < columns + sites := Nat.add_pos_left draws.some_ sites
  rw [draws.expand_eq]
  apply draws_ofRows positive
  rw [List.forall_mem_map]
  intro row member
  show (repeatLast sites row.symbols).length = columns + sites
  rw [length_repeatLast sites (draws.symbols_ne_nil member), draws.wide row member]

theorem Draws.rows_expand (sites : Nat) :
    (grid.expand sites).rows = grid.rows.map (repeatLast sites) := by
  rw [(draws.expand sites).rows_eq, draws.rows_eq, List.map_map, List.map_map]
  apply List.map_congr_left
  intro row _
  exact map_repeatLast _ _ _

/-! ### Narrower -/

section Fewer

variable {sites : Nat} (fewer : sites < columns)

include fewer

theorem Draws.narrow :
    (ofRows (rows.map fun row => row.narrow sites)).Draws (rows.map fun row => row.narrow sites)
      (columns - sites) := by
  apply draws_ofRows (Nat.sub_pos_of_lt fewer)
  rw [List.forall_mem_map]
  intro row member
  show (row.symbols.take (row.symbols.length - sites)).length = columns - sites
  rw [List.length_take, draws.wide row member]
  omega

theorem Draws.rows_narrow :
    (ofRows (rows.map fun row => row.narrow sites)).rows =
      grid.rows.map (List.take (columns - sites)) := by
  rw [(draws.narrow fewer).rows_eq, draws.rows_eq, List.map_map, List.map_map]
  apply List.map_congr_left
  intro row member
  show (row.symbols.take (row.symbols.length - sites)).map String.singleton =
    (row.symbols.map String.singleton).take (columns - sites)
  rw [draws.wide row member, List.map_take]

end Fewer

/-- A reduction that cuts fewer sites than there are columns keeps the others. -/
theorem Draws.reduce_eq {sites : Nat} (fewer : cutSites sites < columns) :
    grid.reduce sites = .ok (ofRows (rows.map fun row => row.narrow (cutSites sites))) := by
  have lines : grid.lines.map (narrowLine sites) =
      (rows.map fun row => row.narrow (cutSites sites)).map Row.line := by
    rw [draws.lines, List.map_map, List.map_map]
    apply List.map_congr_left
    intro row _
    exact row.narrowLine_line sites
  have solid := (draws.narrow fewer).solid
  rw [← lines, List.forall_mem_map] at solid
  exact (reduce_eq_ok_iff draws.legible sites _).2 ⟨solid, by rw [lines]; rfl⟩

/-- A reduction that cuts all columns leaves nothing of the topmost row. -/
theorem Draws.reduce_of_le {sites : Nat} (all : columns ≤ cutSites sites) (high : 0 < grid.height) :
    grid.reduce sites = .error (.tooNarrow sites 0 (2 * columns)) := by
  rw [draws.height_eq] at high
  obtain ⟨row, rest, rfl⟩ := List.exists_cons_of_ne_nil (List.ne_nil_of_length_pos high)
  have width : row.symbols.length = columns := draws.wide row (by simp)
  have nothing : row.symbols.length - cutSites sites = 0 := by
    omega
  have blank : (narrowLine sites row.line).all Text.isBlank = true := by
    rw [row.narrowLine_line, Row.line, Row.narrow]
    simp [nothing]
  have refused := reduce_of_blank_first draws.lines blank
  rwa [row.length_line, width] at refused

end Draws

/-- The grid of drawn rows is read from its text. -/
theorem ofText_model_ofRows {rows : List Row} {columns : Nat}
    (draws : (ofRows rows).Draws rows columns) : ofText (ofRows rows).model = ofRows rows :=
  ofText_model_ofLines (unbroken_lines_of_rows rows) draws.solid

/-- Edits of a lattice that was read and is drawn in pairs, `columns` of them in each row, act on its
columns.  An expansion repeats the last symbol of each row and a reduction by fewer sites keeps the
first ones; either leaves as many rows, on the same sides and in pairs, with the same offset, and its
text is read as it stands.  A reduction by all columns is refused, if there is a row, and leaves the
lattice, whose text is read as the same lattice unless it has a carriage return behind a row.  The
characters of the sites that a reduction takes off have to be countable.  Without rows no edit
changes anything. -/
theorem columnwise_edits {text : String} {columns : Nat} (some_ : 0 < columns)
    (paired : ∀ line ∈ (ofText text).lines, IsPaired columns line) (sites : Nat) :
    let grid := ofText text
    (grid.DrawnLike (grid.expand sites) (columns + sites) ∧
      (grid.expand sites).rows = grid.rows.map (repeatLast sites) ∧
      ofText (grid.expand sites).model = grid.expand sites) ∧
    (2 * sites < countBound → sites < columns → ∃ narrower, grid.reduce sites = .ok narrower ∧
      grid.DrawnLike narrower (columns - sites) ∧
      narrower.rows = grid.rows.map (List.take (columns - sites)) ∧
      ofText narrower.model = narrower) ∧
    (2 * sites < countBound → columns ≤ sites → 0 < grid.height →
      grid.reduce sites = .error (.tooNarrow sites 0 (2 * columns)) ∧
      ∀ {σ : Type} [LatticeStore σ] (store : σ) (crystal : Crystal), crystal.grid = grid →
        (crystal.reduce store sites).value = crystal) ∧
    (grid.DrawnLike grid columns ∧ (ofText grid.model).lines = grid.lines ∧
      (ofText grid.model = grid ↔ '\r' ∉ grid.model.toList)) ∧
    (grid.height = 0 → grid.expand sites = grid ∧ grid.reduce sites = .ok grid) := by
  intro grid
  obtain ⟨rows, draws⟩ := exists_draws some_ paired
  have unbroken := draws.legible.unbroken
  refine ⟨⟨?_, draws.rows_expand sites, ?_⟩, fun few fewer => ?_, fun few all high => ?_,
    ⟨draws.drawnLike draws rfl, lines_ofText_model unbroken, ofText_model_eq_iff unbroken⟩,
    fun low => ?_⟩
  · apply draws.drawnLike (draws.expand sites)
    rw [List.map_map]
    rfl
  · have wider := draws.expand sites
    rw [draws.expand_eq] at wider ⊢
    exact ofText_model_ofRows wider
  · have narrower := draws.narrow fewer
    have reduced := draws.reduce_eq (by rwa [cutSites_of_lt few])
    rw [cutSites_of_lt few] at reduced
    refine ⟨_, reduced, ?_, draws.rows_narrow fewer, ofText_model_ofRows narrower⟩
    apply draws.drawnLike narrower
    rw [List.map_map]
    rfl
  · have refused := draws.reduce_of_le (by rwa [cutSites_of_lt few]) high
    refine ⟨refused, fun store crystal same => ?_⟩
    rw [Crystal.reduce, same, refused]
    split <;> rfl
  · have rowless : grid.lines = [] := List.eq_nil_of_length_eq_zero low
    exact ⟨expand_of_no_rows sites rowless, reduce_of_no_rows sites rowless⟩

/-- Two rows on different sides, of two columns each. -/
theorem columnwise_edits_two :
    let grid := ofText "0 1 \n 3 c\n"
    (∀ line ∈ grid.lines, IsPaired 2 line) ∧
    (grid.expand 1).columns = 3 ∧
    (grid.expand 1).rows = grid.rows.map (repeatLast 1) ∧
    (∃ narrower, grid.reduce 1 = .ok narrower ∧ narrower.rows = grid.rows.map (List.take 1)) ∧
    grid.reduce 2 = .error (.tooNarrow 2 0 4) := by
  intro grid
  have lines : grid.lines = [['0', ' ', '1', ' '], [' ', '3', ' ', 'c']] := by decide +kernel
  have paired : ∀ line ∈ grid.lines, IsPaired 2 line := by
    have left : ∀ symbol ∈ ['0', '1'], Text.isBlank symbol = false := by
      rw [List.forall_mem_cons, List.forall_mem_singleton]
      decide
    have right : ∀ symbol ∈ ['3', 'c'], Text.isBlank symbol = false := by
      rw [List.forall_mem_cons, List.forall_mem_singleton]
      decide
    rw [lines, List.forall_mem_cons, List.forall_mem_singleton]
    exact ⟨⟨⟨false, ['0', '1'], left⟩, rfl, rfl⟩, ⟨⟨true, ['3', 'c'], right⟩, rfl, rfl⟩⟩
  have high : 0 < grid.height := by
    rw [height, lines]
    decide
  obtain ⟨⟨alike, wider, -⟩, narrower, -, -, -⟩ := columnwise_edits (by decide) paired 1
  obtain ⟨-, -, refused, -, -⟩ := columnwise_edits (by decide) paired 2
  obtain ⟨edited, reduced, -, first, -⟩ := narrower (by decide) (by decide)
  refine ⟨paired, alike.columns ?_, wider, ⟨edited, reduced, first⟩,
    (refused (by decide) (Nat.le_refl 2) high).1⟩
  rw [alike.height]
  exact high

/-- Without rows a reduction is not refused, whatever the number of columns is taken to be.  And a
carriage return behind a row is still there after a reduction that was refused, but not when the
text is read again. -/
theorem not_columnwise_edits :
    (¬ ∀ (text : String) (columns sites : Nat), 0 < columns →
      (∀ line ∈ (ofText text).lines, IsPaired columns line) → columns ≤ sites →
      2 * sites < countBound → ∃ fault, (ofText text).reduce sites = .error fault) ∧
    ¬ ∀ (text : String) (columns sites : Nat), 0 < columns →
      (∀ line ∈ (ofText text).lines, IsPaired columns line) → columns ≤ sites →
      2 * sites < countBound → ∀ fault, (ofText text).reduce sites = .error fault →
        ofText (ofText text).model = ofText text := by
  constructor
  · intro refused
    have rowless : (ofText "").lines = [] := by decide
    obtain ⟨fault, failed⟩ := refused "" 1 1 (by decide) (by simp [rowless]) (by decide) (by decide)
    rw [reduce_of_no_rows 1 rowless] at failed
    cases failed
  · intro stable
    have lines : (ofText "0 \r\r\n").lines = [['0', ' ']] := by decide +kernel
    have paired : ∀ line ∈ (ofText "0 \r\r\n").lines, IsPaired 1 line := by
      rw [lines, List.forall_mem_singleton]
      exact ⟨⟨false, ['0'], List.forall_mem_singleton.2 (by decide)⟩, rfl, rfl⟩
    have refused := reduce_of_blank_first lines (by decide : (narrowLine 1 ['0', ' ']).all _ = true)
    have same := stable "0 \r\r\n" 1 1 (by decide) paired (by decide) (by decide) _ refused
    exact absurd same (by decide +kernel)

end Grid

end LatticeSketch
