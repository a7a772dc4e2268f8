/-
# LatticeSketch.Proofs.Lattice.Redrawing -- edits as changes of every line

`Grid.ofLines` draws the grid of given lines.  Lines that hold no carriage return are the lines of
their grid (`lines_ofLines`), and if all of them are drawn, reading its text gives the grid again
(`ofText_model_ofLines`).  A grid that was read keeps its lines when its text is read once more, and
is the same grid if its text has no carriage return (`ofText_model_eq_iff`).

An edit looks at nothing but the lines of a grid, and each line is edited on its own: what an
expansion or a reduction leaves is the grid of the edited lines (`expand_of_legible`,
`reduce_eq_ok_iff`).  A reduction is refused exactly if some line would be left blank
(`tooNarrow?_eq_none_iff`).
-/
import LatticeSketch.Proofs.Lattice.Reloading

namespace LatticeSketch.Grid

set_option autoImplicit false

/-! ## One line -/

theorem unbroken_widenLine {line : List Char} (unbroken : Text.Unbroken line) (sites : Nat) :
    Text.Unbroken (widenLine sites line) :=
  ⟨fun member => unbroken.feed (mem_widenLine member),
    fun member => unbroken.carriage (mem_widenLine member)⟩

theorem unbroken_narrowLine {line : List Char} (unbroken : Text.Unbroken line) (sites : Nat) :
    Text.Unbroken (narrowLine sites line) :=
  ⟨fun member => unbroken.feed (List.mem_of_mem_take member),
    fun member => unbroken.carriage (List.mem_of_mem_take member)⟩

/-- A reduction passes exactly if every line has something left. -/
theorem tooNarrow?_eq_none_iff (sites : Nat) (lines : List (List Char)) :
    tooNarrow? sites lines = none ↔
      ∀ line ∈ lines, (narrowLine sites line).all Text.isBlank = false := by
  constructor
  · intro narrow line member
    exact solid_of_tooNarrow?_eq_none narrow member
  · intro solid
    rw [tooNarrow?, Option.map_eq_none_iff, List.find?_eq_none]
    rintro ⟨line, place⟩ member
    have drawn := solid line (List.fst_mem_of_mem_zipIdx member)
    simp [drawn]

/-! ## Grids by their lines -/

/-- The grid drawn by the given lines. -/
def ofLines (parts : List (List Char)) : Grid :=
  withModel {} (String.ofList (Text.unlines parts))

theorem ofText_eq_ofLines (text : String) : ofText text = ofLines (keptLines text) := rfl

theorem toList_model_ofText (text : String) :
    (ofText text).model.toList = Text.unlines (keptLines text) := by
  rw [ofText_eq_ofLines, ofLines, withModel_model, String.toList_ofList]

/-- With a line to read the flag off, nothing is left of the grid before. -/
theorem withModel_of_lines_ne_nil {grid other : Grid} {model : String}
    (drawn : Text.lines model.toList ≠ []) : grid.withModel model = other.withModel model := by
  obtain ⟨line, last⟩ := Option.ne_none_iff_exists'.1 (mt List.getLast?_eq_none_iff.1 drawn)
  simp only [withModel, last]

/-- Every line of a text without carriage returns is kept without one. -/
theorem unbroken_of_mem_keptLines {text : String} (carriage : '\r' ∉ text.toList)
    {line : List Char} (member : line ∈ keptLines text) : Text.Unbroken line :=
  Text.unbroken_of_mem_lines carriage (List.mem_filter.1 member).1

section Unbroken

variable {parts : List (List Char)} (unbroken : ∀ part ∈ parts, Text.Unbroken part)

include unbroken

theorem lines_ofLines : (ofLines parts).lines = parts := by
  rw [lines, ofLines, withModel_model, String.toList_ofList]
  exact Text.lines_unlines_of_unbroken unbroken

/-- The text of a grid with drawn lines is read as that grid. -/
theorem ofText_model_ofLines (solid : ∀ part ∈ parts, part.all Text.isBlank = false) :
    ofText (ofLines parts).model = ofLines parts := by
  have kept : keptLines (ofLines parts).model = parts := by
    rw [keptLines, ofLines, withModel_model, String.toList_ofList,
      Text.lines_unlines_of_unbroken unbroken, List.filter_eq_self]
    intro part member
    rw [solid part member]
    rfl
  rw [ofText_eq_ofLines, kept]

end Unbroken

/-! ## Texts read again -/

/-- What was kept of a text is kept again. -/
theorem keptLines_model_ofText (text : String) :
    keptLines (ofText text).model = (ofText text).lines := by
  apply List.filter_eq_self.2
  intro line member
  rw [solid_of_mem_lines_ofText member]
  rfl

section Reread

variable {text : String} (unbroken : ∀ line ∈ (ofText text).lines, Text.Unbroken line)

include unbroken

/-- The lines of a grid are read again as they are. -/
theorem lines_ofText_model : (ofText (ofText text).model).lines = (ofText text).lines := by
  rw [ofText_eq_ofLines (ofText text).model, keptLines_model_ofText, lines_ofLines unbroken]

/-- The text of a grid is read as the same grid exactly if it holds no carriage return.  One at the
end of a line belongs to no row, and is not kept again. -/
theorem ofText_model_eq_iff :
    ofText (ofText text).model = ofText text ↔ '\r' ∉ (ofText text).model.toList := by
  have again : ofText (ofText text).model = ofLines (ofText text).lines := by
    rw [ofText_eq_ofLines (ofText text).model, keptLines_model_ofText]
  constructor
  · intro same carriage
    rw [← same, again, ofLines, withModel_model, String.toList_ofList] at carriage
    obtain ⟨line, member, inLine⟩ := List.mem_flatMap.1 carriage
    rcases List.mem_append.1 inLine with inside | feed
    · exact (unbroken line member).carriage inside
    · exact absurd feed (by decide)
  · intro carriage
    have kept : ∀ line ∈ keptLines text, Text.Unbroken line := by
      intro line member
      refine ⟨feed_not_mem_of_mem_keptLines member, fun inLine => carriage ?_⟩
      rw [toList_model_ofText]
      exact List.mem_flatMap.2 ⟨line, member, List.mem_append_left _ inLine⟩
    have same : (ofText text).lines = keptLines text := by
      rw [ofText_eq_ofLines, lines_ofLines kept]
    rw [again, same, ofText_eq_ofLines]

end Reread

/-! ## Edited grids -/

/-- A grid as reading gives it: no character ends a line within, and the flag is read off the last
line, or is not set. -/
structure Legible (grid : Grid) : Prop where
  unbroken : ∀ line ∈ grid.lines, Text.Unbroken line
  flag : grid.evenShifted = ((grid.lines.map beginsShifted).getLast?).getD false

theorem evenShifted_of_read (model : String) :
    (withModel {} model).evenShifted =
      (((withModel {} model).lines.map beginsShifted).getLast?).getD false := by
  rw [List.getLast?_map]
  unfold withModel lines
  dsimp only
  cases (Text.lines model.toList).getLast? <;> rfl

theorem legible_ofText {text : String}
    (unbroken : ∀ line ∈ (ofText text).lines, Text.Unbroken line) : (ofText text).Legible :=
  ⟨unbroken, evenShifted_of_read (normalize text)⟩

theorem legible_ofLines {parts : List (List Char)}
    (unbroken : ∀ part ∈ parts, Text.Unbroken part) : (ofLines parts).Legible :=
  ⟨by rwa [lines_ofLines unbroken], evenShifted_of_read _⟩

section Legible

variable {grid : Grid} (legible : grid.Legible)

include legible

/-- Without lines there is nothing to edit, and the flag stays. -/
theorem withModel_map {edit : List Char → List Char}
    (edited : ∀ line ∈ grid.lines, Text.Unbroken (edit line)) :
    grid.withModel (String.ofList (Text.unlines (grid.lines.map edit))) =
      ofLines (grid.lines.map edit) := by
  by_cases rowless : grid.lines = []
  · have flag := legible.flag
    rw [rowless] at flag ⊢
    show ({ model := "", evenShifted := grid.evenShifted } : Grid) = {}
    rw [flag]
    rfl
  · apply withModel_of_lines_ne_nil
    rw [String.toList_ofList, Text.lines_unlines_of_unbroken]
    · simpa using rowless
    · rwa [List.forall_mem_map]

theorem expand_of_legible (sites : Nat) :
    grid.expand sites = ofLines (grid.lines.map (widenLine sites)) := by
  apply withModel_map legible
  intro line member
  exact unbroken_widenLine (legible.unbroken line member) sites

/-- A reduction draws the grid of the narrower lines, unless one of them is blank. -/
theorem reduce_eq_ok_iff (sites : Nat) (edited : Grid) :
    grid.reduce sites = .ok edited ↔
      (∀ line ∈ grid.lines, (narrowLine sites line).all Text.isBlank = false) ∧
        edited = ofLines (grid.lines.map (narrowLine sites)) := by
  have narrower : grid.withModel
      (String.ofList (Text.unlines (grid.lines.map (narrowLine sites)))) =
        ofLines (grid.lines.map (narrowLine sites)) :=
    withModel_map legible fun line member =>
      unbroken_narrowLine (legible.unbroken line member) sites
  rw [← tooNarrow?_eq_none_iff, reduce, narrower]
  cases tooNarrow? sites grid.lines with
  | none => simp [eq_comm]
  | some fault => simp

end Legible

/-- A reduction that leaves nothing of the topmost line says so. -/
theorem reduce_of_blank_first {grid : Grid} {first : List Char} {rest : List (List Char)}
    (rows : grid.lines = first :: rest) {sites : Nat}
    (blank : (narrowLine sites first).all Text.isBlank = true) :
    grid.reduce sites = .error (.tooNarrow sites 0 first.length) := by
  have narrow : tooNarrow? sites grid.lines = some (.tooNarrow sites 0 first.length) := by
    rw [rows, tooNarrow?, List.zipIdx_cons, List.find?_cons_of_pos]
    · rfl
    · exact blank
  rw [reduce, narrow]

/-! ### Without rows -/

/-- A lattice without rows has no text either, so no edit changes it. -/
theorem withModel_of_no_rows {grid : Grid} (rows : grid.lines = []) : grid.withModel "" = grid := by
  have model : grid.model = "" :=
    String.toList_eq_nil_iff.1 (Text.eq_nil_of_lines rows)
  obtain ⟨text, shifted⟩ := grid
  subst model
  rfl

theorem expand_of_no_rows {grid : Grid} (sites : Nat) (rows : grid.lines = []) :
    grid.expand sites = grid := by
  rw [expand, rows]
  exact withModel_of_no_rows rows

theorem reduce_of_no_rows {grid : Grid} (sites : Nat) (rows : grid.lines = []) :
    grid.reduce sites = .ok grid := by
  rw [reduce, rows]
  exact congrArg Except.ok (withModel_of_no_rows rows)

end LatticeSketch.Grid
