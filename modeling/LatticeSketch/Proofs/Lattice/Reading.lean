/-
# LatticeSketch.Proofs.Lattice.Reading -- which lattice a text draws

`Grid.ofText` keeps the lines that are not blank, so every line of its grid is drawn
(`solid_of_mem_lines_ofText`).  A text put together from drawn lines is read as these
lines, and its rows are their words (`rows_ofText_unlines`).

A grid passes the check of its rows when all of them have as many symbols as the grid has
columns (`check_eq_ok_iff`); with a row at all, a common number of symbols is the number of
columns (`columns_of_forall`).  Otherwise the fault names the first row that differs from the
topmost one (`check_eq_error_iff`).
-/
import LatticeSketch.Crystal
import LatticeSketch.Proofs.Text.Lines

namespace LatticeSketch

set_option autoImplicit false

namespace Grid

/-! ## Lines and rows -/

/-- The lines that `ofText` keeps of a text, as they stand in the text. -/
def keptLines (text : String) : List (List Char) :=
  (Text.lines text.toList).filter fun line => !line.all Text.isBlank

theorem feed_not_mem_of_mem_keptLines {text : String} {line : List Char}
    (member : line ∈ keptLines text) : '\n' ∉ line :=
  Text.feed_not_mem_of_mem_lines (List.mem_filter.1 member).1

theorem solid_of_mem_keptLines {text : String} {line : List Char}
    (member : line ∈ keptLines text) : line.all Text.isBlank = false := by
  simpa using (List.mem_filter.1 member).2

theorem lines_ofText (text : String) :
    (ofText text).lines = (keptLines text).map Text.chopReturn := by
  have feed : ∀ line ∈ keptLines text, '\n' ∉ line :=
    fun line member => feed_not_mem_of_mem_keptLines member
  rw [ofText, lines, withModel_model, normalize, String.toList_ofList]
  exact Text.lines_unlines_chopped _ feed

theorem feed_not_mem_of_mem_lines {grid : Grid} {line : List Char}
    (member : line ∈ grid.lines) : '\n' ∉ line :=
  Text.feed_not_mem_of_mem_lines member

/-- No line of a grid that was read is blank. -/
theorem solid_of_mem_lines_ofText {text : String} {line : List Char}
    (member : line ∈ (ofText text).lines) : line.all Text.isBlank = false := by
  rw [lines_ofText] at member
  obtain ⟨kept, inText, rfl⟩ := List.mem_map.1 member
  rw [Text.all_isBlank_chopReturn]
  exact solid_of_mem_keptLines inText

section Drawn

variable {parts : List (List Char)} (feed : ∀ part ∈ parts, '\n' ∉ part)
  (solid : ∀ part ∈ parts, part.all Text.isBlank = false)

include feed solid

/-- A text made of drawn lines is read as these lines. -/
theorem keptLines_unlines :
    keptLines (String.ofList (Text.unlines parts)) = parts.map Text.chopReturn := by
  rw [keptLines, String.toList_ofList, Text.lines_unlines_chopped _ feed, List.filter_eq_self]
  intro line member
  obtain ⟨part, inParts, rfl⟩ := List.mem_map.1 member
  rw [Text.all_isBlank_chopReturn, solid part inParts]
  rfl

theorem lines_ofText_unlines :
    (ofText (String.ofList (Text.unlines parts))).lines =
      parts.map fun part => Text.chopReturn (Text.chopReturn part) := by
  rw [lines_ofText, keptLines_unlines feed solid, List.map_map]
  rfl

theorem rows_ofText_unlines :
    (ofText (String.ofList (Text.unlines parts))).rows =
      parts.map fun part => (Text.words part).map String.ofList := by
  rw [rows, lines_ofText_unlines feed solid, List.map_map]
  simp [Function.comp_def]

end Drawn

/-! ## Widths -/

theorem ragged?_eq_none_iff (counts : List Nat) :
    ragged? counts = none ↔ ∀ count ∈ counts, counts.head? = some count := by
  cases counts with
  | nil => simp [ragged?]
  | cons first rest =>
      simp only [ragged?, List.head?_cons, Option.bind_some, Option.map_eq_none_iff,
        List.find?_eq_none, Option.some.injEq, bne_iff_ne, ne_eq, Decidable.not_not]
      constructor
      · intro same count member
        obtain ⟨place, inside, rfl⟩ := List.getElem_of_mem member
        exact (same (_, place) (List.mk_mem_zipIdx_iff_getElem?.2
          (List.getElem?_eq_getElem inside))).symm
      · rintro same ⟨count, place⟩ member
        have found := List.mk_mem_zipIdx_iff_getElem?.1 member
        exact (same count (List.mem_of_getElem? found)).symm

/-- Of the numbers of symbols in the rows, from the top down, `found` at `place` is the first that is
not the topmost one, `expected`. -/
structure FirstRagged (counts : List Nat) (place expected found : Nat) : Prop where
  top : counts.head? = some expected
  row : counts[place]? = some found
  differs : found ≠ expected
  above : ∀ count ∈ counts.take place, count = expected

theorem ragged?_eq_some_iff (counts : List Nat) (fault : Fault) :
    ragged? counts = some fault ↔
      ∃ place expected found, FirstRagged counts place expected found ∧
        fault = .raggedRow place expected found := by
  simp only [ragged?, Option.bind_eq_some_iff, Option.map_eq_some_iff,
    List.find?_eq_some_iff_getElem]
  constructor
  · rintro ⟨expected, top, ⟨found, place⟩, ⟨differs, index, inside, row, above⟩, rfl⟩
    simp only [List.getElem_zipIdx, Prod.mk.injEq, Nat.zero_add] at row
    obtain ⟨rfl, rfl⟩ := row
    rw [List.length_zipIdx] at inside
    refine ⟨index, expected, _, ⟨top, List.getElem?_eq_getElem inside, by simpa using differs, ?_⟩,
      rfl⟩
    intro count member
    obtain ⟨earlier, before, rfl⟩ := List.mem_take_iff_getElem.1 member
    simpa using above earlier (by omega)
  · rintro ⟨place, expected, found, ⟨top, row, differs, above⟩, rfl⟩
    obtain ⟨inside, rfl⟩ := List.getElem?_eq_some_iff.1 row
    refine ⟨expected, top, (counts[place], place),
      ⟨by simpa using differs, place, by simpa using inside, by simp, ?_⟩, rfl⟩
    intro earlier before
    have same := above counts[earlier] (List.mem_take_iff_getElem.2 ⟨earlier, by omega, rfl⟩)
    simpa using same

theorem foldl_max_of_forall {counts : List Nat} {width : Nat}
    (same : ∀ count ∈ counts, count = width) (nonempty : counts ≠ []) {low : Nat}
    (le : low ≤ width) : counts.foldl max low = width := by
  induction counts generalizing low with
  | nil => exact absurd rfl nonempty
  | cons first rest ih =>
      have hfirst : first = width := same first (by simp)
      have hmax : max low first = width := by omega
      rw [List.foldl_cons, hmax]
      cases rest with
      | nil => rfl
      | cons second more =>
          exact ih (fun count member => same count (List.mem_cons_of_mem _ member))
            (by simp) (Nat.le_refl _)

/-- The common number of symbols of the rows is the number of columns. -/
theorem columns_of_forall {grid : Grid} {width : Nat} (drawn : grid.rows ≠ [])
    (same : ∀ row ∈ grid.rows, row.length = width) : grid.columns = width := by
  refine foldl_max_of_forall ?_ (by simpa using drawn) (Nat.zero_le width)
  intro count member
  obtain ⟨row, inRows, rfl⟩ := List.mem_map.1 member
  exact same row inRows

/-- The check passes exactly when every row is as wide as the grid. -/
theorem check_eq_ok_iff (grid : Grid) :
    grid.check = .ok () ↔ ∀ row ∈ grid.rows, row.length = grid.columns := by
  have passes : grid.check = .ok () ↔ ragged? (grid.rows.map List.length) = none := by
    unfold check
    split <;> simp_all
  rw [passes, ragged?_eq_none_iff]
  constructor
  · intro same row member
    have nonempty : grid.rows ≠ [] := List.ne_nil_of_mem member
    obtain ⟨first, rest, shape⟩ := List.exists_cons_of_ne_nil nonempty
    have equal : ∀ other ∈ grid.rows, other.length = first.length := by
      intro other inRows
      have head := same other.length (List.mem_map_of_mem inRows)
      rw [shape] at head
      simpa [eq_comm] using head
    rw [equal row member, columns_of_forall nonempty equal]
  · intro same count member
    obtain ⟨row, inRows, rfl⟩ := List.mem_map.1 member
    obtain ⟨first, rest, shape⟩ := List.exists_cons_of_ne_nil (List.ne_nil_of_mem inRows)
    have hfirst := same first (by simp [shape])
    simp [shape, hfirst, same row inRows]

/-- Rows of one width pass the check. -/
theorem check_of_rectangular {grid : Grid}
    (rectangular : ∀ first ∈ grid.rows, ∀ second ∈ grid.rows, first.length = second.length) :
    grid.check = .ok () := by
  rw [check_eq_ok_iff]
  intro row member
  exact (columns_of_forall (List.ne_nil_of_mem member) fun other inRows =>
    rectangular other inRows row member).symm

theorem check_eq_ok_iff_rectangular (grid : Grid) :
    grid.check = .ok () ↔
      ∀ first ∈ grid.rows, ∀ second ∈ grid.rows, first.length = second.length := by
  refine ⟨fun checked first inRows second other => ?_, check_of_rectangular⟩
  have wide := (check_eq_ok_iff grid).1 checked
  rw [wide first inRows, wide second other]

/-- The check refuses a grid for the first row with another number of symbols than the topmost one. -/
theorem check_eq_error_iff (grid : Grid) (fault : Fault) :
    grid.check = .error fault ↔
      ∃ place expected found, FirstRagged (grid.rows.map List.length) place expected found ∧
        fault = .raggedRow place expected found := by
  rw [← ragged?_eq_some_iff]
  unfold check
  cases ragged? (grid.rows.map List.length) <;> simp

/-- Only rows of different widths are refused by the check. -/
theorem fault_of_check {grid : Grid} {fault : Fault} (refused : grid.check = .error fault) :
    ∃ row expected found, fault = .raggedRow row expected found := by
  obtain ⟨place, expected, found, -, ragged⟩ := (check_eq_error_iff grid fault).1 refused
  exact ⟨place, expected, found, ragged⟩

/-- With a row at all, passing the check at a width means that each row has this width. -/
theorem check_and_columns_iff {grid : Grid} (drawn : grid.rows ≠ []) (width : Nat) :
    (grid.check = .ok () ∧ grid.columns = width) ↔ ∀ row ∈ grid.rows, row.length = width := by
  rw [check_eq_ok_iff]
  constructor
  · rintro ⟨same, rfl⟩
    exact same
  · intro same
    have wide := columns_of_forall drawn same
    exact ⟨fun row member => (same row member).trans wide.symm, wide⟩

end Grid

/-! ## Loading -/

/-- Stores that hand back the text they were last given for a name. -/
class LatticeStore.Faithful (σ : Type) [LatticeStore σ] : Prop where
  load_of_save {store after : σ} {name text : String} :
    LatticeStore.save store name text = (.ok (), after) →
      LatticeStore.load after name = .ok text

section Loading

variable {σ : Type} [LatticeStore σ]

theorem Grid.load_eq_ok_iff (store : σ) (name : String) (grid : Grid) :
    Grid.load store name = .ok grid ↔
      ∃ text, LatticeStore.load store name = .ok text ∧ (Grid.ofText text).check = .ok () ∧
        Grid.ofText text = grid := by
  unfold Grid.load
  cases LatticeStore.load store name with
  | error fault => simp
  | ok text =>
      cases checked : (Grid.ofText text).check with
      | error fault => simp [checked]
      | ok passed => simp [checked]

theorem Crystal.load_eq_ok_iff (store : σ) (name : String) (latticeConstant depth : Float)
    (crystal : Crystal) :
    Crystal.load store name latticeConstant depth = .ok crystal ↔
      ∃ grid, Grid.load store name = .ok grid ∧
        crystal = ⟨name, latticeConstant, depth, grid, 0⟩ := by
  unfold Crystal.load
  cases Grid.load store name with
  | error fault => simp [Except.map]
  | ok grid => simp [Except.map, eq_comm]

end Loading

end LatticeSketch
