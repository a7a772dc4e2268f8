/-
# LatticeSketch.Proofs.Lattice.Reloading -- what an edited lattice is when it is opened again

The edits act on characters, two for a site, while the check of a lattice that is opened
counts symbols.  The two agree row by row:

* a row gets one symbol more per site if its last two characters are a symbol and a blank,
  in either order (`EndsInPair`), and none otherwise (`length_words_widenLine`);
* a row loses as many symbols as begin among the characters that are cut off
  (`length_words_narrowLine`).

An edited lattice therefore opens again with the asked-for number of columns exactly when
these numbers are right in every row (`opens_expand_iff`, `opens_reduce_iff`).
-/
import LatticeSketch.Proofs.Lattice.Reading
import LatticeSketch.Proofs.Text.Words

namespace LatticeSketch

set_option autoImplicit false

namespace Grid

/-! ## One row -/

/-- The last two characters of the row are a symbol and a blank, in either order. -/
def EndsInPair (line : List Char) : Prop :=
  ∃ start first second, line = start ++ [first, second] ∧
    Text.isBlank first ≠ Text.isBlank second

/-- The number of symbols that begin among the characters that a reduction by `sites` sites drops
from the row. -/
def cutSymbols (sites : Nat) (line : List Char) : Nat :=
  Text.beginningsAfter (narrowLine sites line).getLast?
    (line.drop (line.length - cutLength sites))

/-- The number of symbols that begin in the last pair of a row, set behind the row. -/
def pairSymbols (line : List Char) : Nat :=
  Text.beginningsAfter line.getLast? (lastPair line)

theorem lastPair_append_two (start : List Char) (first second : Char) :
    lastPair (start ++ [first, second]) = [first, second] := by
  simp [lastPair]

theorem getLast?_lastPair (line : List Char) : (lastPair line).getLast? = line.getLast? := by
  rw [lastPair, List.getLast?_drop]
  cases line with
  | nil => rfl
  | cons c rest => rw [if_neg]; simp only [List.length_cons]; omega

theorem widenLine_succ (sites : Nat) (line : List Char) :
    widenLine (sites + 1) line = widenLine sites line ++ lastPair line := by
  simp [widenLine, List.replicate_succ', List.append_assoc]

theorem getLast?_widenLine (sites : Nat) (line : List Char) :
    (widenLine sites line).getLast? = line.getLast? := by
  induction sites with
  | zero => simp [widenLine]
  | succ sites ih =>
      rw [widenLine_succ, List.getLast?_append, getLast?_lastPair, ih, Option.or_self]

theorem length_widenLine (sites : Nat) (line : List Char) :
    (widenLine sites line).length = line.length + sites * min 2 line.length := by
  have pair : (lastPair line).length = min 2 line.length := by
    simp only [lastPair, List.length_drop]
    omega
  induction sites with
  | zero => simp [widenLine]
  | succ sites ih =>
      rw [widenLine_succ, List.length_append, ih, pair, Nat.succ_mul, Nat.add_assoc]

/-- Each repetition of the last pair adds the symbols that begin in it. -/
theorem length_words_widenLine (sites : Nat) (line : List Char) :
    (Text.words (widenLine sites line)).length =
      (Text.words line).length + sites * pairSymbols line := by
  induction sites with
  | zero => simp [widenLine]
  | succ sites ih =>
      rw [widenLine_succ, Text.length_words_append, ih, getLast?_widenLine, pairSymbols]
      rw [Nat.succ_mul, Nat.add_assoc]

/-- One symbol begins in the last pair when it is a pair at all. -/
theorem pairSymbols_eq_one_iff (line : List Char) : pairSymbols line = 1 ↔ EndsInPair line := by
  rcases List.eq_nil_or_concat line with rfl | ⟨front, second, rfl⟩
  · simp [pairSymbols, lastPair, Text.beginningsAfter, EndsInPair]
  rcases List.eq_nil_or_concat front with rfl | ⟨start, first, rfl⟩
  · have lonely : ¬ EndsInPair [second] := by
      rintro ⟨start, first, last, shape, -⟩
      have := congrArg List.length shape
      simp at this
    simp [pairSymbols, lastPair, Text.beginningsAfter, lonely]
  · have pair : EndsInPair (start ++ [first, second]) ↔
        Text.isBlank first ≠ Text.isBlank second := by
      constructor
      · rintro ⟨other, c, d, shape, differ⟩
        obtain ⟨-, same⟩ := List.append_inj' shape rfl
        obtain ⟨rfl, rfl⟩ : first = c ∧ second = d := by simpa using same
        exact differ
      · exact fun differ => ⟨start, first, second, rfl, differ⟩
    rw [List.concat_eq_append, List.concat_eq_append, List.append_assoc, List.singleton_append,
      pair, pairSymbols, lastPair_append_two]
    cases hfirst : Text.isBlank first <;> cases hsecond : Text.isBlank second <;>
      simp [Text.beginningsAfter, hfirst, hsecond]

instance (line : List Char) : Decidable (EndsInPair line) :=
  decidable_of_iff _ (pairSymbols_eq_one_iff line)

/-- An expansion repeats characters that are there. -/
theorem mem_widenLine {sites : Nat} {line : List Char} {c : Char}
    (member : c ∈ widenLine sites line) : c ∈ line := by
  rcases List.mem_append.1 member with inLine | inPairs
  · exact inLine
  · obtain ⟨pair, inside, inPair⟩ := List.mem_flatten.1 inPairs
    obtain ⟨-, rfl⟩ := List.mem_replicate.1 inside
    exact List.mem_of_mem_drop inPair

theorem feed_not_mem_widenLine {sites : Nat} {line : List Char} (feed : '\n' ∉ line) :
    '\n' ∉ widenLine sites line :=
  fun member => feed (mem_widenLine member)

theorem all_isBlank_widenLine {sites : Nat} {line : List Char}
    (solid : line.all Text.isBlank = false) :
    (widenLine sites line).all Text.isBlank = false := by
  simp [widenLine, List.all_append, solid]

/-- A narrowed row has lost the symbols that begin in the part that was cut off. -/
theorem length_words_narrowLine (sites : Nat) (line : List Char) :
    (Text.words (narrowLine sites line)).length + cutSymbols sites line =
      (Text.words line).length := by
  have whole : narrowLine sites line ++ line.drop (line.length - cutLength sites) = line :=
    List.take_append_drop _ line
  rw [cutSymbols, ← Text.length_words_append, whole]

/-- A reduction that is not refused leaves no row blank. -/
theorem solid_of_tooNarrow?_eq_none {sites : Nat} {lines : List (List Char)}
    (narrow : tooNarrow? sites lines = none) {line : List Char} (member : line ∈ lines) :
    (narrowLine sites line).all Text.isBlank = false := by
  obtain ⟨place, inside, rfl⟩ := List.getElem_of_mem member
  have found := List.find?_eq_none.1 (Option.map_eq_none_iff.1 narrow)
  have entry : (lines[place], place) ∈ lines.zipIdx :=
    List.mk_mem_zipIdx_iff_getElem?.2 (List.getElem?_eq_getElem inside)
  simpa using found _ entry

end Grid

/-! ## Whole lattices -/

namespace Crystal

variable {σ : Type} [LatticeStore σ] {store after : σ} {name : String}
  {latticeConstant depth : Float} {crystal : Crystal}

/-- The lattice kept under `name` can be opened and has the given numbers of rows and columns. -/
def Opens (store : σ) (name : String) (latticeConstant depth : Float)
    (height columns : Nat) : Prop :=
  ∃ crystal, Crystal.load store name latticeConstant depth = .ok crystal ∧
    crystal.height = height ∧ crystal.columns = columns

/-- The rows of an opened crystal are drawn, and each has a symbol for every column. -/
theorem line_of_load (opened : Crystal.load store name latticeConstant depth = .ok crystal)
    {line : List Char} (member : line ∈ crystal.grid.lines) :
    line.all Text.isBlank = false ∧ (Text.words line).length = crystal.columns := by
  obtain ⟨grid, loaded, rfl⟩ := (load_eq_ok_iff store name latticeConstant depth crystal).1 opened
  obtain ⟨text, -, checked, rfl⟩ := (Grid.load_eq_ok_iff store name grid).1 loaded
  have drawn : line ∈ (Grid.ofText text).lines := member
  refine ⟨Grid.solid_of_mem_lines_ofText drawn, ?_⟩
  have width := (Grid.check_eq_ok_iff _).1 checked _ (List.mem_map_of_mem drawn)
  simpa [columns] using width

theorem name_of_load (opened : Crystal.load store name latticeConstant depth = .ok crystal) :
    crystal.name = name := by
  obtain ⟨grid, -, rfl⟩ := (load_eq_ok_iff store name latticeConstant depth crystal).1 opened
  rfl

theorem save_of_keep (kept : (crystal.keep store).result = .ok ()) :
    LatticeStore.save store crystal.name crystal.grid.model =
      (.ok (), (crystal.keep store).store) :=
  Prod.ext kept rfl

section Reopened

variable [LatticeStore.Faithful σ] {parts : List (List Char)}
  (feed : ∀ part ∈ parts, '\n' ∉ part)
  (solid : ∀ part ∈ parts, part.all Text.isBlank = false)
  (saved : LatticeStore.save store name (String.ofList (Text.unlines parts)) = (.ok (), after))

include feed solid saved

/-- A lattice saved as drawn lines opens with these as its rows. -/
theorem height_of_load_saved {again : Crystal}
    (reopened : Crystal.load after name latticeConstant depth = .ok again) :
    again.height = parts.length := by
  obtain ⟨grid, loaded, rfl⟩ := (load_eq_ok_iff after name latticeConstant depth again).1 reopened
  obtain ⟨text, held, -, rfl⟩ := (Grid.load_eq_ok_iff after name grid).1 loaded
  obtain rfl : text = String.ofList (Text.unlines parts) := by
    simpa [LatticeStore.Faithful.load_of_save saved] using held.symm
  simp [height, Grid.height, Grid.lines_ofText_unlines feed solid]

/-- A lattice saved as drawn lines opens with the given width exactly when each line has as
many symbols. -/
theorem opens_saved_iff (drawn : parts ≠ []) (columns : Nat) :
    Opens after name latticeConstant depth parts.length columns ↔
      ∀ part ∈ parts, (Text.words part).length = columns := by
  have rows := Grid.rows_ofText_unlines feed solid
  have nonempty : (Grid.ofText (String.ofList (Text.unlines parts))).rows ≠ [] := by
    simpa [rows] using drawn
  have widths := Grid.check_and_columns_iff nonempty columns
  rw [rows, List.forall_mem_map] at widths
  simp only [List.length_map] at widths
  rw [← widths]
  constructor
  · rintro ⟨again, reopened, -, wide⟩
    obtain ⟨grid, loaded, rfl⟩ :=
      (load_eq_ok_iff after name latticeConstant depth again).1 reopened
    obtain ⟨text, held, checked, rfl⟩ := (Grid.load_eq_ok_iff after name grid).1 loaded
    obtain rfl : text = String.ofList (Text.unlines parts) := by
      simpa [LatticeStore.Faithful.load_of_save saved] using held.symm
    exact ⟨checked, wide⟩
  · rintro ⟨checked, wide⟩
    have loaded := (Grid.load_eq_ok_iff after name _).2
      ⟨_, LatticeStore.Faithful.load_of_save saved, checked, rfl⟩
    have reopened := (load_eq_ok_iff after name latticeConstant depth _).2 ⟨_, loaded, rfl⟩
    exact ⟨_, reopened, height_of_load_saved feed solid saved reopened, wide⟩

end Reopened

/-! ### Edits -/

/-- What a crystal that is made wider keeps: its rows, each of them wider. -/
theorem save_of_expand {sites : Nat} (some_ : sites ≠ 0)
    (edited : (crystal.expand store sites).result = .ok ()) :
    LatticeStore.save store crystal.name
        (String.ofList (Text.unlines (crystal.grid.lines.map (Grid.widenLine sites)))) =
      (.ok (), (crystal.expand store sites).store) := by
  have step : crystal.expand store sites =
      keep { crystal with grid := crystal.grid.expand sites } store := by
    simp [expand, some_]
  rw [step] at edited ⊢
  exact save_of_keep edited

/-- What a crystal that is made narrower keeps: its rows, each of them narrower and drawn. -/
theorem save_of_reduce {sites : Nat} (some_ : sites ≠ 0)
    (edited : (crystal.reduce store sites).result = .ok ()) :
    LatticeStore.save store crystal.name
        (String.ofList (Text.unlines (crystal.grid.lines.map (Grid.narrowLine sites)))) =
      (.ok (), (crystal.reduce store sites).store) ∧
    ∀ line ∈ crystal.grid.lines, (Grid.narrowLine sites line).all Text.isBlank = false := by
  simp only [reduce, some_, if_false, Grid.reduce] at edited ⊢
  cases narrow : Grid.tooNarrow? sites crystal.grid.lines with
  | some fault => simp [narrow] at edited
  | none =>
      simp only [narrow] at edited ⊢
      have kept := save_of_keep edited
      exact ⟨kept, fun line member => Grid.solid_of_tooNarrow?_eq_none narrow member⟩

section Edited

variable [LatticeStore.Faithful σ]
  (opened : Crystal.load store name latticeConstant depth = .ok crystal)
  {edit : List Char → List Char} (feed : ∀ line, '\n' ∉ line → '\n' ∉ edit line)
  (solid : ∀ line ∈ crystal.grid.lines, (edit line).all Text.isBlank = false)
  (saved : LatticeStore.save store crystal.name
    (String.ofList (Text.unlines (crystal.grid.lines.map edit))) = (.ok (), after))

include opened feed solid saved

/-- A lattice whose rows were edited opens with as many rows. -/
theorem height_of_load_edited {again : Crystal}
    (reopened : Crystal.load after name latticeConstant depth = .ok again) :
    again.height = crystal.height := by
  rw [name_of_load opened] at saved
  have flat : ∀ part ∈ crystal.grid.lines.map edit, '\n' ∉ part := by
    rw [List.forall_mem_map]
    exact fun line member => feed line (Grid.feed_not_mem_of_mem_lines member)
  have drawn : ∀ part ∈ crystal.grid.lines.map edit, part.all Text.isBlank = false := by
    rwa [List.forall_mem_map]
  rw [height_of_load_saved flat drawn saved reopened, List.length_map]
  rfl

/-- A lattice whose rows were edited opens with the given width exactly when each edited row has
as many symbols. -/
theorem opens_edited_iff (some_ : 0 < crystal.height) (columns : Nat) :
    Opens after name latticeConstant depth crystal.height columns ↔
      ∀ line ∈ crystal.grid.lines, (Text.words (edit line)).length = columns := by
  rw [name_of_load opened] at saved
  have flat : ∀ part ∈ crystal.grid.lines.map edit, '\n' ∉ part := by
    rw [List.forall_mem_map]
    exact fun line member => feed line (Grid.feed_not_mem_of_mem_lines member)
  have drawn : ∀ part ∈ crystal.grid.lines.map edit, part.all Text.isBlank = false := by
    rwa [List.forall_mem_map]
  have nonempty : crystal.grid.lines.map edit ≠ [] := by
    rw [Ne, List.map_eq_nil_iff]
    exact List.ne_nil_of_length_pos some_
  have rows : crystal.height = (crystal.grid.lines.map edit).length := by
    rw [List.length_map]
    rfl
  rw [rows, opens_saved_iff flat drawn saved nonempty columns, List.forall_mem_map]

end Edited

section Resized

variable [LatticeStore.Faithful σ]
  (opened : Crystal.load store name latticeConstant depth = .ok crystal) {sites : Nat}

include opened

theorem height_of_load_expand (expanded : (crystal.expand store sites).result = .ok ())
    {again : Crystal} (reopened : Crystal.load (crystal.expand store sites).store name
      latticeConstant depth = .ok again) : again.height = crystal.height := by
  by_cases none : sites = 0
  · subst none
    rw [expand, if_pos rfl, opened] at reopened
    rw [Except.ok.inj reopened]
  · refine height_of_load_edited opened ?_ ?_ (save_of_expand none expanded) reopened
    · exact fun line feed => Grid.feed_not_mem_widenLine feed
    · exact fun line member => Grid.all_isBlank_widenLine (line_of_load opened member).1

/-- A crystal that was made wider opens with the asked-for width exactly when every row ends in
the pair of a site. -/
theorem opens_expand_iff (expanded : (crystal.expand store sites).result = .ok ())
    (drawn : 0 < crystal.height) :
    Opens (crystal.expand store sites).store name latticeConstant depth crystal.height
        (crystal.columns + sites) ↔
      sites = 0 ∨ ∀ line ∈ crystal.grid.lines, Grid.EndsInPair line := by
  by_cases none : sites = 0
  · subst none
    rw [expand, if_pos rfl]
    exact iff_of_true ⟨crystal, opened, rfl, rfl⟩ (Or.inl rfl)
  · refine (opens_edited_iff opened ?_ ?_ (save_of_expand none expanded) drawn _).trans ?_
    · exact fun line feed => Grid.feed_not_mem_widenLine feed
    · exact fun line member => Grid.all_isBlank_widenLine (line_of_load opened member).1
    · simp only [none, false_or]
      refine forall₂_congr fun line member => ?_
      rw [Grid.length_words_widenLine, (line_of_load opened member).2, ← Grid.pairSymbols_eq_one_iff,
        Nat.add_left_cancel_iff, Nat.mul_eq_left none]

theorem height_of_load_reduce (reduced : (crystal.reduce store sites).result = .ok ())
    {again : Crystal} (reopened : Crystal.load (crystal.reduce store sites).store name
      latticeConstant depth = .ok again) : again.height = crystal.height := by
  by_cases none : sites = 0
  · subst none
    rw [reduce, if_pos rfl, opened] at reopened
    rw [Except.ok.inj reopened]
  · obtain ⟨saved, solid⟩ := save_of_reduce none reduced
    refine height_of_load_edited opened ?_ solid saved reopened
    exact fun line feed member => feed (List.mem_of_mem_take member)

/-- A crystal that was made narrower opens with the asked-for width exactly when the part cut
off each row begins one symbol per site. -/
theorem opens_reduce_iff (reduced : (crystal.reduce store sites).result = .ok ()) :
    (∃ columns, columns + sites = crystal.columns ∧
        Opens (crystal.reduce store sites).store name latticeConstant depth crystal.height
          columns) ↔
      sites = 0 ∨ 0 < crystal.height ∧
        ∀ line ∈ crystal.grid.lines, Grid.cutSymbols sites line = sites := by
  by_cases none : sites = 0
  · subst none
    rw [reduce, if_pos rfl]
    exact iff_of_true ⟨crystal.columns, rfl, crystal, opened, rfl, rfl⟩ (Or.inl rfl)
  obtain ⟨saved, solid⟩ := save_of_reduce none reduced
  have lost : ∀ line ∈ crystal.grid.lines,
      (Text.words (Grid.narrowLine sites line)).length + Grid.cutSymbols sites line =
        crystal.columns := by
    intro line member
    rw [Grid.length_words_narrowLine, (line_of_load opened member).2]
  have feed : ∀ line, '\n' ∉ line → '\n' ∉ Grid.narrowLine sites line :=
    fun line absent member => absent (List.mem_of_mem_take member)
  have reopens := fun drawn columns => opens_edited_iff opened feed solid saved drawn columns
  cases rows : crystal.grid.lines with
  | nil =>
      have empty : crystal.columns = 0 := by
        simp [Crystal.columns, Grid.columns, Grid.rows, rows]
      have low : ¬ 0 < crystal.height := by
        simp [height, Grid.height, rows]
      refine iff_of_false ?_ (by simp [none, low])
      rintro ⟨columns, sum, -⟩
      omega
  | cons first rest =>
      have drawn : 0 < crystal.height := by
        simp [height, Grid.height, rows]
      have member : first ∈ crystal.grid.lines := by simp [rows]
      rw [← rows]
      simp only [none, drawn, reopens drawn, false_or, true_and]
      constructor
      · rintro ⟨columns, sum, wide⟩ line inside
        have := lost line inside
        have := wide line inside
        omega
      · intro cut
        refine ⟨crystal.columns - sites, ?_, fun line inside => ?_⟩
        · have := lost first member
          have := cut first member
          omega
        · have := lost line inside
          have := cut line inside
          omega

end Resized

end Crystal

end LatticeSketch
