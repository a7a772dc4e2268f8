/-
# LatticeSketch.Proofs.Files.Unsaved -- what an edit that fails leaves in memory

A lattice is created in its store first and in memory then, so one that the store refuses is not
created in memory either.  The other edits go the opposite way: a crystal is made wider or narrower
in memory first and kept then.  If the store refuses it, the edit stays in memory
(`expand_of_failed`, `reduce_of_failed`), and for a lattice with a drawn row that is another
lattice (`expand_ne`, `reduce_ne`).  Only a reduction that would leave a row blank is refused
before anything is changed.

So after an edit that failed the lattice is the one before it if it was to be created, if it had a
row too narrow to reduce, or if it has no rows at all.  A reduction whose count of characters wraps
around to zero cuts nothing and only draws the lattice again, so it changes no lattice that is drawn
as it stands (`unchanged_of_failed_iff`).
-/
import LatticeSketch.Proofs.Files.Archive
import LatticeSketch.Proofs.Lattice.Redrawing

namespace LatticeSketch

set_option autoImplicit false

/-! ## Edited lattices differ -/

namespace Text

theorem length_le_chopReturn (line : List Char) : line.length ≤ (chopReturn line).length + 1 := by
  induction line with
  | nil => simp
  | cons c rest ih =>
      cases rest with
      | nil => simp
      | cons d more =>
          simp only [chopReturn_cons_cons, List.length_cons] at ih ⊢
          omega

theorem length_chopReturn_le (line : List Char) : (chopReturn line).length ≤ line.length := by
  induction line with
  | nil => simp [chopReturn]
  | cons c rest ih =>
      cases rest with
      | nil => by_cases return_ : c = '\r' <;> simp [chopReturn, return_]
      | cons d more =>
          simp only [chopReturn_cons_cons, List.length_cons] at ih ⊢
          omega

end Text

namespace Grid

/-- An edit of the rows that leaves the lattice as it is leaves each row as it is, but for a
carriage return behind it. -/
theorem chopReturn_of_same {grid : Grid} {edit : List Char → List Char}
    (feed : ∀ line, '\n' ∉ line → '\n' ∉ edit line)
    (same : grid.withModel (String.ofList (Text.unlines (grid.lines.map edit))) = grid) :
    ∀ line ∈ grid.lines, Text.chopReturn (edit line) = line := by
  have flat : ∀ part ∈ grid.lines.map edit, '\n' ∉ part := by
    rw [List.forall_mem_map]
    exact fun line member => feed line (feed_not_mem_of_mem_lines member)
  have lines : (grid.lines.map edit).map Text.chopReturn = grid.lines := by
    have read := congrArg Grid.lines same
    rwa [Grid.lines, withModel_model, String.toList_ofList, Text.lines_unlines_chopped _ flat]
      at read
  rw [List.map_map] at lines
  exact List.map_inj_left.1 (lines.trans (List.map_id _).symm)

/-- A drawn row is longer behind an expansion. -/
theorem length_lt_widenLine {sites : Nat} (some_ : sites ≠ 0) {line : List Char}
    (solid : line.all Text.isBlank = false) :
    line.length < (Text.chopReturn (widenLine sites line)).length := by
  have long := length_widenLine sites line
  have chopped := Text.length_le_chopReturn (widenLine sites line)
  match line with
  | [] => simp at solid
  | [c] =>
      have plain : c ≠ '\r' := by
        rintro rfl
        exact absurd solid (by decide)
      rw [Text.chopReturn_of_getLast? (by simpa [getLast?_widenLine] using plain), long]
      have one : min 2 [c].length = 1 := rfl
      rw [one]
      omega
  | c :: d :: rest =>
      have pair : min 2 (c :: d :: rest).length = 2 := by simp
      rw [pair] at long
      omega

/-- An expansion changes every lattice with a drawn row. -/
theorem expand_ne {grid : Grid} {sites : Nat} (some_ : sites ≠ 0)
    (drawn : ∃ line ∈ grid.lines, line.all Text.isBlank = false) : grid.expand sites ≠ grid := by
  intro same
  obtain ⟨line, member, solid⟩ := drawn
  have kept := chopReturn_of_same (fun _ feed => feed_not_mem_widenLine feed) same line member
  have longer := length_lt_widenLine some_ solid
  rw [kept] at longer
  exact Nat.lt_irrefl _ longer

/-- A reduction that cuts something and is not refused changes every lattice with a row: no row is
left blank, so each had characters to lose. -/
theorem reduce_ne {grid edited : Grid} {sites : Nat} (some_ : cutLength sites ≠ 0)
    (narrower : grid.reduce sites = .ok edited) (rows : grid.lines ≠ []) : edited ≠ grid := by
  rintro rfl
  obtain ⟨line, member⟩ := List.exists_mem_of_ne_nil _ rows
  unfold reduce at narrower
  cases narrow : tooNarrow? sites edited.lines with
  | some fault => simp [narrow] at narrower
  | none =>
      simp only [narrow, Except.ok.injEq] at narrower
      have kept : Text.chopReturn (narrowLine sites line) = line :=
        chopReturn_of_same (fun _ feed inPart => feed (List.mem_of_mem_take inPart)) narrower
          line member
      have solid := solid_of_tooNarrow?_eq_none narrow member
      have shorter := Text.length_chopReturn_le (narrowLine sites line)
      rw [kept, narrowLine, List.length_take] at shorter
      have nothing : narrowLine sites line = [] := by
        rw [narrowLine, List.take_eq_nil_iff]
        omega
      simp [nothing] at solid

/-- A reduction that cuts nothing draws the lattice again. -/
theorem reduce_of_cutLength_eq_zero {grid edited : Grid} {sites : Nat} (none : cutLength sites = 0)
    (narrower : grid.reduce sites = .ok edited) :
    edited = grid.withModel (String.ofList (Text.unlines grid.lines)) := by
  have same : grid.lines.map (narrowLine sites) = grid.lines.map id := by
    apply List.map_congr_left
    intro line _
    rw [narrowLine, none, Nat.sub_zero, List.take_length]
    rfl
  unfold reduce at narrower
  rw [same, List.map_id] at narrower
  cases narrow : tooNarrow? sites grid.lines with
  | some fault => simp [narrow] at narrower
  | none =>
      simp only [narrow, Except.ok.injEq] at narrower
      exact narrower.symm

/-- So a reduction leaves a lattice as it was if there are no rows, or if it cuts nothing of one that
was drawn as it stands. -/
theorem reduce_eq_self_iff {grid edited : Grid} {sites : Nat}
    (narrower : grid.reduce sites = .ok edited) :
    edited = grid ↔ grid.lines = [] ∨ cutLength sites = 0 ∧
      grid.withModel (String.ofList (Text.unlines grid.lines)) = grid := by
  by_cases rows : grid.lines = []
  · rw [reduce_of_no_rows sites rows] at narrower
    exact iff_of_true (Except.ok.inj narrower).symm (.inl rows)
  by_cases none : cutLength sites = 0
  · rw [reduce_of_cutLength_eq_zero none narrower]
    simp [rows, none]
  · simp [reduce_ne none narrower rows, rows, none]

end Grid

/-! ## Edits that fail -/

section Failed

variable {σ : Type} [LatticeStore σ] {store : σ} {sites : Nat}

/-- A lattice is created in the store first. -/
theorem Grid.generate_of_failed {grid : Grid} {name : String} {columns height : Nat}
    (failed : (grid.generate store name columns height).result ≠ .ok ()) :
    (grid.generate store name columns height).value = grid := by
  unfold generate at failed ⊢
  dsimp only at failed ⊢
  split at failed
  · simp_all
  · simp at failed

namespace Crystal

variable {crystal : Crystal}

/-- Only the store can refuse an expansion, and it is asked last. -/
theorem expand_of_failed (failed : (crystal.expand store sites).result ≠ .ok ()) :
    sites ≠ 0 ∧
      (crystal.expand store sites).value = { crystal with grid := crystal.grid.expand sites } := by
  by_cases none : sites = 0
  · simp [expand, none] at failed
  · refine ⟨none, ?_⟩
    rw [expand, if_neg none]
    rfl

theorem value_reduce_of_refused {fault : Fault}
    (refused : crystal.grid.reduce sites = .error fault) :
    (crystal.reduce store sites).value = crystal := by
  rw [reduce]
  split
  · rfl
  · rw [refused]

/-- A reduction that leaves no row blank is refused by the store only. -/
theorem reduce_of_failed {edited : Grid} (narrower : crystal.grid.reduce sites = .ok edited)
    (failed : (crystal.reduce store sites).result ≠ .ok ()) :
    sites ≠ 0 ∧ (crystal.reduce store sites).value = { crystal with grid := edited } := by
  by_cases none : sites = 0
  · simp [reduce, none] at failed
  · refine ⟨none, ?_⟩
    rw [reduce, if_neg none, narrower]
    rfl

/-- What an edit that failed leaves in memory, whatever the store: a lattice that was not created
is as before; one that was not kept with wider rows is as before only if it has no rows; and one
with narrower rows is as before only if the reduction was refused on sight, or there are no rows, or
the count of what is cut wraps around to zero and the text is drawn as it stands.  The rows of a
crystal that was opened are drawn, as is asked of the wider one here. -/
theorem unchanged_of_failed_iff (store : σ) (grid : Grid) (name : String) (columns height : Nat)
    (crystal : Crystal) (sites : Nat) :
    ((grid.generate store name columns height).result ≠ .ok () →
      (grid.generate store name columns height).value = grid) ∧
    ((crystal.expand store sites).result ≠ .ok () →
      (∀ line ∈ crystal.grid.lines, line.all Text.isBlank = false) →
      ((crystal.expand store sites).value.grid = crystal.grid ↔ crystal.grid.lines = [])) ∧
    ((crystal.reduce store sites).result ≠ .ok () →
      ((crystal.reduce store sites).value.grid = crystal.grid ↔
        (∃ fault, crystal.grid.reduce sites = .error fault) ∨ crystal.grid.lines = [] ∨
          Grid.cutLength sites = 0 ∧ crystal.grid.withModel
            (String.ofList (Text.unlines crystal.grid.lines)) = crystal.grid)) := by
  refine ⟨Grid.generate_of_failed, fun failed solid => ?_, fun failed => ?_⟩
  · obtain ⟨some_, value⟩ := expand_of_failed failed
    rw [value]
    constructor
    · intro same
      by_contra rows
      obtain ⟨line, member⟩ := List.exists_mem_of_ne_nil _ rows
      exact Grid.expand_ne some_ ⟨line, member, solid line member⟩ same
    · exact Grid.expand_of_no_rows sites
  · cases narrower : crystal.grid.reduce sites with
    | error fault =>
        rw [value_reduce_of_refused narrower]
        exact iff_of_true rfl (.inl ⟨fault, rfl⟩)
    | ok edited =>
        obtain ⟨-, value⟩ := reduce_of_failed narrower failed
        have passed : ¬ ∃ fault, (Except.ok edited : Except Fault Grid) = .error fault := by simp
        rw [value, or_iff_right passed]
        exact Grid.reduce_eq_self_iff narrower

end Crystal

end Failed

namespace Archive

/-- An archive that can copy nothing aside: a file is where its backups would go. -/
def blocked : Archive where
  files := ⟨[(["pc_crystal_model.txt"], .file "0 0 \n".toUTF8), (["backups"], .file "x".toUTF8)]⟩
  home := []
  directory := ""

/-- The crystal kept in that archive. -/
def blockedCrystal : Crystal :=
  ⟨"pc", 0, 0, ⟨"0 0 \n", false⟩, 0⟩

/-- Nothing can be kept there: a new checkerboard is not created, a reduction by two sites is
refused on sight, and one by one site is not undone. -/
theorem unchanged_of_failed_blocked :
    (Grid.generate {} blocked "pc" 5 5).value = {} ∧
    (blockedCrystal.reduce blocked 2).value.grid = blockedCrystal.grid ∧
    (blockedCrystal.reduce blocked 1).value.grid ≠ blockedCrystal.grid ∧
    (blockedCrystal.expand blocked 1).value.grid ≠ blockedCrystal.grid := by
  obtain ⟨created, expanded, refused⟩ :=
    Crystal.unchanged_of_failed_iff blocked {} "pc" 5 5 blockedCrystal 2
  obtain ⟨-, wider, narrower⟩ :=
    Crystal.unchanged_of_failed_iff blocked {} "pc" 5 5 blockedCrystal 1
  refine ⟨created (by decide +kernel), (refused (by decide +kernel)).2 (.inl ⟨_, rfl⟩), ?_, ?_⟩
  · have one : blockedCrystal.grid.reduce 1 = .ok ⟨"0 \n", false⟩ := by decide +kernel
    rw [Ne, narrower (by decide +kernel), not_or]
    refine ⟨?_, by decide +kernel⟩
    rintro ⟨fault, stopped⟩
    rw [one] at stopped
    cases stopped
  · rw [Ne, wider (by decide +kernel) (by decide +kernel)]
    decide +kernel

/-- An expansion that is not kept stays in memory: the row of two sites has three. -/
theorem not_unchanged_of_failed :
    Crystal.load blocked "pc" 0 0 = .ok blockedCrystal ∧
    (blockedCrystal.expand blocked 1).result = .error (.file .alreadyExists) ∧
    (blockedCrystal.expand blocked 1).value.grid = ⟨"0 0 0 \n", false⟩ := by
  refine ⟨?_, by decide +kernel⟩
  have loads : Grid.load blocked "pc" = .ok ⟨"0 0 \n", false⟩ := by decide +kernel
  exact (Crystal.load_eq_ok_iff _ _ _ _ _).2 ⟨_, loads, rfl⟩

end Archive

end LatticeSketch
