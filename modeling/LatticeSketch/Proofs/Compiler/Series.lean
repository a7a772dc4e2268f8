/-
# LatticeSketch.Proofs.Compiler.Series -- compilations that follow each other

A compiler carries the numbers that it has given out from one crystal to the next, and a curve that
is refused leaves them where they stood.  Every compilation starts them afresh, so each report of a
series, be it of a crystal that fails part-way, is that of a new compiler with the same policy
(`compileEach_eq`).

The place of a crystal reaches its monitors only.  Placed elsewhere, a crystal fails with the same
fault or compiles to the same shapes and sources, and its monitors differ by where they stand along
the row (`moved_compile`).
-/
import LatticeSketch.Proofs.Compiler.Edge
import Mathlib.Data.List.Forall2

namespace LatticeSketch.Compiler

set_option autoImplicit false

open CellByCell (place reference)

/-- The monitors of one site, for a crystal placed at `left` and at `left'`. -/
structure MonitorMoved (crystal : Crystal) (left left' : Float) (monitor monitor' : Placement) :
    Prop where
  index : monitor.index = monitor'.index
  row : monitor.row = monitor'.row
  column : monitor.column = monitor'.column
  y : monitor.position.y = monitor'.position.y
  x : monitor.position.x = (place crystal monitor.row monitor.column).x + left
  x' : monitor'.position.x = (place crystal monitor'.row monitor'.column).x + left'

/-- The results of two compilations that place a crystal at `left` and at `left'`: the same fault, or
the same shapes and sources, and the monitors of the same sites. -/
inductive Moved (crystal : Crystal) (left left' : Float) :
    Except Fault Compiled → Except Fault Compiled → Prop where
  | failed (fault : Fault) : Moved crystal left left' (.error fault) (.error fault)
  | made {compiled compiled' : Compiled} (stream : compiled.stream = compiled'.stream)
      (sources : compiled.sources = compiled'.sources)
      (monitors : List.Forall₂ (MonitorMoved crystal left left') compiled.monitors
        compiled'.monitors) :
      Moved crystal left left' (.ok compiled) (.ok compiled')

/-- The reports of a series are those of new compilers with the policy of its compiler. -/
theorem compileEach_eq (compiler : Compiler) (crystals : List Crystal) :
    compiler.compileEach crystals =
      crystals.map (compile { boundary := compiler.boundary }) := by
  induction crystals generalizing compiler with
  | nil => rfl
  | cons crystal rest ih =>
      rw [compileEach, List.map_cons, compile_fresh, ih, boundary_compile]

section Places

variable (crystal : Crystal) (left left' : Float)

theorem monitors_moved (cells : List Cell) :
    List.Forall₂ (MonitorMoved crystal left left')
      (CellByCell.monitors { crystal with left := left } cells)
      (CellByCell.monitors { crystal with left := left' } cells) := by
  unfold CellByCell.monitors CellByCell.devices
  rw [List.forall₂_map_left_iff, List.forall₂_map_right_iff, List.forall₂_same]
  intro entry _
  exact ⟨rfl, rfl, rfl, rfl, rfl, rfl⟩

theorem moved_reference :
    Moved crystal left left' (.ok (reference { crystal with left := left }))
      (.ok (reference { crystal with left := left' })) :=
  .made rfl rfl (monitors_moved crystal left left' _)

/-- The place of a crystal has no say in whether it compiles, and moves nothing but the monitors. -/
theorem moved_compile (compiler : Compiler) :
    Moved crystal left left' (compiler.compile { crystal with left := left }).result
      (compiler.compile { crystal with left := left' }).result := by
  have alike : ∀ fault, (compiler.compile { crystal with left := left }).result = .error fault ↔
      (compiler.compile { crystal with left := left' }).result = .error fault := by
    intro fault
    rw [result_compile_eq_error_iff, result_compile_eq_error_iff]
  cases first : (compiler.compile { crystal with left := left }).result with
  | error fault =>
      rw [(alike fault).1 first]
      exact .failed fault
  | ok compiled =>
      cases second : (compiler.compile { crystal with left := left' }).result with
      | error fault =>
          rw [(alike fault).2 second] at first
          cases first
      | ok compiled' =>
          rw [CellByCell.eq_reference_of_compile first, CellByCell.eq_reference_of_compile second]
          exact moved_reference crystal left left'

end Places

/-- Each report of a series is the one that a new compiler with the same policy gives, whatever
crystals went before it and however they ended.  A crystal that is compiled at two places fails alike
or has the same shapes, the same sources and the monitors of the same sites, which stand along the
row where the site is, moved by the place. -/
theorem compiled_independently (compiler : Compiler) (crystals : List Crystal) :
    compiler.compileEach crystals =
      crystals.map (compile { boundary := compiler.boundary }) ∧
    ∀ (crystal : Crystal) (left left' : Float), Moved crystal left left'
      (compiler.compile { crystal with left := left }).result
      (compiler.compile { crystal with left := left' }).result :=
  ⟨compileEach_eq compiler crystals, fun crystal left left' =>
    moved_compile crystal left left' compiler⟩

/-- A curve that is refused behind a source leaves the number of the source given out. -/
example :
    (compile { boundary := .reject } ⟨"pc", 1, 1, Grid.ofText "s c \n", 0⟩).compiler.sourceCount =
      1 := by
  decide +kernel

end LatticeSketch.Compiler
