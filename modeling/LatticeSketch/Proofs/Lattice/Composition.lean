/-
# LatticeSketch.Proofs.Lattice.Composition -- edits that follow each other

Edits add up.  Two expansions are one by both numbers of sites, two reductions are one by both
numbers, with the same refusals, and an expansion in front of a reduction is whichever edit remains
of the two (`edits_compose`).  In particular a reduction undoes the expansion by as many sites,
whatever the symbols and the spaces of the lines are.

All of it holds line by line.  Reductions cut characters, so they add up as long as the characters
of all sites can be counted (`narrowLine_narrowLine`).  Expansions repeat the last two characters of
a line: where there are two, they are the last two of the wider line again (`lastPair_widenLine`),
and a cut takes off what was repeated (`narrowLine_widenLine`).  A line of one character gets one
more for each site and loses two, so nothing of it is left (`narrowLine_widenLine_single`).
-/
import LatticeSketch.Proofs.Lattice.Redrawing

namespace LatticeSketch.Grid

set_option autoImplicit false

/-! ## One line -/

theorem widenLine_zero (line : List Char) : widenLine 0 line = line := by
  simp [widenLine]

theorem narrowLine_narrowLine {m n : Nat} (few : 2 * (m + n) < countBound) (line : List Char) :
    narrowLine n (narrowLine m line) = narrowLine (m + n) line := by
  have cut : min (line.length - 2 * m - 2 * n) (line.length - 2 * m) =
      line.length - 2 * (m + n) := by
    omega
  have kept : min (line.length - 2 * m) line.length = line.length - 2 * m := by
    omega
  rw [narrowLine, narrowLine, narrowLine, cutLength_of_lt few, cutLength_of_lt (by omega),
    cutLength_of_lt (by omega), List.length_take, kept, List.take_take, cut]

/-- A line with something left behind a cut is drawn. -/
theorem solid_of_narrowLine {sites : Nat} {line : List Char}
    (solid : (narrowLine sites line).all Text.isBlank = false) : line.all Text.isBlank = false := by
  rw [List.all_eq_false] at solid ⊢
  obtain ⟨c, member, drawn⟩ := solid
  exact ⟨c, List.mem_of_mem_take member, drawn⟩

section Long

variable {line : List Char} (long : 2 ≤ line.length)

include long

theorem length_widenLine_of_long (sites : Nat) :
    (widenLine sites line).length = line.length + 2 * sites := by
  have two : min 2 line.length = 2 := by
    omega
  rw [length_widenLine, two, Nat.mul_comm]

/-- The pair that is repeated stays the last one. -/
theorem lastPair_widenLine (sites : Nat) : lastPair (widenLine sites line) = lastPair line := by
  have pair : (lastPair line).length = 2 := by
    rw [lastPair, List.length_drop]
    omega
  induction sites with
  | zero => rw [widenLine_zero]
  | succ sites ih =>
      rw [widenLine_succ]
      show List.drop ((widenLine sites line ++ lastPair line).length - 2) _ = lastPair line
      rw [List.length_append, pair, Nat.add_sub_cancel, List.drop_left]

theorem widenLine_widenLine (m n : Nat) :
    widenLine n (widenLine m line) = widenLine (m + n) line := by
  induction n with
  | zero => rw [widenLine_zero, Nat.add_zero]
  | succ n ih => rw [widenLine_succ, ih, lastPair_widenLine long, ← Nat.add_assoc, widenLine_succ]

/-- A cut takes off what was repeated. -/
theorem narrowLine_widenLine {sites : Nat} (few : 2 * sites < countBound) :
    narrowLine sites (widenLine sites line) = line := by
  rw [narrowLine, cutLength_of_lt few, length_widenLine_of_long long, Nat.add_sub_cancel]
  exact List.take_left

theorem narrowLine_widenLine_of_le {m n : Nat} (few : 2 * n < countBound) (fewer : n ≤ m) :
    narrowLine n (widenLine m line) = widenLine (m - n) line := by
  obtain ⟨rest, rfl⟩ : ∃ rest, m = rest + n := ⟨m - n, by omega⟩
  have longer : 2 ≤ (widenLine rest line).length := by
    rw [length_widenLine_of_long long]
    omega
  rw [← widenLine_widenLine long, narrowLine_widenLine longer few, Nat.add_sub_cancel]

theorem narrowLine_widenLine_of_ge {m n : Nat} (few : 2 * n < countBound) (more : m ≤ n) :
    narrowLine n (widenLine m line) = narrowLine (n - m) line := by
  obtain ⟨rest, rfl⟩ : ∃ rest, n = m + rest := ⟨n - m, by omega⟩
  rw [← narrowLine_narrowLine few, narrowLine_widenLine long (by omega), Nat.add_sub_cancel_left]

end Long

/-- A line of one character loses more than it got. -/
theorem narrowLine_widenLine_single {sites : Nat} (some_ : 0 < sites)
    (few : 2 * sites < countBound) {line : List Char} (single : line.length = 1) :
    narrowLine sites (widenLine sites line) = [] := by
  have one : min 2 line.length = 1 := by
    omega
  have nothing : line.length + sites * 1 - 2 * sites = 0 := by
    omega
  rw [narrowLine, cutLength_of_lt few, length_widenLine, one, nothing, List.take_zero]

/-! ## Whole lattices -/

section Unbroken

variable {parts : List (List Char)} (unbroken : ∀ part ∈ parts, Text.Unbroken part)

include unbroken

theorem expand_ofLines (sites : Nat) :
    (ofLines parts).expand sites = ofLines (parts.map (widenLine sites)) := by
  rw [expand_of_legible (legible_ofLines unbroken), lines_ofLines unbroken]

theorem reduce_ofLines_eq_ok_iff (sites : Nat) (edited : Grid) :
    (ofLines parts).reduce sites = .ok edited ↔
      (∀ part ∈ parts, (narrowLine sites part).all Text.isBlank = false) ∧
        edited = ofLines (parts.map (narrowLine sites)) := by
  rw [reduce_eq_ok_iff (legible_ofLines unbroken), lines_ofLines unbroken]

theorem unbroken_map_widenLine (sites : Nat) :
    ∀ part ∈ parts.map (widenLine sites), Text.Unbroken part := by
  rw [List.forall_mem_map]
  intro part member
  exact unbroken_widenLine (unbroken part member) sites

theorem expand_zero_ofLines : (ofLines parts).expand 0 = ofLines parts := by
  have same : parts.map (widenLine 0) = parts :=
    calc parts.map (widenLine 0) = parts.map id :=
          List.map_congr_left fun part _ => widenLine_zero part
      _ = parts := List.map_id parts
  rw [expand_ofLines unbroken, same]

/-- Two reductions are refused or not like the one by both numbers of sites. -/
theorem reduce_reduce_ofLines {m n : Nat} (few : 2 * (m + n) < countBound) (edited : Grid) :
    (∃ narrower, (ofLines parts).reduce m = .ok narrower ∧ narrower.reduce n = .ok edited) ↔
      (ofLines parts).reduce (m + n) = .ok edited := by
  have shorter : ∀ part ∈ parts.map (narrowLine m), Text.Unbroken part := by
    rw [List.forall_mem_map]
    intro part member
    exact unbroken_narrowLine (unbroken part member) m
  have twice : (parts.map (narrowLine m)).map (narrowLine n) = parts.map (narrowLine (m + n)) := by
    rw [List.map_map]
    apply List.map_congr_left
    intro part _
    exact narrowLine_narrowLine few part
  constructor
  · rintro ⟨narrower, first, second⟩
    obtain ⟨-, rfl⟩ := (reduce_ofLines_eq_ok_iff unbroken m narrower).1 first
    obtain ⟨solid, rfl⟩ := (reduce_ofLines_eq_ok_iff shorter n edited).1 second
    rw [List.forall_mem_map] at solid
    simp only [narrowLine_narrowLine few] at solid
    exact (reduce_ofLines_eq_ok_iff unbroken (m + n) _).2 ⟨solid, by rw [twice]⟩
  · intro both
    obtain ⟨solid, rfl⟩ := (reduce_ofLines_eq_ok_iff unbroken (m + n) edited).1 both
    refine ⟨_, (reduce_ofLines_eq_ok_iff unbroken m _).2 ⟨?_, rfl⟩,
      (reduce_ofLines_eq_ok_iff shorter n _).2 ⟨?_, by rw [twice]⟩⟩
    · -- what is left behind the longer cut is left behind the shorter one
      intro part member
      have left := solid part member
      rw [← narrowLine_narrowLine few] at left
      exact solid_of_narrowLine left
    · rw [List.forall_mem_map]
      simp only [narrowLine_narrowLine few]
      exact solid

section Long

variable (long : ∀ part ∈ parts, 2 ≤ part.length)

include long

theorem expand_expand_ofLines (m n : Nat) :
    ((ofLines parts).expand m).expand n = (ofLines parts).expand (m + n) := by
  have twice : (parts.map (widenLine m)).map (widenLine n) = parts.map (widenLine (m + n)) := by
    rw [List.map_map]
    apply List.map_congr_left
    intro part member
    exact widenLine_widenLine (long part member) m n
  rw [expand_ofLines unbroken, expand_ofLines (unbroken_map_widenLine unbroken m), twice,
    expand_ofLines unbroken]

/-- A reduction by fewer sites takes them off the expansion. -/
theorem reduce_expand_of_le (solid : ∀ part ∈ parts, part.all Text.isBlank = false) {m n : Nat}
    (few : 2 * n < countBound) (fewer : n ≤ m) :
    ((ofLines parts).expand m).reduce n = .ok ((ofLines parts).expand (m - n)) := by
  have rest : ∀ part ∈ parts, narrowLine n (widenLine m part) = widenLine (m - n) part :=
    fun part member => narrowLine_widenLine_of_le (long part member) few fewer
  rw [expand_ofLines unbroken, expand_ofLines unbroken,
    reduce_ofLines_eq_ok_iff (unbroken_map_widenLine unbroken m), List.forall_mem_map,
    List.map_map]
  constructor
  · intro part member
    rw [rest part member]
    exact all_isBlank_widenLine (solid part member)
  · exact congrArg ofLines (List.map_congr_left rest).symm

/-- A reduction by more sites takes the remaining ones off the lattice before. -/
theorem reduce_expand_of_ge {m n : Nat} (few : 2 * n < countBound) (more : m ≤ n)
    (edited : Grid) :
    ((ofLines parts).expand m).reduce n = .ok edited ↔
      (ofLines parts).reduce (n - m) = .ok edited := by
  have rest : ∀ part ∈ parts, narrowLine n (widenLine m part) = narrowLine (n - m) part :=
    fun part member => narrowLine_widenLine_of_ge (long part member) few more
  have lines : (parts.map (widenLine m)).map (narrowLine n) = parts.map (narrowLine (n - m)) := by
    rw [List.map_map]
    exact List.map_congr_left rest
  rw [expand_ofLines unbroken, reduce_ofLines_eq_ok_iff (unbroken_map_widenLine unbroken m),
    reduce_ofLines_eq_ok_iff unbroken, lines, List.forall_mem_map]
  refine and_congr_left fun _ => forall₂_congr fun part member => ?_
  rw [rest part member]

end Long

end Unbroken

/-- With a drawn line of one character an expansion cannot be undone. -/
theorem reduce_expand_of_single {grid : Grid} {sites : Nat} (some_ : 0 < sites)
    (few : 2 * sites < countBound) {line : List Char} (member : line ∈ grid.lines) (single : line.length = 1)
    (solid : line.all Text.isBlank = false) :
    ∃ fault, (grid.expand sites).reduce sites = .error fault := by
  have feed : ∀ part ∈ grid.lines.map (widenLine sites), '\n' ∉ part := by
    rw [List.forall_mem_map]
    intro part inside
    exact feed_not_mem_widenLine (feed_not_mem_of_mem_lines inside)
  have plain : (widenLine sites line).getLast? ≠ some '\r' := by
    obtain ⟨c, rfl⟩ := List.length_eq_one_iff.1 single
    rw [getLast?_widenLine]
    rintro ⟨rfl⟩
    exact absurd solid (by decide)
  have wide : widenLine sites line ∈ (grid.expand sites).lines := by
    rw [lines, expand, withModel_model, String.toList_ofList, Text.lines_unlines_chopped _ feed,
      List.map_map]
    refine List.mem_map.2 ⟨line, member, ?_⟩
    exact Text.chopReturn_of_getLast? plain
  cases narrow : tooNarrow? sites (grid.expand sites).lines with
  | some fault => exact ⟨fault, by rw [reduce, narrow]⟩
  | none =>
      have left := solid_of_tooNarrow?_eq_none narrow wide
      rw [narrowLine_widenLine_single some_ few single] at left
      exact absurd left (by decide)

end LatticeSketch.Grid
