/-
# LatticeSketch.Proofs.Lattice.Normalizing -- which texts draw the same grid

Nothing of a text reaches its grid but the lines that are kept (`ofText_eq_ofLines`).  So a text can
be written otherwise and draw the same grid: with more blank lines or fewer, wherever a line ends, or
with a carriage return before every line feed (`Text.Respelling`, `ofText_of_respelled`).

The rows and the flag of a grid are those of the kept lines as they stand in the text (`DrawnFrom`),
although the lines of the grid may be shorter by a carriage return.  Such a return is blank, and it is
not the space that shifts a row.  So the text of a grid is read as a grid of the same rows
(`alike_model_ofText`), but of another text if a line that was kept ends in a carriage return
(`model_reread_eq_iff`).
-/
import LatticeSketch.Proofs.Lattice.Redrawing
import Mathlib.Logic.Relation

namespace LatticeSketch

set_option autoImplicit false

namespace Text

/-! ## Respelled texts -/

/-- The lines of a text that are not blank. -/
def solidLines (text : List Char) : List (List Char) :=
  (lines text).filter fun line => !line.all isBlank

/-- A text with a carriage return before every line feed. -/
def withReturns (text : List Char) : List Char :=
  text.flatMap fun c => if c = '\n' then ['\r', '\n'] else [c]

/-- A text written otherwise: with blank lines put in where a line begins, or, if it has no carriage
return, with one before every line feed. -/
inductive Respelling : List Char → List Char → Prop
  | blankLine {before blank : List Char} (after : List Char)
      (ends : before = [] ∨ before.getLast? = some '\n') (blanks : blank.all isBlank = true) :
      Respelling (before ++ after) (before ++ (blank ++ '\n' :: after))
  | returns {text : List Char} (plain : '\r' ∉ text) : Respelling text (withReturns text)

/-- The lines of a text end where they did. -/
theorem lines_withReturns {text : List Char} (plain : '\r' ∉ text) :
    lines (withReturns text) = lines text := by
  induction text with
  | nil => rfl
  | cons c rest ih =>
      rw [List.mem_cons, not_or] at plain
      have again := ih plain.2
      by_cases feed : c = '\n'
      · subst feed
        show lines ('\r' :: '\n' :: withReturns rest) = _
        rw [lines, lines, again]
      · have pair (behind : List Char) : c = '\r' → behind.head? ≠ some '\n' :=
          fun return_ => absurd return_.symm plain.1
        have kept : withReturns (c :: rest) = c :: withReturns rest := by
          simp [withReturns, feed]
        rw [kept, lines_cons _ feed (pair _), lines_cons _ feed (pair _), again]

theorem solidLines_append_of_feed {before : List Char}
    (ends : before = [] ∨ before.getLast? = some '\n') (rest : List Char) :
    solidLines (before ++ rest) = solidLines before ++ solidLines rest := by
  rw [solidLines, lines_append_of_feed ends, List.filter_append]
  rfl

theorem solidLines_of_blank {blank : List Char} (blanks : blank.all isBlank = true) :
    solidLines blank = [] := by
  rw [solidLines, List.filter_eq_nil_iff]
  intro line member
  have empty : line.all isBlank = true :=
    List.all_eq_true.2 fun c inLine => List.all_eq_true.1 blanks c (mem_of_mem_lines member inLine)
  simp [empty]

theorem solidLines_of_respelling {first second : List Char} (step : Respelling first second) :
    solidLines second = solidLines first := by
  cases step with
  | @blankLine before blank after ends blanks =>
      have inserted : (blank ++ ['\n']).all isBlank = true := by
        rw [List.all_append, blanks]
        decide
      rw [List.append_cons blank, solidLines_append_of_feed ends, solidLines_append_of_feed ends,
        solidLines_append_of_feed (.inr List.getLast?_concat), solidLines_of_blank inserted,
        List.nil_append]
  | returns plain => rw [solidLines, lines_withReturns plain, solidLines]

/-- However often a text is respelled, to and fro, its lines that are not blank stay. -/
theorem solidLines_of_respelled {first second : List Char}
    (respelled : Relation.EqvGen Respelling first second) :
    solidLines second = solidLines first := by
  induction respelled with
  | rel _ _ step => exact solidLines_of_respelling step
  | refl _ => rfl
  | symm _ _ _ ih => exact ih.symm
  | trans _ _ _ _ _ ih ih' => exact ih'.trans ih

end Text

namespace Grid

/-! ## What a grid has of its text -/

/-- The grid has the lines of the text that are not blank: its own text is made of whole lines, none
of them blank, there is a row for each with its words, and the bottom one sets the flag. -/
structure DrawnFrom (text : String) (grid : Grid) : Prop where
  terminated : grid.model = "" ∨ grid.model.toList.getLast? = some '\n'
  solid : ∀ line ∈ grid.lines, line.all Text.isBlank = false
  height : grid.height = (keptLines text).length
  rows : grid.rows = (keptLines text).map fun line => (Text.words line).map String.ofList
  shifted : grid.evenShifted = true ↔
    ∃ line, (keptLines text).getLast? = some line ∧ line.head? = some ' '

/-- The grids have the same rows, and the same size and flag with them. -/
structure Alike (first second : Grid) : Prop where
  columns : first.columns = second.columns
  height : first.height = second.height
  rows : first.rows = second.rows
  evenShifted : first.evenShifted = second.evenShifted

@[simp] theorem beginsShifted_chopReturn (line : List Char) :
    beginsShifted (Text.chopReturn line) = beginsShifted line := by
  rcases Text.head?_chopReturn line with rfl | same
  · decide
  · rw [beginsShifted, same, beginsShifted]

theorem rows_ofText (text : String) :
    (ofText text).rows = (keptLines text).map fun line => (Text.words line).map String.ofList := by
  rw [rows, lines_ofText, List.map_map]
  simp [Function.comp_def]

theorem height_ofText (text : String) : (ofText text).height = (keptLines text).length := by
  rw [height, lines_ofText, List.length_map]

theorem evenShifted_ofText (text : String) :
    (ofText text).evenShifted = (((keptLines text).map beginsShifted).getLast?).getD false := by
  have flag : (ofText text).evenShifted =
      (((ofText text).lines.map beginsShifted).getLast?).getD false :=
    evenShifted_of_read (normalize text)
  rw [flag, lines_ofText, List.map_map]
  simp [Function.comp_def]

theorem drawnFrom_ofText (text : String) : (ofText text).DrawnFrom text where
  terminated := by
    rw [← String.toList_eq_nil_iff, toList_model_ofText]
    by_cases none : keptLines text = []
    · exact .inl (by rw [none, Text.unlines_nil])
    · exact .inr (Text.getLast?_unlines none)
  solid line member := solid_of_mem_lines_ofText member
  height := height_ofText text
  rows := rows_ofText text
  shifted := by
    rw [evenShifted_ofText, List.getLast?_map]
    cases (keptLines text).getLast? <;> simp [beginsShifted]

/-- A text draws the same grid in every spelling. -/
theorem ofText_of_respelled {text other : String}
    (respelled : Relation.EqvGen Text.Respelling text.toList other.toList) :
    ofText other = ofText text := by
  have kept : keptLines other = keptLines text := by
    show Text.solidLines other.toList = Text.solidLines text.toList
    exact Text.solidLines_of_respelled respelled
  rw [ofText_eq_ofLines, kept, ofText_eq_ofLines]

/-! ## Reading again -/

theorem alike_model_ofText (text : String) : (ofText (ofText text).model).Alike (ofText text) := by
  have kept : keptLines (ofText text).model = (keptLines text).map Text.chopReturn := by
    rw [keptLines_model_ofText, lines_ofText]
  have rows : (ofText (ofText text).model).rows = (ofText text).rows := by
    rw [rows_ofText, rows_ofText, kept, List.map_map]
    simp [Function.comp_def]
  refine ⟨by rw [columns, columns, rows], by rw [← rows_length, ← rows_length, rows], rows, ?_⟩
  rw [evenShifted_ofText, evenShifted_ofText, kept, List.map_map]
  simp [Function.comp_def]

/-- Reading a grid again finds its text as it is unless a kept line ends in a carriage return. -/
theorem model_reread_eq_iff (text : String) :
    (ofText (ofText text).model).model = (ofText text).model ↔
      ∀ line ∈ keptLines text, line.getLast? ≠ some '\r' := by
  have unchopped : (keptLines text).map Text.chopReturn = keptLines text ↔
      ∀ line ∈ keptLines text, Text.chopReturn line = line := by
    simpa using List.map_inj_left (l := keptLines text) (f := Text.chopReturn) (g := id)
  rw [← String.toList_inj, toList_model_ofText, toList_model_ofText, keptLines_model_ofText,
    Text.unlines_inj (fun _ member => feed_not_mem_of_mem_lines member)
      (fun _ member => feed_not_mem_of_mem_keptLines member),
    lines_ofText, unchopped]
  simp only [Text.chopReturn_eq_self_iff]

/-- What a grid has of its text, which texts it does not tell apart, and what is left of it when it is
read again. -/
theorem normalized_ofText (text : String) :
    (ofText text).DrawnFrom text ∧
      (∀ other : String, Relation.EqvGen Text.Respelling text.toList other.toList →
        ofText other = ofText text) ∧
      (ofText (ofText text).model).Alike (ofText text) ∧
      ((ofText (ofText text).model).model = (ofText text).model ↔
        ∀ line ∈ keptLines text, line.getLast? ≠ some '\r') :=
  ⟨drawnFrom_ofText text, fun _ respelled => ofText_of_respelled respelled,
    alike_model_ofText text, model_reread_eq_iff text⟩

/-- Blank lines in two places change nothing, and neither do returns.  A second return at the end of a
line is kept, and lost when the grid is read again. -/
theorem normalized_ofText_respelled :
    ofText "\n0 1 \n \t\n 0 c\n" = ofText "0 1 \n 0 c\n" ∧
      ofText "0 1 \r\n 0 c\r\n" = ofText "0 1 \n 0 c\n" ∧
      (ofText (ofText "0 1\r\r\n").model).model ≠ (ofText "0 1\r\r\n").model := by
  obtain ⟨-, spelled, -, -⟩ := normalized_ofText "0 1 \n 0 c\n"
  obtain ⟨-, -, -, reread⟩ := normalized_ofText "0 1\r\r\n"
  have between : Text.Respelling "0 1 \n 0 c\n".toList "0 1 \n \t\n 0 c\n".toList :=
    .blankLine " 0 c\n".toList (.inr (by decide : "0 1 \n".toList.getLast? = some '\n'))
      (by decide : " \t".toList.all Text.isBlank = true)
  have above : Text.Respelling "0 1 \n \t\n 0 c\n".toList "\n0 1 \n \t\n 0 c\n".toList :=
    .blankLine "0 1 \n \t\n 0 c\n".toList (.inl rfl) (List.all_nil)
  have returns : Text.Respelling "0 1 \n 0 c\n".toList "0 1 \r\n 0 c\r\n".toList :=
    .returns (by decide)
  refine ⟨spelled _ (.trans _ _ _ (.rel _ _ between) (.rel _ _ above)),
    spelled _ (.rel _ _ returns), ?_⟩
  rw [ne_eq, reread]
  intro plain
  exact plain "0 1\r".toList (by decide) (by decide)

end Grid

end LatticeSketch
