/-
# LatticeSketch.Proofs.Scene.Embedding -- the script of a crystal inside the script of a scene

The structure group of a crystal has a script for a property, written as it is between two quotes.
Nothing in it can be taken for the second of them.  A number, whatever its value, is written without
quotes of any kind, and so is a list of vertices; double quotes stand around the keys and the
material of a shape, and single ones only inside of a material
(`Directive.single_not_mem_script`, `Directive.double_mem_script_iff`).  All shapes that are
compiled have one material.  So the script of a crystal with shapes holds double quotes and is
written between single ones, the script of a crystal without shapes has no quotes and is written
between double ones, and what is read between the two quotes is the script
(`script_literal_of_addCrystal`).
-/
import LatticeSketch.Proofs.Geometry.Decoding
import LatticeSketch.Proofs.Scene.Replies

namespace LatticeSketch

set_option autoImplicit false

/-! ## Quotes in a script -/

namespace Directive

theorem mem_setLine_iff {key literal : String} {c : Char} :
    c ∈ (setLine key literal).toList ↔
      c ∈ "set(\"".toList ∨ c ∈ key.toList ∨ c ∈ "\", ".toList ∨ c ∈ literal.toList ∨
        c ∈ ");\n".toList := by
  simp only [setLine, String.toList_append, List.mem_append, or_assoc]

theorem single_not_mem_setLine {key literal : String} (plainKey : '\'' ∉ key.toList)
    (plain : '\'' ∉ literal.toList) : '\'' ∉ (setLine key literal).toList := by
  rw [mem_setLine_iff]
  rintro (front | inKey | between | inLiteral | behind)
  · exact absurd front (by decide)
  · exact plainKey inKey
  · exact absurd between (by decide)
  · exact plain inLiteral
  · exact absurd behind (by decide)

theorem single_not_mem_setNumber {key : String} (plain : '\'' ∉ key.toList) (x : Float) :
    '\'' ∉ (setNumber key x).toList :=
  single_not_mem_setLine plain (not_mem_scientific (by decide) x)

theorem single_not_mem_setText {key value : String} (plainKey : '\'' ∉ key.toList)
    (plain : '\'' ∉ value.toList) : '\'' ∉ (setText key value).toList :=
  single_not_mem_setLine plainKey (by simpa using plain)

/-- The block of a shape holds a single quote only where its material does. -/
theorem single_not_mem_script {directive : Directive}
    (plain : ∀ material ∈ directive.material?, '\'' ∉ material.toList) :
    '\'' ∉ directive.script.toList := by
  cases directive with
  | deleteAll => decide
  | circle center radius z depth material =>
      unfold script
      simp only [String.toList_append, List.mem_append, not_or]
      refine ⟨⟨⟨⟨⟨⟨by decide, ?_⟩, ?_⟩, ?_⟩, ?_⟩, ?_⟩, ?_⟩
      · exact single_not_mem_setNumber (by decide) radius
      · exact single_not_mem_setNumber (by decide) center.x
      · exact single_not_mem_setNumber (by decide) center.y
      · exact single_not_mem_setNumber (by decide) z
      · exact single_not_mem_setNumber (by decide) depth
      · exact single_not_mem_setText (by decide) (plain material rfl)
  | polygon center vertices depth material =>
      have listed : '\'' ∉ (vertexList vertices).toList := by
        intro member
        exact absurd (isVertexMark_of_mem_vertexList member) (by decide)
      unfold script
      simp only [String.toList_append, List.mem_append, not_or]
      refine ⟨⟨⟨⟨⟨by decide, ?_⟩, ?_⟩, ?_⟩, ?_⟩, ?_⟩
      · exact single_not_mem_setNumber (by decide) center.x
      · exact single_not_mem_setNumber (by decide) center.y
      · exact single_not_mem_setLine (by decide) listed
      · exact single_not_mem_setNumber (by decide) depth
      · exact single_not_mem_setText (by decide) (plain material rfl)

/-- Every block but that of a directive that clears the group holds a double quote. -/
theorem double_mem_script_iff {directive : Directive} :
    '"' ∈ directive.script.toList ↔ directive ≠ deleteAll := by
  have keyed : ∀ key value : String, '"' ∈ (setText key value).toList := by
    intro key value
    rw [setText, mem_setLine_iff]
    exact .inl (by decide)
  cases directive with
  | deleteAll => exact iff_of_false (by decide) (by simp)
  | circle center radius z depth material =>
      refine iff_of_true ?_ (by simp)
      unfold script
      rw [String.toList_append]
      exact List.mem_append_right _ (keyed _ _)
  | polygon center vertices depth material =>
      refine iff_of_true ?_ (by simp)
      unfold script
      rw [String.toList_append]
      exact List.mem_append_right _ (keyed _ _)

end Directive

namespace Stream

/-- The characters of a script are those of its blocks, but for line feeds. -/
theorem mem_script_iff {stream : Stream} {c : Char} (other : c ≠ '\n') :
    c ∈ stream.script.toList ↔
      ∃ directive ∈ stream.directives, c ∈ directive.script.toList := by
  have fed : c ∈ fedBlocks stream.directives ↔
      ∃ directive ∈ stream.directives, c ∈ directive.script.toList := by
    simp [fedBlocks, other]
  rw [← fed]
  by_cases empty : stream.directives = []
  · rw [script, empty]
    simp [fedBlocks]
  · rw [← feed_script stream empty, List.mem_cons, or_iff_right other]

end Stream

/-! ## Quoted texts -/

/-- The quote that a text is written between. -/
def Value.quoteFor (content : String) : Char :=
  if '"' ∈ content.toList then '\'' else '"'

theorem Value.literal_text_eq (content : String) :
    (text content).literal.toList =
      quoteFor content :: (content.toList ++ [quoteFor content]) := by
  unfold literal quotedText quoteFor
  by_cases double : '"' ∈ content.toList <;> simp [double]

theorem Value.quoteFor_eq_single_iff (content : String) :
    quoteFor content = '\'' ↔ '"' ∈ content.toList := by
  unfold quoteFor
  split <;> simp_all

theorem Value.quoteFor_eq_double_iff (content : String) :
    quoteFor content = '"' ↔ '"' ∉ content.toList := by
  unfold quoteFor
  split <;> simp_all

/-- A text without single quotes does not hold the quote that it is written between. -/
theorem Value.quoteFor_not_mem {content : String} (plain : '\'' ∉ content.toList) :
    quoteFor content ∉ content.toList := by
  unfold quoteFor
  split
  · exact plain
  · assumption

/-- What is read of a text that begins with a quote: what stands in front of the next quote of its
kind, and what is left behind that one. -/
def readQuoted : List Char → List Char × List Char
  | [] => ([], [])
  | quote :: rest => (rest.takeWhile (· != quote), (rest.dropWhile (· != quote)).drop 1)

theorem readQuoted_of_not_mem {quote : Char} {content : List Char} (absent : quote ∉ content)
    (rest : List Char) : readQuoted (quote :: (content ++ quote :: rest)) = (content, rest) := by
  have passed : ∀ c ∈ content, (c != quote) = true := by
    intro c member
    rw [bne_iff_ne]
    rintro rfl
    exact absent member
  rw [readQuoted, List.takeWhile_append_of_pos passed, List.dropWhile_append_of_pos passed]
  simp

/-! ## Crystals -/

namespace Compiler

/-- What is compiled clears the group and then adds shapes of the one material. -/
theorem stream_of_compile {compiler : Compiler} {crystal : Crystal} {compiled : Compiled}
    (made : (compiler.compile crystal).result = .ok compiled) :
    ∃ shapes, compiled.stream.directives = .deleteAll :: shapes ∧
      ∀ shape ∈ shapes, shape.material? = some etchMaterial := by
  rw [CellByCell.eq_reference_of_compile made]
  refine ⟨_, rfl, ?_⟩
  intro shape member
  obtain ⟨cell, -, inCell⟩ := List.mem_flatMap.1 member
  unfold CellByCell.shapes CellByCell.curveShapes at inCell
  cases site : cell.site with
  | circle fraction =>
      simp only [site, List.mem_singleton] at inCell
      rw [inCell]
      rfl
  | curve =>
      simp only [site, List.mem_cons, List.not_mem_nil, or_false] at inCell
      rcases inCell with rfl | rfl <;> rfl
  | junction | source | monitor | empty => simp [site] at inCell

theorem mem_shapes_iff {compiler : Compiler} {crystal : Crystal} {compiled : Compiled}
    (made : (compiler.compile crystal).result = .ok compiled) :
    (∃ shape ∈ compiled.stream.directives, shape ≠ .deleteAll) ↔
      compiled.stream.directives ≠ [.deleteAll] := by
  obtain ⟨shapes, directives, materials⟩ := stream_of_compile made
  rw [directives]
  cases shapes with
  | nil => simp
  | cons shape more =>
      refine iff_of_true ⟨shape, by simp, ?_⟩ (by simp)
      rintro rfl
      cases materials .deleteAll (by simp)

/-- The script of a crystal has no single quote, and double ones if it has shapes. -/
theorem quotes_of_compile {compiler : Compiler} {crystal : Crystal} {compiled : Compiled}
    (made : (compiler.compile crystal).result = .ok compiled) :
    '\'' ∉ compiled.stream.script.toList ∧
      ('"' ∈ compiled.stream.script.toList ↔
        ∃ shape ∈ compiled.stream.directives, shape ≠ .deleteAll) := by
  obtain ⟨shapes, directives, materials⟩ := stream_of_compile made
  constructor
  · rw [Stream.mem_script_iff (by decide), directives]
    rintro ⟨directive, member, inBlock⟩
    rcases List.mem_cons.1 member with rfl | inShapes
    · exact absurd inBlock (by decide)
    · refine Directive.single_not_mem_script ?_ inBlock
      rw [materials directive inShapes]
      rintro material ⟨⟩
      decide
  · rw [Stream.mem_script_iff (by decide)]
    simp only [Directive.double_mem_script_iff]

end Compiler

namespace Assembly

/-- The group of a crystal that is placed. -/
theorem object?_of_addCrystal {assembly : Assembly} {crystal : Crystal}
    (placed : (assembly.addCrystal crystal).result = .ok ()) :
    ∃ compiled,
      (assembly.compiler.compile { crystal with left := assembly.width }).result = .ok compiled ∧
      (assembly.addCrystal crystal).assembly.session.object? crystal.name =
        some (crystalObject { crystal with left := assembly.width } compiled) := by
  unfold addCrystal at placed ⊢
  dsimp only at placed ⊢
  cases made : (assembly.compiler.compile { crystal with left := assembly.width }).result with
  | error fault => simp [made] at placed
  | ok compiled =>
      refine ⟨compiled, rfl, ?_⟩
      have found := Session.object?_upsert assembly.session
        (crystalObject { crystal with left := assembly.width } compiled) crystal.name
      exact found.trans (if_pos rfl)

/-- A crystal that is placed has a group with its script for a property.  The script is written
between single quotes if it has shapes and between double quotes if it only clears the group, and
holds no quote of that kind itself: what is read of the literal, whatever follows it, is the
script. -/
theorem script_literal_of_addCrystal {assembly : Assembly} {crystal : Crystal}
    (placed : (assembly.addCrystal crystal).result = .ok ()) :
    ∃ compiled object quote,
      (assembly.compiler.compile { crystal with left := assembly.width }).result = .ok compiled ∧
      (assembly.addCrystal crystal).assembly.session.object? crystal.name = some object ∧
      object.get? "script" = some (.text compiled.stream.script) ∧
      (Value.text compiled.stream.script).literal.toList =
        quote :: (compiled.stream.script.toList ++ [quote]) ∧
      quote ∉ compiled.stream.script.toList ∧
      (quote = '\'' ↔ ∃ shape ∈ compiled.stream.directives, shape ≠ .deleteAll) ∧
      (quote = '"' ↔ compiled.stream.directives = [.deleteAll]) ∧
      ∀ rest, readQuoted ((Value.text compiled.stream.script).literal.toList ++ rest) =
        (compiled.stream.script.toList, rest) := by
  obtain ⟨compiled, made, object⟩ := object?_of_addCrystal placed
  obtain ⟨single, double⟩ := Compiler.quotes_of_compile made
  have some_ := Compiler.mem_shapes_iff made
  have literal := Value.literal_text_eq compiled.stream.script
  have absent := Value.quoteFor_not_mem single
  refine ⟨compiled, _, Value.quoteFor compiled.stream.script, made, object, rfl, literal, absent,
    ?_, ?_, ?_⟩
  · rw [Value.quoteFor_eq_single_iff, double]
  · rw [Value.quoteFor_eq_double_iff, double, some_, not_not]
  · intro rest
    rw [literal, List.cons_append, List.append_assoc, List.singleton_append,
      readQuoted_of_not_mem absent]

/-- A crystal with holes and curves whose lattice constant is infinite and whose holes have no
number for a depth. -/
def unboundedCrystal : Crystal :=
  ⟨"pc", 1 / 0, 0 / 0, Grid.ofText "0 c \n c 0\n", 0⟩

/-- Its script is written between single quotes. -/
theorem script_literal_of_addCrystal_unbounded :
    ((start .fresh {}).addCrystal unboundedCrystal).result = .ok () ∧
      ∃ compiled : Compiled, '\'' ∉ compiled.stream.script.toList ∧
        (Value.text compiled.stream.script).literal.toList =
          '\'' :: (compiled.stream.script.toList ++ ['\'']) := by
  have placed : ((start .fresh {}).addCrystal unboundedCrystal).result = .ok () := by
    decide +kernel
  obtain ⟨compiled, object, quote, made, -, -, literal, absent, shaped, -, -⟩ :=
    script_literal_of_addCrystal placed
  obtain rfl : quote = '\'' := by
    rw [shaped, Compiler.mem_shapes_iff made, CellByCell.eq_reference_of_compile made]
    decide +kernel
  exact ⟨placed, compiled, absent, literal⟩

end Assembly

end LatticeSketch
