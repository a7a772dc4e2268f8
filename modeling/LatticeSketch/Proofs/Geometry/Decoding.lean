/-
# LatticeSketch.Proofs.Geometry.Decoding -- the directives of a stream, known from its script

A block of script lines holds line feeds, commas and semicolons of its own, and a material may
look like lines of a script.  Still every part of a block shows where it ends: a number and a list
of vertices at the bracket behind them, a vertex at a semicolon, a coordinate at the comma, and a
material, if it holds no double quote, at its quote.  So a directive is known from any text that
begins with its block (`Directive.script_append_inj`).

Between two blocks there is one line feed, and nothing is left of the script behind the last one.
Hence two streams with one script are the same stream (`Stream.eq_of_script_eq`), with any
directives in any order.
-/
import LatticeSketch.Geometry.Directive
import LatticeSketch.Proofs.Decimal.Scientific

namespace LatticeSketch

set_option autoImplicit false

namespace Directive

/-- The material of a shape. -/
def material? : Directive → Option String
  | deleteAll => none
  | circle _ _ _ _ material => some material
  | polygon _ _ _ material => some material

/-- A directive whose material, if it has one, can stand between double quotes. -/
def Writable (directive : Directive) : Prop :=
  ∀ material ∈ directive.material?, '"' ∉ material.toList

/-! ## Property lines -/

section Lines

variable {key : String} {rest rest' : List Char}

theorem setLine_append (key literal : String) (rest : List Char) :
    (setLine key literal).toList ++ rest =
      ("set(\"" ++ key ++ "\", ").toList ++ (literal.toList ++ ')' :: (";\n".toList ++ rest)) := by
  simp [setLine]

/-- A literal without a bracket is known from a text that begins with its line. -/
theorem setLine_append_inj {literal literal' : String} (plain : ')' ∉ literal.toList)
    (plain' : ')' ∉ literal'.toList)
    (same : (setLine key literal).toList ++ rest = (setLine key literal').toList ++ rest') :
    literal = literal' ∧ rest = rest' := by
  rw [setLine_append, setLine_append] at same
  obtain ⟨literals, ends⟩ := (Text.append_mark_inj plain plain').1 (List.append_cancel_left same)
  exact ⟨String.toList_inj.1 literals, List.append_cancel_left ends⟩

theorem not_mem_scientific {mark : Char} (other : Decimal.isNumeral mark = false) (x : Float) :
    mark ∉ (Decimal.scientific x).toList := by
  intro member
  rw [Decimal.isNumeral_of_mem_scientific member] at other
  cases other

theorem setNumber_append_inj {x y : Float}
    (same : (setNumber key x).toList ++ rest = (setNumber key y).toList ++ rest') :
    x = y ∧ rest = rest' := by
  obtain ⟨literals, rests⟩ := setLine_append_inj (not_mem_scientific (by decide) x)
    (not_mem_scientific (by decide) y) same
  exact ⟨Decimal.scientific_injective literals, rests⟩

/-- A text may hold brackets and line feeds: it ends at its quote. -/
theorem setText_append_inj {value value' : String} (plain : '"' ∉ value.toList)
    (plain' : '"' ∉ value'.toList)
    (same : (setText key value).toList ++ rest = (setText key value').toList ++ rest') :
    value = value' ∧ rest = rest' := by
  have shape : ∀ (value : String) (rest : List Char), (setText key value).toList ++ rest =
      ("set(\"" ++ key ++ "\", \"").toList ++ (value.toList ++ '"' :: (");\n".toList ++ rest)) := by
    intro value rest
    simp [setText, setLine]
  rw [shape, shape] at same
  obtain ⟨values, ends⟩ := (Text.append_mark_inj plain plain').1 (List.append_cancel_left same)
  exact ⟨String.toList_inj.1 values, List.append_cancel_left ends⟩

end Lines

/-! ## Vertices -/

/-- The characters of a list of vertices. -/
def isVertexMark (c : Char) : Bool :=
  Decimal.isNumeral c || ['[', ',', ';', ']'].contains c

theorem vertexText_toList (vertex : Point) :
    (vertexText vertex).toList =
      (Decimal.scientific vertex.x).toList ++ ',' :: (Decimal.scientific vertex.y).toList := by
  simp [vertexText]

theorem vertexText_injective {v w : Point} (same : vertexText v = vertexText w) : v = w := by
  have texts := congrArg String.toList same
  rw [vertexText_toList, vertexText_toList] at texts
  obtain ⟨x, y⟩ := (Text.append_mark_inj (not_mem_scientific (by decide) v.x)
    (not_mem_scientific (by decide) w.x)).1 texts
  have abscissa := Decimal.scientific_injective (String.toList_inj.1 x)
  have ordinate := Decimal.scientific_injective (String.toList_inj.1 y)
  cases v
  cases w
  rw [Point.mk.injEq]
  exact ⟨abscissa, ordinate⟩

theorem vertexText_ne_nil (vertex : Point) : (vertexText vertex).toList ≠ [] := by
  simp [vertexText_toList]

theorem mem_vertexText {vertex : Point} {c : Char} (member : c ∈ (vertexText vertex).toList) :
    Decimal.isNumeral c = true ∨ c = ',' := by
  rw [vertexText_toList, List.mem_append, List.mem_cons] at member
  rcases member with x | rfl | y
  · exact .inl (Decimal.isNumeral_of_mem_scientific x)
  · exact .inr rfl
  · exact .inl (Decimal.isNumeral_of_mem_scientific y)

theorem semicolon_not_mem_vertexText (vertex : Point) : ';' ∉ (vertexText vertex).toList := by
  intro member
  rcases mem_vertexText member with numeral | comma
  · exact absurd numeral (by decide)
  · exact absurd comma (by decide)

theorem vertexList_toList (vertices : List Point) :
    (vertexList vertices).toList = '[' ::
      ([';'].intercalate (vertices.map fun vertex => (vertexText vertex).toList) ++ [']']) := by
  simp [vertexList, Function.comp_def]

theorem vertexList_injective {first second : List Point}
    (same : vertexList first = vertexList second) : first = second := by
  have texts := congrArg String.toList same
  rw [vertexList_toList, vertexList_toList] at texts
  have inside := List.append_cancel_right (List.cons.inj texts).2
  have each := Text.intercalate_mark_inj
    (List.forall_mem_map.2 fun vertex _ => vertexText_ne_nil vertex)
    (List.forall_mem_map.2 fun vertex _ => vertexText_ne_nil vertex)
    (List.forall_mem_map.2 fun vertex _ => semicolon_not_mem_vertexText vertex)
    (List.forall_mem_map.2 fun vertex _ => semicolon_not_mem_vertexText vertex) inside
  refine List.map_injective_iff.2 ?_ each
  intro v w texts
  exact vertexText_injective (String.toList_inj.1 texts)

theorem isVertexMark_of_mem_vertexList {vertices : List Point} {c : Char}
    (member : c ∈ (vertexList vertices).toList) : isVertexMark c = true := by
  rw [vertexList_toList, List.mem_cons, List.mem_append, List.mem_singleton] at member
  rcases member with rfl | inside | rfl
  · decide
  · rcases Text.mem_of_mem_intercalate inside with semicolon | ⟨_, listed, inText⟩
    · rw [List.mem_singleton.1 semicolon]
      decide
    · obtain ⟨vertex, -, rfl⟩ := List.mem_map.1 listed
      rcases mem_vertexText inText with numeral | rfl
      · rw [isVertexMark, numeral, Bool.true_or]
      · decide
  · decide

theorem bracket_not_mem_vertexList (vertices : List Point) :
    ')' ∉ (vertexList vertices).toList := by
  intro member
  exact absurd (isVertexMark_of_mem_vertexList member) (by decide)

/-! ## Blocks -/

theorem script_circle (center : Point) (radius z depth : Float) (material : String)
    (rest : List Char) :
    (circle center radius z depth material).script.toList ++ rest =
      "addcircle;\n".toList ++ ((setNumber "radius" radius).toList ++
        ((setNumber "x" center.x).toList ++ ((setNumber "y" center.y).toList ++
          ((setNumber "z" z).toList ++ ((setNumber "z span" depth).toList ++
            ((setText "material" material).toList ++ rest)))))) := by
  unfold script
  simp only [String.toList_append, List.append_assoc]

theorem script_polygon (center : Point) (vertices : List Point) (depth : Float)
    (material : String) (rest : List Char) :
    (polygon center vertices depth material).script.toList ++ rest =
      "addpoly;\n".toList ++ ((setNumber "x" center.x).toList ++
        ((setNumber "y" center.y).toList ++ ((setLine "vertices" (vertexList vertices)).toList ++
          ((setNumber "z span" depth).toList ++
            ((setText "material" material).toList ++ rest))))) := by
  unfold script
  simp only [String.toList_append, List.append_assoc]

/-- The first characters of a block, which tell the directives apart. -/
def opening : Directive → List Char
  | deleteAll => ['d', 'e', 'l', 'e']
  | circle .. => ['a', 'd', 'd', 'c']
  | polygon .. => ['a', 'd', 'd', 'p']

theorem take_script (directive : Directive) (rest : List Char) :
    (directive.script.toList ++ rest).take 4 = directive.opening := by
  cases directive with
  | deleteAll => rfl
  | circle =>
      rw [script_circle]
      rfl
  | polygon =>
      rw [script_polygon]
      rfl

/-- A directive is known from a text that begins with its block. -/
theorem script_append_inj {first second : Directive} (writable : first.Writable)
    (writable' : second.Writable) {rest rest' : List Char}
    (same : first.script.toList ++ rest = second.script.toList ++ rest') :
    first = second ∧ rest = rest' := by
  have openings : first.opening = second.opening := by
    rw [← take_script first rest, same, take_script]
  cases first with
  | deleteAll =>
      cases second with
      | deleteAll => exact ⟨rfl, List.append_cancel_left same⟩
      | circle | polygon => simp [opening] at openings
  | circle center radius z depth material =>
      cases second with
      | deleteAll | polygon => simp [opening] at openings
      | circle center' radius' z' depth' material' =>
          obtain ⟨x, y⟩ := center
          obtain ⟨x', y'⟩ := center'
          rw [script_circle, script_circle] at same
          have lines := List.append_cancel_left same
          obtain ⟨radii, atX⟩ := setNumber_append_inj lines
          obtain ⟨xs, atY⟩ := setNumber_append_inj atX
          obtain ⟨ys, atZ⟩ := setNumber_append_inj atY
          obtain ⟨zs, atDepth⟩ := setNumber_append_inj atZ
          obtain ⟨depths, atMaterial⟩ := setNumber_append_inj atDepth
          obtain ⟨materials, rests⟩ :=
            setText_append_inj (writable material rfl) (writable' material' rfl) atMaterial
          refine ⟨?_, rests⟩
          rw [circle.injEq, Point.mk.injEq]
          exact ⟨⟨xs, ys⟩, radii, zs, depths, materials⟩
  | polygon center vertices depth material =>
      cases second with
      | deleteAll | circle => simp [opening] at openings
      | polygon center' vertices' depth' material' =>
          obtain ⟨x, y⟩ := center
          obtain ⟨x', y'⟩ := center'
          rw [script_polygon, script_polygon] at same
          have lines := List.append_cancel_left same
          obtain ⟨xs, atY⟩ := setNumber_append_inj lines
          obtain ⟨ys, atVertices⟩ := setNumber_append_inj atY
          obtain ⟨texts, atDepth⟩ := setLine_append_inj (bracket_not_mem_vertexList vertices)
            (bracket_not_mem_vertexList vertices') atVertices
          obtain ⟨depths, atMaterial⟩ := setNumber_append_inj atDepth
          obtain ⟨materials, rests⟩ :=
            setText_append_inj (writable material rfl) (writable' material' rfl) atMaterial
          refine ⟨?_, rests⟩
          rw [polygon.injEq, Point.mk.injEq]
          exact ⟨⟨xs, ys⟩, vertexList_injective texts, depths, materials⟩

theorem script_ne_nil (directive : Directive) : directive.script.toList ≠ [] := by
  intro empty
  have opens := directive.take_script []
  rw [empty] at opens
  cases directive <;> cases opens

end Directive

/-! ## Streams -/

namespace Stream

/-- Blocks with a line feed in front of each. -/
def fedBlocks (directives : List Directive) : List Char :=
  directives.flatMap fun directive => '\n' :: directive.script.toList

theorem fedBlocks_cons (directive : Directive) (more : List Directive) :
    fedBlocks (directive :: more) = '\n' :: (directive.script.toList ++ fedBlocks more) := rfl

/-- A script that is not empty lacks the line feed in front of its first block only. -/
theorem feed_script (stream : Stream) (some_ : stream.directives ≠ []) :
    '\n' :: stream.script.toList = fedBlocks stream.directives := by
  obtain ⟨directives⟩ := stream
  rw [script, String.toList_intercalate]
  dsimp only at some_ ⊢
  induction directives with
  | nil => exact absurd rfl some_
  | cons directive more ih =>
      cases more with
      | nil => simp [fedBlocks]
      | cons next others =>
          have behind := ih (by simp)
          rw [fedBlocks_cons, ← behind, List.map_cons, List.map_cons, List.map_cons, List.map_cons,
            List.intercalate_cons_cons]
          simp

theorem script_eq_empty {stream : Stream} (empty : stream.script = "") :
    stream.directives = [] := by
  obtain ⟨directives⟩ := stream
  cases directives with
  | nil => rfl
  | cons directive more =>
      have feed := feed_script ⟨directive :: more⟩ (by simp)
      rw [empty, fedBlocks_cons] at feed
      have none := (List.append_eq_nil_iff.1 (List.cons.inj feed).2.symm).1
      exact absurd none directive.script_ne_nil

/-- Directives are known from their blocks. -/
theorem fedBlocks_injective {first second : List Directive}
    (writable : ∀ directive ∈ first, directive.Writable)
    (writable' : ∀ directive ∈ second, directive.Writable)
    (same : fedBlocks first = fedBlocks second) : first = second := by
  induction first generalizing second with
  | nil =>
      cases second with
      | nil => rfl
      | cons directive more => cases same
  | cons directive front ih =>
      cases second with
      | nil => cases same
      | cons directive' more =>
          rw [List.forall_mem_cons] at writable writable'
          rw [fedBlocks_cons, fedBlocks_cons] at same
          obtain ⟨rfl, rests⟩ :=
            Directive.script_append_inj writable.1 writable'.1 (List.cons.inj same).2
          rw [ih writable.2 writable'.2 rests]

/-- Two streams with one script have the same directives in the same order, if no material holds a
double quote. -/
theorem eq_of_script_eq {first second : Stream}
    (writable : ∀ directive ∈ first.directives, directive.Writable)
    (writable' : ∀ directive ∈ second.directives, directive.Writable)
    (same : first.script = second.script) : first = second := by
  have directives : first.directives = second.directives := by
    by_cases empty : first.directives = []
    · have none : first.script = "" := by
        rw [script, empty]
        rfl
      rw [empty, script_eq_empty (same.symm.trans none)]
    by_cases empty' : second.directives = []
    · have none : second.script = "" := by
        rw [script, empty']
        rfl
      exact absurd (script_eq_empty (same.trans none)) empty
    · have blocks := feed_script first empty
      rw [same, feed_script second empty'] at blocks
      exact fedBlocks_injective writable writable' blocks.symm
  cases first
  cases second
  rw [Stream.mk.injEq]
  exact directives

/-- A polygon without vertices whose material looks like the end of its line and a circle, between
two directives that clear the group. -/
theorem eq_of_script_eq_disguised :
    let disguised : Directive := .polygon ⟨0, 0⟩ [] 1e-6 "etch);\n\naddcircle;\nset(radius, 0e0"
    let first : Stream := ⟨[.deleteAll, disguised, .deleteAll]⟩
    let second := (start.push disguised).push .deleteAll
    (∀ directive ∈ first.directives, directive.Writable) ∧ first.script = second.script ∧
      first = second := by
  intro disguised first second
  have writable : ∀ directive ∈ first.directives, directive.Writable := by
    simp [first, disguised, Directive.Writable, Directive.material?]
  have same : first.script = second.script := rfl
  exact ⟨writable, same, eq_of_script_eq writable writable same⟩

end Stream

end LatticeSketch
