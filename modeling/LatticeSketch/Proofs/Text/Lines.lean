/-
# LatticeSketch.Proofs.Text.Lines -- texts put together from lines, read again

No line of a text holds a line feed.  Lines without a line feed, put together by `unlines`,
come back as they were but for one carriage return at the end of each, which `lines` takes
for a part of the terminator (`lines_unlines_chopped`).  A carriage return is blank, so the
words of the lines come back unchanged (`words_chopReturn`).  Lines without a carriage return come
back as they were (`lines_unlines_of_unbroken`).  What stands behind a terminated line is read as if
it stood alone (`lines_append_of_feed`).

A text in front of a mark that it does not hold is known from the whole (`append_mark_inj`), and so
are parts that do not hold the mark between them (`intercalate_mark_inj`) and lines put together
(`unlines_inj`).
-/
import LatticeSketch.Text.Words

namespace LatticeSketch.Text

set_option autoImplicit false

/-- A line without the carriage return at its end, if it has one there. -/
def chopReturn : List Char → List Char
  | [] => []
  | ['\r'] => []
  | c :: rest => c :: chopReturn rest

theorem chopReturn_cons_cons (c d : Char) (rest : List Char) :
    chopReturn (c :: d :: rest) = c :: chopReturn (d :: rest) := by
  rw [chopReturn]
  simp

theorem chopReturn_singleton {c : Char} (plain : c ≠ '\r') : chopReturn [c] = [c] := by
  simp [chopReturn, plain]

theorem chopReturn_of_getLast? {line : List Char} (plain : line.getLast? ≠ some '\r') :
    chopReturn line = line := by
  induction line with
  | nil => rfl
  | cons c rest ih =>
      cases rest with
      | nil => exact chopReturn_singleton (by simpa using plain)
      | cons d more =>
          rw [chopReturn_cons_cons, ih (by simpa [List.getLast?_cons_cons] using plain)]

theorem chopReturn_concat (front : List Char) : chopReturn (front ++ ['\r']) = front := by
  induction front with
  | nil => rfl
  | cons c rest ih =>
      cases rest with
      | nil =>
          rw [List.singleton_append, chopReturn_cons_cons]
          rfl
      | cons d more =>
          rw [List.cons_append, List.cons_append, chopReturn_cons_cons, ← List.cons_append, ih]

theorem chopReturn_eq_self_iff (line : List Char) :
    chopReturn line = line ↔ line.getLast? ≠ some '\r' := by
  refine ⟨fun same last => ?_, chopReturn_of_getLast?⟩
  obtain ⟨front, rfl⟩ := List.getLast?_eq_some_iff.1 last
  rw [chopReturn_concat] at same
  simpa using congrArg List.length same

/-- A terminated line in front of a text, whatever its last character. -/
theorem lines_append_terminated (part rest : List Char) (feed : '\n' ∉ part) :
    lines (part ++ '\n' :: rest) = chopReturn part :: lines rest := by
  induction part with
  | nil => simp [lines, chopReturn]
  | cons c tail ih =>
      have hc : c ≠ '\n' := fun h => feed (by simp [h])
      have htail : '\n' ∉ tail := fun h => feed (List.mem_cons_of_mem _ h)
      cases tail with
      | nil =>
          by_cases return_ : c = '\r'
          · subst return_
            simp [lines, chopReturn]
          · rw [List.singleton_append, lines_cons _ hc (fun h => absurd h return_),
              chopReturn_singleton return_]
            simp [lines, consFirst]
      | cons d more =>
          have hd : d ≠ '\n' := fun h => htail (by simp [h])
          rw [List.cons_append, lines_cons _ hc (by simpa using fun _ => hd), ih htail,
            chopReturn_cons_cons]
          rfl

/-- Lines that are put together and read again lose a carriage return at the end. -/
theorem lines_unlines_chopped (parts : List (List Char)) (feed : ∀ part ∈ parts, '\n' ∉ part) :
    lines (unlines parts) = parts.map chopReturn := by
  induction parts with
  | nil => rfl
  | cons part parts ih =>
      rw [unlines_cons, lines_append_terminated _ _ (feed part (by simp)),
        ih fun p member => feed p (by simp [member])]
      rfl

theorem mem_consFirst {c : Char} {parts : List (List Char)} {line : List Char}
    (member : line ∈ consFirst c parts) :
    (line = [c]) ∨ (∃ part ∈ parts, line = c :: part) ∨ line ∈ parts := by
  cases parts with
  | nil => exact Or.inl (by simpa [consFirst] using member)
  | cons part parts =>
      rcases List.mem_cons.1 member with rfl | inRest
      · exact Or.inr (Or.inl ⟨part, by simp, rfl⟩)
      · exact Or.inr (Or.inr (by simp [inRest]))

/-- No line of a text holds a line feed. -/
theorem feed_not_mem_of_mem_lines {text line : List Char} (member : line ∈ lines text) :
    '\n' ∉ line := by
  fun_induction lines text generalizing line with
  | case1 => simp at member
  | case2 rest ih =>
      rcases List.mem_cons.1 member with rfl | inRest
      · simp
      · exact ih inRest
  | case3 rest ih =>
      rcases List.mem_cons.1 member with rfl | inRest
      · simp
      · exact ih inRest
  | case4 c rest notFeed notPair ih =>
      have hc : '\n' ≠ c := fun h => notFeed h.symm
      rcases mem_consFirst member with rfl | ⟨part, inRest, rfl⟩ | inRest
      · simpa using hc
      · simpa using ⟨hc, ih inRest⟩
      · exact ih inRest

/-- Only the empty text has no lines. -/
theorem eq_nil_of_lines {text : List Char} (none : lines text = []) : text = [] := by
  fun_cases lines text with
  | case1 => rfl
  | case2 rest => simp [lines] at none
  | case3 rest => simp [lines] at none
  | case4 c rest notFeed notPair =>
      rw [lines.eq_def] at none
      split at none <;> simp_all [consFirst_ne_nil]

/-- A terminated front is read apart from what follows it. -/
theorem lines_append_feed_append (front rest : List Char) :
    lines (front ++ '\n' :: rest) = lines (front ++ ['\n']) ++ lines rest := by
  fun_induction lines front with
  | case1 => simp [lines]
  | case2 more ih => simp [lines, ih]
  | case3 more ih => simp [lines, ih]
  | case4 c more notFeed notPair ih =>
      have feed : c ≠ '\n' := fun same => notFeed same
      cases more with
      | nil =>
          by_cases return_ : c = '\r'
          · subst return_
            simp [lines]
          · have plain : c = '\r' → ∀ tail : List Char, tail.head? ≠ some '\n' :=
              fun same => absurd same return_
            rw [List.singleton_append, List.singleton_append,
              lines_cons _ feed fun same => plain same _, lines_cons _ feed fun same => plain same _]
            simp [lines, consFirst]
      | cons d tail =>
          have pair : c = '\r' → d ≠ '\n' := fun return_ same => notPair tail return_ (by rw [same])
          have apart (behind : List Char) :
              lines (c :: d :: tail ++ behind) = consFirst c (lines (d :: tail ++ behind)) :=
            lines_cons _ feed (by simpa using pair)
          have some_ : lines (d :: tail ++ ['\n']) ≠ [] := mt eq_nil_of_lines (by simp)
          rw [apart, apart, ih, consFirst_append c some_]

/-- Where a line ends, a text can be read in two parts. -/
theorem lines_append_of_feed {before : List Char}
    (ends : before = [] ∨ before.getLast? = some '\n') (rest : List Char) :
    lines (before ++ rest) = lines before ++ lines rest := by
  rcases ends with rfl | last
  · rfl
  · obtain ⟨front, rfl⟩ := List.getLast?_eq_some_iff.1 last
    rw [List.append_assoc, List.singleton_append, lines_append_feed_append]

/-- A line keeps its first character, unless that is the carriage return at its end. -/
theorem head?_chopReturn (line : List Char) :
    line = ['\r'] ∨ (chopReturn line).head? = line.head? := by
  cases line with
  | nil => exact .inr rfl
  | cons c rest =>
      cases rest with
      | nil =>
          by_cases return_ : c = '\r'
          · exact .inl (by rw [return_])
          · exact .inr (by rw [chopReturn_singleton return_])
      | cons d more => exact .inr (by rw [chopReturn_cons_cons]; rfl)

theorem head?_chopReturn_all (line : List Char) :
    (chopReturn line).head?.all isBlank = line.head?.all isBlank := by
  rcases head?_chopReturn line with rfl | same
  · decide
  · rw [same]

/-- A carriage return at the end belongs to no word. -/
@[simp] theorem words_chopReturn (line : List Char) : words (chopReturn line) = words line := by
  induction line with
  | nil => rfl
  | cons c rest ih =>
      cases rest with
      | nil =>
          by_cases return_ : c = '\r'
          · subst return_
            decide
          · rw [chopReturn_singleton return_]
      | cons d more =>
          rw [chopReturn_cons_cons, words, words, ih, head?_chopReturn_all]

theorem all_isBlank_chopReturn (line : List Char) :
    (chopReturn line).all isBlank = line.all isBlank := by
  rw [Bool.eq_iff_iff, ← words_eq_nil_iff, ← words_eq_nil_iff, words_chopReturn]

/-! ## Lines that no character ends -/

/-- A line without any character that ends a line. -/
structure Unbroken (line : List Char) : Prop where
  feed : '\n' ∉ line
  carriage : '\r' ∉ line

/-- The lines of a text are made of its characters. -/
theorem mem_of_mem_lines {text line : List Char} (member : line ∈ lines text) {c : Char}
    (inLine : c ∈ line) : c ∈ text := by
  fun_induction lines text generalizing line with
  | case1 => simp at member
  | case2 rest ih =>
      rcases List.mem_cons.1 member with rfl | inRest
      · simp at inLine
      · exact List.mem_cons_of_mem _ (ih inRest inLine)
  | case3 rest ih =>
      rcases List.mem_cons.1 member with rfl | inRest
      · simp at inLine
      · simp [ih inRest inLine]
  | case4 d rest notFeed notPair ih =>
      rcases mem_consFirst member with rfl | ⟨part, inRest, rfl⟩ | inRest
      · simp_all
      · rcases List.mem_cons.1 inLine with rfl | inPart
        · simp
        · exact List.mem_cons_of_mem _ (ih inRest inPart)
      · exact List.mem_cons_of_mem _ (ih inRest inLine)

theorem unbroken_of_mem_lines {text line : List Char} (carriage : '\r' ∉ text)
    (member : line ∈ lines text) : Unbroken line :=
  ⟨feed_not_mem_of_mem_lines member, fun inLine => carriage (mem_of_mem_lines member inLine)⟩

/-- Unbroken lines come back as they were. -/
theorem lines_unlines_of_unbroken {parts : List (List Char)}
    (unbroken : ∀ part ∈ parts, Unbroken part) : lines (unlines parts) = parts := by
  apply lines_unlines
  · intro part member
    exact (unbroken part member).feed
  · intro part member last
    exact (unbroken part member).carriage (List.mem_of_getLast? last)

/-! ## Texts up to a mark -/

/-- A mark that neither of two texts holds shows where each of them ends. -/
theorem append_mark_inj {mark : Char} {first second rest rest' : List Char}
    (plain : mark ∉ first) (plain' : mark ∉ second) :
    first ++ mark :: rest = second ++ mark :: rest' ↔ first = second ∧ rest = rest' := by
  induction first generalizing second with
  | nil =>
      cases second with
      | nil => simp
      | cons d more =>
          have other : mark ≠ d := by
            intro same
            exact plain' (by simp [same])
          simp [other]
  | cons c front ih =>
      have other : c ≠ mark := by
        intro same
        exact plain (by simp [same])
      cases second with
      | nil => simp [other]
      | cons d more =>
          rw [List.cons_append, List.cons_append, List.cons.injEq, List.cons.injEq, and_assoc,
            ih (fun member => plain (List.mem_cons_of_mem _ member))
              fun member => plain' (List.mem_cons_of_mem _ member)]

/-- Lines put together are known from the whole. -/
theorem unlines_inj {parts parts' : List (List Char)} (feed : ∀ part ∈ parts, '\n' ∉ part)
    (feed' : ∀ part ∈ parts', '\n' ∉ part) : unlines parts = unlines parts' ↔ parts = parts' := by
  refine ⟨fun same => ?_, fun same => by rw [same]⟩
  induction parts generalizing parts' with
  | nil =>
      cases parts' with
      | nil => rfl
      | cons part' rest' => simp [unlines] at same
  | cons part rest ih =>
      cases parts' with
      | nil => simp [unlines] at same
      | cons part' rest' =>
          rw [List.forall_mem_cons] at feed feed'
          rw [unlines_cons, unlines_cons, append_mark_inj feed.1 feed'.1] at same
          rw [same.1, ih feed.2 feed'.2 same.2]

theorem getLast?_unlines {parts : List (List Char)} (some_ : parts ≠ []) :
    (unlines parts).getLast? = some '\n' := by
  obtain ⟨front, last, rfl⟩ := (List.eq_nil_or_concat parts).resolve_left some_
  simp [unlines]

/-! ## Joined texts -/

/-- The characters of joined parts are those of the parts and of what stands between them. -/
theorem mem_of_mem_intercalate {between : List Char} {parts : List (List Char)} {c : Char}
    (member : c ∈ between.intercalate parts) : c ∈ between ∨ ∃ part ∈ parts, c ∈ part := by
  induction parts with
  | nil => simp at member
  | cons part more ih =>
      cases more with
      | nil => exact .inr ⟨part, by simp, by simpa using member⟩
      | cons next rest =>
          rw [List.intercalate_cons_cons, List.mem_append, List.mem_append] at member
          rcases member with (first | inBetween) | behind
          · exact .inr ⟨part, List.mem_cons_self, first⟩
          · exact .inl inBetween
          · rcases ih behind with inBetween | ⟨other, later, inOther⟩
            · exact .inl inBetween
            · exact .inr ⟨other, List.mem_cons_of_mem _ later, inOther⟩

/-- Parts that are not empty leave something when they are joined. -/
theorem eq_nil_of_intercalate {between : List Char} {parts : List (List Char)}
    (some_ : ∀ part ∈ parts, part ≠ []) (empty : between.intercalate parts = []) : parts = [] := by
  cases parts with
  | nil => rfl
  | cons part more =>
      have first : part = [] := by
        cases more with
        | nil => simpa using empty
        | cons next rest =>
            rw [List.intercalate_cons_cons, List.append_assoc] at empty
            exact (List.append_eq_nil_iff.1 empty).1
      exact absurd first (some_ part List.mem_cons_self)

/-- Parts that are not empty and do not hold the mark between them are known from the whole. -/
theorem intercalate_mark_inj {mark : Char} {parts parts' : List (List Char)}
    (some_ : ∀ part ∈ parts, part ≠ []) (some' : ∀ part ∈ parts', part ≠ [])
    (plain : ∀ part ∈ parts, mark ∉ part) (plain' : ∀ part ∈ parts', mark ∉ part)
    (same : [mark].intercalate parts = [mark].intercalate parts') : parts = parts' := by
  by_cases empty : parts = []
  · rw [empty, List.intercalate_nil] at same
    rw [empty, eq_nil_of_intercalate some' same.symm]
  by_cases empty' : parts' = []
  · rw [empty', List.intercalate_nil] at same
    rw [empty', eq_nil_of_intercalate some_ same]
  · rw [← List.splitOn_intercalate mark plain empty, same,
      List.splitOn_intercalate mark plain' empty']

end LatticeSketch.Text
