/-
# LatticeSketch.Proofs.CommandLine.Reports -- what a report tells about its failure

A report ends with the sentence at the root of its failure, whatever stands before it and however
it is indented.  The last two characters of that sentence tell whether the file system has
refused an operation (`told?_root`): the sentences of the system itself end in a bracket, and the
two others that there are end as no other sentence does.

So one report never stands for a refusal by the file system and for another fault as well
(`isRefusal_of_report_eq`).
-/
import LatticeSketch.CommandLine.Run
import LatticeSketch.Proofs.Decimal.Counting

namespace LatticeSketch

set_option autoImplicit false

/-- Whether the file system refuses an operation.  That a content is no text is found out only
after it has been read. -/
def FileFault.isRefusal : FileFault → Bool
  | notText => false
  | _ => true

/-- Whether the fault is a refusal by the file system. -/
def Fault.isRefusal : Fault → Bool
  | file cause => cause.isRefusal
  | _ => false

/-- The sentence at the root of a fault. -/
def Fault.root : Fault → String
  | settings cause => cause.message
  | fault => fault.message

theorem Fault.causes_cases (fault : Fault) :
    fault.causes = [fault.root] ∨ ∃ above, fault.causes = [above, fault.root] := by
  cases fault with
  | settings cause => exact .inr ⟨_, rfl⟩
  | _ => exact .inl rfl

namespace CommandLine

/-! ## Ends of sentences -/

/-- Whether a sentence that ends in the two characters tells of a refusal; none ends in a line
feed. -/
def tells? (first second : Char) : Option Bool :=
  if first = '\n' ∨ second = '\n' then none
  else some (second == ')' || second == 'e' && (first == 'l' || first == 't'))

/-- Whether a sentence tells of a refusal, by the two characters at its end. -/
def told? (sentence : List Char) : Option Bool :=
  match sentence.reverse with
  | second :: first :: _ => tells? first second
  | _ => none

theorem told?_pair (front : List Char) (first second : Char) :
    told? (front ++ [first, second]) = tells? first second := by
  simp only [told?, List.reverse_append, List.reverse_cons, List.reverse_nil, List.nil_append,
    List.cons_append]

/-- Both characters are there and neither ends a line. -/
theorem ends_of_told? {sentence : List Char} {refusal : Bool}
    (told : told? sentence = some refusal) :
    ∃ front first second, sentence = front ++ [first, second] ∧
      tells? first second = some refusal ∧ first ≠ '\n' ∧ second ≠ '\n' := by
  unfold told? at told
  split at told
  · rename_i second first rest shape
    refine ⟨rest.reverse, first, second, ?_, told, ?_⟩
    · rw [← List.reverse_reverse sentence, shape]
      simp
    · rw [tells?] at told
      split at told
      · cases told
      · rename_i plain
        exact not_or.1 plain
  · cases told

theorem told?_append (front : List Char) {sentence : List Char} {refusal : Bool}
    (told : told? sentence = some refusal) : told? (front ++ sentence) = some refusal := by
  obtain ⟨before, first, second, rfl, tells, -⟩ := ends_of_told? told
  rw [← List.append_assoc, told?_pair, tells]

theorem told?_text_append (front : String) {sentence : String} {refusal : Bool}
    (told : told? sentence.toList = some refusal) :
    told? (front ++ sentence).toList = some refusal := by
  rw [String.toList_append]
  exact told?_append _ told

/-- Blanks at the beginnings of the lines do not change how the last one ends. -/
theorem told?_indented (width : Nat) {sentence : String} {refusal : Bool}
    (told : told? sentence.toList = some refusal) :
    told? (indented width sentence).toList = some refusal := by
  obtain ⟨front, first, second, shape, tells, plain, plain'⟩ := ends_of_told? told
  rw [indented, String.toList_ofList, shape, List.flatMap_append]
  simp only [List.flatMap_cons, List.flatMap_nil, plain, plain', if_false, List.append_nil,
    List.singleton_append]
  rw [told?_pair, tells]

/-- A number ends in a digit. -/
theorem told?_number (n : Nat) : told? (" " ++ n.repr).toList = some false := by
  have digit : ∀ c ∈ n.repr.toList, c.isDigit = true :=
    fun c member => Decimal.isDigit_of_mem_repr member
  have numeral : ∀ first second : Char, first ≠ '\n' → second.isDigit = true →
      tells? first second = some false := by
    intro first second plain digit
    have apart : ∀ c : Char, c.isDigit = false → second ≠ c := by
      rintro c other rfl
      exact absurd (digit.symm.trans other) (by decide)
    rw [tells?, if_neg (not_or.2 ⟨plain, apart '\n' (by decide)⟩),
      beq_eq_false_iff_ne.2 (apart ')' (by decide)), beq_eq_false_iff_ne.2 (apart 'e' (by decide))]
    rfl
  rw [String.toList_append]
  rcases List.eq_nil_or_concat n.repr.toList with none | ⟨front, last, shape⟩
  · exact absurd none (by rw [Nat.toList_repr]; exact Nat.toDigits_ne_nil)
  · rw [shape] at digit ⊢
    have ends := digit last (by simp)
    -- the character before the last digit is another one, or the blank
    rcases List.eq_nil_or_concat front with rfl | ⟨before, first, rfl⟩
    · exact (told?_pair [] ' ' last).trans (numeral ' ' last (by decide) ends)
    · have plain : first ≠ '\n' := by
        rintro rfl
        exact absurd (digit '\n' (by simp)) (by decide)
      have pair := told?_append " ".toList ((told?_pair before first last).trans
        (numeral first last plain ends))
      simpa using pair

/-! ## Reports -/

/-- The sentences of the file system about a refusal end as no other sentence does. -/
theorem told?_root (fault : Fault) : told? fault.root.toList = some fault.isRefusal := by
  cases fault with
  | raggedRow row expected found =>
      have blank : " sites, expected " = " sites, expected" ++ " " := by decide +kernel
      change told? (_ ++ " sites, expected " ++ expected.repr).toList = some false
      rw [blank, ← String.append_assoc, String.append_assoc]
      exact told?_text_append _ (told?_number expected)
  | missingModel | outsideNeighbour | tooNarrow =>
      change told? _ = some false
      exact told?_text_append _ (by decide +kernel)
  | noCrystals placing =>
      change told? _ = some false
      cases placing <;> exact told?_text_append _ (by decide +kernel)
  | settings cause => cases cause <;> decide +kernel
  | file cause => cases cause <;> decide +kernel

theorem causeLines_nil : causeLines [] = "" := rfl

theorem causeLines_one (cause : String) :
    causeLines [cause] = "\n\nCaused by:\n    " ++ indented 4 cause := rfl

theorem causeLines_two (above root : String) :
    causeLines [above, root] = "\n\nCaused by:" ++
      (("\n    " ++ Nat.repr 0 ++ ": " ++ indented 7 above) ++
        (("\n    " ++ Nat.repr 1 ++ ": ") ++ indented 7 root)) := by
  change _ ++ String.join [_, _] = _
  rw [String.join_cons, String.join_cons, String.join_nil, String.append_empty]

/-- Beneath the first sentence of a report the root comes last. -/
theorem told?_causeLines {causes : List String} {root : String} {refusal : Bool}
    (told : told? root.toList = some refusal)
    (shape : causes = [root] ∨ ∃ above, causes = [above, root]) :
    told? (causeLines causes).toList = some refusal := by
  rcases shape with rfl | ⟨above, rfl⟩
  · rw [causeLines_one]
    exact told?_text_append _ (told?_indented 4 told)
  · rw [causeLines_two]
    refine told?_text_append _ (told?_text_append _ (told?_text_append _ ?_))
    exact told?_indented 7 told

/-- A report ends with its root sentence and a line feed. -/
theorem report_ends (failure : Failure) :
    ∃ sentences : String, failure.report = sentences ++ "\n" ∧
      told? sentences.toList = some failure.fault.isRefusal := by
  obtain ⟨context?, fault⟩ := failure
  have root := told?_root fault
  cases context? with
  | some context =>
      exact ⟨"Error: " ++ context ++ causeLines fault.causes, rfl,
        told?_text_append _ (told?_causeLines root fault.causes_cases)⟩
  | none =>
      rcases fault.causes_cases with causes | ⟨above, causes⟩
      · refine ⟨"Error: " ++ fault.root, ?_, told?_text_append _ root⟩
        simp only [Failure.report, causes, Option.toList_none, List.nil_append, causeLines_nil,
          String.append_empty]
      · refine ⟨"Error: " ++ above ++ causeLines [fault.root], ?_,
          told?_text_append _ (told?_causeLines root (.inl rfl))⟩
        simp only [Failure.report, causes, Option.toList_none, List.nil_append]

/-- One report does not stand for a refusal by the file system and for another fault as well. -/
theorem isRefusal_of_report_eq {failure other : Failure} (same : failure.report = other.report) :
    failure.fault.isRefusal = other.fault.isRefusal := by
  have told : ∀ failure : Failure,
      told? failure.report.toList.dropLast = some failure.fault.isRefusal := by
    intro failure
    obtain ⟨sentences, report, ends⟩ := report_ends failure
    rw [report, String.toList_append]
    simpa using ends
  have read := told failure
  rw [same, told other] at read
  exact (Option.some.inj read).symm

end CommandLine

end LatticeSketch
