/-
# LatticeSketch.Proofs.Json.Records -- records given in part

An object may give any of the fields of a record, in any order and among any other keys.  What
reading it comes to is said by a merge `merge given base`, which is `base` with the given fields put
on top: a merge belongs to the fields of a record (`Layered`) if nothing given leaves `base` as it
is, if only the keys of fields matter, and if reading one more field is the merge with its key given
as well.

Along an object the record read so far is the merge of the keys seen so far (`members_round`), so an
object that gives each of the given fields once is read as their merge (`readAs_record`).
-/
import LatticeSketch.Proofs.Json.Values

namespace LatticeSketch.Json

set_option autoImplicit false

variable {α β : Type}

/-! ## Objects that give some fields -/

/-- A field as an object may give it: its key, and the texts of the value that it is to have. -/
structure Part where
  key : String
  Text : List Char → Prop

/-- Behind the key of a part stands a text of it, and behind any other key any value. -/
structure Fits (parts : List Part) (entry : Entry) : Prop where
  known : ∀ part ∈ parts, part.key = entry.1 → part.Text entry.2
  unknown : (∀ part ∈ parts, part.key ≠ entry.1) → Phrase .value entry.2

/-- The texts of the objects that give some of the parts, each of them once. -/
inductive Gives (parts : List Part) (given : String → Bool) : List Char → Prop
  | mk {entries : List Entry} {text : List Char} (written : Object entries text)
      (once : ∀ part ∈ parts, (entries.map Prod.fst).count part.key = (given part.key).toNat)
      (fit : ∀ entry ∈ entries, Fits parts entry) : Gives parts given text

/-! ## Merges -/

/-- Reading the text of a part is the merge with one more key. -/
structure Taken (merge : (String → Bool) → α → α) (field : Field α) (part : Part) : Prop where
  same : field.key = part.key
  reads : ∀ (given : String → Bool) (base : α) {text : List Char}, part.Text text →
    ReadAs (field.read (merge given base)) text
      (merge (fun key => key == part.key || given key) base)

/-- A merge that goes with the fields of a record. -/
structure Layered (fields : List (Field α)) (parts : List Part)
    (merge : (String → Bool) → α → α) : Prop where
  nothing : ∀ base, merge (fun _ => false) base = base
  relevant : ∀ {given given' : String → Bool} (base : α),
    (∀ part ∈ parts, given part.key = given' part.key) → merge given base = merge given' base
  taken : List.Forall₂ (Taken merge) fields parts

theorem taken_of {merge : (String → Bool) → α → α} {key : String} {read : Reader β}
    {set : α → β → α} {value : β} {Text : List Char → Prop}
    (reads : ∀ {text : List Char}, Text text → ReadAs read text value)
    (puts : ∀ given base,
      set (merge given base) value = merge (fun name => name == key || given name) base) :
    Taken merge (Field.of key read set) ⟨key, Text⟩ where
  same := rfl
  reads given base text written blanks rest blank closes := by
    have read := reads written blank closes
    rw [← puts]
    simp only [Field.of, read, Except.map]

/-- The field with a key is the one of the part with that key, if there is one. -/
theorem find?_of_taken {merge : (String → Bool) → α → α} {fields : List (Field α)}
    {parts : List Part} (taken : List.Forall₂ (Taken merge) fields parts) (key : String) :
    (∃ field part, fields.find? (fun field => field.key == key) = some field ∧ part ∈ parts ∧
        part.key = key ∧ Taken merge field part) ∨
      fields.find? (fun field => field.key == key) = none ∧ ∀ part ∈ parts, part.key ≠ key := by
  induction taken with
  | nil => exact .inr ⟨rfl, by simp⟩
  | @cons field part fields parts first _ ih =>
      by_cases here : part.key = key
      · refine .inl ⟨field, part, ?_, List.mem_cons_self, here, first⟩
        rw [List.find?_cons_of_pos (by simp [first.same, here])]
      · rw [List.find?_cons_of_neg (by simp [first.same, here])]
        rcases ih with ⟨found, part', first', member, same, taken⟩ | ⟨none, other⟩
        · exact .inl ⟨found, part', first', List.mem_cons_of_mem _ member, same, taken⟩
        · exact .inr ⟨none, List.forall_mem_cons.2 ⟨here, other⟩⟩

/-- Where every part is given once at most, the next key of a part is new; it makes no difference to
the count on which side of it the keys before it stand. -/
theorem once_of_next {parts : List Part} {given : String → Bool} {seen later : List String}
    {key : String}
    (once : ∀ part ∈ parts, (seen ++ key :: later).count part.key = (given part.key).toNat) :
    (∀ part ∈ parts, part.key = key → key ∉ seen) ∧
      ∀ part ∈ parts, (key :: seen ++ later).count part.key = (given part.key).toNat := by
  refine ⟨?_, fun part member => ?_⟩
  · rintro part member rfl before
    have count := once part member
    have positive : 0 < seen.count part.key := List.count_pos_iff.2 before
    have bound : (given part.key).toNat ≤ 1 := Bool.toNat_le _
    rw [List.count_append, List.count_cons_self] at count
    omega
  · rw [← once part member]
    exact List.perm_middle.symm.count_eq part.key

/-! ## One entry -/

section Members

variable (fields : List (Field α)) (fuel : Nat) (seen : List String)

theorem members_end (first : Bool) (base : α) {blanks : List Char} (blank : Blanks blanks)
    (rest : List Char) :
    members fields (fuel + 1) first seen base (blanks ++ '}' :: rest) = .ok (base, rest) := by
  rw [members, skipSpace_append blank, skipSpace_cons (by decide)]
  rfl

/-- What stands in front of an entry: nothing before the first one, a comma before the others. -/
inductive Opening : Bool → List Char → Prop
  | first : Opening true []
  | later {blanks : List Char} (behind : Blanks blanks) : Opening false (blanks ++ [','])

/-- A key is read, then the value behind it, then what is left. -/
theorem members_key {first : Bool} {opening left written : List Char} {key : String}
    (opened : Opening first opening) (before : Blanks left) (spelled : Spells written key.toList)
    (base : α) (rest : List Char) :
    members fields (fuel + 1) first seen base
        (opening ++ (left ++ '"' :: (written ++ '"' :: rest))) =
      (readMember fields seen key base rest >>= fun read =>
        members fields fuel false (key :: seen) read.1 read.2) := by
  cases opened with
  | first =>
      rw [members, List.nil_append, skipSpace_append before, skipSpace_cons (by decide)]
      simp only [readString_of_spells spelled, bind, Except.bind, String.ofList_toList]
      rfl
  | later behind =>
      rw [members, List.append_assoc, skipSpace_append behind, List.singleton_append,
        skipSpace_cons (by decide)]
      have quote := skipMark_append (show isSpace '"' = false from rfl) before
        (written ++ '"' :: rest)
      simp only [bind, Except.bind, quote, readString_of_spells spelled, String.ofList_toList]
      rfl

end Members

section Rounds

variable {fields : List (Field α)} {parts : List Part} {merge : (String → Bool) → α → α}
  (laid : Layered fields parts merge)

include laid

/-- An entry is read on top of what has been read, or passed over. -/
theorem readMember_of_layered {seen : List String} {key : String}
    {right left value rest : List Char} (fresh : ∀ part ∈ parts, part.key = key → key ∉ seen)
    (fit : Fits parts (key, value)) (behind : Blanks right) (before : Blanks left)
    (closes : Closes rest) (base : α) :
    readMember fields seen key (merge seen.contains base)
        (right ++ ':' :: (left ++ value ++ rest)) =
      .ok (merge (key :: seen).contains base, rest) := by
  have colon := skipMark_append (show isSpace ':' = false from rfl) behind (left ++ value ++ rest)
  rcases find?_of_taken laid.taken key with ⟨field, part, found, member, rfl, taken⟩ | ⟨none, other⟩
  · have new : seen.contains part.key = false := by simpa using fresh part member rfl
    have read := taken.reads seen.contains base (fit.known part member rfl) before closes
    have onTop : (part.key :: seen).contains = fun key => key == part.key || seen.contains key :=
      funext fun _ => List.contains_cons
    rw [readMember, found, onTop]
    simp only [new, colon, bind, Except.bind, Bool.false_eq_true, if_false]
    exact read
  · have passed := skipValue_of_phrase (fit.unknown other) before closes
    have same : merge (key :: seen).contains base = merge seen.contains base :=
      laid.relevant base fun part member => by simp [other part member]
    rw [readMember, none, same]
    simp only [colon, passed, bind, Except.bind]
    rfl

/-- One round of reading an object: the merge has the next key as well. -/
theorem members_round {first : Bool} {seen : List String} {key : String}
    {opening label left value rest : List Char} (opened : Opening first opening)
    (labelled : KeyText key label) (fresh : ∀ part ∈ parts, part.key = key → key ∉ seen)
    (fit : Fits parts (key, value)) (before : Blanks left) (closes : Closes rest) (fuel : Nat)
    (base : α) :
    members fields (fuel + 1) first seen (merge seen.contains base)
        (opening ++ (label ++ (left ++ value ++ rest))) =
      members fields fuel false (key :: seen) (merge (key :: seen).contains base) rest := by
  obtain ⟨front, spelled, behind⟩ := labelled
  have read := readMember_of_layered laid fresh fit behind before closes base
  simp only [List.append_assoc, List.cons_append, List.nil_append] at read ⊢
  rw [members_key fields fuel seen opened front spelled, read]
  rfl

/-- The merge of the keys seen is the merge of the keys that were to be given. -/
theorem merge_contains {seen : List String} {given : String → Bool}
    (once : ∀ part ∈ parts, seen.count part.key = (given part.key).toNat) (base : α) :
    merge seen.contains base = merge given base := by
  refine laid.relevant base fun part member => ?_
  have count := once part member
  cases wanted : given part.key with
  | false =>
      rw [wanted, Bool.toNat_false, List.count_eq_zero] at count
      simpa using count
  | true =>
      have present : 0 < seen.count part.key := by
        rw [count, wanted]
        decide
      simpa using List.count_pos_iff.1 present

/-- The entries of an object are read as the merge of the keys that they give. -/
theorem members_of_entries {entries : List Entry} {text : List Char}
    (written : Entries entries text) (fit : ∀ entry ∈ entries, Fits parts entry)
    {first : Bool} {seen : List String} {opening : List Char} (opened : Opening first opening)
    {given : String → Bool}
    (once : ∀ part ∈ parts,
      (seen ++ entries.map Prod.fst).count part.key = (given part.key).toNat)
    {fuel : Nat} (enough : entries.length < fuel) (base : α) (rest : List Char) :
    members fields fuel first seen (merge seen.contains base) (opening ++ (text ++ '}' :: rest)) =
      .ok (merge given base, rest) := by
  induction written generalizing first seen opening fuel with
  | @last key label left value right labelled before behind =>
      obtain ⟨fuel, rfl⟩ : ∃ more, fuel = more + 2 := Nat.exists_eq_add_of_le' enough
      obtain ⟨fresh, all⟩ := once_of_next once
      rw [List.map_nil, List.append_nil] at all
      have round := members_round laid opened labelled fresh (fit _ List.mem_cons_self) before
        (closes_of_mem (show '}' ∈ [',', ']', '}'] by decide) behind rest) (fuel + 1) base
      simp only [List.append_assoc] at round ⊢
      rw [round, members_end fields fuel _ _ _ behind, merge_contains laid all]
  | @more key label left value right text entries labelled before behind others ih =>
      obtain ⟨fuel, rfl⟩ : ∃ more, fuel = more + 1 := Nat.exists_eq_add_of_le' (by omega)
      obtain ⟨fresh, onceToo⟩ := once_of_next once
      have round := members_round laid opened labelled fresh (fit _ List.mem_cons_self) before
        (closes_of_mem (show ',' ∈ [',', ']', '}'] by decide) behind (text ++ '}' :: rest))
        fuel base
      have later := ih (fun entry member => fit entry (List.mem_cons_of_mem _ member))
        (.later behind) onceToo (by simpa using enough)
      simp only [List.append_assoc, List.cons_append, List.nil_append] at round later ⊢
      rw [round, later]

end Rounds

theorem Entries.length_le {entries : List Entry} {text : List Char}
    (written : Entries entries text) : entries.length ≤ text.length := by
  induction written with
  | last labelled =>
      obtain ⟨_, _, _⟩ := labelled
      simp only [List.length_append, List.length_cons, List.length_nil]
      omega
  | more _ _ _ _ ih =>
      simp only [List.length_append, List.length_cons]
      omega

/-! ## Whole records -/

variable {fields : List (Field α)} {parts : List Part} {merge : (String → Bool) → α → α}

/-- An object that gives some fields of a record is read as them on top of `base`. -/
theorem readAs_record (laid : Layered fields parts merge) {given : String → Bool} {text : List Char}
    (gives : Gives parts given text) (base : α) :
    ReadAs (record fields base) text (merge given base) := by
  intro blanks rest blank closes
  obtain @⟨entries, text, written, once, fit⟩ := gives
  -- Nothing has been seen yet, so `base` is the merge of the keys seen.
  have start : merge ([] : List String).contains base = base := laid.nothing base
  rw [record, List.append_assoc, skipSpace_append blank]
  cases written with
  | @empty inner inside =>
      have shape : '{' :: inner ++ ['}'] ++ rest = '{' :: (inner ++ '}' :: rest) := by simp
      rw [shape, skipSpace_cons (by decide), ← merge_contains laid once, List.map_nil, start]
      exact members_end fields _ [] true base inside rest
  | @filled _ inner inside =>
      have shape : '{' :: inner ++ ['}'] ++ rest = '{' :: (inner ++ '}' :: rest) := by simp
      have enough : entries.length < (inner ++ '}' :: rest).length + 1 := by
        have := inside.length_le
        rw [List.length_append]
        omega
      have all : ∀ part ∈ parts,
          ([] ++ entries.map Prod.fst).count part.key = (given part.key).toNat := once
      have read := members_of_entries laid inside fit .first all enough base rest
      rw [start] at read
      rw [shape, skipSpace_cons (by decide)]
      exact read

/-- A text that is such an object and nothing else, blanks aside. -/
theorem wholeRecord_of_gives (laid : Layered fields parts merge) {given : String → Bool}
    {left text right : List Char} (before : Blanks left) (gives : Gives parts given text)
    (behind : Blanks right) (base : α) :
    wholeRecord fields base (String.ofList (left ++ text ++ right)) = .ok (merge given base) := by
  have ended : skipSpace right = [] := by
    have skipped := skipSpace_append behind []
    rwa [List.append_nil] at skipped
  rw [wholeRecord, String.toList_ofList, readAs_record laid gives base before behind.closes]
  simp [bind, Except.bind, ended, pure, Except.pure]

end LatticeSketch.Json
