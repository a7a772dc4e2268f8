/-
# LatticeSketch.Proofs.Files.Tree -- paths below a directory, and what a write leaves

`FileTree.LeadsTo` says that a path leads to a directory.  A longer path to a file is then followed
from there: the names before the file lead to the directory that it is in (`resolve_join_iff`), and
a file of the directory itself is found in one step (`resolve_join`, `accepts_of_resolve_join`).
Without the directory there is no place for it (`exists_leadsTo_of_resolve_join`).

Following a path only looks at directories, so it leads to the same place in every tree that still
has them (`follow_of_keeps`), in particular after something else was put down.  What was written to
a path is therefore read back from it (`readText_of_write`).
-/
import LatticeSketch.Files.Tree

namespace LatticeSketch

set_option autoImplicit false

/-! ## Components -/

namespace Text

theorem splitAt_ne_nil (mark : Char) (text : List Char) : splitAt mark text ≠ [] := by
  cases text with
  | nil => simp [splitAt]
  | cons c rest =>
      rw [splitAt]
      split
      · simp
      · exact consFirst_ne_nil _ _

/-- A mark splits a text into the parts before and the parts behind it. -/
theorem splitAt_append_mark (mark : Char) (first rest : List Char) :
    splitAt mark (first ++ mark :: rest) = splitAt mark first ++ splitAt mark rest := by
  induction first with
  | nil => simp [splitAt]
  | cons c more ih =>
      by_cases hc : c = mark
      · simp [splitAt, hc, ih]
      · simp only [List.cons_append, splitAt, hc, if_false, ih]
        exact consFirst_append c (splitAt_ne_nil mark more) _

/-- A text without the mark is its only part. -/
theorem splitAt_of_not_mem {mark : Char} {text : List Char} (absent : mark ∉ text) :
    splitAt mark text = [text] := by
  induction text with
  | nil => rfl
  | cons c rest ih =>
      have hc : c ≠ mark := fun h => absent (by simp [h])
      rw [splitAt, if_neg hc, ih fun h => absent (List.mem_cons_of_mem _ h)]
      rfl

end Text

namespace Path

theorem components_ne_nil (path : String) : components path ≠ [] := by
  simpa [components] using Text.splitAt_ne_nil '/' path.toList

theorem components_of_not_mem {name : String} (flat : '/' ∉ name.toList) :
    components name = [name] := by
  simp [components, Text.splitAt_of_not_mem flat, String.ofList_toList]

/-- The components of a path in a directory, up to empty ones in between. -/
theorem components_join (directory : String) {path : String} (relative : isAbsolute path = false) :
    components (join directory path) = components directory ++ components path ∨
      ∃ way, components directory = way ++ [""] ∧
        components (join directory path) = way ++ components path := by
  unfold join
  by_cases none : directory = ""
  · subst none
    exact Or.inr ⟨[], rfl, by simp⟩
  · simp only [relative, none, beq_iff_eq, Bool.false_or, if_false]
    split
    · rename_i slash
      obtain ⟨way, shape⟩ : ∃ way, directory.toList = way ++ ['/'] := by
        rcases List.eq_nil_or_concat directory.toList with empty | ⟨way, c, shape⟩
        · exact absurd (String.toList_eq_nil_iff.1 empty) none
        · refine ⟨way, ?_⟩
          simp only [shape, List.concat_eq_append, List.getLast?_append, List.getLast?_singleton,
            Option.some_or, Option.some.injEq] at slash
          rw [shape, slash, List.concat_eq_append]
      refine Or.inr ⟨components (String.ofList way), ?_, ?_⟩
      · simp [components, shape, Text.splitAt_append_mark, Text.splitAt]
      · simp [components, shape, Text.splitAt_append_mark, String.toList_append]
    · refine Or.inl ?_
      simp [components, Text.splitAt_append_mark, String.toList_append]

theorem isAbsolute_of_not_mem {name : String} (level : '/' ∉ name.toList) :
    isAbsolute name = false := by
  unfold isAbsolute
  cases shape : name.toList with
  | nil => rfl
  | cons c rest =>
      have hc : c ≠ '/' := fun h => level (by simp [shape, h])
      simpa using hc

/-- A path is absolute by its first slash only. -/
theorem isAbsolute_append {path ending : String} (relative : isAbsolute path = false)
    (flat : '/' ∉ ending.toList) : isAbsolute (path ++ ending) = false := by
  unfold isAbsolute at relative ⊢
  rw [String.toList_append]
  cases shape : path.toList with
  | nil =>
      have level := isAbsolute_of_not_mem flat
      simpa [isAbsolute] using level
  | cons c rest => simpa [shape] using relative

theorem isAbsolute_join (directory : String) {path : String}
    (relative : isAbsolute path = false) :
    isAbsolute (join directory path) = isAbsolute directory := by
  unfold join
  by_cases none : directory = ""
  · subst none
    simpa [isAbsolute] using relative
  · obtain ⟨c, rest, shape⟩ : ∃ c rest, directory.toList = c :: rest :=
      List.exists_cons_of_ne_nil fun h => none (String.toList_eq_nil_iff.1 h)
    simp only [relative, none, beq_iff_eq, Bool.false_or, if_false]
    split <;> simp [isAbsolute, String.toList_append, shape]

theorem join_ne_empty (directory : String) {path : String} (named : path ≠ "") :
    join directory path ≠ "" := by
  unfold join
  split
  · exact named
  · split <;> simp [String.append_eq_empty_iff, named]

theorem nul_not_mem_join {directory path : String} (first : '\x00' ∉ directory.toList)
    (second : '\x00' ∉ path.toList) : '\x00' ∉ (join directory path).toList := by
  unfold join
  split
  · exact second
  · split <;> simp [String.toList_append, first, second]

theorem mem_join_of_mem {c : Char} (directory : String) {path : String} (member : c ∈ path.toList) :
    c ∈ (join directory path).toList := by
  unfold join
  split
  · exact member
  · split <;> simp [String.toList_append, member]

theorem mem_join_of_mem_directory {c : Char} {directory path : String}
    (relative : isAbsolute path = false) (member : c ∈ directory.toList) :
    c ∈ (join directory path).toList := by
  have named : directory ≠ "" := by
    rintro rfl
    simp at member
  unfold join
  simp only [relative, named, beq_iff_eq, Bool.false_or, if_false]
  split <;> simp [String.toList_append, member]

/-- A path in a directory is longer than another one by as much as its own part is. -/
theorem utf8ByteSize_join (directory : String) {path : String}
    (relative : isAbsolute path = false) :
    (join directory path).utf8ByteSize =
      (join directory "").utf8ByteSize + path.utf8ByteSize := by
  have plain : isAbsolute "" = false := by decide
  unfold join
  simp only [relative, plain, Bool.false_or]
  split
  · simp
  · split <;> simp [String.utf8ByteSize_append]

theorem utf8ByteSize_le_join (directory : String) :
    directory.utf8ByteSize ≤ (join directory "").utf8ByteSize := by
  have plain : isAbsolute "" = false := by decide
  unfold join
  by_cases none : directory = ""
  · simp [none]
  · simp only [plain, none, beq_iff_eq, Bool.false_or, if_false]
    split <;> simp [String.utf8ByteSize_append]

end Path

namespace FileTree

variable {tree other : FileTree} {home place root target : Place} {path directory : String}

/-! ## Following paths -/

/-- What the directories of a tree are taken for: still there in another tree. -/
def Keeps (tree other : FileTree) : Prop :=
  ∀ place, tree.at? place = some .directory → other.at? place = some .directory

theorem keeps_refl (tree : FileTree) : tree.Keeps tree := fun _ held => held

/-- A last name leads to the same place in every tree. -/
theorem follow_singleton (tree other : FileTree) (place : Place) (name : String) :
    tree.follow place [name] = other.follow place [name] := by
  simp [follow]

/-- The first name of a longer path leads to a directory, and from there on in every tree that
keeps the directories. -/
theorem follow_cons {name : String} {rest : List String} (more : rest ≠ [])
    (found : tree.follow place (name :: rest) = .ok target) :
    ∃ next, tree.follow next rest = .ok target ∧
      ∀ other, tree.Keeps other → ∀ names ≠ [],
        other.follow place (name :: names) = other.follow next names := by
  simp only [follow] at found
  split at found
  · rename_i skipped
    exact ⟨place, found, fun other _ names _ => by simp [follow, skipped]⟩
  · rename_i named
    split at found
    · rename_i up
      exact ⟨place.dropLast, found, fun other _ names _ => by simp [follow, up]⟩
    · rename_i down
      split at found
      · simp at found
      · rename_i short
        have inner : rest.isEmpty = false := by simpa using more
        simp only [inner, Bool.false_eq_true, if_false] at found
        cases entry : tree.at? (place ++ [name]) with
        | none => simp [entry] at found
        | some item =>
            cases item with
            | file content => simp [entry] at found
            | directory =>
                simp only [entry] at found
                refine ⟨place ++ [name], found, fun other kept names nonempty => ?_⟩
                simp [follow, named, down, short, nonempty, kept _ entry]

/-- Following a path looks at directories only. -/
theorem follow_of_keeps (kept : tree.Keeps other) {names : List String}
    (found : tree.follow place names = .ok target) :
    other.follow place names = .ok target := by
  induction names generalizing place with
  | nil => exact found
  | cons name rest ih =>
      by_cases more : rest = []
      · subst more
        rw [← found, follow_singleton]
      · obtain ⟨next, onward, step⟩ := follow_cons more found
        rw [step other kept rest more]
        exact ih onward

/-- Empty names on the way change nothing. -/
theorem follow_skip (way : List String) {names : List String} (more : names ≠ []) :
    tree.follow place (way ++ "" :: names) = tree.follow place (way ++ names) := by
  induction way generalizing place with
  | nil => simp [follow]
  | cons name rest ih => simp [follow, ih, more]

/-- Behind the way to a directory a path goes on from there. -/
theorem follow_append {way : List String} (found : tree.follow place (way ++ ["."]) = .ok root)
    {names : List String} (more : names ≠ []) :
    tree.follow place (way ++ names) = tree.follow root names := by
  induction way generalizing place with
  | nil =>
      simp only [List.nil_append, follow, or_true, if_true, Except.ok.injEq] at found
      rw [List.nil_append, found]
  | cons name rest ih =>
      obtain ⟨next, onward, step⟩ := follow_cons (by simp) found
      rw [List.cons_append, step tree tree.keeps_refl _ (by simp [more])]
      exact ih onward

/-- Whatever is before other names is a way to a directory. -/
theorem follow_dot_of_follow {way names : List String} (more : names ≠ [])
    (found : tree.follow place (way ++ names) = .ok target) :
    ∃ root, tree.follow place (way ++ ["."]) = .ok root := by
  induction way generalizing place with
  | nil => exact ⟨place, by simp [follow]⟩
  | cons first rest ih =>
      obtain ⟨next, onward, step⟩ := follow_cons (by simp [more]) found
      obtain ⟨root, dot⟩ := ih onward
      exact ⟨root, by rw [List.cons_append, step tree tree.keeps_refl _ (by simp), dot]⟩

/-- The path `directory` leads from `home` to a directory, which is at `root`. -/
structure LeadsTo (tree : FileTree) (home : Place) (directory : String) (root : Place) :
    Prop where
  clean : '\x00' ∉ directory.toList
  found : tree.follow (if Path.isAbsolute directory then [] else home)
    (Path.components directory ++ ["."]) = .ok root

theorem LeadsTo.of_keeps (leads : tree.LeadsTo home directory root) (kept : tree.Keeps other) :
    other.LeadsTo home directory root :=
  ⟨leads.clean, follow_of_keeps kept leads.found⟩

/-- In a directory that a path leads to, a longer path goes on from there. -/
theorem follow_components_join (leads : tree.LeadsTo home directory root)
    (relative : Path.isAbsolute path = false) (behind : List String) :
    tree.follow (if Path.isAbsolute (Path.join directory path) then [] else home)
        (Path.components (Path.join directory path) ++ behind) =
      tree.follow root (Path.components path ++ behind) := by
  have more : Path.components path ++ behind ≠ [] := by
    simp [Path.components_ne_nil path]
  have found := leads.found
  rw [Path.isAbsolute_join directory relative]
  rcases Path.components_join directory relative with whole | ⟨way, shape, whole⟩
  · rw [whole, List.append_assoc, follow_append found more]
  · rw [shape, List.append_assoc, List.singleton_append, follow_skip way (by simp)] at found
    rw [whole, List.append_assoc, follow_append found more]

/-- A name that a file can have. -/
structure Accepts (name : String) : Prop where
  level : '/' ∉ name.toList
  clean : '\x00' ∉ name.toList
  proper : name ≠ "" ∧ name ≠ "." ∧ name ≠ ".."
  short : name.utf8ByteSize ≤ nameLimit

theorem proper_of_long {name : String} (long : 2 < name.length) :
    name ≠ "" ∧ name ≠ "." ∧ name ≠ ".." := by
  refine ⟨?_, ?_, ?_⟩ <;> rintro rfl <;> exact absurd long (by decide)

theorem follow_directory {name : String} (accepted : Accepts name)
    (held : tree.at? (root ++ [name]) = some .directory) :
    tree.follow root [name, "."] = .ok (root ++ [name]) := by
  obtain ⟨nonempty, notDot, notUp⟩ := accepted.proper
  simp [follow, nonempty, notDot, notUp, Nat.not_lt.2 accepted.short, held]

/-- Which paths are followed to a place, and from where. -/
theorem resolve_eq_ok_iff :
    tree.resolve home path = .ok target ↔
      '\x00' ∉ path.toList ∧ path ≠ "" ∧ path.utf8ByteSize ≤ pathLimit ∧
        tree.follow (if Path.isAbsolute path then [] else home) (Path.components path) =
          .ok target := by
  unfold resolve start
  by_cases clean : '\x00' ∈ path.toList
  · simp [clean]
  · by_cases named : path = ""
    · simp [named]
    · by_cases short : path.utf8ByteSize ≤ pathLimit
      · simp [clean, named, short, Nat.not_lt.2 short]
      · simp [clean, named, short, Nat.lt_of_not_le short]

/-- A file is followed to from the directory that the names before it lead to. -/
theorem follow_file_iff {way : List String} {file : String}
    (proper : file ≠ "" ∧ file ≠ "." ∧ file ≠ "..") :
    tree.follow root (way ++ [file]) = .ok target ↔
      file.utf8ByteSize ≤ nameLimit ∧
        ∃ inner, tree.follow root (way ++ ["."]) = .ok inner ∧ target = inner ++ [file] := by
  obtain ⟨nonempty, notDot, notUp⟩ := proper
  constructor
  · intro found
    obtain ⟨inner, dot⟩ := follow_dot_of_follow (List.cons_ne_nil _ _) found
    rw [follow_append dot (List.cons_ne_nil _ _)] at found
    by_cases short : file.utf8ByteSize ≤ nameLimit
    · simp only [follow, nonempty, notDot, notUp, Nat.not_lt.2 short, or_self, if_false,
        List.isEmpty_nil, if_true, Except.ok.injEq] at found
      exact ⟨short, inner, dot, found.symm⟩
    · simp [follow, nonempty, notDot, notUp, Nat.lt_of_not_le short] at found
  · rintro ⟨short, inner, dot, rfl⟩
    rw [follow_append dot (List.cons_ne_nil _ _)]
    simp [follow, nonempty, notDot, notUp, Nat.not_lt.2 short]

/-- A path from a directory to a file: the names before the file lead to the directory that it is
in. -/
theorem resolve_join_iff {way : List String} {file : String}
    (leads : tree.LeadsTo home directory root)
    (relative : Path.isAbsolute path = false) (clean : '\x00' ∉ path.toList)
    (shape : Path.components path = way ++ [file])
    (proper : file ≠ "" ∧ file ≠ "." ∧ file ≠ "..") :
    tree.resolve home (Path.join directory path) = .ok target ↔
      (Path.join directory path).utf8ByteSize ≤ pathLimit ∧ file.utf8ByteSize ≤ nameLimit ∧
        ∃ inner, tree.follow root (way ++ ["."]) = .ok inner ∧ target = inner ++ [file] := by
  have named : path ≠ "" := by
    rintro rfl
    have single : [""] = way ++ [file] := shape
    have last := congrArg (fun names : List String => names.getLastD "") single
    simp only [List.getLastD_concat] at last
    exact proper.1 last.symm
  have step := follow_components_join leads relative []
  rw [List.append_nil, List.append_nil, shape] at step
  rw [resolve_eq_ok_iff, step, follow_file_iff proper]
  constructor
  · rintro ⟨-, -, short, found⟩
    exact ⟨short, found⟩
  · rintro ⟨short, found⟩
    exact ⟨Path.nul_not_mem_join leads.clean clean, Path.join_ne_empty directory named, short,
      found⟩

theorem follow_dot (tree : FileTree) (root : Place) : tree.follow root ["."] = .ok root := by
  simp [follow]

/-- A name in a directory leads to its place there. -/
theorem resolve_join {name : String} (leads : tree.LeadsTo home directory root)
    (accepted : Accepts name) (short : (Path.join directory name).utf8ByteSize ≤ pathLimit) :
    tree.resolve home (Path.join directory name) = .ok (root ++ [name]) := by
  have relative := Path.isAbsolute_of_not_mem accepted.level
  have single : Path.components name = [] ++ [name] := Path.components_of_not_mem accepted.level
  exact (resolve_join_iff leads relative accepted.clean single accepted.proper).2
    ⟨short, accepted.short, root, follow_dot tree root, rfl⟩

/-- Only a name that a file can have leads to a place in a directory. -/
theorem accepts_of_resolve_join {name : String} (leads : tree.LeadsTo home directory root)
    (level : '/' ∉ name.toList) (proper : name ≠ "" ∧ name ≠ "." ∧ name ≠ "..")
    (resolved : tree.resolve home (Path.join directory name) = .ok target) :
    Accepts name ∧ (Path.join directory name).utf8ByteSize ≤ pathLimit := by
  obtain ⟨whole, -⟩ := resolve_eq_ok_iff.1 resolved
  have clean : '\x00' ∉ name.toList := fun member =>
    whole (Path.mem_join_of_mem directory member)
  have relative := Path.isAbsolute_of_not_mem level
  have single : Path.components name = [] ++ [name] := Path.components_of_not_mem level
  obtain ⟨short, fits, -⟩ := (resolve_join_iff leads relative clean single proper).1 resolved
  exact ⟨⟨level, clean, proper, fits⟩, short⟩

/-- A path that can be followed from a directory leads to the directory as well. -/
theorem exists_leadsTo_of_resolve_join (relative : Path.isAbsolute path = false)
    (resolved : tree.resolve home (Path.join directory path) = .ok target) :
    ∃ root, tree.LeadsTo home directory root := by
  obtain ⟨clean, -, -, found⟩ := resolve_eq_ok_iff.1 resolved
  have plain : '\x00' ∉ directory.toList := fun member =>
    clean (Path.mem_join_of_mem_directory relative member)
  have more := Path.components_ne_nil path
  rw [Path.isAbsolute_join directory relative] at found
  rcases Path.components_join directory relative with whole | ⟨way, shape, whole⟩ <;>
    rw [whole] at found <;>
    obtain ⟨root, dot⟩ := follow_dot_of_follow more found
  · exact ⟨root, plain, dot⟩
  · refine ⟨root, plain, ?_⟩
    rw [shape, List.append_assoc, List.singleton_append, follow_skip way (by simp), dot]

/-- A directory in a directory is led to by its name. -/
theorem LeadsTo.join {name : String} (leads : tree.LeadsTo home directory root)
    (accepted : Accepts name) (held : tree.at? (root ++ [name]) = some .directory) :
    tree.LeadsTo home (Path.join directory name) (root ++ [name]) := by
  have relative := Path.isAbsolute_of_not_mem accepted.level
  refine ⟨Path.nul_not_mem_join leads.clean accepted.clean, ?_⟩
  rw [follow_components_join leads relative ["."], Path.components_of_not_mem accepted.level]
  exact follow_directory accepted held

/-- Only a directory is led to by its name. -/
theorem LeadsTo.at?_of_join {name : String} (leads : tree.LeadsTo home directory root)
    (accepted : Accepts name) (inner : tree.LeadsTo home (Path.join directory name) target) :
    tree.at? (root ++ [name]) = some .directory := by
  obtain ⟨nonempty, notDot, notUp⟩ := accepted.proper
  have relative := Path.isAbsolute_of_not_mem accepted.level
  have step := follow_components_join leads relative ["."]
  rw [Path.components_of_not_mem accepted.level] at step
  have found : tree.follow root [name, "."] = .ok target := step.symm.trans inner.found
  simp only [follow, nonempty, notDot, notUp, or_self, if_false, Nat.not_lt.2 accepted.short,
    List.isEmpty_cons, Bool.false_eq_true] at found
  cases held : tree.at? (root ++ [name]) with
  | none =>
      rw [held] at found
      cases found
  | some entry =>
      cases entry with
      | directory => rfl
      | file content =>
          rw [held] at found
          cases found

/-! ## Writing and reading -/

theorem at?_nil (tree : FileTree) : tree.at? [] = some .directory := by
  simp [at?]

theorem at?_put_self (tree : FileTree) {place : Place} (inside : place ≠ []) (entry : Entry) :
    (tree.put place entry).at? place = some entry := by
  simp [at?_put, inside]

theorem at?_put_of_ne (tree : FileTree) {place other : Place} (entry : Entry)
    (differ : other ≠ place) : (tree.put place entry).at? other = tree.at? other := by
  rw [at?_put, if_neg differ]
  by_cases top : other = []
  · simp [top, at?_nil]
  · simp [top]

/-- Putting something where no directory is keeps the directories. -/
theorem keeps_put (tree : FileTree) {place : Place} (entry : Entry)
    (free : tree.at? place ≠ some .directory) : tree.Keeps (tree.put place entry) := by
  intro other held
  have differ : other ≠ place := by
    rintro rfl
    exact free held
  rw [at?_put_of_ne tree entry differ, held]

theorem keeps_put_directory (tree : FileTree) (place : Place) :
    tree.Keeps (tree.put place .directory) := by
  intro other held
  by_cases same : other = place
  · simp [at?_put, same]
  · rw [at?_put_of_ne tree .directory same, held]

/-- What is found at a path is at its place. -/
theorem find_eq_ok_iff {entry : Entry} :
    tree.find home path = .ok entry ↔
      ∃ place, tree.resolve home path = .ok place ∧ tree.at? place = some entry := by
  unfold find
  cases tree.resolve home path with
  | error fault => simp
  | ok place => cases held : tree.at? place <;> simp [held]

theorem find_of_resolve {entry : Entry} (resolved : tree.resolve home path = .ok target)
    (held : tree.at? target = some entry) : tree.find home path = .ok entry := by
  simp [find, resolved, held]

theorem holds_of_resolve (resolved : tree.resolve home path = .ok target) :
    tree.holds home path = (tree.at? target).isSome := by
  unfold holds find
  simp only [resolved]
  cases tree.at? target <;> rfl

theorem resolve_of_keeps (kept : tree.Keeps other)
    (resolved : tree.resolve home path = .ok target) :
    other.resolve home path = .ok target := by
  obtain ⟨clean, named, short, found⟩ := resolve_eq_ok_iff.1 resolved
  exact resolve_eq_ok_iff.2 ⟨clean, named, short, follow_of_keeps kept found⟩

theorem read_of_resolve {content : ByteArray} (resolved : tree.resolve home path = .ok target)
    (held : tree.at? target = some (.file content)) : tree.read home path = .ok content := by
  simp [read, find_of_resolve resolved held]

theorem write_of_resolve (content : ByteArray) (resolved : tree.resolve home path = .ok target)
    (free : tree.at? target ≠ some .directory) :
    tree.write home path content = .ok (tree.put target (.file content)) := by
  simp only [write, resolved]

theorem fromUTF8?_toUTF8 (text : String) : String.fromUTF8? text.toUTF8 = some text := by
  have valid : text.toUTF8.IsValidUTF8 := text.isValidUTF8
  rw [String.fromUTF8?, dif_pos valid]
  rfl

theorem toUTF8_of_fromUTF8? {bytes : ByteArray} {text : String}
    (decoded : String.fromUTF8? bytes = some text) : text.toUTF8 = bytes := by
  rw [String.fromUTF8?] at decoded
  split at decoded
  · rw [← Option.some.inj decoded]
    rfl
  · cases decoded

/-- A text that was written to a path is there afterwards. -/
theorem readText_of_write {text : String}
    (written : tree.write home path text.toUTF8 = .ok other) :
    other.holds home path = true ∧ other.readText home path = .ok text := by
  unfold write at written
  cases resolved : tree.resolve home path with
  | error fault => simp [resolved] at written
  | ok target =>
      simp only [resolved] at written
      have free : tree.at? target ≠ some .directory := by
        intro held
        simp [held] at written
      obtain rfl : tree.put target (.file text.toUTF8) = other := by
        cases entry : tree.at? target with
        | none => simpa [entry] using written
        | some item => cases item <;> simp_all
      have inside : target ≠ [] := fun top => free (top ▸ tree.at?_nil)
      have again := resolve_of_keeps (tree.keeps_put (.file text.toUTF8) free) resolved
      have held := tree.at?_put_self inside (.file text.toUTF8)
      refine ⟨by rw [holds_of_resolve again, held]; rfl, ?_⟩
      simp only [readText, read_of_resolve again held, fromUTF8?_toUTF8]

end FileTree

end LatticeSketch
