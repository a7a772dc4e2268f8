/-
# LatticeSketch.Proofs.Files.Nested -- saving over lattices in directories

The name of a lattice may begin with directories (`Path.directories`).  Its file is looked for in
these directories of the archive, and its backups in the same directories below `backups`
(`resolve_nested_iff`).  Saving over a lattice makes the directory `backups` but none below it, so
what was loaded can be saved over exactly if the directories of its name lead to a directory from
`backups` as well, and the first free backup there has a name and a path that are short enough
(`Shelved`, `saved_over_iff`).

A name that begins with `..` leaves `backups` again, to where backups may be found while `backups`
itself is not there.  The next backup is then another one once `backups` was made
(`backupPath_eq_iff`).
-/
import LatticeSketch.Proofs.Files.Saving

namespace LatticeSketch

set_option autoImplicit false

/-! ## Names with directories -/

/-- What is appended to a text, without a mark, is appended to its last part. -/
theorem Text.exists_splitAt_append (mark : Char) (text : List Char) :
    ∃ before last, splitAt mark text = before ++ [last] ∧
      ∀ ending, mark ∉ ending → splitAt mark (text ++ ending) = before ++ [last ++ ending] := by
  by_cases marked : mark ∈ text
  · obtain ⟨backwards, before, shape, last⟩ :=
      List.eq_append_cons_of_mem (List.mem_reverse.2 marked)
    have parts : text = before.reverse ++ mark :: backwards.reverse := by
      rw [← List.reverse_reverse text, shape]
      simp
    have unmarked : mark ∉ backwards.reverse := by
      rwa [List.mem_reverse]
    refine ⟨splitAt mark before.reverse, backwards.reverse, ?_, ?_⟩
    · rw [parts, splitAt_append_mark, splitAt_of_not_mem unmarked]
    · intro ending absent
      have behind : mark ∉ backwards.reverse ++ ending := List.not_mem_append unmarked absent
      rw [parts, List.append_assoc, List.cons_append, splitAt_append_mark,
        splitAt_of_not_mem behind]
  · refine ⟨[], text, splitAt_of_not_mem marked, ?_⟩
    intro ending absent
    exact splitAt_of_not_mem (List.not_mem_append marked absent)

namespace Path

/-- The components of `path` before its last one. -/
def directories (path : String) : List String :=
  (components path).dropLast

/-- The last component of `path`. -/
def lastName (path : String) : String :=
  (components path).getLastD ""

/-- What is appended to a path, without a slash, is appended to its last component. -/
theorem components_append (path : String) {ending : String} (flat : '/' ∉ ending.toList) :
    components (path ++ ending) = directories path ++ [lastName path ++ ending] := by
  obtain ⟨before, last, parts, longer⟩ := Text.exists_splitAt_append '/' path.toList
  rw [directories, lastName, components, components, String.toList_append, parts,
    longer ending.toList flat]
  simp [String.ofList_append, String.ofList_toList]

/-- Different relative paths stay different in a directory. -/
theorem join_inj (directory : String) {path other : String} (first : isAbsolute path = false)
    (second : isAbsolute other = false) :
    join directory path = join directory other ↔ path = other := by
  unfold join
  simp only [first, second, Bool.false_or]
  split
  · rfl
  · split <;> rw [String.append_right_inj]

end Path

namespace Archive

variable {archive : Archive} {root inner : Place} {name : String} {number : Nat}

/-! ## Places below directories -/

/-- The place of backup `number` of a lattice, in the directory that its backups are in. -/
def nestedPlace (inner : Place) (name : String) (number : Nat) : Place :=
  inner ++ [backupFile (Path.lastName name) number]

theorem numbered_nestedPlace (inner : Place) (name : String) :
    Numbered (nestedPlace inner name) := by
  refine ⟨?_, ?_⟩
  · intro m n same
    have files : backupFile (Path.lastName name) m = backupFile (Path.lastName name) n := by
      simpa [nestedPlace] using same
    exact (backupFile_inj.1 files).2
  · intro n
    simp [nestedPlace]

theorem nestedPlace_ne_shelfPlace (inner root : Place) (name : String) (number : Nat) :
    nestedPlace inner name number ≠ shelfPlace root := by
  intro same
  have files := congrArg (fun place : Place => place.getLastD "") same
  simp only [nestedPlace, shelfPlace, List.getLastD_concat] at files
  have long := lt_length_backupFile (Path.lastName name) number
  rw [files] at long
  exact absurd long (by decide)

/-- The next backup of the lattice called `name` is its backup `number`.  Behind the directories of
its name, looked for from the directory of the backups once that is there, this is the first that is
free, and its name and its path are short enough. -/
structure Shelved (archive : Archive) (root : Place) (name : String) (inner : Place) (number : Nat) :
    Prop where
  plain : ∀ content, archive.files.at? (shelfPlace root) ≠ some (.file content)
  leads : (archive.files.put (shelfPlace root) .directory).follow (shelfPlace root)
    (Path.directories name ++ ["."]) = .ok inner
  first : FirstFree archive.files (nestedPlace inner name) number
  file : (backupFile (Path.lastName name) number).utf8ByteSize ≤ FileTree.nameLimit
  path : (archive.backupPathAt name number).utf8ByteSize ≤ FileTree.pathLimit

/-! ## The next backup -/

/-- A backup is found behind the directories of its name, followed from the directory of the
backups. -/
theorem resolve_nested_iff {tree : FileTree} {target : Place}
    (leads : tree.LeadsTo archive.home archive.directory root)
    (relative : Path.isAbsolute name = false) (clean : '\x00' ∉ name.toList)
    (shelf : tree.at? (shelfPlace root) = some .directory) (number : Nat) :
    tree.resolve archive.home (archive.backupPathAt name number) = .ok target ↔
      (archive.backupPathAt name number).utf8ByteSize ≤ FileTree.pathLimit ∧
        (backupFile (Path.lastName name) number).utf8ByteSize ≤ FileTree.nameLimit ∧
        ∃ inner, tree.follow (shelfPlace root) (Path.directories name ++ ["."]) = .ok inner ∧
          target = nestedPlace inner name number := by
  have shape : Path.components (backupFile name number) =
      Path.directories name ++ [backupFile (Path.lastName name) number] := by
    rw [backupFile_eq, backupFile_eq]
    exact Path.components_append name (not_mem_backupEnding (by decide) (by decide) number)
  exact FileTree.resolve_join_iff (leadsTo_shelf leads shelf)
    (isAbsolute_backupFile relative number) (backupFile_clean clean number) shape
    (proper_backupFile _ number)

/-- Without the directory of the backups no backup has a place. -/
theorem at?_shelf_of_resolve {tree : FileTree} {target : Place}
    (leads : tree.LeadsTo archive.home archive.directory root)
    (relative : Path.isAbsolute name = false)
    (resolved : tree.resolve archive.home (archive.backupPathAt name number) = .ok target) :
    tree.at? (shelfPlace root) = some .directory := by
  obtain ⟨shelf, inner⟩ :=
    FileTree.exists_leadsTo_of_resolve_join (isAbsolute_backupFile relative number) resolved
  exact leads.at?_of_join accepts_shelf inner

section Opened

variable {opened : FileTree} {target : Place}
  (leads : opened.LeadsTo archive.home archive.directory root)
  (relative : Path.isAbsolute name = false) (clean : '\x00' ∉ name.toList)
  (hopened : ∀ place, opened.at? place =
    if place = shelfPlace root then some .directory else archive.files.at? place)

include hopened in
/-- With the directory of the backups, a tree has what it has once that was put there. -/
theorem at?_opened (place : Place) :
    opened.at? place = (archive.files.put (shelfPlace root) .directory).at? place := by
  rw [hopened]
  by_cases same : place = shelfPlace root
  · rw [if_pos same, same, FileTree.at?_put_self _ (by simp [shelfPlace])]
  · rw [if_neg same, FileTree.at?_put_of_ne _ _ same]

include hopened in
theorem at?_nestedPlace (inner : Place) (name : String) (number : Nat) :
    opened.at? (nestedPlace inner name number) =
      archive.files.at? (nestedPlace inner name number) := by
  rw [hopened, if_neg (nestedPlace_ne_shelfPlace inner root name number)]

include leads relative clean hopened

/-- Backups up to one that is accepted have their places. -/
theorem holds_nested
    (follows : opened.follow (shelfPlace root) (Path.directories name ++ ["."]) = .ok inner)
    (file : (backupFile (Path.lastName name) number).utf8ByteSize ≤ FileTree.nameLimit)
    (path : (archive.backupPathAt name number).utf8ByteSize ≤ FileTree.pathLimit) :
    ∀ n ≤ number, opened.holds archive.home (archive.backupPathAt name n) =
      (opened.at? (nestedPlace inner name n)).isSome := by
  intro n le
  have shelf : opened.at? (shelfPlace root) = some .directory := by
    rw [hopened, if_pos rfl]
  apply FileTree.holds_of_resolve
  apply (resolve_nested_iff leads relative clean shelf n).2
  exact ⟨Nat.le_trans (utf8ByteSize_backupPathAt_mono archive relative le) path,
    Nat.le_trans (utf8ByteSize_backupFile_mono _ le) file, inner, follows, rfl⟩

/-- The next backup goes to the first free place. -/
theorem resolve_backupPath_of_shelved (shelved : Shelved archive root name inner number) :
    backupPath { archive with files := opened } name = archive.backupPathAt name number ∧
      opened.resolve archive.home (archive.backupPathAt name number) =
        .ok (nestedPlace inner name number) := by
  let behind : Archive := { archive with files := opened }
  have shelf : opened.at? (shelfPlace root) = some .directory := by
    rw [hopened, if_pos rfl]
  have kept : (archive.files.put (shelfPlace root) .directory).Keeps opened := by
    intro place held
    rw [at?_opened hopened, held]
  have follows := FileTree.follow_of_keeps kept shelved.leads
  have first : FirstFree behind.files (nestedPlace inner name) number :=
    shelved.first.congr fun n => at?_nestedPlace hopened inner name n
  have lie := holds_nested leads relative clean hopened follows shelved.file shelved.path
  refine ⟨backupPath_of_firstFree (numbered_nestedPlace inner name) lie first, ?_⟩
  exact (resolve_nested_iff leads relative clean shelf number).2
    ⟨shelved.path, shelved.file, inner, follows, rfl⟩

/-- There is no other place for the next backup. -/
theorem shelved_of_resolve
    (plain : ∀ content, archive.files.at? (shelfPlace root) ≠ some (.file content))
    (resolved : opened.resolve archive.home (backupPath { archive with files := opened } name) =
      .ok target) :
    ∃ inner number, Shelved archive root name inner number := by
  let behind : Archive := { archive with files := opened }
  have shelf : opened.at? (shelfPlace root) = some .directory := by
    rw [hopened, if_pos rfl]
  obtain ⟨number, found, searched⟩ := searched_backupPath behind name
  have place : opened.resolve archive.home (archive.backupPathAt name number) = .ok target := by
    rw [← resolved, found]
    rfl
  obtain ⟨path, file, inner, follows, -⟩ :=
    (resolve_nested_iff leads relative clean shelf number).1 place
  have lie := holds_nested leads relative clean hopened follows file path
  have first : FirstFree behind.files (nestedPlace inner name) number :=
    searched.firstFree (numbered_nestedPlace inner name) lie
  have kept : opened.Keeps (archive.files.put (shelfPlace root) .directory) := by
    intro place held
    rw [← at?_opened hopened, held]
  have before : FirstFree archive.files (nestedPlace inner name) number :=
    first.congr fun n => (at?_nestedPlace hopened inner name n).symm
  exact ⟨inner, number, plain, FileTree.follow_of_keeps kept follows, before, file, path⟩

end Opened

/-! ## Saving over a lattice -/

section Loaded

variable {model : Place} {content : ByteArray}
  (leads : archive.files.LeadsTo archive.home archive.directory root)
  (relative : Path.isAbsolute name = false)
  (resolved : archive.files.resolve archive.home (archive.modelPath name) = .ok model)
  (present : archive.files.at? model = some (.file content))

include relative resolved in
theorem clean_and_short_of_resolve :
    '\x00' ∉ name.toList ∧ archive.backupDirectory.utf8ByteSize ≤ FileTree.pathLimit := by
  obtain ⟨clean, -, short, -⟩ := FileTree.resolve_eq_ok_iff.1 resolved
  refine ⟨fun member => ?_, Nat.le_trans (utf8ByteSize_backupDirectory_le relative) short⟩
  apply clean
  apply Path.mem_join_of_mem
  simp [String.toList_append, member]

include resolved present in
theorem holds_of_present : archive.holds (archive.modelPath name) = true := by
  have held : archive.holds (archive.modelPath name) = (archive.files.at? model).isSome :=
    FileTree.holds_of_resolve resolved
  rw [held, present]
  rfl

include leads relative resolved present

/-- The old text becomes the backup. -/
theorem save_of_shelved (shelved : Shelved archive root name inner number) (text : String) :
    ∃ files, archive.save name text = (.ok (), { archive with files := files }) ∧
      files.readText archive.home (archive.backupPathAt name number) =
        archive.files.readText archive.home (archive.modelPath name) := by
  obtain ⟨clean, short⟩ := clean_and_short_of_resolve relative resolved
  have held := holds_of_present resolved present
  obtain ⟨opened, ensured, kept, hopened⟩ := ensureDirectory_shelf leads short shelved.plain
  have leadsOpened := leads.of_keeps kept
  obtain ⟨target, aside⟩ :=
    resolve_backupPath_of_shelved leadsOpened relative clean hopened shelved
  have modelNotShelf : model ≠ shelfPlace root := by
    rintro rfl
    exact shelved.plain content present
  have presentOpened : opened.at? model = some (.file content) := by
    rw [hopened, if_neg modelNotShelf, present]
  have free : opened.at? (nestedPlace inner name number) = none := by
    rw [at?_nestedPlace hopened, shelved.first.free]
  have next : opened.resolve archive.home (backupPath { archive with files := opened } name) =
      .ok (nestedPlace inner name number) := by
    rw [target, aside]
  obtain ⟨files, saved, hfiles⟩ := save_of_free held ensured
    (FileTree.resolve_of_keeps kept resolved) presentOpened next free hopened text
  have differ : nestedPlace inner name number ≠ model := by
    rintro same
    rw [same, presentOpened] at free
    cases free
  have keptBehind : opened.Keeps files := by
    intro place directory
    have notModel : place ≠ model := by
      rintro rfl
      simp [presentOpened] at directory
    have notBackup : place ≠ nestedPlace inner name number := by
      rintro rfl
      simp [free] at directory
    rw [hfiles, if_neg notModel, if_neg notBackup, ← hopened, directory]
  have copied : files.at? (nestedPlace inner name number) = some (.file content) := by
    rw [hfiles, if_neg differ, if_pos rfl]
  refine ⟨files, saved, ?_⟩
  have old := FileTree.read_of_resolve resolved present
  have new := FileTree.read_of_resolve (FileTree.resolve_of_keeps keptBehind aside) copied
  rw [FileTree.readText, FileTree.readText, old, new]

/-- Where the next backup has no place, a save is refused; no file is lost. -/
theorem save_of_not_shelved (lost : ∀ inner number, ¬ Shelved archive root name inner number)
    (text : String) :
    ∃ fault files, archive.save name text = (.error fault, { archive with files := files }) ∧
      Refused root archive.files files := by
  obtain ⟨clean, short⟩ := clean_and_short_of_resolve relative resolved
  have held := holds_of_present resolved present
  by_cases taken : ∃ content, archive.files.at? (shelfPlace root) = some (.file content)
  · obtain ⟨content, taken⟩ := taken
    obtain ⟨fault, same⟩ := save_of_shelf_file leads short held taken text
    exact ⟨fault, archive.files, same, .refl root _⟩
  · have plain : ∀ content, archive.files.at? (shelfPlace root) ≠ some (.file content) :=
      fun content held => taken ⟨content, held⟩
    obtain ⟨opened, ensured, kept, hopened⟩ := ensureDirectory_shelf leads short plain
    have nowhere : ∃ fault, opened.resolve archive.home
        (backupPath { archive with files := opened } name) = .error fault := by
      cases place : opened.resolve archive.home
          (backupPath { archive with files := opened } name) with
      | error fault => exact ⟨fault, rfl⟩
      | ok target =>
          obtain ⟨inner, number, shelved⟩ :=
            shelved_of_resolve (leads.of_keeps kept) relative clean hopened plain place
          exact absurd shelved (lost inner number)
    obtain ⟨fault, stopped⟩ := FileTree.copy_error (.inr nowhere)
    exact ⟨_, opened, save_of_copy_error held ensured stopped text, .of_shelf plain hopened⟩

end Loaded

/-- While the directory of the backups is not there, the search for the next backup takes the first
number. -/
theorem backupPath_of_no_shelf (leads : archive.files.LeadsTo archive.home archive.directory root)
    (relative : Path.isAbsolute name = false)
    (missing : archive.files.at? (shelfPlace root) ≠ some .directory) :
    archive.backupPath name = archive.backupPathAt name 1 := by
  have unheld : archive.holds (archive.backupPathAt name 1) = false := by
    cases resolved : archive.files.resolve archive.home (archive.backupPathAt name 1) with
    | error fault => exact FileTree.holds_of_resolve_error resolved
    | ok target => exact absurd (at?_shelf_of_resolve leads relative resolved) missing
  unfold backupPath
  cases archive.files.entries.length with
  | zero => rfl
  | succ count => simp [freeBackup, unheld]

/-- The backup that a save makes is the one that was next before it, if the directory of the backups
was there or it is the first one. -/
theorem backupPath_eq_iff (leads : archive.files.LeadsTo archive.home archive.directory root)
    (relative : Path.isAbsolute name = false) (clean : '\x00' ∉ name.toList)
    (shelved : Shelved archive root name inner number) :
    archive.backupPath name = archive.backupPathAt name number ↔
      archive.files.at? (shelfPlace root) = some .directory ∨ number = 1 := by
  by_cases shelf : archive.files.at? (shelfPlace root) = some .directory
  · have same : ∀ place, archive.files.at? place =
        if place = shelfPlace root then some .directory else archive.files.at? place := by
      intro place
      by_cases here : place = shelfPlace root
      · rw [if_pos here, here, shelf]
      · rw [if_neg here]
    have next := (resolve_backupPath_of_shelved leads relative clean same shelved).1
    exact iff_of_true next (.inl shelf)
  · have files : backupFile name 1 = backupFile name number ↔ number = 1 := by
      rw [backupFile_inj]
      exact ⟨fun same => same.2.symm, fun one => ⟨rfl, one.symm⟩⟩
    have paths : archive.backupPathAt name 1 = archive.backupPathAt name number ↔ number = 1 :=
      (Path.join_inj _ (isAbsolute_backupFile relative 1)
        (isAbsolute_backupFile relative number)).trans files
    rw [backupPath_of_no_shelf leads relative shelf, paths]
    exact ⟨.inr, fun either => either.resolve_left shelf⟩

/-- A lattice is loaded exactly if the bytes of its text are at the place of its path. -/
theorem load_eq_ok_iff_present {text : String} :
    archive.load name = .ok text ↔
      ∃ place, archive.files.resolve archive.home (archive.modelPath name) = .ok place ∧
        archive.files.at? place = some (.file text.toUTF8) := by
  rw [load_eq_ok_iff]
  constructor
  · rintro ⟨content, found, decoded⟩
    rw [FileTree.toUTF8_of_fromUTF8? decoded]
    exact FileTree.find_eq_ok_iff.1 found
  · intro present
    exact ⟨text.toUTF8, FileTree.find_eq_ok_iff.2 present, FileTree.fromUTF8?_toUTF8 text⟩

/-- Saving over a lattice that is loaded, whose name may begin with directories, succeeds exactly if
the next backup has a place: no file is where the directory of the backups should be, the
directories of the name are below it as well, and the first free backup there has a name and a path
that are short enough.  The new text is loaded then and the old one is found in this backup, which
is the one that was next before if the directory of the backups was there or if it is the first one.
A save that is refused keeps the old text. -/
theorem saved_over_iff {old : String} (relative : Path.isAbsolute name = false)
    (loaded : archive.load name = .ok old) (text : String) :
    ∃ root, archive.files.LeadsTo archive.home archive.directory root ∧
      ((archive.save name text).1 = .ok () ↔
        ∃ inner number, Shelved archive root name inner number) ∧
      ((archive.save name text).1 ≠ .ok () → (archive.save name text).2.load name = .ok old) ∧
      ∀ inner number, Shelved archive root name inner number →
        let after := (archive.save name text).2
        after.load name = .ok text ∧
        after.files.readText after.home (archive.backupPathAt name number) = .ok old ∧
        (archive.backupPath name = archive.backupPathAt name number ↔
          archive.files.at? (shelfPlace root) = some .directory ∨ number = 1) := by
  obtain ⟨model, resolved, present⟩ := load_eq_ok_iff_present.1 loaded
  obtain ⟨root, leads⟩ :=
    FileTree.exists_leadsTo_of_resolve_join (isAbsolute_modelFile relative) resolved
  obtain ⟨clean, -⟩ := clean_and_short_of_resolve relative resolved
  have read : archive.files.readText archive.home (archive.modelPath name) = .ok old := by
    simp only [FileTree.readText, FileTree.read_of_resolve resolved present,
      FileTree.fromUTF8?_toUTF8]
  refine ⟨root, leads, ?succeeds, ?refused, ?kept⟩
  case succeeds =>
    constructor
    · intro saved
      by_contra lost
      obtain ⟨fault, files, stopped, -⟩ := save_of_not_shelved leads relative resolved present
        (fun inner number shelved => lost ⟨inner, number, shelved⟩) text
      rw [stopped] at saved
      cases saved
    · rintro ⟨inner, number, shelved⟩
      obtain ⟨files, saved, -⟩ := save_of_shelved leads relative resolved present shelved text
      rw [saved]
  case refused =>
    intro failed
    have lost : ∀ inner number, ¬ Shelved archive root name inner number := by
      intro inner number shelved
      obtain ⟨files, saved, -⟩ := save_of_shelved leads relative resolved present shelved text
      exact failed (by rw [saved])
    obtain ⟨fault, files, stopped, refused⟩ :=
      save_of_not_shelved leads relative resolved present lost text
    rw [stopped]
    exact load_eq_ok_iff_present.2 ⟨model, FileTree.resolve_of_keeps refused.keeps resolved,
      (refused.file_iff model).2 present⟩
  case kept =>
    intro inner number shelved after
    obtain ⟨files, saved, copied⟩ :=
      save_of_shelved leads relative resolved present shelved text
    have behind : after = { archive with files := files } := by
      show (archive.save name text).2 = _
      rw [saved]
    have aside := backupPath_eq_iff leads relative clean shelved
    refine ⟨?_, ?_, aside⟩
    · rw [behind]
      exact load_of_save saved
    · rw [behind]
      exact copied.trans read

/-! ### A lattice in a directory, and one beside the archive -/

/-- A lattice in the directory `sub` with a backup in `backups/sub`. -/
def besideBackups : Archive where
  files := ⟨[(["sub"], .directory), (["sub", "pc_crystal_model.txt"], .file "0 \n".toUTF8),
    (["backups"], .directory), (["backups", "sub"], .directory),
    (["backups", "sub", "pc_crystal_model_bkp1.txt"], .file "1 \n".toUTF8)]⟩
  home := []
  directory := ""

theorem saved_over_besideBackups :
    let after := (besideBackups.save "sub/pc" "2 \n").2
    besideBackups.load "sub/pc" = .ok "0 \n" ∧
      besideBackups.backupPath "sub/pc" = besideBackups.backupPathAt "sub/pc" 2 ∧
      (besideBackups.save "sub/pc" "2 \n").1 = .ok () ∧ after.load "sub/pc" = .ok "2 \n" ∧
      after.files.readText after.home (besideBackups.backupPath "sub/pc") = .ok "0 \n" := by
  intro after
  have loaded : besideBackups.load "sub/pc" = .ok "0 \n" := by decide +kernel
  obtain ⟨root, leads, succeeds, -, kept⟩ := saved_over_iff (by decide) loaded "2 \n"
  obtain rfl : [] = root := Except.ok.inj leads.found
  have shelved : Shelved besideBackups [] "sub/pc" ["backups", "sub"] 2 := by
    refine ⟨?_, by decide +kernel, ⟨by decide, ?_, by decide +kernel⟩, by decide +kernel,
      by decide +kernel⟩
    · intro content held
      have directory : besideBackups.files.at? (shelfPlace []) = some .directory := by
        decide +kernel
      rw [directory] at held
      cases held
    · intro n positive below
      obtain rfl : n = 1 := by omega
      decide +kernel
  obtain ⟨new, old, next⟩ := kept _ _ shelved
  have path := next.2 (.inl (by decide +kernel))
  refine ⟨loaded, path, succeeds.2 ⟨_, _, shelved⟩, new, ?_⟩
  rw [path]
  exact old

/-- A lattice in the directory `sub`, without any backup. -/
def withoutBackups : Archive where
  files := ⟨[(["sub"], .directory), (["sub", "pc_crystal_model.txt"], .file "0 \n".toUTF8)]⟩
  home := []
  directory := ""

/-- A lattice beside the directory of the archive, with a file called like a backup of it. -/
def besideArchive : Archive where
  files := ⟨[(["lattices"], .directory), (["pc_crystal_model.txt"], .file "0 \n".toUTF8),
    (["lattices", "pc_crystal_model_bkp1.txt"], .file "1 \n".toUTF8)]⟩
  home := []
  directory := "lattices"

/-- Without `backups/sub` a lattice in `sub` is loaded but not saved over.  The backup of a lattice
beside the archive is not the one that was next before `backups` was there. -/
theorem not_saved_over :
    (withoutBackups.load "sub/pc" = .ok "0 \n" ∧
      (withoutBackups.save "sub/pc" "1 \n").1 = .error (.file .notFound)) ∧
    besideArchive.load "../pc" = .ok "0 \n" ∧
      (besideArchive.save "../pc" "2 \n").1 = .ok () ∧
      (besideArchive.save "../pc" "2 \n").2.files.readText []
        (besideArchive.backupPath "../pc") = .ok "1 \n" := by
  decide +kernel

end Archive

end LatticeSketch
