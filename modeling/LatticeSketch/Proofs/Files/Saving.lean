/-
# LatticeSketch.Proofs.Files.Saving -- no sequence of saves loses a text

A save succeeds exactly if nothing stands in its way (`Clear`).  It then writes the file of its
name, behind a backup of the old one if there was one, and touches no other file (`Saved`).  A save
that is refused leaves every file as it was (`Refused.file_iff`); it may have made the directory of
the backups (`Refused`).  There is no third outcome (`save_cases`).

So whatever was kept under a name, as its lattice or as a backup, is kept under that name behind
every save, of the same name or another (`Archived.saved`, `Archived.refused`), and behind any
sequence of them (`archived_saveAll`).  The names may look like backups of one another.
-/
import LatticeSketch.Proofs.Files.Archive

namespace LatticeSketch

set_option autoImplicit false

namespace FileTree

variable {tree : FileTree} {home : Place} {path source target : String}

theorem holds_of_resolve_error {fault : FileFault}
    (lost : tree.resolve home path = .error fault) : tree.holds home path = false := by
  unfold holds find
  rw [lost]
  rfl

theorem write_of_resolve_error {fault : FileFault} (content : ByteArray)
    (lost : tree.resolve home path = .error fault) :
    tree.write home path content = .error (tree.writeFault home path fault) := by
  unfold write
  rw [lost]

/-- A file that cannot be read or whose copy has no place is not copied. -/
theorem copy_error (stopped : (∃ fault, tree.read home source = .error fault) ∨
      ∃ fault, tree.resolve home target = .error fault) :
    ∃ fault, tree.copy home source target = .error fault := by
  unfold copy
  cases read : tree.read home source with
  | error fault => cases fault <;> exact ⟨_, rfl⟩
  | ok content =>
      rcases stopped with ⟨fault, failed⟩ | ⟨fault, lost⟩
      · simp [read] at failed
      · exact ⟨_, write_of_resolve_error content lost⟩

end FileTree

namespace Archive

/-! ## The outcomes of a save -/

/-- Nothing stands in the way of saving the lattice called `name`: its file has a place, and if
there is a lattice already, its next backup has one. -/
structure Clear (archive : Archive) (root : Place) (name : String) : Prop where
  named : Named archive name
  file : archive.files.at? (modelPlace root name) ≠ some .directory
  aside : archive.files.at? (modelPlace root name) ≠ none →
    (∀ content, archive.files.at? (shelfPlace root) ≠ some (.file content)) ∧
      ∃ number, LeastFree archive.files root name number ∧ Fits archive name number

/-- What a save of `text` as the lattice called `name` does to the files: there is no lattice yet
and it gets its file, or there is one and it is the least free backup now. -/
inductive Saved (root : Place) (name text : String) (before after : FileTree) : Prop where
  | first (absent : before.at? (modelPlace root name) = none)
      (held : ∀ place, after.at? place =
        if place = modelPlace root name then some (.file text.toUTF8) else before.at? place)
  | again (content : ByteArray) (number : Nat)
      (present : before.at? (modelPlace root name) = some (.file content))
      (plain : ∀ content, before.at? (shelfPlace root) ≠ some (.file content))
      (least : LeastFree before root name number)
      (held : ∀ place, after.at? place =
        if place = modelPlace root name then some (.file text.toUTF8)
        else if place = backupPlace root name number then some (.file content)
        else if place = shelfPlace root then some .directory
        else before.at? place)

/-- What a refused save does to the files: the directory of the backups may be there now. -/
def Refused (root : Place) (before after : FileTree) : Prop :=
  ∀ place, after.at? place = before.at? place ∨
    place = shelfPlace root ∧ before.at? place = none ∧ after.at? place = some .directory

variable {archive : Archive} {root : Place} {name other text : String}
  {before after : FileTree} {content : ByteArray}

theorem Refused.refl (root : Place) (files : FileTree) : Refused root files files :=
  fun _ => .inl rfl

/-- Where no file is in its place, the directory of the backups can be made. -/
theorem Refused.of_shelf (plain : ∀ content, before.at? (shelfPlace root) ≠ some (.file content))
    (held : ∀ place, after.at? place =
      if place = shelfPlace root then some .directory else before.at? place) :
    Refused root before after := by
  intro place
  by_cases same : place = shelfPlace root
  · subst same
    have shelf : after.at? (shelfPlace root) = some .directory := by
      rw [held, if_pos rfl]
    cases entry : before.at? (shelfPlace root) with
    | none => exact .inr ⟨rfl, rfl, shelf⟩
    | some item =>
        cases item with
        | file content => exact absurd entry (plain content)
        | directory => exact .inl shelf
  · exact .inl (by rw [held, if_neg same])

/-- No file is lost and none appears. -/
theorem Refused.file_iff (refused : Refused root before after) (place : Place) :
    after.at? place = some (.file content) ↔ before.at? place = some (.file content) := by
  rcases refused place with same | ⟨-, none, directory⟩
  · rw [same]
  · simp [none, directory]

theorem Refused.keeps (refused : Refused root before after) : before.Keeps after := by
  intro place held
  rcases refused place with same | ⟨-, none, -⟩
  · rw [same, held]
  · simp [none] at held

theorem Saved.keeps (saved : Saved root name text before after) : before.Keeps after := by
  intro place directory
  cases saved with
  | first absent held =>
      have differ : place ≠ modelPlace root name := by
        rintro rfl
        simp [absent] at directory
      rw [held, if_neg differ, directory]
  | again content number present plain least held =>
      have model : place ≠ modelPlace root name := by
        rintro rfl
        simp [present] at directory
      have backup : place ≠ backupPlace root name number := by
        rintro rfl
        simp [least.free] at directory
      rw [held, if_neg model, if_neg backup, directory, ite_self]

section Clear

variable (leads : archive.files.LeadsTo archive.home archive.directory root)

include leads

theorem save_of_clear (clear : Clear archive root name) (text : String) :
    ∃ files, archive.save name text = (.ok (), { archive with files := files }) ∧
      Saved root name text archive.files files := by
  cases entry : archive.files.at? (modelPlace root name) with
  | none =>
      refine ⟨_, save_of_absent leads clear.named text entry, .first entry fun place => ?_⟩
      by_cases same : place = modelPlace root name
      · rw [if_pos same, same, FileTree.at?_put_self _ (modelPlace_ne_nil root name)]
      · rw [if_neg same, FileTree.at?_put_of_ne _ _ same]
  | some item =>
      cases item with
      | directory => exact absurd entry clear.file
      | file content =>
          obtain ⟨plain, number, least, fits⟩ := clear.aside (by simp [entry])
          obtain ⟨files, saved, held⟩ :=
            save_of_present leads clear.named.toFlat fits entry plain least text
          exact ⟨files, saved, .again content number entry plain least held⟩

end Clear

/-! ### Refusals -/

/-- Without a way to the file of the lattice nothing happens. -/
theorem save_of_resolve_error {fault : FileFault}
    (lost : archive.files.resolve archive.home (archive.modelPath name) = .error fault)
    (text : String) : ∃ cause, archive.save name text = (.error (.file cause), archive) := by
  have unheld : archive.holds (archive.modelPath name) = false :=
    FileTree.holds_of_resolve_error lost
  have copied : archive.backUp name = (.ok none, archive) := by
    simp [backUp, unheld]
  unfold save
  rw [copied]
  dsimp only
  rw [FileTree.write_of_resolve_error _ lost]
  exact ⟨_, rfl⟩

/-- A save is refused where the backup is, and leaves what that left. -/
theorem save_of_backUp_error {fault : Fault} {behind : Archive}
    (stopped : archive.backUp name = (.error fault, behind)) (text : String) :
    archive.save name text = (.error fault, behind) := by
  unfold save
  rw [stopped]

theorem save_of_copy_error {opened : FileTree} {fault : FileFault}
    (held : archive.holds (archive.modelPath name) = true)
    (ensured : archive.files.ensureDirectory archive.home archive.backupDirectory = .ok opened)
    (stopped : opened.copy archive.home (archive.modelPath name)
      (backupPath { archive with files := opened } name) = .error fault) (text : String) :
    archive.save name text = (.error (.file fault), { archive with files := opened }) := by
  refine save_of_backUp_error ?_ text
  unfold backUp
  rw [if_pos held, ensured]
  dsimp only
  rw [stopped]

section Refusals

variable (leads : archive.files.LeadsTo archive.home archive.directory root)

include leads

/-- A file where the directory of the backups should be stops a save over a lattice. -/
theorem save_of_shelf_file (short : archive.backupDirectory.utf8ByteSize ≤ FileTree.pathLimit)
    (held : archive.holds (archive.modelPath name) = true)
    (taken : archive.files.at? (shelfPlace root) = some (.file content)) (text : String) :
    ∃ fault, archive.save name text = (.error fault, archive) := by
  have stopped : archive.files.ensureDirectory archive.home archive.backupDirectory =
      .error .alreadyExists := by
    simp only [FileTree.ensureDirectory, resolve_backupDirectory leads short, taken]
  refine ⟨.file .alreadyExists, save_of_backUp_error ?_ text⟩
  unfold backUp
  rw [if_pos held, stopped]

variable (named : Named archive name) (present : archive.files.at? (modelPlace root name) ≠ none)

include named present

/-- So does a lattice that is no file, or a backup that has no place; the directory of the backups
is there afterwards. -/
theorem save_of_no_copy
    (plain : ∀ content, archive.files.at? (shelfPlace root) ≠ some (.file content))
    (stopped : archive.files.at? (modelPlace root name) = some .directory ∨
      ∃ number, LeastFree archive.files root name number ∧ ¬ Fits archive name number)
    (text : String) :
    ∃ fault files, archive.save name text = (.error fault, { archive with files := files }) ∧
      Refused root archive.files files := by
  have held := holds_modelPath_of_present leads named present
  obtain ⟨opened, ensured, kept, hopened⟩ := ensureDirectory_shelf leads named.shelf plain
  have shelf : opened.at? (shelfPlace root) = some .directory := by
    rw [hopened, if_pos rfl]
  have leadsOpened := leads.of_keeps kept
  have uncopied : ∃ fault, opened.copy archive.home (archive.modelPath name)
      (backupPath { archive with files := opened } name) = .error fault := by
    refine FileTree.copy_error ?_
    rcases stopped with directory | ⟨number, least, long⟩
    · refine .inl ⟨.isADirectory, ?_⟩
      have found := FileTree.find_of_resolve (resolve_modelPath leadsOpened named)
        (kept _ directory)
      simp only [FileTree.read, found]
    · have leastOpened := least.of_shelf hopened
      -- the number is looked for once the directory of the backups is there
      let behind : Archive := { archive with files := opened }
      have leadsBehind : behind.files.LeadsTo behind.home behind.directory root := leadsOpened
      have longBehind : ¬ Fits behind name number := fun fits => long ⟨fits.file, fits.path⟩
      have lost : ∃ fault,
          behind.files.resolve behind.home (behind.backupPath name) = .error fault :=
        resolve_backupPath_error leadsBehind shelf named.toFlat leastOpened longBehind
      exact .inr lost
  obtain ⟨fault, stopped⟩ := uncopied
  exact ⟨_, opened, save_of_copy_error held ensured stopped text, .of_shelf plain hopened⟩

end Refusals

section Outcomes

variable (leads : archive.files.LeadsTo archive.home archive.directory root)
  (level : '/' ∉ name.toList)

include leads level

theorem save_of_not_clear (unclear : ¬ Clear archive root name) (text : String) :
    ∃ fault files, archive.save name text = (.error fault, { archive with files := files }) ∧
      Refused root archive.files files := by
  cases resolved : archive.files.resolve archive.home (archive.modelPath name) with
  | error lost =>
      obtain ⟨cause, same⟩ := save_of_resolve_error resolved text
      exact ⟨.file cause, archive.files, same, .refl root _⟩
  | ok place =>
      have named := named_of_resolve leads level resolved
      have present : archive.files.at? (modelPlace root name) ≠ none := by
        intro absent
        exact unclear ⟨named, by simp [absent], fun present => absurd absent present⟩
      by_cases taken : ∃ content, archive.files.at? (shelfPlace root) = some (.file content)
      · obtain ⟨content, taken⟩ := taken
        obtain ⟨fault, same⟩ := save_of_shelf_file leads named.shelf
          (holds_modelPath_of_present leads named present) taken text
        exact ⟨fault, archive.files, same, .refl root _⟩
      · have plain : ∀ content, archive.files.at? (shelfPlace root) ≠ some (.file content) :=
          fun content held => taken ⟨content, held⟩
        refine save_of_no_copy leads named present plain ?_ text
        by_cases directory : archive.files.at? (modelPlace root name) = some .directory
        · exact .inl directory
        · obtain ⟨number, least⟩ := exists_leastFree archive.files root name
          exact .inr ⟨number, least, fun fits =>
            unclear ⟨named, directory, fun _ => ⟨plain, number, least, fits⟩⟩⟩

/-- A save succeeds exactly if nothing stands in its way, and it does to the files what one of the
two outcomes says. -/
theorem save_cases (text : String) :
    ∃ files, (archive.save name text).2 = { archive with files := files } ∧
      (Clear archive root name ∧ (archive.save name text).1 = .ok () ∧
          Saved root name text archive.files files ∨
        ¬ Clear archive root name ∧ (archive.save name text).1 ≠ .ok () ∧
          Refused root archive.files files) := by
  by_cases clear : Clear archive root name
  · obtain ⟨files, saves, saved⟩ := save_of_clear leads clear text
    exact ⟨files, by rw [saves], .inl ⟨clear, by rw [saves], saved⟩⟩
  · obtain ⟨fault, files, saves, refused⟩ := save_of_not_clear leads level clear text
    exact ⟨files, by rw [saves], .inr ⟨clear, by simp [saves], refused⟩⟩

theorem leadsTo_save (text : String) :
    (archive.save name text).2.files.LeadsTo (archive.save name text).2.home
      (archive.save name text).2.directory root := by
  obtain ⟨files, after, ⟨-, -, saved⟩ | ⟨-, -, refused⟩⟩ := save_cases leads level text <;>
    rw [after]
  · exact leads.of_keeps saved.keeps
  · exact leads.of_keeps refused.keeps

end Outcomes

/-! ## What is kept under a name -/

/-- The bytes `content` are the lattice called `name` or one of its backups. -/
def Archived (files : FileTree) (root : Place) (name : String) (content : ByteArray) : Prop :=
  files.at? (modelPlace root name) = some (.file content) ∨
    ∃ number, 0 < number ∧ files.at? (backupPlace root name number) = some (.file content)

/-- The places of a name hold what they held. -/
structure Untouched (root : Place) (name : String) (before after : FileTree) : Prop where
  model : after.at? (modelPlace root name) = before.at? (modelPlace root name)
  backup : ∀ number, after.at? (backupPlace root name number) =
    before.at? (backupPlace root name number)

theorem Archived.untouched (archived : Archived before root name content)
    (untouched : Untouched root name before after) : Archived after root name content := by
  rcases archived with model | ⟨number, positive, backup⟩
  · exact .inl (untouched.model.trans model)
  · exact .inr ⟨number, positive, (untouched.backup number).trans backup⟩

theorem Saved.archived (saved : Saved root name text before after) :
    Archived after root name text.toUTF8 := by
  cases saved with
  | first absent held => exact .inl (by rw [held, if_pos rfl])
  | again content number present plain least held => exact .inl (by rw [held, if_pos rfl])

/-- A save touches the places of its own name only. -/
theorem Saved.untouched (saved : Saved root name text before after) (differ : other ≠ name) :
    Untouched root other before after := by
  have model : modelPlace root other ≠ modelPlace root name := fun same =>
    differ (modelPlace_inj.1 same)
  cases saved with
  | first absent held =>
      refine ⟨by rw [held, if_neg model], fun number => ?_⟩
      rw [held, if_neg (backupPlace_ne_modelPlace root other name number)]
  | again content number present plain least held =>
      have backup : ∀ n, backupPlace root other n ≠ backupPlace root name number := fun n same =>
        differ (backupPlace_eq_iff.1 same).1
      refine ⟨?_, fun n => ?_⟩
      · rw [held, if_neg model, if_neg (backupPlace_ne_modelPlace root name other number).symm,
          if_neg (modelPlace_ne_shelfPlace root other)]
      · rw [held, if_neg (backupPlace_ne_modelPlace root other name n), if_neg (backup n),
          if_neg (backupPlace_ne_shelfPlace root other n)]

theorem Refused.untouched (refused : Refused root before after) (name : String) :
    Untouched root name before after := by
  refine ⟨?_, fun number => ?_⟩
  · rcases refused (modelPlace root name) with same | ⟨shelf, -⟩
    · exact same
    · exact absurd shelf (modelPlace_ne_shelfPlace root name)
  · rcases refused (backupPlace root name number) with same | ⟨shelf, -⟩
    · exact same
    · exact absurd shelf (backupPlace_ne_shelfPlace root name number)

/-- The lattice that a save replaces is the backup it makes; the backups before stay. -/
theorem Archived.again (archived : Archived before root name content)
    (saved : Saved root name text before after) : Archived after root name content := by
  cases saved with
  | first absent held =>
      rcases archived with model | ⟨n, positive, backup⟩
      · simp [absent] at model
      · refine .inr ⟨n, positive, ?_⟩
        rw [held, if_neg (backupPlace_ne_modelPlace root name name n), backup]
  | again old number present plain least held =>
      rcases archived with model | ⟨n, positive, backup⟩
      · obtain rfl : old = content := by simpa [present] using model
        refine .inr ⟨number, least.positive, ?_⟩
        rw [held, if_neg (backupPlace_ne_modelPlace root name name number), if_pos rfl]
      · have taken : backupPlace root name n ≠ backupPlace root name number := by
          intro same
          rw [same, least.free] at backup
          exact absurd backup (by simp)
        refine .inr ⟨n, positive, ?_⟩
        rw [held, if_neg (backupPlace_ne_modelPlace root name name n), if_neg taken,
          if_neg (backupPlace_ne_shelfPlace root name n), backup]

/-- No save loses what is kept under a name. -/
theorem archived_save (leads : archive.files.LeadsTo archive.home archive.directory root)
    (level : '/' ∉ name.toList) (text : String)
    (archived : Archived archive.files root other content) :
    Archived (archive.save name text).2.files root other content := by
  obtain ⟨files, after, ⟨-, -, saved⟩ | ⟨-, -, refused⟩⟩ := save_cases leads level text <;>
    rw [after]
  · by_cases same : other = name
    · subst same
      exact archived.again saved
    · exact archived.untouched (saved.untouched same)
  · exact archived.untouched (refused.untouched other)

/-! ## Sequences of saves -/

/-- The archive behind saves that follow each other, each of a name and a text. -/
def saveAll (archive : Archive) (saves : List (String × String)) : Archive :=
  saves.foldl (fun archive save => (archive.save save.1 save.2).2) archive

theorem saveAll_append (archive : Archive) (first second : List (String × String)) :
    archive.saveAll (first ++ second) = (archive.saveAll first).saveAll second :=
  List.foldl_append

section Sequences

variable {saves : List (String × String)}
  (leads : archive.files.LeadsTo archive.home archive.directory root)
  (level : ∀ save ∈ saves, '/' ∉ save.1.toList)

include leads level

/-- The directory of the archive stays where it is. -/
theorem leadsTo_saveAll :
    (archive.saveAll saves).files.LeadsTo (archive.saveAll saves).home
      (archive.saveAll saves).directory root := by
  induction saves generalizing archive with
  | nil => exact leads
  | cons save rest ih =>
      rw [List.forall_mem_cons] at level
      exact ih (leadsTo_save leads level.1 save.2) level.2

/-- No sequence of saves loses what is kept under a name. -/
theorem archived_saveAll (archived : Archived archive.files root name content) :
    Archived (archive.saveAll saves).files root name content := by
  induction saves generalizing archive with
  | nil => exact archived
  | cons save rest ih =>
      rw [List.forall_mem_cons] at level
      exact ih (leadsTo_save leads level.1 save.2) level.2
        (archived_save leads level.1 save.2 archived)

/-- In any sequence of saves, of names in any order, each save succeeds exactly if nothing stands in
its way.  It then writes its own file, behind a backup at the least free number if there was one
already, and changes no other file; else it changes no file.  Either way it touches no place of
another name.  At the end every text that was saved is the lattice of its name or one of its
backups, and so is everything that was so before any of the saves. -/
theorem texts_of_saves :
    (∀ earlier name text later, saves = earlier ++ (name, text) :: later →
      let before := archive.saveAll earlier
      let result := (before.save name text).1
      let after := (before.save name text).2
      (result = .ok () ↔ Clear before root name) ∧
      (result = .ok () → Saved root name text before.files after.files ∧
        Archived (archive.saveAll saves).files root name text.toUTF8) ∧
      (result ≠ .ok () → Refused root before.files after.files) ∧
      ∀ other, other ≠ name → Untouched root other before.files after.files) ∧
    ∀ earlier later, saves = earlier ++ later → ∀ name content,
      Archived (archive.saveAll earlier).files root name content →
        Archived (archive.saveAll saves).files root name content := by
  refine ⟨?_, ?_⟩
  · rintro earlier name text later rfl
    rw [List.forall_mem_append, List.forall_mem_cons] at level
    obtain ⟨levelBefore, levelHere, levelAfter⟩ := level
    intro before result after
    have leadsBefore := leadsTo_saveAll leads levelBefore
    have ending : archive.saveAll (earlier ++ (name, text) :: later) = after.saveAll later :=
      saveAll_append archive earlier ((name, text) :: later)
    have leadsAfter : after.files.LeadsTo after.home after.directory root :=
      leadsTo_save leadsBefore levelHere text
    obtain ⟨files, shape, outcome⟩ := save_cases leadsBefore levelHere text
    have behind : after.files = files := congrArg Archive.files shape
    rw [ending, behind]
    rcases outcome with ⟨clear, ok, saved⟩ | ⟨unclear, failed, refused⟩
    · have archived : Archived (after.saveAll later).files root name text.toUTF8 :=
        archived_saveAll leadsAfter levelAfter (behind ▸ saved.archived)
      exact ⟨iff_of_true ok clear, fun _ => ⟨saved, archived⟩, fun failed => absurd ok failed,
        fun other differ => saved.untouched differ⟩
    · exact ⟨iff_of_false failed unclear, fun ok => absurd ok failed, fun _ => refused,
        fun other _ => refused.untouched other⟩
  · rintro earlier later rfl name content archived
    rw [List.forall_mem_append] at level
    rw [saveAll_append]
    exact archived_saveAll (leadsTo_saveAll leads level.1) level.2 archived

end Sequences

/-! ### A gap between the backups, and a name like a backup -/

/-- An archive with a lattice called `pc` and a backup of it that is not the first. -/
def gapped : Archive where
  files := ⟨[(["pc_crystal_model.txt"], .file "0 \n".toUTF8), (["backups"], .directory),
    (["backups", "pc_crystal_model_bkp2.txt"], .file "1 \n".toUTF8)]⟩
  home := []
  directory := ""

/-- A save of a name like a backup, and one over the lattice. -/
def interleaved : List (String × String) :=
  [("pc_crystal_model_bkp1", "2 \n"), ("pc", "3 \n")]

theorem texts_of_saves_interleaved :
    Clear (gapped.saveAll [("pc_crystal_model_bkp1", "2 \n")]) [] "pc" ∧
    Archived (gapped.saveAll interleaved).files [] "pc" "0 \n".toUTF8 ∧
    Archived (gapped.saveAll interleaved).files [] "pc" "1 \n".toUTF8 ∧
    Archived (gapped.saveAll interleaved).files [] "pc" "3 \n".toUTF8 ∧
    Archived (gapped.saveAll interleaved).files [] "pc_crystal_model_bkp1" "2 \n".toUTF8 := by
  have leads : gapped.files.LeadsTo gapped.home gapped.directory [] := ⟨by decide, by decide⟩
  have level : ∀ save ∈ interleaved, '/' ∉ save.1.toList := by decide
  obtain ⟨each, kept⟩ := texts_of_saves leads level
  have first := each [] "pc_crystal_model_bkp1" "2 \n" _ rfl
  have second := each [("pc_crystal_model_bkp1", "2 \n")] "pc" "3 \n" _ rfl
  have model : Archived gapped.files [] "pc" "0 \n".toUTF8 := .inl (by decide +kernel)
  have backup : Archived gapped.files [] "pc" "1 \n".toUTF8 :=
    .inr ⟨2, by decide, by decide +kernel⟩
  have replaced : ((gapped.saveAll [("pc_crystal_model_bkp1", "2 \n")]).save "pc" "3 \n").1 =
      .ok () := by
    decide +kernel
  exact ⟨second.1.1 replaced, kept [] interleaved rfl _ _ model,
    kept [] interleaved rfl _ _ backup, (second.2.1 replaced).2,
    (first.2.1 (by decide +kernel)).2⟩

end Archive

end LatticeSketch
