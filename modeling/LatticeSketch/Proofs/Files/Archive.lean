/-
# LatticeSketch.Proofs.Files.Archive -- what saving a lattice leaves in the archive

Wherever the backups lie, the search for the next one finds the first free number
(`backupPath_of_firstFree`).  There always is one (`Numbered.exists_firstFree`), as there are only
so many entries, but its file can have too long a name; then the backup has no place
(`resolve_backupPath_error`).

Saving a name for the first time writes its file and nothing else (`save_of_absent`).  Saving
over a lattice puts the old content at the place of the next backup before (`save_of_free`,
`save_of_present`); every other place holds what it held.  A text that lies at the place is loaded
(`load_of_present`), and a text that was saved is loaded again, whatever the name looks like
(`load_of_save`).
-/
import LatticeSketch.Proofs.Files.Places
import LatticeSketch.Proofs.Lattice.Reading
import Mathlib.Data.List.Nodup
import Mathlib.Data.List.Perm.Subperm
import Mathlib.Data.Nat.Find

namespace LatticeSketch

set_option autoImplicit false

namespace Archive

/-- The text of a lattice in an archive is what its file holds, read as UTF-8. -/
theorem load_eq_ok_iff (archive : Archive) (name text : String) :
    archive.load name = .ok text ↔
      ∃ content, archive.files.find archive.home (archive.modelPath name) = .ok (.file content) ∧
        String.fromUTF8? content = some text := by
  unfold load holds FileTree.holds FileTree.readText FileTree.read
  cases found : archive.files.find archive.home (archive.modelPath name) with
  | error fault => simp [Except.isOk, Except.toBool]
  | ok entry =>
      cases entry with
      | directory => simp [Except.isOk, Except.toBool, Except.mapError]
      | file content =>
          cases decoded : String.fromUTF8? content <;>
            simp [Except.isOk, Except.toBool, Except.mapError, decoded]

theorem load_of_save {archive after : Archive} {name text : String}
    (saved : archive.save name text = (.ok (), after)) : after.load name = .ok text := by
  unfold save at saved
  cases stored : archive.backUp name with
  | mk result opened =>
      cases result with
      | error fault => simp [stored] at saved
      | ok copied =>
          simp only [stored] at saved
          cases written : opened.files.write opened.home (opened.modelPath name) text.toUTF8 with
          | error fault =>
              simp only [written] at saved
              simp at saved
          | ok files =>
              simp only [written, Prod.mk.injEq, true_and] at saved
              obtain ⟨held, read⟩ := FileTree.readText_of_write written
              subst saved
              have found : holds { opened with files := files } (opened.modelPath name) = true :=
                held
              simp only [load, modelPath] at found read ⊢
              simp only [found, if_true, read, Except.mapError]

instance : LatticeStore.Faithful Archive where
  load_of_save saved := load_of_save saved

variable {archive : Archive} {root : Place} {name : String}

/-! ## Numbers of backups -/

/-- Places with numbers: different ones have different places, and none is the root. -/
structure Numbered (place : Nat → Place) : Prop where
  apart : ∀ {m n : Nat}, place m = place n → m = n
  inside : ∀ n, place n ≠ []

theorem numbered_backupPlace (root : Place) (name : String) : Numbered (backupPlace root name) :=
  ⟨backupPlace_inj.1, backupPlace_ne_nil root name⟩

/-- `number` is the smallest number, from 1, at whose place there is nothing. -/
structure FirstFree (tree : FileTree) (place : Nat → Place) (number : Nat) : Prop where
  positive : 0 < number
  taken : ∀ n, 0 < n → n < number → tree.at? (place n) ≠ none
  free : tree.at? (place number) = none

section FirstFree

variable {tree : FileTree} {place : Nat → Place} {number : Nat}

/-- Everything at a numbered place takes an entry of its own. -/
theorem Numbered.le_entries_of_taken (numbered : Numbered place)
    (taken : ∀ n, 0 < n → n < number → tree.at? (place n) ≠ none) :
    number ≤ tree.entries.length + 1 := by
  let places := (List.range (number - 1)).map fun n => place (n + 1)
  have distinct : places.Nodup := by
    refine List.Nodup.map (fun m n same => ?_) List.nodup_range
    have := numbered.apart same
    omega
  have held : places ⊆ tree.entries.map Prod.fst := by
    intro spot member
    obtain ⟨n, bound, rfl⟩ := List.mem_map.1 member
    have below := List.mem_range.1 bound
    have entry := taken (n + 1) (by omega) (by omega)
    rw [FileTree.at?, if_neg (numbered.inside _)] at entry
    have found := List.lookup_isSome_iff.1 (Option.isSome_iff_ne_none.2 entry)
    obtain ⟨item, there, same⟩ := found
    exact List.mem_map.2 ⟨item, there, (beq_iff_eq.1 same).symm⟩
  have count := (distinct.subperm held).length_le
  simp only [places, List.length_map, List.length_range] at count
  omega

/-- There is always a free number: there are only so many entries. -/
theorem Numbered.exists_firstFree (numbered : Numbered place) (tree : FileTree) :
    ∃ number, FirstFree tree place number := by
  have free : ∃ n, 0 < n ∧ tree.at? (place n) = none := by
    by_contra all
    have taken : ∀ n, 0 < n → n < tree.entries.length + 2 → tree.at? (place n) ≠ none :=
      fun n positive _ none => all ⟨n, positive, none⟩
    have := numbered.le_entries_of_taken taken
    omega
  obtain ⟨positive, none⟩ := Nat.find_spec free
  exact ⟨Nat.find free, positive, fun n from_ below held => Nat.find_min free below ⟨from_, held⟩,
    none⟩

theorem FirstFree.eq {m n : Nat} (first : FirstFree tree place m)
    (second : FirstFree tree place n) : m = n := by
  rcases Nat.lt_trichotomy m n with below | same | above
  · exact absurd first.free (second.taken m first.positive below)
  · exact same
  · exact absurd second.free (first.taken n second.positive above)

theorem FirstFree.congr {other : FileTree} (first : FirstFree tree place number)
    (same : ∀ n, other.at? (place n) = tree.at? (place n)) : FirstFree other place number :=
  ⟨first.positive, fun n positive below => same n ▸ first.taken n positive below,
    same number ▸ first.free⟩

end FirstFree

/-- `number` is the smallest number, from 1, of which `name` has no backup. -/
structure LeastFree (tree : FileTree) (root : Place) (name : String) (number : Nat) : Prop where
  positive : 0 < number
  taken : ∀ n, 0 < n → n < number → tree.at? (backupPlace root name n) ≠ none
  free : tree.at? (backupPlace root name number) = none

theorem leastFree_iff {tree : FileTree} {number : Nat} :
    LeastFree tree root name number ↔ FirstFree tree (backupPlace root name) number :=
  ⟨fun least => ⟨least.positive, least.taken, least.free⟩,
    fun first => ⟨first.positive, first.taken, first.free⟩⟩

theorem exists_leastFree (tree : FileTree) (root : Place) (name : String) :
    ∃ number, LeastFree tree root name number := by
  obtain ⟨number, first⟩ := (numbered_backupPlace root name).exists_firstFree tree
  exact ⟨number, leastFree_iff.2 first⟩

/-- The directory of the backups is no backup. -/
theorem LeastFree.of_shelf {before opened : FileTree} {number : Nat}
    (least : LeastFree before root name number)
    (held : ∀ place, opened.at? place =
      if place = shelfPlace root then some .directory else before.at? place) :
    LeastFree opened root name number := by
  apply leastFree_iff.2
  apply (leastFree_iff.1 least).congr
  intro n
  rw [held, if_neg (backupPlace_ne_shelfPlace root name n)]

/-- What a search for a free backup, among `count` numbers from `first` on, has come to. -/
structure Searched (archive : Archive) (name : String) (first count number : Nat) : Prop where
  low : first ≤ number
  high : number ≤ first + count
  taken : ∀ n, first ≤ n → n < number → archive.holds (archive.backupPathAt name n) = true
  free : number < first + count → archive.holds (archive.backupPathAt name number) = false

theorem searched_freeBackup (archive : Archive) (name : String) (first count : Nat) :
    Searched archive name first count (archive.freeBackup name first count) := by
  induction count generalizing first with
  | zero =>
      rw [freeBackup]
      exact ⟨Nat.le_refl _, Nat.le_refl _, fun n low below => by omega, fun below => by omega⟩
  | succ count ih =>
      rw [freeBackup]
      split
      · rename_i here
        obtain ⟨low, high, taken, free⟩ := ih (first + 1)
        refine ⟨by omega, by omega, fun n from_ below => ?_, fun below => free (by omega)⟩
        rcases Nat.eq_or_lt_of_le from_ with rfl | beyond
        · exact here
        · exact taken n beyond below
      · rename_i here
        exact ⟨Nat.le_refl _, by omega, fun n low below => by omega,
          fun _ => by simpa using here⟩

/-- The number that the search for the next backup comes to. -/
theorem searched_backupPath (archive : Archive) (name : String) :
    ∃ number, archive.backupPath name = archive.backupPathAt name number ∧
      Searched archive name 1 archive.files.entries.length number :=
  ⟨_, rfl, searched_freeBackup archive name 1 _⟩

section Search

variable {place : Nat → Place} {number : Nat} (numbered : Numbered place)
  (lie : ∀ n ≤ number, archive.holds (archive.backupPathAt name n) =
    (archive.files.at? (place n)).isSome)

include numbered lie

/-- A search among the backups up to a number whose places are known has found the first free
one. -/
theorem Searched.firstFree (searched : Searched archive name 1 archive.files.entries.length number) :
    FirstFree archive.files place number := by
  have taken : ∀ n, 0 < n → n < number → archive.files.at? (place n) ≠ none := by
    intro n positive below
    have held := searched.taken n positive below
    rw [lie n (by omega)] at held
    exact Option.isSome_iff_ne_none.1 held
  refine ⟨searched.low, taken, ?_⟩
  by_cases last : number < 1 + archive.files.entries.length
  · have unheld := searched.free last
    rw [lie number (Nat.le_refl _)] at unheld
    simpa using unheld
  · -- were this number taken as well, there would be more backups than entries
    by_contra held
    have all : ∀ n, 0 < n → n < number + 1 → archive.files.at? (place n) ≠ none := by
      intro n positive below
      rcases Nat.lt_succ_iff_lt_or_eq.1 below with less | rfl
      · exact taken n positive less
      · exact held
    have more := numbered.le_entries_of_taken all
    omega

/-- The next backup has the first free number. -/
theorem backupPath_of_firstFree (first : FirstFree archive.files place number) :
    archive.backupPath name = archive.backupPathAt name number := by
  obtain ⟨found, path, searched⟩ := searched_backupPath archive name
  have upTo : found ≤ number := by
    refine Nat.le_of_not_lt fun above => ?_
    have held := searched.taken number first.positive above
    rw [lie number (Nat.le_refl _), first.free] at held
    exact absurd held (by decide)
  have again := searched.firstFree numbered fun n le => lie n (Nat.le_trans le upTo)
  rw [path, again.eq first]

end Search

section Numbers

variable {number : Nat} (leads : archive.files.LeadsTo archive.home archive.directory root)
  (shelf : archive.files.at? (shelfPlace root) = some .directory) (flat : Flat name)

include leads shelf flat

theorem holds_backupPathAt (fits : Fits archive name number) :
    ∀ n ≤ number, archive.holds (archive.backupPathAt name n) =
      (archive.files.at? (backupPlace root name n)).isSome := by
  intro n le
  exact FileTree.holds_of_resolve (resolve_backupPathAt leads shelf flat (fits.of_le flat le))

/-- The next backup has the least free number. -/
theorem backupPath_eq (fits : Fits archive name number)
    (least : LeastFree archive.files root name number) :
    archive.backupPath name = archive.backupPathAt name number :=
  backupPath_of_firstFree (numbered_backupPlace root name)
    (holds_backupPathAt leads shelf flat fits) (leastFree_iff.1 least)

/-- If the least free number does not fit, the next backup has no place. -/
theorem resolve_backupPath_error (least : LeastFree archive.files root name number)
    (long : ¬ Fits archive name number) :
    ∃ fault, archive.files.resolve archive.home (archive.backupPath name) = .error fault := by
  obtain ⟨found, path, searched⟩ := searched_backupPath archive name
  rw [path]
  cases resolved : archive.files.resolve archive.home (archive.backupPathAt name found) with
  | error fault => exact ⟨fault, rfl⟩
  | ok place =>
      have fits := fits_of_resolve leads shelf flat resolved
      have first := searched.firstFree (numbered_backupPlace root name)
        (holds_backupPathAt leads shelf flat fits)
      have same := first.eq (leastFree_iff.1 least)
      exact absurd (same ▸ fits) long

end Numbers

/-! ## Saving -/

/-- Where nothing is, a lattice gets its file at once: there is nothing to copy aside. -/
theorem save_of_nothing {place : Place}
    (resolved : archive.files.resolve archive.home (archive.modelPath name) = .ok place)
    (absent : archive.files.at? place = none) (text : String) :
    archive.save name text =
      (.ok (), { archive with files := archive.files.put place (.file text.toUTF8) }) := by
  have unheld : archive.holds (archive.modelPath name) = false := by
    have found : archive.holds (archive.modelPath name) = (archive.files.at? place).isSome :=
      FileTree.holds_of_resolve resolved
    rw [found, absent]
    rfl
  have copied : archive.backUp name = (.ok none, archive) := by
    simp [backUp, unheld]
  have written := FileTree.write_of_resolve text.toUTF8 resolved (by simp [absent])
  unfold save
  rw [copied]
  dsimp only
  rw [written]

section Named

variable (leads : archive.files.LeadsTo archive.home archive.directory root)
  (named : Named archive name)

include leads named

theorem holds_modelPath :
    archive.holds (archive.modelPath name) =
      (archive.files.at? (modelPlace root name)).isSome :=
  FileTree.holds_of_resolve (resolve_modelPath leads named)

theorem holds_modelPath_of_present (present : archive.files.at? (modelPlace root name) ≠ none) :
    archive.holds (archive.modelPath name) = true := by
  rw [holds_modelPath leads named]
  exact Option.isSome_iff_ne_none.2 present

/-- A name without a lattice gets its file; nothing else changes. -/
theorem save_of_absent (text : String) (absent : archive.files.at? (modelPlace root name) = none) :
    archive.save name text =
      (.ok (), { archive with
        files := archive.files.put (modelPlace root name) (.file text.toUTF8) }) :=
  save_of_nothing (resolve_modelPath leads named) absent text

end Named

/-- Sees to it that the directory of the backups is there. -/
theorem ensureDirectory_shelf
    (leads : archive.files.LeadsTo archive.home archive.directory root)
    (short : archive.backupDirectory.utf8ByteSize ≤ FileTree.pathLimit) (plain : ∀ content,
    archive.files.at? (shelfPlace root) ≠ some (.file content)) :
    ∃ files, archive.files.ensureDirectory archive.home archive.backupDirectory = .ok files ∧
      archive.files.Keeps files ∧
      ∀ place, files.at? place =
        if place = shelfPlace root then some .directory else archive.files.at? place := by
  have resolved := resolve_backupDirectory leads short
  have inside : shelfPlace root ≠ [] := by simp [shelfPlace]
  cases held : archive.files.at? (shelfPlace root) with
  | none =>
      refine ⟨archive.files.put (shelfPlace root) .directory, ?_,
        archive.files.keeps_put_directory _, ?_⟩
      · simp only [FileTree.ensureDirectory, resolved, held]
      · intro place
        by_cases same : place = shelfPlace root
        · rw [if_pos same, same, FileTree.at?_put_self _ inside]
        · rw [if_neg same, FileTree.at?_put_of_ne _ _ same]
  | some entry =>
      cases entry with
      | file content => exact absurd held (plain content)
      | directory =>
          refine ⟨archive.files, ?_, archive.files.keeps_refl, ?_⟩
          · simp only [FileTree.ensureDirectory, resolved, held]
          · intro place
            by_cases same : place = shelfPlace root
            · rw [if_pos same, same, held]
            · rw [if_neg same]

section Copying

variable {opened : FileTree} {model backup : Place} {content : ByteArray}
  (held : archive.holds (archive.modelPath name) = true)
  (ensured : archive.files.ensureDirectory archive.home archive.backupDirectory = .ok opened)
  (resolved : opened.resolve archive.home (archive.modelPath name) = .ok model)
  (present : opened.at? model = some (.file content))
  (aside : opened.resolve archive.home (backupPath { archive with files := opened } name) =
    .ok backup)
  (free : opened.at? backup = none)

include held ensured resolved present aside free

/-- A lattice is copied to the place of the next backup, where nothing is. -/
theorem backUp_of_free :
    archive.backUp name =
      (.ok (some (backupPath { archive with files := opened } name)),
        { archive with files := opened.put backup (.file content) }) := by
  have read := FileTree.read_of_resolve resolved present
  have copied := FileTree.write_of_resolve content aside (by simp [free])
  unfold backUp
  rw [if_pos held, ensured]
  dsimp only
  unfold FileTree.copy
  rw [read]
  dsimp only
  rw [copied]

/-- Then its file is written; nothing else changes but that the directory of the backups is
there. -/
theorem save_of_free
    (hopened : ∀ place, opened.at? place =
      if place = shelfPlace root then some .directory else archive.files.at? place)
    (text : String) :
    ∃ files, archive.save name text = (.ok (), { archive with files := files }) ∧
      ∀ place, files.at? place =
        if place = model then some (.file text.toUTF8)
        else if place = backup then some (.file content)
        else if place = shelfPlace root then some .directory
        else archive.files.at? place := by
  have copied := backUp_of_free held ensured resolved present aside free
  have differ : model ≠ backup := by
    rintro rfl
    simp [free] at present
  have modelInside : model ≠ [] := by
    rintro rfl
    simp [FileTree.at?_nil] at present
  have backupInside : backup ≠ [] := by
    rintro rfl
    simp [FileTree.at?_nil] at free
  have kept : opened.Keeps (opened.put backup (.file content)) :=
    opened.keeps_put _ (by simp [free])
  have there : (opened.put backup (.file content)).at? model = some (.file content) := by
    rw [FileTree.at?_put_of_ne _ _ differ, present]
  have written := FileTree.write_of_resolve text.toUTF8 (FileTree.resolve_of_keeps kept resolved)
    (by simp [there])
  refine ⟨(opened.put backup (.file content)).put model (.file text.toUTF8), ?_, ?_⟩
  · have path : modelPath { archive with files := opened.put backup (.file content) } name =
        archive.modelPath name := rfl
    unfold save
    rw [copied]
    dsimp only
    rw [path, written]
  · intro place
    by_cases written : place = model
    · rw [if_pos written, written, FileTree.at?_put_self _ modelInside]
    · rw [if_neg written, FileTree.at?_put_of_ne _ _ written]
      by_cases copied : place = backup
      · rw [if_pos copied, copied, FileTree.at?_put_self _ backupInside]
      · rw [if_neg copied, FileTree.at?_put_of_ne _ _ copied, hopened]

end Copying

section Saving

variable {number : Nat}
  (leads : archive.files.LeadsTo archive.home archive.directory root) (flat : Flat name)
  (fits : Fits archive name number)

include leads flat fits

/-- The text in the file of a lattice is what is loaded. -/
theorem load_of_present {text : String}
    (present : archive.files.at? (modelPlace root name) = some (.file text.toUTF8)) :
    archive.load name = .ok text := by
  have resolved := resolve_modelPath leads (fits.named flat)
  have held := holds_modelPath_of_present leads (fits.named flat) (by simp [present])
  have read := FileTree.read_of_resolve resolved present
  have same : archive.files.readText archive.home (archive.modelPath name) = .ok text := by
    simp only [FileTree.readText, read, FileTree.fromUTF8?_toUTF8]
  rw [load, if_pos held, same]
  rfl

/-- Saving over a lattice copies it to the least free backup and then writes its file; nothing
else changes. -/
theorem save_of_present {content : ByteArray}
    (present : archive.files.at? (modelPlace root name) = some (.file content))
    (plain : ∀ content, archive.files.at? (shelfPlace root) ≠ some (.file content))
    (least : LeastFree archive.files root name number) (text : String) :
    ∃ files, archive.save name text = (.ok (), { archive with files := files }) ∧
      ∀ place, files.at? place =
        if place = modelPlace root name then some (.file text.toUTF8)
        else if place = backupPlace root name number then some (.file content)
        else if place = shelfPlace root then some .directory
        else archive.files.at? place := by
  have named := fits.named flat
  have held := holds_modelPath_of_present leads named (by simp [present])
  obtain ⟨opened, ensured, kept, hopened⟩ := ensureDirectory_shelf leads named.shelf plain
  have leadsOpened := leads.of_keeps kept
  have shelf : opened.at? (shelfPlace root) = some .directory := by
    rw [hopened, if_pos rfl]
  have presentOpened : opened.at? (modelPlace root name) = some (.file content) := by
    rw [hopened, if_neg (modelPlace_ne_shelfPlace root name), present]
  have leastOpened := least.of_shelf hopened
  have target : backupPath { archive with files := opened } name =
      archive.backupPathAt name number :=
    backupPath_eq leadsOpened shelf flat ⟨fits.file, fits.path⟩ leastOpened
  have aside : opened.resolve archive.home (backupPath { archive with files := opened } name) =
      .ok (backupPlace root name number) := by
    rw [target]
    exact resolve_backupPathAt leadsOpened shelf flat fits
  exact save_of_free held ensured (resolve_modelPath leadsOpened named) presentOpened aside
    leastOpened.free hopened text

end Saving

end Archive

end LatticeSketch
