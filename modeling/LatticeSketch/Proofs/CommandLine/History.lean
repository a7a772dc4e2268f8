/-
# LatticeSketch.Proofs.CommandLine.History -- what a history of runs leaves behind

A `Record` says in short what runs about one name have come to: the checkerboard that is
drawn now, as its two sizes and its offset, and the texts that were replaced, oldest first.
`Record.after` follows a request without any text or file.

The files of the archive keep in step with the record (`Mirrors`): the file of the lattice is the
record's checkerboard, backup `i` is the `i`-th replaced text, and every other place is as it
was at the beginning.  One run keeps them so (`answers_run`) and hence all runs do
(`mirrors_runAll`).
-/
import LatticeSketch.CommandLine.Run
import LatticeSketch.Proofs.CommandLine.Requests
import LatticeSketch.Proofs.Files.Archive
import LatticeSketch.Proofs.Lattice.Checkerboard

namespace LatticeSketch.CommandLine

set_option autoImplicit false

open Archive (modelPlace shelfPlace backupPlace backupFile Flat Fits)

/-- A checkerboard as its sizes and its offset. -/
structure Sketch where
  columns : Nat
  height : Nat
  evenShifted : Bool
deriving DecidableEq, Repr

namespace Sketch

/-- The text of a checkerboard. -/
def text (sketch : Sketch) : String :=
  Checkerboard.model sketch.columns sketch.height sketch.evenShifted

def widened (sketch : Sketch) (sites : Nat) : Sketch :=
  { sketch with columns := sketch.columns + sites }

def narrowed (sketch : Sketch) (sites : Nat) : Sketch :=
  { sketch with columns := sketch.columns - sites }

/-- A crystal whose lattice is the checkerboard. -/
def crystal (sketch : Sketch) (name : String) (latticeConstant depth : Float) : Crystal :=
  ⟨name, latticeConstant, depth, ⟨sketch.text, sketch.evenShifted⟩, 0⟩

/-- The checkerboard has a row and a column. -/
structure Drawn (sketch : Sketch) : Prop where
  columns : 0 < sketch.columns
  height : 0 < sketch.height

section Editing

variable {σ : Type} [LatticeStore σ] {sketch : Sketch} (drawn : sketch.Drawn) {sites : Nat}
  (some_ : sites ≠ 0) (store : σ) (name : String) (latticeConstant depth : Float)

include drawn some_

theorem expand_crystal :
    (sketch.crystal name latticeConstant depth).expand store sites =
      ((sketch.widened sites).crystal name latticeConstant depth).keep store := by
  have wider : Grid.expand ⟨sketch.text, sketch.evenShifted⟩ sites =
      ⟨(sketch.widened sites).text, sketch.evenShifted⟩ :=
    Checkerboard.expand_model drawn.columns drawn.height sketch.evenShifted sites
  rw [Crystal.expand, if_neg some_]
  dsimp only [crystal]
  rw [wider]
  rfl

theorem reduce_crystal (few : 2 * sites < countBound) (fewer : sites < sketch.columns) :
    (sketch.crystal name latticeConstant depth).reduce store sites =
      ((sketch.narrowed sites).crystal name latticeConstant depth).keep store := by
  have narrower : Grid.reduce ⟨sketch.text, sketch.evenShifted⟩ sites =
      .ok ⟨(sketch.narrowed sites).text, sketch.evenShifted⟩ := by
    have reduced := Checkerboard.reduce_model drawn.height sketch.evenShifted
      (by rwa [Grid.cutSites_of_lt few])
    rwa [Grid.cutSites_of_lt few] at reduced
  rw [Crystal.reduce, if_neg some_]
  dsimp only [crystal]
  rw [narrower]
  rfl

theorem reduce_crystal_of_le (few : 2 * sites < countBound) (all : sketch.columns ≤ sites) :
    (sketch.crystal name latticeConstant depth).reduce store sites =
      ⟨.error (.tooNarrow sites 0 (2 * sketch.columns)),
        sketch.crystal name latticeConstant depth, store, []⟩ := by
  have refused : Grid.reduce ⟨sketch.text, sketch.evenShifted⟩ sites =
      .error (.tooNarrow sites 0 (2 * sketch.columns)) :=
    Checkerboard.reduce_model_of_le drawn.height sketch.evenShifted
      (by rwa [Grid.cutSites_of_lt few])
  rw [Crystal.reduce, if_neg some_]
  dsimp only [crystal]
  rw [refused]

end Editing

end Sketch

/-- The checkerboard that is drawn and the texts that were replaced on the way to it. -/
structure Record where
  sketch : Sketch
  replaced : List String
deriving DecidableEq, Repr

namespace Record

/-- Another checkerboard in the place of the one drawn. -/
def replace (record : Record) (sketch : Sketch) : Record :=
  ⟨sketch, record.replaced ++ [record.sketch.text]⟩

/-- Whether a request is refused: there are too few columns for it. -/
def refuses (record : Record) : Request → Bool
  | .reduce sites => 0 < sites && record.sketch.columns ≤ sites
  | _ => false

/-- The record behind a request. -/
def after (record : Record) : Request → Record
  | .create columns height evenShifted => record.replace ⟨columns, height, evenShifted⟩
  | .display => record
  | .expand sites =>
      if sites = 0 then record
      else record.replace (record.sketch.widened sites)
  | .reduce sites =>
      if sites = 0 ∨ record.sketch.columns ≤ sites then record
      else record.replace (record.sketch.narrowed sites)

end Record

/-- Whether a request asks for no change. -/
def Request.isIdle : Request → Bool
  | display => true
  | expand sites | reduce sites => sites == 0
  | create .. => false

theorem Record.drawn_after (record : Record) (drawn : record.sketch.Drawn) {request : Request}
    (valid : request.Valid) : (record.after request).sketch.Drawn := by
  cases request with
  | create columns height evenShifted => exact ⟨valid.1, valid.2.2.1⟩
  | display => exact drawn
  | expand sites =>
      rw [Record.after]
      split
      · exact drawn
      · exact ⟨Nat.add_pos_left drawn.columns sites, drawn.height⟩
  | reduce sites =>
      rw [Record.after]
      split
      · exact drawn
      · rename_i fits
        refine ⟨?_, drawn.height⟩
        change 0 < record.sketch.columns - sites
        omega

theorem Record.length_replaced_after (record : Record) (request : Request) :
    (record.after request).replaced.length ≤ record.replaced.length + 1 := by
  cases request with
  | create columns height evenShifted => simp [Record.after, Record.replace]
  | display => exact Nat.le_succ _
  | expand sites =>
      rw [Record.after]
      split <;> simp [Record.replace]
  | reduce sites =>
      rw [Record.after]
      split <;> simp [Record.replace]

/-- The files keep in step with the record; `initial` are the files of the beginning. -/
structure Mirrors (initial : FileTree) (home : Place) (name : String) (files : FileTree)
    (record : Record) : Prop where
  model : files.at? (modelPlace home name) = some (.file record.sketch.text.toUTF8)
  noBackup : files.at? (backupPlace home name 0) = none
  backup : ∀ index, files.at? (backupPlace home name (index + 1)) =
    record.replaced[index]?.map fun text => .file text.toUTF8
  shelf : files.at? (shelfPlace home) =
    if record.replaced = [] then initial.at? (shelfPlace home) else some .directory
  others : ∀ place, place ≠ modelPlace home name → place ≠ shelfPlace home →
    (∀ number, place ≠ backupPlace home name number) → files.at? place = initial.at? place

/-- What the files at the beginning are to be like: they do not know the name, and the
directory of the backups can be made. -/
structure Unknown (initial : FileTree) (home : Place) (name : String) : Prop where
  model : initial.at? (modelPlace home name) = none
  backup : ∀ number, initial.at? (backupPlace home name number) = none
  shelf : ∀ content, initial.at? (shelfPlace home) ≠ some (.file content)

/-! ## Saving -/

theorem leadsTo_here (files : FileTree) (home : Place) : files.LeadsTo home "." home := by
  refine ⟨by decide, ?_⟩
  have dot : Path.components "." = ["."] := by decide
  have relative : Path.isAbsolute "." = false := by decide
  simp [dot, relative, FileTree.follow]

theorem fits_here {name : String} (flat : Flat name) {number : Nat}
    (short : (backupFile name number).utf8ByteSize ≤ FileTree.nameLimit) (files : FileTree)
    (home : Place) : Fits ⟨files, home, "."⟩ name number := by
  refine ⟨short, ?_⟩
  have path := Path.utf8ByteSize_join (Path.join "." "backups")
    (Path.isAbsolute_of_not_mem (Archive.backupFile_level flat number))
  have shelf : (Path.join (Path.join "." "backups") "").utf8ByteSize = 10 := by decide
  have limits : FileTree.nameLimit = 255 ∧ FileTree.pathLimit = 4095 := ⟨rfl, rfl⟩
  change (Path.join (Path.join "." "backups") (backupFile name number)).utf8ByteSize ≤ _
  omega

section Steps

variable {initial files : FileTree} {home : Place} {name : String} {record : Record}
  (unknown : Unknown initial home name) (flat : Flat name)
  (mirrors : Mirrors initial home name files record)

include unknown flat mirrors

/-- Saving a checkerboard over the one drawn puts that aside as the next backup. -/
theorem Mirrors.save
    (short : (backupFile name (record.replaced.length + 1)).utf8ByteSize ≤ FileTree.nameLimit)
    (sketch : Sketch) :
    ∃ after, Archive.save ⟨files, home, "."⟩ name sketch.text = (.ok (), ⟨after, home, "."⟩) ∧
      Mirrors initial home name after (record.replace sketch) := by
  have plain : ∀ content, files.at? (shelfPlace home) ≠ some (.file content) := by
    intro content
    rw [mirrors.shelf]
    split
    · exact unknown.shelf content
    · simp
  have least : Archive.LeastFree files home name (record.replaced.length + 1) := by
    refine ⟨Nat.succ_pos _, fun number positive below => ?_, ?_⟩
    · obtain ⟨index, rfl⟩ : ∃ index, number = index + 1 := ⟨number - 1, by omega⟩
      have inside : index < record.replaced.length := by omega
      simp [mirrors.backup, List.getElem?_eq_getElem inside]
    · simp [mirrors.backup]
  obtain ⟨after, saved, held⟩ := Archive.save_of_present (leadsTo_here files home) flat
    (fits_here flat short files home) mirrors.model plain least sketch.text
  refine ⟨after, saved, ?_, ?_, fun index => ?_, ?_, fun place model shelf backup => ?_⟩
  · rw [held, if_pos rfl]
    rfl
  · rw [held, if_neg (Archive.backupPlace_ne_modelPlace home name name 0),
      if_neg (by rw [Archive.backupPlace_inj]; omega),
      if_neg (Archive.backupPlace_ne_shelfPlace home name 0), mirrors.noBackup]
  · rw [held, if_neg (Archive.backupPlace_ne_modelPlace home name name _)]
    by_cases last : index = record.replaced.length
    · rw [if_pos (by rw [last]), last]
      simp [Record.replace]
    · rw [if_neg (by rw [Archive.backupPlace_inj]; omega),
        if_neg (Archive.backupPlace_ne_shelfPlace home name _), mirrors.backup]
      by_cases inside : index < record.replaced.length
      · simp [Record.replace, List.getElem?_append_left inside]
      · simp only [Record.replace]
        rw [List.getElem?_eq_none (by omega), List.getElem?_eq_none]
        simp only [List.length_append, List.length_singleton]
        omega
  · rw [held, if_neg (Archive.modelPlace_ne_shelfPlace home name).symm,
      if_neg (Archive.backupPlace_ne_shelfPlace home name _).symm, if_pos rfl]
    simp [Record.replace]
  · rw [held, if_neg model, if_neg (backup _), if_neg shelf, mirrors.others place model shelf backup]

omit unknown in
/-- The lattice opens as the checkerboard of the record. -/
theorem Mirrors.load (drawn : record.sketch.Drawn) {number : Nat}
    (short : (backupFile name number).utf8ByteSize ≤ FileTree.nameLimit)
    (latticeConstant depth : Float) :
    Crystal.load (⟨files, home, "."⟩ : Archive) name latticeConstant depth =
      .ok (record.sketch.crystal name latticeConstant depth) := by
  have text : Archive.load ⟨files, home, "."⟩ name = .ok record.sketch.text :=
    Archive.load_of_present (leadsTo_here files home) flat (fits_here flat short files home)
      mirrors.model
  have read : Grid.ofText record.sketch.text = ⟨record.sketch.text, record.sketch.evenShifted⟩ :=
    Checkerboard.ofText_model drawn.columns drawn.height record.sketch.evenShifted
  have checked : (Grid.ofText record.sketch.text).check = .ok () := by
    rw [read]
    exact (Checkerboard.check_and_columns_model drawn.height record.sketch.evenShifted).1
  have loaded : Grid.load (⟨files, home, "."⟩ : Archive) name =
      .ok ⟨record.sketch.text, record.sketch.evenShifted⟩ :=
    (Grid.load_eq_ok_iff _ _ _).2 ⟨record.sketch.text, text, checked, read⟩
  exact (Crystal.load_eq_ok_iff _ _ _ _ _).2 ⟨_, loaded, rfl⟩

end Steps

/-! ## Running -/

theorem run_arguments {name : String} (named : Grammar.isOption name = false) {request : Request}
    (valid : request.Valid) (files : FileTree) (home : Place) (time : String) :
    run (request.arguments name) files home time =
      (request.task name).run ⟨files, home, "."⟩ {} time := by
  rw [run, ofArguments_arguments named valid]
  rfl

theorem edit_of_load {archive : Archive} {settings : Settings} {name : String} {crystal : Crystal}
    (opened : Crystal.load archive name settings.latticeConstant settings.depth = .ok crystal)
    (change : Crystal → Written Archive Crystal) :
    edit archive settings name change = finish none (change crystal) := by
  unfold edit openCrystal
  rw [opened]
  rfl

/-- A run answers with a failure exactly when the record refuses the request, touches no file then
or when nothing is asked for, and leaves the files in step with the record behind it. -/
structure Answers (initial files : FileTree) (home : Place) (name : String) (record : Record)
    (request : Request) (exit : Exit) : Prop where
  code : exit.code ≠ 0 ↔ record.refuses request = true
  unchanged : record.refuses request = true ∨ request.isIdle = true → exit.files = files
  mirrors : Mirrors initial home name exit.files (record.after request)

section Runs

variable {initial files : FileTree} {home : Place} {name : String} {record : Record}

/-- A run that ends with a saved checkerboard. -/
theorem Answers.of_save {request : Request} {sketch : Sketch} {after : FileTree}
    (step : record.after request = record.replace sketch)
    (changes : request.isIdle = false) (accepted : record.refuses request = false)
    (kept : Mirrors initial home name after (record.replace sketch)) :
    Answers initial files home name record request (succeed after "" "") := by
  refine ⟨?_, ?_, ?_⟩
  · simp [succeed, accepted]
  · simp [changes, accepted]
  · rw [step]
    exact kept

theorem finish_keep {archive : Archive} {sketch : Sketch} {after : FileTree}
    (saved : archive.save name sketch.text = (.ok (), { archive with files := after }))
    (latticeConstant depth : Float) :
    finish none ((sketch.crystal name latticeConstant depth).keep archive) =
      succeed after "" "" := by
  have stored : LatticeStore.save archive name sketch.text =
      (.ok (), { archive with files := after }) := saved
  have kept : (sketch.crystal name latticeConstant depth).keep archive =
      ⟨.ok (), sketch.crystal name latticeConstant depth, { archive with files := after }, []⟩ := by
    unfold Crystal.keep
    dsimp only [Sketch.crystal]
    rw [stored]
  rw [kept]
  rfl

variable (unknown : Unknown initial home name) (flat : Flat name)
  (mirrors : Mirrors initial home name files record) (drawn : record.sketch.Drawn)
  (short : (backupFile name (record.replaced.length + 1)).utf8ByteSize ≤ FileTree.nameLimit)

include unknown flat mirrors short

theorem answers_create (settings : Settings) (time : String) (columns height : Nat)
    (evenShifted : Bool) :
    Answers initial files home name record (.create columns height evenShifted)
      (Task.run ⟨files, home, "."⟩ settings time (.create name columns height evenShifted)) := by
  obtain ⟨after, saved, kept⟩ := mirrors.save unknown flat short ⟨columns, height, evenShifted⟩
  have made : Task.run ⟨files, home, "."⟩ settings time (.create name columns height evenShifted) =
      succeed after "" "" := by
    have stored : LatticeStore.save (⟨files, home, "."⟩ : Archive) name
        (Checkerboard.model columns height evenShifted) = (.ok (), ⟨after, home, "."⟩) := saved
    unfold Task.run
    dsimp only
    unfold Grid.generate
    dsimp only
    rw [stored]
    rfl
  rw [made]
  exact Answers.of_save rfl rfl rfl kept

include drawn

omit unknown in
theorem answers_display (settings : Settings) (time : String) :
    Answers initial files home name record .display
      (Task.run ⟨files, home, "."⟩ settings time (.display name)) := by
  have opened := mirrors.load flat drawn short settings.latticeConstant settings.depth
  obtain ⟨output, made⟩ : ∃ output, Task.run ⟨files, home, "."⟩ settings time (.display name) =
      succeed files output "" := by
    unfold Task.run
    dsimp only
    unfold openCrystal
    rw [opened]
    exact ⟨_, rfl⟩
  rw [made]
  exact ⟨by simp [succeed, Record.refuses], fun _ => rfl, mirrors⟩

theorem answers_expand (settings : Settings) (time : String) (sites : Nat) :
    Answers initial files home name record (.expand sites)
      (Task.run ⟨files, home, "."⟩ settings time (.expand name sites)) := by
  have opened := mirrors.load flat drawn short settings.latticeConstant settings.depth
  have made : Task.run ⟨files, home, "."⟩ settings time (.expand name sites) = _ :=
    edit_of_load opened fun crystal => crystal.expand ⟨files, home, "."⟩ sites
  rw [made]
  by_cases none : sites = 0
  · subst none
    exact ⟨by simp [Crystal.expand, finish, succeed, Record.refuses], fun _ => rfl, mirrors⟩
  · obtain ⟨after, saved, kept⟩ := mirrors.save unknown flat short (record.sketch.widened sites)
    rw [Sketch.expand_crystal drawn none, finish_keep saved]
    refine Answers.of_save ?_ (by simpa [Request.isIdle] using none) rfl kept
    rw [Record.after, if_neg none]

theorem answers_reduce (settings : Settings) (time : String) {sites : Nat}
    (few : 2 * sites < countBound) :
    Answers initial files home name record (.reduce sites)
      (Task.run ⟨files, home, "."⟩ settings time (.reduce name sites)) := by
  have opened := mirrors.load flat drawn short settings.latticeConstant settings.depth
  have made : Task.run ⟨files, home, "."⟩ settings time (.reduce name sites) = _ :=
    edit_of_load opened fun crystal => crystal.reduce ⟨files, home, "."⟩ sites
  rw [made]
  by_cases none : sites = 0
  · subst none
    exact ⟨by simp [Crystal.reduce, finish, succeed, Record.refuses], fun _ => rfl, mirrors⟩
  by_cases fewer : sites < record.sketch.columns
  · obtain ⟨after, saved, kept⟩ := mirrors.save unknown flat short (record.sketch.narrowed sites)
    have accepted : ¬ (sites = 0 ∨ record.sketch.columns ≤ sites) := by omega
    rw [Sketch.reduce_crystal drawn none _ _ _ _ few fewer, finish_keep saved]
    refine Answers.of_save ?_ (by simpa [Request.isIdle] using none) ?_ kept
    · rw [Record.after, if_neg accepted]
    · simp only [Record.refuses, Bool.and_eq_false_iff, decide_eq_false_iff_not]
      omega
  · have all := Nat.le_of_not_lt fewer
    have same : record.after (.reduce sites) = record := by
      rw [Record.after, if_pos (Or.inr all)]
    rw [Sketch.reduce_crystal_of_le drawn none _ _ _ _ few all]
    refine ⟨?_, fun _ => rfl, ?_⟩
    · have positive : 0 < sites := Nat.pos_of_ne_zero none
      simp [finish, fail, Record.refuses, positive, all]
    · rw [same]
      exact mirrors

/-- One run keeps the files in step with the record. -/
theorem answers_run (named : Grammar.isOption name = false) {request : Request}
    (valid : request.Valid) (time : String) :
    Answers initial files home name record request
      (run (request.arguments name) files home time) := by
  rw [run_arguments named valid]
  cases request with
  | create columns height evenShifted =>
      exact answers_create unknown flat mirrors short {} time columns height evenShifted
  | display => exact answers_display flat mirrors drawn short {} time
  | expand sites => exact answers_expand unknown flat mirrors drawn short {} time sites
  | reduce sites => exact answers_reduce unknown flat mirrors drawn short {} time valid

end Runs

/-! ## Histories -/

/-- The files behind runs that follow each other, each with its time. -/
def runAll (name : String) (home : Place) (files : FileTree) (requests : List (Request × String)) :
    FileTree :=
  requests.foldl (fun files request => (run (request.1.arguments name) files home request.2).files)
    files

/-- The record behind requests that follow each other. -/
def Record.afterAll (record : Record) (requests : List (Request × String)) : Record :=
  requests.foldl (fun record request => record.after request.1) record

section Histories

variable {initial : FileTree} {home : Place} {name : String}
  (named : Grammar.isOption name = false) (flat : Flat name)
  (unknown : Unknown initial home name)

include named flat unknown

/-- The first run draws the checkerboard and replaces nothing. -/
theorem mirrors_create {columns height : Nat} {evenShifted : Bool}
    (valid : (Request.create columns height evenShifted).Valid) {number : Nat}
    (short : (backupFile name number).utf8ByteSize ≤ FileTree.nameLimit) (time : String) :
    ∃ after, run ((Request.create columns height evenShifted).arguments name) initial home time =
        succeed after "" "" ∧
      Mirrors initial home name after ⟨⟨columns, height, evenShifted⟩, []⟩ := by
  have saved := Archive.save_of_absent (leadsTo_here initial home)
    ((fits_here flat short initial home).named flat)
    (Checkerboard.model columns height evenShifted) unknown.model
  have apart := Archive.backupPlace_ne_modelPlace home name name
  let entry : Entry := .file (Checkerboard.model columns height evenShifted).toUTF8
  have kept : ∀ place, place ≠ modelPlace home name →
      (initial.put (modelPlace home name) entry).at? place = initial.at? place :=
    fun place differ => initial.at?_put_of_ne entry differ
  refine ⟨initial.put (modelPlace home name) entry, ?_, ?_, ?_, fun index => ?_, ?_,
    fun place model _ _ => kept place model⟩
  · rw [run_arguments named valid]
    unfold Request.task Task.run
    dsimp only
    unfold Grid.generate
    dsimp only
    have stored : LatticeStore.save (⟨initial, home, "."⟩ : Archive) name
        (Checkerboard.model columns height evenShifted) = _ := saved
    rw [stored]
    rfl
  · exact initial.at?_put_self (Archive.modelPlace_ne_nil home name) _
  · rw [kept _ (apart 0), unknown.backup]
  · rw [kept _ (apart _), unknown.backup]
    rfl
  · rw [kept _ (Archive.modelPlace_ne_shelfPlace home name).symm]
    rfl

/-- All runs keep the files in step with the record. -/
theorem mirrors_runAll {files : FileTree} {record : Record} (drawn : record.sketch.Drawn)
    (mirrors : Mirrors initial home name files record) {requests : List (Request × String)}
    (valid : ∀ request ∈ requests, request.1.Valid) {number : Nat}
    (short : (backupFile name number).utf8ByteSize ≤ FileTree.nameLimit)
    (few : record.replaced.length + requests.length ≤ number) :
    Mirrors initial home name (runAll name home files requests) (record.afterAll requests) ∧
      (record.afterAll requests).sketch.Drawn ∧
      (record.afterAll requests).replaced.length ≤ record.replaced.length + requests.length := by
  induction requests generalizing files record with
  | nil => exact ⟨mirrors, drawn, Nat.le_refl _⟩
  | cons request rest ih =>
      rw [List.forall_mem_cons] at valid
      rw [List.length_cons] at few ⊢
      have next : (backupFile name (record.replaced.length + 1)).utf8ByteSize ≤
          FileTree.nameLimit :=
        Nat.le_trans (Archive.utf8ByteSize_backupFile_mono name (by omega)) short
      have answers := answers_run unknown flat mirrors drawn next named valid.1 request.2
      have grown := record.length_replaced_after request.1
      obtain ⟨last, ends, length⟩ := ih (record.drawn_after drawn valid.1) answers.mirrors valid.2
        (by omega)
      exact ⟨last, ends, Nat.le_trans length (by omega)⟩

end Histories

end LatticeSketch.CommandLine
