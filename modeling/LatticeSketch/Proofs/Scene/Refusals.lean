/-
# LatticeSketch.Proofs.Scene.Refusals -- which scenes are refused, and with which fault

A scene is made in three stages, and each has faults of its own:

* all lattices are opened; the first that cannot be opened ends it (`loadCrystals_eq_error_iff`);
* the crystals are placed from left to right; rows of different widths would have been refused
  before, so only a curve at an edge is refused here, and only by the strict policy
  (`performAll_crystals_eq_error_iff`, `refusal?_of_rectangular`);
* the parts behind the crystals compile them again, which cannot fail any more, so these steps
  are refused only if there is no crystal at all (`performAll_eq_error_iff`).

A stage is not reached before the one in front of it is through, so the three kinds of fault
exclude each other (`sceneScript_eq_error_iff`) and a scene without any of them is made
(`scene_made_or_refused`).
-/
import LatticeSketch.Proofs.Files.Archive
import LatticeSketch.Proofs.Scene.Alignment

namespace LatticeSketch

set_option autoImplicit false

open Compiler (refusal? refuses)
open CellByCell (reference)

/-! ## Lattices that can be opened -/

namespace Grid

/-- Some curve of the lattice is at its edge. -/
def HasEdgeCurve (grid : Grid) : Prop :=
  ∃ cell ∈ grid.drawnCells, cell.site.isCurve = true ∧ grid.onEdge cell.row cell.column = true

theorem firstEdgeCurve?_eq_none_iff (grid : Grid) :
    grid.firstEdgeCurve? = none ↔ ¬ grid.HasEdgeCurve := by
  simp [firstEdgeCurve?, HasEdgeCurve, List.find?_eq_none]

section Opened

variable {σ : Type} [LatticeStore σ]

/-- The store has a text for `name`, it draws `grid`, and all rows have as many symbols. -/
def Opened (store : σ) (name : String) (grid : Grid) : Prop :=
  ∃ text, LatticeStore.load store name = .ok text ∧ Grid.ofText text = grid ∧
    ∀ first ∈ grid.rows, ∀ second ∈ grid.rows, first.length = second.length

theorem load_eq_ok_iff_opened (store : σ) (name : String) (grid : Grid) :
    Grid.load store name = .ok grid ↔ Opened store name grid := by
  rw [load_eq_ok_iff, Opened]
  refine exists_congr fun text => and_congr_right fun _ => ?_
  rw [and_comm]
  refine and_congr_right fun drawn => ?_
  rw [drawn, check_eq_ok_iff_rectangular]

end Opened

end Grid

open Grid (Opened)

/-! ## Opening all lattices -/

section Loading

variable {σ : Type} [LatticeStore σ] {store : σ} {settings : Settings}

/-- Why the crystal kept under `name` cannot be loaded, if it cannot. -/
def loadFault? (store : σ) (settings : Settings) (name : String) : Option Fault :=
  match Crystal.load store name settings.latticeConstant settings.depth with
  | .error fault => some fault
  | .ok _ => none

theorem loadFault?_eq_some_iff (name : String) (fault : Fault) :
    loadFault? store settings name = some fault ↔
      Crystal.load store name settings.latticeConstant settings.depth = .error fault := by
  unfold loadFault?
  cases Crystal.load store name settings.latticeConstant settings.depth <;> simp

theorem loadFault?_eq_none_iff (name : String) :
    loadFault? store settings name = none ↔ ∃ grid, Opened store name grid := by
  simp only [← Grid.load_eq_ok_iff_opened]
  unfold loadFault? Crystal.load
  cases Grid.load store name <;> simp [Except.map]

/-- The first lattice that cannot be opened ends it, whatever comes behind. -/
theorem loadCrystals_eq_error_iff (names : List String) (fault : Fault) :
    loadCrystals store settings names = .error fault ↔
      names.findSome? (loadFault? store settings) = some fault := by
  induction names with
  | nil => simp [loadCrystals]
  | cons name rest ih =>
      rw [loadCrystals, List.findSome?_cons, loadFault?]
      cases Crystal.load store name settings.latticeConstant settings.depth with
      | error other => simp
      | ok crystal =>
          dsimp only
          rw [← ih]
          cases loadCrystals store settings rest <;> simp [Except.map]

/-- Crystals that were loaded have the lattices kept under the names, in their order. -/
theorem opened_of_loadCrystals {names : List String} {crystals : List Crystal}
    (loaded : loadCrystals store settings names = .ok crystals) :
    List.Forall₂ (Opened store) names (crystals.map Crystal.grid) := by
  induction names generalizing crystals with
  | nil =>
      obtain rfl := Except.ok.inj loaded
      exact .nil
  | cons name rest ih =>
      rw [loadCrystals] at loaded
      cases opened : Crystal.load store name settings.latticeConstant settings.depth with
      | error fault => simp [opened] at loaded
      | ok crystal =>
          cases others : loadCrystals store settings rest with
          | error fault => simp [opened, others, Except.map] at loaded
          | ok behind =>
              simp only [opened, others, Except.map, Except.ok.injEq] at loaded
              subst loaded
              obtain ⟨grid, held, rfl⟩ := (Crystal.load_eq_ok_iff _ _ _ _ _).1 opened
              exact .cons ((Grid.load_eq_ok_iff_opened _ _ _).1 held) (ih others)

/-- A name draws one lattice only. -/
theorem Grid.Opened.eq {name : String} {first second : Grid} (opened : Opened store name first)
    (again : Opened store name second) : first = second := by
  rw [← Grid.load_eq_ok_iff_opened] at opened again
  exact Except.ok.inj (opened.symm.trans again)

theorem forall₂_opened_unique {names : List String} {first second : List Grid}
    (opened : List.Forall₂ (Opened store) names first)
    (again : List.Forall₂ (Opened store) names second) : first = second := by
  induction opened generalizing second with
  | nil => exact (List.forall₂_nil_left_iff.1 again).symm
  | cons held _ ih =>
      obtain ⟨grid, grids, held', opens, rfl⟩ := List.forall₂_cons_left_iff.1 again
      rw [held.eq held', ih opens]

/-- Every name can be opened, and the lattice has a property, exactly if the names draw, in their
order, some lattices that all have it. -/
theorem forall_opened_iff (store : σ) (names : List String) (property : Grid → Prop) :
    (∀ name ∈ names, ∃ grid, Opened store name grid ∧ property grid) ↔
      ∃ grids, List.Forall₂ (Opened store) names grids ∧ ∀ grid ∈ grids, property grid := by
  induction names with
  | nil => exact iff_of_true nofun ⟨[], .nil, nofun⟩
  | cons name rest ih =>
      rw [List.forall_mem_cons, ih]
      constructor
      · rintro ⟨⟨grid, held, has⟩, grids, opens, have_⟩
        exact ⟨grid :: grids, .cons held opens, List.forall_mem_cons.2 ⟨has, have_⟩⟩
      · rintro ⟨_, _ | ⟨held, opens⟩, have_⟩
        rw [List.forall_mem_cons] at have_
        exact ⟨⟨_, held, have_.1⟩, _, opens, have_.2⟩

theorem findSome?_loadFault?_eq_none_iff (settings : Settings) (names : List String) :
    names.findSome? (loadFault? store settings) = none ↔
      ∃ grids, List.Forall₂ (Opened store) names grids := by
  have opens := forall_opened_iff store names fun _ => True
  simp only [and_true, implies_true] at opens
  rw [← opens, List.findSome?_eq_none_iff]
  exact forall₂_congr fun name _ => loadFault?_eq_none_iff name

/-- When every name can be opened, all are. -/
theorem loadCrystals_of_opened (settings : Settings) {names : List String} {grids : List Grid}
    (opened : List.Forall₂ (Opened store) names grids) :
    ∃ crystals, loadCrystals store settings names = .ok crystals ∧
      crystals.map Crystal.grid = grids := by
  cases loaded : loadCrystals store settings names with
  | error fault =>
      have opens := (findSome?_loadFault?_eq_none_iff settings names).2 ⟨grids, opened⟩
      rw [loadCrystals_eq_error_iff, opens] at loaded
      cases loaded
  | ok crystals =>
      exact ⟨crystals, rfl, forall₂_opened_unique (opened_of_loadCrystals loaded) opened⟩

end Loading

/-! ## Placing crystals and what goes around them -/

namespace Compiler

variable {grid : Grid}
  (rectangular : ∀ first ∈ grid.rows, ∀ second ∈ grid.rows, first.length = second.length)

include rectangular

/-- With rows of one width only the strict policy refuses a lattice, for its first curve at the
edge. -/
theorem refusal?_of_rectangular (boundary : Boundary) :
    refusal? boundary grid =
      match boundary with
      | .empty => none
      | .reject => grid.firstEdgeCurve?.map fun cell => .outsideNeighbour cell.row cell.column := by
  unfold refusal?
  rw [Grid.check_of_rectangular rectangular]
  cases boundary with
  | empty => rw [find?_refuses_empty, Option.map_none]
  | reject => rw [find?_refuses_reject]

theorem refusal?_eq_none_iff (boundary : Boundary) :
    refusal? boundary grid = none ↔ (boundary = .reject → ¬ grid.HasEdgeCurve) := by
  rw [refusal?_of_rectangular rectangular]
  cases boundary with
  | empty => simp
  | reject => simp [Grid.firstEdgeCurve?_eq_none_iff]

end Compiler

namespace Assembly

variable {assembly : Assembly}

theorem performAll_append (first second : List Step) :
    assembly.performAll (first ++ second) =
      match assembly.performAll first with
      | .error fault => .error fault
      | .ok last => last.performAll second := by
  induction first generalizing assembly with
  | nil => rfl
  | cons step rest ih =>
      rw [List.cons_append, performAll, performAll]
      cases (assembly.perform step).result with
      | error fault => rfl
      | ok reply => exact ih

/-- A row of crystals is refused for the first of them that is, whatever stands before it. -/
theorem performAll_crystals_eq_error_iff (sound : assembly.Sound) (crystals : List Crystal)
    (fault : Fault) :
    assembly.performAll (crystals.map .crystal) = .error fault ↔
      (crystals.map Crystal.grid).findSome? (refusal? assembly.settings.boundary) =
        some fault := by
  induction crystals generalizing assembly with
  | nil => simp [performAll]
  | cons crystal rest ih =>
      have refused : ∀ other, (assembly.perform (.crystal crystal)).result = .error other ↔
          refusal? assembly.settings.boundary crystal.grid = some other := by
        intro other
        rw [perform_crystal_eq_error_iff sound, Compiler.result_compile_eq_error_iff]
      rw [List.map_cons, List.map_cons, performAll, List.findSome?_cons]
      cases made : (assembly.perform (.crystal crystal)).result with
      | error other => simp [(refused other).1 made]
      | ok reply =>
          have none : refusal? assembly.settings.boundary crystal.grid = none := by
            rw [Option.eq_none_iff_forall_ne_some]
            intro other stops
            rw [(refused other).2 stops] at made
            cases made
          have follows := perform_of_ok made
          rw [none, ← follows.settings]
          exact ih (sound.of_follows follows)

/-- Steps that need a crystal are refused if there is none, and then the first of them is. -/
theorem performAll_eq_error_iff (sound : assembly.Sound) {steps : List Step}
    (needing : ∀ step ∈ steps, step.placing?.isSome = true) (fault : Fault) :
    assembly.performAll steps = .error fault ↔
      assembly.crystals = [] ∧
        (steps.head?.bind Step.placing?).map Fault.noCrystals = some fault := by
  induction steps generalizing assembly with
  | nil => simp [performAll]
  | cons step rest ih =>
      obtain ⟨placing, needs⟩ := Option.isSome_iff_exists.1 (needing step (by simp))
      have refused : ∀ other, (assembly.perform step).result = .error other ↔
          assembly.crystals = [] ∧ other = .noCrystals placing :=
        fun other => perform_eq_error_iff sound needs
      rw [performAll, List.head?_cons, Option.bind_some, needs]
      cases made : (assembly.perform step).result with
      | error other =>
          obtain ⟨none, rfl⟩ := (refused other).1 made
          simp [none]
      | ok reply =>
          have follows := perform_of_ok made
          have some_ : assembly.crystals ≠ [] := by
            intro none
            rw [(refused _).2 ⟨none, rfl⟩] at made
            cases made
          have kept : (assembly.perform step).assembly.crystals = assembly.crystals := by
            have layout := congrArg Layout.crystals follows.layout
            cases step with
            | crystal crystal => simp [Step.placing?] at needs
            | _ => exact layout
          dsimp only
          rw [ih (sound.of_follows follows) fun other member => needing other (by simp [member]),
            kept]
          simp [some_]

end Assembly

/-- What the first part behind the crystals cannot do without one. -/
def SceneParts.placing? (parts : SceneParts) : Option Placing :=
  if parts.base then some .base
  else if parts.sources then some .sources
  else if parts.monitors then some .monitors
  else if parts.analysis then some .base
  else none

theorem SceneParts.placing?_eq (parts : SceneParts) :
    parts.behind.head?.bind Step.placing? = parts.placing? := by
  unfold behind steps placing?
  cases parts.base <;> cases parts.sources <;> cases parts.monitors <;> cases parts.analysis <;>
    rfl

theorem SceneParts.placing?_eq_none_iff (parts : SceneParts) :
    parts.placing? = none ↔ parts.base = false ∧ parts.sources = false ∧
      parts.monitors = false ∧ parts.analysis = false := by
  unfold placing?
  cases parts.base <;> cases parts.sources <;> cases parts.monitors <;> cases parts.analysis <;>
    simp

theorem SceneParts.needing_behind (parts : SceneParts) :
    ∀ step ∈ parts.behind, step.placing?.isSome = true := by
  unfold behind steps
  cases parts.base <;> cases parts.sources <;> cases parts.monitors <;> cases parts.analysis <;>
    simp [Step.placing?]

/-- A scene of crystals is refused for the first crystal that is, or for having none. -/
theorem buildScene_eq_error_iff (crystals : List Crystal) (settings : Settings)
    (parts : SceneParts) (fault : Fault) :
    buildScene crystals settings parts = .error fault ↔
      (crystals.map Crystal.grid).findSome? (refusal? settings.boundary) = some fault ∨
      crystals = [] ∧ parts.placing?.map Fault.noCrystals = some fault := by
  have sound := Assembly.sound_start .fresh settings
  have stage := Assembly.performAll_crystals_eq_error_iff sound crystals
  have mapped : buildScene crystals settings parts = .error fault ↔
      (Assembly.start .fresh settings).performAll (parts.steps crystals) = .error fault := by
    unfold buildScene
    cases (Assembly.start .fresh settings).performAll (parts.steps crystals) <;>
      simp [Except.map]
  rw [mapped, parts.steps_eq, Assembly.performAll_append]
  cases placed : (Assembly.start .fresh settings).performAll (crystals.map .crystal) with
  | error other =>
      have refused := (stage other).1 placed
      have some_ : crystals ≠ [] := by
        rintro rfl
        simp at refused
      rw [show settings.boundary = (Assembly.start .fresh settings).settings.boundary from rfl,
        refused]
      simp [some_]
  | ok last =>
      have none : (crystals.map Crystal.grid).findSome? (refusal? settings.boundary) = none := by
        rw [Option.eq_none_iff_forall_ne_some]
        intro other stops
        rw [(stage other).2 stops] at placed
        cases placed
      obtain ⟨-, layout, -, keeps⟩ := Assembly.performAll_of_ok placed
      rw [Layout.foldl_after_crystals] at layout
      have standing : last.crystals = placedFrom 0 crystals := congrArg Layout.crystals layout
      have empty : placedFrom 0 crystals = [] ↔ crystals = [] := by
        cases crystals <;> simp [placedFrom]
      dsimp only
      rw [Assembly.performAll_eq_error_iff (keeps sound) parts.needing_behind,
        parts.placing?_eq, standing, empty, none]
      simp

/-! ## Scenes of stored lattices -/

section Stored

variable {σ : Type} [LatticeStore σ] (store : σ) (names : List String) (settings : Settings)
  (parts : SceneParts) (time : String)

/-- The three stages of a scene and their faults; each stage is about all names, so a fault of one
is none of another. -/
theorem sceneScript_eq_error_iff (fault : Fault) :
    sceneScript store names settings parts time = .error fault ↔
      names.findSome? (loadFault? store settings) = some fault ∨
      (∃ grids, List.Forall₂ (Opened store) names grids ∧
        grids.findSome? (refusal? settings.boundary) = some fault) ∨
      names = [] ∧ parts.placing?.map Fault.noCrystals = some fault := by
  unfold sceneScript
  cases loaded : loadCrystals store settings names with
  | error other =>
      have stops := (loadCrystals_eq_error_iff names other).1 loaded
      have unopened : ¬ ∃ grids, List.Forall₂ (Opened store) names grids := by
        rintro ⟨grids, opened⟩
        obtain ⟨crystals, made, -⟩ := loadCrystals_of_opened settings opened
        rw [loaded] at made
        cases made
      have some_ : names ≠ [] := by
        rintro rfl
        simp at stops
      rw [stops]
      constructor
      · intro same
        exact .inl (congrArg some (Except.error.inj same))
      · rintro (same | ⟨grids, opened, -⟩ | ⟨none, -⟩)
        · exact congrArg Except.error (Option.some.inj same)
        · exact absurd ⟨grids, opened⟩ unopened
        · exact absurd none some_
  | ok crystals =>
      have opened := opened_of_loadCrystals loaded
      have opens := (findSome?_loadFault?_eq_none_iff settings names).2 ⟨_, opened⟩
      have empty : crystals = [] ↔ names = [] := by
        rw [← List.length_eq_zero_iff, ← List.length_eq_zero_iff, opened.length_eq,
          List.length_map]
      have mapped : (buildScene crystals settings parts).map (fun session =>
          session.script (sceneTitle settings) time) = .error fault ↔
          buildScene crystals settings parts = .error fault := by
        cases buildScene crystals settings parts <;> simp [Except.map]
      dsimp only
      rw [mapped, buildScene_eq_error_iff, empty, opens]
      constructor
      · rintro (refused | lone)
        · exact .inr (.inl ⟨_, opened, refused⟩)
        · exact .inr (.inr lone)
      · rintro (none | ⟨grids, again, refused⟩ | lone)
        · cases none
        · rw [forall₂_opened_unique opened again]
          exact .inl refused
        · exact .inr lone

variable {store names}

theorem rectangular_of_opened {grids : List Grid}
    (opened : List.Forall₂ (Opened store) names grids) :
    ∀ grid ∈ grids, ∀ first ∈ grid.rows, ∀ second ∈ grid.rows,
      first.length = second.length := by
  induction opened with
  | nil => exact nofun
  | cons held _ ih =>
      obtain ⟨text, -, -, same⟩ := held
      exact List.forall_mem_cons.2 ⟨same, ih⟩

/-- Lattices that were opened are refused by the strict policy only, and then the first of them
with a curve at the edge is, for its first such curve. -/
theorem findSome?_refusal?_eq_some_iff {grids : List Grid} {boundary : Boundary} {fault : Fault}
    (opened : List.Forall₂ (Opened store) names grids) :
    grids.findSome? (refusal? boundary) = some fault ↔
      boundary = .reject ∧ ∃ before grid after cell, grids = before ++ grid :: after ∧
        (∀ earlier ∈ before, ¬ earlier.HasEdgeCurve) ∧ grid.firstEdgeCurve? = some cell ∧
        fault = .outsideNeighbour cell.row cell.column := by
  have rectangular := rectangular_of_opened opened
  rw [List.findSome?_eq_some_iff]
  constructor
  · rintro ⟨before, grid, after, rfl, refused, taken⟩
    rw [Compiler.refusal?_of_rectangular (rectangular grid (by simp))] at refused
    cases boundary with
    | empty => cases refused
    | reject =>
        obtain ⟨cell, first, rfl⟩ := Option.map_eq_some_iff.1 refused
        refine ⟨rfl, before, grid, after, cell, rfl, fun earlier member => ?_, first, rfl⟩
        have none := taken earlier member
        rw [Compiler.refusal?_eq_none_iff (rectangular earlier (by simp [member]))] at none
        exact none rfl
  · rintro ⟨rfl, before, grid, after, cell, rfl, taken, first, rfl⟩
    refine ⟨before, grid, after, rfl, ?_, fun earlier member => ?_⟩
    · rw [Compiler.refusal?_of_rectangular (rectangular grid (by simp)), first]
      rfl
    · rw [Compiler.refusal?_eq_none_iff (rectangular earlier (by simp [member]))]
      exact fun _ => taken earlier member

/-- A scene without a fault in any stage is made. -/
theorem sceneScript_eq_ok_iff :
    (∃ script, sceneScript store names settings parts time = .ok script) ↔
      (∃ grids, List.Forall₂ (Opened store) names grids ∧
        ∀ grid ∈ grids, refusal? settings.boundary grid = none) ∧
      (names = [] → parts.placing? = none) := by
  have refused := sceneScript_eq_error_iff store names settings parts time
  constructor
  · rintro ⟨script, made⟩
    have unrefused : ∀ fault, sceneScript store names settings parts time ≠ .error fault := by
      intro fault stopped
      rw [made] at stopped
      cases stopped
    have opens : names.findSome? (loadFault? store settings) = none :=
      Option.eq_none_iff_forall_ne_some.2 fun fault stops =>
        unrefused fault ((refused fault).2 (.inl stops))
    obtain ⟨grids, opened⟩ := (findSome?_loadFault?_eq_none_iff settings names).1 opens
    have taken : grids.findSome? (refusal? settings.boundary) = none :=
      Option.eq_none_iff_forall_ne_some.2 fun fault stops =>
        unrefused fault ((refused fault).2 (.inr (.inl ⟨grids, opened, stops⟩)))
    refine ⟨⟨grids, opened, List.findSome?_eq_none_iff.1 taken⟩, fun none => ?_⟩
    refine Option.eq_none_iff_forall_ne_some.2 fun placing needs => ?_
    exact unrefused (.noCrystals placing) ((refused _).2 (.inr (.inr ⟨none, by rw [needs]; rfl⟩)))
  · rintro ⟨⟨grids, opened, taken⟩, lone⟩
    cases outcome : sceneScript store names settings parts time with
    | ok script => exact ⟨script, rfl⟩
    | error fault =>
        exfalso
        rcases (refused fault).1 outcome with stops | ⟨others, again, stops⟩ | ⟨none, needs⟩
        · rw [(findSome?_loadFault?_eq_none_iff settings names).2 ⟨grids, opened⟩] at stops
          cases stops
        · rw [← forall₂_opened_unique opened again, List.findSome?_eq_none_iff.2 taken] at stops
          cases stops
        · rw [lone none] at needs
          cases needs

end Stored

/-- When a scene of stored lattices is made, and why it is not otherwise.  It is made exactly if
every name can be opened, no lattice has a curve at its edge where the policy is strict, and
there is a name or nothing to be put around the crystals.  Otherwise the first name that cannot
be opened counts, whatever the lattices before it are like; then the first lattice with a curve
at the edge; and then the first part that needs a crystal. -/
theorem scene_made_or_refused {σ : Type} [LatticeStore σ] (store : σ) (names : List String)
    (settings : Settings) (parts : SceneParts) (time : String) :
    ((∃ script, sceneScript store names settings parts time = .ok script) ↔
      (∀ name ∈ names, ∃ grid, Opened store name grid ∧
        (settings.boundary = .reject → ¬ grid.HasEdgeCurve)) ∧
      (names ≠ [] ∨ parts.base = false ∧ parts.sources = false ∧ parts.monitors = false ∧
        parts.analysis = false)) ∧
    (∀ fault, sceneScript store names settings parts time = .error fault ↔
      (∃ before name after, names = before ++ name :: after ∧
        (∀ earlier ∈ before, ∃ grid, Opened store earlier grid) ∧
        Crystal.load store name settings.latticeConstant settings.depth = .error fault) ∨
      (∃ grids, List.Forall₂ (Opened store) names grids ∧ settings.boundary = .reject ∧
        ∃ before grid after cell, grids = before ++ grid :: after ∧
          (∀ earlier ∈ before, ¬ earlier.HasEdgeCurve) ∧ grid.firstEdgeCurve? = some cell ∧
          fault = .outsideNeighbour cell.row cell.column) ∨
      names = [] ∧ parts.placing?.map Fault.noCrystals = some fault) ∧
    (settings.boundary = .empty → ∀ crystals, loadCrystals store settings names = .ok crystals →
      ∀ crystal ∈ crystals,
        (Compiler.compile { boundary := settings.boundary } crystal).result =
          .ok (reference crystal)) ∧
    ∀ (archive : Archive) (name text : String), LatticeStore.load archive name = .ok text ↔
      ∃ content, archive.files.find archive.home (archive.modelPath name) = .ok (.file content) ∧
        String.fromUTF8? content = some text := by
  refine ⟨?_, fun fault => ?_, fun lenient crystals loaded crystal member => ?_,
    Archive.load_eq_ok_iff⟩
  · rw [sceneScript_eq_ok_iff, forall_opened_iff]
    refine and_congr (exists_congr fun grids => and_congr_right fun opened => ?_) ?_
    · exact forall₂_congr fun grid member =>
        Compiler.refusal?_eq_none_iff (rectangular_of_opened opened grid member) _
    · rw [SceneParts.placing?_eq_none_iff, or_iff_not_imp_left, not_not]
  · rw [sceneScript_eq_error_iff, List.findSome?_eq_some_iff]
    refine or_congr ?_ (or_congr_left ?_)
    · refine exists_congr fun before => exists_congr fun name => exists_congr fun after => ?_
      rw [loadFault?_eq_some_iff, and_comm (a := Crystal.load _ _ _ _ = _)]
      simp only [loadFault?_eq_none_iff]
    · exact exists_congr fun grids => and_congr_right fun opened =>
        findSome?_refusal?_eq_some_iff opened
  · rw [lenient]
    have opened := opened_of_loadCrystals loaded
    have rectangular := rectangular_of_opened opened crystal.grid (List.mem_map_of_mem member)
    have checked := Grid.check_of_rectangular rectangular
    exact Compiler.result_compile_lenient { boundary := .empty } checked

/-- An archive with two lattices; one of them has a curve at its edge. -/
def Archive.sketches : Archive where
  files := ⟨[(["plain_crystal_model.txt"], .file "0 0 \n".toUTF8),
    (["bend_crystal_model.txt"], .file "c 0 \n".toUTF8)]⟩
  home := []
  directory := ""

/-- A name without a lattice counts before the curve of the lattice in front of it, and the curve
before everything behind it; the lenient policy takes the curve. -/
theorem scene_made_or_refused_in_order :
    let strict : Settings := { boundary := .reject }
    (∃ script, sceneScript Archive.sketches ["plain", "plain"] strict {} "" = .ok script) ∧
    sceneScript Archive.sketches ["bend", "absent"] strict {} "" =
      .error (.missingModel "absent" "\"absent_crystal_model.txt\"") ∧
    sceneScript Archive.sketches ["plain", "bend"] strict {} "" = .error (.outsideNeighbour 0 0) ∧
    sceneScript Archive.sketches [] strict { base := false } "" = .error (.noCrystals .sources) ∧
    ∃ crystal, loadCrystals Archive.sketches {} ["bend"] = .ok [crystal] ∧
      (Compiler.compile { boundary := .empty } crystal).result = .ok (reference crystal) := by
  intro strict
  have plain : Opened Archive.sketches "plain" (Grid.ofText "0 0 \n") := by
    rw [← Grid.load_eq_ok_iff_opened]
    decide +kernel
  have bend : Opened Archive.sketches "bend" (Grid.ofText "c 0 \n") := by
    rw [← Grid.load_eq_ok_iff_opened]
    decide +kernel
  have straight : ¬ (Grid.ofText "0 0 \n").HasEdgeCurve := by
    rw [← Grid.firstEdgeCurve?_eq_none_iff]
    decide +kernel
  obtain ⟨made, -⟩ := scene_made_or_refused Archive.sketches ["plain", "plain"] strict {} ""
  obtain ⟨-, absent, -⟩ := scene_made_or_refused Archive.sketches ["bend", "absent"] strict {} ""
  obtain ⟨-, curved, -⟩ := scene_made_or_refused Archive.sketches ["plain", "bend"] strict {} ""
  obtain ⟨-, empty, -⟩ := scene_made_or_refused Archive.sketches [] strict { base := false } ""
  obtain ⟨-, -, lenient, -⟩ := scene_made_or_refused Archive.sketches ["bend"] {} {} ""
  refine ⟨made.2 ⟨?_, .inl (by simp)⟩, (absent _).2 (.inl ?_), (curved _).2 (.inr (.inl ?_)),
    (empty _).2 (.inr (.inr ⟨rfl, rfl⟩)), ?_⟩
  · intro name member
    obtain rfl : name = "plain" := by simpa using member
    exact ⟨_, plain, fun _ => straight⟩
  · have missing : Grid.load Archive.sketches "absent" =
        .error (.missingModel "absent" "\"absent_crystal_model.txt\"") := by
      decide +kernel
    refine ⟨["bend"], "absent", [], rfl, by simpa using ⟨_, bend⟩, ?_⟩
    rw [Crystal.load, missing]
    rfl
  · obtain ⟨cell, first, rows, columns⟩ : ∃ cell,
        (Grid.ofText "c 0 \n").firstEdgeCurve? = some cell ∧ cell.row = 0 ∧ cell.column = 0 := by
      decide +kernel
    refine ⟨_, .cons plain (.cons bend .nil), rfl, [_], _, [], cell, rfl, ?_, first, ?_⟩
    · simpa using straight
    · rw [rows, columns]
  · obtain ⟨crystals, loaded, drawn⟩ :=
      loadCrystals_of_opened {} (.cons bend .nil)
    obtain ⟨crystal, rfl⟩ := List.length_eq_one_iff.1 (by simpa using congrArg List.length drawn)
    exact ⟨crystal, loaded, lenient rfl _ loaded crystal (by simp)⟩

end LatticeSketch
