/-
# LatticeSketch.Proofs.Scene.Groups -- which crystals of a scene keep their structure group

Objects are replaced by name, across all kinds.  A crystal therefore keeps its group unless a
later object of the scene has its name: a later crystal, the base, a source, a monitor or an
analysis object (`partNames`).  The groups alive in a scene are those of the crystals that
are left (`lasting`); its width counts every crystal, replaced or not
(`groups_of_buildScene`).
-/
import LatticeSketch.Proofs.Scene.Plan

namespace LatticeSketch

set_option autoImplicit false

open CellByCell (reference)

/-- The crystals whose name neither a later one has nor one of `names`. -/
def lasting (names : List String) : List Crystal → List Crystal
  | [] => []
  | crystal :: rest =>
      if crystal.name ∈ rest.map Crystal.name ∨ crystal.name ∈ names then lasting names rest
      else crystal :: lasting names rest

/-- The names of `count` numbered devices. -/
def deviceNames (label : String) (count : Nat) : List String :=
  (List.range count).map fun number => label ++ (number + 1).repr

/-- The number of cells of a crystal with a site of the given kind. -/
def siteCount (kind : Site → Bool) (crystal : Crystal) : Nat :=
  crystal.grid.drawnCells.countP fun cell => kind cell.site

/-- The names of the analysis objects that the settings ask for. -/
def analysisNames (settings : AnalysisSettings) (movie : Bool) : List String :=
  (if settings.fdtdRegion then ["FDTD"] else []) ++
    (if settings.fieldMonitor then ["field_monitor"] else []) ++
    (if settings.indexMonitor then ["dielectric_monitor"] else []) ++
    (if movie then ["movie"] else [])

/-- The names of the objects behind the groups of a scene with crystals. -/
def partNames (settings : Settings) (parts : SceneParts) (crystals : List Crystal) :
    List String :=
  (if parts.base then ["base"] else []) ++
    (if parts.sources then
      deviceNames "source_" ((crystals.head?.map (siteCount Site.isSource)).getD 0) else []) ++
    (if parts.monitors then
      deviceNames "monitor_" ((crystals.getLast?.map (siteCount Site.isMonitor)).getD 0)
      else []) ++
    (if parts.analysis then analysisNames settings.analysis parts.movie else [])

/-- Whether an object is a structure group. -/
def SceneObject.isGroup (object : SceneObject) : Bool :=
  object.kind == .structureGroup

/-! ## Lasting crystals -/

theorem length_lasting_le (names : List String) (crystals : List Crystal) :
    (lasting names crystals).length ≤ crystals.length := by
  induction crystals with
  | nil => exact Nat.le_refl _
  | cons crystal rest ih =>
      rw [lasting]
      split
      · exact Nat.le_succ_of_le ih
      · exact Nat.succ_le_succ ih

/-- All crystals last exactly when their names are distinct and none of `names`. -/
theorem length_lasting_eq_iff (names : List String) (crystals : List Crystal) :
    (lasting names crystals).length = crystals.length ↔
      (crystals.map Crystal.name).Nodup ∧ ∀ crystal ∈ crystals, crystal.name ∉ names := by
  induction crystals with
  | nil => simp [lasting]
  | cons crystal rest ih =>
      have le := length_lasting_le names rest
      rw [lasting, List.map_cons, List.nodup_cons, List.forall_mem_cons]
      by_cases replaced : crystal.name ∈ rest.map Crystal.name ∨ crystal.name ∈ names
      · rw [if_pos replaced]
        refine iff_of_false ?_ ?_
        · rw [List.length_cons]
          omega
        · rintro ⟨⟨apart, -⟩, free, -⟩
          exact replaced.elim apart free
      · rw [if_neg replaced, List.length_cons, List.length_cons, Nat.succ_inj, ih]
        rw [not_or] at replaced
        constructor
        · rintro ⟨distinct, free⟩
          exact ⟨⟨replaced.1, distinct⟩, replaced.2, free⟩
        · rintro ⟨⟨-, distinct⟩, -, free⟩
          exact ⟨distinct, free⟩

/-- The last groups of each name, without those of `names`, are the groups of the lasting
crystals. -/
theorem without_lastOfNames_groups (names : List String) (crystals : List Crystal) :
    without names (lastOfNames (crystals.map sceneGroup)) =
      (lasting names crystals).map sceneGroup := by
  have named : ∀ crystal, (sceneGroup crystal).name = crystal.name := fun _ => rfl
  induction crystals with
  | nil => rfl
  | cons crystal rest ih =>
      have same : (rest.map sceneGroup).map SceneObject.name = rest.map Crystal.name := by
        rw [List.map_map]
        rfl
      rw [List.map_cons, lastOfNames, lasting, same, named]
      by_cases later : crystal.name ∈ rest.map Crystal.name
      · rw [if_pos later, if_pos (Or.inl later), ih]
      · rw [if_neg later]
        by_cases part : crystal.name ∈ names
        · rw [if_pos (Or.inr part), without, List.filter_cons_of_neg (by simpa [named] using part)]
          exact ih
        · rw [if_neg (not_or.2 ⟨later, part⟩), without,
            List.filter_cons_of_pos (by simpa [named] using part), List.map_cons]
          exact congrArg _ ih

/-! ## Parts -/

theorem map_index_devices (label : String) (kind : Site → Bool) (position : Cell → Point)
    (cells : List Cell) :
    ((CellByCell.devices kind position cells).map fun placement =>
        label ++ placement.index.repr) =
      deviceNames label (cells.countP fun cell => kind cell.site) := by
  rw [CellByCell.devices, List.map_map, deviceNames, List.countP_eq_length_filter]
  have numbers := List.zipIdx_map_snd 1 (cells.filter fun cell => kind cell.site)
  rw [List.range'_eq_map_range] at numbers
  have names := congrArg (List.map fun number : Nat => label ++ number.repr) numbers
  rw [List.map_map, List.map_map] at names
  refine names.trans (List.map_congr_left fun number _ => ?_)
  simp [Nat.add_comm]

theorem map_name_regions (cover : Cover) (settings : AnalysisSettings) (movie : Bool) :
    (cover.regions settings movie).map SceneObject.name = analysisNames settings movie := by
  unfold Cover.regions analysisNames
  cases settings.fdtdRegion <;> cases settings.fieldMonitor <;> cases settings.indexMonitor <;>
    cases movie <;> rfl

section Names

variable (settings : Settings) (layout : Layout)

theorem map_name_sources :
    (layout.objects settings .sources).map SceneObject.name =
      deviceNames "source_" ((layout.crystals.head?.map (siteCount Site.isSource)).getD 0) := by
  unfold Layout.objects
  cases layout.crystals.head? with
  | none => rfl
  | some crystal =>
      simp only [Option.elim_some, sceneSources, List.map_map, Option.map_some, Option.getD_some]
      exact map_index_devices "source_" Site.isSource
        (fun cell => CellByCell.place crystal cell.row cell.column) crystal.grid.drawnCells

theorem map_name_monitors :
    (layout.objects settings .monitors).map SceneObject.name =
      deviceNames "monitor_" ((layout.crystals.getLast?.map (siteCount Site.isMonitor)).getD 0) := by
  unfold Layout.objects
  cases layout.crystals.getLast? with
  | none => rfl
  | some crystal =>
      simp only [Option.elim_some, sceneMonitors, List.map_map, Option.map_some, Option.getD_some]
      exact map_index_devices "monitor_" Site.isMonitor
        (fun cell => (CellByCell.place crystal cell.row cell.column).add ⟨crystal.left, 0⟩)
        crystal.grid.drawnCells

theorem map_name_spanning (objects : Float → Float → List SceneObject) {names : List String}
    (named : ∀ width height, (objects width height).map SceneObject.name = names)
    (some_ : layout.crystals ≠ []) : (layout.spanning objects).map SceneObject.name = names := by
  unfold Layout.spanning
  cases last : layout.crystals.getLast? with
  | none => exact absurd (List.getLast?_eq_none_iff.1 last) some_
  | some crystal => exact named _ _

end Names

theorem siteCount_placedFrom (kind : Site → Bool) (left : Float) (crystals : List Crystal) :
    (placedFrom left crystals).map (siteCount kind) = crystals.map (siteCount kind) :=
  map_placedFrom (siteCount kind) (fun _ _ => rfl) left crystals

/-- The names of the objects behind the groups. -/
theorem map_name_partObjects (settings : Settings) (parts : SceneParts) {crystals : List Crystal}
    (some_ : crystals ≠ []) :
    ((Layout.ofCrystals crystals).partObjects settings parts).map SceneObject.name =
      partNames settings parts crystals := by
  have placed : (Layout.ofCrystals crystals).crystals ≠ [] := by
    intro none
    have same := map_placedFrom (fun _ => ()) (fun _ _ => rfl) 0 crystals
    have empty : placedFrom 0 crystals = [] := none
    rw [empty] at same
    exact some_ (List.map_eq_nil_iff.1 same.symm)
  have first := congrArg List.head? (siteCount_placedFrom Site.isSource 0 crystals)
  have last := congrArg List.getLast? (siteCount_placedFrom Site.isMonitor 0 crystals)
  rw [List.head?_map, List.head?_map] at first
  rw [List.getLast?_map, List.getLast?_map] at last
  have base : ((Layout.ofCrystals crystals).objects settings .base).map SceneObject.name =
      ["base"] :=
    map_name_spanning _
      (fun width height => [(Cover.around settings width height).base settings.base])
      (fun _ _ => rfl) placed
  have sources := map_name_sources settings (Layout.ofCrystals crystals)
  have monitors := map_name_monitors settings (Layout.ofCrystals crystals)
  have analysis : ((Layout.ofCrystals crystals).objects settings (.analysis parts.movie)).map
      SceneObject.name = analysisNames settings.analysis parts.movie :=
    map_name_spanning _
      (fun width height => (Cover.around settings width height).regions settings.analysis parts.movie)
      (fun _ _ => map_name_regions _ _ _) placed
  have standing : (Layout.ofCrystals crystals).crystals = placedFrom 0 crystals := rfl
  rw [standing] at sources monitors
  rw [first] at sources
  rw [last] at monitors
  simp only [Layout.partObjects, partNames, List.map_append, apply_ite (List.map SceneObject.name),
    base, sources, monitors, analysis, List.map_nil]

/-- Only a crystal brings a structure group. -/
theorem isGroup_objects (settings : Settings) (layout : Layout) {step : Step}
    (other : ∀ crystal, step ≠ .crystal crystal) :
    ∀ object ∈ layout.objects settings step, object.isGroup = false := by
  intro object member
  have kind := kind_objects settings layout step object member
  have apart : ObjectKind.structureGroup ∉ step.kinds := by
    cases step with
    | crystal crystal => exact absurd rfl (other crystal)
    | base | sources | monitors | analysis => simp [Step.kinds]
  rw [SceneObject.isGroup, beq_eq_false_iff_ne]
  intro same
  exact apart (same ▸ kind)

theorem isGroup_partObjects (settings : Settings) (parts : SceneParts) (layout : Layout) :
    ∀ object ∈ layout.partObjects settings parts, object.isGroup = false := by
  intro object member
  simp only [Layout.partObjects, List.mem_append, List.mem_ite_nil_right] at member
  rcases member with ((⟨-, member⟩ | ⟨-, member⟩) | ⟨-, member⟩) | ⟨-, member⟩ <;>
    exact isGroup_objects settings layout (by simp) object member

/-! ## Whole scenes -/

theorem isGroup_of_mem_lastOfNames {objects : List SceneObject} {value : Bool}
    (all : ∀ object ∈ objects, object.isGroup = value) :
    ∀ object ∈ lastOfNames objects, object.isGroup = value := by
  induction objects with
  | nil => simp [lastOfNames]
  | cons object rest ih =>
      rw [List.forall_mem_cons] at all
      rw [lastOfNames]
      split
      · exact ih all.2
      · rw [List.forall_mem_cons]
        exact ⟨all.1, ih all.2⟩

/-- The groups among the objects of a series that begins with all groups. -/
theorem groups_of_upsertAll (crystals : List Crystal) {others : List SceneObject}
    (plain : ∀ object ∈ others, object.isGroup = false) :
    (Session.fresh.upsertAll (crystals.map sceneGroup ++ others)).objects.filter
        SceneObject.isGroup =
      (lasting (others.map SceneObject.name) crystals).map sceneGroup := by
  have behind : (lastOfNames others).filter SceneObject.isGroup = [] := by
    rw [List.filter_eq_nil_iff]
    intro object member
    simp [isGroup_of_mem_lastOfNames plain object member]
  rw [Session.objects_upsertAll_fresh, lastOfNames_append, List.filter_append, behind,
    List.append_nil, without_lastOfNames_groups, List.filter_eq_self]
  intro object member
  obtain ⟨crystal, -, rfl⟩ := List.mem_map.1 member
  rfl

theorem lasting_congr {first second : List String} {crystals : List Crystal}
    (same : crystals ≠ [] → first = second) :
    lasting first crystals = lasting second crystals := by
  cases crystals with
  | nil => rfl
  | cons crystal rest => rw [same (by simp)]

section Built

variable {crystals : List Crystal} {settings : Settings} {parts : SceneParts} {session : Session}
  (built : buildScene crystals settings parts = .ok session)

include built

/-- The groups alive in a scene are those of the lasting crystals. -/
theorem groups_eq_lasting :
    session.objects.filter SceneObject.isGroup =
      (lasting (partNames settings parts crystals) (placedFrom 0 crystals)).map sceneGroup := by
  obtain ⟨-, -, -, -, upserted, -⟩ := buildScene_of_ok built
  rw [upserted, groups_of_upsertAll _ (isGroup_partObjects settings parts _)]
  refine congrArg _ (lasting_congr fun some_ => map_name_partObjects settings parts ?_)
  rintro rfl
  exact some_ rfl

/-- No group is missing exactly when no name is used twice. -/
theorem length_groups_eq_iff :
    (session.objects.filter SceneObject.isGroup).length = crystals.length ↔
      (crystals.map Crystal.name).Nodup ∧
        ∀ crystal ∈ crystals, crystal.name ∉ partNames settings parts crystals := by
  have names := map_placedFrom Crystal.name (fun _ _ => rfl) 0 crystals
  have count : (placedFrom 0 crystals).length = crystals.length := by
    simpa using congrArg List.length names
  have every : ∀ others : List Crystal,
      (∀ crystal ∈ others, crystal.name ∉ partNames settings parts crystals) ↔
        ∀ name ∈ others.map Crystal.name, name ∉ partNames settings parts crystals := by
    intro others
    rw [List.forall_mem_map]
  rw [groups_eq_lasting built, List.length_map, ← count, length_lasting_eq_iff, every, every, names]

end Built

/-- In a scene that is built every crystal compiles where it stands.  The groups alive are those
of the crystals that last; they are as many as there are crystals exactly when the names of
these are distinct and none that a part has.  The width counts all of them. -/
theorem groups_of_buildScene {crystals : List Crystal} {settings : Settings} {parts : SceneParts}
    {session : Session} (built : buildScene crystals settings parts = .ok session) :
    (∀ crystal ∈ placedFrom 0 crystals,
      (Compiler.compile { boundary := settings.boundary } crystal).result =
        .ok (reference crystal)) ∧
    session.objects.filter SceneObject.isGroup =
      (lasting (partNames settings parts crystals) (placedFrom 0 crystals)).map sceneGroup ∧
    ((session.objects.filter SceneObject.isGroup).length = crystals.length ↔
      (crystals.map Crystal.name).Nodup ∧
        ∀ crystal ∈ crystals, crystal.name ∉ partNames settings parts crystals) ∧
    ∃ assembly,
      (Assembly.start .fresh settings).performAll (parts.steps crystals) = .ok assembly ∧
      assembly.session = session ∧ assembly.crystals = placedFrom 0 crystals ∧
      assembly.width = crystals.foldl (fun width crystal =>
        width + crystal.columns.toFloat * crystal.latticeConstant) 0 := by
  obtain ⟨assembly, done, same, layout, -, compiles⟩ := buildScene_of_ok built
  exact ⟨compiles, groups_eq_lasting built, length_groups_eq_iff built, assembly, done, same,
    congrArg Layout.crystals layout, congrArg Layout.width layout⟩

/-- Two crystals of one row each. -/
def twoCrystals (first second : String) : List Crystal :=
  [⟨first, 1, 1, Grid.ofText "0 s \n", 0⟩, ⟨second, 1, 1, Grid.ofText "m 0 \n", 0⟩]

theorem exists_of_isOk {ε α : Type} {value : Except ε α} (succeeds : value.isOk = true) :
    ∃ result, value = .ok result := by
  cases value with
  | error fault => cases succeeds
  | ok result => exact ⟨result, rfl⟩

/-- A whole scene in which both crystals last. -/
theorem groups_of_buildScene_two :
    ∃ session, buildScene (twoCrystals "a" "b") {} {} = .ok session ∧
      (session.objects.filter SceneObject.isGroup).length = 2 := by
  obtain ⟨session, built⟩ : ∃ session, buildScene (twoCrystals "a" "b") {} {} = .ok session :=
    exists_of_isOk (by decide +kernel)
  obtain ⟨-, -, counted, -⟩ := groups_of_buildScene built
  exact ⟨session, built, counted.2 ⟨by decide +kernel, by decide +kernel⟩⟩

/-- Of two crystals with one name the first loses its group. -/
theorem not_groups_for_all :
    ¬ ∀ (crystals : List Crystal) (settings : Settings) (parts : SceneParts) (session : Session),
      buildScene crystals settings parts = .ok session →
        (session.objects.filter SceneObject.isGroup).length = crystals.length := by
  intro kept
  obtain ⟨session, built⟩ : ∃ session, buildScene (twoCrystals "a" "a") {} {} = .ok session :=
    exists_of_isOk (by decide +kernel)
  have distinct := ((length_groups_eq_iff built).1 (kept _ _ _ session built)).1
  exact absurd distinct (by decide +kernel)

end LatticeSketch
