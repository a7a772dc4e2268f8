/-
# LatticeSketch.Proofs.Scene.Ordering -- the parts of a scene in any order

The steps that add the base, the sources, the monitors and the analysis regions place no crystal.
So each of them sees the crystals that stood before the first of them: it answers the same and puts
in the same objects in whatever order they are carried out (`answers_of_parts`,
`writes_of_parts`).

All objects that they put in have names of their own (`nodup_partNames`).  Upserts of objects
with distinct names commute, whatever the session held under these names before, so any two orders
leave the same objects alive (`parts_in_any_order`).
-/
import LatticeSketch.Proofs.Scene.Alignment
import LatticeSketch.Proofs.Scene.Devices
import Mathlib.Data.List.Nodup

namespace LatticeSketch

set_option autoImplicit false

open CellByCell (reference)

/-! ## Upserts in any order -/

theorem without_congr {names names' : List String} (same : ∀ name, name ∈ names ↔ name ∈ names')
    (objects : List SceneObject) : without names objects = without names' objects := by
  refine List.filter_congr fun object _ => ?_
  simp only [same]

/-- Objects of distinct names may be put in in any order. -/
theorem Session.objects_upsertAll_perm (session : Session) {first second : List SceneObject}
    (distinct : (first.map SceneObject.name).Nodup) (perm : first.Perm second) :
    (session.upsertAll first).objects.Perm (session.upsertAll second).objects := by
  have names := perm.map SceneObject.name
  have left : without (first.map SceneObject.name) session.objects =
      without (second.map SceneObject.name) session.objects :=
    without_congr (fun _ => names.mem_iff) _
  rw [objects_upsertAll, objects_upsertAll, lastOfNames_of_nodup distinct,
    lastOfNames_of_nodup (names.nodup_iff.1 distinct), left]
  exact perm.append_left _

/-! ## Names of parts -/

/-- Names are distinct if they do not begin alike. -/
theorem disjoint_of_take {first second : List String} {openings openings' : List (List Char)}
    (opens : ∀ name ∈ first, name.toList.take 4 ∈ openings)
    (opens' : ∀ name ∈ second, name.toList.take 4 ∈ openings')
    (apart : ∀ opening ∈ openings, opening ∉ openings') : first.Disjoint second := by
  intro name inFirst inSecond
  exact apart _ (opens name inFirst) (opens' name inSecond)

theorem take_deviceNames {label : String} (long : 4 ≤ label.toList.length) (count : Nat) :
    ∀ name ∈ deviceNames label count, name.toList.take 4 ∈ [label.toList.take 4] := by
  intro name member
  obtain ⟨number, -, rfl⟩ := List.mem_map.1 member
  rw [String.toList_append, List.take_append_of_le_length long]
  exact List.mem_singleton_self _

/-- The analysis names are some of four, in this order. -/
theorem analysisNames_sublist (settings : AnalysisSettings) (movie : Bool) :
    (analysisNames settings movie).Sublist
      ["FDTD", "field_monitor", "dielectric_monitor", "movie"] := by
  unfold analysisNames
  cases settings.fdtdRegion <;> cases settings.fieldMonitor <;> cases settings.indexMonitor <;>
    cases movie <;> decide

theorem take_analysisNames (settings : AnalysisSettings) (movie : Bool) :
    ∀ name ∈ analysisNames settings movie, name.toList.take 4 ∈
      ["FDTD".toList, "fiel".toList, "diel".toList, "movi".toList] := by
  intro name member
  have all : ∀ name ∈ ["FDTD", "field_monitor", "dielectric_monitor", "movie"],
      name.toList.take 4 ∈ ["FDTD".toList, "fiel".toList, "diel".toList, "movi".toList] := by
    decide
  exact all name ((analysisNames_sublist settings movie).subset member)

/-- No two parts of a scene have one name, however many devices it has. -/
theorem nodup_partNames (settings : AnalysisSettings) (movie : Bool) (sources monitors : Nat) :
    (["base"] ++ (deviceNames "source_" sources ++
      (deviceNames "monitor_" monitors ++ analysisNames settings movie))).Nodup := by
  have analysis := take_analysisNames settings movie
  have source := take_deviceNames (show 4 ≤ "source_".toList.length by decide) sources
  have monitor := take_deviceNames (show 4 ≤ "monitor_".toList.length by decide) monitors
  have regions : (analysisNames settings movie).Nodup :=
    (show ["FDTD", "field_monitor", "dielectric_monitor", "movie"].Nodup by decide).sublist
      (analysisNames_sublist settings movie)
  have behindMonitors := (nodup_deviceNames "monitor_" monitors).append regions
    (disjoint_of_take monitor analysis (by decide))
  have behindSources := (nodup_deviceNames "source_" sources).append behindMonitors
    (List.disjoint_append_right.2 ⟨disjoint_of_take source monitor (by decide),
      disjoint_of_take source analysis (by decide)⟩)
  have base : ∀ name ∈ ["base"], name.toList.take 4 ∈ ["base".toList] := by decide
  exact (List.nodup_singleton "base").append behindSources
    (List.disjoint_append_right.2 ⟨disjoint_of_take base source (by decide),
      List.disjoint_append_right.2 ⟨disjoint_of_take base monitor (by decide),
        disjoint_of_take base analysis (by decide)⟩⟩)

/-! ## Steps that place no crystal -/

/-- The steps that add the parts of a scene. -/
def partSteps (movie : Bool) : List Step :=
  [.base, .sources, .monitors, .analysis movie]

namespace Assembly

/-- The answers of steps that are carried out whatever becomes of them, each with its step. -/
def answers (assembly : Assembly) : List Step → List (Step × Except Fault Reply)
  | [] => []
  | step :: rest =>
      (step, (assembly.perform step).result) :: (assembly.perform step).assembly.answers rest

variable {assembly : Assembly} {step : Step} {steps : List Step}

/-- A step that places no crystal leaves an assembly that stands alike. -/
theorem alike_of_part (part : step.placing? ≠ none) :
    Alike (assembly.perform step).assembly assembly := by
  refine ⟨?_, settings_perform _ _, boundary_perform _ _⟩
  cases made : (assembly.perform step).result with
  | error fault => exact layout_of_error made
  | ok reply =>
      rw [(perform_of_ok made).layout]
      cases step with
      | crystal crystal => exact absurd rfl part
      | base | sources | monitors | analysis => rfl

section Parts

variable (parts : ∀ step ∈ steps, step.placing? ≠ none)

include parts

/-- Each step of a run without crystals answers what it would answer as the first. -/
theorem answers_of_parts :
    assembly.answers steps = steps.map fun step => (step, (assembly.perform step).result) := by
  induction steps generalizing assembly with
  | nil => rfl
  | cons step rest ih =>
      rw [List.forall_mem_cons] at parts
      have alike : Alike (assembly.perform step).assembly assembly := alike_of_part parts.1
      rw [answers, ih parts.2, List.map_cons]
      simp only [alike.result]

/-- Each step of a run without crystals puts in what it would put in as the first. -/
theorem writes_of_parts : assembly.writes steps = steps.flatMap assembly.written := by
  induction steps generalizing assembly with
  | nil => rfl
  | cons step rest ih =>
      rw [List.forall_mem_cons] at parts
      have alike : Alike (assembly.perform step).assembly assembly := alike_of_part parts.1
      have same : (assembly.perform step).assembly.written = assembly.written :=
        funext alike.written
      rw [writes, ih parts.2, List.flatMap_cons, same]

end Parts

/-! ## Parts behind crystals -/

section Standing

variable (sound : assembly.Sound) (placed : assembly.crystals ≠ [])

include sound placed

/-- Behind a crystal every part can be added. -/
theorem perform_part_eq_ok (part : step.placing? ≠ none) :
    ∃ reply, (assembly.perform step).result = .ok reply := by
  obtain ⟨placing, needs⟩ := Option.ne_none_iff_exists'.1 part
  cases made : (assembly.perform step).result with
  | ok reply => exact ⟨reply, rfl⟩
  | error fault => exact absurd ((perform_eq_error_iff sound needs).1 made).1 placed

theorem written_part (part : step.placing? ≠ none) :
    assembly.written step = assembly.layout.objects assembly.settings step := by
  obtain ⟨reply, made⟩ := perform_part_eq_ok sound placed part
  exact written_of_ok made

/-- The parts of a scene put in objects of distinct names. -/
theorem nodup_writes_parts (movie : Bool) :
    (((partSteps movie).flatMap assembly.written).map SceneObject.name).Nodup := by
  have standing : assembly.layout.crystals ≠ [] := placed
  have base : (assembly.written .base).map SceneObject.name = ["base"] := by
    rw [written_part sound placed (by simp [Step.placing?])]
    exact map_name_spanning _
      (fun width height => [(Cover.around assembly.settings width height).base
        assembly.settings.base]) (fun _ _ => rfl) standing
  have sources := map_name_sources assembly.settings assembly.layout
  have monitors := map_name_monitors assembly.settings assembly.layout
  have analysis : (assembly.written (.analysis movie)).map SceneObject.name =
      analysisNames assembly.settings.analysis movie := by
    rw [written_part sound placed (by simp [Step.placing?])]
    exact map_name_spanning _
      (fun width height => (Cover.around assembly.settings width height).regions
        assembly.settings.analysis movie) (fun _ _ => map_name_regions _ _ _) standing
  rw [← written_part sound placed (by simp [Step.placing?])] at sources monitors
  have names := nodup_partNames assembly.settings.analysis movie
    ((assembly.layout.crystals.head?.map (siteCount Site.isSource)).getD 0)
    ((assembly.layout.crystals.getLast?.map (siteCount Site.isMonitor)).getD 0)
  rw [← base, ← sources, ← monitors, ← analysis] at names
  simpa [partSteps] using names

end Standing

theorem placing?_of_perm {order : List Step} {movie : Bool} (perm : order.Perm (partSteps movie)) :
    ∀ step ∈ order, step.placing? ≠ none := by
  intro step member
  have part := perm.mem_iff.1 member
  simp only [partSteps, List.mem_cons, List.not_mem_nil, or_false] at part
  rcases part with rfl | rfl | rfl | rfl <;> simp [Step.placing?]

/-- After any steps over any session that have placed a crystal, the base, the sources, the monitors
and the analysis regions can be added in any order: in any two orders each of the four steps
succeeds and answers the same, and the same objects are alive behind them. -/
theorem parts_in_any_order (session : Session) (settings : Settings) (steps : List Step)
    (movie : Bool) (placed : ((start session settings).performEach steps).crystals ≠ [])
    {order order' : List Step} (perm : order.Perm (partSteps movie))
    (perm' : order'.Perm (partSteps movie)) :
    let assembly := (start session settings).performEach steps
    (∀ answer ∈ assembly.answers order, ∃ reply, answer.2 = .ok reply) ∧
    (assembly.answers order).Perm (assembly.answers order') ∧
    (assembly.performEach order).session.objects.Perm
      (assembly.performEach order').session.objects := by
  intro assembly
  have sound : assembly.Sound :=
    (aligned_performEach (aligned_start session settings) steps).sound
  have parts := placing?_of_perm perm
  have parts' := placing?_of_perm perm'
  have same : order.Perm order' := perm.trans perm'.symm
  refine ⟨?_, ?_, ?_⟩
  · rw [answers_of_parts parts, List.forall_mem_map]
    intro step member
    exact perform_part_eq_ok sound placed (parts step member)
  · rw [answers_of_parts parts, answers_of_parts parts']
    exact same.map _
  · rw [session_performEach assembly, session_performEach assembly, writes_of_parts parts,
      writes_of_parts parts']
    refine Session.objects_upsertAll_perm _ ?_ (same.flatMap_right _)
    have names := (perm.flatMap_right assembly.written).map SceneObject.name
    exact names.nodup_iff.2 (nodup_writes_parts sound placed movie)

/-- A session with two monitors of one name in it. -/
def twoLeftovers : Session :=
  (Session.fresh.add ⟨"monitor_1", .powerMonitor, []⟩).add ⟨"monitor_1", .powerMonitor, []⟩

/-- Two crystals with the names of parts, and the movie of an analysis made between them. -/
def namedLikeParts : List Step :=
  [.crystal ⟨"base", 1, 1, Grid.ofText "s 0 \n", 0⟩, .analysis true,
    .crystal ⟨"source_1", 1, 1, Grid.ofText "m m \n", 0⟩]

/-- Over leftovers and crystals that are replaced, the orders differ in the list of objects only. -/
theorem parts_in_any_order_replacing :
    let assembly := (start twoLeftovers {}).performEach namedLikeParts
    let order := [Step.analysis true, .monitors, .sources, .base]
    let order' := [Step.monitors, .base, .analysis true, .sources]
    (assembly.answers order).Perm (assembly.answers order') ∧
      (assembly.performEach order).session.objects.Perm
        (assembly.performEach order').session.objects ∧
      (assembly.performEach order).session.objects ≠
        (assembly.performEach order').session.objects := by
  intro assembly order order'
  have placed : assembly.crystals ≠ [] := by decide +kernel
  have perm : order.Perm (partSteps true) := by decide
  have perm' : order'.Perm (partSteps true) := by decide
  obtain ⟨-, answered, alive⟩ :=
    parts_in_any_order twoLeftovers {} namedLikeParts true placed perm perm'
  refine ⟨answered, alive, ?_⟩
  decide +kernel

end Assembly

end LatticeSketch
