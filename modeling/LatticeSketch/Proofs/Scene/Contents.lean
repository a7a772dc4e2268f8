/-
# LatticeSketch.Proofs.Scene.Contents -- what a whole scene holds

`sceneObjects` lists the objects of a scene without building it: one group for each crystal
where the widths of those before it end, and behind the groups the parts that are asked for.
The base and the analysis regions share one cover, half of the size of the lattice for a
centre and its size with both margins for a span.

A scene that is built has put in exactly these objects, each after a deletion of its name, and
those are left that no later object has the name of (`session_of_buildScene`).
-/
import LatticeSketch.Proofs.Scene.Groups

namespace LatticeSketch

set_option autoImplicit false

open CellByCell (reference)

/-! ## The objects of a scene -/

/-- The parts behind the groups: the base under all crystals, the sources of the first one, the
monitors of the last one and the regions around all of them, whose height is that of the last. -/
def sceneParts (settings : Settings) (parts : SceneParts) (width : Float)
    (first last : Crystal) : List SceneObject :=
  let cover := Cover.around settings width
    ((last.height - 1).toFloat * rowPitch last.latticeConstant)
  (if parts.base then [cover.base settings.base] else []) ++
    (if parts.sources then sceneSources settings first else []) ++
    (if parts.monitors then sceneMonitors settings last else []) ++
    (if parts.analysis then cover.regions settings.analysis parts.movie else [])

/-- All objects of a scene in the order in which they are put in. -/
def sceneObjects (settings : Settings) (parts : SceneParts) (crystals : List Crystal) :
    List SceneObject :=
  let placed := placedFrom 0 crystals
  placed.map sceneGroup ++
    match placed.head?, placed.getLast? with
    | some first, some last => sceneParts settings parts (endFrom 0 crystals) first last
    | _, _ => []

/-! ## Comparison with the plan -/

theorem partObjects_of_placed (settings : Settings) (parts : SceneParts) {layout : Layout}
    {first last : Crystal} (head : layout.crystals.head? = some first)
    (end_ : layout.crystals.getLast? = some last) :
    layout.partObjects settings parts = sceneParts settings parts layout.width first last := by
  simp only [Layout.partObjects, Layout.objects, Layout.spanning, sceneParts, head, end_,
    Option.elim_some]

theorem partObjects_of_empty (settings : Settings) (parts : SceneParts) {layout : Layout}
    (empty : layout.crystals = []) : layout.partObjects settings parts = [] := by
  simp [Layout.partObjects, Layout.objects, Layout.spanning, empty]

/-- The objects of a scene are those of its plan. -/
theorem sceneObjects_eq (settings : Settings) (parts : SceneParts) (crystals : List Crystal) :
    sceneObjects settings parts crystals =
      (placedFrom 0 crystals).map sceneGroup ++
        (Layout.ofCrystals crystals).partObjects settings parts := by
  have standing : (Layout.ofCrystals crystals).crystals = placedFrom 0 crystals := rfl
  unfold sceneObjects
  refine congrArg (List.map sceneGroup (placedFrom 0 crystals) ++ ·) ?_
  cases head : (placedFrom 0 crystals).head? with
  | none =>
      rw [partObjects_of_empty settings parts (standing.trans (List.head?_eq_none_iff.1 head))]
  | some first =>
      cases end_ : (placedFrom 0 crystals).getLast? with
      | none =>
          rw [partObjects_of_empty settings parts
            (standing.trans (List.getLast?_eq_none_iff.1 end_))]
      | some last =>
          rw [← standing] at head end_
          rw [partObjects_of_placed settings parts head end_]
          rfl

/-! ## Whole scenes -/

/-- In a scene that is built every crystal compiles where it stands.  The session has recorded
the objects of the scene one after the other, each behind a deletion of its name, and alive are
those of them that no later one has the name of. -/
theorem session_of_buildScene {crystals : List Crystal} {settings : Settings} {parts : SceneParts}
    {session : Session} (built : buildScene crystals settings parts = .ok session) :
    (∀ crystal ∈ placedFrom 0 crystals,
      (Compiler.compile { boundary := settings.boundary } crystal).result =
        .ok (reference crystal)) ∧
    session.commands = (sceneObjects settings parts crystals).flatMap (fun object =>
      [.delete object.name, .add object]) ∧
    session.objects = lastOfNames (sceneObjects settings parts crystals) := by
  obtain ⟨-, -, -, -, upserted, compiles⟩ := buildScene_of_ok built
  rw [← sceneObjects_eq] at upserted
  refine ⟨compiles, ?_, ?_⟩
  · rw [upserted, Session.commands_upsertAll]
    rfl
  · rw [upserted, Session.objects_upsertAll_fresh]

/-- A crystal called like the first source loses its group to it. -/
theorem session_of_buildScene_replaced :
    ∃ session, buildScene (twoCrystals "source_1" "b") {} {} = .ok session ∧
      session.commands.length = 16 ∧
      session.objects.map SceneObject.name =
        ["b", "base", "source_1", "monitor_1", "FDTD", "field_monitor", "dielectric_monitor"] := by
  obtain ⟨session, built⟩ :
      ∃ session, buildScene (twoCrystals "source_1" "b") {} {} = .ok session :=
    exists_of_isOk (by decide +kernel)
  obtain ⟨-, commands, objects⟩ := session_of_buildScene built
  refine ⟨session, built, ?_, ?_⟩
  · rw [commands]
    decide +kernel
  · rw [objects]
    decide +kernel

end LatticeSketch
