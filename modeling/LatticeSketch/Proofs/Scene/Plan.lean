/-
# LatticeSketch.Proofs.Scene.Plan -- the objects of a whole scene

The crystals of a scene stand side by side, each where the widths of those before it end
(`placedFrom`).  Behind their groups the parts that are asked for follow, all of them laid out
for the same crystals (`partObjects`).  Building a scene upserts these objects in this order
into a fresh session (`buildScene_of_ok`).
-/
import LatticeSketch.Proofs.Scene.Layout

namespace LatticeSketch

set_option autoImplicit false

open CellByCell (reference)

/-- Crystals side by side, the first at `left`. -/
def placedFrom (left : Float) : List Crystal → List Crystal
  | [] => []
  | crystal :: rest =>
      { crystal with left := left } ::
        placedFrom (left + crystal.columns.toFloat * crystal.latticeConstant) rest

/-- Where crystals side by side end, the first at `left`. -/
def endFrom (left : Float) (crystals : List Crystal) : Float :=
  crystals.foldl (fun width crystal => width + crystal.columns.toFloat * crystal.latticeConstant)
    left

/-- The steps behind those of the crystals. -/
def SceneParts.behind (parts : SceneParts) : List Step :=
  parts.steps []

theorem SceneParts.steps_eq (parts : SceneParts) (crystals : List Crystal) :
    parts.steps crystals = crystals.map .crystal ++ parts.behind := by
  simp only [behind, steps, List.map_nil, List.nil_append, List.append_assoc]

/-- Placing a crystal changes nothing about it but its place. -/
theorem map_placedFrom {α : Type} (f : Crystal → α)
    (same : ∀ (crystal : Crystal) (left : Float), f { crystal with left := left } = f crystal)
    (left : Float) (crystals : List Crystal) :
    (placedFrom left crystals).map f = crystals.map f := by
  induction crystals generalizing left with
  | nil => rfl
  | cons crystal rest ih => rw [placedFrom, List.map_cons, List.map_cons, ih, same]

namespace Layout

/-- The layout of a whole scene's crystals. -/
def ofCrystals (crystals : List Crystal) : Layout :=
  ⟨placedFrom 0 crystals, endFrom 0 crystals⟩

/-- The objects of the parts that are asked for. -/
def partObjects (settings : Settings) (parts : SceneParts) (layout : Layout) :
    List SceneObject :=
  (if parts.base then layout.objects settings .base else []) ++
    (if parts.sources then layout.objects settings .sources else []) ++
    (if parts.monitors then layout.objects settings .monitors else []) ++
    (if parts.analysis then layout.objects settings (.analysis parts.movie) else [])

variable (settings : Settings) (layout : Layout)

theorem foldl_after_crystals (crystals : List Crystal) :
    (crystals.map Step.crystal).foldl after layout =
      ⟨layout.crystals ++ placedFrom layout.width crystals, endFrom layout.width crystals⟩ := by
  induction crystals generalizing layout with
  | nil => simp [placedFrom, endFrom]
  | cons crystal rest ih =>
      rw [List.map_cons, List.foldl_cons, ih]
      simp [after, next, placedFrom, endFrom]

theorem plan_crystals (crystals : List Crystal) :
    layout.plan settings (crystals.map Step.crystal) =
      (placedFrom layout.width crystals).map sceneGroup := by
  induction crystals generalizing layout with
  | nil => rfl
  | cons crystal rest ih =>
      rw [List.map_cons, plan, ih]
      rfl

/-- The steps behind the crystals place nothing, so all of them see one layout. -/
theorem plan_behind (parts : SceneParts) :
    layout.plan settings parts.behind = layout.partObjects settings parts := by
  unfold partObjects SceneParts.behind SceneParts.steps
  cases parts.base <;> cases parts.sources <;> cases parts.monitors <;> cases parts.analysis <;>
    simp [plan, after]

theorem foldl_after_behind (parts : SceneParts) :
    parts.behind.foldl after layout = layout := by
  unfold SceneParts.behind SceneParts.steps
  cases parts.base <;> cases parts.sources <;> cases parts.monitors <;> cases parts.analysis <;>
    rfl

end Layout

/-- A scene that is built comes from an assembly with all of its crystals, each of which
compiles; its session is that of upserting the groups and then the parts. -/
theorem buildScene_of_ok {crystals : List Crystal} {settings : Settings} {parts : SceneParts}
    {session : Session} (built : buildScene crystals settings parts = .ok session) :
    ∃ assembly,
      (Assembly.start .fresh settings).performAll (parts.steps crystals) = .ok assembly ∧
      assembly.session = session ∧
      assembly.layout = Layout.ofCrystals crystals ∧
      session = Session.fresh.upsertAll ((placedFrom 0 crystals).map sceneGroup ++
        (Layout.ofCrystals crystals).partObjects settings parts) ∧
      ∀ crystal ∈ placedFrom 0 crystals,
        (Compiler.compile { boundary := settings.boundary } crystal).result =
          .ok (reference crystal) := by
  unfold buildScene at built
  cases done : (Assembly.start .fresh settings).performAll (parts.steps crystals) with
  | error fault => simp [done, Except.map] at built
  | ok assembly =>
      simp only [done, Except.map, Except.ok.injEq] at built
      obtain ⟨session, layout, same, sound⟩ := Assembly.performAll_of_ok done
      -- the layout of the crystals, before and behind the other parts
      have empty : (Assembly.start .fresh settings).layout = ⟨[], 0⟩ := rfl
      rw [empty, parts.steps_eq, List.foldl_append, Layout.foldl_after_crystals,
        Layout.foldl_after_behind] at layout
      rw [empty, parts.steps_eq, Layout.plan_append, Layout.foldl_after_crystals,
        Layout.plan_crystals, Layout.plan_behind, built] at session
      have whole := sound (Assembly.sound_start .fresh settings)
      have placed : assembly.crystals = placedFrom 0 crystals := congrArg Layout.crystals layout
      have settled : assembly.settings = settings := same
      refine ⟨assembly, rfl, built, layout, session, ?_⟩
      rw [← placed, ← settled]
      exact whole.compiles

end LatticeSketch
