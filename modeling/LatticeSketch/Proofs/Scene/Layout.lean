/-
# LatticeSketch.Proofs.Scene.Layout -- which objects the steps of an assembly stand for

A `Layout` is what an assembly has placed: its crystals and the width they take up.  It
decides on its own which objects a step stands for (`Layout.objects`) and what is placed
afterwards (`Layout.after`).  A step that succeeds does just that (`perform_of_ok`), and a run
of them upserts the objects of its steps one after the other (`performAll_of_ok`).

Every crystal that has been placed compiles under the policy of the settings
(`Assembly.Sound`), whatever else was done.
-/
import LatticeSketch.Proofs.Compiler.Policy
import LatticeSketch.Proofs.Scene.Records
import LatticeSketch.Proofs.Scene.Session
import LatticeSketch.Scene.Build

namespace LatticeSketch

set_option autoImplicit false

open CellByCell (reference)

/-- The crystals placed so far and the width they take up. -/
structure Layout where
  crystals : List Crystal
  width : Float

namespace Layout

/-- A crystal as it is placed next. -/
def next (layout : Layout) (crystal : Crystal) : Crystal :=
  { crystal with left := layout.width }

/-- The layout behind a step. -/
def after (layout : Layout) : Step → Layout
  | .crystal crystal =>
      ⟨layout.crystals ++ [layout.next crystal],
        layout.width + crystal.columns.toFloat * crystal.latticeConstant⟩
  | _ => layout

/-- The objects that span the crystals, if there are any. -/
def spanning (layout : Layout) (objects : Float → Float → List SceneObject) : List SceneObject :=
  match layout.crystals.getLast? with
  | none => []
  | some crystal =>
      objects layout.width ((crystal.height - 1).toFloat * rowPitch crystal.latticeConstant)

/-- The objects that a step stands for. -/
def objects (settings : Settings) (layout : Layout) : Step → List SceneObject
  | .crystal crystal => [sceneGroup (layout.next crystal)]
  | .base =>
      layout.spanning fun width height =>
        [(Cover.around settings width height).base settings.base]
  | .sources => layout.crystals.head?.elim [] (sceneSources settings)
  | .monitors => layout.crystals.getLast?.elim [] (sceneMonitors settings)
  | .analysis movie =>
      layout.spanning fun width height =>
        (Cover.around settings width height).regions settings.analysis movie

/-- The objects that a series of steps stands for. -/
def plan (settings : Settings) (layout : Layout) : List Step → List SceneObject
  | [] => []
  | step :: rest => layout.objects settings step ++ (layout.after step).plan settings rest

theorem plan_append (settings : Settings) (layout : Layout) (first second : List Step) :
    layout.plan settings (first ++ second) =
      layout.plan settings first ++ (first.foldl after layout).plan settings second := by
  induction first generalizing layout with
  | nil => rfl
  | cons step rest ih =>
      rw [List.cons_append, plan, plan, ih, List.append_assoc]
      rfl

end Layout

/-- The kinds of object that a step puts in. -/
def Step.kinds : Step → List ObjectKind
  | .crystal _ => [.structureGroup]
  | .base => [.rectangle]
  | .sources => [.modeSource]
  | .monitors => [.powerMonitor]
  | .analysis _ => [.fdtdRegion, .profileMonitor, .indexMonitor, .movie]

/-- Each step has kinds of its own. -/
theorem kind_objects (settings : Settings) (layout : Layout) (step : Step) :
    ∀ object ∈ layout.objects settings step, object.kind ∈ step.kinds := by
  cases step with
  | crystal crystal => simp [Layout.objects, sceneGroup, Step.kinds]
  | base =>
      unfold Layout.objects Layout.spanning
      cases layout.crystals.getLast? <;> simp [Cover.base, Step.kinds]
  | sources =>
      unfold Layout.objects
      cases layout.crystals.head? <;> simp [sceneSources, sceneSource, Step.kinds]
  | monitors =>
      unfold Layout.objects
      cases layout.crystals.getLast? <;> simp [sceneMonitors, sceneMonitor, Step.kinds]
  | analysis movie =>
      unfold Layout.objects Layout.spanning
      cases layout.crystals.getLast? with
      | none => simp
      | some crystal =>
          intro object member
          obtain ⟨kind, name, more, inKinds, rfl⟩ := Cover.exists_region_of_mem_regions member
          exact inKinds

namespace Assembly

variable {assembly : Assembly} {step : Step}

def layout (assembly : Assembly) : Layout :=
  ⟨assembly.crystals, assembly.width⟩

/-- What a step that succeeded makes of the assembly `before` it. -/
structure Follows (before : Assembly) (step : Step) (after : Assembly) : Prop where
  session : after.session = before.session.upsertAll (before.layout.objects before.settings step)
  layout : after.layout = before.layout.after step
  settings : after.settings = before.settings
  boundary : after.compiler.boundary = before.compiler.boundary
  compiles : ∀ crystal ∈ after.crystals, crystal ∈ before.crystals ∨
    (before.compiler.compile crystal).result = .ok (reference crystal)

theorem addCrystal_of_ok {crystal : Crystal}
    (done : (assembly.addCrystal crystal).result = .ok ()) :
    Follows assembly (.crystal crystal) (assembly.addCrystal crystal).assembly := by
  unfold addCrystal at done ⊢
  dsimp only at done ⊢
  cases made : (assembly.compiler.compile { crystal with left := assembly.width }).result with
  | error fault => simp [made] at done
  | ok compiled =>
      have same := CellByCell.eq_reference_of_compile made
      subst same
      refine ⟨?group, rfl, rfl, Compiler.boundary_compile _ _, ?compiles⟩
      case group =>
        exact congrArg assembly.session.upsert (crystalObject_reference _)
      case compiles =>
        intro placed member
        rcases List.mem_append.1 member with before | new
        · exact Or.inl before
        · obtain rfl := List.mem_singleton.1 new
          exact Or.inr made

theorem addDevices_of_ok {placing : Placing} {crystal? : Option Crystal}
    {devices : Compiled → List Placement} {object : Crystal → Placement → SceneObject}
    {event : Nat → Event} {count : Nat}
    (done : (assembly.addDevices placing crystal? devices object event).result = .ok count)
    (same : assembly.layout.objects assembly.settings step =
      crystal?.elim [] fun crystal => (devices (reference crystal)).map (object crystal))
    (kept : assembly.layout.after step = assembly.layout) :
    Follows assembly step (assembly.addDevices placing crystal? devices object event).assembly := by
  cases crystal? with
  | none => simp [addDevices] at done
  | some crystal =>
      unfold addDevices at done ⊢
      dsimp only at done ⊢
      cases made : (assembly.compiler.compile crystal).result with
      | error fault => simp [made] at done
      | ok compiled =>
          have whole := CellByCell.eq_reference_of_compile made
          subst whole
          refine ⟨?_, kept.symm, rfl, Compiler.boundary_compile _ _, fun _ => Or.inl⟩
          rw [same]
          rfl

theorem addSpanning_of_ok {objects : Float → Float → List SceneObject}
    (done : (assembly.addSpanning objects).result = .ok ())
    (same : assembly.layout.objects assembly.settings step = assembly.layout.spanning objects)
    (kept : assembly.layout.after step = assembly.layout) :
    Follows assembly step (assembly.addSpanning objects).assembly := by
  unfold addSpanning size at done ⊢
  unfold Layout.spanning at same
  cases last : assembly.crystals.getLast? with
  | none => simp [last] at done
  | some crystal =>
      have top : assembly.layout.crystals.getLast? = some crystal := last
      rw [top] at same
      refine ⟨?_, kept.symm, rfl, rfl, fun _ => Or.inl⟩
      rw [same]
      rfl

theorem result_of_map {α β : Type} {outcome : Outcome α} {f : α → β} {reply : β}
    (done : (outcome.map f).result = .ok reply) : ∃ answer, outcome.result = .ok answer := by
  cases made : outcome.result with
  | error fault => simp [Outcome.map, made, Except.map] at done
  | ok answer => exact ⟨answer, rfl⟩

/-- A step that succeeds upserts the objects that it stands for and places what it has to. -/
theorem perform_of_ok {reply : Reply} (done : (assembly.perform step).result = .ok reply) :
    Follows assembly step (assembly.perform step).assembly := by
  cases step with
  | crystal crystal =>
      obtain ⟨_, answered⟩ := result_of_map done
      exact addCrystal_of_ok answered
  | base =>
      obtain ⟨_, answered⟩ := result_of_map done
      refine addSpanning_of_ok answered ?_ rfl
      simp only [Layout.objects, baseObject_eq]
  | sources =>
      obtain ⟨_, answered⟩ := result_of_map done
      refine addDevices_of_ok answered ?_ rfl
      simp only [map_sourceObject]
      rfl
  | monitors =>
      obtain ⟨_, answered⟩ := result_of_map done
      refine addDevices_of_ok answered ?_ rfl
      simp only [map_monitorObject]
      rfl
  | analysis movie =>
      obtain ⟨_, answered⟩ := result_of_map done
      refine addSpanning_of_ok answered ?_ rfl
      simp only [Layout.objects, analysisObjects_eq]

/-- The compiler follows the policy of the settings, and every crystal that has been placed
compiles under it. -/
structure Sound (assembly : Assembly) : Prop where
  boundary : assembly.compiler.boundary = assembly.settings.boundary
  compiles : ∀ crystal ∈ assembly.crystals,
    (Compiler.compile { boundary := assembly.settings.boundary } crystal).result =
      .ok (reference crystal)

theorem sound_start (session : Session) (settings : Settings) :
    Sound (start session settings) :=
  ⟨rfl, by simp [start]⟩

theorem Sound.of_follows (sound : assembly.Sound) {next : Assembly}
    (follows : Follows assembly step next) : next.Sound := by
  refine ⟨?_, fun crystal member => ?_⟩
  · rw [follows.boundary, follows.settings, sound.boundary]
  · rw [follows.settings]
    rcases follows.compiles crystal member with before | made
    · exact sound.compiles crystal before
    · rw [← sound.boundary, Compiler.compile_fresh]
      exact made

/-- A run of steps that all succeed upserts the objects of its plan. -/
theorem performAll_of_ok {steps : List Step} {last : Assembly}
    (done : assembly.performAll steps = .ok last) :
    last.session = assembly.session.upsertAll (assembly.layout.plan assembly.settings steps) ∧
      last.layout = steps.foldl Layout.after assembly.layout ∧
      last.settings = assembly.settings ∧ (assembly.Sound → last.Sound) := by
  induction steps generalizing assembly with
  | nil =>
      obtain rfl := Except.ok.inj done
      exact ⟨rfl, rfl, rfl, id⟩
  | cons step rest ih =>
      unfold performAll at done
      dsimp only at done
      cases made : (assembly.perform step).result with
      | error fault => simp [made] at done
      | ok reply =>
          simp only [made] at done
          have follows := perform_of_ok made
          obtain ⟨session, layout, settings, sound⟩ := ih done
          refine ⟨?_, ?_, settings.trans follows.settings,
            fun before => sound (before.of_follows follows)⟩
          · rw [session, follows.session, follows.layout, follows.settings, Layout.plan,
              Session.upsertAll_append]
          · rw [layout, follows.layout]
            rfl

end Assembly

end LatticeSketch
