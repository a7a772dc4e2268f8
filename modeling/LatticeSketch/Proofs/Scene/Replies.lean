/-
# LatticeSketch.Proofs.Scene.Replies -- what the steps of an assembly answer

What a step answers is decided by the crystals that have been placed, the width they take up and
the policy of the compiler (`result_perform`).  The session that the step writes to plays no
part, nor do the numbers that the compiler has given out.

So two assemblies that have placed the same crystals under the same settings answer the same
steps alike and put in the same objects, whatever their sessions hold (`Alike.perform`,
`Alike.writes`).
-/
import LatticeSketch.Proofs.Scene.History

namespace LatticeSketch

set_option autoImplicit false

/-- What a step that compiles `crystal?` once more answers. -/
def deviceReply (boundary : Boundary) (placing : Placing) (devices : Compiled → List Placement)
    (crystal? : Option Crystal) : Except Fault Reply :=
  match crystal? with
  | none => .error (.noCrystals placing)
  | some crystal =>
      (Compiler.compile { boundary := boundary } crystal).result.map fun compiled =>
        .placed (devices compiled).length

/-- What a step that spans the crystals answers. -/
def spanReply (crystals : List Crystal) : Except Fault Reply :=
  match crystals.getLast? with
  | none => .error (.noCrystals .base)
  | some _ => .ok .done

/-- What a step answers under a policy. -/
def Layout.reply (boundary : Boundary) (layout : Layout) : Step → Except Fault Reply
  | .crystal crystal =>
      (Compiler.compile { boundary := boundary } (layout.next crystal)).result.map fun _ => .done
  | .sources => deviceReply boundary .sources Compiled.sources layout.crystals.head?
  | .monitors => deviceReply boundary .monitors Compiled.monitors layout.crystals.getLast?
  | .base | .analysis _ => spanReply layout.crystals

namespace Assembly

section Replies

variable (assembly : Assembly)

theorem result_addCrystal (crystal : Crystal) :
    (assembly.addCrystal crystal).result =
      (assembly.compiler.compile (assembly.layout.next crystal)).result.map fun _ => () := by
  unfold addCrystal
  have placed : assembly.layout.next crystal = { crystal with left := assembly.width } := rfl
  rw [placed]
  dsimp only
  cases (assembly.compiler.compile { crystal with left := assembly.width }).result <;> rfl

theorem result_addDevices (placing : Placing) (crystal? : Option Crystal)
    (devices : Compiled → List Placement) (object : Crystal → Placement → SceneObject)
    (event : Nat → Event) :
    ((assembly.addDevices placing crystal? devices object event).map Reply.placed).result =
      deviceReply assembly.compiler.boundary placing devices crystal? := by
  cases crystal? with
  | none => rfl
  | some crystal =>
      dsimp only [addDevices, deviceReply]
      rw [Compiler.compile_fresh]
      cases (assembly.compiler.compile crystal).result <;> rfl

theorem result_addSpanning (objects : Float → Float → List SceneObject) :
    ((assembly.addSpanning objects).map fun () => Reply.done).result =
      spanReply assembly.crystals := by
  unfold addSpanning size spanReply
  cases assembly.crystals.getLast? <;> rfl

/-- The answer of a step is that of the layout under the policy. -/
theorem result_perform (step : Step) :
    (assembly.perform step).result =
      assembly.layout.reply assembly.compiler.boundary step := by
  cases step with
  | crystal crystal =>
      have answered := assembly.result_addCrystal crystal
      rw [← Compiler.compile_fresh] at answered
      simp only [perform, Outcome.map, Layout.reply, answered]
      cases (Compiler.compile { boundary := assembly.compiler.boundary }
        (assembly.layout.next crystal)).result <;> rfl
  | base => exact assembly.result_addSpanning _
  | sources => exact assembly.result_addDevices _ _ _ _ _
  | monitors => exact assembly.result_addDevices _ _ _ _ _
  | analysis movie => exact assembly.result_addSpanning _

end Replies

/-! ## Assemblies that stand alike -/

variable {first second : Assembly} {assembly : Assembly} {step : Step}

theorem layout_of_error {fault : Fault} (failed : (assembly.perform step).result = .error fault) :
    (assembly.perform step).assembly.layout = assembly.layout := by
  have left := leaves_of_error failed
  simp only [layout, left.crystals, left.width]

theorem boundary_perform (assembly : Assembly) (step : Step) :
    (assembly.perform step).assembly.compiler.boundary = assembly.compiler.boundary := by
  cases made : (assembly.perform step).result with
  | error fault => exact (leaves_of_error made).boundary
  | ok reply => exact (perform_of_ok made).boundary

/-- The same crystals have been placed, under the same settings and policy. -/
structure Alike (first second : Assembly) : Prop where
  layout : first.layout = second.layout
  settings : first.settings = second.settings
  boundary : first.compiler.boundary = second.compiler.boundary

theorem alike_start (session other : Session) (settings : Settings) :
    Alike (start session settings) (start other settings) :=
  ⟨rfl, rfl, rfl⟩

theorem Alike.result (alike : Alike first second) (step : Step) :
    (first.perform step).result = (second.perform step).result := by
  rw [result_perform, result_perform, alike.layout, alike.boundary]

theorem Alike.written (alike : Alike first second) (step : Step) :
    first.written step = second.written step := by
  unfold Assembly.written
  rw [alike.result step, alike.layout, alike.settings]

/-- A step keeps assemblies alike. -/
theorem Alike.perform (alike : Alike first second) (step : Step) :
    Alike (first.perform step).assembly (second.perform step).assembly := by
  refine ⟨?_, ?_, ?_⟩
  · have same := alike.result step
    cases made : (second.perform step).result with
    | error fault =>
        rw [layout_of_error made, layout_of_error (same.trans made), alike.layout]
    | ok reply =>
        rw [(perform_of_ok made).layout, (perform_of_ok (same.trans made)).layout, alike.layout]
  · rw [settings_perform, settings_perform, alike.settings]
  · rw [boundary_perform, boundary_perform, alike.boundary]

/-- The same steps put in the same objects. -/
theorem Alike.writes (alike : Alike first second) (steps : List Step) :
    first.writes steps = second.writes steps := by
  induction steps generalizing first second with
  | nil => rfl
  | cons step rest ih =>
      rw [Assembly.writes, Assembly.writes, alike.written step, ih (alike.perform step)]

end Assembly

end LatticeSketch
