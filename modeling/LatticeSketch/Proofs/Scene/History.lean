/-
# LatticeSketch.Proofs.Scene.History -- assemblies after any steps

A step that fails leaves the session, the crystals and the width as they were
(`leaves_of_error`); one that succeeds puts in the objects that it stands for.  So whatever
becomes of the steps of a run, its session is that of upserting what its steps have put in
(`session_performEach`).

After a run from a fresh session no two objects alive have one name (`nodup_history`).  An object
is alive exactly if some step put it in and no later one has put in another of its name
(`mem_objects_iff`).
-/
import LatticeSketch.Proofs.Scene.Layout

namespace LatticeSketch

set_option autoImplicit false

/-! ## Last objects of a series -/

theorem mem_lastOfNames_append {first second : List SceneObject} {object : SceneObject} :
    object ∈ lastOfNames (first ++ second) ↔
      (object ∈ lastOfNames first ∧ object.name ∉ second.map SceneObject.name) ∨
        object ∈ lastOfNames second := by
  rw [lastOfNames_append, List.mem_append, without, List.mem_filter, decide_eq_true_eq]

theorem mem_of_mem_lastOfNames {objects : List SceneObject} {object : SceneObject}
    (last : object ∈ lastOfNames objects) : object ∈ objects := by
  induction objects with
  | nil => exact last
  | cons first rest ih =>
      rw [lastOfNames] at last
      split at last
      · exact List.mem_cons_of_mem _ (ih last)
      · rcases List.mem_cons.1 last with rfl | later
        · exact List.mem_cons_self
        · exact List.mem_cons_of_mem _ (ih later)

theorem nodup_lastOfNames (objects : List SceneObject) :
    ((lastOfNames objects).map SceneObject.name).Nodup := by
  induction objects with
  | nil => exact List.nodup_nil
  | cons object rest ih =>
      rw [lastOfNames]
      split
      · exact ih
      · rename_i other
        rw [List.map_cons, List.nodup_cons]
        refine ⟨fun again => other ?_, ih⟩
        obtain ⟨later, last, same⟩ := List.mem_map.1 again
        exact List.mem_map.2 ⟨later, mem_of_mem_lastOfNames last, same⟩

/-- Objects of distinct names all last. -/
theorem lastOfNames_of_nodup {objects : List SceneObject}
    (distinct : (objects.map SceneObject.name).Nodup) : lastOfNames objects = objects := by
  induction objects with
  | nil => rfl
  | cons object rest ih =>
      rw [List.map_cons, List.nodup_cons] at distinct
      rw [lastOfNames, if_neg distinct.1, ih distinct.2]

namespace Assembly

variable {assembly : Assembly} {step : Step}

/-! ## Steps that fail -/

/-- What a step that fails leaves alone. -/
structure Leaves (before after : Assembly) : Prop where
  session : after.session = before.session
  crystals : after.crystals = before.crystals
  width : after.width = before.width
  settings : after.settings = before.settings
  boundary : after.compiler.boundary = before.compiler.boundary

theorem leaves_refl (assembly : Assembly) : Leaves assembly assembly :=
  ⟨rfl, rfl, rfl, rfl, rfl⟩

theorem leaves_compiler (crystal : Crystal) :
    Leaves assembly { assembly with compiler := (assembly.compiler.compile crystal).compiler } :=
  ⟨rfl, rfl, rfl, rfl, Compiler.boundary_compile _ _⟩

theorem addCrystal_of_error {crystal : Crystal} {fault : Fault}
    (failed : (assembly.addCrystal crystal).result = .error fault) :
    Leaves assembly (assembly.addCrystal crystal).assembly := by
  unfold addCrystal at failed ⊢
  dsimp only at failed ⊢
  cases made : (assembly.compiler.compile { crystal with left := assembly.width }).result with
  | error other => exact leaves_compiler _
  | ok compiled => simp [made] at failed

theorem addDevices_of_error {placing : Placing} {crystal? : Option Crystal}
    {devices : Compiled → List Placement} {object : Crystal → Placement → SceneObject}
    {event : Nat → Event} {fault : Fault}
    (failed : (assembly.addDevices placing crystal? devices object event).result = .error fault) :
    Leaves assembly (assembly.addDevices placing crystal? devices object event).assembly := by
  cases crystal? with
  | none => exact leaves_refl assembly
  | some crystal =>
      unfold addDevices at failed ⊢
      dsimp only at failed ⊢
      cases made : (assembly.compiler.compile crystal).result with
      | error other => exact leaves_compiler crystal
      | ok compiled => simp [made] at failed

theorem addSpanning_of_error {objects : Float → Float → List SceneObject} {fault : Fault}
    (failed : (assembly.addSpanning objects).result = .error fault) :
    Leaves assembly (assembly.addSpanning objects).assembly := by
  unfold addSpanning at failed ⊢
  cases sized : assembly.size with
  | error other => exact leaves_refl assembly
  | ok size => simp [sized] at failed

theorem error_of_map {α β : Type} {outcome : Outcome α} {f : α → β} {fault : Fault}
    (failed : (outcome.map f).result = .error fault) : outcome.result = .error fault := by
  cases made : outcome.result with
  | error other => simpa [Outcome.map, made, Except.map] using failed
  | ok answer => simp [Outcome.map, made, Except.map] at failed

/-- A step that fails changes nothing but the numbers of the compiler. -/
theorem leaves_of_error {fault : Fault} (failed : (assembly.perform step).result = .error fault) :
    Leaves assembly (assembly.perform step).assembly := by
  cases step with
  | crystal crystal => exact addCrystal_of_error (error_of_map failed)
  | base => exact addSpanning_of_error (error_of_map failed)
  | sources => exact addDevices_of_error (error_of_map failed)
  | monitors => exact addDevices_of_error (error_of_map failed)
  | analysis movie => exact addSpanning_of_error (error_of_map failed)

/-! ## What steps put in -/

/-- The objects that a step puts in: none if it fails. -/
def written (assembly : Assembly) (step : Step) : List SceneObject :=
  match (assembly.perform step).result with
  | .ok _ => assembly.layout.objects assembly.settings step
  | .error _ => []

/-- The objects that a run of steps puts in, whatever becomes of the steps. -/
def writes (assembly : Assembly) : List Step → List SceneObject
  | [] => []
  | step :: rest => assembly.written step ++ (assembly.perform step).assembly.writes rest

theorem written_of_ok {reply : Reply} (done : (assembly.perform step).result = .ok reply) :
    assembly.written step = assembly.layout.objects assembly.settings step := by
  rw [written, done]

theorem session_perform (assembly : Assembly) (step : Step) :
    (assembly.perform step).assembly.session =
      assembly.session.upsertAll (assembly.written step) := by
  unfold written
  cases made : (assembly.perform step).result with
  | error fault => exact (leaves_of_error made).session
  | ok reply => exact (perform_of_ok made).session

theorem settings_perform (assembly : Assembly) (step : Step) :
    (assembly.perform step).assembly.settings = assembly.settings := by
  cases made : (assembly.perform step).result with
  | error fault => exact (leaves_of_error made).settings
  | ok reply => exact (perform_of_ok made).settings

/-- A step places its crystal behind those that stand, or none. -/
theorem crystals_perform (assembly : Assembly) (step : Step) :
    assembly.crystals <+: (assembly.perform step).assembly.crystals := by
  cases made : (assembly.perform step).result with
  | error fault =>
      exact (leaves_of_error made).crystals.symm ▸ List.prefix_refl _
  | ok reply =>
      have placed : (assembly.perform step).assembly.crystals =
          (assembly.layout.after step).crystals :=
        congrArg Layout.crystals (perform_of_ok made).layout
      rw [placed]
      cases step with
      | crystal crystal => exact List.prefix_append _ _
      | _ => exact List.prefix_refl _

theorem performEach_cons (assembly : Assembly) (step : Step) (rest : List Step) :
    assembly.performEach (step :: rest) = (assembly.perform step).assembly.performEach rest := rfl

theorem performEach_append (assembly : Assembly) (first second : List Step) :
    assembly.performEach (first ++ second) = (assembly.performEach first).performEach second :=
  List.foldl_append

section Runs

variable (assembly) (steps : List Step)

/-- The session of a run is that of upserting what its steps have put in. -/
theorem session_performEach :
    (assembly.performEach steps).session = assembly.session.upsertAll (assembly.writes steps) := by
  induction steps generalizing assembly with
  | nil => rfl
  | cons step rest ih =>
      rw [performEach_cons, ih, session_perform, writes, Session.upsertAll_append]

theorem settings_performEach : (assembly.performEach steps).settings = assembly.settings := by
  induction steps generalizing assembly with
  | nil => rfl
  | cons step rest ih => rw [performEach_cons, ih, settings_perform]

theorem crystals_performEach : assembly.crystals <+: (assembly.performEach steps).crystals := by
  induction steps generalizing assembly with
  | nil => exact List.prefix_refl _
  | cons step rest ih => exact (crystals_perform assembly step).trans (ih _)

/-- The last objects of a run are the last ones of a step that no later step has replaced. -/
theorem mem_lastOfNames_writes (object : SceneObject) :
    object ∈ lastOfNames (assembly.writes steps) ↔
      ∃ earlier step later, steps = earlier ++ step :: later ∧
        object ∈ lastOfNames ((assembly.performEach earlier).written step) ∧
        object.name ∉ (((assembly.performEach earlier).perform step).assembly.writes later).map
          SceneObject.name := by
  induction steps generalizing assembly with
  | nil => simp [writes, lastOfNames]
  | cons step rest ih =>
      rw [writes, mem_lastOfNames_append, ih]
      constructor
      · rintro (⟨last, free⟩ | ⟨earlier, next, later, rfl, last, free⟩)
        · exact ⟨[], step, rest, rfl, last, free⟩
        · exact ⟨step :: earlier, next, later, rfl, last, free⟩
      · rintro ⟨earlier, next, later, split, last, free⟩
        cases earlier with
        | nil =>
            obtain ⟨rfl, rfl⟩ := List.cons.inj split
            exact Or.inl ⟨last, free⟩
        | cons first earlier =>
            obtain ⟨rfl, rfl⟩ := List.cons.inj split
            exact Or.inr ⟨earlier, next, later, rfl, last, free⟩

end Runs

/-- The assembly after steps that start from a fresh session. -/
def history (settings : Settings) (steps : List Step) : Assembly :=
  (start .fresh settings).performEach steps

theorem settings_history (settings : Settings) (steps : List Step) :
    (history settings steps).settings = settings :=
  settings_performEach _ _

theorem objects_history (settings : Settings) (steps : List Step) :
    (history settings steps).session.objects =
      lastOfNames ((start .fresh settings).writes steps) := by
  rw [history, session_performEach]
  exact Session.objects_upsertAll_fresh _

/-- No two objects alive have one name. -/
theorem nodup_history (settings : Settings) (steps : List Step) :
    ((history settings steps).session.objects.map SceneObject.name).Nodup := by
  rw [objects_history]
  exact nodup_lastOfNames _

/-- An object is alive if a step has put it in and no later one another of its name. -/
theorem mem_objects_iff (settings : Settings) (steps : List Step) (object : SceneObject) :
    object ∈ (history settings steps).session.objects ↔
      ∃ earlier step later, steps = earlier ++ step :: later ∧
        object ∈ lastOfNames ((history settings earlier).written step) ∧
        object.name ∉ (((history settings earlier).perform step).assembly.writes later).map
          SceneObject.name := by
  rw [objects_history]
  exact mem_lastOfNames_writes _ _ _

end Assembly

end LatticeSketch
