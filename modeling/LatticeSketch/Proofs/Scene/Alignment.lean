/-
# LatticeSketch.Proofs.Scene.Alignment -- where crystals stand, and which steps fail

After any steps the crystals of an assembly stand side by side: the first at zero and each other
one where the widths of those before it end, added up from left to right (`Aligned`).  All of
them compile under the policy of the settings, so only two things can go wrong with a step.  A
crystal fails to be placed exactly if its lattice does not compile, and any other step exactly
if no crystal has been placed (`perform_eq_error_iff`).  A step that fails leaves everything as
it was.
-/
import LatticeSketch.Proofs.Compiler.Edge
import LatticeSketch.Proofs.Scene.Plan
import LatticeSketch.Proofs.Scene.Replies
import Mathlib.Data.List.Basic

namespace LatticeSketch

set_option autoImplicit false

open CellByCell (reference)

/-- What a step cannot do without a crystal; placing a crystal needs none. -/
def Step.placing? : Step → Option Placing
  | .crystal _ => none
  | .base | .analysis _ => some .base
  | .sources => some .sources
  | .monitors => some .monitors

theorem endFrom_concat (left : Float) (crystals : List Crystal) (crystal : Crystal) :
    endFrom left (crystals ++ [crystal]) =
      endFrom left crystals + crystal.columns.toFloat * crystal.latticeConstant := by
  simp [endFrom]

namespace Assembly

variable {assembly : Assembly} {step : Step} {fault : Fault}

/-! ## Crystals side by side -/

/-- The crystals stand side by side and take up the width, and all of them compile. -/
structure Aligned (assembly : Assembly) : Prop where
  width : assembly.width = endFrom 0 assembly.crystals
  /-- A crystal stands where those before it end. -/
  left : ∀ earlier crystal later, assembly.crystals = earlier ++ crystal :: later →
    crystal.left = endFrom 0 earlier
  sound : assembly.Sound

theorem aligned_start (session : Session) (settings : Settings) :
    Aligned (start session settings) :=
  ⟨rfl, by simp [start], sound_start session settings⟩

theorem Sound.of_leaves (sound : assembly.Sound) {after : Assembly}
    (left : Leaves assembly after) : after.Sound := by
  refine ⟨?_, ?_⟩
  · rw [left.boundary, left.settings, sound.boundary]
  · rw [left.crystals, left.settings]
    exact sound.compiles

/-- One more crystal at the end of the others stands where they end. -/
theorem left_of_concat {crystals : List Crystal} {last : Crystal}
    (before : ∀ earlier crystal later, crystals = earlier ++ crystal :: later →
      crystal.left = endFrom 0 earlier)
    (behind : last.left = endFrom 0 crystals) :
    ∀ earlier crystal later, crystals ++ [last] = earlier ++ crystal :: later →
      crystal.left = endFrom 0 earlier := by
  intro earlier crystal later split
  rcases List.eq_nil_or_concat later with rfl | ⟨between, end_, rfl⟩
  · obtain ⟨rfl, same⟩ := List.append_inj' split rfl
    obtain rfl := (List.cons.inj same).1
    exact behind
  · have whole : crystals ++ [last] = (earlier ++ crystal :: between) ++ [end_] := by
      rw [split]
      simp
    exact before earlier crystal between (List.append_inj' whole rfl).1

/-- Every step keeps the crystals side by side. -/
theorem Aligned.perform (aligned : assembly.Aligned) (step : Step) :
    (assembly.perform step).assembly.Aligned := by
  cases made : (assembly.perform step).result with
  | error fault =>
      have left := leaves_of_error made
      refine ⟨?_, ?_, aligned.sound.of_leaves left⟩
      · rw [left.width, left.crystals, aligned.width]
      · rw [left.crystals]
        exact aligned.left
  | ok reply =>
      have follows := perform_of_ok made
      have crystals : (assembly.perform step).assembly.crystals =
          (assembly.layout.after step).crystals := congrArg Layout.crystals follows.layout
      have width : (assembly.perform step).assembly.width =
          (assembly.layout.after step).width := congrArg Layout.width follows.layout
      refine ⟨?_, ?_, aligned.sound.of_follows follows⟩
      · rw [width, crystals]
        cases step with
        | crystal crystal =>
            rw [Layout.after, endFrom_concat]
            exact congrArg (· + _) aligned.width
        | _ => exact aligned.width
      · rw [crystals]
        cases step with
        | crystal crystal => exact left_of_concat aligned.left aligned.width
        | _ => exact aligned.left

theorem aligned_performEach (aligned : assembly.Aligned) (steps : List Step) :
    (assembly.performEach steps).Aligned := by
  induction steps generalizing assembly with
  | nil => exact aligned
  | cons step rest ih => exact ih (aligned.perform step)

theorem aligned_history (settings : Settings) (steps : List Step) :
    (history settings steps).Aligned :=
  aligned_performEach (aligned_start .fresh settings) steps

/-! ## Steps that fail -/

/-- A crystal is refused exactly if it does not compile, wherever it would stand. -/
theorem perform_crystal_eq_error_iff (sound : assembly.Sound) (crystal : Crystal) :
    (assembly.perform (.crystal crystal)).result = .error fault ↔
      (Compiler.compile { boundary := assembly.settings.boundary } crystal).result =
        .error fault := by
  rw [result_perform, sound.boundary, Compiler.result_compile_eq_error_iff]
  have moved := Compiler.result_compile_eq_error_iff { boundary := assembly.settings.boundary }
    (assembly.layout.next crystal) fault
  rw [← show (assembly.layout.next crystal).grid = crystal.grid from rfl, ← moved, Layout.reply]
  cases (Compiler.compile { boundary := assembly.settings.boundary }
    (assembly.layout.next crystal)).result <;> simp [Except.map]

/-- A crystal that stands compiles, so a step that looks for its devices does not fail. -/
theorem deviceReply_eq_error_iff (sound : assembly.Sound) {placing : Placing}
    {devices : Compiled → List Placement} {crystal? : Option Crystal}
    (standing : ∀ crystal ∈ crystal?, crystal ∈ assembly.crystals)
    (found : crystal? = none ↔ assembly.crystals = []) :
    deviceReply assembly.settings.boundary placing devices crystal? = .error fault ↔
      assembly.crystals = [] ∧ fault = .noCrystals placing := by
  rw [← found]
  cases crystal? with
  | none => simp [deviceReply, eq_comm]
  | some crystal =>
      rw [deviceReply, sound.compiles crystal (standing crystal rfl)]
      simp [Except.map]

theorem spanReply_eq_error_iff {crystals : List Crystal} :
    spanReply crystals = .error fault ↔ crystals = [] ∧ fault = .noCrystals .base := by
  rw [← List.getLast?_eq_none_iff]
  unfold spanReply
  cases crystals.getLast? <;> simp [eq_comm]

/-- Any other step fails exactly if no crystal has been placed. -/
theorem perform_eq_error_iff (sound : assembly.Sound) {placing : Placing}
    (needs : step.placing? = some placing) :
    (assembly.perform step).result = .error fault ↔
      assembly.crystals = [] ∧ fault = .noCrystals placing := by
  rw [result_perform, sound.boundary]
  cases step with
  | crystal crystal => simp [Step.placing?] at needs
  | base | analysis =>
      obtain rfl := Option.some.inj needs
      exact spanReply_eq_error_iff
  | sources =>
      obtain rfl := Option.some.inj needs
      exact deviceReply_eq_error_iff sound (fun _ => List.mem_of_mem_head?)
        List.head?_eq_none_iff
  | monitors =>
      obtain rfl := Option.some.inj needs
      exact deviceReply_eq_error_iff sound (fun _ => List.mem_of_mem_getLast?)
        List.getLast?_eq_none_iff

theorem size_eq_error_iff :
    assembly.size = .error fault ↔ assembly.crystals = [] ∧ fault = .noCrystals .base := by
  rw [← List.getLast?_eq_none_iff]
  unfold size
  cases assembly.crystals.getLast? <;> simp [eq_comm]

/-- After any steps the crystals stand side by side, all of them compile, and no two objects alive
have one name.  A further crystal is refused exactly if it does not compile; the other steps
fail, and the size is unknown, exactly if no crystal has been placed.  A step that fails
changes neither the crystals nor the width, the objects or the commands. -/
theorem alignment_of_history (settings : Settings) (steps : List Step) :
    let assembly := history settings steps
    assembly.width = endFrom 0 assembly.crystals ∧
    (∀ earlier crystal later, assembly.crystals = earlier ++ crystal :: later →
      crystal.left = endFrom 0 earlier) ∧
    (∀ crystal ∈ assembly.crystals,
      (Compiler.compile { boundary := settings.boundary } crystal).result =
        .ok (reference crystal)) ∧
    (assembly.session.objects.map SceneObject.name).Nodup ∧
    (∀ crystal fault, (assembly.perform (.crystal crystal)).result = .error fault ↔
      (Compiler.compile { boundary := settings.boundary } crystal).result = .error fault) ∧
    (∀ step placing fault, step.placing? = some placing →
      ((assembly.perform step).result = .error fault ↔
        assembly.crystals = [] ∧ fault = .noCrystals placing)) ∧
    (∀ fault, assembly.size = .error fault ↔
      assembly.crystals = [] ∧ fault = .noCrystals .base) ∧
    ∀ step fault, (assembly.perform step).result = .error fault →
      (assembly.perform step).assembly.crystals = assembly.crystals ∧
      (assembly.perform step).assembly.width = assembly.width ∧
      (assembly.perform step).assembly.session.objects = assembly.session.objects ∧
      (assembly.perform step).assembly.session.commands = assembly.session.commands := by
  intro assembly
  have aligned := aligned_history settings steps
  have settled := settings_history settings steps
  refine ⟨aligned.width, aligned.left, ?_, nodup_history settings steps, ?_, ?_, ?_, ?_⟩
  · rw [← settled]
    exact aligned.sound.compiles
  · intro crystal fault
    rw [← settled]
    exact perform_crystal_eq_error_iff aligned.sound crystal
  · intro step placing fault needs
    exact perform_eq_error_iff aligned.sound needs
  · intro fault
    exact size_eq_error_iff
  · intro step fault failed
    have left := leaves_of_error failed
    exact ⟨left.crystals, left.width, congrArg Session.objects left.session,
      congrArg Session.commands left.session⟩

/-- A lattice with rows of different widths. -/
def raggedCrystal : Crystal :=
  ⟨"ragged", 1, 1, Grid.ofText "0 0 \n 0\n", 0⟩

/-- Two crystals side by side, with a step before them that fails and one between them. -/
def withRefusals : List Step :=
  [.sources, .crystal ⟨"a", 1, 1, Grid.ofText "0 0 0 \n", 0⟩, .crystal raggedCrystal,
    .crystal ⟨"b", 1, 1, Grid.ofText "0 s \n", 7⟩]

/-- The steps that fail leave no gap between the crystals. -/
theorem alignment_of_history_refusals :
    (∃ first second, (history {} withRefusals).crystals = [first, second] ∧
      second.left = endFrom 0 [first]) ∧
    ((history {} withRefusals).perform (.crystal raggedCrystal)).result =
      .error (.raggedRow 1 2 1) ∧
    ((history {} withRefusals).perform (.crystal raggedCrystal)).assembly.width =
      (history {} withRefusals).width ∧
    ((history {} []).perform .sources).result = .error (.noCrystals .sources) := by
  obtain ⟨-, lefts, -, -, crystals, -, -, unchanged⟩ := alignment_of_history {} withRefusals
  obtain ⟨-, -, -, -, -, others, -, -⟩ := alignment_of_history {} []
  have ragged : (Compiler.compile { boundary := Settings.boundary {} } raggedCrystal).result =
      .error (.raggedRow 1 2 1) := by
    rw [Compiler.result_compile_eq_error_iff]
    decide +kernel
  have refused := (crystals raggedCrystal _).2 ragged
  obtain ⟨first, second, standing⟩ :
      ∃ first second, (history {} withRefusals).crystals = [first, second] :=
    List.length_eq_two.1 (by decide +kernel)
  exact ⟨⟨first, second, standing, lefts [first] second [] standing⟩, refused,
    (unchanged _ _ refused).2.1, (others .sources .sources _ rfl).2 ⟨rfl, rfl⟩⟩

end Assembly

end LatticeSketch
