/-
# LatticeSketch.Scene.Build -- whole scenes

`buildScene` places crystals from left to right and then adds the parts that are asked
for, in the order base, sources, monitors, analysis.  It stops at the first step that
fails.  `sceneScript` does the same with the lattices that a store keeps under given
names, all of which are loaded before anything is placed.
-/
import LatticeSketch.Scene.Assembly
import LatticeSketch.Scene.Script

namespace LatticeSketch

set_option autoImplicit false

/-- Which parts of a scene are built beside its crystals; the movie is part of the analysis. -/
structure SceneParts where
  sources : Bool := true
  monitors : Bool := true
  base : Bool := true
  analysis : Bool := true
  movie : Bool := false
deriving DecidableEq, Repr

/-- One step of an assembly. -/
inductive Step where
  | crystal (crystal : Crystal)
  | base
  | sources
  | monitors
  | analysis (movie : Bool)
deriving DecidableEq, Repr

/-- What a step that succeeds answers: nothing, or how many devices it placed. -/
inductive Reply where
  | done
  | placed (count : Nat)
deriving DecidableEq, Repr

/-- An outcome with another answer in the case of success. -/
def Outcome.map {α β : Type} (outcome : Outcome α) (f : α → β) : Outcome β :=
  ⟨outcome.result.map f, outcome.assembly, outcome.log⟩

namespace Assembly

/-- Carries out one step. -/
def perform (assembly : Assembly) : Step → Outcome Reply
  | .crystal crystal => (assembly.addCrystal crystal).map fun () => .done
  | .base => assembly.addBase.map fun () => .done
  | .sources => assembly.addSources.map .placed
  | .monitors => assembly.addMonitors.map .placed
  | .analysis movie => (assembly.addAnalysis movie).map fun () => .done

/-- Carries out steps whatever becomes of them. -/
def performEach (assembly : Assembly) (steps : List Step) : Assembly :=
  steps.foldl (fun assembly step => (assembly.perform step).assembly) assembly

/-- Carries out steps up to the first that fails. -/
def performAll (assembly : Assembly) : List Step → Except Fault Assembly
  | [] => .ok assembly
  | step :: rest =>
      let outcome := assembly.perform step
      match outcome.result with
      | .error fault => .error fault
      | .ok _ => outcome.assembly.performAll rest

end Assembly

/-- The steps that build a scene. -/
def SceneParts.steps (parts : SceneParts) (crystals : List Crystal) : List Step :=
  crystals.map .crystal ++
    (if parts.base then [.base] else []) ++
    (if parts.sources then [.sources] else []) ++
    (if parts.monitors then [.monitors] else []) ++
    (if parts.analysis then [.analysis parts.movie] else [])

/-- The session of a whole scene. -/
def buildScene (crystals : List Crystal) (settings : Settings) (parts : SceneParts) :
    Except Fault Session :=
  ((Assembly.start .fresh settings).performAll (parts.steps crystals)).map Assembly.session

/-- The crystals kept under `names`, up to the first that cannot be loaded. -/
def loadCrystals {σ : Type} [LatticeStore σ] (store : σ) (settings : Settings) :
    List String → Except Fault (List Crystal)
  | [] => .ok []
  | name :: rest =>
      match Crystal.load store name settings.latticeConstant settings.depth with
      | .error fault => .error fault
      | .ok crystal => (loadCrystals store settings rest).map (crystal :: ·)

/-- The title of a scene built from stored lattices. -/
def sceneTitle (settings : Settings) : String :=
  "Lattice constant: " ++ Decimal.scientific settings.latticeConstant ++ " m"

/-- The script of the scene made of the lattices kept under `names`. -/
def sceneScript {σ : Type} [LatticeStore σ] (store : σ) (names : List String)
    (settings : Settings) (parts : SceneParts) (time : String) : Except Fault String :=
  match loadCrystals store settings names with
  | .error fault => .error fault
  | .ok crystals =>
      (buildScene crystals settings parts).map fun session =>
        session.script (sceneTitle settings) time

end LatticeSketch
