/-
# LatticeSketch.Proofs.Scene.Records -- the objects of a scene, written out

What a scene is to hold is said here object by object and property by property, apart from the steps
that put the objects in: the group of a crystal, a mode source at each source site of the first
crystal, a power monitor at each monitor site of the last one, and the rectangles that cover the
lattice and its margins.

The steps of an assembly put in exactly these objects (`crystalObject_reference`,
`map_sourceObject`, `map_monitorObject`, `baseObject_eq`, `analysisObjects_eq`).
-/
import LatticeSketch.Proofs.Compiler.CellByCell
import LatticeSketch.Scene.Assembly

namespace LatticeSketch

set_option autoImplicit false

open CellByCell (reference sources monitors)

/-! ## Crystals -/

/-- The group of a crystal where it stands, with the script of what it compiles to. -/
def sceneGroup (crystal : Crystal) : SceneObject where
  name := crystal.name
  kind := .structureGroup
  properties := [
    ("x", .number crystal.left), ("y", .number 0), ("z", .number 0),
    ("script", .text (reference crystal).stream.script)]

/-! ## Devices -/

/-- The mode source at a numbered site of the first crystal, as wide as two lattice constants.  Its
pulse is given by the frequency that belongs to its wavelength. -/
def sceneSource (settings : SourceSettings) (first : Crystal) (site : Placement) : SceneObject where
  name := "source_" ++ site.index.repr
  kind := .modeSource
  properties := [
    ("amplitude", .number settings.amplitude),
    ("injection axis", .text settings.injectionAxis),
    ("mode selection", .text settings.modeSelection),
    ("override global source settings", .flag true), ("set time domain", .flag true),
    ("pulse type", .text "standard"),
    ("frequency", .number (299792458 / settings.wavelength)),
    ("offset", .number settings.offset), ("pulselength", .number settings.pulseLength),
    ("number of trial modes", .integer settings.trialModes.toNat),
    ("x", .number site.position.x), ("y", .number site.position.y),
    ("y span", .number (2 * first.latticeConstant)), ("z span", .number settings.zSpan)]

/-- The power monitor at a numbered site of the last crystal: two rows high, less 0.38 lattice
constants at either end. -/
def sceneMonitor (settings : MonitorSettings) (last : Crystal) (site : Placement) :
    SceneObject where
  name := "monitor_" ++ site.index.repr
  kind := .powerMonitor
  properties := [
    ("monitor type", .integer settings.monitorType.toNat),
    ("override global monitor settings", .flag true),
    ("frequency points", .integer settings.frequencyPoints.toNat),
    ("use source limits", .flag settings.useSourceLimits),
    ("x", .number site.position.x), ("y", .number site.position.y),
    ("y span",
      .number (2 * rowPitch last.latticeConstant - 2 * (0.38 * last.latticeConstant)))]

/-- The sources of a crystal that comes first, numbered from 1. -/
def sceneSources (settings : Settings) (first : Crystal) : List SceneObject :=
  (sources first first.grid.drawnCells).map (sceneSource settings.source first)

/-- The monitors of a crystal that comes last, numbered from 1. -/
def sceneMonitors (settings : Settings) (last : Crystal) : List SceneObject :=
  (monitors last last.grid.drawnCells).map (sceneMonitor settings.monitor last)

/-! ## Covers -/

/-- The rectangle that covers a lattice and its margins. -/
structure Cover where
  x : Float
  xSpan : Float
  y : Float
  ySpan : Float

namespace Cover

/-- What covers a lattice of the given size. -/
def around (settings : Settings) (width height : Float) : Cover where
  x := width / 2
  xSpan := width + 2 * settings.xMargin
  y := height / 2
  ySpan := height + 2 * settings.yMargin

def base (cover : Cover) (settings : BaseSettings) : SceneObject where
  name := "base"
  kind := .rectangle
  properties := [
    ("x", .number cover.x), ("x span", .number cover.xSpan),
    ("y", .number cover.y), ("y span", .number cover.ySpan),
    ("material", .text settings.material), ("z span", .number settings.zSpan)]

def region (cover : Cover) (kind : ObjectKind) (name : String) (more : List (String × Value)) :
    SceneObject where
  name := name
  kind := kind
  properties :=
    ("x", .number cover.x) :: ("y", .number cover.y) :: ("x span", .number cover.xSpan) ::
      ("y span", .number cover.ySpan) :: more

/-- The analysis regions, each if it is switched on. -/
def regions (cover : Cover) (settings : AnalysisSettings) (movie : Bool) : List SceneObject :=
  [(settings.fdtdRegion, cover.region .fdtdRegion "FDTD" [("dimension", .text "2D")]),
    (settings.fieldMonitor, cover.region .profileMonitor "field_monitor" []),
    (settings.indexMonitor, cover.region .indexMonitor "dielectric_monitor" []),
    (movie, cover.region .movie "movie" [
      ("horizontal resolution", .integer settings.movie.horizontalResolution.toNat),
      ("lock aspect ratio", .flag settings.movie.lockAspectRatio),
      ("scale", .number settings.movie.scale)])].filterMap
    fun entry => if entry.1 then some entry.2 else none

/-- Each analysis region is the cover, with a kind, a name and further properties of its own. -/
theorem exists_region_of_mem_regions {cover : Cover} {settings : AnalysisSettings} {movie : Bool}
    {object : SceneObject} (member : object ∈ cover.regions settings movie) :
    ∃ kind name more, kind ∈ [.fdtdRegion, .profileMonitor, .indexMonitor, .movie] ∧
      object = cover.region kind name more := by
  obtain ⟨entry, listed, kept⟩ := List.mem_filterMap.1 member
  obtain ⟨-, rfl⟩ : entry.1 = true ∧ entry.2 = object := by simpa using kept
  simp only [List.mem_cons, List.not_mem_nil, or_false] at listed
  rcases listed with rfl | rfl | rfl | rfl <;> exact ⟨_, _, _, by simp, rfl⟩

end Cover

/-! ## What the steps put in -/

namespace Assembly

theorem crystalObject_reference (crystal : Crystal) :
    crystalObject crystal (reference crystal) = sceneGroup crystal := rfl

theorem map_sourceObject (settings : Settings) (first : Crystal) :
    (reference first).sources.map (sourceObject settings.source first) =
      sceneSources settings first := rfl

theorem map_monitorObject (settings : Settings) (last : Crystal) :
    (reference last).monitors.map (monitorObject settings.monitor last) =
      sceneMonitors settings last := rfl

theorem baseObject_eq (settings : Settings) (width height : Float) :
    baseObject settings width height =
      (Cover.around settings width height).base settings.base := rfl

theorem analysisObjects_eq (settings : Settings) (width height : Float) (movie : Bool) :
    analysisObjects settings width height movie =
      (Cover.around settings width height).regions settings.analysis movie := by
  unfold Cover.regions analysisObjects
  dsimp only
  cases settings.analysis.fdtdRegion <;> cases settings.analysis.fieldMonitor <;>
    cases settings.analysis.indexMonitor <;> cases movie <;> rfl

end Assembly

end LatticeSketch
