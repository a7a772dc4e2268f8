/-
# LatticeSketch.Scene.Assembly -- crystals side by side, and what surrounds them

An `Assembly` is a scene under construction: the session it writes to, its settings, the
compiler, the crystals placed so far and the width they take up.  Each step upserts the
objects of one part of the scene:

* a crystal goes to the right of the crystals before it, as a structure group;
* sources stand at the source sites of the first crystal, power monitors at the monitor
  sites of the last one;
* the base and the analysis regions span the lattice and its margins; their height is that
  of the last crystal.

Every step but the placing of a crystal needs a crystal (`Fault.noCrystals`).  A step that
fails leaves the session, the crystals and the width as they were.
-/
import LatticeSketch.Scene.Session
import LatticeSketch.Settings.Basic

namespace LatticeSketch

set_option autoImplicit false

/-- A scene under construction. -/
structure Assembly where
  session : Session
  settings : Settings
  compiler : Compiler
  crystals : List Crystal
  /-- The width of the crystals placed so far. -/
  width : Float
deriving DecidableEq, Repr

/-- The outcome of a step, the assembly as it leaves it and what was reported. -/
structure Outcome (α : Type) where
  result : Except Fault α
  assembly : Assembly
  log : List Event

namespace Assembly

/-- An assembly that writes to `session` and has placed nothing. -/
def start (session : Session) (settings : Settings) : Assembly where
  session := session
  settings := settings
  compiler := { boundary := settings.boundary }
  crystals := []
  width := 0

/-! ## Objects -/

/-- The structure group of a crystal. -/
def crystalObject (crystal : Crystal) (compiled : Compiled) : SceneObject where
  name := crystal.name
  kind := .structureGroup
  properties := [
    ("x", .number crystal.left),
    ("y", .number 0),
    ("z", .number 0),
    ("script", .text compiled.stream.script)]

/-- The mode source at a source site of `crystal`. -/
def sourceObject (settings : SourceSettings) (crystal : Crystal) (placement : Placement) :
    SceneObject where
  name := "source_" ++ placement.index.repr
  kind := .modeSource
  properties := [
    ("amplitude", .number settings.amplitude),
    ("injection axis", .text settings.injectionAxis),
    ("mode selection", .text settings.modeSelection),
    ("override global source settings", .flag true),
    ("set time domain", .flag true),
    ("pulse type", .text "standard"),
    ("frequency", .number settings.frequency),
    ("offset", .number settings.offset),
    ("pulselength", .number settings.pulseLength),
    ("number of trial modes", .integer settings.trialModes.toNat),
    ("x", .number placement.position.x),
    ("y", .number placement.position.y),
    ("y span", .number (2 * crystal.latticeConstant)),
    ("z span", .number settings.zSpan)]

/-- The power monitor at a monitor site of `crystal`; it reaches over two rows but keeps clear of
their holes. -/
def monitorObject (settings : MonitorSettings) (crystal : Crystal) (placement : Placement) :
    SceneObject where
  name := "monitor_" ++ placement.index.repr
  kind := .powerMonitor
  properties := [
    ("monitor type", .integer settings.monitorType.toNat),
    ("override global monitor settings", .flag true),
    ("frequency points", .integer settings.frequencyPoints.toNat),
    ("use source limits", .flag settings.useSourceLimits),
    ("x", .number placement.position.x),
    ("y", .number placement.position.y),
    ("y span",
      .number (2 * crystal.pitch - 2 * (Site.monitorClearance * crystal.latticeConstant)))]

/-- The slab under a lattice of the given width and height. -/
def baseObject (settings : Settings) (width height : Float) : SceneObject where
  name := "base"
  kind := .rectangle
  properties := [
    ("x", .number (width / 2)),
    ("x span", .number (width + 2 * settings.xMargin)),
    ("y", .number (height / 2)),
    ("y span", .number (height + 2 * settings.yMargin)),
    ("material", .text settings.base.material),
    ("z span", .number settings.base.zSpan)]

/-- An object that spans the lattice and its margins, with further properties of its own. -/
def regionObject (settings : Settings) (width height : Float) (kind : ObjectKind)
    (name : String) (more : List (String × Value)) : SceneObject where
  name := name
  kind := kind
  properties := [
    ("x", .number (width / 2)),
    ("y", .number (height / 2)),
    ("x span", .number (width + 2 * settings.xMargin)),
    ("y span", .number (height + 2 * settings.yMargin))] ++ more

/-- The analysis objects that the settings ask for, and a movie if asked for. -/
def analysisObjects (settings : Settings) (width height : Float) (movie : Bool) :
    List SceneObject :=
  let region := regionObject settings width height
  let analysis := settings.analysis
  (if analysis.fdtdRegion then [region .fdtdRegion "FDTD" [("dimension", .text "2D")]] else []) ++
  (if analysis.fieldMonitor then [region .profileMonitor "field_monitor" []] else []) ++
  (if analysis.indexMonitor then [region .indexMonitor "dielectric_monitor" []] else []) ++
  (if movie then [region .movie "movie" [
    ("horizontal resolution", .integer analysis.movie.horizontalResolution.toNat),
    ("lock aspect ratio", .flag analysis.movie.lockAspectRatio),
    ("scale", .number analysis.movie.scale)]] else [])

/-! ## Steps -/

/-- Places a crystal to the right of the crystals before it. -/
def addCrystal (assembly : Assembly) (crystal : Crystal) : Outcome Unit :=
  let crystal := { crystal with left := assembly.width }
  let report := assembly.compiler.compile crystal
  match report.result with
  | .error fault => ⟨.error fault, { assembly with compiler := report.compiler }, report.log⟩
  | .ok compiled =>
      ⟨.ok (),
        { assembly with
          session := assembly.session.upsert (crystalObject crystal compiled)
          compiler := report.compiler
          crystals := assembly.crystals ++ [crystal]
          width := assembly.width + crystal.columns.toFloat * crystal.latticeConstant },
        report.log ++ [.crystalPlaced crystal.name crystal.left (compiled.stream.size - 1)]⟩

/-- Compiles `crystal?` once more, upserts one object per device found and counts them. -/
def addDevices (assembly : Assembly) (placing : Placing) (crystal? : Option Crystal)
    (devices : Compiled → List Placement) (object : Crystal → Placement → SceneObject)
    (event : Nat → Event) : Outcome Nat :=
  match crystal? with
  | none => ⟨.error (.noCrystals placing), assembly, []⟩
  | some crystal =>
      let report := assembly.compiler.compile crystal
      match report.result with
      | .error fault => ⟨.error fault, { assembly with compiler := report.compiler }, report.log⟩
      | .ok compiled =>
          let placements := devices compiled
          ⟨.ok placements.length,
            { assembly with
              session := assembly.session.upsertAll (placements.map (object crystal))
              compiler := report.compiler },
            report.log ++ [event placements.length]⟩

/-- Puts a mode source at every source site of the first crystal. -/
def addSources (assembly : Assembly) : Outcome Nat :=
  assembly.addDevices .sources assembly.crystals.head? Compiled.sources
    (sourceObject assembly.settings.source) .sourcesPlaced

/-- Puts a power monitor at every monitor site of the last crystal. -/
def addMonitors (assembly : Assembly) : Outcome Nat :=
  assembly.addDevices .monitors assembly.crystals.getLast? Compiled.monitors
    (monitorObject assembly.settings.monitor) .monitorsPlaced

/-- Width and height of the assembled lattice. -/
def size (assembly : Assembly) : Except Fault (Float × Float) :=
  match assembly.crystals.getLast? with
  | none => .error (.noCrystals .base)
  | some crystal =>
      .ok (assembly.width, (crystal.height - 1).toFloat * rowPitch crystal.latticeConstant)

/-- Upserts the objects that span the assembled lattice. -/
def addSpanning (assembly : Assembly) (objects : Float → Float → List SceneObject) :
    Outcome Unit :=
  match assembly.size with
  | .error fault => ⟨.error fault, assembly, []⟩
  | .ok (width, height) =>
      ⟨.ok (), { assembly with session := assembly.session.upsertAll (objects width height) }, []⟩

/-- Puts the base under the whole lattice. -/
def addBase (assembly : Assembly) : Outcome Unit :=
  assembly.addSpanning fun width height => [baseObject assembly.settings width height]

/-- Puts the analysis objects around the whole lattice. -/
def addAnalysis (assembly : Assembly) (movie : Bool) : Outcome Unit :=
  assembly.addSpanning fun width height =>
    analysisObjects assembly.settings width height movie

end Assembly

end LatticeSketch
