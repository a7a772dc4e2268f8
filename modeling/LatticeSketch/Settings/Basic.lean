/-
# LatticeSketch.Settings.Basic -- what can be set for a scene

Every setting has a default.  Lengths are in metres, times in seconds.
-/
import LatticeSketch.Compiler

namespace LatticeSketch

set_option autoImplicit false

/-- The lattice constant of a new crystal. -/
def defaultLatticeConstant : Float := 0.426e-6

/-- The depth of the holes of a new crystal. -/
def defaultDepth : Float := 0.40e-6

/-- In metres per second. -/
def speedOfLight : Float := 299792458

/-- The slab under the lattice. -/
structure BaseSettings where
  material : String := "algaas_lpedraza"
  zSpan : Float := 0.36e-6
deriving DecidableEq, Repr

/-- The mode sources. -/
structure SourceSettings where
  amplitude : Float := 2.07766e8
  /-- The wavelength at the centre of the pulse. -/
  wavelength : Float := 1541.3e-9
  offset : Float := 30e-15
  pulseLength : Float := 50e-15
  injectionAxis : String := "x-axis"
  modeSelection : String := "fundamental TE mode"
  trialModes : UInt32 := 20
  zSpan : Float := 1.14e-6
deriving DecidableEq, Repr

/-- The frequency at the centre of the pulse. -/
def SourceSettings.frequency (source : SourceSettings) : Float :=
  speedOfLight / source.wavelength

/-- The power monitors. -/
structure MonitorSettings where
  /-- The engine's code for the shape of a monitor. -/
  monitorType : UInt32 := 3
  frequencyPoints : UInt32 := 300
  useSourceLimits : Bool := true
deriving DecidableEq, Repr

/-- The movie monitor. -/
structure MovieSettings where
  horizontalResolution : UInt32 := 720
  lockAspectRatio : Bool := true
  scale : Float := 2e16
deriving DecidableEq, Repr

/-- Which analysis objects a scene gets. -/
structure AnalysisSettings where
  fdtdRegion : Bool := true
  fieldMonitor : Bool := true
  indexMonitor : Bool := true
  movie : MovieSettings := {}
deriving DecidableEq, Repr

/-- All that can be set for a scene. -/
structure Settings where
  latticeConstant : Float := defaultLatticeConstant
  depth : Float := defaultDepth
  /-- How far the base and the analysis regions reach beyond the lattice on either side. -/
  xMargin : Float := 0.8e-6
  yMargin : Float := 0.8e-6
  boundary : Boundary := .empty
  base : BaseSettings := {}
  source : SourceSettings := {}
  monitor : MonitorSettings := {}
  analysis : AnalysisSettings := {}
deriving DecidableEq, Repr

end LatticeSketch
