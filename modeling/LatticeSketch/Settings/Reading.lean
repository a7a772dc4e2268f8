/-
# LatticeSketch.Settings.Reading -- settings as JSON

The keys of the settings and of their nested records.  Every key may be left out; what is
left out has its default, at every level.
-/
import LatticeSketch.Json.Record
import LatticeSketch.Settings.Basic

namespace LatticeSketch

set_option autoImplicit false

/-- The policy called `name`; letter case matters. -/
def Boundary.ofName? (name : String) : Option Boundary :=
  if name = "empty" then some empty else if name = "reject" then some reject else none

def BaseSettings.fields : List (Json.Field BaseSettings) := [
  .of "material" Json.string fun base value => { base with material := value },
  .of "z_span" Json.float fun base value => { base with zSpan := value }]

def SourceSettings.fields : List (Json.Field SourceSettings) := [
  .of "amplitude" Json.float fun source value => { source with amplitude := value },
  .of "wavelength" Json.float fun source value => { source with wavelength := value },
  .of "offset" Json.float fun source value => { source with offset := value },
  .of "pulse_length" Json.float fun source value => { source with pulseLength := value },
  .of "injection_axis" Json.string fun source value => { source with injectionAxis := value },
  .of "mode_selection" Json.string fun source value => { source with modeSelection := value },
  .of "trial_modes" Json.word fun source value => { source with trialModes := value },
  .of "z_span" Json.float fun source value => { source with zSpan := value }]

def MonitorSettings.fields : List (Json.Field MonitorSettings) := [
  .of "monitor_type" Json.word fun monitor value => { monitor with monitorType := value },
  .of "frequency_points" Json.word fun monitor value => { monitor with frequencyPoints := value },
  .of "use_source_limits" Json.flag fun monitor value => { monitor with useSourceLimits := value }]

def MovieSettings.fields : List (Json.Field MovieSettings) := [
  .of "horizontal_resolution" Json.word fun movie value =>
    { movie with horizontalResolution := value },
  .of "lock_aspect_ratio" Json.flag fun movie value => { movie with lockAspectRatio := value },
  .of "scale" Json.float fun movie value => { movie with scale := value }]

def AnalysisSettings.fields : List (Json.Field AnalysisSettings) := [
  .of "fdtd_region" Json.flag fun analysis value => { analysis with fdtdRegion := value },
  .of "field_monitor" Json.flag fun analysis value => { analysis with fieldMonitor := value },
  .of "index_monitor" Json.flag fun analysis value => { analysis with indexMonitor := value },
  .of "movie" (Json.record MovieSettings.fields {}) fun analysis value =>
    { analysis with movie := value }]

def Settings.fields : List (Json.Field Settings) := [
  .of "lattice_constant" Json.float fun settings value =>
    { settings with latticeConstant := value },
  .of "zspan" Json.float fun settings value => { settings with depth := value },
  .of "x_margin" Json.float fun settings value => { settings with xMargin := value },
  .of "y_margin" Json.float fun settings value => { settings with yMargin := value },
  .of "boundary" (Json.choice Boundary.ofName?) fun settings value =>
    { settings with boundary := value },
  .of "base" (Json.record BaseSettings.fields {}) fun settings value =>
    { settings with base := value },
  .of "source" (Json.record SourceSettings.fields {}) fun settings value =>
    { settings with source := value },
  .of "monitor" (Json.record MonitorSettings.fields {}) fun settings value =>
    { settings with monitor := value },
  .of "analysis" (Json.record AnalysisSettings.fields {}) fun settings value =>
    { settings with analysis := value }]

/-- The settings that a JSON text gives. -/
def Settings.ofJson (text : String) : Except Fault Settings :=
  (Json.wholeRecord Settings.fields {} text).mapError .settings

end LatticeSketch
