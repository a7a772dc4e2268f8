/-
# LatticeSketch.Proofs.Settings.Given -- settings given in part

A JSON object may give any of the settings, and inside the objects of the nested records any of
theirs.  For a record of settings `chosen`, `parts` says how each setting is written with its value
in `chosen`, and `merge` puts the settings that are given on top of others.  Both follow the fields
of the record (`layered`, one for each record).  `restrict` is what is left of `chosen` where only
some settings are given: every other setting has its default, in the nested records too.

An object that gives each of these settings once, in any order and among any other keys, is read as
that (`Settings.ofJson_of_gives`).
-/
import LatticeSketch.Proofs.Json.Records
import LatticeSketch.Settings.Reading

namespace LatticeSketch

set_option autoImplicit false

/-- Which settings are given, a setting of a nested record by the keys on the way to it. -/
abbrev Selection := List String → Bool

/-- The keys that are given in the outermost object. -/
def Selection.here (given : Selection) (key : String) : Bool :=
  given [key]

/-- What is given inside the object of a nested record. -/
def Selection.inside (given : Selection) (record : String) : Selection :=
  fun path => given (record :: path)

/-! ## Records without nested records -/

namespace BaseSettings

/-- The fields of `chosen` that are given, on top of `base`. -/
def merge (chosen : BaseSettings) (given : String → Bool) (base : BaseSettings) : BaseSettings where
  material := if given "material" then chosen.material else base.material
  zSpan := if given "z_span" then chosen.zSpan else base.zSpan

/-- How the fields are written with their values in `chosen`. -/
def parts (chosen : BaseSettings) : List Json.Part := [
  ⟨"material", Json.Quoted chosen.material⟩,
  ⟨"z_span", Json.AsFloat chosen.zSpan⟩]

/-- The fields of `chosen` that are given, and the defaults of the others. -/
def restrict (chosen : BaseSettings) (given : Selection) : BaseSettings :=
  chosen.merge given.here {}

theorem layered (chosen : BaseSettings) : Json.Layered fields chosen.parts chosen.merge where
  nothing base := rfl
  relevant base same := by
    simp only [parts, List.forall_mem_cons] at same
    simp [merge, same]
  taken :=
    .cons (Json.taken_of Json.readAs_string (by simp [merge])) <|
    .cons (Json.taken_of Json.readAs_float (by simp [merge])) .nil

end BaseSettings

namespace SourceSettings

def merge (chosen : SourceSettings) (given : String → Bool) (base : SourceSettings) :
    SourceSettings where
  amplitude := if given "amplitude" then chosen.amplitude else base.amplitude
  wavelength := if given "wavelength" then chosen.wavelength else base.wavelength
  offset := if given "offset" then chosen.offset else base.offset
  pulseLength := if given "pulse_length" then chosen.pulseLength else base.pulseLength
  injectionAxis := if given "injection_axis" then chosen.injectionAxis else base.injectionAxis
  modeSelection := if given "mode_selection" then chosen.modeSelection else base.modeSelection
  trialModes := if given "trial_modes" then chosen.trialModes else base.trialModes
  zSpan := if given "z_span" then chosen.zSpan else base.zSpan

def parts (chosen : SourceSettings) : List Json.Part := [
  ⟨"amplitude", Json.AsFloat chosen.amplitude⟩,
  ⟨"wavelength", Json.AsFloat chosen.wavelength⟩,
  ⟨"offset", Json.AsFloat chosen.offset⟩,
  ⟨"pulse_length", Json.AsFloat chosen.pulseLength⟩,
  ⟨"injection_axis", Json.Quoted chosen.injectionAxis⟩,
  ⟨"mode_selection", Json.Quoted chosen.modeSelection⟩,
  ⟨"trial_modes", Json.AsWord chosen.trialModes⟩,
  ⟨"z_span", Json.AsFloat chosen.zSpan⟩]

def restrict (chosen : SourceSettings) (given : Selection) : SourceSettings :=
  chosen.merge given.here {}

theorem layered (chosen : SourceSettings) : Json.Layered fields chosen.parts chosen.merge where
  nothing base := rfl
  relevant base same := by
    simp only [parts, List.forall_mem_cons] at same
    simp [merge, same]
  taken :=
    .cons (Json.taken_of Json.readAs_float (by simp [merge])) <|
    .cons (Json.taken_of Json.readAs_float (by simp [merge])) <|
    .cons (Json.taken_of Json.readAs_float (by simp [merge])) <|
    .cons (Json.taken_of Json.readAs_float (by simp [merge])) <|
    .cons (Json.taken_of Json.readAs_string (by simp [merge])) <|
    .cons (Json.taken_of Json.readAs_string (by simp [merge])) <|
    .cons (Json.taken_of Json.readAs_word (by simp [merge])) <|
    .cons (Json.taken_of Json.readAs_float (by simp [merge])) .nil

end SourceSettings

namespace MonitorSettings

def merge (chosen : MonitorSettings) (given : String → Bool) (base : MonitorSettings) :
    MonitorSettings where
  monitorType := if given "monitor_type" then chosen.monitorType else base.monitorType
  frequencyPoints :=
    if given "frequency_points" then chosen.frequencyPoints else base.frequencyPoints
  useSourceLimits :=
    if given "use_source_limits" then chosen.useSourceLimits else base.useSourceLimits

def parts (chosen : MonitorSettings) : List Json.Part := [
  ⟨"monitor_type", Json.AsWord chosen.monitorType⟩,
  ⟨"frequency_points", Json.AsWord chosen.frequencyPoints⟩,
  ⟨"use_source_limits", Json.AsFlag chosen.useSourceLimits⟩]

def restrict (chosen : MonitorSettings) (given : Selection) : MonitorSettings :=
  chosen.merge given.here {}

theorem layered (chosen : MonitorSettings) : Json.Layered fields chosen.parts chosen.merge where
  nothing base := rfl
  relevant base same := by
    simp only [parts, List.forall_mem_cons] at same
    simp [merge, same]
  taken :=
    .cons (Json.taken_of Json.readAs_word (by simp [merge])) <|
    .cons (Json.taken_of Json.readAs_word (by simp [merge])) <|
    .cons (Json.taken_of Json.readAs_flag (by simp [merge])) .nil

end MonitorSettings

namespace MovieSettings

def merge (chosen : MovieSettings) (given : String → Bool) (base : MovieSettings) :
    MovieSettings where
  horizontalResolution :=
    if given "horizontal_resolution" then chosen.horizontalResolution
    else base.horizontalResolution
  lockAspectRatio :=
    if given "lock_aspect_ratio" then chosen.lockAspectRatio else base.lockAspectRatio
  scale := if given "scale" then chosen.scale else base.scale

def parts (chosen : MovieSettings) : List Json.Part := [
  ⟨"horizontal_resolution", Json.AsWord chosen.horizontalResolution⟩,
  ⟨"lock_aspect_ratio", Json.AsFlag chosen.lockAspectRatio⟩,
  ⟨"scale", Json.AsFloat chosen.scale⟩]

def restrict (chosen : MovieSettings) (given : Selection) : MovieSettings :=
  chosen.merge given.here {}

theorem layered (chosen : MovieSettings) : Json.Layered fields chosen.parts chosen.merge where
  nothing base := rfl
  relevant base same := by
    simp only [parts, List.forall_mem_cons] at same
    simp [merge, same]
  taken :=
    .cons (Json.taken_of Json.readAs_word (by simp [merge])) <|
    .cons (Json.taken_of Json.readAs_flag (by simp [merge])) <|
    .cons (Json.taken_of Json.readAs_float (by simp [merge])) .nil

end MovieSettings

/-! ## Records with nested records

A nested record that is given is given in part as well, so what is put on top is the record with its
nested records restricted. -/

namespace AnalysisSettings

def merge (chosen : AnalysisSettings) (given : String → Bool) (base : AnalysisSettings) :
    AnalysisSettings where
  fdtdRegion := if given "fdtd_region" then chosen.fdtdRegion else base.fdtdRegion
  fieldMonitor := if given "field_monitor" then chosen.fieldMonitor else base.fieldMonitor
  indexMonitor := if given "index_monitor" then chosen.indexMonitor else base.indexMonitor
  movie := if given "movie" then chosen.movie else base.movie

def parts (chosen : AnalysisSettings) (given : Selection) : List Json.Part := [
  ⟨"fdtd_region", Json.AsFlag chosen.fdtdRegion⟩,
  ⟨"field_monitor", Json.AsFlag chosen.fieldMonitor⟩,
  ⟨"index_monitor", Json.AsFlag chosen.indexMonitor⟩,
  ⟨"movie", Json.Gives chosen.movie.parts (given.inside "movie").here⟩]

/-- The record with its nested record restricted. -/
def narrow (chosen : AnalysisSettings) (given : Selection) : AnalysisSettings :=
  { chosen with movie := chosen.movie.restrict (given.inside "movie") }

def restrict (chosen : AnalysisSettings) (given : Selection) : AnalysisSettings :=
  (chosen.narrow given).merge given.here {}

theorem layered (chosen : AnalysisSettings) (given : Selection) :
    Json.Layered fields (chosen.parts given) (chosen.narrow given).merge where
  nothing base := rfl
  relevant base same := by
    simp only [parts, List.forall_mem_cons] at same
    simp [merge, same]
  taken :=
    .cons (Json.taken_of Json.readAs_flag (by simp [merge, narrow])) <|
    .cons (Json.taken_of Json.readAs_flag (by simp [merge, narrow])) <|
    .cons (Json.taken_of Json.readAs_flag (by simp [merge, narrow])) <|
    .cons (Json.taken_of (fun gives => Json.readAs_record chosen.movie.layered gives {})
      (by simp [merge, narrow, MovieSettings.restrict])) .nil

end AnalysisSettings

/-- The name of a policy. -/
def Boundary.name : Boundary → String
  | empty => "empty"
  | reject => "reject"

theorem Boundary.ofName?_name (boundary : Boundary) : ofName? boundary.name = some boundary := by
  cases boundary <;> rfl

namespace Settings

def merge (chosen : Settings) (given : String → Bool) (base : Settings) : Settings where
  latticeConstant :=
    if given "lattice_constant" then chosen.latticeConstant else base.latticeConstant
  depth := if given "zspan" then chosen.depth else base.depth
  xMargin := if given "x_margin" then chosen.xMargin else base.xMargin
  yMargin := if given "y_margin" then chosen.yMargin else base.yMargin
  boundary := if given "boundary" then chosen.boundary else base.boundary
  base := if given "base" then chosen.base else base.base
  source := if given "source" then chosen.source else base.source
  monitor := if given "monitor" then chosen.monitor else base.monitor
  analysis := if given "analysis" then chosen.analysis else base.analysis

def parts (chosen : Settings) (given : Selection) : List Json.Part := [
  ⟨"lattice_constant", Json.AsFloat chosen.latticeConstant⟩,
  ⟨"zspan", Json.AsFloat chosen.depth⟩,
  ⟨"x_margin", Json.AsFloat chosen.xMargin⟩,
  ⟨"y_margin", Json.AsFloat chosen.yMargin⟩,
  ⟨"boundary", Json.Quoted chosen.boundary.name⟩,
  ⟨"base", Json.Gives chosen.base.parts (given.inside "base").here⟩,
  ⟨"source", Json.Gives chosen.source.parts (given.inside "source").here⟩,
  ⟨"monitor", Json.Gives chosen.monitor.parts (given.inside "monitor").here⟩,
  ⟨"analysis", Json.Gives (chosen.analysis.parts (given.inside "analysis"))
    (given.inside "analysis").here⟩]

/-- The settings with their nested records restricted. -/
def narrow (chosen : Settings) (given : Selection) : Settings :=
  { chosen with
    base := chosen.base.restrict (given.inside "base")
    source := chosen.source.restrict (given.inside "source")
    monitor := chosen.monitor.restrict (given.inside "monitor")
    analysis := chosen.analysis.restrict (given.inside "analysis") }

/-- The settings that are given, with their values in `chosen`, and the defaults of all others. -/
def restrict (chosen : Settings) (given : Selection) : Settings :=
  (chosen.narrow given).merge given.here {}

theorem layered (chosen : Settings) (given : Selection) :
    Json.Layered fields (chosen.parts given) (chosen.narrow given).merge where
  nothing base := rfl
  relevant base same := by
    simp only [parts, List.forall_mem_cons] at same
    simp [merge, same]
  taken :=
    .cons (Json.taken_of Json.readAs_float (by simp [merge, narrow])) <|
    .cons (Json.taken_of Json.readAs_float (by simp [merge, narrow])) <|
    .cons (Json.taken_of Json.readAs_float (by simp [merge, narrow])) <|
    .cons (Json.taken_of Json.readAs_float (by simp [merge, narrow])) <|
    .cons (Json.taken_of (Json.readAs_choice chosen.boundary.ofName?_name)
      (by simp [merge, narrow])) <|
    .cons (Json.taken_of (fun gives => Json.readAs_record chosen.base.layered gives {})
      (by simp [merge, narrow, BaseSettings.restrict])) <|
    .cons (Json.taken_of (fun gives => Json.readAs_record chosen.source.layered gives {})
      (by simp [merge, narrow, SourceSettings.restrict])) <|
    .cons (Json.taken_of (fun gives => Json.readAs_record chosen.monitor.layered gives {})
      (by simp [merge, narrow, MonitorSettings.restrict])) <|
    .cons (Json.taken_of
      (fun gives => Json.readAs_record (chosen.analysis.layered (given.inside "analysis")) gives {})
      (by simp [merge, narrow, AnalysisSettings.restrict])) .nil

/-- Settings given in part keep the defaults everywhere else. -/
theorem ofJson_of_gives (chosen : Settings) (given : Selection) {left text right : List Char}
    (before : Json.Blanks left) (gives : Json.Gives (chosen.parts given) given.here text)
    (behind : Json.Blanks right) :
    ofJson (String.ofList (left ++ text ++ right)) = .ok (chosen.restrict given) := by
  rw [ofJson, Json.wholeRecord_of_gives (chosen.layered given) before gives behind]
  rfl

/-- Two settings and one of a nested record, out of order, between values that are passed over. -/
theorem ofJson_of_gives_scattered :
    ofJson (" \x7b\"note\": [1, \x7b\"boundary\": \"\\ud800\"\x7d], " ++
        "\"boundary\":\"\\u0072eject\",\"source\":\x7b\"phase\":null,\"amplitude\":2\x7d," ++
        "\"lattice_constant\" :4.0e-7\x7d\n") =
      .ok { latticeConstant := 4.0e-7, boundary := .reject, source := { amplitude := 2 } } := by
  let chosen : Settings :=
    { latticeConstant := 4.0e-7, depth := 1, boundary := .reject
      source := { amplitude := 2, wavelength := 1 } }
  let given : Selection := fun path =>
    path ∈ [["lattice_constant"], ["boundary"], ["source"], ["source", "amplitude"]]
  have none : Json.Blanks [] := by decide
  have blank : Json.Blanks [' '] := by decide
  have spells (name : String)
      (plain : name.toList.all (fun c => 0x20 ≤ c.toNat && c != '"' && c != '\\') = true) :
      Json.Spells name.toList name.toList :=
    Json.spells_of_plain plain
  -- The value behind a key that nobody asks for, with such a key and half of a pair inside.
  have note : Json.Phrase .value "[1, \x7b\"boundary\": \"\\ud800\"\x7d]".toList := by
    have one : Json.Whole ['1'] := ⟨⟨by decide, by simp⟩, by decide⟩
    have half : Json.Code ['d', '8', '0', '0'] 0xD800 :=
      .mk (i := 13) (j := 8) (k := 0) (l := 0) (.inl rfl) (.inl rfl) (.inl rfl) (.inl rfl)
    have key := Json.stringBody_of_spells (spells "boundary" (by decide))
    exact .filled <| .more .list none (.number (.mk (.inl rfl) one .absent .absent)) none <|
      .last .list blank (.filled <| .last (.record none key none) blank
        (.string (.code half .nil)) none) none
  have amplitude : Json.AsFloat 2 ['2'] := by
    unfold Json.AsFloat
    decide +kernel
  have source : Json.Gives chosen.source.parts (given.inside "source").here
      "\x7b\"phase\":null,\"amplitude\":2\x7d".toList := by
    have object : Json.Object [("phase", "null".toList), ("amplitude", ['2'])]
        "\x7b\"phase\":null,\"amplitude\":2\x7d".toList :=
      .filled <| .more (.mk none (spells "phase" (by decide)) none) none none <|
        .last (.mk none (spells "amplitude" (by decide)) none) none none
    refine .mk object (by decide +kernel) ?_
    simp only [List.forall_mem_cons]
    exact ⟨⟨by simp [SourceSettings.parts], fun _ => .null⟩,
      ⟨by simpa [SourceSettings.parts] using amplitude, by simp [SourceSettings.parts]⟩, by simp⟩
  have reject : Json.Quoted chosen.boundary.name "\"\\u0072eject\"".toList := by
    have r : Json.Code ['0', '0', '7', '2'] 'r'.toNat :=
      .mk (i := 0) (j := 0) (k := 7) (l := 2) (.inl rfl) (.inl rfl) (.inl rfl) (.inl rfl)
    have spelled : Json.Spells _ "reject".toList := .code r (spells "eject" (by decide))
    exact .mk spelled
  have latticeConstant : Json.AsFloat 4.0e-7 "4.0e-7".toList := by
    unfold Json.AsFloat
    decide +kernel
  have object : Json.Object [
      ("note", "[1, \x7b\"boundary\": \"\\ud800\"\x7d]".toList),
      ("boundary", "\"\\u0072eject\"".toList),
      ("source", "\x7b\"phase\":null,\"amplitude\":2\x7d".toList),
      ("lattice_constant", "4.0e-7".toList)] _ :=
    .filled <| .more (.mk none (spells "note" (by decide)) none) blank none <|
      .more (.mk blank (spells "boundary" (by decide)) none) none none <|
      .more (.mk none (spells "source" (by decide)) none) none none <|
      .last (.mk none (spells "lattice_constant" (by decide)) blank) none none
  have gives : Json.Gives (chosen.parts given) given.here _ := .mk object (by decide +kernel) (by
    simp only [List.forall_mem_cons]
    exact ⟨⟨by simp [parts], fun _ => note⟩, ⟨by simpa [parts] using reject, by simp [parts]⟩,
      ⟨by simpa [parts] using source, by simp [parts]⟩,
      ⟨by simpa [parts] using latticeConstant, by simp [parts]⟩, by simp⟩)
  have line : Json.Blanks ['\n'] := by decide
  refine (congrArg ofJson ?_).trans ((ofJson_of_gives chosen given blank gives line).trans ?_)
  · decide +kernel
  · simp [restrict, merge, narrow, SourceSettings.restrict, SourceSettings.merge, Selection.here,
      Selection.inside, chosen, given]

end Settings

end LatticeSketch
