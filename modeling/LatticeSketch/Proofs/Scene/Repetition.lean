/-
# LatticeSketch.Proofs.Scene.Repetition -- the same steps once more over their own session

What the steps of a run put in is settled by the settings and the steps alone, also where some of
the steps fail (`session_assembled`).  Over any session the run leaves the objects of other
names where they were and its own last objects behind them; a second run takes exactly those
away and puts them back in the same order.  Running the same steps again over the session that
they have left therefore changes no object (`objects_assembled_again`).
-/
import LatticeSketch.Proofs.Scene.Replies

namespace LatticeSketch

set_option autoImplicit false

/-- Every object of a series has a name of the series. -/
theorem without_lastOfNames (objects : List SceneObject) :
    without (objects.map SceneObject.name) (lastOfNames objects) = [] := by
  refine List.filter_eq_nil_iff.2 fun object last => ?_
  have named := List.mem_map_of_mem (f := SceneObject.name) (mem_of_mem_lastOfNames last)
  simpa using named

/-- A series that is upserted twice leaves what it leaves once. -/
theorem Session.objects_upsertAll_again (session : Session) (objects : List SceneObject) :
    ((session.upsertAll objects).upsertAll objects).objects =
      (session.upsertAll objects).objects := by
  let names := objects.map SceneObject.name
  have apart : without names (without names session.objects) = without names session.objects := by
    simp only [without, List.filter_filter, Bool.and_self]
  calc ((session.upsertAll objects).upsertAll objects).objects
      = without names (session.upsertAll objects).objects ++ lastOfNames objects :=
        objects_upsertAll _ _
    _ = without names (without names session.objects ++ lastOfNames objects) ++
          lastOfNames objects := by rw [objects_upsertAll session objects]
    _ = without names session.objects ++ lastOfNames objects := by
        rw [without_append, apart, without_lastOfNames, List.append_nil]
    _ = (session.upsertAll objects).objects := (objects_upsertAll session objects).symm

namespace Assembly

/-- The session that steps leave when a new assembly carries them out over `session`, whatever
becomes of them. -/
def assembled (settings : Settings) (steps : List Step) (session : Session) : Session :=
  ((start session settings).performEach steps).session

/-- A run puts in the same objects over every session. -/
theorem session_assembled (settings : Settings) (steps : List Step) (session : Session) :
    assembled settings steps session =
      session.upsertAll ((start .fresh settings).writes steps) := by
  rw [assembled, session_performEach, (alike_start session .fresh settings).writes steps]
  rfl

/-- The same steps carried out again by a new assembly, over the session that they have left,
leave the same objects in the same order: those of the first session that none of them has
replaced, and then the last one of each name that they have put in. -/
theorem objects_assembled_again (settings : Settings) (steps : List Step) (session : Session) :
    (assembled settings steps session).objects =
        without (((start .fresh settings).writes steps).map SceneObject.name) session.objects ++
          lastOfNames ((start .fresh settings).writes steps) ∧
      (assembled settings steps (assembled settings steps session)).objects =
        (assembled settings steps session).objects := by
  constructor
  · rw [session_assembled, Session.objects_upsertAll]
  · rw [session_assembled, session_assembled]
    exact Session.objects_upsertAll_again session _

end Assembly

end LatticeSketch
