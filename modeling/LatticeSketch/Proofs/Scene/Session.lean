/-
# LatticeSketch.Proofs.Scene.Session -- what a series of upserts leaves

Upserts take objects away by name, whatever their kinds.  After a series of them the objects
of other names are still there, and of the upserted ones those whose name no later one has
(`objects_upsertAll`): `lastOfNames` drops every other one.

A name is looked up behind a deletion or an upsert as before, unless it is the name that was
deleted or put in (`object?_delete`, `object?_upsert`).
-/
import LatticeSketch.Scene.Session

namespace LatticeSketch

set_option autoImplicit false

/-- The objects of a series whose name no later one has. -/
def lastOfNames : List SceneObject → List SceneObject
  | [] => []
  | object :: rest =>
      if object.name ∈ rest.map SceneObject.name then lastOfNames rest
      else object :: lastOfNames rest

/-- The objects of a series whose name is none of `names`. -/
def without (names : List String) (objects : List SceneObject) : List SceneObject :=
  objects.filter fun object => object.name ∉ names

theorem without_append (names : List String) (first second : List SceneObject) :
    without names (first ++ second) = without names first ++ without names second :=
  List.filter_append first second

theorem without_without (first second : List String) (objects : List SceneObject) :
    without second (without first objects) = without (first ++ second) objects := by
  rw [without, without, without, List.filter_filter]
  refine List.filter_congr fun object _ => ?_
  simp [Bool.and_comm]

theorem without_nil (objects : List SceneObject) : without [] objects = objects :=
  List.filter_eq_self.2 fun _ _ => by simp

/-- The last objects of two series together: the second takes away what it has names of. -/
theorem lastOfNames_append (first second : List SceneObject) :
    lastOfNames (first ++ second) =
      without (second.map SceneObject.name) (lastOfNames first) ++ lastOfNames second := by
  induction first with
  | nil => rfl
  | cons object rest ih =>
      rw [List.cons_append, lastOfNames, lastOfNames, ih, List.map_append]
      by_cases inRest : object.name ∈ rest.map SceneObject.name
      · rw [if_pos inRest, if_pos (List.mem_append_left _ inRest)]
      · rw [if_neg inRest]
        by_cases inSecond : object.name ∈ second.map SceneObject.name
        · rw [if_pos (List.mem_append_right _ inSecond), without, without,
            List.filter_cons_of_neg (by simpa using inSecond)]
        · rw [if_neg (by simp only [List.mem_append, inRest, inSecond, or_self, not_false_eq_true]),
            without, without, List.filter_cons_of_pos (by simpa using inSecond)]
          rfl

namespace Session

theorem upsertAll_cons (session : Session) (object : SceneObject) (rest : List SceneObject) :
    session.upsertAll (object :: rest) = (session.upsert object).upsertAll rest := rfl

theorem upsertAll_append (session : Session) (first second : List SceneObject) :
    session.upsertAll (first ++ second) = (session.upsertAll first).upsertAll second := by
  simp [upsertAll]

/-- After a series of upserts the objects of other names are there, and then the last object of
each name in the series. -/
theorem objects_upsertAll (session : Session) (objects : List SceneObject) :
    (session.upsertAll objects).objects =
      without (objects.map SceneObject.name) session.objects ++ lastOfNames objects := by
  induction objects generalizing session with
  | nil => simp [upsertAll, without_nil, lastOfNames]
  | cons object rest ih =>
      have kept : (session.upsert object).objects = without [object.name] session.objects ++
          [object] := by
        rw [objects_upsert, without]
        congr 1
        refine List.filter_congr fun other _ => ?_
        by_cases same : other.name = object.name <;> simp [same]
      rw [upsertAll_cons, ih, kept, without_append, without_without, lastOfNames,
        List.append_assoc]
      by_cases again : object.name ∈ rest.map SceneObject.name
      · rw [if_pos again, without, without, List.filter_cons_of_neg (by simpa using again)]
        rfl
      · rw [if_neg again, without, without, List.filter_cons_of_pos (by simpa using again)]
        rfl

/-- A series of upserts is recorded as a deletion and an addition of each object. -/
theorem commands_upsertAll (session : Session) (objects : List SceneObject) :
    (session.upsertAll objects).commands =
      session.commands ++ objects.flatMap fun object => [.delete object.name, .add object] := by
  induction objects generalizing session with
  | nil => simp [upsertAll]
  | cons object rest ih =>
      rw [upsertAll_cons, ih, commands_upsert, List.flatMap_cons, List.append_assoc]

theorem objects_upsertAll_fresh (objects : List SceneObject) :
    (fresh.upsertAll objects).objects = lastOfNames objects := by
  rw [objects_upsertAll]
  rfl

/-! ## Look-ups -/

theorem object?_delete (session : Session) (name other : String) :
    (session.delete name).object? other =
      if name = other then none else session.object? other := by
  rw [object?, delete, List.find?_filter]
  by_cases same : name = other
  · subst same
    rw [if_pos rfl, List.find?_eq_none]
    intro object _
    simp
  · rw [if_neg same, object?]
    congr 1
    funext object
    by_cases found : object.name = other
    · simp [found, Ne.symm same]
    · simp [found]

/-- An object that is put in is found by its name. -/
theorem object?_upsert (session : Session) (object : SceneObject) (name : String) :
    (session.upsert object).object? name =
      if object.name = name then some object else session.object? name := by
  have behind : (session.upsert object).object? name =
      ((session.delete object.name).object? name).or
        ([object].find? fun other => other.name == name) := by
    rw [upsert, add, object?, List.find?_append]
    rfl
  rw [behind, object?_delete]
  by_cases same : object.name = name
  · simp [same]
  · simp [same]

end Session

end LatticeSketch
