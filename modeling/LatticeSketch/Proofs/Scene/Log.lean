/-
# LatticeSketch.Proofs.Scene.Log -- the commands of a session tell what it holds

A session keeps its commands and its objects by updates of their own, and the two never part.
Every call does what the commands do that it is recorded as (`call_eq_performAll`), so the commands
of a session, given to a fresh one, make it again.  The objects alive are those that the commands
add and do not delete afterwards, in the order in which they were added (`objects_performAll`).

`add` does not look at the names in use.  Without it no two objects alive have one name
(`nodup_callAll`), and a name finds the object that the last call about it put in, if that call is
not a deletion (`object?_callAll`).
-/
import LatticeSketch.Proofs.Scene.Session

namespace LatticeSketch

set_option autoImplicit false

/-- One call to a session. -/
inductive Call where
  | delete (name : String)
  | add (object : SceneObject)
  | upsert (object : SceneObject)
deriving DecidableEq, Repr

namespace Call

/-- The name that a call is about. -/
def name : Call → String
  | delete name => name
  | add object | upsert object => object.name

/-- The commands that a call is recorded as. -/
def commands : Call → List Command
  | delete name => [.delete name]
  | add object => [.add object]
  | upsert object => [.delete object.name, .add object]

/-- Whether a call adds an object beside those of its name. -/
def isAdd (call : Call) : Bool :=
  call matches add _

/-- The last of the calls that are about the name of `object` puts `object` in. -/
def LastUpsert (object : SceneObject) (calls : List Call) : Prop :=
  ∃ earlier later, calls = earlier ++ upsert object :: later ∧
    ∀ call ∈ later, call.name ≠ object.name

theorem lastUpsert_cons (object : SceneObject) (call : Call) (calls : List Call) :
    LastUpsert object (call :: calls) ↔
      LastUpsert object calls ∨
        (call = upsert object ∧ ∀ other ∈ calls, other.name ≠ object.name) := by
  constructor
  · rintro ⟨earlier, later, split, free⟩
    cases earlier with
    | nil =>
        obtain ⟨rfl, rfl⟩ := List.cons.inj split
        exact .inr ⟨rfl, free⟩
    | cons first earlier =>
        obtain ⟨rfl, rfl⟩ := List.cons.inj split
        exact .inl ⟨earlier, later, rfl, free⟩
  · rintro (⟨earlier, later, rfl, free⟩ | ⟨rfl, free⟩)
    · exact ⟨call :: earlier, later, rfl, free⟩
    · exact ⟨[], calls, rfl, free⟩

end Call

/-- The objects that commands add and do not delete afterwards, in the order in which they are
added. -/
def survivors : List Command → List SceneObject
  | [] => []
  | .delete _ :: later => survivors later
  | .add object :: later =>
      if .delete object.name ∈ later then survivors later else object :: survivors later

namespace Session

/-- Carries out one call. -/
def call (session : Session) : Call → Session
  | .delete name => session.delete name
  | .add object => session.add object
  | .upsert object => session.upsert object

/-- Carries out calls one after the other. -/
def callAll (session : Session) (calls : List Call) : Session :=
  calls.foldl call session

/-- Carries out commands one after the other. -/
def performAll (session : Session) (commands : List Command) : Session :=
  commands.foldl perform session

/-! ## Commands -/

section Commands

variable (session : Session)

theorem performAll_cons (command : Command) (later : List Command) :
    session.performAll (command :: later) = (session.perform command).performAll later := rfl

theorem performAll_append (first second : List Command) :
    session.performAll (first ++ second) = (session.performAll first).performAll second :=
  List.foldl_append

theorem commands_perform (command : Command) :
    (session.perform command).commands = session.commands ++ [command] := by
  cases command <;> rfl

theorem commands_performAll (commands : List Command) :
    (session.performAll commands).commands = session.commands ++ commands := by
  induction commands generalizing session with
  | nil => exact (List.append_nil _).symm
  | cons command later ih =>
      rw [performAll_cons, ih, commands_perform, List.append_assoc]
      rfl

/-- Commands leave the objects that they do not delete, and behind them those that they add for
good. -/
theorem objects_performAll (commands : List Command) :
    (session.performAll commands).objects =
      (session.objects.filter fun object => .delete object.name ∉ commands) ++
        survivors commands := by
  induction commands generalizing session with
  | nil =>
      rw [survivors, List.append_nil, List.filter_eq_self.2 fun object _ => by simp]
      rfl
  | cons command later ih =>
      rw [performAll_cons, ih]
      cases command with
      | delete name =>
          rw [survivors, perform, delete, List.filter_filter]
          congr 1
          refine List.filter_congr fun object _ => ?_
          by_cases same : object.name = name <;> simp [same]
      | add object =>
          rw [survivors, perform, add, List.filter_append, List.append_assoc]
          by_cases deleted : .delete object.name ∈ later <;> simp [deleted]

/-- A call does what it is recorded as. -/
theorem call_eq_performAll (call : Call) :
    session.call call = session.performAll call.commands := by
  cases call <;> rfl

theorem callAll_cons (call : Call) (rest : List Call) :
    session.callAll (call :: rest) = (session.call call).callAll rest := rfl

theorem callAll_eq_performAll (calls : List Call) :
    session.callAll calls = session.performAll (calls.flatMap Call.commands) := by
  induction calls generalizing session with
  | nil => rfl
  | cons call rest ih =>
      rw [callAll_cons, ih, call_eq_performAll, List.flatMap_cons, performAll_append]

end Commands

/-- The commands of a session are those of its calls. -/
theorem commands_callAll_fresh (calls : List Call) :
    (fresh.callAll calls).commands = calls.flatMap Call.commands := by
  rw [callAll_eq_performAll, commands_performAll]
  rfl

/-! ## Calls that put one object in the place of another -/

section Upserts

variable {session : Session}

theorem nodup_delete (distinct : (session.objects.map SceneObject.name).Nodup) (name : String) :
    ((session.delete name).objects.map SceneObject.name).Nodup :=
  distinct.sublist (List.filter_sublist.map _)

theorem nodup_upsert (distinct : (session.objects.map SceneObject.name).Nodup)
    (object : SceneObject) :
    ((session.upsert object).objects.map SceneObject.name).Nodup := by
  rw [objects_upsert, List.map_append, List.nodup_append]
  refine ⟨nodup_delete distinct object.name, by simp, ?_⟩
  rintro name kept last inLast rfl
  obtain ⟨other, left, same⟩ := List.mem_map.1 kept
  have differ : other.name ≠ object.name := by simpa using (List.mem_filter.1 left).2
  exact differ (same.trans (List.mem_singleton.1 inLast))

variable {calls : List Call} (upserts : ∀ call ∈ calls, call.isAdd = false)

include upserts

theorem nodup_callAll (distinct : (session.objects.map SceneObject.name).Nodup) :
    ((session.callAll calls).objects.map SceneObject.name).Nodup := by
  induction calls generalizing session with
  | nil => exact distinct
  | cons call rest ih =>
      rw [List.forall_mem_cons] at upserts
      refine ih upserts.2 ?_
      cases call with
      | delete name => exact nodup_delete distinct name
      | upsert object => exact nodup_upsert distinct object
      | add object => cases upserts.1

/-- A name finds what the last call about it put in, or what was there before if no call is about
it. -/
theorem object?_callAll (name : String) (object : SceneObject) :
    (session.callAll calls).object? name = some object ↔
      (object.name = name ∧ Call.LastUpsert object calls) ∨
        (session.object? name = some object ∧ ∀ call ∈ calls, call.name ≠ name) := by
  induction calls generalizing session with
  | nil => simp [callAll, Call.LastUpsert]
  | cons call rest ih =>
      rw [List.forall_mem_cons] at upserts
      rw [callAll_cons, ih upserts.2, Call.lastUpsert_cons, List.forall_mem_cons]
      cases call with
      | delete other =>
          rw [call, object?_delete, Call.name]
          by_cases same : other = name <;> simp [same]
      | upsert other =>
          rw [call, object?_upsert, Call.name]
          by_cases same : other.name = name
          · rw [if_pos same]
            grind
          · rw [if_neg same]
            grind
      | add other => cases upserts.1

end Upserts

/-- The commands that any calls leave behind make the same session again, with the same objects and
the same commands.  Its objects are those that the commands add and do not delete afterwards, in
their order.  If all calls are upserts and deletions, the names alive are distinct, and a name finds
an object exactly if the last call about the name has upserted that object. -/
theorem replayed_of_calls (calls : List Call) :
    let session := fresh.callAll calls
    fresh.performAll session.commands = session ∧
    session.objects = survivors session.commands ∧
    ((∀ call ∈ calls, call.isAdd = false) →
      (session.objects.map SceneObject.name).Nodup ∧
      ∀ name object, session.object? name = some object ↔
        object.name = name ∧ Call.LastUpsert object calls) := by
  intro session
  have again : fresh.performAll session.commands = session := by
    rw [commands_callAll_fresh, ← callAll_eq_performAll]
  refine ⟨again, ?_, ?_⟩
  · have objects := fresh.objects_performAll session.commands
    rwa [again] at objects
  · intro upserts
    refine ⟨nodup_callAll upserts List.nodup_nil, ?_⟩
    intro name object
    rw [object?_callAll upserts]
    simp [fresh, object?]

/-- A base that is put in twice, and a movie that is deleted again. -/
theorem replayed_of_calls_twice :
    let calls := [.upsert ⟨"base", .rectangle, []⟩, .upsert ⟨"movie", .movie, []⟩,
      .upsert ⟨"base", .rectangle, [("x", .integer 2)]⟩, .delete "movie"]
    (∀ call ∈ calls, call.isAdd = false) ∧
      ((fresh.callAll calls).objects.map SceneObject.name).Nodup ∧
      (fresh.callAll calls).object? "base" = some ⟨"base", .rectangle, [("x", .integer 2)]⟩ := by
  intro calls
  have upserts : ∀ call ∈ calls, call.isAdd = false := by decide
  obtain ⟨distinct, found⟩ := (replayed_of_calls calls).2.2 upserts
  refine ⟨upserts, distinct, (found _ _).2 ⟨rfl, ?_⟩⟩
  exact ⟨[.upsert ⟨"base", .rectangle, []⟩, .upsert ⟨"movie", .movie, []⟩], [.delete "movie"], rfl,
    by decide⟩

end Session

end LatticeSketch
