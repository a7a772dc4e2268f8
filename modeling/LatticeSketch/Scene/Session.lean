/-
# LatticeSketch.Scene.Session -- the commands given and the objects they leave

A `Session` keeps every command in the order given, and beside them the objects that are
alive after those commands.  Names need not be distinct: `delete` removes all objects of a
name, and `add` never looks at the names in use.  `upsert` deletes before it adds and so
leaves exactly one object of its name (`objects_upsert`).
-/
import LatticeSketch.Scene.Object

namespace LatticeSketch

set_option autoImplicit false

/-- One command to the simulation engine. -/
inductive Command where
  | delete (name : String)
  | add (object : SceneObject)
deriving DecidableEq, Repr

/-- The commands given so far and the objects alive after them, both oldest first. -/
structure Session where
  commands : List Command := []
  objects : List SceneObject := []
deriving DecidableEq, Repr

namespace Session

/-- The session in which nothing has happened. -/
def fresh : Session := {}

/-- Removes every object called `name`; there need not be one. -/
def delete (session : Session) (name : String) : Session where
  commands := session.commands ++ [.delete name]
  objects := session.objects.filter fun object => object.name != name

/-- Adds an object beside those of its name. -/
def add (session : Session) (object : SceneObject) : Session where
  commands := session.commands ++ [.add object]
  objects := session.objects ++ [object]

/-- Puts `object` in the place of all objects of its name. -/
def upsert (session : Session) (object : SceneObject) : Session :=
  (session.delete object.name).add object

/-- Puts objects in one after the other. -/
def upsertAll (session : Session) (objects : List SceneObject) : Session :=
  objects.foldl upsert session

/-- Carries out one command. -/
def perform (session : Session) : Command → Session
  | .delete name => session.delete name
  | .add object => session.add object

/-- The oldest object called `name`. -/
def object? (session : Session) (name : String) : Option SceneObject :=
  session.objects.find? fun object => object.name == name

theorem objects_upsert (session : Session) (object : SceneObject) :
    (session.upsert object).objects =
      (session.objects.filter fun other => other.name != object.name) ++ [object] := rfl

theorem commands_upsert (session : Session) (object : SceneObject) :
    (session.upsert object).commands =
      session.commands ++ [.delete object.name, .add object] := by
  simp [upsert, add, delete]

end Session

end LatticeSketch
