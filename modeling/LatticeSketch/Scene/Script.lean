/-
# LatticeSketch.Scene.Script -- a session as a runnable script

The script opens with comment lines (a title, the time, the structure groups alive at the
end), switches the engine to layout mode and then gives every command of the session.
Names, keys and texts are written as they are: nothing is escaped.
-/
import LatticeSketch.Geometry.Directive
import LatticeSketch.Scene.Session

namespace LatticeSketch

set_option autoImplicit false

/-- The script lines of one command. -/
def Command.script : Command → String
  | delete name => "select(\"" ++ name ++ "\");\ndelete;\n"
  | add object =>
      object.kind.command ++ ";\n" ++ Directive.setText "name" object.name ++
        String.join (object.properties.map fun property =>
          Directive.setLine property.1 property.2.literal)

namespace Session

/-- The names of the structure groups alive. -/
def crystalNames (session : Session) : List String :=
  (session.objects.filter fun object => object.kind == .structureGroup).map SceneObject.name

/-- The comment line that frames the head of a script. -/
def rule : String :=
  "# =============================================================================\n"

/-- The head of a script: what it is, when it was written and which crystals it holds. -/
def scriptHead (title time : String) (crystals : List String) : String :=
  rule ++
    "# Lumerical FDTD scene - auto-generated from crystal lattice models\n" ++
    "# " ++ title ++ "\n" ++
    "#\n" ++
    "# Generated: " ++ time ++ "\n" ++
    "# Crystals: " ++ String.intercalate ", " crystals ++ "\n" ++
    rule ++ "\nswitchtolayout;\n"

/-- The script of the session. -/
def script (session : Session) (title time : String) : String :=
  scriptHead title time session.crystalNames ++
    String.join (session.commands.map Command.script)

end Session

end LatticeSketch
