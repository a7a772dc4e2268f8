/-
# LatticeSketch.Crystal -- named lattices and where they are kept

A `Crystal` is a lattice with a name and its physical dimensions.  Its text lives in a
store: anything with a `LatticeStore` instance, which can load the text of a name and can
save one, handing back the store as it is afterwards whether or not it succeeded.

An edit changes the lattice first and saves it then, so its outcome (`Written`) holds the
edited lattice also when the store refuses it.
-/
import LatticeSketch.Event
import LatticeSketch.Lattice.Checkerboard
import LatticeSketch.Lattice.Resize

namespace LatticeSketch

set_option autoImplicit false

/-- Stores of the type `σ` keep lattice texts by name. -/
class LatticeStore (σ : Type) where
  /-- The text kept under a name. -/
  load : σ → String → Except Fault String
  /-- Keeps a text under a name, setting aside the one kept before. -/
  save : σ → String → String → Except Fault Unit × σ

/-- What an operation that ends in a write leaves: its outcome, the value it worked on, the
store and what was reported. -/
structure Written (σ α : Type) where
  result : Except Fault Unit
  value : α
  store : σ
  log : List Event

namespace Grid

variable {σ : Type} [LatticeStore σ]

/-- The lattice kept under `name`; rows of different widths are refused. -/
def load (store : σ) (name : String) : Except Fault Grid :=
  match LatticeStore.load store name with
  | .error fault => .error fault
  | .ok text =>
      match (Grid.ofText text).check with
      | .error fault => .error fault
      | .ok () => .ok (Grid.ofText text)

/-- Replaces the lattice by a checkerboard with the grid's flag and keeps it under `name`.
The lattice stays as it is when the store refuses the text. -/
def generate (grid : Grid) (store : σ) (name : String) (columns height : Nat) :
    Written σ Grid :=
  let model := Checkerboard.model columns height grid.evenShifted
  match LatticeStore.save store name model with
  | (.error fault, store) => ⟨.error fault, grid, store, []⟩
  | (.ok (), store) =>
      ⟨.ok (), grid.withModel model, store, [.checkerboardKept name columns height]⟩

end Grid

/-- A lattice with its name, its lattice constant, the depth of its holes and the place of
its left edge in a scene. -/
structure Crystal where
  name : String
  latticeConstant : Float
  depth : Float
  grid : Grid
  left : Float := 0
deriving DecidableEq, Repr

namespace Crystal

variable {σ : Type} [LatticeStore σ]

/-- The distance between two rows. -/
def pitch (crystal : Crystal) : Float :=
  rowPitch crystal.latticeConstant

def columns (crystal : Crystal) : Nat :=
  crystal.grid.columns

def height (crystal : Crystal) : Nat :=
  crystal.grid.height

/-- The crystal kept under `name`. -/
def load (store : σ) (name : String) (latticeConstant depth : Float) : Except Fault Crystal :=
  (Grid.load store name).map fun grid => ⟨name, latticeConstant, depth, grid, 0⟩

/-- The width and height of the lattice that a new name gets. -/
def initialSize : Nat := 5

/-- The crystal kept under `name`; a name without a lattice gets a checkerboard first. -/
def loadOrCreate (store : σ) (name : String) (latticeConstant depth : Float) :
    Except Fault Crystal × σ :=
  match load store name latticeConstant depth with
  | .error (.missingModel _ _) =>
      let made := Grid.generate {} store name initialSize initialSize
      (made.result.map fun () => ⟨name, latticeConstant, depth, made.value, 0⟩, made.store)
  | outcome => (outcome, store)

/-- Keeps the crystal's lattice under its name. -/
def keep (crystal : Crystal) (store : σ) : Written σ Crystal :=
  let (result, store) := LatticeStore.save store crystal.name crystal.grid.model
  ⟨result, crystal, store, []⟩

/-- Makes every row `sites` sites wider and keeps the lattice; nothing happens for no site. -/
def expand (crystal : Crystal) (store : σ) (sites : Nat) : Written σ Crystal :=
  if sites = 0 then ⟨.ok (), crystal, store, []⟩
  else keep { crystal with grid := crystal.grid.expand sites } store

/-- Makes every row `sites` sites narrower and keeps the lattice; nothing happens for no
site, nor when some row has too few. -/
def reduce (crystal : Crystal) (store : σ) (sites : Nat) : Written σ Crystal :=
  if sites = 0 then ⟨.ok (), crystal, store, []⟩
  else match crystal.grid.reduce sites with
    | .error fault => ⟨.error fault, crystal, store, []⟩
    | .ok grid => keep { crystal with grid := grid } store

end Crystal

end LatticeSketch
