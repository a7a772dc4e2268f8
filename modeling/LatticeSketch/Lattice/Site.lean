/-
# LatticeSketch.Lattice.Site -- the symbol catalog

A lattice sketch has one symbol per site.  `Site.ofSymbol` says what a symbol etches;
radii are fractions of the lattice constant.  A symbol of more or less than one character,
or one that the catalog does not list, leaves its site empty.
-/
namespace LatticeSketch

set_option autoImplicit false

/-- What a lattice site turns into. -/
inductive Site where
  /-- A plain hole of the given radius. -/
  | circle (radius : Float)
  /-- A waveguide bend, oriented by the sites around it. -/
  | curve
  /-- Reserved; it has no geometry. -/
  | junction
  | source
  | monitor
  | empty
deriving DecidableEq, Repr

namespace Site

/-- The radius of the rounded ends of a curve. -/
def curveRadius : Float := 0.38

/-- The radius noted for a junction. -/
def junctionRadius : Float := 0.38

/-- The radius of the fillet hole beside a curve. -/
def filletRadius : Float := 0.20

/-- The radius of the holes that a monitor has to keep clear of. -/
def monitorClearance : Float := 0.38

/-- What `symbol` stands for. -/
def ofSymbol (symbol : String) : Site :=
  match symbol.toList with
  | ['0'] => circle 0.30
  | ['1'] => circle 0.38
  | ['2'] => circle filletRadius
  | ['3'] => circle 0.16
  | ['4'] => circle 0.40
  | ['5'] => circle 0.25
  | ['c'] => curve
  | ['j'] => junction
  | ['s'] => source
  | ['m'] => monitor
  | _ => empty

/-- Whether the site is left unetched and undecorated. -/
def isEmpty (site : Site) : Bool :=
  site matches empty

/-- Whether the catalog lists `symbol`; it lists `.` as the empty site. -/
def isKnown (symbol : String) : Bool :=
  symbol == "." || !(ofSymbol symbol).isEmpty

end Site

end LatticeSketch
