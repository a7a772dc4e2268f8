/-
# LatticeSketch.Text.Blank -- the characters that separate symbols

`isBlank` is the Unicode property White_Space, the class by which a lattice row is split
into symbols and an empty row is told from a drawn one.  The only blank that the offset
of a row looks at is the space U+0020 itself.
-/
namespace LatticeSketch.Text

set_option autoImplicit false

/-- The code points with the property White_Space above ASCII. -/
def wideBlanks : List Nat :=
  [0x85, 0xA0, 0x1680, 0x2000, 0x2001, 0x2002, 0x2003, 0x2004, 0x2005, 0x2006, 0x2007,
   0x2008, 0x2009, 0x200A, 0x2028, 0x2029, 0x202F, 0x205F, 0x3000]

/-- Whether `c` has the property White_Space. -/
def isBlank (c : Char) : Bool :=
  c = ' ' || (0x09 ≤ c.toNat && c.toNat ≤ 0x0D) || wideBlanks.contains c.toNat

end LatticeSketch.Text
