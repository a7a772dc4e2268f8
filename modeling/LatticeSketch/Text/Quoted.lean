/-
# LatticeSketch.Text.Quoted -- paths as messages show them

A quoted text stands between double quotes.  Inside, a double quote, a backslash and the
controls U+0000, tab, line feed and carriage return are written with a backslash; every
other hidden character (`Text.Printable`) is written as its code point in lower-case
hexadecimal, `\u{200b}`; a single quote needs no escape.  A quoted text therefore shows
every character of the text and takes up one line.
-/
import LatticeSketch.Text.Printable

namespace LatticeSketch.Text

set_option autoImplicit false

/-- One character between double quotes. -/
def quotedChar (c : Char) : List Char :=
  if c = '\x00' then ['\\', '0']
  else if c = '\t' then ['\\', 't']
  else if c = '\n' then ['\\', 'n']
  else if c = '\r' then ['\\', 'r']
  else if c = '"' then ['\\', '"']
  else if c = '\\' then ['\\', '\\']
  else if isPrintable c then [c]
  else '\\' :: 'u' :: '{' :: Nat.toDigits 16 c.toNat ++ ['}']

/-- `text` between double quotes, every character visible. -/
def quoted (text : String) : String :=
  String.ofList ('"' :: text.toList.flatMap quotedChar ++ ['"'])

end LatticeSketch.Text
