/-
# LatticeSketch.Json.Lexeme -- words, strings and blanks of a JSON text

A reader takes characters off the front of a text and answers with a value and the rest,
or with the reason why it cannot.  It raises a fault when it reaches it, so of several
faults the one that comes first in the text is reported.

A string that is read (`readString`) must be valid text: its `\u` escapes may not leave a
surrogate alone.  A string that is passed over (`skipString`) may hold any escapes.
-/
import LatticeSketch.Fault

namespace LatticeSketch.Json

set_option autoImplicit false

/-- Reads a value off the front of a text. -/
abbrev Reader (α : Type) := List Char → Except JsonFault (α × List Char)

/-- The blanks that may stand between lexemes. -/
def isSpace (c : Char) : Bool :=
  c = ' ' || c = '\n' || c = '\t' || c = '\r'

def skipSpace (text : List Char) : List Char :=
  text.dropWhile isSpace

/-- Takes the characters of a word off the front, one by one. -/
def skipWord : List Char → List Char → Except JsonFault (List Char)
  | [], text => .ok text
  | _ :: _, [] => .error .unfinished
  | w :: word, c :: text => if c = w then skipWord word text else .error .malformed

/-- Takes one mark off the front, blanks before it aside. -/
def skipMark (mark : Char) (text : List Char) : Except JsonFault (List Char) :=
  match skipSpace text with
  | [] => .error .unfinished
  | c :: rest => if c = mark then .ok rest else .error .malformed

/-! ## Escapes -/

/-- The value of a hexadecimal digit. -/
def hexDigit? (c : Char) : Option Nat :=
  if '0' ≤ c ∧ c ≤ '9' then some (c.toNat - '0'.toNat)
  else if 'a' ≤ c ∧ c ≤ 'f' then some (c.toNat - 'a'.toNat + 10)
  else if 'A' ≤ c ∧ c ≤ 'F' then some (c.toNat - 'A'.toNat + 10)
  else none

/-- The value of four hexadecimal digits. -/
def hexFour? (a b c d : Char) : Option Nat := do
  let a ← hexDigit? a
  let b ← hexDigit? b
  let c ← hexDigit? c
  let d ← hexDigit? d
  return ((a * 16 + b) * 16 + c) * 16 + d

/-- Why fewer than four characters are no code: they may still be four bytes. -/
def shortCode (text : List Char) : JsonFault :=
  if (String.ofList text).utf8ByteSize < 4 then .unfinished else .malformed

/-- What a one-letter escape stands for. -/
def escaped? (c : Char) : Option Char :=
  if c = '"' ∨ c = '\\' ∨ c = '/' then some c
  else if c = 'b' then some '\x08'
  else if c = 'f' then some '\x0c'
  else if c = 'n' then some '\n'
  else if c = 'r' then some '\r'
  else if c = 't' then some '\t'
  else none

def isLeading (code : Nat) : Bool :=
  0xD800 ≤ code && code < 0xDC00

def isTrailing (code : Nat) : Bool :=
  0xDC00 ≤ code && code < 0xE000

/-- The character of a pair of surrogates. -/
def ofSurrogates (leading trailing : Nat) : Char :=
  Char.ofNat ((leading - 0xD800) * 0x400 + (trailing - 0xDC00) + 0x10000)

/-- Puts a character in front of what the rest of a string reads as. -/
def consChar (c : Char) (rest : Except JsonFault (List Char × List Char)) :
    Except JsonFault (List Char × List Char) :=
  rest.map fun read => (c :: read.1, read.2)

/-- The string whose opening quote has been taken off. -/
def readString : Reader (List Char)
  | [] => .error .unfinished
  | '"' :: rest => .ok ([], rest)
  | ['\\'] => .error .unfinished
  | '\\' :: 'u' :: a :: b :: c :: d :: rest =>
      match hexFour? a b c d with
      | none => .error .malformed
      | some code =>
          if isTrailing code then .error .malformed
          else if isLeading code then
            match rest with
            | [] => .error .unfinished
            | ['\\'] => .error .unfinished
            | '\\' :: 'u' :: a :: b :: c :: d :: rest =>
                match hexFour? a b c d with
                | none => .error .malformed
                | some second =>
                    if isTrailing second then consChar (ofSurrogates code second) (readString rest)
                    else .error .malformed
            | '\\' :: 'u' :: short => .error (shortCode short)
            | _ => .error .malformed
          else consChar (Char.ofNat code) (readString rest)
  | '\\' :: 'u' :: short => .error (shortCode short)
  | '\\' :: c :: rest =>
      match escaped? c with
      | none => .error .malformed
      | some meant => consChar meant (readString rest)
  | c :: rest => if c.toNat < 0x20 then .error .malformed else consChar c (readString rest)

/-- Passes over the string whose opening quote has been taken off. -/
def skipString : List Char → Except JsonFault (List Char)
  | [] => .error .unfinished
  | '"' :: rest => .ok rest
  | ['\\'] => .error .unfinished
  | '\\' :: 'u' :: a :: b :: c :: d :: rest =>
      match hexFour? a b c d with
      | none => .error .malformed
      | some _ => skipString rest
  | '\\' :: 'u' :: short => .error (shortCode short)
  | '\\' :: c :: rest =>
      match escaped? c with
      | none => .error .malformed
      | some _ => skipString rest
  | c :: rest => if c.toNat < 0x20 then .error .malformed else skipString rest

end LatticeSketch.Json
