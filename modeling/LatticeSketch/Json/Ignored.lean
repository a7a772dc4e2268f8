/-
# LatticeSketch.Json.Ignored -- passing over values

The value of a key that nobody asks for has to be well-formed but may be anything, nested
to any depth.  `skipValue` passes over it with a stack of the brackets that are open, one
value or bracket at a time.
-/
import LatticeSketch.Json.Number

namespace LatticeSketch.Json

set_option autoImplicit false

/-- An open bracket. -/
inductive Bracket where
  | list
  | record
deriving DecidableEq, Repr

def Bracket.closing : Bracket → Char
  | list => ']'
  | record => '}'

/-- What has to come next. -/
inductive Awaited where
  /-- A value. -/
  | value
  /-- A value, or the end of the list or record just opened. -/
  | firstOrEnd
  /-- A comma, or the end of the innermost list or record. -/
  | commaOrEnd
deriving DecidableEq, Repr

/-- Passes over what is in front of a value inside the given bracket: a key, in a record. -/
def skipKey : Bracket → List Char → Except JsonFault (List Char)
  | .list, text => .ok text
  | .record, text => do
      let text ← skipMark '"' text
      skipMark ':' (← skipString text)

/-- Passes over a value without parts. -/
def skipScalar : List Char → Except JsonFault (List Char)
  | [] => .error .unfinished
  | c :: rest =>
      if c = 'n' then skipWord ['u', 'l', 'l'] rest
      else if c = 't' then skipWord ['r', 'u', 'e'] rest
      else if c = 'f' then skipWord ['a', 'l', 's', 'e'] rest
      else if c = '"' then skipString rest
      else if c = '-' then skipNumber rest
      else if c.isDigit then skipNumber (c :: rest)
      else .error .malformed

/-- Passes over the rest of a value inside the open brackets.  Two rounds take at least one
character off the text, so `fuel` need not exceed twice its length by more than two. -/
def skipOpen : Nat → Awaited → List Bracket → List Char → Except JsonFault (List Char)
  | _, .commaOrEnd, [], text => .ok text
  | 0, _, _, _ => .error .malformed
  | fuel + 1, .value, stack, text =>
      match skipSpace text with
      | '[' :: rest => skipOpen fuel .firstOrEnd (.list :: stack) rest
      | '{' :: rest => skipOpen fuel .firstOrEnd (.record :: stack) rest
      | scalar => do skipOpen fuel .commaOrEnd stack (← skipScalar scalar)
  | fuel + 1, .firstOrEnd, stack, text =>
      match stack, skipSpace text with
      | [], _ => .error .malformed
      | _, [] => .error .unfinished
      | bracket :: outer, c :: rest =>
          if c = bracket.closing then skipOpen fuel .commaOrEnd outer rest
          else do skipOpen fuel .value stack (← skipKey bracket (c :: rest))
  | fuel + 1, .commaOrEnd, bracket :: outer, text =>
      match skipSpace text with
      | [] => .error .unfinished
      | c :: rest =>
          if c = bracket.closing then skipOpen fuel .commaOrEnd outer rest
          else if c = ',' then do skipOpen fuel .value (bracket :: outer) (← skipKey bracket rest)
          else .error .malformed

/-- Passes over one value. -/
def skipValue (text : List Char) : Except JsonFault (List Char) :=
  skipOpen (2 * text.length + 2) .value [] text

end LatticeSketch.Json
