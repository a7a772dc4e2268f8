/-
# LatticeSketch.Json.Record -- values of known types

A record is read against a list of fields.  As an object it may give any of them in any
order; a key that names no field is passed over with its value, and a field given twice is
refused when its key is met.  As an array it gives a first part of them in the order of
the list.  Fields that are not given keep the value they have in the record that reading
starts from.

The type of a value is looked at before anything that follows it.  A value of another type
is refused (`mismatch`), but only after its own text has proved to be well-formed, brackets
excepted.
-/
import LatticeSketch.Json.Ignored

namespace LatticeSketch.Json

set_option autoImplicit false

/-- The refusal of a value that is not of the type asked for, once it has been read. -/
def refusal {α : Type} : Except JsonFault α → JsonFault
  | .error fault => fault
  | .ok _ => .wrongValue

/-- Why the value in front of a text is refused, given that it is not of the type asked for. -/
def mismatch : List Char → JsonFault
  | [] => .unfinished
  | c :: rest =>
      if c = '[' ∨ c = '{' then .wrongValue
      else if c = '"' then refusal (readString rest)
      else if c = '-' then refusal (readNumber true rest)
      else if c.isDigit then refusal (readNumber false (c :: rest))
      else refusal (skipScalar (c :: rest))

/-- The number in front of a text, blanks before it aside. -/
def number : Reader Number := fun text =>
  match skipSpace text with
  | '-' :: rest => readNumber true rest
  | text =>
      if text.head?.any Char.isDigit then readNumber false text else .error (mismatch text)

/-- A double; an integer is taken as one. -/
def float : Reader Float := fun text => do
  let (value, rest) ← number text
  match value with
  | .natural size => return (size.toFloat, rest)
  | .negative size => return (-size.toFloat, rest)
  | .real value => return (value, rest)

/-- One more than the greatest integer of 32 bits. -/
def wordBound : Nat := 0x100000000

/-- An integer of 32 bits without a sign. -/
def word : Reader UInt32 := fun text => do
  let (value, rest) ← number text
  match value with
  | .natural size => if size < wordBound then return (size.toUInt32, rest) else throw .wrongValue
  | _ => throw .wrongValue

/-- A truth value. -/
def flag : Reader Bool := fun text =>
  match skipSpace text with
  | 't' :: rest => (skipWord ['r', 'u', 'e'] rest).map fun rest => (true, rest)
  | 'f' :: rest => (skipWord ['a', 'l', 's', 'e'] rest).map fun rest => (false, rest)
  | text => .error (mismatch text)

/-- A text. -/
def string : Reader String := fun text =>
  match skipSpace text with
  | '"' :: rest => (readString rest).map fun read => (String.ofList read.1, read.2)
  | text => .error (mismatch text)

/-- A null, of which only the rest of the text matters. -/
def null (text : List Char) : Except JsonFault (List Char) :=
  match skipSpace text with
  | 'n' :: rest => skipWord ['u', 'l', 'l'] rest
  | text => .error (mismatch text)

/-- One of several named choices: its name, or an object that gives its name as the only key,
with null. -/
def choice {α : Type} (ofName? : String → Option α) : Reader α := fun text =>
  let named : Reader α := fun text => do
    let (name, rest) ← readString text
    match ofName? (String.ofList name) with
    | some value => return (value, rest)
    | none => throw .wrongValue
  match skipSpace text with
  | [] => .error .unfinished
  | '"' :: rest => named rest
  | '{' :: rest => do
      let (value, rest) ← named (← skipMark '"' rest)
      let rest ← null (← skipMark ':' rest)
      let rest ← skipMark '}' rest
      return (value, rest)
  | _ => .error .malformed

/-! ## Records -/

/-- A field of a record: its key, and how its value is read into a record. -/
structure Field (α : Type) where
  key : String
  read : α → Reader α

/-- The field whose value `read` reads and `set` puts into a record. -/
def Field.of {α β : Type} (key : String) (read : Reader β) (set : α → β → α) : Field α where
  key := key
  read record text := (read text).map fun value => (set record value.1, value.2)

variable {α : Type}

/-- The end of an array of which all fields have been read. -/
def arrayEnd (record : α) (text : List Char) : Except JsonFault (α × List Char) :=
  (skipMark ']' text).map fun rest => (record, rest)

/-- The elements of an array, for the fields that are left. -/
def elements : List (Field α) → Bool → α → Reader α
  | [], _, record, text => arrayEnd record text
  | field :: fields, first, record, text =>
      let element (text : List Char) := do
        let (record, rest) ← field.read record text
        elements fields false record rest
      match skipSpace text with
      | [] => .error .unfinished
      | c :: rest =>
          if c = ']' then .ok (record, rest)
          else if first then element (c :: rest)
          else if c = ',' then
            match skipSpace rest with
            | [] => .error .unfinished
            | d :: more => if d = ']' then .error .malformed else element (d :: more)
          else .error .malformed

/-- Reads the value of `key` into a record, or passes over it if no field has the key. -/
def readMember (fields : List (Field α)) (seen : List String) (key : String) (record : α) :
    Reader α := fun text =>
  match fields.find? fun field => field.key == key with
  | some field =>
      if seen.contains key then .error .wrongValue
      else do field.read record (← skipMark ':' text)
  | none => do
      let rest ← skipValue (← skipMark ':' text)
      return (record, rest)

/-- The members of an object.  Each round takes at least one character off the text, so
`fuel` need not exceed its length. -/
def members (fields : List (Field α)) : Nat → Bool → List String → α → Reader α
  | 0, _, _, _, _ => .error .malformed
  | fuel + 1, first, seen, record, text =>
      let keyed (text : List Char) := do
        let (key, rest) ← readString text
        let key := String.ofList key
        let (record, rest) ← readMember fields seen key record rest
        members fields fuel false (key :: seen) record rest
      match skipSpace text with
      | [] => .error .unfinished
      | c :: rest =>
          if c = '}' then .ok (record, rest)
          else if first then
            if c = '"' then keyed rest else .error .malformed
          else if c = ',' then do keyed (← skipMark '"' rest)
          else .error .malformed

/-- A record, as an object or as an array; what is not given is as in `base`. -/
def record (fields : List (Field α)) (base : α) : Reader α := fun text =>
  match skipSpace text with
  | '[' :: rest => elements fields true base rest
  | '{' :: rest => members fields (rest.length + 1) true [] base rest
  | text => .error (mismatch text)

/-- The record that makes up the whole of a text. -/
def wholeRecord (fields : List (Field α)) (base : α) (text : String) : Except JsonFault α := do
  let (value, rest) ← record fields base text.toList
  if (skipSpace rest).isEmpty then return value else throw .malformed

end LatticeSketch.Json
