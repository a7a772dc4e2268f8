/-
# LatticeSketch.Proofs.Json.Grammar -- the texts of JSON values

The grammar of JSON as relations, apart from the readers.  `Phrase` derives the texts of values, and
of what may stand between a pair of brackets; a string in such a value may hold any escapes.  Where
the text of a string matters, `Spells` relates what is written between its quotes to what it stands
for, so a surrogate that is not half of a pair spells nothing.

`Object` relates the text of an object to its entries, each a key and the text of the value behind
it, in the order in which they are written.
-/
import LatticeSketch.Json.Ignored

namespace LatticeSketch.Json

set_option autoImplicit false

/-- Blanks between lexemes, or none. -/
def Blanks (text : List Char) : Prop :=
  ∀ c ∈ text, c ∈ [' ', '\t', '\n', '\r']

instance (text : List Char) : Decidable (Blanks text) :=
  List.decidableBAll (fun c => c ∈ [' ', '\t', '\n', '\r']) text

/-! ## Numbers -/

/-- One digit or more. -/
structure Digits (text : List Char) : Prop where
  nonempty : text ≠ []
  digits : ∀ c ∈ text, c.isDigit = true

/-- The digits before the point: a zero stands alone. -/
structure Whole (text : List Char) : Prop extends Digits text where
  lone : text.head? = some '0' → text.length = 1

/-- The point and the digits behind it, or nothing. -/
inductive Fraction : List Char → Prop
  | absent : Fraction []
  | present {digits : List Char} (written : Digits digits) : Fraction ('.' :: digits)

/-- The power of ten, or nothing. -/
inductive Exponent : List Char → Prop
  | absent : Exponent []
  | present {mark : Char} {sign digits : List Char} (marked : mark = 'e' ∨ mark = 'E')
      (signed : sign = [] ∨ sign = ['+'] ∨ sign = ['-']) (written : Digits digits) :
      Exponent (mark :: sign ++ digits)

/-- The text of a number. -/
inductive Numeral : List Char → Prop
  | mk {sign whole fraction exponent : List Char} (signed : sign = [] ∨ sign = ['-'])
      (ones : Whole whole) (parts : Fraction fraction) (power : Exponent exponent) :
      Numeral (sign ++ whole ++ fraction ++ exponent)

/-! ## Strings -/

/-- A character that stands for itself in a string. -/
structure Plain (c : Char) : Prop where
  printed : 0x20 ≤ c.toNat
  unquoted : c ≠ '"'
  unescaped : c ≠ '\\'

/-- What a letter behind a backslash stands for. -/
def shortEscapes : List (Char × Char) :=
  [('"', '"'), ('\\', '\\'), ('/', '/'), ('b', '\x08'), ('f', '\x0c'), ('n', '\n'), ('r', '\r'),
    ('t', '\t')]

/-- A hexadecimal digit and its value. -/
def HexDigit (c : Char) (value : Nat) : Prop :=
  "0123456789abcdef".toList[value]? = some c ∨ "0123456789ABCDEF".toList[value]? = some c

/-- The four digits of a code and its value. -/
inductive Code : List Char → Nat → Prop
  | mk {a b c d : Char} {i j k l : Nat} (first : HexDigit a i) (second : HexDigit b j)
      (third : HexDigit c k) (fourth : HexDigit d l) :
      Code [a, b, c, d] (((i * 16 + j) * 16 + k) * 16 + l)

/-- What is written between the quotes of a string, and the characters that it stands for. -/
inductive Spells : List Char → List Char → Prop
  | nil : Spells [] []
  | plain {c : Char} {written meant : List Char} (itself : Plain c) (rest : Spells written meant) :
      Spells (c :: written) (c :: meant)
  | short {letter c : Char} {written meant : List Char} (stands : (letter, c) ∈ shortEscapes)
      (rest : Spells written meant) : Spells ('\\' :: letter :: written) (c :: meant)
  | code {digits written meant : List Char} {c : Char} (coded : Code digits c.toNat)
      (rest : Spells written meant) : Spells ('\\' :: 'u' :: digits ++ written) (c :: meant)
  | pair {first second written meant : List Char} {leading trailing : Nat} {c : Char}
      (former : Code first leading) (high : 0xD800 ≤ leading ∧ leading < 0xDC00)
      (latter : Code second trailing) (low : 0xDC00 ≤ trailing ∧ trailing < 0xE000)
      (joined : c.toNat = (leading - 0xD800) * 0x400 + (trailing - 0xDC00) + 0x10000)
      (rest : Spells written meant) :
      Spells ('\\' :: 'u' :: first ++ '\\' :: 'u' :: second ++ written) (c :: meant)

/-- What may be written between the quotes of a string that is passed over: any codes. -/
inductive StringBody : List Char → Prop
  | nil : StringBody []
  | plain {c : Char} {written : List Char} (itself : Plain c) (rest : StringBody written) :
      StringBody (c :: written)
  | short {letter c : Char} {written : List Char} (stands : (letter, c) ∈ shortEscapes)
      (rest : StringBody written) : StringBody ('\\' :: letter :: written)
  | code {digits written : List Char} {value : Nat} (coded : Code digits value)
      (rest : StringBody written) : StringBody ('\\' :: 'u' :: digits ++ written)

/-! ## Values -/

def Bracket.opening : Bracket → Char
  | list => '['
  | record => '{'

/-- What stands in front of a value between brackets: in a record, its key. -/
inductive Label : Bracket → List Char → Prop
  | list : Label .list []
  | record {left body right : List Char} (before : Blanks left) (key : StringBody body)
      (behind : Blanks right) : Label .record (left ++ '"' :: body ++ '"' :: right ++ [':'])

/-- What a text is derived as: a value, or what fills a pair of brackets. -/
inductive Form where
  | value
  | items (bracket : Bracket)
deriving DecidableEq, Repr

/-- The texts of values and of the items between brackets, commas in between. -/
inductive Phrase : Form → List Char → Prop
  | null : Phrase .value ['n', 'u', 'l', 'l']
  | yes : Phrase .value ['t', 'r', 'u', 'e']
  | no : Phrase .value ['f', 'a', 'l', 's', 'e']
  | number {text : List Char} (numeral : Numeral text) : Phrase .value text
  | string {body : List Char} (written : StringBody body) : Phrase .value ('"' :: body ++ ['"'])
  | empty (bracket : Bracket) {blanks : List Char} (inside : Blanks blanks) :
      Phrase .value (bracket.opening :: blanks ++ [bracket.closing])
  | filled {bracket : Bracket} {items : List Char} (inside : Phrase (.items bracket) items) :
      Phrase .value (bracket.opening :: items ++ [bracket.closing])
  | last {bracket : Bracket} {label left value right : List Char} (labelled : Label bracket label)
      (before : Blanks left) (derived : Phrase .value value) (behind : Blanks right) :
      Phrase (.items bracket) (label ++ left ++ value ++ right)
  | more {bracket : Bracket} {label left value right items : List Char}
      (labelled : Label bracket label) (before : Blanks left) (derived : Phrase .value value)
      (behind : Blanks right) (others : Phrase (.items bracket) items) :
      Phrase (.items bracket) (label ++ left ++ value ++ right ++ ',' :: items)

/-! ## Objects -/

/-- A key and the text of the value behind it. -/
abbrev Entry := String × List Char

/-- A key as it stands in an object. -/
inductive KeyText (key : String) : List Char → Prop
  | mk {left written right : List Char} (before : Blanks left)
      (spelled : Spells written key.toList) (behind : Blanks right) :
      KeyText key (left ++ '"' :: written ++ '"' :: right ++ [':'])

/-- One entry or more, with commas in between. -/
inductive Entries : List Entry → List Char → Prop
  | last {key : String} {label left value right : List Char} (labelled : KeyText key label)
      (before : Blanks left) (behind : Blanks right) :
      Entries [(key, value)] (label ++ left ++ value ++ right)
  | more {key : String} {label left value right text : List Char} {entries : List Entry}
      (labelled : KeyText key label) (before : Blanks left) (behind : Blanks right)
      (others : Entries entries text) :
      Entries ((key, value) :: entries) (label ++ left ++ value ++ right ++ ',' :: text)

/-- The text of an object with its entries in order. -/
inductive Object : List Entry → List Char → Prop
  | empty {blanks : List Char} (inside : Blanks blanks) : Object [] ('{' :: blanks ++ ['}'])
  | filled {entries : List Entry} {text : List Char} (inside : Entries entries text) :
      Object entries ('{' :: text ++ ['}'])

end LatticeSketch.Json
