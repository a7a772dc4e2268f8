/-
# LatticeSketch.Proofs.Decimal.Scientific -- numbers known from their scientific form

The mark `e` ends the digits of a number in scientific form and the point among them is no
digit, so the form gives its digits and its power of ten back (`Scaled.scientific_injective`).
A finite number is known from its shortest decimal, and the other sizes begin with a letter or
have no digit but zero.  So two numbers with one scientific form are the same number
(`scientific_injective`): there is one not-a-number only, and the sign of a zero is written.
-/
import LatticeSketch.Decimal.Scientific
import LatticeSketch.Proofs.Decimal.Counting
import LatticeSketch.Proofs.Decimal.Rounding
import LatticeSketch.Proofs.Text.Lines

namespace LatticeSketch.Decimal

set_option autoImplicit false

/-! ## Decimals -/

theorem filter_pointAfterFirst {digits : List Char} (all : ∀ c ∈ digits, c.isDigit = true) :
    (pointAfterFirst digits).filter Char.isDigit = digits := by
  have kept := List.filter_eq_self.2 all
  fun_cases pointAfterFirst digits with
  | case1 => rfl
  | case2 d => exact kept
  | case3 d rest more =>
      rw [List.filter_cons_of_pos (all d (by simp))] at kept ⊢
      rw [List.filter_cons_of_neg (by decide), kept]

theorem mem_pointAfterFirst {digits : List Char} {c : Char} (member : c ∈ pointAfterFirst digits) :
    c = '.' ∨ c ∈ digits := by
  revert member
  fun_cases pointAfterFirst digits with
  | case1 => exact .inr
  | case2 d => exact .inr
  | case3 d rest more =>
      intro member
      rw [List.mem_cons, List.mem_cons] at member
      rw [List.mem_cons]
      tauto

theorem isDigit_or_point {n : Nat} {c : Char} (member : c ∈ pointAfterFirst n.repr.toList) :
    c.isDigit = true ∨ c = '.' := by
  rcases mem_pointAfterFirst member with point | digit
  · exact .inr point
  · exact .inl (isDigit_of_mem_repr digit)

theorem e_not_mem_pointAfterFirst (n : Nat) : 'e' ∉ pointAfterFirst n.repr.toList := by
  intro member
  rcases isDigit_or_point member with digit | point
  · exact absurd digit (by decide)
  · exact absurd point (by decide)

theorem eq_of_pointAfterFirst_eq {m n : Nat}
    (same : pointAfterFirst m.repr.toList = pointAfterFirst n.repr.toList) : m = n := by
  have digits := congrArg (List.filter Char.isDigit) same
  rw [filter_pointAfterFirst fun _ member => isDigit_of_mem_repr member,
    filter_pointAfterFirst fun _ member => isDigit_of_mem_repr member] at digits
  exact eq_of_repr_eq (String.toList_inj.1 digits)

/-- Two decimals with one scientific form have the same digits and the same power. -/
theorem Scaled.scientific_injective {s t : Scaled} (same : s.scientific = t.scientific) :
    s = t := by
  obtain ⟨digits, power⟩ := s
  obtain ⟨digits', power'⟩ := t
  obtain ⟨front, exponents⟩ := (Text.append_mark_inj (e_not_mem_pointAfterFirst digits)
    (e_not_mem_pointAfterFirst digits')).1 same
  obtain rfl := eq_of_pointAfterFirst_eq front
  have powers := eq_of_intRepr_eq (String.toList_inj.1 exponents)
  have equal : power = power' := by
    simp only at powers
    omega
  rw [equal]

/-- The scientific form of a decimal begins with a digit. -/
theorem Scaled.scientific_head (s : Scaled) :
    ∃ c rest, s.scientific = c :: rest ∧ c.isDigit = true := by
  unfold Scaled.scientific
  cases digits : s.digits.repr.toList with
  | nil =>
      rw [Nat.toList_repr] at digits
      exact absurd digits Nat.toDigits_ne_nil
  | cons c rest =>
      have digit : c.isDigit = true := isDigit_of_mem_repr (n := s.digits) (by simp [digits])
      cases rest with
      | nil => exact ⟨c, _, rfl, digit⟩
      | cons d more => exact ⟨c, _, rfl, digit⟩

/-- No decimal with a digit but zero has the form of zero. -/
theorem Scaled.scientific_ne_zero {s : Scaled} (positive : 0 < s.digits) :
    s.scientific ≠ Magnitude.zero.scientific := by
  intro same
  have zero : Magnitude.zero.scientific = (Scaled.mk 0 0).scientific := by decide
  have digits := congrArg Scaled.digits (Scaled.scientific_injective (same.trans zero))
  simp only at digits
  omega

/-! ## Sizes -/

namespace Magnitude

/-- The sizes that doubles have. -/
inductive Proper : Magnitude → Prop
  | zero : Proper .zero
  | finite {b : Binary} (canonical : b.Canonical) : Proper (.finite b)
  | infinite : Proper .infinite
  | notANumber : Proper .notANumber

/-- The size in a pair of fields is one that doubles have. -/
theorem proper_ofFields {biased fraction : Nat} (short : biased < 2048)
    (short' : fraction < leastMantissa) : (ofFields biased fraction).Proper := by
  unfold ofFields
  split
  · split
    · exact .infinite
    · exact .notANumber
  · split
    · split
      · exact .zero
      · exact .finite
          { positive := by simp only; omega
            mantissa_lt := by simp only; omega
            least_le := Int.le_refl _
            full := .inl rfl }
    · unfold leastMantissa at short'
      exact .finite
        { positive := by simp only [leastMantissa]; omega
          mantissa_lt := by simp only [leastMantissa]; omega
          least_le := by simp only; omega
          full := .inr (Nat.le_add_right _ _) }

theorem proper_ofFloat (x : Float) : (ofFloat x).Proper :=
  proper_ofFields (Nat.mod_lt _ (by decide)) (Nat.mod_lt _ (by decide))

/-- A size gives its fields back, unless it is not a number. -/
theorem ofFields_inj {biased biased' fraction fraction' : Nat}
    (same : ofFields biased fraction = ofFields biased' fraction')
    (short : fraction < leastMantissa) (short' : fraction' < leastMantissa)
    (number : ofFields biased fraction ≠ notANumber) :
    biased = biased' ∧ fraction = fraction' := by
  unfold ofFields at same number
  unfold leastMantissa at *
  split_ifs at same number
  all_goals first
    | exact absurd rfl number
    | cases same
    | simp only [finite.injEq, Binary.mk.injEq] at same
  all_goals omega

/-- A size that begins with a letter is not written as a decimal is. -/
theorem scientific_ne_of_head {s : Scaled} {m : Magnitude} {letter : Char}
    (head : m.scientific.head? = some letter) (plain : letter.isDigit = false) :
    s.scientific ≠ m.scientific := by
  intro same
  obtain ⟨c, rest, shape, digit⟩ := s.scientific_head
  rw [← same, shape, List.head?_cons, Option.some.injEq] at head
  rw [head, plain] at digit
  cases digit

/-- Two sizes of doubles with one scientific form are the same. -/
theorem scientific_injective {m n : Magnitude} (proper : m.Proper) (proper' : n.Proper)
    (same : m.scientific = n.scientific) : m = n := by
  cases proper with
  | zero =>
      cases proper' with
      | zero => rfl
      | finite canonical =>
          exact absurd same.symm
            (Scaled.scientific_ne_zero (Binary.digits_shortest_pos canonical))
      | infinite => exact absurd same (by decide)
      | notANumber => exact absurd same (by decide)
  | finite canonical =>
      cases proper' with
      | zero =>
          exact absurd same (Scaled.scientific_ne_zero (Binary.digits_shortest_pos canonical))
      | finite canonical' =>
          rw [Binary.shortest_injective canonical canonical' (Scaled.scientific_injective same)]
      | infinite => exact absurd same (scientific_ne_of_head rfl (by decide))
      | notANumber => exact absurd same (scientific_ne_of_head rfl (by decide))
  | infinite =>
      cases proper' with
      | zero => exact absurd same (by decide)
      | finite canonical => exact absurd same.symm (scientific_ne_of_head rfl (by decide))
      | infinite => rfl
      | notANumber => exact absurd same (by decide)
  | notANumber =>
      cases proper' with
      | zero => exact absurd same (by decide)
      | finite canonical => exact absurd same.symm (scientific_ne_of_head rfl (by decide))
      | infinite => exact absurd same (by decide)
      | notANumber => rfl

/-- The form of a size has no sign in front. -/
theorem scientific_ne_sign (m : Magnitude) (rest : List Char) : m.scientific ≠ '-' :: rest := by
  cases m with
  | finite b =>
      obtain ⟨c, more, shape, digit⟩ := b.shortest.scientific_head
      intro same
      have sign : c = '-' := (List.cons.inj (shape.symm.trans same)).1
      rw [sign] at digit
      exact absurd digit (by decide)
  | zero | infinite | notANumber => simp [scientific]

end Magnitude

/-! ## Doubles -/

theorem eq_of_toBits_eq {x y : Float} (same : x.toBits = y.toBits) : x = y := by
  obtain ⟨bits, valid⟩ := x
  obtain ⟨bits', valid'⟩ := y
  obtain rfl : bits = bits' := same
  rfl

open Float.Model in
/-- All doubles that are not a number are one. -/
theorem toBits_notANumber {x : Float} (nan : Magnitude.ofFloat x = .notANumber) :
    x.toBits.toNat = 0x7ff8000000000000 := by
  obtain ⟨biased, fraction⟩ : x.toBits.toNat / Magnitude.leastMantissa % 2048 = 2047 ∧
      x.toBits.toNat % Magnitude.leastMantissa ≠ 0 := by
    unfold Magnitude.ofFloat Magnitude.ofFields at nan
    split_ifs at nan with top none
    exact ⟨top, none⟩
  have exponent : @UnpackedFloat.unpackExponent .binary64 x.toBits.toBitVec = -1#11 := by
    apply BitVec.eq_of_toNat_eq
    simp only [UnpackedFloat.unpackExponent, BitVec.toNat_cast, BitVec.extractLsb_toNat,
      Nat.shiftRight_eq_div_pow]
    exact biased
  have mantissa : @UnpackedFloat.unpackMantissa .binary64 x.toBits.toBitVec ≠ 0#52 := by
    intro zero
    apply fraction
    have bits := congrArg BitVec.toNat zero
    simp only [UnpackedFloat.unpackMantissa, BitVec.toNat_cast, BitVec.extractLsb_toNat,
      Nat.shiftRight_zero] at bits
    exact bits
  have packed : x.toBits.toBitVec = UnpackedFloat.packedNaN .binary64 :=
    x.toModel.valid.eq_packedNaN exponent mantissa
  rw [← UInt64.toNat_toBitVec, packed]
  rfl

/-- A double is known from its sign and its size, and a not-a-number from its size alone. -/
theorem eq_of_ofFloat_eq {x y : Float} (size : Magnitude.ofFloat x = Magnitude.ofFloat y)
    (sign : Magnitude.ofFloat x ≠ .notANumber → isNegative x = isNegative y) : x = y := by
  refine eq_of_toBits_eq (UInt64.toNat_inj.1 ?_)
  by_cases nan : Magnitude.ofFloat x = .notANumber
  · rw [toBits_notANumber nan, toBits_notANumber (size.symm.trans nan)]
  · obtain ⟨biased, fraction⟩ := Magnitude.ofFields_inj size (Nat.mod_lt _ (by decide))
      (Nat.mod_lt _ (by decide)) nan
    have signs := sign nan
    have small := x.toBits.toNat_lt
    have small' := y.toBits.toNat_lt
    simp only [isNegative, decide_eq_decide] at signs
    unfold Magnitude.leastMantissa at biased fraction
    omega

/-- Numbers with one scientific form are the same number. -/
theorem scientific_injective {x y : Float} (same : scientific x = scientific y) : x = y := by
  have texts := String.ofList_injective same
  have sizes : Magnitude.ofFloat x = Magnitude.ofFloat y ∧
      (isNegative x && Magnitude.ofFloat x != .notANumber) =
        (isNegative y && Magnitude.ofFloat y != .notANumber) := by
    have proper := Magnitude.proper_ofFloat x
    have proper' := Magnitude.proper_ofFloat y
    split_ifs at texts with sign sign' sign'
    · exact ⟨Magnitude.scientific_injective proper proper' (List.cons.inj texts).2,
        sign.trans sign'.symm⟩
    · exact absurd texts.symm (Magnitude.scientific_ne_sign _ _)
    · exact absurd texts (Magnitude.scientific_ne_sign _ _)
    · rw [Bool.not_eq_true] at sign sign'
      exact ⟨Magnitude.scientific_injective proper proper' texts, sign.trans sign'.symm⟩
  obtain ⟨size, signs⟩ := sizes
  refine eq_of_ofFloat_eq size fun number => ?_
  have number' : Magnitude.ofFloat y ≠ .notANumber := size ▸ number
  rwa [bne_iff_ne.2 number, bne_iff_ne.2 number', Bool.and_true, Bool.and_true] at signs

/-! ## Characters -/

/-- The characters of numbers: digits, signs and points, the mark of the power and the letters
of the names of numbers that are not finite. -/
def isNumeral (c : Char) : Bool :=
  c.isDigit || ['-', '.', 'e', 'i', 'n', 'f', 'N', 'a'].contains c

theorem isNumeral_of_isDigit {c : Char} (digit : c.isDigit = true) : isNumeral c = true := by
  rw [isNumeral, digit, Bool.true_or]

theorem isNumeral_of_mem_intRepr {i : Int} {c : Char} (member : c ∈ i.repr.toList) :
    isNumeral c = true := by
  rcases isDigit_or_sign_of_mem_intRepr member with digit | rfl
  · exact isNumeral_of_isDigit digit
  · decide

theorem isNumeral_of_mem_size {m : Magnitude} {c : Char} (member : c ∈ m.scientific) :
    isNumeral c = true := by
  cases m with
  | zero => exact List.all_eq_true.1 (by decide) c member
  | finite b =>
      rcases List.mem_append.1 member with digits | rest
      · rcases isDigit_or_point digits with digit | rfl
        · exact isNumeral_of_isDigit digit
        · decide
      · rcases List.mem_cons.1 rest with rfl | exponent
        · decide
        · exact isNumeral_of_mem_intRepr exponent
  | infinite => exact List.all_eq_true.1 (by decide) c member
  | notANumber => exact List.all_eq_true.1 (by decide) c member

theorem isNumeral_of_mem_scientific {x : Float} {c : Char}
    (member : c ∈ (scientific x).toList) : isNumeral c = true := by
  rw [scientific, String.toList_ofList] at member
  split at member
  · rcases List.mem_cons.1 member with rfl | member
    · decide
    · exact isNumeral_of_mem_size member
  · exact isNumeral_of_mem_size member

/-- The scientific form of a number holds a letter: the mark of its power or one of its name. -/
theorem letter_mem_scientific (x : Float) :
    'e' ∈ (scientific x).toList ∨ 'n' ∈ (scientific x).toList ∨ 'N' ∈ (scientific x).toList := by
  rw [scientific, String.toList_ofList]
  have keep : ∀ c ∈ (Magnitude.ofFloat x).scientific,
      c ∈ if isNegative x && Magnitude.ofFloat x != .notANumber
        then '-' :: (Magnitude.ofFloat x).scientific else (Magnitude.ofFloat x).scientific := by
    intro c member
    split
    · exact List.mem_cons_of_mem _ member
    · exact member
  cases size : Magnitude.ofFloat x with
  | zero => exact .inl (size ▸ keep 'e' (by rw [size]; decide))
  | finite b =>
      exact .inl (size ▸ keep 'e' (by simp [size, Magnitude.scientific, Scaled.scientific]))
  | infinite => exact .inr (.inl (size ▸ keep 'n' (by rw [size]; decide)))
  | notANumber => exact .inr (.inr (size ▸ keep 'N' (by rw [size]; decide)))

end LatticeSketch.Decimal
