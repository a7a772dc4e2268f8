/-
# LatticeSketch.Proofs.Decimal.Counting -- natural numbers written and read

A natural number is written with its decimal digits.  Reading these digits gives the number
back (`natOfDigits_repr`, `readNat?_repr`), so different numbers are written differently
(`eq_of_repr_eq`, and `eq_of_intRepr_eq` for whole numbers with a sign), and a greater number
takes at least as much room (`utf8ByteSize_repr_mono`).
-/
import LatticeSketch.Decimal.Reading

namespace LatticeSketch.Decimal

set_option autoImplicit false

/-- The digits of a number read as that number. -/
theorem natOfDigits_repr (n : Nat) : natOfDigits n.repr.toList = n := by
  have fold : natOfDigits n.repr.toList = Nat.ofDigitChars 10 n.repr.toList 0 := by
    rw [Nat.ofDigitChars_eq_foldl]
    rfl
  rw [fold, Nat.toList_repr, Nat.ofDigitChars_ten_toDigits]

theorem eq_of_repr_eq {m n : Nat} (same : m.repr = n.repr) : m = n := by
  rw [← natOfDigits_repr m, same, natOfDigits_repr]

theorem isDigit_of_mem_repr {n : Nat} {c : Char} (member : c ∈ n.repr.toList) :
    c.isDigit = true := by
  rw [Nat.toList_repr] at member
  exact Nat.isDigit_of_mem_toDigits (by decide) (by decide) member

/-- A number below zero is written with a sign before its digits. -/
theorem intRepr_cases (i : Int) :
    (∃ n : Nat, i = n ∧ i.repr.toList = n.repr.toList) ∨
      ∃ n : Nat, i = Int.negSucc n ∧ i.repr.toList = '-' :: n.succ.repr.toList := by
  cases i with
  | ofNat n => exact .inl ⟨n, rfl, rfl⟩
  | negSucc n => exact .inr ⟨n, rfl, by simp [Int.repr]⟩

theorem isDigit_or_sign_of_mem_intRepr {i : Int} {c : Char} (member : c ∈ i.repr.toList) :
    c.isDigit = true ∨ c = '-' := by
  rcases intRepr_cases i with ⟨n, -, text⟩ | ⟨n, -, text⟩ <;> rw [text] at member
  · exact .inl (isDigit_of_mem_repr member)
  · rcases List.mem_cons.1 member with sign | digit
    · exact .inr sign
    · exact .inl (isDigit_of_mem_repr digit)

theorem eq_of_intRepr_eq {i j : Int} (same : i.repr = j.repr) : i = j := by
  -- digits hold no sign
  have unsigned : ∀ m n : Nat, m.repr.toList ≠ '-' :: n.repr.toList := by
    intro m n shape
    have sign : '-'.isDigit = true := isDigit_of_mem_repr (n := m) (by simp [shape])
    exact absurd sign (by decide)
  have texts := congrArg String.toList same
  rcases intRepr_cases i with ⟨m, rfl, text⟩ | ⟨m, rfl, text⟩ <;>
    rcases intRepr_cases j with ⟨n, rfl, text'⟩ | ⟨n, rfl, text'⟩ <;> rw [text, text'] at texts
  · rw [eq_of_repr_eq (String.toList_inj.1 texts)]
  · exact absurd texts (unsigned m n.succ)
  · exact absurd texts.symm (unsigned n m.succ)
  · have digits := eq_of_repr_eq (String.toList_inj.1 (List.cons.inj texts).2)
    rw [Nat.succ.inj digits]

/-- A count below the bound is read back from its digits. -/
theorem readNat?_repr {bound n : Nat} (small : n < bound) :
    readNat? bound n.repr = some n := by
  have digits : n.repr.toList.all Char.isDigit = true :=
    List.all_eq_true.2 fun c member => isDigit_of_mem_repr member
  have unsigned : ∀ rest, n.repr.toList ≠ '+' :: rest := by
    intro rest shape
    have plus : '+'.isDigit = true := isDigit_of_mem_repr (n := n) (by simp [shape])
    exact absurd plus (by decide)
  have nonempty : n.repr.toList.isEmpty = false := by
    rw [Nat.toList_repr, List.isEmpty_eq_false_iff]
    exact Nat.toDigits_ne_nil
  unfold readNat?
  split
  · rename_i rest shape
    exact absurd shape (unsigned rest)
  · simp only [nonempty, digits, natOfDigits_repr, small, Bool.not_true, Bool.or_false,
      Bool.false_eq_true, if_true, if_false]

theorem utf8ByteSize_ofList_of_digits {digits : List Char}
    (all : ∀ c ∈ digits, c.isDigit = true) :
    (String.ofList digits).utf8ByteSize = digits.length := by
  induction digits with
  | nil => rfl
  | cons c rest ih =>
      have one : c.utf8Size = 1 := by
        have digit := all c (by simp)
        rw [Char.isDigit, Bool.and_eq_true, decide_eq_true_eq, decide_eq_true_eq] at digit
        rw [Char.utf8Size_eq_one_iff]
        exact UInt32.le_trans digit.2 (by decide)
      rw [String.ofList_cons, String.utf8ByteSize_append, String.utf8ByteSize_singleton, one,
        ih fun d member => all d (List.mem_cons_of_mem _ member), List.length_cons, Nat.add_comm]

/-- A number takes no more room than a greater one. -/
theorem utf8ByteSize_repr_mono {m n : Nat} (le : m ≤ n) :
    m.repr.utf8ByteSize ≤ n.repr.utf8ByteSize := by
  have size : ∀ k : Nat, k.repr.utf8ByteSize = (Nat.toDigits 10 k).length := fun k => by
    rw [Nat.repr_eq_ofList_toDigits]
    exact utf8ByteSize_ofList_of_digits fun c member =>
      Nat.isDigit_of_mem_toDigits (by decide) (by decide) member
  have room := (Nat.length_toDigits_le_iff (b := 10) (n := n) (by decide)
    Nat.length_toDigits_pos).1 (Nat.le_refl _)
  rw [size, size, Nat.length_toDigits_le_iff (by decide) Nat.length_toDigits_pos]
  exact Nat.lt_of_le_of_lt le room

end LatticeSketch.Decimal
