import Mathlib.Algebra.Group.Nat.Defs
import Mathlib.Data.Char
import Mathlib.Data.List.Lex
import Sqlwright.Proofs.DecimalText

/-!
# Padded decimal texts

A number that fits into a width has exactly that many digits when it is padded
with zeros.  Such texts are read back by their value, and the order of two of
them, or of longer texts that begin with them, is the order of the numbers.
-/

namespace Sqlwright.Text

/-! ## The digits of a padded number -/

theorem toList_padded (width value : Nat) :
    (padded width value).toList =
      List.replicate (width - (Nat.toDigits 10 value).length) '0' ++
        Nat.toDigits 10 value := by
  have length : (toString value).length = (Nat.toDigits 10 value).length := by
    rw [← String.length_toList, toList_toString]
  simp only [padded, String.toList_append, String.toList_ofList,
    toList_toString, length]

theorem digits_padded (width value : Nat) :
    Digits (padded width value).toList where
  nonempty := by
    rw [toList_padded]
    exact List.append_ne_nil_of_right_ne_nil _ (digits_toDigits value).nonempty
  each := by
    rw [toList_padded, List.all_append, (digits_toDigits value).each,
      Bool.and_true, List.all_replicate]
    split
    · rfl
    · decide

@[simp]
theorem ofDigitChars_padded (width value : Nat) :
    Nat.ofDigitChars 10 (padded width value).toList 0 = value := by
  rw [toList_padded, Nat.ofDigitChars_append, Nat.ofDigitChars_replicate_zero,
    Nat.mul_zero, Nat.ofDigitChars_ten_toDigits]

/-- A number that fits is padded to the width. -/
theorem length_padded
    {width value : Nat} (positive : 0 < width) (fits : value < 10 ^ width) :
    (padded width value).toList.length = width := by
  have short :=
    (Nat.length_toDigits_le_iff (by decide : 1 < 10) positive).2 fits
  rw [toList_padded, List.length_append, List.length_replicate]
  omega

/-! ## The order of digits -/

theorem ofDigitChars_cons_zero (character : Char) (rest : List Char) :
    Nat.ofDigitChars 10 (character :: rest) 0 =
      10 ^ rest.length * (character.toNat - '0'.toNat) +
        Nat.ofDigitChars 10 rest 0 := by
  rw [Nat.ofDigitChars_cons, Nat.ofDigitChars_eq_ofDigitChars_zero,
    Nat.mul_zero, Nat.zero_add]

theorem ofDigitChars_lt_pow
    {digits : List Char} (each : digits.all Char.isDigit = true) :
    Nat.ofDigitChars 10 digits 0 < 10 ^ digits.length := by
  induction digits with
  | nil => simp
  | cons character rest step =>
      rw [List.all_cons, Bool.and_eq_true, Char.isDigit_iff_toNat] at each
      have below := step each.2
      have digit : character.toNat - '0'.toNat ≤ 9 := by
        have := each.1.2
        change character.toNat ≤ 57 at this
        change character.toNat - 48 ≤ 9
        omega
      have head := Nat.mul_le_mul_left (10 ^ rest.length) digit
      rw [ofDigitChars_cons_zero, List.length_cons, Nat.pow_succ]
      omega

/-- Numbers are ordered by their leading digit first. -/
theorem mul_add_lt_mul_add_iff
    {base high low otherHigh otherLow : Nat} (small : low < base)
    (otherSmall : otherLow < base) :
    base * high + low < base * otherHigh + otherLow ↔
      high < otherHigh ∨ high = otherHigh ∧ low < otherLow := by
  rcases Nat.lt_trichotomy high otherHigh with below | rfl | above
  · have := Nat.mul_le_mul_left base below
    rw [Nat.mul_succ] at this
    omega
  · omega
  · have := Nat.mul_le_mul_left base above
    rw [Nat.mul_succ] at this
    omega

theorem char_lt_iff (left right : Char) :
    left < right ↔ left.toNat < right.toNat := by
  rw [Char.lt_def, UInt32.lt_iff_toNat_lt]
  rfl

/-- Among digits of one length the order of texts is the order of numbers. -/
theorem digits_lt_iff
    {left right : List Char} (leftDigits : left.all Char.isDigit = true)
    (rightDigits : right.all Char.isDigit = true)
    (sameLength : left.length = right.length) :
    left < right ↔
      Nat.ofDigitChars 10 left 0 < Nat.ofDigitChars 10 right 0 := by
  induction left generalizing right with
  | nil =>
      cases right with
      | nil => simp
      | cons => cases sameLength
  | cons first rest step =>
      cases right with
      | nil => cases sameLength
      | cons other others =>
          rw [List.length_cons, List.length_cons, Nat.succ_inj] at sameLength
          rw [List.all_cons, Bool.and_eq_true] at leftDigits rightDigits
          have below := ofDigitChars_lt_pow leftDigits.2
          have otherBelow := ofDigitChars_lt_pow rightDigits.2
          rw [← sameLength] at otherBelow
          rw [ofDigitChars_cons_zero, ofDigitChars_cons_zero, ← sameLength,
            mul_add_lt_mul_add_iff below otherBelow, List.cons_lt_cons_iff,
            step leftDigits.2 rightDigits.2 sameLength]
          have digit := Char.isDigit_iff_toNat.1 leftDigits.1
          have otherDigit := Char.isDigit_iff_toNat.1 rightDigits.1
          rw [char_lt_iff, ← Char.toNat_inj]
          omega

theorem eq_of_ofDigitChars_eq
    {left right : List Char} (leftDigits : left.all Char.isDigit = true)
    (rightDigits : right.all Char.isDigit = true)
    (sameLength : left.length = right.length)
    (sameValue :
      Nat.ofDigitChars 10 left 0 = Nat.ofDigitChars 10 right 0) :
    left = right := by
  rcases lt_trichotomy left right with below | same | above
  · rw [digits_lt_iff leftDigits rightDigits sameLength] at below
    omega
  · exact same
  · rw [digits_lt_iff rightDigits leftDigits sameLength.symm] at above
    omega

/-! ## Texts that begin with padded numbers -/

theorem append_lt_append_iff
    {left right : List Char} (sameLength : left.length = right.length)
    (leftRest rightRest : List Char) :
    left ++ leftRest < right ++ rightRest ↔
      left < right ∨ left = right ∧ leftRest < rightRest := by
  induction left generalizing right with
  | nil =>
      cases right with
      | nil => simp
      | cons => cases sameLength
  | cons first rest step =>
      cases right with
      | nil => cases sameLength
      | cons other others =>
          rw [List.length_cons, List.length_cons, Nat.succ_inj] at sameLength
          rw [List.cons_append, List.cons_append, List.cons_lt_cons_iff,
            List.cons_lt_cons_iff, step sameLength, List.cons.injEq]
          tauto

/-- Texts that begin with numbers of one width are ordered by these first. -/
theorem padded_append_lt_iff
    {width left right : Nat} (positive : 0 < width)
    (leftFits : left < 10 ^ width) (rightFits : right < 10 ^ width)
    (leftRest rightRest : List Char) :
    (padded width left).toList ++ leftRest <
        (padded width right).toList ++ rightRest ↔
      left < right ∨ left = right ∧ leftRest < rightRest := by
  have sameLength :
      (padded width left).toList.length =
        (padded width right).toList.length := by
    rw [length_padded positive leftFits, length_padded positive rightFits]
  have sameText :
      (padded width left).toList = (padded width right).toList ↔
        left = right := by
    constructor
    · intro same
      rw [← ofDigitChars_padded width left, same, ofDigitChars_padded]
    · rintro rfl
      rfl
  rw [append_lt_append_iff sameLength,
    digits_lt_iff (digits_padded width left).each
      (digits_padded width right).each sameLength,
    ofDigitChars_padded, ofDigitChars_padded, sameText]

/-- A padded number is its leading digits and its other digits. -/
theorem toList_padded_add
    (front back value : Nat) (frontPositive : 0 < front)
    (backPositive : 0 < back) (fits : value < 10 ^ (front + back)) :
    (padded (front + back) value).toList =
      (padded front (value / 10 ^ back)).toList ++
        (padded back (value % 10 ^ back)).toList := by
  have power : 0 < 10 ^ back := Nat.pow_pos (by decide)
  have frontFits : value / 10 ^ back < 10 ^ front := by
    rw [Nat.div_lt_iff_lt_mul power, ← Nat.pow_add]
    exact fits
  have backLength := length_padded backPositive (Nat.mod_lt value power)
  apply eq_of_ofDigitChars_eq (digits_padded _ _).each
  · rw [List.all_append, (digits_padded _ _).each, (digits_padded _ _).each]
    rfl
  · rw [List.length_append, length_padded frontPositive frontFits, backLength,
      length_padded (Nat.add_pos_left frontPositive back) fits]
  · rw [ofDigitChars_padded, Nat.ofDigitChars_append, ofDigitChars_padded,
      Nat.ofDigitChars_eq_ofDigitChars_zero, backLength, ofDigitChars_padded,
      Nat.div_add_mod]

end Sqlwright.Text
