import Sqlwright.Text.Ascii
import Sqlwright.Text.Blank

/-!
# Decimal texts

A `Numeral` is an integer in decimal digits, behind an optional sign.  Leading
zeros are allowed, and blanks may stand around it.  The main theorem says that
reading such a text gives the integer, if it is one of 64 signed bits.
-/

namespace Sqlwright.Text

/-- At least one ASCII digit. -/
structure Digits (text : List Char) : Prop where
  nonempty : text ≠ []
  each : text.all Char.isDigit = true

/-- Decimal digits of an integer behind an optional sign. -/
inductive Numeral : List Char → Int → Prop where
  | unsigned {digits : List Char} :
      Digits digits → Numeral digits (Nat.ofDigitChars 10 digits 0)
  | positive {digits : List Char} :
      Digits digits → Numeral ('+' :: digits) (Nat.ofDigitChars 10 digits 0)
  | negative {digits : List Char} :
      Digits digits → Numeral ('-' :: digits) (-Nat.ofDigitChars 10 digits 0)

/-- An integer in decimal digits with blanks around it. -/
def Decimal (text : String) (value : Int) : Prop :=
  ∃ front numeral back,
    text.toList = front ++ numeral ++ back ∧
      front.all isBlankChar = true ∧ back.all isBlankChar = true ∧
      Numeral numeral value

theorem digits_toDigits (value : Nat) : Digits (Nat.toDigits 10 value) where
  nonempty := List.ne_nil_of_length_pos Nat.length_toDigits_pos
  each := List.all_eq_true.2 fun _ member =>
    Nat.isDigit_of_mem_toDigits (by decide) (by decide) member

theorem toList_toString (value : Nat) :
    (toString value).toList = Nat.toDigits 10 value := by
  rw [Nat.toString_eq_ofList_toDigits, String.toList_ofList]

/-- The usual text of an integer is a decimal text of it. -/
theorem decimal_toString (value : Int) : Decimal (toString value) value := by
  cases value with
  | ofNat value =>
      have numeral := Numeral.unsigned (digits_toDigits value)
      rw [Nat.ofDigitChars_ten_toDigits] at numeral
      refine ⟨[], _, [], ?_, rfl, rfl, numeral⟩
      have text : toString (Int.ofNat value) = toString value := rfl
      rw [text, toList_toString, List.nil_append, List.append_nil]
  | negSucc value =>
      have numeral := Numeral.negative (digits_toDigits (value + 1))
      rw [Nat.ofDigitChars_ten_toDigits] at numeral
      refine ⟨[], _, [], ?_, rfl, rfl, numeral⟩
      have text : toString (Int.negSucc value) = "-" ++ toString (value + 1) :=
        rfl
      have minus : "-".toList = ['-'] := rfl
      rw [text, String.toList_append, toList_toString, minus, List.nil_append,
        List.append_nil, List.singleton_append]

theorem digitValue?_of_isDigit
    {character : Char} (digit : character.isDigit = true) :
    digitValue? character = some (character.toNat - '0'.toNat) := by
  rw [Char.isDigit_iff_toNat] at digit
  unfold digitValue?
  rw [if_pos]
  rw [Char.le_def, Char.le_def, UInt32.le_iff_toNat_le, UInt32.le_iff_toNat_le]
  exact digit

theorem isBlankChar_of_isDigit
    {character : Char} (digit : character.isDigit = true) :
    isBlankChar character = false := by
  rw [Char.isDigit_iff_toNat] at digit
  change 48 ≤ character.toNat ∧ character.toNat ≤ 57 at digit
  simp only [isBlankChar, Bool.or_eq_false_iff, Bool.and_eq_false_iff,
    decide_eq_false_iff_not, beq_eq_false_iff_ne]
  omega

theorem readNat?_of_digits {digits : List Char} (valid : Digits digits) :
    readNat? digits = some (Nat.ofDigitChars 10 digits 0) := by
  have fold (total : Nat) (rest : List Char)
      (each : rest.all Char.isDigit = true) :
      rest.foldlM
          (fun total character =>
            (digitValue? character).map (10 * total + ·)) total =
        some (Nat.ofDigitChars 10 rest total) := by
    induction rest generalizing total with
    | nil => simp
    | cons character rest induction =>
        simp only [List.all_cons, Bool.and_eq_true] at each
        rw [List.foldlM_cons, digitValue?_of_isDigit each.1,
          Nat.ofDigitChars_cons]
        exact induction _ each.2
  cases digits with
  | nil => exact absurd rfl valid.nonempty
  | cons character rest => exact fold 0 _ valid.each

theorem readInt?_of_numeral
    {text : List Char} {value : Int} (numeral : Numeral text value) :
    readInt? text = some value := by
  cases numeral with
  | positive digits => simp [readInt?, readNat?_of_digits digits]
  | negative digits => simp [readInt?, readNat?_of_digits digits]
  | unsigned digits =>
      unfold readInt?
      split
      · cases digits.each
      · cases digits.each
      · simp [readNat?_of_digits digits]

theorem Numeral.not_blank
    {text : List Char} {value : Int} (numeral : Numeral text value) :
    text ≠ [] ∧ ∀ character ∈ text, isBlankChar character = false := by
  have visible {digits : List Char} (valid : Digits digits) :
      ∀ character ∈ digits, isBlankChar character = false :=
    fun character member =>
      isBlankChar_of_isDigit (List.all_eq_true.1 valid.each character member)
  cases numeral with
  | unsigned digits => exact ⟨digits.nonempty, visible digits⟩
  | positive digits =>
      refine ⟨List.cons_ne_nil _ _, ?_⟩
      rw [List.forall_mem_cons]
      exact ⟨by decide, visible digits⟩
  | negative digits =>
      refine ⟨List.cons_ne_nil _ _, ?_⟩
      rw [List.forall_mem_cons]
      exact ⟨by decide, visible digits⟩

theorem trimStart_append
    {front text : List Char} (blank : front.all isBlankChar = true)
    (visible : ∀ character ∈ text.head?, isBlankChar character = false) :
    trimStart (front ++ text) = text := by
  have skipped : trimStart (front ++ text) = trimStart text :=
    List.dropWhile_append_of_pos (List.all_eq_true.1 blank)
  rw [skipped]
  cases text with
  | nil => rfl
  | cons character rest => exact trimStart_of_not_blank (visible character rfl)

/-- Trimming removes blanks around a text without blanks. -/
theorem trim_append
    {front text back : List Char} (frontBlank : front.all isBlankChar = true)
    (backBlank : back.all isBlankChar = true) (nonempty : text ≠ [])
    (visible : ∀ character ∈ text, isBlankChar character = false) :
    trim (front ++ text ++ back) = text := by
  unfold trim
  rw [List.append_assoc, trimStart_append frontBlank, List.reverse_append,
    trimStart_append, List.reverse_reverse]
  · simpa using backBlank
  · intro character first
    exact visible character
      (List.mem_reverse.1 (List.mem_of_head? first))
  · intro character first
    cases text with
    | nil => exact absurd rfl nonempty
    | cons head rest =>
        cases first
        exact visible _ List.mem_cons_self

/-- An id of 64 bits is read from every decimal text of it. -/
theorem readInt64?_of_decimal
    {text : String} {id : Int64} (decimal : Decimal text id.toInt) :
    readInt64? (trim text.toList) = some id := by
  rcases decimal with ⟨front, numeral, back, split, frontBlank, backBlank, valid⟩
  have visible := valid.not_blank
  rw [split, trim_append frontBlank backBlank visible.1 visible.2, readInt64?,
    readInt?_of_numeral valid, Option.bind_some, int64Of?_toInt]

end Sqlwright.Text
