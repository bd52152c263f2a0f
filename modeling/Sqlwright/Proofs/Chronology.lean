import Mathlib.Data.Prod.Lex
import Sqlwright.Engine.Pattern
import Sqlwright.Proofs.Storage

/-!
# The order of written timestamps

From the year 0 to the year 9999 all fields of a written timestamp but the
fraction have a fixed width, and the fraction is a list of groups of three
digits without a group of zeros at its end.  So the texts of timestamps are
ordered as lists of fields, and that is the order in time of what a clock shows.
A leap second that runs on from a second before 59 is shown too late: it is
before the second behind its own, but its text is not.

The texts have ASCII characters only, each of which is a byte of its own, so
their bytes are in the same order.
-/

namespace Sqlwright

open Sqlwright.Calendar

namespace Text

open Sqlwright.Engine

/-! ## Bytes of ASCII texts -/

theorem toListLoop_eq (bytes : ByteArray) (index : Nat) (behind : List UInt8) :
    ByteArray.toList.loop bytes index behind =
      behind.reverse ++ bytes.data.toList.drop index := by
  fun_induction ByteArray.toList.loop bytes index behind with
  | case1 index behind inside step =>
      have bound : index < bytes.data.toList.length := inside
      have item : bytes.get! index = bytes.data.toList[index] := by
        change bytes.data[index]! = _
        rw [getElem!_pos bytes.data index inside, Array.getElem_toList]
      rw [step, List.drop_eq_getElem_cons bound, item, List.reverse_cons,
        List.append_assoc, List.singleton_append]
  | case2 index behind outside =>
      have short : bytes.data.toList.length ≤ index := Nat.le_of_not_lt outside
      rw [List.drop_eq_nil_of_le short, List.append_nil]

theorem bytesOf_eq_flatMap (text : String) :
    Pattern.bytesOf text = text.toList.flatMap String.utf8EncodeChar := by
  have encoded : text.toUTF8 = text.toList.utf8Encode := by
    rw [← String.toByteArray_ofList, String.ofList_toList]
    rfl
  rw [Pattern.bytesOf, ByteArray.toList, toListLoop_eq, encoded,
    List.utf8Encode, List.toList_data_toByteArray]
  rfl

/-- The characters of ASCII are bytes of their own. -/
theorem map_bytesOf
    {text : String} (ascii : ∀ character ∈ text.toList, character.toNat < 128) :
    (Pattern.bytesOf text).map UInt8.toNat =
      text.toList.map Char.toNat := by
  rw [bytesOf_eq_flatMap]
  generalize text.toList = characters at ascii
  induction characters with
  | nil => rfl
  | cons character rest step =>
      rw [List.forall_mem_cons] at ascii
      have single : character.utf8Size = 1 := by
        rw [Char.utf8Size_eq_one_iff, UInt32.le_iff_toNat_le]
        exact Nat.le_of_lt_succ ascii.1
      have same : character.val.toUInt8.toNat = character.toNat := by
        rw [UInt32.toNat_toUInt8]
        exact Nat.mod_eq_of_lt (Nat.lt_trans ascii.1 (by decide))
      rw [List.flatMap_cons, String.utf8EncodeChar_eq_singleton single,
        List.map_append, step ascii.2, List.map_singleton, same]
      rfl

theorem map_lt_map_iff
    {Item Key : Type} [LT Item] [LT Key] {key : Item → Key}
    (below : ∀ left right, key left < key right ↔ left < right)
    (same : ∀ left right, key left = key right ↔ left = right)
    (left right : List Item) :
    left.map key < right.map key ↔ left < right := by
  induction left generalizing right with
  | nil => cases right <;> simp
  | cons first rest step =>
      cases right with
      | nil => simp
      | cons other others =>
          rw [List.map_cons, List.map_cons, List.cons_lt_cons_iff,
            List.cons_lt_cons_iff, below, same, step]

theorem bytesOf_lt_iff
    {left right : String}
    (leftAscii : ∀ character ∈ left.toList, character.toNat < 128)
    (rightAscii : ∀ character ∈ right.toList, character.toNat < 128) :
    Pattern.bytesOf left < Pattern.bytesOf right ↔
      left.toList < right.toList := by
  rw [← map_lt_map_iff (fun _ _ => UInt8.lt_iff_toNat_lt.symm)
      (fun _ _ => UInt8.toNat_inj),
    map_bytesOf leftAscii, map_bytesOf rightAscii,
    map_lt_map_iff (fun left right => (char_lt_iff left right).symm)
      (fun _ _ => Char.toNat_inj)]

end Text

namespace Calendar

open Sqlwright.Text

/-! ## The order in time -/

/-- The fields of a timestamp in lexicographic order. -/
def Timestamp.ordinal (timestamp : Timestamp) : Int ×ₗ List Nat :=
  toLex timestamp.fields

theorem Timestamp.before_iff_ordinal_lt (left right : Timestamp) :
    left.before right ↔ left.ordinal < right.ordinal := by
  rw [ordinal, ordinal, Prod.Lex.toLex_lt_toLex]
  rfl

instance Timestamp.decidableBefore (left right : Timestamp) :
    Decidable (left.before right) :=
  decidable_of_iff _ (left.before_iff_ordinal_lt right).symm

/-! ## The order of fractions -/

/-- The groups of three digits of a fraction. -/
def fractionGroups (nanosecond : Nat) : List Nat :=
  if nanosecond = 0 then []
  else if nanosecond % 1000000 = 0 then [nanosecond / 1000000]
  else if nanosecond % 1000 = 0 then
    [nanosecond / 1000000, nanosecond / 1000 % 1000]
  else
    [nanosecond / 1000000, nanosecond / 1000 % 1000, nanosecond % 1000]

/-- Groups of digits one behind the other. -/
def writeGroups (groups : List Nat) : List Char :=
  groups.flatMap fun group => (padded 3 group).toList

theorem toList_writeFraction
    {nanosecond : Nat} (fits : nanosecond < 1000000000) :
    (writeFraction nanosecond).toList =
      if nanosecond = 0 then []
      else '.' :: writeGroups (fractionGroups nanosecond) := by
  have point : ".".toList = ['.'] := rfl
  unfold writeFraction fractionGroups
  split_ifs
  · rfl
  · rw [String.toList_append, point]
    simp [writeGroups]
  · have split :=
      toList_padded_add 3 3 (nanosecond / 1000) (by decide) (by decide)
        (by omega)
    have front : nanosecond / 1000 / 10 ^ 3 = nanosecond / 1000000 := by omega
    rw [front] at split
    rw [String.toList_append, point, split]
    simp [writeGroups]
  · have split :=
      toList_padded_add 3 6 nanosecond (by decide) (by decide) fits
    have behind :=
      toList_padded_add 3 3 (nanosecond % 10 ^ 6) (by decide) (by decide)
        (by omega)
    have middle :
        nanosecond % 10 ^ 6 / 10 ^ 3 = nanosecond / 1000 % 1000 := by
      omega
    have back : nanosecond % 10 ^ 6 % 10 ^ 3 = nanosecond % 1000 := by omega
    rw [middle, back] at behind
    rw [String.toList_append, point, split, behind]
    simp [writeGroups]

theorem writeGroups_lt_iff
    {left right : List Nat} (leftFits : ∀ group ∈ left, group < 1000)
    (rightFits : ∀ group ∈ right, group < 1000) :
    writeGroups left < writeGroups right ↔ left < right := by
  induction left generalizing right with
  | nil =>
      cases right with
      | nil => simp [writeGroups]
      | cons group others =>
          have digits := (digits_padded 3 group).nonempty
          rcases List.exists_cons_of_ne_nil digits with ⟨first, rest, text⟩
          simp [writeGroups, text]
  | cons group rest step =>
      cases right with
      | nil => simp [writeGroups]
      | cons other others =>
          rw [List.forall_mem_cons] at leftFits rightFits
          have groups :=
            padded_append_lt_iff (Nat.succ_pos 2) leftFits.1 rightFits.1
              (writeGroups rest) (writeGroups others)
          rw [step leftFits.2 rightFits.2, ← List.cons_lt_cons_iff] at groups
          exact groups

theorem lt_of_mem_fractionGroups
    {nanosecond : Nat} (fits : nanosecond < 1000000000) :
    ∀ group ∈ fractionGroups nanosecond, group < 1000 := by
  unfold fractionGroups
  split_ifs <;> simp <;> omega

theorem fractionGroups_lt_iff (left right : Nat) :
    fractionGroups left < fractionGroups right ↔ left < right := by
  unfold fractionGroups
  split_ifs <;> simp [List.cons_lt_cons_iff] <;> omega

theorem writeFraction_lt_iff
    {left right : Nat} (leftFits : left < 1000000000)
    (rightFits : right < 1000000000) :
    (writeFraction left).toList < (writeFraction right).toList ↔
      left < right := by
  rw [toList_writeFraction leftFits, toList_writeFraction rightFits]
  split_ifs with leftWhole rightWhole rightWhole
  · simp [leftWhole, rightWhole]
  · simp [leftWhole]
    omega
  · simp [rightWhole]
  · rw [List.cons_lt_cons_self,
      writeGroups_lt_iff (lt_of_mem_fractionGroups leftFits)
        (lt_of_mem_fractionGroups rightFits),
      fractionGroups_lt_iff]

/-! ## The order of written timestamps -/

/-- The year has four digits and no sign. -/
def Timestamp.InFourDigits (timestamp : Timestamp) : Prop :=
  0 ≤ timestamp.date.year ∧ timestamp.date.year ≤ 9999

instance Timestamp.decidableInFourDigits (timestamp : Timestamp) :
    Decidable timestamp.InFourDigits :=
  inferInstanceAs (Decidable (_ ∧ _))

theorem writeYear_append_lt_iff
    {left right : Int} (leftFits : 0 ≤ left ∧ left ≤ 9999)
    (rightFits : 0 ≤ right ∧ right ≤ 9999) (leftRest rightRest : List Char) :
    (writeYear left).toList ++ '-' :: leftRest <
        (writeYear right).toList ++ '-' :: rightRest ↔
      left < right ∨ left = right ∧ leftRest < rightRest := by
  have leftDigits : left.natAbs < 10 ^ 4 := by omega
  have rightDigits : right.natAbs < 10 ^ 4 := by omega
  have below : left.natAbs < right.natAbs ↔ left < right := by omega
  have same : left.natAbs = right.natAbs ↔ left = right := by omega
  rw [toList_writeYear, toList_writeYear, if_pos leftFits, if_pos rightFits,
    padded_append_lt_iff (by decide) leftDigits rightDigits,
    List.cons_lt_cons_self, below, same]

theorem field_append_lt_iff
    {left right : Nat} (leftFits : left < 100) (rightFits : right < 100)
    (separator : Char) (leftRest rightRest : List Char) :
    (padded 2 left).toList ++ separator :: leftRest <
        (padded 2 right).toList ++ separator :: rightRest ↔
      left < right ∨ left = right ∧ leftRest < rightRest := by
  rw [padded_append_lt_iff (by decide) leftFits rightFits,
    List.cons_lt_cons_self]

/-- A regular leap second is written between second 59 and the next minute. -/
theorem writtenSecond_lt_iff
    {left right : TimeOfDay} (leftRegular : left.Regular)
    (rightRegular : right.Regular) :
    (padded 2 (left.second + left.nanosecond / 1000000000)).toList ++
          (writeFraction (left.nanosecond % 1000000000)).toList <
        (padded 2 (right.second + right.nanosecond / 1000000000)).toList ++
          (writeFraction (right.nanosecond % 1000000000)).toList ↔
      left.second < right.second ∨
        left.second = right.second ∧ left.nanosecond < right.nanosecond := by
  have leftBounds := left.bounds
  have rightBounds := right.bounds
  unfold TimeOfDay.Regular at leftRegular rightRegular
  have leftFits : left.second + left.nanosecond / 1000000000 < 10 ^ 2 := by
    omega
  have rightFits : right.second + right.nanosecond / 1000000000 < 10 ^ 2 := by
    omega
  rw [padded_append_lt_iff (by decide) leftFits rightFits,
    writeFraction_lt_iff (Nat.mod_lt _ (by decide))
      (Nat.mod_lt _ (by decide))]
  omega

/-- One timestamp is before another if it is in the first field that differs. -/
theorem Timestamp.before_iff (left right : Timestamp) :
    left.before right ↔
      left.date.year < right.date.year ∨ left.date.year = right.date.year ∧
      (left.date.month < right.date.month ∨
        left.date.month = right.date.month ∧
      (left.date.day < right.date.day ∨ left.date.day = right.date.day ∧
      (left.time.hour < right.time.hour ∨ left.time.hour = right.time.hour ∧
      (left.time.minute < right.time.minute ∨
        left.time.minute = right.time.minute ∧
      (left.time.second < right.time.second ∨
        left.time.second = right.time.second ∧
          left.time.nanosecond < right.time.nanosecond))))) := by
  simp only [before, fields, List.cons_lt_cons_iff, List.lt_irrefl, and_false,
    or_false]

theorem Timestamp.write_lt_iff_of_regular
    {left right : Timestamp} (leftYear : left.InFourDigits)
    (rightYear : right.InFourDigits) (leftRegular : left.Regular)
    (rightRegular : right.Regular) :
    (left.write " ").toList < (right.write " ").toList ↔
      left.before right := by
  have leftDate := left.date.bounds
  have rightDate := right.date.bounds
  have leftTime := left.time.bounds
  have rightTime := right.time.bounds
  have leftHour : left.time.hour < 100 := by omega
  have rightHour : right.time.hour < 100 := by omega
  have leftMinute : left.time.minute < 100 := by omega
  have rightMinute : right.time.minute < 100 := by omega
  rw [toList_write, toList_write, before_iff,
    writeYear_append_lt_iff leftYear rightYear,
    field_append_lt_iff leftDate.1 rightDate.1,
    field_append_lt_iff leftDate.2 rightDate.2,
    field_append_lt_iff leftHour rightHour,
    field_append_lt_iff leftMinute rightMinute,
    writtenSecond_lt_iff leftRegular rightRegular]

/-- Texts are in the order of what a clock shows. -/
theorem Timestamp.write_lt_iff
    {left right : Timestamp} (leftYear : left.InFourDigits)
    (rightYear : right.InFourDigits) :
    (left.write " ").toList < (right.write " ").toList ↔
      left.shown.before right.shown := by
  rw [← left.write_shown, ← right.write_shown]
  exact
    write_lt_iff_of_regular leftYear rightYear left.regular_shown
      right.regular_shown

/-- The whole second behind an irregular leap second is shown before it. -/
theorem Timestamp.exists_shown_before
    {timestamp : Timestamp} (irregular : ¬timestamp.Regular) :
    ∃ next : Timestamp,
      next.date = timestamp.date ∧ next.Regular ∧ timestamp.before next ∧
        ¬timestamp.shown.before next.shown := by
  have bounds := timestamp.time.bounds
  unfold Regular TimeOfDay.Regular at irregular
  have late :
      1000000000 ≤ timestamp.time.nanosecond ∧ timestamp.time.second < 59 := by
    omega
  let next : Timestamp :=
    ⟨timestamp.date,
      ⟨timestamp.time.hour, timestamp.time.minute, timestamp.time.second + 1, 0,
        timestamp.time.isTime_nextSecond late.2 (by decide)⟩⟩
  have regular : next.Regular := nofun
  refine ⟨next, rfl, regular, ?_, ?_⟩
  · rw [before_iff]
    simp [next]
  · rw [next.shown_eq_self_iff.2 regular, before_iff, shown, TimeOfDay.shown,
      dif_pos late]
    simp [next]

/-! ## The bytes of written timestamps -/

theorem ascii_of_digits
    {digits : List Char} (each : digits.all Char.isDigit = true) :
    ∀ character ∈ digits, character.toNat < 128 := by
  intro character member
  have digit := List.all_eq_true.1 each character member
  exact Nat.lt_of_le_of_lt (Char.isDigit_iff_toNat.1 digit).2 (by decide)

theorem ascii_padded (width value : Nat) :
    ∀ character ∈ (padded width value).toList, character.toNat < 128 :=
  ascii_of_digits (digits_padded width value).each

theorem ascii_writeYear (year : Int) :
    ∀ character ∈ (writeYear year).toList, character.toNat < 128 := by
  have digits := ascii_padded 4 year.natAbs
  rw [toList_writeYear]
  split_ifs
  · exact digits
  · exact List.forall_mem_cons.2 ⟨by decide, digits⟩
  · exact List.forall_mem_cons.2 ⟨by decide, digits⟩

theorem ascii_writeFraction
    {nanosecond : Nat} (fits : nanosecond < 1000000000) :
    ∀ character ∈ (writeFraction nanosecond).toList, character.toNat < 128 := by
  by_cases whole : nanosecond = 0
  · rw [whole]
    exact nofun
  · rcases exists_writeFraction_eq_padded fits whole with
      ⟨width, value, -, -, -, -, text⟩
    rw [text, List.forall_mem_cons]
    exact ⟨by decide, ascii_padded width value⟩

theorem Timestamp.ascii_write (timestamp : Timestamp) :
    ∀ character ∈ (timestamp.write " ").toList, character.toNat < 128 := by
  rw [toList_write]
  simp only [List.forall_mem_append, List.forall_mem_cons]
  exact
    ⟨ascii_writeYear _, by decide, ascii_padded _ _, by decide,
      ascii_padded _ _, by decide, ascii_padded _ _, by decide,
      ascii_padded _ _, by decide, ascii_padded _ _,
      ascii_writeFraction (Nat.mod_lt _ (by decide))⟩

end Calendar

end Sqlwright
