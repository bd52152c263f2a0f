import Sqlwright.Lexical.Mode

/-!
# Numbered placeholders

Some drivers want the placeholders of a statement numbered.  `number` replaces
each `?` of plain text by a mark with its number, counted from one, and leaves
quoted regions and comments as they are.  `placeholders` says how many there
are; a statement without any is not changed.

`renumber` also says whether a new text was made.  A copy is begun at the first
placeholder, so a statement without any is handed on as it was given.
-/

namespace Sqlwright.Lexical

/-- How a numbered placeholder is written. -/
inductive NumberStyle where
  /-- `@P1`, `@P2`, … -/
  | atP
  /-- `$1`, `$2`, … -/
  | dollar
  deriving DecidableEq

/-- What stands in front of the number. -/
def NumberStyle.sign : NumberStyle → List Char
  | atP => ['@', 'P']
  | dollar => ['$']

/-- A numbered placeholder: the sign of the style, and the number in digits. -/
def NumberStyle.mark (style : NumberStyle) (number : Nat) : List Char :=
  style.sign ++ Nat.toDigits 10 number

/-- A text with its placeholders numbered from `number` on. -/
def numberFrom (style : NumberStyle) (mode : Mode) (number : Nat) :
    List Char → List Char
  | [] => []
  | character :: rest =>
      if mode.isPlain && character == '?' then
        style.mark number ++
          numberFrom style (mode.next character) (number + 1) rest
      else
        character :: numberFrom style (mode.next character) number rest

/-- The number of placeholders in a text that is read from a mode on. -/
def placeholdersFrom (mode : Mode) : List Char → Nat
  | [] => 0
  | character :: rest =>
      placeholdersFrom (mode.next character) rest +
        if mode.isPlain && character == '?' then 1 else 0

/-- The number of placeholders of a statement. -/
def placeholders (sql : String) : Nat :=
  placeholdersFrom .plain sql.toList

/-- A statement with its placeholders numbered. -/
def number (style : NumberStyle) (sql : String) : String :=
  String.ofList (numberFrom style .plain 1 sql.toList)

/-- A text that is handed on as it was given, or a new one. -/
inductive Handed where
  | given (text : String)
  | rewritten (text : String)
  deriving DecidableEq

namespace Handed

/-- The text itself, wherever it comes from. -/
def text : Handed → String
  | given text | rewritten text => text

/-- Whether the text is the one that was given. -/
def isGiven : Handed → Bool
  | given _ => true
  | rewritten _ => false

end Handed

/--
The numbered copy of a text, if there is a copy.  Of the text `front` has been
read, and `copy` has been written if it has been begun, both in reverse.
-/
def copyFrom (style : NumberStyle) (mode : Mode) (number : Nat)
    (front : List Char) (copy : Option (List Char)) :
    List Char → Option (List Char)
  | [] => copy.map List.reverse
  | character :: rest =>
      if mode.isPlain && character == '?' then
        copyFrom style (mode.next character) (number + 1) (character :: front)
          (some ((style.mark number).reverse ++ copy.getD front)) rest
      else
        copyFrom style (mode.next character) number (character :: front)
          (copy.map (List.cons character)) rest

/-- A statement with its placeholders numbered, copied only if it has any. -/
def renumber (style : NumberStyle) (sql : String) : Handed :=
  match copyFrom style .plain 1 [] none sql.toList with
  | some copy => .rewritten (String.ofList copy)
  | none => .given sql

theorem placeholdersFrom_append (mode : Mode) (front back : List Char) :
    placeholdersFrom mode (front ++ back) =
      placeholdersFrom mode front + placeholdersFrom (mode.after front) back := by
  induction front generalizing mode with
  | nil => simp [placeholdersFrom]
  | cons character rest step =>
      simp only [List.cons_append, placeholdersFrom, step, Mode.after_cons]
      omega

theorem numberFrom_append
    (style : NumberStyle) (mode : Mode) (count : Nat)
    (front back : List Char) :
    numberFrom style mode count (front ++ back) =
      numberFrom style mode count front ++
        numberFrom style (mode.after front)
          (count + placeholdersFrom mode front) back := by
  induction front generalizing mode count with
  | nil => simp [numberFrom, placeholdersFrom]
  | cons character rest step =>
      by_cases placeholder : (mode.isPlain && character == '?') = true
      · simp only [List.cons_append, numberFrom, placeholdersFrom, placeholder,
          if_true, step, Mode.after_cons, List.append_assoc]
        congr 3
        omega
      · simp only [List.cons_append, numberFrom, placeholdersFrom, placeholder,
          if_false, step, Mode.after_cons, Nat.add_zero, Bool.false_eq_true]

/-- A statement without placeholders keeps its text. -/
theorem numberFrom_of_placeholdersFrom_eq_zero
    (style : NumberStyle) (mode : Mode) (count : Nat)
    (text : List Char)
    (none : placeholdersFrom mode text = 0) :
    numberFrom style mode count text = text := by
  induction text generalizing mode with
  | nil => rfl
  | cons character rest step =>
      by_cases placeholder : (mode.isPlain && character == '?') = true
      · simp [placeholdersFrom, placeholder] at none
      · simp only [placeholdersFrom, placeholder, if_false, Nat.add_zero,
          Bool.false_eq_true] at none
        simp [numberFrom, placeholder, step _ none]

/-- A copy that has been begun gets the rest of the numbered text. -/
theorem copyFrom_some
    (style : NumberStyle) (mode : Mode) (count : Nat)
    (front copy text : List Char) :
    copyFrom style mode count front (some copy) text =
      some (copy.reverse ++ numberFrom style mode count text) := by
  induction text generalizing mode count front copy with
  | nil => simp [copyFrom, numberFrom]
  | cons character rest step =>
      rw [copyFrom, numberFrom]
      split
      · rw [step]
        simp
      · rw [Option.map_some, step]
        simp

/-- Without a copy one is made exactly if there is a placeholder. -/
theorem copyFrom_none
    (style : NumberStyle) (mode : Mode) (count : Nat)
    (front text : List Char) :
    copyFrom style mode count front none text =
      if placeholdersFrom mode text = 0 then none
      else some (front.reverse ++ numberFrom style mode count text) := by
  induction text generalizing mode count front with
  | nil => rfl
  | cons character rest step =>
      rw [copyFrom, numberFrom, placeholdersFrom]
      split
      · rw [copyFrom_some, if_neg (Nat.succ_ne_zero _)]
        simp
      · rw [Option.map_none, step, Nat.add_zero]
        simp

/-- A statement with placeholders is copied with numbers, no other one is. -/
theorem renumber_eq (style : NumberStyle) (sql : String) :
    renumber style sql =
      if placeholders sql = 0 then .given sql
      else .rewritten (number style sql) := by
  rw [renumber, copyFrom_none, placeholders, number]
  by_cases none : placeholdersFrom .plain sql.toList = 0
  · rw [if_pos none, if_pos none]
  · rw [if_neg none, if_neg none]
    rfl

/-- What is handed on is the numbered statement in any case. -/
theorem text_renumber (style : NumberStyle) (sql : String) :
    (renumber style sql).text = number style sql := by
  rw [renumber_eq]
  split
  · rename_i none
    rw [number, numberFrom_of_placeholdersFrom_eq_zero style .plain 1 _ none,
      String.ofList_toList]
    rfl
  · rfl

end Sqlwright.Lexical
