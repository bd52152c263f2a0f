import Sqlwright.Lexical.Encoded

/-!
# What a byte loop sees

The bytes of a text are taken for a list of characters, its `octets`, and an
index for the list of those that are still to be read.  A step over regions is
then told by `Passes`: what it passes, what is left behind it, and between which
enclosures it leads.

The main statement is that at every index of a text there is a step over a
region, or else the loop is outside of regions and a character stands there that
stands for itself.
-/

namespace Sqlwright.Lexical

/-- The bytes of a text, each as a character. -/
def octets (bytes : ByteArray) : List Char :=
  bytes.data.toList.map Char.ofUInt8

@[simp]
theorem length_octets (bytes : ByteArray) :
    (octets bytes).length = bytes.size := by
  rw [octets, List.length_map]
  rfl

theorem octets_append (front back : ByteArray) :
    octets (front ++ back) = octets front ++ octets back := by
  rw [octets, ByteArray.data_append, Array.toList_append, List.map_append]
  rfl

theorem octets_extract (bytes : ByteArray) (start stop : Nat) :
    octets (bytes.extract start stop) =
      ((octets bytes).drop start).take (stop - start) := by
  rw [octets, ByteArray.data_extract, Array.toList_extract, List.extract,
    octets, List.map_take, List.map_drop]

theorem toUInt8_ofUInt8 (byte : UInt8) : (Char.ofUInt8 byte).toUInt8 = byte :=
  UInt8.toUInt8_toUInt32 byte

/-- Bytes can be told from their characters. -/
theorem octets_inj {first second : ByteArray} :
    octets first = octets second ↔ first = second := by
  constructor
  · intro same
    have unread (bytes : ByteArray) :
        (octets bytes).map Char.toUInt8 = bytes.data.toList := by
      have back : Char.toUInt8 ∘ Char.ofUInt8 = id := funext toUInt8_ofUInt8
      rw [octets, List.map_map, back, List.map_id]
    apply ByteArray.ext
    apply Array.toList_inj.1
    rw [← unread first, same, unread second]
  · rintro rfl
    rfl

/-! ## Encoded characters -/

/-- The bytes of a character, each as a character. -/
def spelled (character : Char) : List Char :=
  (String.utf8EncodeChar character).map Char.ofUInt8

theorem octets_utf8Encode (text : List Char) :
    octets text.utf8Encode = text.flatMap spelled := by
  rw [octets, List.utf8Encode, List.toList_data_toByteArray, List.map_flatMap]
  rfl

theorem octets_toByteArray (text : String) :
    octets text.toByteArray = text.toList.flatMap spelled := by
  rw [← String.utf8Encode_toList, octets_utf8Encode]

/-- A character of ASCII is a byte of its own. -/
theorem spelled_of_lt
    {character : Char} (ascii : character.toNat < 128) :
    spelled character = [character] := by
  have single : character.utf8Size = 1 := by
    rw [Char.utf8Size_eq_one_iff, UInt32.le_iff_toNat_le]
    exact Nat.le_of_lt_succ ascii
  have same : Char.ofUInt8 character.val.toUInt8 = character := by
    apply Char.ext
    apply UInt32.toNat_inj.1
    show character.val.toUInt8.toUInt32.toNat = character.val.toNat
    rw [UInt8.toNat_toUInt32, UInt32.toNat_toUInt8]
    exact Nat.mod_eq_of_lt (Nat.lt_trans ascii (by decide))
  rw [spelled, String.utf8EncodeChar_eq_singleton single, List.map_singleton,
    same]

theorem flatMap_spelled
    {text : List Char} (ascii : ∀ character ∈ text, character.toNat < 128) :
    text.flatMap spelled = text := by
  induction text with
  | nil => rfl
  | cons character rest induction =>
      rw [List.forall_mem_cons] at ascii
      rw [List.flatMap_cons, spelled_of_lt ascii.1, induction ascii.2]
      rfl

/-- The bytes of another character are none of ASCII. -/
theorem le_of_mem_spelled
    {character : Char} (other : 128 ≤ character.toNat) :
    ∀ octet ∈ spelled character, 128 ≤ octet.toNat := by
  have long : ¬ character.val.toNat ≤ 127 := Nat.not_le_of_lt other
  have read (value : Nat) :
      (Char.ofUInt8 (UInt8.ofNat value)).toNat = value % 256 := by
    show (UInt8.ofNat value).toUInt32.toNat = _
    rw [UInt8.toNat_toUInt32, UInt8.toNat_ofNat']
  rw [spelled, String.utf8EncodeChar, if_neg long]
  split
  · simp only [List.map_cons, List.map_nil, List.forall_mem_cons, read]
    refine ⟨?_, ?_, fun _ member => absurd member List.not_mem_nil⟩ <;> omega
  · split
    · simp only [List.map_cons, List.map_nil, List.forall_mem_cons, read]
      refine ⟨?_, ?_, ?_, fun _ member => absurd member List.not_mem_nil⟩ <;>
        omega
    · simp only [List.map_cons, List.map_nil, List.forall_mem_cons, read]
      refine
        ⟨?_, ?_, ?_, ?_, fun _ member => absurd member List.not_mem_nil⟩ <;>
        omega

theorem spelled_ne_nil (character : Char) : spelled character ≠ [] := by
  rw [spelled, Ne, List.map_eq_nil_iff]
  exact String.utf8EncodeChar_ne_nil

/-! ## At an index -/

theorem octetAt?_eq (bytes : ByteArray) (index : Nat) :
    octetAt? bytes index = (octets bytes)[index]? := by
  rw [octets, List.getElem?_map, Array.getElem?_toList]
  rfl

section

variable {bytes : ByteArray} {index : Nat} {octet : Char} {behind : List Char}

theorem exists_octet (inside : index < bytes.size) :
    ∃ octet behind, (octets bytes).drop index = octet :: behind := by
  rw [← length_octets] at inside
  exact ⟨_, _, List.drop_eq_getElem_cons inside⟩

theorem octetAt?_of_drop (here : (octets bytes).drop index = octet :: behind) :
    octetAt? bytes index = some octet := by
  rw [octetAt?_eq, ← List.head?_drop, here]
  rfl

theorem octetAt_of_drop (here : (octets bytes).drop index = octet :: behind) :
    octetAt bytes index = .ok octet := by
  rw [octetAt, octetAt?_of_drop here]

theorem drop_succ (here : (octets bytes).drop index = octet :: behind) :
    (octets bytes).drop (index + 1) = behind := by
  rw [← List.drop_drop, here]
  rfl

theorem octetAt?_succ (here : (octets bytes).drop index = octet :: behind) :
    octetAt? bytes (index + 1) = behind.head? := by
  rw [octetAt?_eq, ← List.head?_drop, drop_succ here]

theorem pairAt_iff (here : (octets bytes).drop index = octet :: behind)
    (first second : Char) :
    pairAt bytes index first second = true ↔
      octet = first ∧ ∃ rest, behind = second :: rest := by
  rw [pairAt, octetAt?_of_drop here, octetAt?_succ here, Bool.and_eq_true,
    beq_iff_eq, beq_iff_eq, Option.some_inj, List.head?_eq_some_iff]

end

/-! ## Steps over regions -/

/-- A character that stands for itself in front of others. -/
structure Unmarked (octet : Char) (behind : List Char) : Prop where
  unquoted : Quotation.opened? octet = none
  noLine : ¬ ['-', '-'] <+: octet :: behind
  noBlock : ¬ ['/', '*'] <+: octet :: behind

namespace Enclosure

/--
What a step passes between two enclosures, and in front of what.  The step
looks at no character but those that it passes and the one behind them.
-/
inductive Passes : Enclosure → List Char → List Char → Enclosure → Prop where
  | opening (quotation : Quotation) (behind : List Char) :
      Passes none [quotation.opening] behind (quoted quotation)
  /-- The second hyphen is left for the comment. -/
  | openingLine (behind : List Char) :
      Passes none ['-'] ('-' :: behind) lineComment
  | openingBlock (behind : List Char) :
      Passes none ['/', '*'] behind (blockComment 1)
  | inQuotes {quotation : Quotation} {octet : Char} (behind : List Char) :
      octet ≠ quotation.closing →
        Passes (quoted quotation) [octet] behind (quoted quotation)
  | doubled (quotation : Quotation) (behind : List Char) :
      Passes (quoted quotation) [quotation.closing, quotation.closing] behind
        (quoted quotation)
  | closing {quotation : Quotation} {behind : List Char} :
      behind.head? ≠ some quotation.closing →
        Passes (quoted quotation) [quotation.closing] behind none
  | inLine {octet : Char} (behind : List Char) :
      octet ≠ '\n' → Passes lineComment [octet] behind lineComment
  | closingLine (behind : List Char) : Passes lineComment ['\n'] behind none
  | inner (depth : UInt32) (behind : List Char) :
      Passes (blockComment depth) ['/', '*'] behind (blockComment (depth + 1))
  | closingBlock (depth : UInt32) (behind : List Char) :
      Passes (blockComment depth) ['*', '/'] behind
        (if depth = 1 then none else blockComment (depth - 1))
  | inBlock {depth : UInt32} {octet : Char} {behind : List Char} :
      ¬ ['/', '*'] <+: octet :: behind → ¬ ['*', '/'] <+: octet :: behind →
        Passes (blockComment depth) [octet] behind (blockComment depth)

theorem Passes.ne_nil
    {enclosure next : Enclosure} {seen behind : List Char}
    (passes : Passes enclosure seen behind next) :
    seen ≠ [] := by
  cases passes <;> exact List.cons_ne_nil _ _

section

variable {bytes : ByteArray} {index : Nat} {octet : Char} {behind : List Char}

theorem not_prefix_of_pairAt
    (here : (octets bytes).drop index = octet :: behind) {first second : Char}
    (other : ¬ pairAt bytes index first second = true) :
    ¬ [first, second] <+: octet :: behind := by
  rw [pairAt_iff here] at other
  rintro ⟨rest, spelled⟩
  cases spelled
  exact other ⟨rfl, rest, rfl⟩

theorem opening_of_opened?
    {quotation : Quotation} (opens : Quotation.opened? octet = some quotation) :
    octet = quotation.opening := by
  unfold Quotation.opened? at opens
  split at opens <;> cases opens <;> rfl

/-- Plain text opens a region or stands for itself. -/
theorem exists_pass_none
    (here : (octets bytes).drop index = octet :: behind) :
    (∃ seen rest next,
        octet :: behind = seen ++ rest ∧ Passes none seen rest next ∧
          opened? bytes index = some (next, seen.length)) ∨
      (opened? bytes index = .none ∧ Unmarked octet behind) := by
  rw [opened?, octetAt?_of_drop here, Option.bind_some]
  cases opens : Quotation.opened? octet with
  | some quotation =>
      have first := opening_of_opened? opens
      exact
        .inl ⟨[octet], behind, _, rfl, by rw [first]; exact .opening _ _, rfl⟩
  | none =>
      dsimp only
      split
      · rename_i line
        rcases (pairAt_iff here _ _).1 line with ⟨rfl, rest, rfl⟩
        exact .inl ⟨['-'], _, _, rfl, .openingLine rest, rfl⟩
      · rename_i noLine
        split
        · rename_i block
          rcases (pairAt_iff here _ _).1 block with ⟨rfl, rest, rfl⟩
          exact .inl ⟨['/', '*'], rest, _, rfl, .openingBlock rest, rfl⟩
        · rename_i noBlock
          exact
            .inr
              ⟨rfl, opens, not_prefix_of_pairAt here noLine,
                not_prefix_of_pairAt here noBlock⟩

/-- Inside a region there is always a step. -/
theorem exists_pass_advance
    (here : (octets bytes).drop index = octet :: behind)
    {enclosure : Enclosure} (within : enclosure ≠ none) :
    ∃ seen rest next,
      octet :: behind = seen ++ rest ∧ Passes enclosure seen rest next ∧
        enclosure.advance bytes index = .ok (next, seen.length) := by
  cases enclosure with
  | none => exact absurd rfl within
  | quoted quotation =>
      simp only [advance, octetAt_of_drop here, octetAt?_succ here, bind,
        Except.bind, pure, Except.pure]
      split
      · rename_i other
        exact ⟨[octet], behind, _, rfl, .inQuotes behind other, rfl⟩
      · rename_i closes
        have same : octet = quotation.closing := Decidable.not_not.1 closes
        subst same
        split
        · rename_i again
          rcases List.head?_eq_some_iff.1 again with ⟨rest, rfl⟩
          exact ⟨[_, _], rest, _, rfl, .doubled quotation rest, rfl⟩
        · rename_i ends
          exact ⟨[_], behind, _, rfl, .closing ends, rfl⟩
  | lineComment =>
      simp only [advance, octetAt_of_drop here, bind, Except.bind, pure,
        Except.pure]
      split
      · rename_i ends
        subst ends
        exact ⟨['\n'], behind, _, rfl, .closingLine behind, rfl⟩
      · rename_i other
        exact ⟨[octet], behind, _, rfl, .inLine behind other, rfl⟩
  | blockComment depth =>
      simp only [advance, octetAt_of_drop here, bind, Except.bind, pure,
        Except.pure]
      split
      · rename_i opens
        rcases (pairAt_iff here _ _).1 opens with ⟨rfl, rest, rfl⟩
        exact ⟨['/', '*'], rest, _, rfl, .inner depth rest, rfl⟩
      · rename_i noOpening
        split
        · rename_i closes
          rcases (pairAt_iff here _ _).1 closes with ⟨rfl, rest, rfl⟩
          exact ⟨['*', '/'], rest, _, rfl, .closingBlock depth rest, rfl⟩
        · rename_i noClosing
          exact
            ⟨[octet], behind, _, rfl,
              .inBlock (not_prefix_of_pairAt here noOpening)
                (not_prefix_of_pairAt here noClosing),
              rfl⟩

/--
At every index of a text there is a step over a region, or a character outside
of regions that stands for itself.
-/
theorem exists_pass
    (here : (octets bytes).drop index = octet :: behind)
    (enclosure : Enclosure) :
    (∃ seen rest next,
        octet :: behind = seen ++ rest ∧ Passes enclosure seen rest next ∧
          enclosure.pass? bytes index = .ok (some (next, seen.length))) ∨
      (enclosure = none ∧ enclosure.pass? bytes index = .ok .none ∧
        Unmarked octet behind) := by
  unfold pass?
  split
  · rename_i outside
    subst outside
    rcases exists_pass_none here with
      ⟨seen, rest, next, split, passes, opens⟩ | ⟨stays, unmarked⟩
    · rw [opens]
      exact .inl ⟨seen, rest, next, split, passes, rfl⟩
    · rw [stays]
      exact .inr ⟨rfl, rfl, unmarked⟩
  · rename_i within
    rcases exists_pass_advance here within with
      ⟨seen, rest, next, split, passes, advanced⟩
    rw [advanced]
    exact .inl ⟨seen, rest, next, split, passes, rfl⟩

end

end Enclosure

end Sqlwright.Lexical
