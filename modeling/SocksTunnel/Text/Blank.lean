import SocksTunnel.Text.CodeRanges

/-!
Blank characters and trimming.

A character is blank if Unicode gives it the property White_Space, or if it is one of the four
separator control characters U+001C to U+001F. Trimming takes the blanks off both ends. Around
numbers the four separators do not count as blanks.
-/

namespace SocksTunnel.Text

/-- The blank characters. -/
def blankRanges : CodeRanges :=
  .read "9-d 1c-20 85 a0 1680 2000-200a 2028-2029 202f 205f 3000"

def isBlank (c : Char) : Bool := blankRanges.contains c

/-- The four separator control characters. -/
def isSeparator (c : Char) : Bool := 0x1c ≤ c.toNat && c.toNat ≤ 0x1f

/-- A text without the characters of a class at its two ends. -/
def trimOf (belongs : Char → Bool) (cs : List Char) : List Char :=
  ((cs.dropWhile belongs).reverse.dropWhile belongs).reverse

/-- A text without the blanks at its two ends. -/
def trim (cs : List Char) : List Char := trimOf isBlank cs

/-- The text of a number without the blanks around it. -/
def trimNumber (cs : List Char) : List Char := trimOf (fun c => isBlank c && !isSeparator c) cs

end SocksTunnel.Text
