import JavaSketch.Text.Basic
import JavaSketch.Text.Printable

/-!
Texts between quotation marks, as they are shown in messages.
-/

namespace JavaSketch.Text

/-- The hexadecimal digits of a number, at least `width` of them. -/
def hex (width n : Nat) : Text :=
  let digits := Nat.toDigits 16 n
  List.replicate (width - digits.length) '0' ++ digits

/-- A character without a printed form is shown by its number. -/
def numbered (c : Char) : Text :=
  if c.toNat < 0x100 then "\\x" ++ hex 2 c.toNat
  else if c.toNat < 0x10000 then "\\u" ++ hex 4 c.toNat
  else "\\U" ++ hex 8 c.toNat

def shownChar (mark c : Char) : Text :=
  if c = mark ∨ c = '\\' then ['\\', c]
  else if c = '\t' then "\\t"
  else if c = '\n' then "\\n"
  else if c = '\r' then "\\r"
  else if isPrintable c then [c]
  else numbered c

/-- Single marks are used unless the text holds some and no double ones. -/
def quoteMark (s : Text) : Char := if s.contains '\'' && !s.contains '"' then '"' else '\''

/-- The text between quotation marks, with what cannot be printed escaped. -/
def shown (s : Text) : Text :=
  let mark := quoteMark s
  [mark] ++ s.flatMap (shownChar mark) ++ [mark]

end JavaSketch.Text
