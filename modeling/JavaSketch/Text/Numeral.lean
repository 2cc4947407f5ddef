import JavaSketch.Text.Basic
import JavaSketch.Text.Digit

/-!
Numerals: which texts are read as whole numbers and as decimal fractions.
-/

namespace JavaSketch.Text

def isDigits (s : Text) : Bool := !s.isEmpty && s.all isDigit

/-- Decimal digits, where a low line may stand between two of them. -/
def isDigitRun (s : Text) : Bool :=
  (s.splitAt '_').all fun group => !group.isEmpty && group.all isDecimal

def dropSign : Text → Text
  | '+' :: s => s
  | '-' :: s => s
  | s => s

/-- Longer whole numbers are not read. -/
def wholeDigitLimit : Nat := 4300

def isWhole (s : Text) : Bool :=
  let digits := dropSign s
  digits.isDigitRun && (digits.filter (· != '_')).length ≤ wholeDigitLimit

def isExponentMark (c : Char) : Bool := c == 'e' || c == 'E'

/-- Digits on at least one side of a point, or digits alone. -/
def isMantissa (s : Text) : Bool :=
  match cut? ['.'] s with
  | none => s.isDigitRun
  | some (whole, part) =>
    (whole.isEmpty || whole.isDigitRun) && (part.isEmpty || part.isDigitRun) &&
      !(whole.isEmpty && part.isEmpty)

def isFraction (s : Text) : Bool :=
  let s := dropSign s
  isMantissa (s.takeWhile fun c => !isExponentMark c) &&
    match s.dropWhile fun c => !isExponentMark c with
    | [] => true
    | _ :: exponent => isDigitRun (dropSign exponent)

end JavaSketch.Text
