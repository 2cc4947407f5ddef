import JavaSketch.Fault

/-!
Statements become Java by ordered lists of rules: the first rule that applies decides.
-/

namespace JavaSketch

/-- A rule gives the Java form of the statements to which it applies. It may apply and give
nothing. -/
abbrev Rule := Text → Option (Except Fault (Option Text))

namespace Rule

/-- A rule for the statements that begin with a word, which never fails. -/
def opening (word : Text) (convert : Text → Text) : Rule := fun s =>
  if s.startsWith word then some (.ok (some (convert s))) else none

end Rule

namespace Statement

/-- A Java line ends in a semicolon or a brace. -/
def terminate (s : Text) : Text :=
  if s.endsWith ";" || s.endsWith "\x7b" || s.endsWith "\x7d" then s else s ++ ";"

def comparisons : List Text := ["==", "!=", "<=", ">="]

/-- An equals sign that is no part of a comparison. -/
def isAssignment (s : Text) : Bool := s.includes "=" && !comparisons.any s.includes

/-- A result that is asked for its last character has to be there. -/
def required : Option Text → Except Fault Text
  | some java => .ok java
  | none => .error .formless

/-- The Java form of a statement; what no rule knows is only terminated. -/
def convertBy (rules : List Rule) (statement : Text) : Except Fault Text :=
  let s := statement.trim
  match rules.findSome? (· s) with
  | none => .ok (terminate s)
  | some result => result >>= required

end Statement

end JavaSketch
