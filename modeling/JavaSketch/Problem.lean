import JavaSketch.Text.Basic

/-!
Problems as they are reported: a message, with the line it is about where that is known.
-/

namespace JavaSketch

/-- What a problem is about. -/
inductive ProblemKind
  | general
  | reading
  | wording
  | typing
  | variable
  | method
  | template
  | file
  | compilation
  | execution
  deriving DecidableEq, Repr

/-- Problems found while reading a sketch can say where. -/
def ProblemKind.hasPlace : ProblemKind → Bool
  | .reading | .wording | .typing | .variable | .method | .template => true
  | .general | .file | .compilation | .execution => false

/-- A problem, with the number of its line and the line itself. -/
structure Problem where
  kind : ProblemKind
  message : Text
  line : Option Int := none
  content : Option Text := none

namespace Problem

/-- The line is quoted only together with its number, and only if it is not empty. -/
def text (p : Problem) : Text :=
  match p.kind.hasPlace, p.line with
  | true, some n =>
    "Line " ++ (toString n).toList ++ ": " ++ p.message ++
      match p.content with
      | none | some [] => []
      | some content => "\n  --> " ++ content.trim
  | _, _ => p.message

end Problem

end JavaSketch
