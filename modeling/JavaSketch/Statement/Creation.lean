import JavaSketch.Pattern
import JavaSketch.Statement.Rule

/-!
Creation of objects: `create x as C with arguments`.
-/

namespace JavaSketch.Statement

open Pattern (exactly)

/-- The words up to `with`, keeping the name and the class. -/
def creationHead (verb : Text) : Pattern :=
  exactly verb ++ [.gap, .name, .gap] ++ exactly "as" ++ [.gap, .name, .gap] ++ exactly "with"

/-- Creation with arguments, which are the rest of the line. -/
def creationPattern (verb : Text) : Pattern := creationHead verb ++ [.gap, .run .any 0 true true]

def bareCreationPattern (verb : Text) : Pattern := creationHead verb ++ [.space, .finish]

def created (name type arguments : Text) : Text :=
  type ++ " " ++ name ++ " = new " ++ type ++ "(" ++ arguments ++ ");"

def creationRule (verbs : List Text) : Rule := fun s =>
  verbs.findSome? fun verb =>
    match (creationPattern verb).find? s with
    | some [name, type, arguments] => some (.ok (some (created name type arguments)))
    | _ => none

def bareCreationRule (verbs : List Text) : Rule := fun s =>
  verbs.findSome? fun verb =>
    match (bareCreationPattern verb).find? s with
    | some [name, type] => some (.ok (some (created name type [])))
    | _ => none

end JavaSketch.Statement
