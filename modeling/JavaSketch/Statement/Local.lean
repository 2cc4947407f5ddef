import JavaSketch.JavaType
import JavaSketch.Statement.Collection
import JavaSketch.Statement.Rule

/-!
Local declarations: `var name = value`, and `name as type` with a value after `with` or `=`.
-/

namespace JavaSketch.Statement

def isAsciiName : Text → Bool
  | [] => false
  | c :: s => (c.isAlpha || c == '_') && s.all isAsciiWord

/-- Words after `as` that show a statement to be about a collection. -/
def linkWords : List Text := [" to ", " from ", " in ", " at ", " into "]

/-- A declaration with a value: an initial value after `with`, or an assignment. -/
def hasValue (s : Text) : Bool := s.includes " with " || isAssignment s

/-- A bare `name as type`. -/
def isBareLocal (s : Text) : Bool :=
  match Text.cut? " as " s with
  | none => false
  | some (name, type) =>
    !type.includes " as " && isAsciiName name.trim && !linkWords.any type.trim.lower.includes

def isValuedLocal (s : Text) : Bool := s.startsWith "var " || (s.includes " as " && hasValue s)

def isLocal (s : Text) : Bool := isValuedLocal s || (s.includes " as " && isBareLocal s)

/-- The Java text of a declaration; an empty value counts as none. -/
def declared (type name : Text) : Option Text → Text
  | none | some [] => type ++ " " ++ name ++ ";"
  | some value => type ++ " " ++ name ++ " = " ++ value ++ ";"

/-- `var name = value`. -/
def inferredDeclaration (book : Phrasebook) (hint : Bool) (s : Text) : Except Fault Text :=
  match Text.cut? " = " (Text.trim (s.drop 4)) with
  | some (name, value) =>
    .ok ("var " ++ name.trim ++ " = " ++ javaValue book value.trim ++ ";")
  | none => .error (.uninitialized s hint)

/-- The declared part of a statement and its value; `with` is looked for first. -/
def partAndValue (book : Phrasebook) (s : Text) : Text × Option Text :=
  match Text.cut? " with " s with
  | some (part, value) => (part.trim, some value.trim)
  | none =>
    match Text.cut? " = " s with
    | some (part, value) => (part.trim, some (javaValue book value.trim))
    | none => (s, none)

/-- How an edition treats a statement that it takes for a declaration without `as`. -/
inductive Untyped
  | terminated
  | refusedIfAssigned
  deriving DecidableEq

def Untyped.convert : Untyped → Text → Except Fault Text
  | terminated, s => .ok (s ++ ";")
  | refusedIfAssigned, s =>
    if isAssignment s then .error (.implicitLocal s) else .ok (s ++ ";")

structure LocalStyle where
  containers : List Container
  book : Phrasebook
  hint : Bool
  untyped : Untyped

def localDeclaration (style : LocalStyle) (s : Text) : Except Fault Text :=
  if s.startsWith "var " then inferredDeclaration style.book style.hint s
  else if s.includes " as " then
    let (part, value) := partAndValue style.book s
    match Text.cut? " as " part with
    | some (name, type) =>
      let (java, value) := typeAndValue .full style.containers type.trim value
      .ok (declared java name.trim value)
    | none => .error (.untypedLocal s)
  else style.untyped.convert s

/-- An assignment, whose value may be an operation. -/
def assignment (book : Phrasebook) (s : Text) : Text :=
  match Text.cut? "=" s with
  | some (target, value) => target.trim ++ " = " ++ javaValue book value.trim ++ ";"
  | none => s ++ ";"

def operationStatement (book : Phrasebook) (s : Text) : Text :=
  let java := operationExpression book.operations s
  if java.endsWith ";" then java else java ++ ";"

end JavaSketch.Statement
