import JavaSketch.Field
import JavaSketch.Statement.Inference

/-!
Fields and parameters of the editions that infer types.
-/

namespace JavaSketch

namespace Field

def cutValue (mark s : Text) : Option (Text × Option Text) :=
  (Text.cut? mark s).map fun (part, value) => (part.trim, some value.trim)

/-- The declared part of a field and the value after an equals sign. -/
def partAndAssigned (s : Text) : Text × Option Text := (cutValue " = " s).getD (s.trim, none)

/-- `type name`, or a bare name whose type follows from the value. -/
def typedOrGuessed (table : TypeTable) (part : Text) (value : Option Text) : Text × Text :=
  match Text.cut? " " part with
  | some (type, name) => (name, table.javaName type)
  | none =>
    match value with
    | none | some [] => (part, "Object")
    | some value => (part, Statement.literalType value)

/-- A field without `as`. -/
def ofWords (table : TypeTable) (isStatic : Bool) (s : Text) : Except Fault Variable := do
  let (access, s) ← Access.read s
  let (part, initial) := partAndAssigned s
  let (name, type) := typedOrGuessed table part initial
  .ok { name, type, access, initial, isStatic }

/-- A field with or without `as`. -/
def ofEither (split : Text → Text × Option Text) (containers : List Container) (isStatic : Bool)
    (s : Text) : Except Fault Variable := do
  let (access, s) ← Access.read s
  let (part, value) := split s
  match Text.cut? " as " part with
  | some (name, type) =>
    let (type, initial) := typeAndValue .full containers type.trim value
    .ok { name := name.trim, type, access, initial, isStatic }
  | none =>
    let (name, type) := typedOrGuessed .full part value
    .ok { name, type, access, initial := value, isStatic }

end Field

namespace Parameter

/-- Parameters whose missing types are found by a total rule. -/
def readGuessed (table : TypeTable) (typeOf : Text → Text) (s : Text) : Except Fault (List Param) :=
  readAll (read table fun name => .ok (typeOf name)) s

/-- Parameters of a constructor that are named like variables take their types. -/
def readLikeVariables (t : Template) (s : Text) : Except Fault (List Param) :=
  readGuessed .full
    (fun name => ((t.declared? name).map (·.type)).getD (describedType "void" name)) s

/-- Parameters of a constructor, each of which must be a declared variable or have a type. -/
def readDeclared (t : Template) (s : Text) : Except Fault (List Param) :=
  readAll (read .full fun name =>
    match t.declared? name with
    | some v => .ok v.type
    | none => .error (.undeclaredParameter name)) s

/-- The parameters of a template's member, where the name decides as `guess?` says. -/
def readMember (guess? : Text → Option Text) (t : Template) (s : Text) :
    Except Fault (List Param) :=
  readAll (read .full (typeIn guess? t)) s

end Parameter

end JavaSketch
