import JavaSketch.Declaration
import JavaSketch.Fault
import JavaSketch.JavaType

/-!
Fields: `name as type`, with an initial value after `with` or `=`, and requests for accessors.
-/

namespace JavaSketch

/-- A member line that declares nothing. -/
def isIdle (s : Text) : Bool := s.isEmpty || s.startsWith "//"

namespace Field

/-- The declared part of a field and its initial value. -/
def partAndValue (s : Text) : Text × Option Text :=
  match Text.cut? " with " s with
  | some (part, value) => (part.trim, some value.trim)
  | none =>
    match Text.cut? " = " s with
    | some (part, value) => (part.trim, some value.trim)
    | none => (s.trim, none)

/-- A field whose type must be written. -/
def ofText (isStatic : Bool) (s : Text) : Except Fault Variable := do
  let (access, s) ← Access.read s
  let (part, value) := partAndValue s
  match Text.cut? " as " part with
  | none => .error (.untypedField s)
  | some (name, type) =>
    let (type, initial) := typeAndValue .full Container.common type.trim value
    .ok { name := name.trim, type, access, initial, isStatic }

/-- The field on a member line, if the line is not idle. -/
def read (isStatic : Bool) (line : Text) : Except Fault (Option Variable) :=
  let s := line.trim
  if isIdle s then .ok none else (ofText isStatic s).map some

end Field

/-- The request on a line for accessors. -/
def Accessor.read (line : Text) : Except Fault (Option Accessor) :=
  let s := line.trim
  if isIdle s then .ok none
  else do
    let (access, target) ← Access.read s
    .ok (some ⟨target.trim, access⟩)

end JavaSketch
