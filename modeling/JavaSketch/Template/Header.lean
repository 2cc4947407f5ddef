import JavaSketch.Declaration
import JavaSketch.Vocabulary

/-!
The opening line of a template: whether it is abstract or an interface, what it extends and what
it implements.
-/

namespace JavaSketch

structure Header where
  isAbstract : Bool := false
  isInterface : Bool := false
  parent : Option Text := none
  interfaces : List Text := []
  deriving DecidableEq, Repr

namespace Header

def commaList (s : Text) : List Text := (s.splitAt ',').map Text.trim

/-- What stands before and after the first of the words that occurs between spaces. -/
def clause? (words : List Text) (s : Text) : Option (Text × Text) :=
  (words.findSome? fun word => Text.cut? (" " ++ word ++ " ") s).map fun (before, after) =>
    (before.trim, after.trim)

/-- The line without an abstract word in front, if it has one. -/
def dropAbstract (v : Synonyms) (s : Text) : Bool × Text :=
  match v.abstractWords.find? fun word => s.startsWith (word ++ " ") with
  | some word => (true, Text.trim (s.drop word.length))
  | none => (false, s)

def dropInterface (s : Text) : Bool × Text :=
  if s.startsWith "interface " then (true, Text.trim (s.drop 10)) else (false, s)

/-- The clauses of a line. Interfaces are looked for after the parent; before it only if no
parent is named. -/
def clauses (v : Synonyms) (s : Text) : Option Text × List Text :=
  let (s, parent, interfaces) : Text × Option Text × List Text :=
    match clause? v.parentWords s with
    | none => (s, none, [])
    | some (before, after) =>
      match clause? v.interfaceWords after with
      | some (parent, interfaces) => (before, some parent, commaList interfaces)
      | none => (before, some after, [])
  match parent with
  | some (c :: name) => (some (c :: name), interfaces)
  | _ =>
    match clause? v.interfaceWords s with
    | some (_, interfaces) => (parent, commaList interfaces)
    | none => (parent, interfaces)

def read (v : Synonyms) (line : Text) : Header :=
  let (isAbstract, s) := dropAbstract v line.trim
  let (isInterface, s) := dropInterface s
  let (parent, interfaces) := clauses v s
  { isAbstract, isInterface, parent, interfaces }

end Header

end JavaSketch
