import JavaSketch.Fault

/-!
What a sketch declares: variables, methods, templates, and the program that holds them.
-/

namespace JavaSketch

/-- Who may use a member. -/
inductive Access
  | pub
  | priv
  | prot
  /-- No mark: the members of the same package. -/
  | pack
  deriving DecidableEq, Repr, Inhabited

namespace Access

def mark : Access → Text
  | pub => "*"
  | priv => "-"
  | prot => "+"
  | pack => ""

def keyword : Access → Text
  | pub => "public"
  | priv => "private"
  | prot => "protected"
  | pack => ""

def ofMark? : Char → Option Access
  | '*' => some pub
  | '-' => some priv
  | '+' => some prot
  | _ => none

/-- The access that the first character of a line asks for, and the member after the mark. -/
def ofFirst (c : Char) (s : Text) : Access × Text :=
  match ofMark? c with
  | some access => (access, Text.trim s)
  | none => (pack, c :: s)

/-- The access that a member line asks for, and the member. -/
def read : Text → Except Fault (Access × Text)
  | [] => .error .noCharacter
  | c :: s => .ok (ofFirst c s)

end Access

structure Variable where
  name : Text
  type : Text
  access : Access := .pack
  initial : Option Text := none
  isStatic : Bool := false
  deriving DecidableEq, Repr

structure Param where
  name : Text
  type : Text
  deriving DecidableEq, Repr

structure Method where
  name : Text
  params : List Param := []
  returnType : Text := "void"
  access : Access := .pack
  body : List Text := []
  isStatic : Bool := false
  isConstructor : Bool := false
  deriving DecidableEq, Repr

/-- A request for a getter and a setter. -/
structure Accessor where
  target : Text
  access : Access
  deriving DecidableEq, Repr

structure Template where
  name : Text
  staticVars : List Variable := []
  instanceVars : List Variable := []
  constructors : List Method := []
  staticMethods : List Method := []
  instanceMethods : List Method := []
  abstractMethods : List Method := []
  accessors : List Accessor := []
  isAbstract : Bool := false
  isInterface : Bool := false
  parent : Option Text := none
  interfaces : List Text := []
  deriving DecidableEq, Repr

namespace Template

/-- The declared variables, those of the instances first. -/
def allVars (t : Template) : List Variable := t.instanceVars ++ t.staticVars

def declared? (t : Template) (name : Text) : Option Variable :=
  t.allVars.find? (·.name == name)

end Template

structure Program where
  name : Text
  templates : List Template := []
  main : List Text := []
  methods : List Method := []
  deriving DecidableEq, Repr

end JavaSketch
