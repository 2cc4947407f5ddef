import JavaSketch.Declaration
import JavaSketch.Text.Case

/-!
Members of a class in Java: variables, methods and accessors.
-/

namespace JavaSketch.Java

/-- How members are laid out. -/
structure Style where
  /-- A space stands for a missing access keyword of a method. -/
  gapForAccess : Bool
  /-- An empty line between a getter and its setter. -/
  gapInAccessors : Bool
  /-- The name of a constructor of a class; one among other methods has no class. -/
  constructorName : Option Text → Method → Text

/-- A constructor is named like its class, or by its own name if there is none. -/
def classOrOwnName : Option Text → Method → Text
  | some (c :: name), _ => c :: name
  | _, m => m.name

namespace Style

def current : Style := ⟨false, true, classOrOwnName⟩

/-- The access keyword and the space after it. -/
def accessLead (style : Style) (access : Access) : Text :=
  if access.keyword = [] ∧ !style.gapForAccess then [] else access.keyword ++ " "

end Style

def indented (s : Text) : Text := "    " ++ s

/-- A body is indented twice. -/
def bodyLine (s : Text) : Text := "        " ++ s

def opened (head : Text) : Text := head ++ " \x7b"

def closing : Text := "\x7d"

/-- An empty initial value counts as none. -/
def initializer : Option Text → Text
  | none | some [] => []
  | some value => " = " ++ value

def staticWord (isStatic : Bool) : Text := if isStatic then "static " else ""

def variableLine (isStatic : Bool) (v : Variable) : Text :=
  indented (Style.current.accessLead v.access ++ staticWord isStatic ++ v.type ++ " " ++ v.name ++
    initializer v.initial ++ ";")

def paramList (params : List Param) : Text :=
  Text.join ", " (params.map fun p => p.type ++ " " ++ p.name)

def call (name : Text) (params : List Param) : Text := name ++ "(" ++ paramList params ++ ")"

/-- The head of a method; a constructor gets the name of its class. -/
def methodHead (style : Style) (className : Option Text) (m : Method) : Text :=
  style.accessLead m.access ++
    if m.isConstructor then call (style.constructorName className m) m.params
    else staticWord m.isStatic ++ m.returnType ++ " " ++ call m.name m.params

def block (head : Text) (body : List Text) : List Text :=
  [indented (opened head)] ++ body.map bodyLine ++ [indented closing]

def methodLines (style : Style) (className : Option Text) (m : Method) : List Text :=
  block (methodHead style className m) m.body

def abstractLine (m : Method) : Text :=
  indented (Style.current.accessLead m.access ++ "abstract " ++ m.returnType ++ " " ++
    call m.name m.params ++ ";")

def mainLines (body : List Text) : List Text :=
  block "public static void main(String[] args)" body

def getterName (v : Variable) : Text := "get" ++ v.name.capitalize

def setterName (v : Variable) : Text := "set" ++ v.name.capitalize

def getterLines (style : Style) (access : Access) (v : Variable) : List Text :=
  block (style.accessLead access ++ v.type ++ " " ++ call (getterName v) [])
    ["return " ++ v.name ++ ";"]

def setterLines (style : Style) (access : Access) (v : Variable) : List Text :=
  block (style.accessLead access ++ "void " ++ call (setterName v) [⟨v.name, v.type⟩])
    ["this." ++ v.name ++ " = " ++ v.name ++ ";"]

def accessorLines (style : Style) (access : Access) (v : Variable) : List Text :=
  getterLines style access v ++ (if style.gapInAccessors then [[]] else []) ++
    setterLines style access v

/-- A part of a class and the empty line after it. -/
def spaced (lines : List Text) : List Text := lines ++ [[]]

/-- The lines of some variables and an empty line, if there are any. -/
def variableLines (isStatic : Bool) (vs : List Variable) : List Text :=
  if vs.isEmpty then [] else spaced (vs.map (variableLine isStatic))

end JavaSketch.Java
