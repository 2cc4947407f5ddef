import JavaSketch.Parameter
import JavaSketch.Statement.Local

/-!
Types that are inferred from values and names, and the declarations that rely on them.
-/

namespace JavaSketch.Statement

/-- The type of a literal; what is no literal counts as a string. -/
def literalType (value : Text) : Text :=
  let v := value.trim
  if v.isQuoted || (v.startsWith "'" && v.endsWith "'") then "String"
  else if v = "true".toList ∨ v = "false".toList then "boolean"
  else if v.includes "." then if v.isFraction then "double" else "String"
  else if v.isWhole then "int"
  else "String"

def calculations : List Text := [".add(", ".subtract(", ".multiply(", ".divide(", ".power("]

/-- The type of a call by the methods that it names; unknown methods are calculations. -/
def calculatedType (call : Text) : Text :=
  let c := call.trim
  if calculations.any c.includes then "double"
  else if c.includes ".size(" || c.includes ".length(" then "int"
  else if c.includes ".isEmpty(" || c.includes ".contains(" then "boolean"
  else if c.includes ".get(" && c.includes "Name" then "String"
  else if c.includes ".toString(" then "String"
  else "double"

/-- The type of a call by the methods that it names; unknown methods give strings. -/
def callType (call : Text) : Text :=
  let c := call.trim
  if calculations.any c.includes then "double"
  else if c.includes ".size(" || c.includes ".length(" then "int"
  else if c.includes ".isEmpty(" || c.includes ".contains(" then "boolean"
  else if c.includes ".get(" then
    if c.includes "Name" || c.includes "String" then "String" else "double"
  else "String"

def looksLikeCall (value : Text) : Bool :=
  value.includes "." && value.includes "(" && value.includes ")"

/-- The type of a value, where `ofCall` decides about calls. -/
def valueType (ofCall : Text → Text) (value : Text) : Text :=
  if looksLikeCall value then ofCall value else literalType value

/-- `var name = value`, with the type that the value has. -/
def guessedDeclaration (typeOf : Text → Text) (s : Text) : Text :=
  match Text.cut? "=" (s.drop 4) with
  | some (name, value) =>
    let value := value.trim
    if value = [] then "Object " ++ name.trim ++ ";"
    else typeOf value ++ " " ++ name.trim ++ " = " ++ value ++ ";"
  | none => "Object " ++ Text.trim (s.drop 4) ++ ";"

/-- The value `arraylist` of a list variable asks for an empty list. -/
def emptyListFor (type value : Text) : Text :=
  if value = "arraylist".toList ∧ type.startsWith "ArrayList" then
    "new ArrayList<" ++ (type.drop 10).dropLast ++ ">()"
  else value

/-- `name as type = value`. Nothing comes of a statement whose `as` belongs to the value. -/
def typedDeclaration (emptyLists : Bool) (s : Text) : Option Text :=
  let (part, value) : Text × Option Text :=
    match Text.cut? " = " s with
    | some (part, value) => (part.trim, some value.trim)
    | none => (s.trim, none)
  match Text.cut? " as " part with
  | none => none
  | some (name, type) =>
    let (java, value) := typeAndValue .full Container.unnamed type.trim value
    some (declared java name.trim
      (value.map fun v => if emptyLists then emptyListFor java v else v))

/-- The element types that the name of a list suggests. -/
def elementGuesses : List Guess :=
  [⟨["grade"], "Double"⟩, ⟨["course", "name", "title"], "String"⟩, ⟨["score", "point"], "Double"⟩,
   ⟨["id", "num"], "Integer"⟩]

/-- The assignment of the value `arraylist`, whose element type follows from the name. -/
def listAssignment (otherwise : Text → Except Fault (Option Text)) (s : Text) :
    Except Fault (Option Text) :=
  match Text.cut? "=" s with
  | some (target, value) =>
    if value.trim = "arraylist".toList then
      let target := target.trim
      let element := (firstGuess? elementGuesses ((target.splitAt '.').getLastD [])).getD "String"
      .ok (some (target ++ " = new ArrayList<" ++ element ++ ">();"))
    else otherwise s
  | none => otherwise s

def isListAssignment (s : Text) : Bool := s.includes "arraylist" && isAssignment s

end JavaSketch.Statement

namespace JavaSketch.Parameter

def amountGuesses : List Guess :=
  [⟨["age", "year", "day", "month"], "int"⟩,
   ⟨["a", "b", "x", "y", "base", "exponent", "power"], "double"⟩,
   ⟨["is", "has", "can", "should", "flag", "enabled"], "boolean"⟩]

def listGuesses : List Guess := [⟨["list", "array", "collection"], "ArrayList<String>"⟩]

def numberFirst : List Guess :=
  [⟨["num", "count", "size", "length", "index", "id"], "int"⟩,
   ⟨["amount", "price", "value", "rate", "percent"], "double"⟩] ++ amountGuesses ++
  [⟨["name", "text", "message", "title", "description", "email", "address"], "String"⟩] ++
  listGuesses

def describing : List Guess :=
  [⟨["name", "title", "description", "email", "address", "course", "studentid", "student_id"],
    "String"⟩]

def measuring : List Guess :=
  [⟨["num", "count", "size", "length", "index"], "int"⟩,
   ⟨["amount", "price", "value", "rate", "percent", "grade", "score"], "double"⟩] ++
  amountGuesses ++ listGuesses

def numericReturns : List Text := ["int", "double", "float", "long"]

/-- A numeric return type is the last hint at the type of a parameter. -/
def orReturnType (returns : Text) (guess : Option Text) : Text :=
  guess.getD (if numericReturns.contains returns then returns else "String")

/-- The type of a parameter by its name, numbers first. -/
def numberType (returns name : Text) : Text := orReturnType returns (firstGuess? numberFirst name)

/-- The type of a parameter by its name, descriptions first; a longer identifier is a string. -/
def describedType (returns name : Text) : Text :=
  let lowered := name.lower
  match firstGuess? describing name with
  | some type => type
  | none =>
    if lowered = "id".toList then "int"
    else if lowered.endsWith "id" then "String"
    else orReturnType returns (firstGuess? measuring name)

end JavaSketch.Parameter
