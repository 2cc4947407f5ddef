import JavaSketch.Declaration
import JavaSketch.Fault
import JavaSketch.JavaType

/-!
Parameters. A type is written in front of the name, or found from the variables of the template,
or guessed from the name.
-/

namespace JavaSketch

/-- A guess of a type: the words of which the lower-cased name holds one, and the type. -/
structure Guess where
  words : List Text
  type : Text

def Guess.fits (g : Guess) (lowered : Text) : Bool := g.words.any lowered.includes

def firstGuess? (guesses : List Guess) (name : Text) : Option Text :=
  let lowered := name.lower
  (guesses.find? (·.fits lowered)).map (·.type)

namespace Parameter

def quantityGuesses : List Guess :=
  [⟨["num", "number", "value", "result"], "double"⟩,
   ⟨["count", "size", "index", "length"], "int"⟩,
   ⟨["name", "text", "message", "title"], "String"⟩,
   ⟨["flag", "enabled", "active", "valid"], "boolean"⟩]

def unknownNames : List Text := ["a", "b", "x", "y", "z", "n", "m"]

/-- The type that the name of a parameter suggests, if it suggests one. -/
def suggestedType? (name : Text) : Option Text :=
  if unknownNames.contains name then some "double"
  else if name.lower = "exponent".toList then some "int"
  else if name.lower = "base".toList ∨ name.lower = "power".toList then some "double"
  else firstGuess? quantityGuesses name

def suggestedType (name : Text) : Text := (suggestedType? name).getD "String"

/-- The element type of the list whose name is the plural of the parameter's. -/
def elementType? (t : Template) (name : Text) : Option Text :=
  t.allVars.findSome? fun v =>
    if v.type.startsWith "ArrayList<" ∧ v.name.lower = name.lower ++ ['s'] then
      some ((v.type.drop 10).dropLast)
    else none

def declaredType? (t : Template) (name : Text) : Option Text :=
  (t.declared? name).map (·.type) <|> elementType? t name

/-- The type of a bare parameter of a template; a template without variables lets the name
decide. -/
def typeIn (guess? : Text → Option Text) (t : Template) (name : Text) : Except Fault Text :=
  match declaredType? t name with
  | some type => .ok type
  | none =>
    match if t.allVars.isEmpty then guess? name else none with
    | some type => .ok type
    | none => .error (.unknownParameter name)

/-- A parameter written as `type name`, or else a bare one. -/
def read (table : TypeTable) (bare : Text → Except Fault Text) (p : Text) : Except Fault Param :=
  match Text.cut? " " p with
  | some (type, name) => .ok ⟨name.trim, table.javaName type.trim⟩
  | none => (bare p).map fun type => ⟨p, type⟩

/-- A parameter that must have a written type. -/
def readTyped (table : TypeTable) (p : Text) : Except Fault Param :=
  match if p.includes " " then p.words else [] with
  | type :: name => .ok ⟨Text.join " " name, table.javaName type⟩
  | [] => .error (.bareParameter p)

/-- A list of parameters between commas. -/
def readAll (one : Text → Except Fault Param) (s : Text) : Except Fault (List Param) :=
  if s.trim = [] then .ok [] else (s.splitAt ',').mapM fun p => one p.trim

/-- The parameters of a template's method. -/
def readIn (t : Template) (s : Text) : Except Fault (List Param) :=
  readAll (read .full (typeIn (fun name => some (suggestedType name)) t)) s

/-- The parameters of a method outside a template. -/
def readFree (s : Text) : Except Fault (List Param) := readAll (readTyped .full) s

end Parameter

end JavaSketch
