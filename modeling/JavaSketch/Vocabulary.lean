import JavaSketch.Fault
import JavaSketch.Pattern

/-!
The words of the language that a team may choose for itself.
-/

namespace JavaSketch

/-- The lists of interchangeable words, as a team gives them. -/
structure Synonyms where
  templateWords : List Text
  abstractWords : List Text
  parentWords : List Text
  interfaceWords : List Text
  abstractSections : List Text
  creationVerbs : List Text
  deriving DecidableEq, Repr

/-- A character that means something else than itself in a pattern. -/
def isSpecial (c : Char) : Bool :=
  ['.', '^', '$', '*', '+', '?', '\x7b', '[', '\\', '|', '(', ')'].contains c

/-- A word that stands for itself where a pattern is made of it. -/
def isLiteral (word : Text) : Bool := word.all fun c => !isSpecial c

/-- The name after a template word at the start of a trimmed line. -/
def nameAfter? (word s : Text) : Option Text :=
  match Pattern.find? (Pattern.anyCase word ++ [.gap, .name]) s with
  | some [name] => some name
  | _ => none

namespace Synonyms

def isTemplateWord (v : Synonyms) (word : Text) : Bool := v.templateWords.contains word.lower

/-- The name after one of the words. The words are tried in turn, each as a pattern, and only
literal words are patterns that match what they say. -/
def nameAfterAny (s : Text) : List Text → Except Fault (Option Text)
  | [] => .ok none
  | word :: words =>
    if isLiteral word then
      match nameAfter? word s with
      | some name => .ok (some name)
      | none => nameAfterAny s words
    else .error (.spliced word)

/-- The name after a template word at the start of a line. -/
def templateName (v : Synonyms) (line : Text) : Except Fault (Option Text) :=
  nameAfterAny line.trim v.templateWords

def opensTemplate (v : Synonyms) (line : Text) : Except Fault Bool :=
  (v.templateName line).map Option.isSome

/-- The first template word that occurs anywhere in a line. -/
def templateWordIn (v : Synonyms) (line : Text) : Text :=
  (v.templateWords.find? fun word => line.lower.includes word.lower).getD "template"

end Synonyms

/-- Words of which those for templates mean themselves. -/
structure Vocabulary extends Synonyms where
  literal : templateWords.all isLiteral = true := by rfl
  deriving DecidableEq, Repr

instance : Coe Vocabulary Synonyms := ⟨Vocabulary.toSynonyms⟩

namespace Vocabulary

def standard : Vocabulary where
  templateWords := ["template", "blueprint", "design", "class"]
  abstractWords := ["abstract", "contract", "basic", "base", "must-do"]
  parentWords := ["extends", "inherits", "is-a"]
  interfaceWords := ["implements", "can", "can-do", "capable"]
  abstractSections := ["abstract methods", "must-do methods"]
  creationVerbs := ["create", "make", "spawn", "build", "initialize"]

/-- The name after a template word at the start of a line. -/
def templateName? (v : Vocabulary) (line : Text) : Option Text :=
  v.templateWords.findSome? fun word => nameAfter? word line.trim

def opensTemplate (v : Vocabulary) (line : Text) : Bool := (v.templateName? line).isSome

def staticVarSections (word : Text) : List Text :=
  [word ++ " vars", "template vars", "static vars", "class vars"]

def staticMethodSections (word : Text) : List Text :=
  [word ++ " methods", "template methods", "static methods", "class methods"]

def accessorSections : List Text :=
  ["getters setters", "getters and setters", "getters, setters", "setters and getters"]

end Vocabulary

/-- Empty lists stand for the standard ones; the verbs are always standard. -/
def Synonyms.filled (v : Synonyms) : Synonyms :=
  let standard := Vocabulary.standard
  { templateWords := if v.templateWords.isEmpty then standard.templateWords else v.templateWords
    abstractWords := if v.abstractWords.isEmpty then standard.abstractWords else v.abstractWords
    parentWords := if v.parentWords.isEmpty then standard.parentWords else v.parentWords
    interfaceWords := if v.interfaceWords.isEmpty then standard.interfaceWords else v.interfaceWords
    abstractSections :=
      if v.abstractSections.isEmpty then standard.abstractSections else v.abstractSections
    creationVerbs := standard.creationVerbs }

end JavaSketch
