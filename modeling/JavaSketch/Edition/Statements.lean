import JavaSketch.Statement.Control
import JavaSketch.Statement.Creation
import JavaSketch.Statement.Inference
import JavaSketch.Statement.Print
import JavaSketch.Vocabulary

/-!
The statement rules of the editions, from inferred types to written ones.
-/

namespace JavaSketch.Statement

/-- A statement that begins with `var`, and a statement that does not. -/
def onVar (inferred other : Text → Except Fault (Option Text)) (s : Text) :
    Except Fault (Option Text) :=
  if s.startsWith "var " then inferred s else other s

/-- Declarations with literals only. -/
def declareLiteral : Text → Except Fault (Option Text) :=
  onVar (fun s => .ok (some (guessedDeclaration literalType s))) (fun s => .ok (some (s ++ ";")))

/-- Declarations with literals, calls, or a type after `as`. -/
def declareGuessed (ofCall : Text → Text) (emptyLists : Bool) : Text → Except Fault (Option Text) :=
  onVar (fun s => .ok (some (guessedDeclaration (valueType ofCall) s))) fun s =>
    .ok (if s.includes " as " then typedDeclaration emptyLists s else some (s ++ ";"))

/-- Declarations with a type after `as`. -/
def declareTyped : Text → Except Fault (Option Text) :=
  onVar (fun s => .error (.inferredLocal s)) fun s =>
    if s.includes " as " then .ok (typedDeclaration true s)
    else (Untyped.refusedIfAssigned.convert s).map some

def creationRules : List Rule :=
  let verbs := Vocabulary.standard.creationVerbs
  [creationRule verbs, bareCreationRule verbs]

/-- Printing what follows the word, as it stands. -/
def rawPrintRules (style : PrintStyle) : List Rule :=
  [.opening "print f\"" (formatPrint style), .opening "print " rawPrint]

def declarationRule (applies : Text → Bool) (declare : Text → Except Fault (Option Text)) : Rule :=
  fun s => if applies s then some (declare s) else none

def listRule (otherwise : Text → Except Fault (Option Text)) : Rule :=
  declarationRule isListAssignment (listAssignment otherwise)

/-- An assignment that goes without a type. -/
def bareAssignment (s : Text) : Except Fault (Option Text) := .ok (some (s ++ ";"))

/-- Printing in which a format string has no reader of its own. -/
def formatlessPrintRules (style : PrintStyle) : List Rule :=
  [fun s => if s.startsWith "print f\"" then some (.error (.noReader "_convert_fstring_print"))
    else none,
   .opening "print " (plainPrint style)]

/-- Rules where a written type marks a declaration; other assignments stay as they are. -/
def typedRules (print : List Rule) (loops : LoopStyle) : List Rule :=
  creationRules ++ [listRule bareAssignment] ++ print ++
    [declarationRule (fun s => s.includes " as " && isAssignment s) declareTyped,
     declarationRule isAssignment bareAssignment] ++ controlRules loops

end JavaSketch.Statement
