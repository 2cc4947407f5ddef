import JavaSketch.Statement.Control
import JavaSketch.Statement.Creation
import JavaSketch.Statement.Local
import JavaSketch.Statement.Print

/-!
Statements in Java: the rules of the language, and those of its earlier stages.
-/

namespace JavaSketch.Statement

/-- What a stage of the language knows about statements. -/
structure Stage where
  print : PrintStyle
  locals : LocalStyle
  loops : LoopStyle

namespace Stage

def book (stage : Stage) : Phrasebook := stage.locals.book

/-- The stage with words for all collections. -/
def current : Stage where
  print := ⟨true, true, .all, true⟩
  locals := ⟨Container.all, .all, false, .terminated⟩
  loops := ⟨true, true, true⟩

/-- Words for lists, with the given phrases. -/
def lists (book : Phrasebook) : Stage where
  print := ⟨true, true, book, true⟩
  locals := ⟨Container.common, book, false, .terminated⟩
  loops := ⟨true, true, false⟩

/-- Words for lists, where a numeral is removed as it stands. -/
def plainLists : Stage := lists .plainLists

def indexedLists : Stage := lists .indexedLists

/-- No words for collections. -/
def wordless : Stage where
  print := ⟨true, true, .empty, false⟩
  locals := ⟨Container.common, .empty, true, .refusedIfAssigned⟩
  loops := ⟨true, false, false⟩

end Stage

def localRule (stage : Stage) (applies : Text → Bool) : Rule := fun s =>
  if applies s then some ((localDeclaration stage.locals s).map some) else none

def operationRule (book : Phrasebook) : Rule := fun s =>
  if isOperation book s then some (.ok (some (operationStatement book s))) else none

def assignmentRule (convert : Text → Text) : Rule := fun s =>
  if isAssignment s then some (.ok (some (convert s))) else none

/-- The rules of a stage with words for collections. -/
def Stage.rules (stage : Stage) : List Rule :=
  printRules stage.print ++
    [localRule stage isLocal, operationRule stage.book,
     assignmentRule (assignment stage.book)] ++ controlRules stage.loops

/-- The Java form of a statement. -/
def convert (stage : Stage) (s : Text) : Except Fault Text := convertBy stage.rules s

/-- A declaration whose type stands before the first equals sign, or before `with`. -/
def looseDeclaration (s : Text) : Text :=
  let (part, value) : Text × Option Text :=
    match Text.cut? " = " s with
    | some (part, value) => (part, some value)
    | none =>
      match Text.cut? " with " s with
      | some (part, value) => (part, some value)
      | none => (s.trim, none)
  match Text.cut? " as " part with
  | some (name, type) =>
    let (java, value) := typeAndValue .full Container.common type.trim value
    declared java name.trim value
  | none => s ++ ";"

def isLooseDeclaration (s : Text) : Bool :=
  s.includes " as " && (s.includes " with " || s.includes "=") && !comparisons.any s.includes

/-- Statements before there were words for collections, creation of objects first. -/
def convertLoosely (verbs : List Text) (s : Text) : Except Fault Text :=
  convertBy
    ([creationRule verbs, bareCreationRule verbs] ++ printRules Stage.wordless.print ++
      [fun s => if isLooseDeclaration s then some (.ok (some (looseDeclaration s))) else none,
       assignmentRule (· ++ ";")] ++ controlRules Stage.wordless.loops) s

/-- Statements before there were words for collections, declarations first. -/
def convertWordless (verbs : List Text) (s : Text) : Except Fault Text :=
  convertBy
    ([localRule Stage.wordless isValuedLocal, creationRule verbs, bareCreationRule verbs] ++
      printRules Stage.wordless.print ++ [assignmentRule (· ++ ";")] ++
      controlRules Stage.wordless.loops) s

end JavaSketch.Statement
