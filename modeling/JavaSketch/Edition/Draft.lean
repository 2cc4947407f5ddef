import JavaSketch.Body
import JavaSketch.Statement.Convert

/-!
Drafts of the statement language, from the time before all its words for collections.
-/

namespace JavaSketch

/-- A draft: its stage, the Java of its statements and declarations, and its bodies. -/
structure Draft where
  stage : Statement.Stage
  isDeclaration : Text → Bool
  declare : Text → Except Fault Text
  assign : Text → Text
  convert : Text → Except Fault Text
  isHeading : Text → Nat → Bool
  body : BodyRules

namespace Draft

open Statement

/-- Bodies without comments, which end at a heading or at the next part. -/
def bareBody (v : Synonyms) (isHeading : Text → Nat → Bool) : BodyRules where
  ends s indent := if isHeading s indent then .ok true else v.opensOuter s indent
  margin := .firstStatement
  comments := .none
  keepsBlanks := false
  closesBlocks := true

def memberHeading (v : Synonyms) : Text → Nat → Bool := Vocabulary.isHeading v.memberSections

/-- Declarations are only recognised by a value, and their types are read loosely. -/
def loose (v : Synonyms) : Draft where
  stage := .wordless
  isDeclaration := isLooseDeclaration
  declare s := .ok (looseDeclaration s)
  assign := (· ++ ";")
  convert := convertLoosely v.creationVerbs
  isHeading := memberHeading v
  body := bareBody v (memberHeading v)

def wordless (v : Synonyms) : Draft where
  stage := .wordless
  isDeclaration := isValuedLocal
  declare := localDeclaration Stage.wordless.locals
  assign := (· ++ ";")
  convert := convertWordless v.creationVerbs
  isHeading := memberHeading v
  body := bareBody v (memberHeading v)

/-- The statements of a stage with words for collections. -/
def ofStage (v : Synonyms) (stage : Stage) (body : BodyRules) : Draft where
  stage := stage
  isDeclaration := isLocal
  declare := localDeclaration stage.locals
  assign := assignment stage.book
  convert := Statement.convert stage
  isHeading := v.isHeadingOrMain
  body := body

def plainLists (v : Synonyms) : Draft := ofStage v .plainLists (bareBody v v.isHeadingOrMain)

def indexedLists (v : Synonyms) : Draft := ofStage v .indexedLists (bareBody v v.isHeadingOrMain)

/-- Comments after two slashes; blocks are left open. -/
def slashComments (v : Synonyms) : Draft :=
  ofStage v .indexedLists
    { bareBody v v.isHeadingOrMain with
      comments := .slashes, keepsBlanks := true, closesBlocks := false }

def allComments (v : Synonyms) : Draft := ofStage v .indexedLists (.current v)

end Draft

end JavaSketch
