import JavaSketch.Fault
import JavaSketch.Vocabulary

/-!
Bodies: indented lines that become Java lines, with a closing brace wherever the indentation
leaves a block.
-/

namespace JavaSketch

/-- Where a body ends by its indentation. -/
inductive Margin
  /-- At a line that is indented less than the first statement. -/
  | firstStatement
  /-- At a line that begins with neither four spaces nor a tab. -/
  | fourSpaces
  deriving DecidableEq

inductive CommentStyle
  | none
  /-- Two slashes, on a line of their own or after a statement. -/
  | slashes
  /-- Two slashes, a number sign, and blocks between triple quotes. -/
  | all
  deriving DecidableEq

/-- How bodies are read. -/
structure BodyRules where
  /-- Whether a trimmed line ends a body, given its indentation. -/
  ends : Text → Nat → Except Fault Bool
  margin : Margin
  comments : CommentStyle
  keepsBlanks : Bool
  closesBlocks : Bool

/-- The mark of a brace that is not closed yet. -/
inductive Brace
  | opened
  deriving DecidableEq

/-- The open blocks, the innermost first: a stack of indentations and a stack of braces, which
always have the same height. -/
structure Blocks where
  indents : List Nat
  braces : List Brace
  lockstep : braces.length = indents.length
  deriving DecidableEq

namespace Blocks

def empty : Blocks := ⟨[], [], rfl⟩

def enter (b : Blocks) (indent : Nat) : Blocks where
  indents := indent :: b.indents
  braces := .opened :: b.braces
  lockstep := congrArg (· + 1) b.lockstep

/-- The blocks that a line at an indentation is not inside of. -/
def outer (b : Blocks) (indent : Nat) : List Nat := b.indents.takeWhile (indent ≤ ·)

/-- The blocks that stay open at an indentation; each block that is left takes a brace along. -/
def leave (b : Blocks) (indent : Nat) : Blocks where
  indents := b.indents.dropWhile (indent ≤ ·)
  braces := b.braces.drop (b.outer indent).length
  lockstep := by
    have h := congrArg List.length (b.indents.takeWhile_append_dropWhile (p := (indent ≤ ·)))
    rw [List.length_append] at h
    rw [List.length_drop, b.lockstep, outer]
    omega

end Blocks

namespace Body

/-- What reading has seen so far: the indentation of the first statement, the open blocks, and
whether a block comment is open. -/
structure State where
  margin : Option Nat := none
  blocks : Blocks := .empty
  inComment : Bool := false
  deriving DecidableEq

/-- The indentations of the open blocks. -/
def State.openers (st : State) : List Nat := st.blocks.indents

/-- The effect of one line. -/
inductive Step
  | stop
  | emit (entries : List Text) (next : State)

def tripleQuote : Text := "\"\"\""

def openComment (content : Text) : Text := if content = [] then "/*" else "/* " ++ content

def closeComment (content : Text) : Text := if content = [] then "*/" else "   " ++ content ++ " */"

/-- What stands before and after a mark that has to be there. -/
def cutAt (mark s : Text) : Except Fault (Text × Text) :=
  match Text.cut? mark s with
  | some parts => .ok parts
  | none => .error .uncut

/-- A line with a triple quote, outside and inside of a block comment. -/
def commentMark (convert : Text → Except Fault Text) (st : State) (s : Text) : Except Fault Step :=
  if st.inComment then
    if s.endsWith tripleQuote then
      .ok (.emit [closeComment (Text.trim (s.take (s.length - 3)))] { st with inComment := false })
    else do
      let (content, code) ← cutAt tripleQuote s
      let code := code.trim
      if code = [] then .ok (.emit [closeComment content.trim] { st with inComment := false })
      else
        let java ← convert code
        .ok (.emit [closeComment content.trim, java] { st with inComment := false })
  else if s.startsWith tripleQuote then
    if s.endsWith tripleQuote && 6 < s.length then
      .ok (.emit ["/* " ++ Text.trim ((s.drop 3).take (s.length - 6)) ++ " */"] st)
    else .ok (.emit [openComment (Text.trim (s.drop 3))] { st with inComment := true })
  else do
    let (code, content) ← cutAt tripleQuote s
    let java ← convert code.trim
    .ok (.emit [java, openComment content.trim] { st with inComment := true })

/-- The code and the comment of a line, where the line has a comment mark. -/
def inlineComment? (style : CommentStyle) (s : Text) : Option (Text × Text) :=
  match style with
  | .none => none
  | .slashes => Text.cut? "//" s
  | .all => Text.cut? "//" s <|> Text.cut? "#" s

/-- The Java line of a statement, with the comment that follows it. -/
def statementLine (style : CommentStyle) (convert : Text → Except Fault Text) (s : Text) :
    Except Fault Text :=
  match inlineComment? style s with
  | none => convert s
  | some (code, comment) => do
    let java ← convert code.trim
    let comment := comment.trim
    .ok (if comment = [] then java else java ++ " // " ++ comment)

/-- The entry for a line that is only a comment. -/
def commentLine? (style : CommentStyle) (s : Text) : Option Text :=
  if style ≠ .none ∧ s.startsWith "//" then some s
  else if style = .all ∧ s.startsWith "#" then some ("// " ++ Text.trim (s.drop 1))
  else none

def isOutside (margin : Margin) (st : State) (line : Text) : Bool :=
  match margin with
  | .firstStatement => line.indent < st.margin.getD line.indent
  | .fourSpaces => !line.startsWith "    " && !line.startsWith "\t"

/-- A closing brace for each entry of a stack. -/
def closers {α : Type} (stack : List α) : List Text := stack.map fun _ => "\x7d"

/-- A statement first closes the blocks that it is not inside of. -/
def statement (r : BodyRules) (convert : Text → Except Fault Text) (st : State) (line : Text) :
    Except Fault Step := do
  let indent := line.indent
  let inside := st.blocks.leave indent
  let java ← statementLine r.comments convert line.trim
  let blocks := if r.closesBlocks && java.endsWith "\x7b" then inside.enter indent else inside
  .ok (.emit (closers (st.blocks.outer indent) ++ [java])
    { st with margin := some (st.margin.getD indent), blocks })

def step (r : BodyRules) (convert : Text → Except Fault Text) (st : State) (line : Text) :
    Except Fault Step :=
  let s := line.trim
  if r.comments = .all ∧ s.includes tripleQuote then commentMark convert st s
  else if st.inComment then .ok (.emit [if s = [] then [] else "   " ++ s] st)
  else if s = [] then .ok (.emit (if r.keepsBlanks then [[]] else []) st)
  else
    match commentLine? r.comments s with
    | some entry => .ok (.emit [entry] st)
    | none => do
      if (← r.ends s line.indent) || isOutside r.margin st line then .ok .stop
      else statement r convert st line

/-- The entries of a body, and the number of lines that it takes. -/
def readFrom (r : BodyRules) (convert : Text → Except Fault Text) (st : State) :
    List Text → Except Fault (List Text × Nat)
  | [] => .ok (closers st.blocks.braces, 0)
  | line :: rest => do
    match ← step r convert st line with
    | .stop => .ok (closers st.blocks.braces, 0)
    | .emit entries next =>
      let (body, n) ← readFrom r convert next rest
      .ok (entries ++ body, n + 1)

def read (r : BodyRules) (convert : Text → Except Fault Text) (lines : List Text) :
    Except Fault (List Text × Nat) :=
  readFrom r convert {} lines

end Body

namespace Vocabulary

def fixedSections : List Text :=
  ["instance vars", "constructor", "instance methods", "getters setters"]

/-- The sections of static members that are named with a template word. -/
def ownSections (word : Text) : List Text := [word ++ " vars", word ++ " methods"]

/-- A section heading: a known name and a colon, at four blanks. -/
def isHeading (sections : List Text) (s : Text) (indent : Nat) : Bool :=
  s.endsWith ":" && indent == 4 && sections.contains (Text.trim s.dropLast)

/-- A template or the main part, which stand at the margin. -/
def opensOuter (v : Vocabulary) (s : Text) (indent : Nat) : Bool :=
  indent == 0 && (v.opensTemplate s || s == "main".toList)

end Vocabulary

namespace Synonyms

open Vocabulary (fixedSections ownSections isHeading)

/-- The sections by which a body ends. -/
def memberSections (v : Synonyms) : List Text :=
  fixedSections ++ v.templateWords.flatMap ownSections ++ v.abstractSections

/-- A section heading, where `main` needs no colon. -/
def isHeadingOrMain (v : Synonyms) (s : Text) (indent : Nat) : Bool :=
  (s == "main".toList && indent == 4) || isHeading ("main".toList :: v.memberSections) s indent

/-- A template or the main part, which stand at the margin. -/
def opensOuter (v : Synonyms) (s : Text) (indent : Nat) : Except Fault Bool :=
  if indent = 0 then (v.opensTemplate s).map (· || s == "main".toList) else .ok false

end Synonyms

namespace BodyRules

/-- Bodies with comments of every kind. -/
def current (v : Synonyms) : BodyRules where
  ends s indent := if v.isHeadingOrMain s indent then .ok true else v.opensOuter s indent
  margin := .firstStatement
  comments := .all
  keepsBlanks := true
  closesBlocks := true

/-- Indented lines that are taken over without looking at their meaning. -/
def plain : BodyRules where
  ends _ _ := .ok false
  margin := .firstStatement
  comments := .none
  keepsBlanks := false
  closesBlocks := false

end BodyRules

end JavaSketch
