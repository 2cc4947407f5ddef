import JavaSketch.Command.Console

/-!
The Java tools: whether they are there, and what they make of a file. What a tool does is not known
here; it is given by a function.
-/

namespace JavaSketch

/-- How an external program exits, and what it prints. -/
structure Answer where
  exit : Int := 0
  out : Text := []
  err : Text := []
  deriving DecidableEq, Repr

/-- An external program: it gets arguments, looks at the files and may change them. -/
abbrev Tool := List Text → FileTree → Answer × FileTree

/-- The command shell: it gets a command line. -/
abbrev Shell := Text → FileTree → Answer × FileTree

structure Toolbox where
  javac : Option Tool := none
  java : Option Tool := none

inductive ToolError
  | noCompiler
  | noRuntime
  | noClassFile (path : Text)
  deriving DecidableEq, Repr

def ToolError.message : ToolError → Text
  | noCompiler => "Java compiler (javac) not found. Please install JDK and add it to your PATH."
  | noRuntime => "Java runtime (java) not found. Please install JRE/JDK and add it to your PATH."
  | noClassFile path => "Runtime error: Compiled class file not found: " ++ path

/-- A printed text as it is received, with all line ends as line feeds. -/
def Answer.received (t : Text) : Text := Encoding.feedLines t

namespace JavaTools

open DeskM

variable {ε : Type}

def availability (name : Text) (tool : Option Tool) : Text :=
  if tool.isSome then "✓ " ++ name ++ ": Available" else "✗ " ++ name ++ ": Not found"

/-- Whether the compiler and the runtime are there. -/
def check (notes : Bool) (box : Toolbox) : DeskM ε (Bool × Bool) := do
  note notes (availability "javac" box.javac)
  note notes (availability "java" box.java)
  return (box.javac.isSome, box.java.isSome)

/-- Lets an external program work on the files. -/
def call (work : FileTree → Answer × FileTree) : DeskM ε Answer := do
  let (answer, t) := work (← files)
  setFiles t
  return answer

/-- Prints a text unless it is empty. -/
def sayText (s : Text) : DeskM ε Unit := if s.isEmpty then pure () else say s

def compile (notes : Bool) (box : Toolbox) (path : Text) : DeskM ToolError Bool := do
  let _ ← check notes box
  match box.javac with
  | none => throw .noCompiler
  | some javac =>
    note notes ("Compiling: " ++ path)
    let answer ← call (javac [path])
    if answer.exit = 0 then
      note notes "Compilation successful!"
      return true
    else
      say "Compilation errors:"
      sayText (Answer.received answer.err)
      sayText (Answer.received answer.out)
      return false

/-- The class file of a Java file. -/
def classFile (path : Text) : NormalPath :=
  let p := NormalPath.ofText path
  p.parent.child (p.stem ++ ".class")

/-- The arguments with which the class of a Java file is run. -/
def runArguments (path : Text) : List Text :=
  let p := NormalPath.ofText path
  ["-cp", p.parent.toText, p.stem]

def run (notes : Bool) (box : Toolbox) (path : Text) : DeskM ToolError Bool := do
  let _ ← check notes box
  match box.java with
  | none => throw .noRuntime
  | some java =>
    let file := (classFile path).toText
    if !(← files).exists? file then throw (.noClassFile file)
    note notes ("Running: " ++ (NormalPath.ofText path).stem)
    return (← call (java (runArguments path))).exit = 0

/-- The class file of a class inside the one with the given name. -/
def isInnerClass (stem name : Text) : Bool :=
  name.startsWith (stem ++ "$") && Text.endsWith (name.drop (stem.length + 1)) ".class"

/-- Removes some files, until one cannot be removed. -/
def removeAll (notes : Bool) : List Text → DeskM ε Unit
  | [] => pure ()
  | path :: rest => do
    match (← files).removeFile path with
    | .ok t =>
      setFiles t
      note notes ("Removed: " ++ path)
      removeAll notes rest
    | .error fault => note notes ("Warning: Could not clean class files: " ++ fault.message)

/-- Removes the class files that belong to a Java file. -/
def clean (notes : Bool) (path : Text) : DeskM ε Unit := do
  let p := NormalPath.ofText path
  let t ← files
  let own := (classFile path).toText
  let inner := ((t.names p.parent.toText).filter (isInnerClass p.stem)).map fun name =>
    (p.parent.child name).toText
  removeAll notes ((if t.exists? own then [own] else []) ++ inner)

/-- The first line of what the runtime says about itself. -/
def version (box : Toolbox) : DeskM ε Text := do
  match box.java with
  | none => return "Not available"
  | some java =>
    let answer ← call (java ["-version"])
    if answer.exit = 0 then
      let said := Answer.received (if answer.err.isEmpty then answer.out else answer.err)
      return said.lines.headD []
    else return "Unknown"

def validate (notes : Bool) (box : Toolbox) : DeskM ε Bool := do
  let (compiler, runtime) ← check notes box
  if !compiler then
    say "❌ Java compiler (javac) not found"
    say "   Please install JDK and add it to your PATH"
    return false
  else if !runtime then
    say "❌ Java runtime (java) not found"
    say "   Please install JRE/JDK and add it to your PATH"
    return false
  else if notes then
    let version ← version box
    say "✅ Java environment validated"
    say ("   Version: " ++ version)
    return true
  else return true

end JavaTools

end JavaSketch
