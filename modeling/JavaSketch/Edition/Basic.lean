import JavaSketch.Java.Class
import JavaSketch.Program

/-!
Editions of the language. An edition fixes how statements, bodies, members, templates and programs
are read and how a program is laid out in Java.
-/

namespace JavaSketch

/-- How constructors may be written. -/
inductive ConstructorForm
  /-- As a call. -/
  | call
  /-- As a call, or as a list of parameters before a colon. -/
  | callOrList
  /-- As a call; a line with a colon is always a list of parameters. -/
  | listWithColon
  deriving DecidableEq

def ConstructorForm.isListed (form : ConstructorForm) (s : Text) : Bool :=
  match form with
  | call => false
  | callOrList => Constructor.isListed s
  | listWithColon => s.includes ":" && !s.endsWith ")"

structure Edition where
  table : TypeTable
  print : Statement.PrintStyle
  loops : Statement.LoopStyle
  /-- The Java of a statement that is taken for a declaration. -/
  declare : Text → Except Fault (Option Text)
  rules : List Rule
  bodyRules : BodyRules
  mainRules : BodyRules
  /-- The marks that stand before a return type. -/
  marks : List Text
  /-- Parameters of a method, given its template and its return type. -/
  params : Option Template → Text → Text → Except Fault (List Param)
  constructorParams : Option Template → Text → Except Fault (List Param)
  /-- Parameters of a method outside templates, given its return type. -/
  freeParams : Text → Text → Except Fault (List Param)
  constructorForm : ConstructorForm
  field : Bool → Text → Except Fault Variable
  opensTemplate : Text → Bool
  templateName : Text → Except Fault Text
  header : Text → Header
  endsTemplate : Text → Text → Bool
  heading? : Text → Text → Option Text
  /-- The kind of the members under a heading, given the opening line of the template. -/
  kind? : Text → Option Text → Nat → Option Section
  /-- The name of a program and the number of lines before its parts. -/
  nameAndStart : List Text → Except Fault (Text × Nat)
  hasMethods : Bool
  style : Java.Style
  layout : Program → List Text

namespace Edition

variable (e : Edition)

def convert (s : Text) : Except Fault Text := Statement.convertBy e.rules s

def readBody (lines : List Text) : Except Fault (List Text × Nat) :=
  Body.read e.bodyRules e.convert lines

def readMain (lines : List Text) : Except Fault (List Text × Nat) :=
  Body.read e.mainRules e.convert lines

def methodReader (params : Text → Text → Except Fault (List Param)) : MethodReader :=
  ⟨e.table, e.marks, e.readBody, params⟩

def readMethod (t? : Option Template) (isStatic : Bool) (line : Text) (rest : List Text) :
    Except Fault (Option Method × Nat) :=
  Method.onMember line fun access s =>
    (e.methodReader (e.params t?)).regular access isStatic s rest

/-- A constructor. One that is written as a call has no body if its line, with the access mark,
looks like a list of parameters. -/
def readConstructor (t? : Option Template) (line : Text) (rest : List Text) :
    Except Fault (Option Method × Nat) :=
  Method.onMember line fun access s =>
    let reader := e.methodReader fun _ => e.constructorParams t?
    if e.constructorForm.isListed s then
      reader.listed ((t?.map (·.name)).getD "Constructor") access s rest
    else
      reader.named access s (if e.constructorForm.isListed line.trim then [] else rest)

def readAbstract (t? : Option Template) (line : Text) : Except Fault (Option Method) :=
  (Method.onMember line fun access s =>
    ((e.methodReader (e.params t?)).abstract access s).map (·, 0)).map (·.1)

/-- A static method after the word `method`. -/
def readStandalone (line : Text) (rest : List Text) : Except Fault (Option Method × Nat) :=
  let s := line.trim
  if s.startsWith "method " then do
    let (access, s) ← Access.read (Text.trim (s.drop 7))
    (e.methodReader e.freeParams).regular access true s rest
  else .ok (none, 0)

def readField (isStatic : Bool) (line : Text) : Except Fault (Option Variable) :=
  let s := line.trim
  if isIdle s then .ok none else (e.field isStatic s).map some

/-- The rules for a template with the given opening line. -/
def templateRules (opening : Text) : TemplateRules where
  ends line s := .ok (e.endsTemplate line s)
  heading? := e.heading?
  kind? := e.kind? opening
  field := e.readField
  constructor t := e.readConstructor (some t)
  method t := e.readMethod (some t)
  abstract t := e.readAbstract (some t)
  body := e.readBody

def readTemplate (line : Text) (rest : List Text) : Except Fault (Template × Nat) := do
  let s := line.trim
  let name ← e.templateName s
  Template.readMembers (e.templateRules s) (.ofHeader name (e.header s)) none rest

def programRules : ProgramRules where
  opensTemplate s := .ok (e.opensTemplate s)
  template := e.readTemplate
  main := e.readMain
  method? := if e.hasMethods then some e.readStandalone else none

def readLines (lines : List Text) : Except Fault Program := do
  let (name, start) ← e.nameAndStart lines
  Program.readParts e.programRules { name } (lines.drop start)

def read (source : Text) : Except Fault Program := e.readLines source.trim.lines

def toJava (p : Program) : Text := Text.unlines (Java.imports ++ e.layout p)

/-- The Java text of a sketch. -/
def javaText (source : Text) : Except Fault Text := (e.read source).map e.toJava

end Edition

end JavaSketch
