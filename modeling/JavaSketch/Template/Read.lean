import JavaSketch.Method
import JavaSketch.Statement.Convert
import JavaSketch.Template.Header

/-!
Reading templates: an opening line, section headings, and the members under each heading.
-/

namespace JavaSketch

/-- The kinds of sections. -/
inductive Section
  | staticVars
  | instanceVars
  | constructors
  | staticMethods
  | instanceMethods
  | abstractMethods
  | accessors
  | main
  deriving DecidableEq, Repr

/-- How templates are read. The numbers count lines after the one that a reader is given. -/
structure TemplateRules where
  /-- Whether a line, given as it is and trimmed, ends the template. -/
  ends : Text → Text → Except Fault Bool
  /-- The section that a line, given as it is and trimmed, opens. -/
  heading? : Text → Text → Option Text
  /-- The kind of member that stands under a heading at an indentation. -/
  kind? : Option Text → Nat → Option Section
  field : Bool → Text → Except Fault (Option Variable)
  constructor : Template → Text → List Text → Except Fault (Option Method × Nat)
  method : Template → Bool → Text → List Text → Except Fault (Option Method × Nat)
  abstract : Template → Text → Except Fault (Option Method)
  body : List Text → Except Fault (List Text × Nat)

namespace Template

/-- The main part of a template, as a method. -/
def mainMethod (body : List Text) : Method where
  name := "main"
  params := [⟨"args", "String[]"⟩]
  access := .pub
  body := body
  isStatic := true

/-- Adds the member on a line to the section that it belongs to. -/
def readMember (r : TemplateRules) (t : Template) (heading : Option Text) (line : Text)
    (rest : List Text) : Except Fault (Template × Nat) :=
  match r.kind? heading line.indent with
  | none => .ok (t, 0)
  | some .staticVars => do
    let v ← r.field true line
    .ok ({ t with staticVars := t.staticVars ++ v.toList }, 0)
  | some .instanceVars => do
    let v ← r.field false line
    .ok ({ t with instanceVars := t.instanceVars ++ v.toList }, 0)
  | some .constructors => do
    let (m, n) ← r.constructor t line rest
    .ok ({ t with constructors := t.constructors ++ m.toList }, n)
  | some .staticMethods => do
    let (m, n) ← r.method t true line rest
    .ok ({ t with staticMethods := t.staticMethods ++ m.toList }, n)
  | some .instanceMethods => do
    let (m, n) ← r.method t false line rest
    .ok ({ t with instanceMethods := t.instanceMethods ++ m.toList }, n)
  | some .abstractMethods => do
    let m ← r.abstract t line
    .ok ({ t with abstractMethods := t.abstractMethods ++ m.toList }, 0)
  | some .accessors => do
    let a ← Accessor.read line
    .ok ({ t with accessors := t.accessors ++ a.toList }, 0)
  | some .main => do
    let (body, n) ← r.body (line :: rest)
    .ok ({ t with staticMethods := t.staticMethods ++ [mainMethod body] }, n - 1)

/-- Adds the members on the lines up to the end of the template. -/
def readMembers (r : TemplateRules) (t : Template) (heading : Option Text) :
    List Text → Except Fault (Template × Nat)
  | [] => .ok (t, 0)
  | line :: rest =>
    let s := line.trim
    if isIdle s then do
      let (t, n) ← readMembers r t heading rest
      .ok (t, n + 1)
    else do
      if ← r.ends line s then .ok (t, 0)
      else
        match r.heading? line s with
        | some name => do
          let (t, n) ← readMembers r t (some name) rest
          .ok (t, n + 1)
        | none => do
          let (t, n) ← readMember r t heading line rest
          let (t, m) ← readMembers r t heading (rest.drop n)
          .ok (t, m + n + 1)
termination_by lines => lines.length
decreasing_by all_goals simp; try omega

/-- Opening lines stand at the margin, or at least before four spaces or a tab. -/
def isUnindented (line : Text) : Bool :=
  !line.isEmpty && !line.startsWith "    " && !line.startsWith "\t"

/-- A heading is followed by a colon and stands at four blanks. -/
def headingAtFour? (line s : Text) : Option Text :=
  if s.endsWith ":" && line.indent == 4 then some (Text.trim s.dropLast) else none

end Template

namespace TemplateRules

/-- The kind of a section, given the names of the sections that hold static and abstract members. -/
def memberKind? (vars methods abstracts : List Text) (name : Text) : Option Section :=
  if vars.contains name then some .staticVars
  else if name = "instance vars".toList then some .instanceVars
  else if name = "constructor".toList then some .constructors
  else if methods.contains name then some .staticMethods
  else if name = "instance methods".toList then some .instanceMethods
  else if abstracts.contains name then some .abstractMethods
  else none

/-- The kind of a section in a template that is declared with the given word. -/
def sectionKind? (v : Synonyms) (word name : Text) : Option Section :=
  match memberKind? (Vocabulary.staticVarSections word) (Vocabulary.staticMethodSections word)
    v.abstractSections name with
  | some kind => some kind
  | none =>
    if Vocabulary.accessorSections.contains name then some .accessors
    else if name = "main".toList then some .main
    else none

/-- Templates whose static sections are named with the given word. -/
def current (v : Synonyms) (word : Text) : TemplateRules :=
  let body := Body.read (.current v) (Statement.convert .current)
  { ends := fun line s =>
      if Template.isUnindented line then
        (v.opensTemplate s).map (· || s == "main".toList || s.startsWith "method ")
      else .ok false
    heading? := fun line s =>
      if s = "main".toList ∧ line.indent = 4 then some "main" else Template.headingAtFour? line s
    kind? := fun heading indent =>
      match heading with
      | some (c :: name) => if indent < 8 then none else sectionKind? v word (c :: name)
      | _ => none
    field := Field.read
    constructor := fun t => Method.readConstructor body (some t)
    method := fun t => Method.read body (some t)
    abstract := fun t => Method.readAbstract (some t)
    body }

end TemplateRules

namespace Template

/-- A template with its opening line, before its members are read. -/
def ofHeader (name : Text) (h : Header) : Template where
  name := name
  isAbstract := h.isAbstract
  isInterface := h.isInterface
  parent := h.parent
  interfaces := h.interfaces

/-- Reads a template from its opening line and the lines after it. -/
def read (v : Synonyms) (word line : Text) (rest : List Text) : Except Fault (Template × Nat) := do
  let s := line.trim
  match ← v.templateName s with
  | none => .error (.namelessTemplate s)
  | some name => readMembers (.current v word) (ofHeader name (Header.read v s)) none rest

end Template

end JavaSketch
