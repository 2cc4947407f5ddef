import JavaSketch.Template.Read

/-!
Programs: the name of a program, its templates, its main part and its methods.
-/

namespace JavaSketch

open Pattern (exactly)

/-- How programs are read. The numbers count lines after the one that a reader is given. -/
structure ProgramRules where
  opensTemplate : Text → Except Fault Bool
  template : Text → List Text → Except Fault (Template × Nat)
  main : List Text → Except Fault (List Text × Nat)
  /-- Methods outside templates, where an edition has them. -/
  method? : Option (Text → List Text → Except Fault (Option Method × Nat))

namespace Program

def namePattern : Pattern := exactly "program" ++ [.gap, .name]

/-- The name after the word `program`. -/
def nameIn (line : Text) : Text :=
  match namePattern.find? line with
  | some [name] => name
  | _ => "DefaultProgram"

/-- Adds the parts on the lines to a program. A later main part replaces an earlier one. -/
def readParts (r : ProgramRules) (p : Program) : List Text → Except Fault Program
  | [] => .ok p
  | line :: rest => do
    let s := line.trim
    if ← r.opensTemplate s then
      let (t, n) ← r.template line rest
      readParts r { p with templates := p.templates ++ [t] } (rest.drop n)
    else if s = "main".toList then
      let (body, n) ← r.main rest
      readParts r { p with main := body } (rest.drop n)
    else
      match if s.startsWith "method " then r.method? else none with
      | some method =>
        let (m, n) ← method line rest
        readParts r { p with methods := p.methods ++ m.toList } (rest.drop n)
      | none => readParts r p rest
termination_by lines => lines.length
decreasing_by all_goals simp; try omega

/-- The name that a line with a template or a main part gives. -/
def nameFromPart (v : Synonyms) (line : Text) : Except Fault (Option Text) :=
  let s := line.trim
  if s = "main".toList then .ok (some "MainProgram") else v.templateName s

def nameFromParts (v : Synonyms) : List Text → Except Fault Text
  | [] => .ok "DefaultProgram"
  | line :: rest => do
    match ← nameFromPart v line with
    | some name => .ok name
    | none => nameFromParts v rest

/-- The name of a program, and the number of lines before its parts. -/
def nameAndStart (v : Synonyms) : List Text → Except Fault (Text × Nat)
  | [] => .ok ("DefaultProgram", 0)
  | line :: rest => do
    let s := line.trim
    match ← v.templateName s with
    | some name => .ok (name, 0)
    | none =>
      if s.startsWith "program " then .ok (nameIn s, 1)
      else (nameFromParts v (line :: rest)).map (·, 0)

end Program

/-- Programs whose first line decides the word for static sections. -/
def ProgramRules.current (v : Synonyms) (lines : List Text) : ProgramRules :=
  let body := Body.read (.current v) (Statement.convert .current)
  { opensTemplate := v.opensTemplate
    template := fun line rest =>
      match lines with
      | [] => .error .noLine
      | first :: _ => Template.read v (v.templateWordIn first) line rest
    main := body
    method? := some (Method.readStandalone body) }

namespace Program

def readLines (v : Synonyms) (lines : List Text) : Except Fault Program := do
  let (name, start) ← nameAndStart v lines
  readParts (.current v lines) { name } (lines.drop start)

def read (v : Synonyms) (source : Text) : Except Fault Program :=
  readLines v source.trim.lines

end Program

end JavaSketch
