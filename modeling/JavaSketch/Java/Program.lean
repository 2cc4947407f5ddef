import JavaSketch.Java.Class

/-!
The Java text of a program.
-/

namespace JavaSketch

namespace Java

def hasMain (t : Template) : Bool := t.staticMethods.any (·.name == "main".toList)

/-- The template that the program is merged into: the only one, if it is named like the program
and there is a main part to run. -/
def host? (p : Program) : Option Template :=
  match p.templates with
  | [t] => if t.name = p.name ∧ (!p.main.isEmpty || hasMain t) then some t else none
  | _ => none

def programLines (p : Program) : List Text :=
  match host? p with
  | some t => mergedLines .current t p
  | none =>
    if !p.main.isEmpty then separateLines .current (classLines .current) p
    else
      match p.templates with
      | [t] => classLines .current t
      | _ => methodsLines .current p

end Java

/-- The Java text of a program. -/
def Program.toJava (p : Program) : Text := Text.unlines (Java.imports ++ Java.programLines p)

end JavaSketch
