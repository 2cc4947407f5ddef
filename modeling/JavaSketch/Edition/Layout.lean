import JavaSketch.Java.Class

/-!
The layouts of the editions: how templates, methods and the main part are put into classes.
-/

namespace JavaSketch.Java

/-- A constructor takes the name of its class, and there must be one. -/
def className : Option Text → Method → Text
  | some name, _ => name
  | none, _ => "None"

/-- A public class with the main part, followed by the classes of all templates. -/
def mainFirstLines (style : Style) (p : Program) : List Text :=
  [publicHeader p.name] ++ mainLines p.main ++ [closing, []] ++
    p.templates.flatMap fun t => spaced (classLines style t)

/-- One class where one is enough: for a template named like the program, and for a template
without a main part. -/
def compactLines (style : Style) (p : Program) : List Text :=
  match p.templates, p.main with
  | [t], [] => classLines style t
  | [t], _ :: _ =>
    if t.name = p.name then mergedLines style t p else separateLines style (classLines style) p
  | _, _ :: _ => separateLines style (classLines style) p
  | _, [] => methodsLines style p

end JavaSketch.Java
