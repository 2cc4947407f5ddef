import JavaSketch.Java.Member

/-!
Classes in Java: their headers and members, and how the parts of a program become classes.
-/

namespace JavaSketch.Java

/-- The header of a class, with what it extends and implements. -/
def classHeader (t : Template) : Text :=
  let kind : Text :=
    if t.isInterface then "interface" else if t.isAbstract then "abstract class" else "class"
  let parent : List Text :=
    match t.parent with
    | none | some [] => []
    | some name => ["extends", name]
  let interfaces : List Text :=
    if t.interfaces.isEmpty then [] else ["implements", Text.join ", " t.interfaces]
  Text.join " " ([kind, t.name] ++ parent ++ interfaces)

def methodParts (style : Style) (className : Option Text) (ms : List Method) : List Text :=
  ms.flatMap fun m => spaced (methodLines style className m)

/-- Variables and constructors. -/
def stateParts (style : Style) (t : Template) : List Text :=
  variableLines true t.staticVars ++ variableLines false t.instanceVars ++
    methodParts style (some t.name) t.constructors

/-- Accessors for the declared variables among those asked for. -/
def accessorParts (style : Style) (t : Template) : List Text :=
  t.accessors.flatMap fun a =>
    match t.declared? a.target with
    | some v => spaced (accessorLines style a.access v)
    | none => []

/-- Static and instance methods. -/
def behaviourParts (style : Style) (t : Template) : List Text :=
  methodParts style none (t.staticMethods ++ t.instanceMethods)

/-- The class of a template. An interface has no state and no accessors. -/
def classLines (style : Style) (t : Template) : List Text :=
  [opened (classHeader t)] ++ (if t.isInterface then [] else stateParts style t) ++
    behaviourParts style t ++ t.abstractMethods.flatMap (fun m => [abstractLine m, []]) ++
    (if t.isInterface then [] else accessorParts style t) ++ [closing]

def publicHeader (name : Text) : Text := opened ("public class " ++ name)

/-- One public class of a template, the other methods and the main part. -/
def mergedLines (style : Style) (t : Template) (p : Program) : List Text :=
  [publicHeader t.name] ++ stateParts style t ++ behaviourParts style t ++
    accessorParts style t ++ methodParts style none p.methods ++ mainLines p.main ++ [closing]

/-- A template that only holds static methods. -/
def isUtility (t : Template) : Bool :=
  t.instanceVars.isEmpty && t.constructors.isEmpty && t.accessors.isEmpty &&
    t.instanceMethods.isEmpty && !t.staticMethods.isEmpty

def isOwnUtility (p : Program) (t : Template) : Bool := isUtility t && t.name == p.name

/-- A public class with the main part, and a class for each template; the methods of a utility
template named like the program move into the public class. -/
def separateLines (style : Style) (classOf : Template → List Text)
    (p : Program) : List Text :=
  let own := (p.templates.filter (isOwnUtility p)).flatMap (·.staticMethods)
  [publicHeader p.name] ++ methodParts style none (own ++ p.methods) ++ mainLines p.main ++
    [closing, []] ++
    (p.templates.filter fun t => !isOwnUtility p t).flatMap fun t => spaced (classOf t)

/-- A public class that only holds methods. -/
def methodsLines (style : Style) (p : Program) : List Text :=
  [publicHeader p.name] ++ methodParts style none p.methods ++ [closing]

def imports : List Text := ["import java.util.*;", "import java.util.Scanner;", ""]

end JavaSketch.Java
