import JavaSketch.Demo.Sketches
import JavaSketch.Edition.History
import JavaSketch.Files.Encoding

/-!
Demonstrations: what an edition prints about its sample sketches.
-/

namespace JavaSketch.Demo

/-- Why a demonstration breaks off. -/
inductive Breakdown
  | reading (fault : Fault)
  /-- A sample refers to a value that it does not have. -/
  | unboundName
  deriving DecidableEq, Repr

/-- The printed lines, and the reason for breaking off, if there is one. -/
structure Report where
  lines : List Text
  breakdown : Option Breakdown := none

def rule (mark : Char) (n : Nat) : Text := List.replicate n mark

/-- A title between rules, after an empty line. -/
def banner (n : Nat) (title : Text) : List Text := [[], rule '=' n, title, rule '=' n]

/-- The Java of one sketch under a heading; a fault breaks off. -/
def showcase (e : Edition) (intro : List Text) (lines : List String) : Report :=
  match e.javaText (sketch lines) with
  | .ok java => { lines := intro ++ ["Generated Java Code:".toList, rule '=' 50, java] }
  | .error fault => { lines := intro, breakdown := some (.reading fault) }

/-- All of a Java text. -/
def whole (n : Nat) (java : Text) : List Text := ["Generated Java Code:".toList, rule '-' n, java]

/-- A number in two columns. -/
def twoColumns (n : Nat) : Text := if n < 10 then ' ' :: decimal n else decimal n

/-- The first lines of a Java text, with their numbers. -/
def excerpt (count : Nat) (java : Text) : List Text :=
  let ls := java.lines
  ["Generated Java Code (first ".toList ++ decimal count ++ " lines):".toList, rule '-' 40] ++
    (ls.take count).zipIdx.map (fun (line, k) => twoColumns (k + 1) ++ ": ".toList ++ line) ++
    if ls.length ≤ count then []
    else ["... (".toList ++ decimal (ls.length - count) ++ " more lines)".toList]

/-- One sketch under a title: what is printed if it can be read, and if not. -/
structure Trial where
  width : Nat
  title : Text
  sketch : List String
  success : Text
  failure : Text
  shown : Text → List Text

def Trial.lines (e : Edition) (t : Trial) : List Text :=
  banner t.width t.title ++
    match e.javaText (Demo.sketch t.sketch) with
    | .ok java => t.success :: t.shown java
    | .error fault => ["❌ Error with ".toList ++ t.failure ++ ": ".toList ++ fault.message]

def ofTrials (e : Edition) (ts : List Trial) : Report := { lines := ts.flatMap (Trial.lines e) }

def enhanced : List Text := ["Enhanced syntax test:", "===================="]

def quotedStudents : List String := students { quoted := true }

def untypedStudents : List String :=
  students { quoted := true, idType := "string", gradeParams := "course, grade" }

def templateWords : List String := ["template", "blueprint", "design", "class"]

/-- Students by a template word, with the same static sections. -/
def wordTrial (word : String) : Trial where
  width := 50
  title := "Testing with '" ++ word.toList ++ "' keyword:"
  sketch := students { opening := word ++ " Student" }
  success := "✅ Successfully parsed with '" ++ word.toList ++ "' keyword"
  failure := "'" ++ word.toList ++ "' keyword"
  shown := excerpt 20

def vehiclesTrial : Trial where
  width := 50
  title := "Testing mixed synonyms in comments:"
  sketch := vehicles
  success := "✅ Successfully parsed mixed synonym example"
  failure := "mixed synonyms"
  shown := whole 40

/-- Students by a template word that also names the static sections. -/
def sectionTrial (word : String) : Trial where
  width := 50
  title := "Testing with '" ++ word.toList ++ "' keyword and consistent sections:"
  sketch := students { opening := word ++ " Student", vars := word ++ " vars",
                       methods := word ++ " methods" }
  success :=
    "✅ Successfully parsed with '" ++ word.toList ++ "' keyword and '" ++ word.toList ++
      " vars'/'" ++ word.toList ++ " methods' sections"
  failure := "'" ++ word.toList ++ "' keyword"
  shown := excerpt 20

def countedVehiclesTrial : Trial where
  width := 50
  title := "Testing backward compatibility with mixed old/new syntax:"
  sketch := countedVehicles
  success := "✅ Successfully parsed mixed syntax (blueprint + template vars + blueprint methods)"
  failure := "mixed syntax"
  shown := whole 40

/-- The names of static sections, quoted, in brackets. -/
def nameList (kind : String) : Text :=
  "[" ++ Text.join ", "
    ((templateWords ++ ["static"]).map fun word => Text.shown (word ++ " " ++ kind).toList) ++ "]"

def sectionNames : List Text :=
  banner 50 "Testing all supported static section names:" ++
    ["Supported static variable sections: ".toList ++ nameList "vars",
     "Supported static method sections: ".toList ++ nameList "methods"]

def listedCarsTrial : Trial where
  width := 60
  title := "Testing SIMPLIFIED CONSTRUCTOR SYNTAX:"
  sketch := listedCars
  success := "✅ Successfully parsed simplified constructor syntax"
  failure := "simplified constructors"
  shown := whole 50

def calledStudentsTrial : Trial where
  width := 60
  title := "Testing FULL BACKWARD COMPATIBILITY - All Original Variations:"
  sketch := calledStudents
  success := "✅ Successfully parsed ALL original constructor syntax variations"
  failure := "original constructors"
  shown := whole 50

def enrolledStudentsTrial : Trial where
  width := 60
  title := "Testing BACKWARD COMPATIBILITY - Original Constructor Syntax:"
  sketch := enrolledStudents
  success := "✅ Successfully parsed original constructor syntax"
  failure := "original constructors"
  shown := whole 50

def mixedVehiclesTrial : Trial where
  width := 60
  title := "Testing MIXED CONSTRUCTOR SYNTAXES:"
  sketch := mixedVehicles
  success := "✅ Successfully parsed mixed constructor syntaxes"
  failure := "mixed constructors"
  shown := whole 50

def designedCarTrial : Trial where
  width := 60
  title := "Testing YOUR EXACT DESIGN CAR EXAMPLE:"
  sketch := designedCar
  success := "✅ Successfully parsed YOUR EXACT DESIGN CAR example"
  failure := "your design Car example"
  shown := whole 50

def templatedStudentTrial : Trial where
  width := 60
  title := "Testing BACKWARD COMPATIBILITY:"
  sketch := templatedStudent
  success := "✅ Successfully parsed BACKWARD COMPATIBILITY test"
  failure := "backward compatibility"
  shown := whole 50

/-- Trials of constructors, after which the sample for the template words cannot be made. -/
def constructorTrials (e : Edition) (called : Trial) : Report where
  lines :=
    [listedCarsTrial, called, mixedVehiclesTrial].flatMap (Trial.lines e) ++
      banner 50 "Testing 'template' with simplified constructors:"
  breakdown := some .unboundName

def plain : Report := showcase .plain [] indentedPersons

def margins : Report := showcase .margins [] persons

def containers : Report :=
  showcase .containers
    (["Template-only syntax test:".toList, rule '=' 25] ++ calculator.map String.toList ++
      [[], [], rule '=' 50])
    calculator

def guesses : Report := showcase .guesses enhanced untypedStudents

def writtenTypes : Report := showcase .writtenTypes enhanced quotedStudents

def interpolation : Report := showcase .interpolation enhanced quotedStudents

def synonyms : Report :=
  ofTrials (.synonyms .standard) (templateWords.map wordTrial ++ [vehiclesTrial])

def sectionWords : Report where
  lines :=
    (ofTrials (.sectionWords .standard)
      (templateWords.map sectionTrial ++ [countedVehiclesTrial])).lines ++ sectionNames

def parameterLists : Report :=
  constructorTrials (.parameterLists .standard) calledStudentsTrial

def colonLists : Report := constructorTrials (.colonLists .standard) enrolledStudentsTrial

def inheritance : Report :=
  ofTrials (.inheritance .standard) [designedCarTrial, templatedStudentTrial]

def openAccessors : Report :=
  ofTrials (.openAccessors .standard) [designedCarTrial, templatedStudentTrial]

end JavaSketch.Demo
