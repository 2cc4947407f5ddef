import JavaSketch.Command.Release

/-!
The releases of the editions. They differ in how a Java file is called and in what they demonstrate.
-/

namespace JavaSketch.Release

open Edition

def scriptExamples : List Text :=
  ["Examples:", "  python pseudo_java_parser.py input.pj -o output.java",
   "  python pseudo_java_parser.py input.pj --output-dir src/main/java",
   "  python pseudo_java_parser.py input.pj --compile", "  python pseudo_java_parser.py --test",
   "        "]

def commandExamples : List Text :=
  ["Examples:", "  javax input.pj -o output.java", "  javax input.pj --output-dir src/main/java",
   "  javax input.pj --compile", "  javax --test", "        "]

/-- The first line of a source, whose end is not trimmed. -/
def firstLine (source : Text) : Text := source.trim.lines.headD []

/-- The name after the word `program` on the first line. -/
def declaredName (source : Text) : Except Fault Text := .ok (Program.nameIn (firstLine source))

def templateOrDeclaredName (source : Text) : Except Fault Text :=
  let line := firstLine source
  if startsTemplate line then nameAfterTemplate line else declaredName source

/-- The name that the first line with a template or a main part gives. -/
def partName (name? : Text → Option Text) (source : Text) : Text :=
  (source.lines.findSome? fun line =>
    let s := line.trim
    if s = "main".toList then some "MainProgram".toList else name? s).getD "DefaultProgram"

def namedTemplate? (s : Text) : Option Text :=
  if startsTemplate s then (nameAfterTemplate s).toOption else none

/-- The name by a template, by the word `program`, or by a later part. -/
def foundName (source : Text) : Except Fault Text :=
  let line := firstLine source
  if startsTemplate line then nameAfterTemplate line
  else if line.startsWith "program " then declaredName source
  else .ok (partName namedTemplate? source)

/-- The name by any template word, by the word `program`, or by a later part. -/
def nameByWords (v : Vocabulary) (source : Text) : Except Fault Text :=
  let line := firstLine source
  match v.templateName? line with
  | some name => .ok name
  | none =>
    if line.startsWith "program " then declaredName source
    else .ok (partName v.templateName? source)

def besidePlain : Release :=
  { edition := .plain, epilog := scriptExamples, nameOf := declaredName, besideInput := true,
    demo := Demo.plain }

def plain : Release :=
  { besidePlain with epilog := commandExamples, besideInput := false }

def margins : Release := { plain with edition := .margins, demo := Demo.margins }

def containers : Release where
  edition := .containers
  epilog := scriptExamples
  nameOf := templateOrDeclaredName
  demo := Demo.containers

def guesses : Release :=
  { containers with edition := .guesses, nameOf := foundName, demo := Demo.guesses }

def writtenTypes : Release := { guesses with edition := .writtenTypes, demo := Demo.writtenTypes }

def interpolation : Release :=
  { guesses with edition := .interpolation, demo := Demo.interpolation }

def synonyms : Release where
  edition := .synonyms .standard
  epilog := scriptExamples
  nameOf := nameByWords .standard
  demo := Demo.synonyms

def sectionWords : Release :=
  { synonyms with edition := .sectionWords .standard, demo := Demo.sectionWords }

def parameterLists : Release :=
  { synonyms with edition := .parameterLists .standard, demo := Demo.parameterLists }

def colonLists : Release :=
  { synonyms with edition := .colonLists .standard, demo := Demo.colonLists }

def inheritance : Release :=
  { synonyms with edition := .inheritance .standard, demo := Demo.inheritance }

def openAccessors : Release :=
  { synonyms with edition := .openAccessors .standard, demo := Demo.openAccessors }

end JavaSketch.Release
