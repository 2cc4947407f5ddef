import JavaSketch.Edition.Basic
import JavaSketch.Edition.Layout
import JavaSketch.Edition.Members
import JavaSketch.Edition.Statements

/-!
The editions, in the order in which the language grew. Each is given by what it changes in the one
before, and is named for that.
-/

namespace JavaSketch.Edition

open Statement Pattern

/-- Blank lines and comments have no meaning in the bodies of these editions. -/
def bodyWith (margin : Margin) (closesBlocks : Bool) : BodyRules where
  ends _ _ := .ok false
  margin := margin
  comments := .none
  keepsBlanks := false
  closesBlocks := closesBlocks

def templatePattern : Pattern := exactly "template" ++ [.gap, .name]

def nameAfterTemplate (s : Text) : Except Fault Text :=
  match templatePattern.find? s with
  | some [name] => .ok name
  | _ => .error .missingName

def startsTemplate (s : Text) : Bool := s.startsWith "template "

def plainSections : List Text := ["template vars"]

def plainMethodSections : List Text := ["template methods"]

/-- The kind of a section by its name; the sections of abstract members have no name here. -/
def plainKind? (name : Text) : Option Section :=
  if name = "getters setters".toList then some .accessors
  else TemplateRules.memberKind? plainSections plainMethodSections [] name

/-- Members stand at eight blanks or more. -/
def atEight (kind? : Text → Option Section) (heading : Option Text) (indent : Nat) :
    Option Section :=
  if indent < 8 then none else heading.bind kind?

/-- Types are inferred from literals, and indentation only divides bodies from the rest. -/
def plain : Edition where
  table := .basic
  print := ⟨false, false, .empty, false⟩
  loops := ⟨false, false, false⟩
  declare := declareLiteral
  rules :=
    [creationRule Vocabulary.standard.creationVerbs] ++
      rawPrintRules ⟨false, false, .empty, false⟩ ++
      [declarationRule isAssignment declareLiteral] ++ controlRules ⟨false, false, false⟩
  bodyRules := bodyWith .fourSpaces false
  mainRules := bodyWith .fourSpaces false
  marks := Signature.arrow
  params _ _ := Parameter.readGuessed .basic fun _ => "String"
  constructorParams _ := Parameter.readGuessed .basic fun _ => "String"
  freeParams _ := Parameter.readGuessed .basic fun _ => "String"
  constructorForm := .call
  field := Field.ofWords .basic
  opensTemplate := startsTemplate
  templateName := nameAfterTemplate
  header _ := {}
  endsTemplate _ s := startsTemplate s || s == "main".toList
  heading? _ s := if s.endsWith ":" then some (Text.trim s.dropLast) else none
  kind? _ heading _ := heading.bind plainKind?
  nameAndStart lines := .ok (Program.nameIn (lines.headD []), 1)
  hasMethods := false
  style := ⟨true, false, Java.className⟩
  layout := Java.mainFirstLines ⟨true, false, Java.className⟩

/-- Indentation decides about headings, members and bodies. -/
def margins : Edition :=
  let print : PrintStyle := ⟨false, true, .empty, false⟩
  let style : Java.Style := ⟨false, false, Java.className⟩
  { plain with
    print
    rules :=
      [creationRule Vocabulary.standard.creationVerbs] ++ rawPrintRules print ++
        [declarationRule isAssignment declareLiteral] ++ controlRules plain.loops
    bodyRules := bodyWith .firstStatement false
    endsTemplate := fun line s =>
      Template.isUnindented line && (startsTemplate s || s == "main".toList)
    heading? := Template.headingAtFour?
    kind? := fun _ => atEight plainKind?
    style
    layout := Java.mainFirstLines style }

/-- A program that begins with a template is named after it. -/
def nameFromFirst (lines : List Text) : Except Fault (Text × Nat) :=
  let s := (lines.headD []).trim
  if startsTemplate s then (nameAfterTemplate s).map (·, 0) else .ok (Program.nameIn s, 1)

/-- Containers can be declared, blocks are closed, and types of parameters follow from names. -/
def containers : Edition :=
  let print : PrintStyle := ⟨true, true, .empty, false⟩
  let declare := declareGuessed calculatedType false
  { margins with
    table := .full
    print
    declare
    rules :=
      creationRules ++ rawPrintRules print ++ [declarationRule isAssignment declare] ++
        controlRules plain.loops
    bodyRules := bodyWith .firstStatement true
    mainRules := bodyWith .fourSpaces true
    params := fun _ returns => Parameter.readGuessed .full (Parameter.numberType returns)
    constructorParams := fun _ => Parameter.readGuessed .full (Parameter.numberType "void")
    freeParams := fun returns => Parameter.readGuessed .full (Parameter.numberType returns)
    field := Field.ofEither Field.partAndAssigned Container.unnamed
    nameAndStart := nameFromFirst
    layout := fun p =>
      Java.separateLines margins.style (Java.classLines margins.style) { p with methods := [] } }

/-- The name of a program by the first line with a template or a main part. -/
def nameFromTemplates : List Text → Except Fault Text
  | [] => .ok "DefaultProgram"
  | line :: rest =>
    let s := line.trim
    if s = "main".toList then .ok "MainProgram"
    else if startsTemplate s then nameAfterTemplate s
    else nameFromTemplates rest

def nameFromAny (lines : List Text) : Except Fault (Text × Nat) :=
  let s := (lines.headD []).trim
  if s.startsWith "program " then .ok (Program.nameIn s, 1)
  else (nameFromTemplates lines).map (·, 0)

/-- Methods can stand outside templates, and more names suggest types. -/
def guesses : Edition :=
  let loops : LoopStyle := ⟨true, false, false⟩
  let declare := declareGuessed callType true
  let style : Java.Style := ⟨false, true, Java.className⟩
  { containers with
    loops
    declare
    rules :=
      creationRules ++ [listRule declare] ++ rawPrintRules containers.print ++
        [declarationRule isAssignment declare] ++ controlRules loops
    marks := Signature.returnsOrArrow
    params := fun _ returns => Parameter.readGuessed .full (Parameter.describedType returns)
    constructorParams := fun t? =>
      match t? with
      | some t => Parameter.readLikeVariables t
      | none => Parameter.readGuessed .full (Parameter.describedType "void")
    freeParams := fun returns => Parameter.readGuessed .full (Parameter.describedType returns)
    field := Field.ofEither Field.partAndValue Container.common
    nameAndStart := nameFromAny
    hasMethods := true
    style
    layout := Java.compactLines style }

/-- The parameters of a template's member; there is no reader for those of other methods. -/
def memberParams (guess? : Text → Option Text) : Option Template → Text → Except Fault (List Param)
  | some t => Parameter.readMember guess? t
  | none => fun _ => .error (.noReader "_parse_method_parameters")

/-- Types must be written, or be those of declared variables. -/
def writtenTypes : Edition :=
  { guesses with
    declare := declareTyped
    rules := typedRules (rawPrintRules guesses.print) guesses.loops
    params := fun t? _ => memberParams (fun _ => none) t?
    constructorParams := memberParams fun _ => none
    freeParams := fun _ _ => .error (.noReader "_parse_parameters")
    field := Field.ofText }

/-- Printing puts values in place of texts in braces, without a format mark. -/
def interpolation : Edition :=
  { writtenTypes with
    rules := typedRules (formatlessPrintRules guesses.print) guesses.loops
    params := fun t? _ => memberParams Parameter.suggestedType? t?
    constructorParams := memberParams Parameter.suggestedType? }

/-- The parameters of a member, or of a method outside templates. -/
def anyParams : Option Template → Text → Except Fault (List Param)
  | some t => Parameter.readMember Parameter.suggestedType? t
  | none => Parameter.readFree

def nameWith (v : Vocabulary) (s : Text) : Except Fault Text :=
  match v.templateName? s with
  | some name => .ok name
  | none => .error (.namelessTemplate s)

/-- Templates can be called by several words. -/
def synonyms (v : Vocabulary) : Edition :=
  { interpolation with
    rules := typedRules (printRules guesses.print) guesses.loops
    params := fun t? _ => anyParams t?
    constructorParams := anyParams
    freeParams := fun _ => Parameter.readFree
    opensTemplate := v.opensTemplate
    templateName := nameWith v
    endsTemplate := fun line s =>
      Template.isUnindented line && (v.opensTemplate s || s == "main".toList)
    nameAndStart := Program.nameAndStart v }

/-- The first template word with which a line begins, in any case. -/
def leadingWord (v : Vocabulary) (line : Text) : Text :=
  (v.templateWords.find? fun word => line.lower.startsWith word.lower).getD "template"

/-- The kind of a member section in a template that is declared with a word. -/
def wordKind? (abstracts : List Text) (word name : Text) : Option Section :=
  TemplateRules.memberKind? (Vocabulary.staticVarSections word)
    (Vocabulary.staticMethodSections word) abstracts name

def accessorKind? (name : Text) : Option Section :=
  if name = "getters setters".toList then some .accessors else none

/-- The sections of static members are named with the template word. -/
def sectionWords (v : Vocabulary) : Edition :=
  { synonyms v with
    kind? := fun opening =>
      atEight fun name => wordKind? [] (leadingWord v opening) name <|> accessorKind? name }

/-- A constructor can be a list of parameters before a colon. -/
def parameterLists (v : Vocabulary) : Edition :=
  { sectionWords v with constructorForm := .callOrList }

/-- A constructor with a colon is always a list of parameters. -/
def colonLists (v : Vocabulary) : Edition :=
  { sectionWords v with constructorForm := .listWithColon }

/-- Templates can be abstract, extend others and implement interfaces. -/
def inheritance (v : Vocabulary) : Edition :=
  { parameterLists v with
    bodyRules := { bodyWith .firstStatement true with
      ends := fun s indent =>
        .ok (Vocabulary.isHeading v.memberSections s indent || v.opensOuter s indent) }
    header := Header.read v
    kind? := fun opening =>
      atEight fun name =>
        wordKind? v.abstractSections (v.templateWordIn opening) name <|> accessorKind? name }

/-- A line that belongs to no other section asks for accessors. -/
def openAccessors (v : Vocabulary) : Edition :=
  { inheritance v with
    kind? := fun opening heading indent =>
      atEight (wordKind? v.abstractSections (v.templateWordIn opening)) heading indent <|>
        some .accessors }

end JavaSketch.Edition
