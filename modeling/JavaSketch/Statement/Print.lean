import JavaSketch.Statement.Collection
import JavaSketch.Statement.Rule

/-!
Printing. Text in braces is an expression whose value is put in its place by a format string.
-/

namespace JavaSketch.Statement

open Pattern (exactly)

/-- The texts in braces, from the left; the counter says how many characters are still part of
the last one. -/
def slotsFrom : Nat → Text → List Text
  | _, [] => []
  | n + 1, _ :: s => slotsFrom n s
  | 0, c :: s =>
    let inner := s.takeWhile (· != '\x7d')
    if c = '\x7b' ∧ inner ≠ [] ∧ inner.length < s.length then
      inner :: slotsFrom (inner.length + 1) s
    else slotsFrom 0 s

def slots (content : Text) : List Text := slotsFrom 0 content

/-- How an edition prints: which forms of expressions it knows, and whether it escapes quotes. -/
structure PrintStyle where
  /-- A colon divides an expression from its number format. -/
  formats : Bool
  /-- Compound expressions are put in parentheses. -/
  groups : Bool
  book : Phrasebook
  escapes : Bool

def braced (t : Text) : Text := "\x7b" ++ t ++ "\x7d"

/-- The conversion that a number format asks for. -/
def conversion (format : Text) : Text :=
  if format.endsWith "f" then
    match format.splitAt '.' with
    | _ :: digits :: _ => "%." ++ digits.dropLast ++ "f"
    | _ => "%f"
  else if format = "d".toList then "%d"
  else "%s"

def isCompound (t : Text) : Bool := t.any fun c => ['+', '-', '*', '/', '.', '('].contains c

/-- The conversion and the argument that stand for a text in braces. -/
def PrintStyle.slot (style : PrintStyle) (t : Text) : Text × Text :=
  match if style.formats then Text.cut? ":" t else none with
  | some (expression, format) => (conversion format.trim, expression.trim)
  | none =>
    if isOperation style.book t then
      ("%s", "(" ++ operationExpression style.book.operations t ++ ")")
    else if style.groups && isCompound t then ("%s", "(" ++ t ++ ")")
    else ("%s", t)

def escapeQuotes (t : Text) : Text := t.replace "\"" "\\\""

def println (argument : Text) : Text := "System.out.println(" ++ argument ++ ");"

/-- The format string: each text in braces, in turn, is replaced wherever it occurs. -/
def PrintStyle.formatOf (style : PrintStyle) (content : Text) : Text :=
  let format := (slots content).foldl
    (fun format t => format.replace (braced t) (style.slot t).1) content
  if style.escapes then escapeQuotes format else format

def PrintStyle.arguments (style : PrintStyle) (content : Text) : List Text :=
  (slots content).map fun t => (style.slot t).2

/-- Printing a content with texts in braces. -/
def interpolated (style : PrintStyle) (content : Text) : Text :=
  let literal := "\"" ++ style.formatOf content ++ "\""
  match style.arguments content with
  | [] => println literal
  | arguments => println ("String.format(" ++ literal ++ ", " ++ Text.join ", " arguments ++ ")")

/-- `print f"..."`, keeping what stands between the quotes. -/
def formatPattern : Pattern :=
  exactly "print f\"" ++ [.run .any 0 false true] ++ exactly "\""

def formatPrint (style : PrintStyle) (s : Text) : Text :=
  match formatPattern.find? s with
  | some [content] => interpolated style content
  | _ => s ++ ";"

/-- Printing a content as it is given, quoted or with texts in braces. -/
def contentPrint (style : PrintStyle) (content : Text) : Text :=
  if content.isQuoted then println content else interpolated style content

def plainPrint (style : PrintStyle) (s : Text) : Text := contentPrint style (Text.trim (s.drop 6))

def rawPrint (s : Text) : Text := println (Text.trim (s.drop 6))

def printRules (style : PrintStyle) : List Rule :=
  [.opening "print f\"" (formatPrint style), .opening "print " (plainPrint style)]

end JavaSketch.Statement
