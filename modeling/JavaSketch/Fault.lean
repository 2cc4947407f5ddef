import JavaSketch.Text.Basic

/-!
The ways in which reading a sketch fails, and their wording.
-/

namespace JavaSketch

inductive Fault
  /-- A `var` declaration has no value; the flag asks for a hint. -/
  | uninitialized (statement : Text) (hint : Bool)
  /-- A local declaration has no `name as type` part. -/
  | untypedLocal (statement : Text)
  /-- A field has no `name as type` part. -/
  | untypedField (line : Text)
  /-- A `var` declaration where a written type is required. -/
  | inferredLocal (statement : Text)
  /-- An assignment where a declaration with a written type is required. -/
  | implicitLocal (statement : Text)
  /-- A parameter of a method outside a template is a single word. -/
  | bareParameter (parameter : Text)
  /-- No declared variable and no rule gives the type of a parameter. -/
  | unknownParameter (parameter : Text)
  /-- A constructor parameter is no declared variable. -/
  | undeclaredParameter (parameter : Text)
  /-- A line that should open a template names none. -/
  | namelessTemplate (line : Text)
  /-- A `template` word without a name, in editions that expect one. -/
  | missingName
  /-- A statement that has no Java form. -/
  | formless
  /-- A construct that an edition announces but has no reader for. -/
  | noReader (reader : Text)
  /-- The first character of an empty text is asked for. -/
  | noCharacter
  /-- A line behind the last one is asked for. -/
  | noLine
  /-- A text that should be cut in two does not have the mark. -/
  | uncut
  /-- A template word that does not stand for itself in a pattern. -/
  | spliced (word : Text)
  deriving DecidableEq, Repr

namespace Fault

def message : Fault → Text
  | uninitialized s hint =>
    "Variable declaration '" ++ s ++ "' with 'var' requires initialization." ++
      if hint then " Use 'var name = value'".toList else []
  | untypedLocal s => "Variable declaration '" ++ s ++ "' must use 'name as type' syntax."
  | untypedField s =>
    "Variable declaration '" ++ s ++ "' must use 'name as type' syntax. " ++
      "Example: 'studentId as int' or 'name as string'"
  | inferredLocal s =>
    "Variable declaration '" ++ s ++ "' must use explicit type syntax. " ++
      "Use 'name as type' instead of 'var name = value'"
  | implicitLocal s =>
    "Variable declaration '" ++ s ++ "' must use explicit type syntax. " ++
      "Use 'name as type = value' instead of implicit typing"
  | bareParameter p =>
    "Parameter '" ++ p ++ "' requires explicit type. Use 'type name' syntax (e.g., 'string " ++
      p ++ "')."
  | unknownParameter p =>
    "Parameter '" ++ p ++ "' type cannot be determined. Either declare '" ++ p ++
      "' as a variable in the template, or use explicit type syntax: 'type " ++ p ++
      "' (e.g., 'string " ++ p ++ "')"
  | undeclaredParameter p =>
    "Constructor parameter '" ++ p ++ "' does not match any declared variable. Either declare '" ++
      p ++ "' as an instance/template variable, or use explicit type syntax: 'type " ++ p ++
      "' (e.g., 'string " ++ p ++ "')"
  | namelessTemplate l => "Could not extract template name from line: " ++ l
  | missingName => "'NoneType' object has no attribute 'group'"
  | formless => "'NoneType' object has no attribute 'endswith'"
  | noReader r => "'PseudoJavaParser' object has no attribute '" ++ r ++ "'"
  | noCharacter => "string index out of range"
  | noLine => "list index out of range"
  | uncut => "not enough values to unpack (expected 2, got 1)"
  | spliced word => "template word is not literal: " ++ word

/-- A refusal explains what is wrong with the sketch; other faults are breakdowns. -/
def isRefusal : Fault → Bool
  | missingName | formless | noReader _ | noCharacter | noLine | uncut | spliced _ => false
  | _ => true

end Fault

end JavaSketch
