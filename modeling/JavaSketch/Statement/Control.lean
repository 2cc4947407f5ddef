import JavaSketch.Pattern
import JavaSketch.Statement.Rule

/-!
Lines that open a block, and `return`.
-/

namespace JavaSketch.Statement

open Pattern (exactly)

/-- The words `and`, `or` and `not` between spaces become operators. -/
def javaOperators (condition : Text) : Text :=
  ((condition.replace " and " " && ").replace " or " " || ").replace " not " " !"

/-- What stands after an opening word of `n` characters, without colons at its end. -/
def headAfter (n : Nat) (s : Text) : Text := Text.dropEndWhile (· == ':') (s.drop n)

def ifLine (s : Text) : Text := "if (" ++ javaOperators (headAfter 3 s) ++ ") \x7b"

def elifLine (s : Text) : Text := "\x7d else if (" ++ javaOperators (headAfter 5 s) ++ ") \x7b"

def whileLine (s : Text) : Text := "while (" ++ javaOperators (headAfter 6 s) ++ ") \x7b"

def switchLine (s : Text) : Text := "switch (" ++ headAfter 7 s ++ ") \x7b"

/-- `for v in range(...):`, keeping the variable and the arguments. -/
def rangePattern : Pattern :=
  exactly "for" ++ [.gap, .name, .gap] ++ exactly "in" ++ [.gap] ++ exactly "range(" ++
    [.run .any 0 false true] ++ exactly "):"

/-- `for v in c:`, keeping the variable and the collection. -/
def eachPattern : Pattern :=
  exactly "for" ++ [.gap, .name, .gap] ++ exactly "in" ++ [.gap] ++
    [.run (.except ':') 1 true true] ++ exactly ":"

def countingLine (v first bound : Text) : Text :=
  "for (int " ++ v ++ " = " ++ first ++ "; " ++ v ++ " < " ++ bound ++ "; " ++ v ++ "++) \x7b"

def eachLine (v collection : Text) : Text := "for (var " ++ v ++ " : " ++ collection ++ ") \x7b"

/-- How `for` loops are read: whether a third argument of a range is passed over, and which
words in front of a collection are understood. -/
structure LoopStyle where
  dropsStep : Bool
  quantifiers : Bool
  mapViews : Bool

def LoopStyle.range? (style : LoopStyle) (v arguments : Text) : Option Text :=
  match arguments.splitAt ',' with
  | [bound] => some (countingLine v "0" bound.trim)
  | [first, bound] => some (countingLine v first.trim bound.trim)
  | first :: bound :: _ =>
    if style.dropsStep then some (countingLine v first.trim bound.trim) else none
  | [] => none

def LoopStyle.collection (style : LoopStyle) (c : Text) : Text :=
  if style.mapViews && c.startsWith "keys of " then Text.trim (c.drop 8) ++ ".keySet()"
  else if style.mapViews && c.startsWith "values of " then Text.trim (c.drop 10) ++ ".values()"
  else if style.quantifiers && (c.startsWith "each " || c.startsWith "all ") then
    c.words.getLastD []
  else c

def forLine (style : LoopStyle) (s : Text) : Text :=
  if s.includes " in range(" then
    match rangePattern.find? s with
    | some [v, arguments] => (style.range? v arguments).getD s
    | _ => s
  else if s.includes " in " then
    match eachPattern.find? s with
    | some [v, c] => eachLine v (style.collection c.trim)
    | _ => s
  else s

def elseRule : Rule := fun s => if s = "else:".toList then some (.ok (some "else \x7b")) else none

/-- The rules for blocks and `return`, which every edition tries last. -/
def controlRules (style : LoopStyle) : List Rule :=
  [.opening "if " ifLine, .opening "elif " elifLine, elseRule, .opening "for " (forLine style),
   .opening "while " whileLine, .opening "switch " switchLine, .opening "return " (· ++ ";")]

end JavaSketch.Statement
