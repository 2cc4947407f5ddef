import JavaSketch.Text.Case
import JavaSketch.Text.Word

/-!
Patterns: sequences of letters and runs of characters, matched from the start of a text. A run
tries its lengths in a fixed order, longest or shortest first, and the first choice under which
the rest of the pattern matches too is taken.
-/

namespace JavaSketch

inductive CharClass
  | blank
  | word
  /-- Any character but a line break. -/
  | any
  | except (c : Char)
  deriving DecidableEq

def CharClass.holds : CharClass → Char → Bool
  | .blank, c => isBlank c
  | .word, c => isWord c
  | .any, c => c != '\n'
  | .except d, c => c != d

inductive Step
  | exact (c : Char)
  /-- The letter in either case. -/
  | letter (c : Char)
  /-- At least `least` characters of a class; a kept run is part of the answer. -/
  | run (cls : CharClass) (least : Nat) (longest : Bool) (keep : Bool)
  /-- The end of the text, or the place before a last line break. -/
  | finish
  deriving DecidableEq

abbrev Pattern := List Step

namespace Pattern

/-- The lengths that a run may take in a text, in the order in which they are tried. -/
def lengths (cls : CharClass) (least : Nat) (longest : Bool) (s : Text) : List Nat :=
  let found := (s.takeWhile cls.holds).length
  let upward := List.range' least (found + 1 - least)
  if longest then upward.reverse else upward

/-- The kept runs of the first match at the start of the text. -/
def find? : Pattern → Text → Option (List Text)
  | [], _ => some []
  | .exact _ :: _, [] => none
  | .exact c :: p, d :: s => if d = c then find? p s else none
  | .letter _ :: _, [] => none
  | .letter c :: p, d :: s => if sameLetter c d then find? p s else none
  | .run cls least longest keep :: p, s =>
    (lengths cls least longest s).findSome? fun n =>
      (find? p (s.drop n)).map fun kept => if keep then s.take n :: kept else kept
  | .finish :: p, s => if s = [] ∨ s = ['\n'] then find? p s else none

def accepts (p : Pattern) (s : Text) : Bool := (find? p s).isSome

/-- The characters of a text, each as it stands. -/
def exactly (t : Text) : Pattern := t.map .exact

/-- The characters of a text in either case. -/
def anyCase (t : Text) : Pattern := t.map .letter

end Pattern

namespace Step

/-- One or more blanks. -/
def gap : Step := .run .blank 1 true false

/-- Blanks, or none. -/
def space : Step := .run .blank 0 true false

/-- A name that is part of the answer. -/
def name : Step := .run .word 1 true true

end Step

/-- Patterns one after another, with blanks between them. -/
def Pattern.spaced (parts : List Pattern) : Pattern := [Step.gap].intercalate parts

end JavaSketch
