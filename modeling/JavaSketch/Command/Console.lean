import JavaSketch.Files.Tree

/-!
What a command works on: files, and the two channels that it prints to.
-/

namespace JavaSketch

structure Desk where
  files : FileTree
  out : Text := []
  err : Text := []
  deriving Repr

/-- An action on a desk that may fail. What it did before failing stays done. -/
abbrev DeskM (ε α : Type) := ExceptT ε (StateM Desk) α

namespace DeskM

variable {ε ε' α : Type}

def files : DeskM ε FileTree := return (← get).files

def setFiles (t : FileTree) : DeskM ε Unit := modify fun d => { d with files := t }

/-- Prints a line. -/
def say (line : Text) : DeskM ε Unit := modify fun d => { d with out := d.out ++ line ++ ['\n'] }

/-- Prints a line to the error channel. -/
def complain (line : Text) : DeskM ε Unit :=
  modify fun d => { d with err := d.err ++ line ++ ['\n'] }

/-- Prints a line if notes are wanted. -/
def note (wanted : Bool) (line : Text) : DeskM ε Unit := if wanted then say line else pure ()

/-- The same action, with its errors seen as others. -/
def mapError (f : ε → ε') (a : DeskM ε α) : DeskM ε' α := fun d =>
  match a d with
  | (.ok x, d) => (.ok x, d)
  | (.error e, d) => (.error (f e), d)

end DeskM

end JavaSketch
