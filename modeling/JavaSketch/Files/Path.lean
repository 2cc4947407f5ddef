import JavaSketch.Text.Basic

/-!
Paths as texts: their directories, names and extensions, without looking at any files.
-/

namespace JavaSketch

namespace Path

/-- The text up to and including the last slash, and the text after it. -/
def cutAtSlash (p : Text) : Text × Text :=
  let name := (p.reverse.takeWhile (· != '/')).reverse
  (p.take (p.length - name.length), name)

/-- The directory of a path and the last name. The directory has no slash at its end unless it
consists of slashes. -/
def split (p : Text) : Text × Text :=
  let (head, name) := cutAtSlash p
  (if head.all (· == '/') then head else head.dropEndWhile (· == '/'), name)

def directory (p : Text) : Text := (split p).1

def lastName (p : Text) : Text := (cutAtSlash p).2

/-- A path below a directory. An absolute path stays as it is. -/
def join (dir p : Text) : Text :=
  if p.startsWith "/" then p
  else if dir.isEmpty || dir.endsWith "/" then dir ++ p
  else dir ++ "/" ++ p

/-- What stands before and after the last dot. -/
def cutAtDot? (name : Text) : Option (Text × Text) :=
  (Text.cut? "." name.reverse).map fun (after, before) => (before.reverse, after.reverse)

/-- The path without its extension. Dots at the start of a name do not count. -/
def withoutExtension (p : Text) : Text :=
  let (head, name) := cutAtSlash p
  match cutAtDot? name with
  | some (before, _) => if before.all (· == '.') then p else head ++ before
  | none => p

end Path

/-- A path in normal form: without empty parts and parts that are a single dot. -/
structure NormalPath where
  root : Text
  parts : List Text
  deriving DecidableEq, Repr

namespace NormalPath

/-- The root of a path; two slashes, and no more, are a root of their own. -/
def rootOf (p : Text) : Text :=
  match p.takeWhile (· == '/') with
  | [] => ""
  | ['/', '/'] => "//"
  | _ => "/"

def ofText (p : Text) : NormalPath :=
  ⟨rootOf p, (p.splitAt '/').filter fun part => part ≠ [] ∧ part ≠ ['.']⟩

def toText (p : NormalPath) : Text :=
  match p.root, p.parts with
  | [], [] => "."
  | root, parts => root ++ Text.join "/" parts

def name (p : NormalPath) : Text := p.parts.getLastD []

def parent (p : NormalPath) : NormalPath := { p with parts := p.parts.dropLast }

def child (p : NormalPath) (name : Text) : NormalPath := { p with parts := p.parts ++ [name] }

/-- The name before and after its last dot, unless the dot begins or ends it. -/
def stemAndSuffix (p : NormalPath) : Text × Text :=
  match Path.cutAtDot? p.name with
  | some (c :: before, d :: after) => (c :: before, '.' :: d :: after)
  | _ => (p.name, [])

def stem (p : NormalPath) : Text := p.stemAndSuffix.1

def suffix (p : NormalPath) : Text := p.stemAndSuffix.2

end NormalPath

end JavaSketch
