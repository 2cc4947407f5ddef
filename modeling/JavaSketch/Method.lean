import JavaSketch.Body
import JavaSketch.Field
import JavaSketch.Parameter

/-!
Methods: a signature line and the body under it.
-/

namespace JavaSketch

open Pattern (exactly)

/-- The parts of a signature: name, parameters and return type as they are written. -/
structure Signature where
  name : Text
  params : Text
  returns : Text
  deriving DecidableEq, Repr

namespace Signature

/-- A name and what stands in the parentheses after it. -/
def pattern : Pattern :=
  [.name, .space] ++ exactly "(" ++ [.run .any 0 false true] ++ exactly ")"

def callParts? (s : Text) : Option (Text × Text) :=
  match pattern.find? s with
  | some [name, params] => some (name, params)
  | _ => none

/-- The signature in front of a return mark, and the return type after it; the marks are looked
for in the order of the list. -/
def splitReturns (marks : List Text) (s : Text) : Text × Text :=
  match marks.findSome? fun mark => Text.cut? mark s with
  | some (head, returns) => (head, returns.trim)
  | none => (s, "void")

def arrow : List Text := [" -> "]

def returnsOrArrow : List Text := [" returns ", " -> "]

def read? (marks : List Text) (s : Text) : Option Signature :=
  let (head, returns) := splitReturns marks s
  (callParts? head).map fun (name, params) => ⟨name, params, returns⟩

end Signature

namespace Constructor

/-- Something that looks like a call and is followed by a colon. -/
def callPattern : Pattern :=
  [.run .any 0 true false, .run .word 1 true false, .space] ++ exactly "(" ++
    [.run (.except ')') 0 true false] ++ exactly ")" ++ [.space] ++ exactly ":"

/-- A head that only lists parameters before a colon. -/
def isListed (s : Text) : Bool := s.includes ":" && !s.endsWith ")" && !callPattern.accepts s

/-- A parameter list is stored in the fields of the same names. -/
def assignments (params : List Param) : List Text :=
  params.map fun p => "this." ++ p.name ++ " = " ++ p.name ++ ";"

end Constructor

/-- What is needed to read methods: bodies, and parameters for a given return type. -/
structure MethodReader where
  table : TypeTable
  marks : List Text
  body : List Text → Except Fault (List Text × Nat)
  params : Text → Text → Except Fault (List Param)

namespace MethodReader

/-- A method that is not a constructor; the number counts the lines of `rest` that it takes. -/
def regular (r : MethodReader) (access : Access) (isStatic : Bool) (s : Text) (rest : List Text) :
    Except Fault (Option Method × Nat) :=
  match Signature.read? r.marks s with
  | none => .ok (none, 0)
  | some sig => do
    let params ← r.params sig.returns sig.params
    let (body, n) ← r.body rest
    .ok (some { name := sig.name, params, returnType := r.table.javaName sig.returns, access, body,
                isStatic }, n)

/-- A method without a body. -/
def abstract (r : MethodReader) (access : Access) (s : Text) : Except Fault (Option Method) :=
  match Signature.read? r.marks s with
  | none => .ok none
  | some sig => do
    let params ← r.params sig.returns sig.params
    .ok (some { name := sig.name, params, returnType := r.table.javaName sig.returns, access })

/-- A constructor that is written as a call. -/
def named (r : MethodReader) (access : Access) (s : Text) (rest : List Text) :
    Except Fault (Option Method × Nat) :=
  match Signature.callParts? s with
  | none => .ok (none, 0)
  | some (name, params) => do
    let params ← r.params "void" params
    let (body, n) ← r.body rest
    .ok (some { name, params, access, body, isConstructor := true }, n)

/-- A constructor that is written as a list of parameters. -/
def listed (r : MethodReader) (name : Text) (access : Access) (s : Text) (rest : List Text) :
    Except Fault (Option Method × Nat) := do
  let params ← r.params "void" (Text.trim (Text.dropEndWhile (· == ':') s))
  let (body, n) ← r.body rest
  .ok (some { name, params, access, body := Constructor.assignments params ++ body,
              isConstructor := true }, n)

end MethodReader

namespace Method

/-- The parameters of a member of a template, or of no template. -/
def paramsFor (t? : Option Template) (s : Text) : Except Fault (List Param) :=
  match t? with
  | some t => Parameter.readIn t s
  | none => Parameter.readFree s

/-- Reads a member line unless it is idle. -/
def onMember (line : Text) (read : Access → Text → Except Fault (Option Method × Nat)) :
    Except Fault (Option Method × Nat) :=
  let s := line.trim
  if isIdle s then .ok (none, 0)
  else do
    let (access, s) ← Access.read s
    read access s

def reader (body : List Text → Except Fault (List Text × Nat)) (t? : Option Template) :
    MethodReader :=
  ⟨.full, Signature.returnsOrArrow, body, fun _ => paramsFor t?⟩

def read (body : List Text → Except Fault (List Text × Nat)) (t? : Option Template)
    (isStatic : Bool) (line : Text) (rest : List Text) : Except Fault (Option Method × Nat) :=
  onMember line fun access s => (reader body t?).regular access isStatic s rest

def readConstructor (body : List Text → Except Fault (List Text × Nat)) (t? : Option Template)
    (line : Text) (rest : List Text) : Except Fault (Option Method × Nat) :=
  onMember line fun access s =>
    if Constructor.isListed s then
      (reader body t?).listed ((t?.map (·.name)).getD "Constructor") access s rest
    else (reader body t?).named access s rest

def readAbstract (t? : Option Template) (line : Text) : Except Fault (Option Method) :=
  (onMember line fun access s =>
    ((reader (fun _ => .ok ([], 0)) t?).abstract access s).map (·, 0)).map (·.1)

/-- A public static method after the word `method`. -/
def readStandalone (body : List Text → Except Fault (List Text × Nat)) (line : Text)
    (rest : List Text) : Except Fault (Option Method × Nat) :=
  let s := line.trim
  if s.startsWith "method " then
    (reader body none).regular .pub true (Text.trim (s.drop 7)) rest
  else .ok (none, 0)

end Method

end JavaSketch
