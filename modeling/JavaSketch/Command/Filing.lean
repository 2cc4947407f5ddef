import JavaSketch.Command.Console

/-!
Reading and writing of files, with notes for the user and worded errors.
-/

namespace JavaSketch

inductive FilingError
  | reading (fault : PathFault)
  | writing (path : Text) (fault : PathFault)
  | makingDirectory (path : Text) (fault : PathFault)
  deriving DecidableEq, Repr

def FilingError.message : FilingError → Text
  | reading ⟨.missing, path⟩ => "Input file '" ++ path ++ "' not found"
  | reading ⟨.denied, path⟩ => "Permission denied reading file '" ++ path ++ "'"
  | reading ⟨.undecodable _, path⟩ =>
    "Cannot decode file '" ++ path ++ "'. Please ensure it's a valid text file"
  | reading fault => "Error reading file '" ++ fault.path ++ "': " ++ fault.message
  | writing path ⟨.denied, _⟩ => "Permission denied writing file '" ++ path ++ "'"
  | writing path fault => "Error writing file '" ++ path ++ "': " ++ fault.message
  | makingDirectory path ⟨.denied, _⟩ => "Permission denied creating directory '" ++ path ++ "'"
  | makingDirectory path fault => "Error creating directory '" ++ path ++ "': " ++ fault.message

namespace Filing

open DeskM

def read (notes : Bool) (path : Text) : DeskM FilingError Text := do
  match (← files).readText path with
  | .ok s =>
    note notes ("Successfully read file: " ++ path)
    return s
  | .error fault => throw (.reading fault)

/-- Makes the directories above a path, and then the file. -/
def writeTo (t : FileTree) (path s : Text) : FileTree × Option PathFault :=
  let dir := Path.directory path
  match if dir.isEmpty then (t, none) else t.makeDirs true dir with
  | (t, some fault) => (t, some fault)
  | (t, none) =>
    match t.putFile path (.text s) with
    | .ok t => (t, none)
    | .error fault => (t, some fault)

def write (notes : Bool) (path s : Text) : DeskM FilingError Unit := do
  let (t, fault?) := writeTo (← files) path s
  setFiles t
  match fault? with
  | none => note notes ("Successfully wrote file: " ++ path)
  | some fault => throw (.writing path fault)

/-- Opens a file for writing, which makes it or empties it. -/
def openFile (path : Text) : DeskM FilingError Unit := write false path []

/-- Writes a text in memory. The file is open already when the text is encoded. -/
def writeCodes (notes : Bool) (path : Text) (s : List CodePoint) : DeskM FilingError Unit := do
  openFile path
  match Encoding.encode s with
  | .error fault => throw (.writing path ⟨.unencodable fault, path⟩)
  | .ok s =>
    setFiles ((← files).overwrite path (.text s))
    note notes ("Successfully wrote file: " ++ path)

def ensureDirectory (notes : Bool) (path : Text) : DeskM FilingError Unit := do
  let (t, fault?) := (← files).makeDirs true path
  setFiles t
  match fault? with
  | none => note notes ("Directory ensured: " ++ path)
  | some fault => throw (.makingDirectory path fault)

/-- The path of the Java file: the one asked for, or the name of the program in a directory. -/
def outputPath (name : Text) (output dir : Option Text) : Text :=
  match output with
  | some (c :: path) => c :: path
  | _ =>
    match dir with
    | some (c :: dir) => Path.join (c :: dir) (name ++ ".java")
    | _ => name ++ ".java"

end Filing

end JavaSketch
