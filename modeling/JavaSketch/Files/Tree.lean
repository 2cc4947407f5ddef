import JavaSketch.Files.Encoding
import JavaSketch.Files.Path

/-!
A tree of files and directories with a working directory, and the operations that a program has
on it.
-/

namespace JavaSketch

/-- The content of a file: a text, or bytes as they were found. -/
inductive Content
  | text (t : Text)
  | raw (bytes : Bytes)
  deriving DecidableEq, Repr

def Content.decode : Content → Except DecodeFault Text
  | text t => .ok t
  | raw bytes => Encoding.decode bytes

inductive Node
  | file (content : Content)
  | directory
  deriving DecidableEq, Repr

/-- What a user may be allowed to do with a file or a directory. A directory is searched for what
is in it, read for its names, and written when a name is added or taken away. -/
inductive Right
  | read
  | write
  | search
  deriving DecidableEq, Repr

/-- Why an operation on a path fails. -/
inductive PathCause
  | missing
  | denied
  | exists
  | notDirectory
  | isDirectory
  /-- The path holds a character that no path can hold. -/
  | nullByte
  /-- The file was found, but it is not a text. -/
  | undecodable (fault : DecodeFault)
  /-- What should be written has no encoding. -/
  | unencodable (fault : EncodeFault)
  deriving DecidableEq, Repr

structure PathFault where
  cause : PathCause
  path : Text
  deriving DecidableEq, Repr

namespace PathFault

def message (f : PathFault) : Text :=
  match f.cause with
  | .missing => "[Errno 2] No such file or directory: " ++ f.path.shown
  | .denied => "[Errno 13] Permission denied: " ++ f.path.shown
  | .exists => "[Errno 17] File exists: " ++ f.path.shown
  | .notDirectory => "[Errno 20] Not a directory: " ++ f.path.shown
  | .isDirectory => "[Errno 21] Is a directory: " ++ f.path.shown
  | .nullByte => "embedded null byte"
  | .undecodable fault => fault.message
  | .unencodable fault => fault.message

end PathFault

/-- The names from the root to a node. -/
abbrev Location := List Text

/-- Nodes by location. The root is always a directory. The bars say what is not allowed at a
location, be it taken or not; a new node comes under the bars of its place. -/
structure FileTree where
  workDir : Location
  nodes : List (Location × Node)
  bars : List (Location × Right) := []
  deriving Repr

/-- Where a path leads. -/
inductive Spot
  | occupied (place : Location) (node : Node)
  /-- Nothing is there, but it is in a directory. -/
  | vacant (place : Location)
  deriving DecidableEq, Repr

namespace FileTree

/-- A tree that only holds an empty working directory. -/
def empty : FileTree where
  workDir := ["work"]
  nodes := [(["work"], .directory)]

def allows (t : FileTree) (place : Location) (right : Right) : Bool :=
  !t.bars.contains (place, right)

def node? (t : FileTree) (place : Location) : Option Node :=
  if place = [] then some .directory else t.nodes.lookup place

def put (t : FileTree) (place : Location) (node : Node) : FileTree :=
  { t with
    nodes :=
      if t.nodes.any (·.1 == place) then
        t.nodes.map fun entry => if entry.1 == place then (place, node) else entry
      else t.nodes ++ [(place, node)] }

def drop (t : FileTree) (place : Location) : FileTree :=
  { t with nodes := t.nodes.filter (·.1 != place) }

/-- Follows the parts of a path. Only a directory has parts, it must be allowed to search it, and
only the last part may be vacant. -/
def walk (t : FileTree) (place : Location) : List Text → Except PathCause Spot
  | [] =>
    match t.node? place with
    | some node => .ok (.occupied place node)
    | none => .error .missing
  | part :: rest =>
    if t.node? place ≠ some .directory then .error .notDirectory
    else if part = [] then t.walk place rest
    else if !t.allows place .search then .error .denied
    else if part = ['.'] then t.walk place rest
    else if part = ['.', '.'] then t.walk place.dropLast rest
    else
      let inner := place ++ [part]
      if (t.node? inner).isSome then t.walk inner rest
      else if rest = [] then .ok (.vacant inner)
      else .error .missing

/-- Where a path leads, from the root or from the working directory. -/
def find (t : FileTree) (path : Text) : Except PathCause Spot :=
  if path.contains '\x00' then .error .nullByte
  else
    match path with
    | [] => .error .missing
    | '/' :: rest => t.walk [] (Text.splitAt '/' rest)
    | path => t.walk t.workDir (Text.splitAt '/' path)

def nodeAt? (t : FileTree) (path : Text) : Option Node :=
  match t.find path with
  | .ok (.occupied _ node) => some node
  | _ => none

def exists? (t : FileTree) (path : Text) : Bool := (t.nodeAt? path).isSome

def isDirectory (t : FileTree) (path : Text) : Bool := t.nodeAt? path == some .directory

/-- The content of a file. -/
def content (t : FileTree) (path : Text) : Except PathFault Content :=
  match t.find path with
  | .ok (.occupied place node) =>
    if t.allows place .read then
      match node with
      | .file c => .ok c
      | .directory => .error ⟨.isDirectory, path⟩
    else .error ⟨.denied, path⟩
  | .ok (.vacant _) => .error ⟨.missing, path⟩
  | .error cause => .error ⟨cause, path⟩

/-- The text of a file, with all line ends as line feeds. -/
def readText (t : FileTree) (path : Text) : Except PathFault Text := do
  match (← t.content path).decode with
  | .ok s => .ok (Encoding.feedLines s)
  | .error fault => .error ⟨.undecodable fault, path⟩

/-- A path without slashes at its end. -/
def trimSlashes (path : Text) : Text := path.dropEndWhile (· == '/')

/-- Makes or replaces a file. A new file cannot have a path that ends in a slash. -/
def putFile (t : FileTree) (path : Text) (c : Content) : Except PathFault FileTree :=
  match t.find path with
  | .ok (.occupied place (.file _)) =>
    if t.allows place .write then .ok (t.put place (.file c)) else .error ⟨.denied, path⟩
  | .ok (.vacant place) =>
    if t.allows place.dropLast .write then .ok (t.put place (.file c)) else .error ⟨.denied, path⟩
  | .ok (.occupied _ .directory) => .error ⟨.isDirectory, path⟩
  | .error cause =>
    match t.find (trimSlashes path) with
    | .ok (.vacant _) => .error ⟨.isDirectory, path⟩
    | _ => .error ⟨cause, path⟩

/-- Replaces the content of a file that is open for writing. -/
def overwrite (t : FileTree) (path : Text) (c : Content) : FileTree :=
  match t.find path with
  | .ok (.occupied place (.file _)) => t.put place (.file c)
  | _ => t

/-- Makes one directory. -/
def makeDir (t : FileTree) (path : Text) : Except PathFault FileTree :=
  match t.find (if path.all (· == '/') then path else trimSlashes path) with
  | .ok (.vacant place) =>
    if t.allows place.dropLast .write then .ok (t.put place .directory) else .error ⟨.denied, path⟩
  | .ok (.occupied _ _) => .error ⟨.exists, path⟩
  | .error cause => .error ⟨cause, path⟩

/-- The directory above the last name of a path, passing over a slash at its end. -/
def above (path : Text) : Text × Text :=
  match Path.split path with
  | (head, []) => Path.split head
  | parts => parts

end FileTree

theorem Path.length_cutAtSlash (p : Text) :
    (cutAtSlash p).1.length + (cutAtSlash p).2.length = p.length := by
  have h := (List.takeWhile_sublist (· != '/') (l := p.reverse)).length_le
  rw [List.length_reverse] at h
  simp [cutAtSlash]
  omega

theorem Text.length_dropEndWhile_le (f : Char → Bool) (s : Text) :
    (s.dropEndWhile f).length ≤ s.length := by
  simpa [dropEndWhile] using (List.dropWhile_sublist f (l := s.reverse)).length_le

theorem Path.length_split_le (p : Text) : (split p).1.length + (split p).2.length ≤ p.length := by
  have h := length_cutAtSlash p
  have h' := Text.length_dropEndWhile_le (· == '/') (cutAtSlash p).1
  simp only [split]
  split <;> omega

theorem FileTree.length_above_le (p : Text) :
    (above p).1.length + (above p).2.length ≤ p.length := by
  have h := Path.length_split_le p
  simp only [above]
  split
  · rename_i head heq
    have h' := Path.length_split_le head
    rw [heq] at h
    simp at h
    omega
  · exact h

namespace FileTree

/-- Makes a directory and those above it that do not exist. Unless `reuse` is set, the directory
itself must be new. Directories made before a failure stay. -/
def makeDirs (reuse : Bool) (t : FileTree) (path : Text) : FileTree × Option PathFault :=
  let parts := above path
  if _h : parts.1 ≠ [] ∧ parts.2 ≠ [] ∧ !t.exists? parts.1 then
    match t.makeDirs reuse parts.1 with
    | (t, some fault) =>
      if fault.cause ≠ .exists then (t, some fault)
      else if parts.2 = ['.'] then (t, none)
      else finish t
    | (t, none) => if parts.2 = ['.'] then (t, none) else finish t
  else finish t
termination_by path.length
decreasing_by
  have h' := length_above_le path
  have := List.length_pos_iff.2 _h.2.1
  simp only [parts] at *
  omega
where
  finish (t : FileTree) : FileTree × Option PathFault :=
    match t.makeDir path with
    | .ok t => (t, none)
    | .error fault =>
      if reuse && fault.cause != .nullByte && t.isDirectory path then (t, none)
      else (t, some fault)

/-- Removes a file. -/
def removeFile (t : FileTree) (path : Text) : Except PathFault FileTree :=
  match t.find path with
  | .ok (.occupied place node) =>
    if t.allows place.dropLast .write then
      match node with
      | .file _ => .ok (t.drop place)
      | .directory => .error ⟨.isDirectory, path⟩
    else .error ⟨.denied, path⟩
  | .ok (.vacant _) => .error ⟨.missing, path⟩
  | .error cause => .error ⟨cause, path⟩

/-- The names in a directory; none if it is not one, or may not be read. -/
def names (t : FileTree) (path : Text) : List Text :=
  match t.find path with
  | .ok (.occupied place .directory) =>
    if t.allows place .read then
      t.nodes.filterMap fun entry =>
        match entry.1.getLast? with
        | some name => if entry.1.dropLast == place then some name else none
        | none => none
    else []
  | _ => []

/-- The files below the working directory, by their paths from there. -/
def files (t : FileTree) : List (Text × Content) :=
  t.nodes.filterMap fun
    | (place, .file c) =>
      if t.workDir.isPrefixOf place then
        some (Text.join "/" (place.drop t.workDir.length), c)
      else none
    | (_, .directory) => none

/-- Makes a file and the directories above it. -/
def add (t : FileTree) (path : Text) (c : Content) : FileTree :=
  let dir := Path.directory path
  let t := if dir.isEmpty then t else (t.makeDirs true dir).1
  match t.putFile path c with
  | .ok t => t
  | .error _ => t

end FileTree

end JavaSketch
