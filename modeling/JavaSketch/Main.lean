import JavaSketch.Command.Current

/-!
The command line. The files that the arguments name are taken onto a desk, the command works there,
and what it left is written back. There are no Java tools on this desk.
-/

namespace JavaSketch.Shelf

/-- The paths that the arguments name, each after the directory that it is in. -/
def paths (program : Text) (env : Environment) (arguments : List Text) : List Text :=
  match Options.read (Command.interface program) arguments with
  | .error _ => []
  | .ok o =>
    let o := env.adjust o
    let named := [o.input, o.output.value?, o.outputDir.value?].flatMap (·.toList)
    named.flatMap fun p => [Path.directory p, p]

/-- Takes a file or directory from disk, if it is there. -/
def take (t : FileTree) (path : Text) : IO FileTree := do
  match ← (IO.FS.readBinFile (String.ofList path)).toBaseIO with
  | .ok bytes => return t.add path (.raw bytes.toList)
  | .error (.inappropriateType ..) => return (t.makeDirs true path).1
  | .error (.permissionDenied ..) =>
    let t := t.add path (.raw [])
    match t.find path with
    | .ok (.occupied place _) => return { t with bars := t.bars ++ [(place, .read)] }
    | _ => return t
  | .error _ => return t

/-- A desk in the current directory that holds what is at the paths. -/
def gather (paths : List Text) : IO Desk := do
  let here := (Text.splitAt '/' (← IO.currentDir).toString.toList).filter (· ≠ [])
  let above := (List.range here.length).map fun n => (here.take (n + 1), Node.directory)
  return { files := ← paths.foldlM take ⟨here, above, []⟩ }

/-- Writes what a command wrote. Files that it only read are bytes and stay as they are. -/
def putBack (t : FileTree) : IO Unit :=
  t.nodes.forM fun (place, node) => do
    let name := String.ofList ("/" ++ Text.join "/" place)
    match node with
    | .file (.text s) => IO.FS.writeFile name (String.ofList s)
    | .file (.raw _) => pure ()
    | .directory => IO.FS.createDirAll name

end JavaSketch.Shelf

open JavaSketch in
def main (arguments : List String) : IO UInt32 := do
  let program : Text := "javax_parser.py"
  let env : Environment :=
    ⟨(← IO.getEnv "JAVAX_VERBOSE").map String.toList,
     (← IO.getEnv "JAVAX_OUTPUT_DIR").map String.toList⟩
  let arguments := arguments.map String.toList
  let desk ← Shelf.gather (Shelf.paths program env arguments)
  let (code, desk) := Command.run program {} env arguments desk
  Shelf.putBack desk.files
  IO.print (String.ofList desk.out)
  IO.eprint (String.ofList desk.err)
  return UInt32.ofNat code
