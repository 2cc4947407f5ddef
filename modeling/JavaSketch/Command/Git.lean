import JavaSketch.Command.Tools

/-!
A repository as its window shows it: the meaning of status codes, and commands in its directory.
-/

namespace JavaSketch.Git

/-- The colour group of an entry. -/
inductive Group
  | staged
  | modified
  | untracked
  | deleted
  deriving DecidableEq, Repr

def Group.tag : Group → Text
  | staged => "staged"
  | modified => "modified"
  | untracked => "untracked"
  | deleted => "deleted"

/-- What a status code means. A code has two letters, of which only an `M` in front can stand
alone. -/
def status? : Text → Option (Text × Option Group)
  | 'M' :: _ => some ("Modified (Staged)", some .staged)
  | first :: second :: rest =>
    let code := first :: second :: rest
    if second = 'M' then some ("Modified", some .modified)
    else if code = "A ".toList then some ("Added (Staged)", some .staged)
    else if code = "??".toList then some ("Untracked", some .untracked)
    else if first = 'D' then some ("Deleted (Staged)", some .staged)
    else if second = 'D' then some ("Deleted", some .deleted)
    else if code = "R ".toList then some ("Renamed (Staged)", some .staged)
    else if second = 'R' then some ("Renamed", some .modified)
    else some ("Status: " ++ code, none)
  | _ => none

/-- What a command prints in the directory of a repository, and the files that it leaves; without a
directory it does not run, and the second text says why. -/
def run (shell : Shell) (t : FileTree) (dir command : Text) : (Option Text × Text) × FileTree :=
  match t.find dir with
  | .ok (.occupied place .directory) =>
    if t.allows place .search then
      let (answer, left) := shell command { t with workDir := place }
      ((some (Answer.received answer.out), Answer.received answer.err),
        { left with workDir := t.workDir })
    else ((none, PathFault.message ⟨.denied, dir⟩), t)
  | .ok (.occupied _ (.file _)) => ((none, PathFault.message ⟨.notDirectory, dir⟩), t)
  | _ => ((none, "No repository selected or path doesn't exist"), t)

end JavaSketch.Git
