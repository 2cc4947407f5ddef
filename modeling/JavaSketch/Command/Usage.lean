import JavaSketch.Command.Options

/-!
The texts that explain how a program is called.
-/

namespace JavaSketch

namespace Opt

/-- A name with the word for the value. -/
def withValue (o : Opt) (name : Text) : Text :=
  match o.value with
  | some value => name ++ " " ++ value
  | none => name

def usage (o : Opt) : Text := "[" ++ o.withValue (o.names.headD []) ++ "]"

def heading (o : Opt) : Text := Text.join ", " (o.names.map o.withValue)

end Opt

namespace Usage

/-- Lines have at most this many columns. -/
def width : Nat := 78

/-- Help on an entry begins at this column. -/
def helpColumn : Nat := 24

/-- Words joined by spaces, in lines that are no wider than allowed after the given number of
columns. -/
def fill (column : Nat) : List Text → List (List Text)
  | [] => []
  | words => go column [] words
where
  go (used : Nat) (line : List Text) : List Text → List (List Text)
    | [] => if line.isEmpty then [] else [line]
    | word :: rest =>
      if width < used + word.length && !line.isEmpty then
        line :: go (column + word.length + 1) [word] rest
      else go (used + word.length + 1) (line ++ [word]) rest

/-- The indentation of all lines of a usage but the first. -/
def margin (i : Interface) : Nat := 7 + i.program.length + 1

/-- The usage of a program: options, and then the input on a line of its own. -/
def lines (i : Interface) : List Text :=
  let indentation := List.replicate (margin i) ' '
  let filled := fill (margin i) (i.options.map Opt.usage)
  let options := filled.map (Text.join " ")
  match options with
  | first :: rest =>
    ("usage: " ++ i.program ++ " " ++ first) :: rest.map (indentation ++ ·) ++
      [indentation ++ "[input]"]
  | [] => ["usage: " ++ i.program ++ " [input]"]

/-- An entry of the help: what is written, and what it means. -/
def entry (heading help : Text) : List Text :=
  if heading.length + 4 ≤ helpColumn then
    ["  " ++ heading ++ List.replicate (helpColumn - 2 - heading.length) ' ' ++ help]
  else ["  " ++ heading, List.replicate helpColumn ' ' ++ help]

def purpose : List Text := ["", "Pseudo Java Language Parser - Convert pseudo-Java to Java", ""]

def help (i : Interface) : List Text :=
  lines i ++ purpose ++ ["positional arguments:".toList] ++
    entry "input" "Input pseudo-Java file (.pj)" ++ [[], "options:".toList] ++
    (i.options.flatMap fun o => entry o.heading o.help) ++ [[]] ++ i.epilog

end Usage

namespace ArgStop

def message : ArgStop → Text
  | help | version => []
  | unrecognized arguments => "unrecognized arguments: " ++ Text.join " " arguments
  | ambiguous s names => "ambiguous option: " ++ s ++ " could match " ++ Text.join ", " names
  | noValue label => "argument " ++ label ++ ": expected one argument"
  | unwantedValue label value =>
    "argument " ++ label ++ ": ignored explicit argument " ++ value.shown

/-- Help and the version are asked for; all else is an error. -/
def exitCode : ArgStop → Nat
  | help | version => 0
  | _ => 2

/-- What is printed, to the standard and to the error channel. -/
def printed (i : Interface) : ArgStop → List Text × List Text
  | help => (Usage.help i, [])
  | version => ([i.version], [])
  | stop => ([], Usage.lines i ++ [i.program ++ ": error: " ++ stop.message])

end ArgStop

end JavaSketch
