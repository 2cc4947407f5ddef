import JavaSketch.Command.Filing
import JavaSketch.Command.Tools
import JavaSketch.Command.Usage
import JavaSketch.Demo.Report

/-!
The command of an edition: it reads a sketch, writes its Java, and has the shell compile and run it.
-/

namespace JavaSketch

/-- An edition as a program. -/
structure Release where
  edition : Edition
  epilog : List Text
  /-- The name of the program in a source, by which the Java file is called. -/
  nameOf : Text → Except Fault Text
  /-- The Java file stands beside the sketch unless a directory is given. -/
  besideInput : Bool := false
  demo : Demo.Report

/-- How a command ends. -/
inductive Ending
  | exit (code : Nat)
  | breakdown (b : Demo.Breakdown)
  deriving DecidableEq, Repr

namespace Release

open DeskM

inductive Failure
  | exit (code : Nat)
  | filing (fault : PathFault)
  | reading (fault : Fault)

def options : List Opt :=
  [.helpOpt, .output, .outputDir, .compile, .run, .test, .verbose, .version]

def interface (r : Release) (program : Text) : Interface :=
  ⟨program, options, "Pseudo Java Parser 1.0", r.epilog⟩

def liftFault {α : Type} : Except Fault α → DeskM Failure α
  | .ok a => pure a
  | .error fault => throw (.reading fault)

/-- The path of the Java file. -/
def outputPath (r : Release) (o : Options) (input source : Text) : Except Fault Text :=
  match o.output.value? with
  | some (c :: path) => .ok (c :: path)
  | _ =>
    if r.besideInput && (o.outputDir.value?.getD []).isEmpty then
      .ok (Path.withoutExtension input ++ ".java")
    else (r.nameOf source).map fun name => Filing.outputPath name none o.outputDir.value?

/-- Makes the directory of a file, if there is none. -/
def prepareDirectory (notes : Bool) (path : Text) : DeskM Failure Unit := do
  let dir := Path.directory path
  let t ← files
  if dir.isEmpty || t.exists? dir then pure ()
  else
    let (t, fault?) := t.makeDirs false dir
    setFiles t
    match fault? with
    | some fault => throw (.filing fault)
    | none => note notes ("Created directory: " ++ dir)

def writeFile (path s : Text) : DeskM Failure Unit := do
  match (← files).putFile path (.text s) with
  | .ok t => setFiles t
  | .error fault => throw (.filing fault)

def compileCommand (path : Text) : Text := "javac " ++ path

/-- Runs a compiled program in the directory of its class. -/
def runCommand (path : Text) : Text :=
  let dir := Path.directory path
  "cd " ++ (if dir.isEmpty then ['.'] else dir) ++ " && java " ++
    Path.lastName (Path.withoutExtension path)

def runProgram (o : Options) (shell : Shell) (path : Text) : DeskM Failure Unit := do
  note o.verbose "Running Java program..."
  if (← JavaTools.call (shell (runCommand path))).exit ≠ 0 then
    complain "Runtime error occurred."
    throw (.exit 1)

def compileProgram (o : Options) (shell : Shell) (path : Text) : DeskM Failure Unit := do
  note o.verbose "Compiling Java code..."
  if (← JavaTools.call (shell (compileCommand path))).exit ≠ 0 then
    complain "Compilation failed!"
    throw (.exit 1)
  say "Compilation successful!"
  if o.run then runProgram o shell path

/-- Writes the Java of one sketch. -/
def process (r : Release) (shell : Shell) (o : Options) (input : Text) : DeskM Failure Unit := do
  match (← files).readText input with
  | .error fault => throw (.filing fault)
  | .ok source =>
    note o.verbose ("Reading pseudo-Java file: " ++ input)
    let java ← liftFault (r.edition.javaText source)
    let path ← liftFault (r.outputPath o input source)
    prepareDirectory o.verbose path
    writeFile path java
    say ("Generated Java code: " ++ path)
    if o.compile || o.run then compileProgram o shell path

/-- The line about a failure; a missing file has its own wording. -/
def failureLine : Failure → Option Text
  | .exit _ => none
  | .filing fault =>
    let kind : Text := if fault.cause = .missing then "Error: " else "Error processing file: "
    some (kind ++ fault.message)
  | .reading fault => some ("Error processing file: " ++ fault.message)

/-- Prints lines to the two channels. -/
def print {ε : Type} (out err : List Text) : DeskM ε Unit := do
  out.forM say
  err.forM complain

/-- What the command does once its options are known. -/
def execute (r : Release) (program : Text) (shell : Shell) (o : Options) : DeskM Ending Unit := do
  if o.test then
    print r.demo.lines []
    match r.demo.breakdown with
    | some b => throw (.breakdown b)
    | none => pure ()
  else
    match o.input with
    | none | some [] =>
      print (Usage.help (r.interface program)) []
      throw (.exit 1)
    | some input =>
      if !(← files).exists? input then
        complain ("Error: Input file '" ++ input ++ "' not found.")
        throw (.exit 1)
      fun d =>
        match r.process shell o input d with
        | (.ok a, d) => (.ok a, d)
        | (.error f, d) =>
          let report : DeskM Ending Unit := do
            match failureLine f with
            | some line => complain line
            | none => pure ()
            throw (.exit 1)
          report d

/-- The whole command, from its arguments. -/
def main (r : Release) (program : Text) (shell : Shell) (arguments : List Text) :
    DeskM Ending Unit :=
  match Options.read (r.interface program) arguments with
  | .ok o => r.execute program shell o
  | .error stop => do
    let (out, err) := stop.printed (r.interface program)
    print out err
    throw (.exit stop.exitCode)

/-- A demonstration by itself, which needs no shell. -/
def demonstrate (r : Release) : DeskM Ending Unit :=
  r.execute [] (fun _ t => ({}, t)) { test := true }

end Release

/-- How an action ended. -/
def Ending.of : Except Ending Unit → Ending
  | .ok () => .exit 0
  | .error e => e

end JavaSketch
