import JavaSketch.Command.Filing
import JavaSketch.Command.Tools
import JavaSketch.Command.Usage
import JavaSketch.Demo.SelfTest

/-!
The command of the language: it reads a sketch, writes its Java, and compiles and runs it.
-/

namespace JavaSketch

/-- The environment variables that change the options. -/
structure Environment where
  verbose : Option Text := none
  outputDir : Option Text := none
  deriving Repr

/-- Any value but `0` asks for notes; a directory counts unless one is given. -/
def Environment.adjust (env : Environment) (o : Options) : Options :=
  { o with
    verbose := o.verbose || env.verbose.getD ['0'] != ['0']
    outputDir :=
      match env.outputDir with
      | some (c :: dir) =>
        if (o.outputDir.value?.getD []).isEmpty then .set (c :: dir) else o.outputDir
      | _ => o.outputDir }

namespace Command

open DeskM

def epilog : List Text :=
  ["Examples:", "  javax_parser.py input.pj -o output.java",
   "  javax_parser.py input.pj --output-dir src/main/java",
   "  javax_parser.py input.pj --compile", "  javax_parser.py --test", "", "File Extensions:",
   "  .pj              Pseudo-Java source files", "", "Environment Variables:",
   "  JAVAX_VERBOSE=1    Enable verbose output by default",
   "  JAVAX_OUTPUT_DIR   Default output directory", "            "]

def interface (program : Text) : Interface :=
  ⟨program, [.helpOpt, .output, .outputDir, .compile, .run, .verbose, .test, .version],
   "Pseudo Java Parser 2.0 (Modular)", epilog⟩

/-- Why a command stops. -/
inductive Stop
  | exit (code : Nat)
  | filing (e : FilingError)
  | tool (e : ToolError)
  | reading (fault : Fault)
  deriving DecidableEq, Repr

/-- Reads the options and adjusts them to the environment. -/
def readOptions (program : Text) (env : Environment) (arguments : List Text) : DeskM Stop Options :=
  match Options.read (interface program) arguments with
  | .ok o => pure (env.adjust o)
  | .error stop => do
    let (out, err) := stop.printed (interface program)
    out.forM say
    err.forM complain
    throw (.exit stop.exitCode)

/-- Checks the options by themselves. Running needs compiling; without an input there is nothing
to do. -/
def validate {ε : Type} (o : Options) : DeskM ε (Bool × Options) := do
  let input := o.input.getD []
  if !input.isEmpty && !input.endsWith ".pj" then
    say ("Warning: Input file '" ++ input ++ "' does not have .pj extension")
  let o := { o with compile := o.compile || o.run }
  if input.isEmpty && !o.test then
    complain "Error: Input file is required unless using --test"
    return (false, o)
  else return (true, o)

/-- Compiles a Java file and, if asked for, runs it. -/
def build (box : Toolbox) (o : Options) (path : Text) : DeskM Stop Unit := do
  if ← mapError Stop.tool (JavaTools.compile o.verbose box path) then
    say "Compilation successful!"
    if o.run then
      let _ ← mapError Stop.tool (JavaTools.run o.verbose box path)
  else
    complain "Compilation failed!"
    throw (.exit 1)

/-- Writes the Java of one sketch. -/
def process (box : Toolbox) (o : Options) (input : Text) : DeskM Stop Unit := do
  let source ← mapError Stop.filing (Filing.read o.verbose input)
  note o.verbose ("Reading pseudo-Java file: " ++ input)
  match Program.read Vocabulary.standard source with
  | .error fault => throw (.reading fault)
  | .ok p =>
    let path := Filing.outputPath p.name o.output.value? o.outputDir.value?
    mapError Stop.filing (Filing.write o.verbose path p.toJava)
    say ("Generated Java code: " ++ path)
    if o.compile || o.run then build box o path

def execute (program : Text) (box : Toolbox) (o : Options) : DeskM Stop Unit := do
  if o.test then
    SelfTest.report.forM say
    if SelfTest.failures ≠ 0 then throw (.exit 1)
  else
    match o.input with
    | none | some [] =>
      (Usage.help (interface program)).forM say
      throw (.exit 1)
    | some input => process box o input

/-- The line about a failure. -/
def failureLine : Stop → Option Text
  | .exit _ => none
  | .filing e => some ("Pseudo Java Error: " ++ e.message)
  | .tool e => some ("Pseudo Java Error: " ++ e.message)
  | .reading fault =>
    let kind : Text := if fault.isRefusal then "Pseudo Java Error: " else "Unexpected error: "
    some (kind ++ fault.message)

def exitCode : Stop → Nat
  | .exit code => code
  | _ => 1

/-- The whole command: the exit code, and the desk as it leaves it. -/
def run (program : Text) (box : Toolbox) (env : Environment) (arguments : List Text) (d : Desk) :
    Nat × Desk :=
  let command : DeskM Stop Unit := do
    let o ← readOptions program env arguments
    execute program box o
  match command d with
  | (.ok (), d) => (0, d)
  | (.error stop, d) =>
    match failureLine stop with
    | some line => (exitCode stop, { d with err := d.err ++ line ++ ['\n'] })
    | none => (exitCode stop, d)

end Command

end JavaSketch
