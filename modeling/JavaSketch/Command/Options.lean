import JavaSketch.Text.Digit
import JavaSketch.Text.Quote

/-!
Command lines: the options that a program has, and what a list of arguments asks for.
-/

namespace JavaSketch

/-- What an option is for. -/
inductive Purpose
  | help
  | output
  | outputDir
  | compile
  | run
  | verbose
  | test
  | version
  deriving DecidableEq, Repr

/-- An option: its names, the word for its value if it takes one, and what help says about it. -/
structure Opt where
  purpose : Purpose
  names : List Text
  value : Option Text
  help : Text

namespace Opt

def takesValue (o : Opt) : Bool := o.value.isSome

/-- The names of an option in messages. -/
def label (o : Opt) : Text := Text.join "/" o.names

def helpOpt : Opt := ⟨.help, ["-h", "--help"], none, "show this help message and exit"⟩
def output : Opt := ⟨.output, ["-o", "--output"], some "OUTPUT", "Output Java file"⟩
def outputDir : Opt :=
  ⟨.outputDir, ["--output-dir"], some "OUTPUT_DIR", "Output directory for Java files"⟩
def compile : Opt := ⟨.compile, ["-c", "--compile"], none, "Compile generated Java code"⟩
def run : Opt := ⟨.run, ["-r", "--run"], none, "Compile and run the generated Java code"⟩
def verbose : Opt := ⟨.verbose, ["-v", "--verbose"], none, "Verbose output"⟩
def test : Opt := ⟨.test, ["--test"], none, "Run built-in test"⟩
def version : Opt := ⟨.version, ["--version"], none, "show program's version number and exit"⟩

end Opt

/-- How a program is called. -/
structure Interface where
  program : Text
  options : List Opt
  version : Text
  epilog : List Text

/-- What an option that takes a value was set to. -/
inductive Setting
  | unset
  /-- Given as `--`, which is a mark and no value. -/
  | dropped
  | set (value : Text)
  deriving DecidableEq, Repr

namespace Setting

def ofValue : Option Text → Setting
  | none => unset
  | some value => if value = "--".toList then dropped else set value

def value? : Setting → Option Text
  | set value => some value
  | _ => none

end Setting

/-- What a command line asks for. -/
structure Options where
  input : Option Text := none
  output : Setting := .unset
  outputDir : Setting := .unset
  compile : Bool := false
  run : Bool := false
  verbose : Bool := false
  test : Bool := false
  deriving DecidableEq, Repr

/-- Why the reading of arguments ends before all are read. -/
inductive ArgStop
  | help
  | version
  | unrecognized (arguments : List Text)
  | ambiguous (argument : Text) (names : List Text)
  | noValue (label : Text)
  | unwantedValue (label value : Text)
  deriving DecidableEq, Repr

/-- An option that is named in an argument, with the text attached to it. -/
structure Mention where
  opt : Opt
  name : Text
  attached : Option Text

/-- An argument by itself. -/
inductive Arg
  | value (s : Text)
  /-- The first `--`, after which there are only values. -/
  | mark
  /-- An option; none if it is unknown. -/
  | option (mention : Option Mention) (s : Text)

/-- What one argument asks for: options without a value, and one more option, which may have a
value. -/
structure Request where
  flags : List Opt := []
  last : Opt
  value : Option Text := none

namespace Interface

/-- All names of options, with their options. -/
def names (i : Interface) : List (Text × Opt) := i.options.flatMap fun o => o.names.map (·, o)

def byName? (i : Interface) (name : Text) : Option Opt := i.names.lookup name

/-- The options that a long argument may abbreviate, with the value after an equals sign. -/
def abbreviated (i : Interface) (s : Text) : List Mention :=
  let (start, value) : Text × Option Text :=
    match Text.cut? "=" s with
    | some (start, value) => (start, some value)
    | none => (s, none)
  (i.names.filter (·.1.startsWith start)).map fun (name, o) => ⟨o, name, value⟩

/-- The options that a short argument may stand for: a letter with a value attached, or the start
of a name. -/
def shortened (i : Interface) (s : Text) : List Mention :=
  i.names.filterMap fun (name, o) =>
    if name = s.take 2 then some ⟨o, name, some (s.drop 2)⟩
    else if name.startsWith s then some ⟨o, name, none⟩
    else none

/-- An option that is named in full before an equals sign. -/
def assigned? (i : Interface) (s : Text) : Option Mention :=
  match Text.cut? "=" s with
  | some (name, value) => (i.byName? name).map (⟨·, name, some value⟩)
  | none => none

/-- Negative numbers are values. -/
def isNegativeNumber : Text → Bool
  | '-' :: s =>
    match Text.cut? "." s with
    | none => !s.isEmpty && s.all isDecimal
    | some (whole, part) => whole.all isDecimal && !part.isEmpty && part.all isDecimal
  | _ => false

/-- What an argument is before `--`. -/
def classify (i : Interface) (s : Text) : Except ArgStop Arg :=
  match s with
  | '-' :: c :: _ =>
    match (i.byName? s).map (⟨·, s, none⟩) <|> i.assigned? s with
    | some mention => .ok (.option (some mention) s)
    | none =>
      match if c = '-' then i.abbreviated s else i.shortened s with
      | [mention] => .ok (.option (some mention) s)
      | [] =>
        if isNegativeNumber s || s.includes " " then .ok (.value s) else .ok (.option none s)
      | several => .error (.ambiguous s (several.map (·.name)))
  | _ => .ok (.value s)

def classifyAll (i : Interface) : List Text → Except ArgStop (List Arg)
  | [] => .ok []
  | s :: rest =>
    if s = "--".toList then .ok (.mark :: rest.map .value)
    else do
      let a ← i.classify s
      let as ← i.classifyAll rest
      .ok (a :: as)

/-- What a text attached to an option asks for: its value or, after a short option without a value,
the letters of more options. -/
def attached (i : Interface) (short : Bool) (o : Opt) : Text → Except ArgStop Request
  | [] => if o.takesValue then .ok { last := o, value := some [] }
    else .error (.unwantedValue o.label [])
  | c :: s =>
    if o.takesValue then .ok { last := o, value := some (c :: s) }
    else
      match if short then i.byName? ['-', c] else none with
      | none => .error (.unwantedValue o.label (c :: s))
      | some next =>
        if s.isEmpty then .ok { flags := [o], last := next }
        else do
          let r ← i.attached true next s
          .ok { r with flags := o :: r.flags }

/-- What an argument that names an option asks for. -/
def request (i : Interface) (m : Mention) : Except ArgStop Request :=
  match m.attached with
  | none => .ok { last := m.opt }
  | some s => i.attached (!m.name.startsWith "--") m.opt s

end Interface

namespace Options

/-- Does what an option asks for. -/
def apply (options : Options) (o : Opt) (value : Option Text) : Except ArgStop Options :=
  match o.purpose with
  | .help => .error .help
  | .version => .error .version
  | .output => .ok { options with output := .ofValue value }
  | .outputDir => .ok { options with outputDir := .ofValue value }
  | .compile => .ok { options with compile := true }
  | .run => .ok { options with run := true }
  | .verbose => .ok { options with verbose := true }
  | .test => .ok { options with test := true }

def applyAll (options : Options) : List Opt → Except ArgStop Options
  | [] => .ok options
  | o :: os => do (← options.apply o none).applyAll os

/-- The texts of arguments that are left over. -/
def leftOver : List Arg → List Text
  | [] => []
  | .value s :: rest => s :: leftOver rest
  | .mark :: rest => "--" :: leftOver rest
  | .option _ s :: rest => s :: leftOver rest

/-- Reads arguments from the left. The first value is the input, unless it belongs to an option;
other values and unknown options are left over. -/
def readArgs (i : Interface) (options : Options) (taken : Bool) (extra : List Text) :
    List Arg → Except ArgStop (Options × List Text)
  | [] => .ok (options, extra)
  | .value s :: rest =>
    if taken then readArgs i options taken (extra ++ [s]) rest
    else
      match rest with
      | .mark :: rest => .ok ({ options with input := some s }, extra ++ leftOver rest)
      | rest => readArgs i { options with input := some s } true extra rest
  | .mark :: rest =>
    if taken then .ok (options, extra ++ leftOver (.mark :: rest))
    else
      match rest with
      | .value s :: rest => .ok ({ options with input := some s }, extra ++ leftOver rest)
      | rest => .ok (options, extra ++ leftOver rest)
  | .option none s :: rest => readArgs i options taken (extra ++ [s]) rest
  | .option (some mention) _ :: rest => do
    let r ← i.request mention
    if r.last.takesValue && r.value.isNone then
      match rest with
      | .value s :: rest =>
        readArgs i (← (← options.applyAll r.flags).apply r.last (some s)) taken extra rest
      | _ => .error (.noValue r.last.label)
    else readArgs i (← (← options.applyAll r.flags).apply r.last r.value) taken extra rest

/-- What the arguments of a program ask for. -/
def read (i : Interface) (arguments : List Text) : Except ArgStop Options := do
  let args ← i.classifyAll arguments
  let (options, extra) ← readArgs i {} false [] args
  if extra.isEmpty then .ok options else .error (.unrecognized extra)

end Options

end JavaSketch
