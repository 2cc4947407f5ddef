import JavaSketch.Command.Current
import JavaSketch.Proofs.Consumption
import JavaSketch.Proofs.WrittenFiles

namespace JavaSketch

open DeskM

namespace Filing

variable {notes : Bool} {path s : Text} {d : Desk} {u : FileTree} {fault : PathFault}

theorem read_prints (h : d.files.readText path = .ok s) : Prints (read notes path) d (.ok s) := by
  obtain ⟨out, hnote⟩ := Prints.note (ε := FilingError) notes ("Successfully read file: " ++ path) d
  refine ⟨out, ?_⟩
  rw [read, files_bind, h]
  exact bind_of_ok hnote

theorem read_prints_of_error (h : d.files.readText path = .error fault) :
    Prints (read notes path) d (.error (.reading fault)) := by
  refine ⟨d.out, ?_⟩
  rw [read, files_bind, h]
  rfl

theorem write_of_none (notes : Bool) (h : writeTo d.files path s = (u, none)) :
    ∃ out, write notes path s d = (.ok (), { d with files := u, out }) := by
  obtain ⟨out, hnote⟩ := Prints.note (ε := FilingError) notes ("Successfully wrote file: " ++ path)
    { d with files := u }
  refine ⟨out, ?_⟩
  rw [write, files_bind, h]
  exact hnote

theorem write_of_some (notes : Bool) (h : writeTo d.files path s = (u, some fault)) :
    write notes path s d = (.error (.writing path fault), { d with files := u }) := by
  rw [write, files_bind, h]
  rfl

end Filing

namespace JavaTools

variable {ε : Type} {box : Toolbox} {javac : Tool}

/-- There is a compiler, and it takes the Java file without complaint. -/
def Compiles (box : Toolbox) (path : Text) (t u : FileTree) : Prop :=
  ∃ javac, box.javac = some javac ∧ (javac [path] t).1.exit = 0 ∧ u = (javac [path] t).2

theorem Compiles.unique {path : Text} {t u u' : FileTree}
    (h : Compiles box path t u) (h' : Compiles box path t u') : u = u' := by
  obtain ⟨javac, hjavac, -, rfl⟩ := h
  obtain ⟨other, hother, -, rfl⟩ := h'
  cases hjavac.symm.trans hother
  rfl

/-- There is a class file, and a runtime that is called for it. How the program exits does not
matter. -/
def Starts (box : Toolbox) (path : Text) (t u : FileTree) : Prop :=
  ∃ java, box.java = some java ∧ t.exists? (classFile path).toText = true ∧
    u = (java (runArguments path) t).2

theorem check_prints (notes : Bool) (box : Toolbox) (d : Desk) :
    Prints (check notes box : DeskM ε (Bool × Bool)) d
      (.ok (box.javac.isSome, box.java.isSome)) := by
  apply (Prints.note _ _ d).bind
  intro out
  apply (Prints.note _ _ _).bind
  intro out
  exact Prints.pure _ _

theorem sayText_prints (s : Text) (d : Desk) : Prints (sayText s : DeskM ε Unit) d (.ok ()) := by
  rw [sayText]
  split_ifs
  · exact .pure _ _
  · exact .say _ _

theorem call_leaves (work : FileTree → Answer × FileTree) (d : Desk) :
    Leaves (call work : DeskM ε Answer) d (work d.files).2 (.ok (work d.files).1) :=
  ⟨d.out, rfl⟩

theorem compile_leaves (notes : Bool) (path : Text) (d : Desk) (h : box.javac = some javac) :
    Leaves (compile notes box path) d (javac [path] d.files).2
      (.ok (decide ((javac [path] d.files).1.exit = 0))) := by
  apply (check_prints notes box d).bind
  intro out
  simp only [h]
  apply (Prints.note _ _ _).bind
  intro out
  apply (call_leaves _ _).bind
  intro out
  by_cases hexit : (javac [path] d.files).1.exit = 0
  · rw [if_pos hexit, decide_eq_true hexit]
    apply (Prints.note _ _ _).bind
    intro out
    exact Prints.pure _ _
  · rw [if_neg hexit, decide_eq_false hexit]
    apply (Prints.say _ _).bind
    intro out
    apply (sayText_prints _ _).bind
    intro out
    apply (sayText_prints _ _).bind
    intro out
    exact Prints.pure _ _

theorem compile_cases (notes : Bool) (box : Toolbox) (path : Text) (d : Desk) :
    (∃ u, Compiles box path d.files u ∧ Leaves (compile notes box path) d u (.ok true)) ∨
      (∀ u, ¬Compiles box path d.files u) ∧
        ((∃ u, Leaves (compile notes box path) d u (.ok false)) ∨
          ∃ e, Prints (compile notes box path) d (.error e)) := by
  cases h : box.javac with
  | none =>
    refine .inr ⟨?_, .inr ⟨.noCompiler, ?_⟩⟩
    · rintro u ⟨javac, hjavac, -⟩
      rw [h] at hjavac
      cases hjavac
    · apply (check_prints notes box d).bind
      intro out
      simp only [h]
      exact Prints.throw _ _
  | some javac =>
    have hleaves := compile_leaves notes path d h
    by_cases hexit : (javac [path] d.files).1.exit = 0
    · rw [decide_eq_true hexit] at hleaves
      exact .inl ⟨_, ⟨javac, h, hexit, rfl⟩, hleaves⟩
    · rw [decide_eq_false hexit] at hleaves
      refine .inr ⟨?_, .inl ⟨_, hleaves⟩⟩
      rintro u ⟨other, hother, hzero, -⟩
      rw [h] at hother
      cases hother
      exact hexit hzero

/-- The exit code of the program that is run becomes a result; it is never a failure. -/
theorem run_cases (notes : Bool) (box : Toolbox) (path : Text) (d : Desk) :
    (∃ u ended, Starts box path d.files u ∧ Leaves (run notes box path) d u (.ok ended)) ∨
      (∀ u, ¬Starts box path d.files u) ∧ ∃ e, Prints (run notes box path) d (.error e) := by
  cases h : box.java with
  | none =>
    refine .inr ⟨?_, .noRuntime, ?_⟩
    · rintro u ⟨java, hjava, -⟩
      rw [h] at hjava
      cases hjava
    · apply (check_prints notes box d).bind
      intro out
      simp only [h]
      exact Prints.throw _ _
  | some java =>
    cases hf : d.files.exists? (classFile path).toText with
    | false =>
      refine .inr ⟨?_, .noClassFile (classFile path).toText, ?_⟩
      · rintro u ⟨_, -, hclass, -⟩
        exact Bool.false_ne_true (hf.symm.trans hclass)
      · apply (check_prints notes box d).bind
        intro out
        simp only [h]
        apply (Prints.files _).bind
        intro out
        rw [hf]
        exact (Prints.throw _ _).bind_error
    | true =>
      refine .inl
        ⟨_, decide ((java (runArguments path) d.files).1.exit = 0), ⟨java, h, hf, rfl⟩, ?_⟩
      apply (check_prints notes box d).bind
      intro out
      simp only [h]
      apply (Prints.files _).bind
      intro out
      rw [hf]
      apply (Prints.note _ _ _).bind
      intro out
      apply (call_leaves _ _).bind
      intro out
      exact Prints.pure _ _

end JavaTools

theorem SelfTest.failures_ne_zero : failures ≠ 0 := by
  have hmem : (animal.title, animal.run) ∈ results := by
    apply List.mem_append_left
    exact List.mem_map_of_mem (.tail _ (.tail _ (.tail _ (.head _))))
  have hfails : isFailure (animal.title, animal.run) = true := by decide +kernel
  exact Nat.ne_of_gt (List.countP_pos_iff.2 ⟨_, hmem, hfails⟩)

namespace Command

variable {α : Type} {program input source : Text} {box : Toolbox} {env : Environment}
  {arguments : List Text} {o : Options} {d d' : Desk} {stop : Stop} {c : FileTree → Prop}
  {a : DeskM Stop α} {f : α → DeskM Stop Unit} {x : α}

/-- A run succeeds exactly under the condition, which is about the files at its end, and all its
failures have exit code one. -/
inductive Decided (c : FileTree → Prop) : Except Stop Unit × Desk → Prop
  | done {d : Desk} (met : c d.files) : Decided c (.ok (), d)
  | failed {stop : Stop} {d : Desk} (unmet : ∀ t, ¬c t) (code : exitCode stop = 1) :
    Decided c (.error stop, d)

namespace Decided

theorem congr {c' : FileTree → Prop} {r : Except Stop Unit × Desk} (h : Decided c r)
    (hc : ∀ t, c t ↔ c' t) : Decided c' r := by
  cases h with
  | done met => exact .done ((hc _).1 met)
  | failed unmet code => exact .failed (fun t ht => unmet t ((hc t).2 ht)) code

theorem after {t : FileTree} (ha : Leaves a d t (.ok x))
    (hf : ∀ out, Decided c (f x { d with files := t, out })) : Decided c ((a >>= f) d) := by
  obtain ⟨out, ha⟩ := ha
  rw [bind_of_ok ha]
  exact hf out

theorem after_error {t : FileTree} (ha : Leaves a d t (.error stop)) (unmet : ∀ t, ¬c t)
    (code : exitCode stop = 1) : Decided c ((a >>= f) d) := by
  obtain ⟨out, ha⟩ := ha
  rw [bind_of_error ha]
  exact .failed unmet code

end Decided

/-- From the files `t` to the files `u`, the Java file is compiled and, if it is to be run,
started. -/
def Builds (box : Toolbox) (o : Options) (path : Text) (t u : FileTree) : Prop :=
  ∃ compiled, JavaTools.Compiles box path t compiled ∧
    if o.run then JavaTools.Starts box path compiled u else u = compiled

theorem build_decided (box : Toolbox) (o : Options) (path : Text) (d : Desk) :
    Decided (Builds box o path d.files) (build box o path d) := by
  rcases JavaTools.compile_cases o.verbose box path d with
    ⟨compiled, hc, hcompile⟩ | ⟨hc, ⟨t, hcompile⟩ | ⟨e, hcompile⟩⟩
  · apply Decided.after hcompile.mapError_ok
    intro out
    apply Decided.after (Prints.say _ _)
    intro out
    cases hrun : o.run with
    | false =>
      apply Decided.done
      refine ⟨compiled, hc, ?_⟩
      rw [hrun]
      rfl
    | true =>
      rcases JavaTools.run_cases o.verbose box path { d with files := compiled, out } with
        ⟨u, ended, hs, hr⟩ | ⟨hs, e, hr⟩
      · apply Decided.after hr.mapError_ok
        intro out
        refine .done ⟨compiled, hc, ?_⟩
        rw [hrun]
        exact hs
      · apply Decided.after_error hr.mapError_error _ rfl
        rintro u ⟨other, hother, hu⟩
        rw [hrun, hother.unique hc] at hu
        exact hs u hu
  · apply Decided.after hcompile.mapError_ok
    intro out
    exact .failed (fun u h => hc _ h.choose_spec.1) rfl
  · exact .after_error hcompile.mapError_error (fun u h => hc _ h.choose_spec.1) rfl

theorem write_decided {notes : Bool} {path s : Text} {rest : Unit → DeskM Stop Unit}
    {c : FileTree → FileTree → Prop} (hrest : ∀ d', Decided (c d'.files) (rest () d')) :
    Decided (fun u => ∃ w, Filing.writeTo d.files path s = (w, none) ∧ c w u)
      ((mapError Stop.filing (Filing.write notes path s) >>= rest) d) := by
  cases hw : Filing.writeTo d.files path s with
  | mk w fault? =>
    cases fault? with
    | some fault =>
      rw [bind_of_error (mapError_of_error (Filing.write_of_some notes hw))]
      apply Decided.failed _ rfl
      rintro t ⟨w, h, -⟩
      cases h
    | none =>
      obtain ⟨out, hwrite⟩ := Filing.write_of_none notes hw
      rw [bind_of_ok (mapError_of_ok hwrite)]
      apply (hrest _).congr
      intro u
      constructor
      · intro h
        exact ⟨w, rfl, h⟩
      · rintro ⟨w', h, hc⟩
        cases h
        exact hc

/-- The path that the Java of a program is written to. -/
def javaPath (o : Options) (p : Program) : Text :=
  Filing.outputPath p.name o.output.value? o.outputDir.value?

/-- From the files `w` to the files `u`, a Java file is built as far as this is asked for. -/
def Finishes (box : Toolbox) (o : Options) (path : Text) (w u : FileTree) : Prop :=
  if o.compile || o.run then Builds box o path w u else u = w

/-- From the files `t` to the files `u`, a run comes through all the stages that it is asked for; on
its way it leaves the files `w`, with the Java file. -/
structure Completes (box : Toolbox) (o : Options) (input : Text) (t w u : FileTree) (source : Text)
    (p : Program) : Prop where
  read : t.readText input = .ok source
  parsed : Program.read Vocabulary.standard source = .ok p
  written : Filing.writeTo t (javaPath o p) p.toJava = (w, none)
  finished : Finishes box o (javaPath o p) w u

theorem Completes.holds {t w u : FileTree} {p : Program}
    (h : Completes box o input t w u source p) :
    ∃ place, t.Holds w (javaPath o p) (.text p.toJava) place := by
  rcases Filing.holds_or_grown t (javaPath o p) p.toJava with ⟨place, hplace⟩ | ⟨hfault, -⟩
  · rw [h.written] at hplace
    exact ⟨place, hplace⟩
  · rw [h.written] at hfault
    exact absurd rfl hfault

theorem process_decided (box : Toolbox) (o : Options) (input : Text) (d : Desk) :
    Decided (fun u => ∃ w source p, Completes box o input d.files w u source p)
      (process box o input d) := by
  cases hread : d.files.readText input with
  | error fault =>
    apply Decided.after_error (Filing.read_prints_of_error hread).mapError_error _ rfl
    rintro t ⟨w, source, p, h⟩
    cases hread.symm.trans h.read
  | ok source =>
    apply Decided.after (Filing.read_prints hread).mapError_ok
    intro out
    apply Decided.after (Prints.note _ _ _)
    intro out
    cases hparse : Program.read Vocabulary.standard source with
    | error fault =>
      apply Decided.failed _ rfl
      rintro t ⟨w, other, p, h⟩
      cases hread.symm.trans h.read
      cases hparse.symm.trans h.parsed
    | ok p =>
      have hfinal (u : FileTree) :
          (∃ w, Filing.writeTo d.files (javaPath o p) p.toJava = (w, none) ∧
            Finishes box o (javaPath o p) w u) ↔
          ∃ w source p, Completes box o input d.files w u source p := by
        constructor
        · rintro ⟨w, hw, hu⟩
          exact ⟨w, source, p, hread, hparse, hw, hu⟩
        · rintro ⟨w, other, q, h⟩
          cases hread.symm.trans h.read
          cases hparse.symm.trans h.parsed
          exact ⟨w, h.written, h.finished⟩
      refine Decided.congr ?_ hfinal
      apply write_decided (d := { d with out })
      intro d'
      apply Decided.after (Prints.say _ _)
      intro out
      by_cases hbuild : (o.compile || o.run) = true
      · rw [if_pos hbuild]
        apply (build_decided box o _ _).congr
        intro u
        rw [Finishes, if_pos hbuild]
        rfl
      · rw [if_neg hbuild]
        apply Decided.done
        rw [Finishes, if_neg hbuild]

theorem say_all (lines : List Text) (d : Desk) :
    ∃ d', lines.forM (say : Text → DeskM Stop Unit) d = (.ok (), d') :=
  forM_ok (fun _ _ => ⟨_, rfl⟩) lines d

theorem execute_of_test (program : Text) (box : Toolbox) (d : Desk) (ht : o.test = true) :
    ∃ d', execute program box o d = (.error (.exit 1), d') := by
  obtain ⟨d', hreport⟩ := say_all SelfTest.report d
  refine ⟨d', ?_⟩
  rw [execute, if_pos ht, bind_of_ok hreport, if_pos SelfTest.failures_ne_zero]
  rfl

theorem execute_of_no_input (program : Text) (box : Toolbox) (d : Desk) (ht : o.test = false)
    (hi : o.input.getD [] = []) : ∃ d', execute program box o d = (.error (.exit 1), d') := by
  obtain ⟨d', hhelp⟩ := say_all (Usage.help (interface program)) d
  refine ⟨d', ?_⟩
  rw [execute, if_neg (Bool.eq_false_iff.1 ht)]
  cases hinput : o.input with
  | none => exact bind_of_ok hhelp
  | some input =>
    rw [hinput] at hi
    obtain rfl : input = [] := hi
    exact bind_of_ok hhelp

theorem execute_of_input (program : Text) (box : Toolbox) (ht : o.test = false)
    (hi : o.input = some input) (hn : input ≠ []) :
    execute program box o = process box o input := by
  rw [execute, if_neg (Bool.eq_false_iff.1 ht), hi]
  cases input with
  | nil => exact absurd rfl hn
  | cons c path => rfl

theorem ne_nil_of_readText {t : FileTree} (h : t.readText input = .ok source) : input ≠ [] := by
  rintro rfl
  cases h

theorem execute_decided (program : Text) (box : Toolbox) (o : Options) (d : Desk) :
    Decided (fun u => o.test = false ∧ ∃ input w source p, o.input = some input ∧
      Completes box o input d.files w u source p) (execute program box o d) := by
  by_cases ht : o.test = true
  · obtain ⟨d', he⟩ := execute_of_test program box d ht
    rw [he]
    exact .failed (fun t h => Bool.false_ne_true (h.1.symm.trans ht)) rfl
  rw [Bool.not_eq_true] at ht
  by_cases hn : o.input.getD [] = []
  · obtain ⟨d', he⟩ := execute_of_no_input program box d ht hn
    rw [he]
    apply Decided.failed _ rfl
    rintro t ⟨-, input, w, source, p, hi, h⟩
    rw [hi] at hn
    exact ne_nil_of_readText h.read hn
  · cases hi : o.input with
    | none =>
      rw [hi] at hn
      exact absurd rfl hn
    | some input =>
      rw [hi] at hn
      rw [execute_of_input program box ht hi hn]
      apply (process_decided box o input d).congr
      intro t
      constructor
      · rintro ⟨w, source, p, h⟩
        exact ⟨ht, input, w, source, p, rfl, h⟩
      · rintro ⟨-, other, w, source, p, hother, h⟩
        cases hother
        exact ⟨w, source, p, h⟩

/-- What a failure adds to the error channel. -/
def report (stop : Stop) : Text := ((failureLine stop).map (· ++ ['\n'])).getD []

theorem readOptions_of_ok (ho : Options.read (interface program) arguments = .ok o) :
    readOptions program env arguments d = (.ok (env.adjust o), d) := by
  rw [readOptions, ho]
  rfl

theorem run_of_ok (ho : Options.read (interface program) arguments = .ok o)
    (h : execute program box (env.adjust o) d = (.ok (), d')) :
    run program box env arguments d = (0, d') := by
  simp only [run, bind_of_ok (readOptions_of_ok ho), h]

theorem run_of_error (ho : Options.read (interface program) arguments = .ok o)
    (h : execute program box (env.adjust o) d = (.error stop, d')) :
    run program box env arguments d =
      (exitCode stop, { d' with err := d'.err ++ report stop }) := by
  simp only [run, bind_of_ok (readOptions_of_ok ho), h, report]
  cases failureLine stop with
  | none => simp only [Option.map_none, Option.getD_none, List.append_nil]
  | some line => simp only [Option.map_some, Option.getD_some, List.append_assoc]

/-- A run that ends at its options exits as they ask for. -/
theorem run_of_stop {asked : ArgStop}
    (ho : Options.read (interface program) arguments = .error asked) :
    (run program box env arguments d).1 = asked.exitCode := by
  have hread : ∃ d', readOptions program env arguments d = (.error (.exit asked.exitCode), d') := by
    obtain ⟨d₁, h₁⟩ := say_all (asked.printed (interface program)).1 d
    obtain ⟨d₂, h₂⟩ := forM_ok (f := (complain : Text → DeskM Stop Unit)) (fun _ _ => ⟨_, rfl⟩)
      (asked.printed (interface program)).2 d₁
    refine ⟨d₂, ?_⟩
    rw [readOptions, ho]
    exact (bind_of_ok h₁).trans (bind_of_ok h₂)
  obtain ⟨d', hread⟩ := hread
  simp only [run, bind_of_error hread]
  rfl

/-- A sketch that is refused ends a run with exit code one and with a line on the error channel,
and the files are as they were, whatever the options and the environment ask for. -/
theorem run_of_refused (program input source : Text) (box : Toolbox) (env : Environment)
    (arguments : List Text) (o : Options) (d : Desk) (fault : Fault)
    (ho : Options.read (interface program) arguments = .ok o) (ht : o.test = false)
    (hi : o.input = some input) (hs : d.files.readText input = .ok source)
    (hp : Program.read Vocabulary.standard source = .error fault) :
    let left := run program box env arguments d
    left.1 = 1 ∧ left.2.files = d.files ∧
      left.2.err = d.err ++ ("Pseudo Java Error: " ++ fault.message ++ ['\n']) := by
  have hprints : Prints (process box (env.adjust o) input) d (.error (.reading fault)) := by
    apply (Filing.read_prints hs).mapError_ok.bind
    intro out
    apply (Prints.note _ _ _).bind
    intro out
    rw [hp]
    exact Prints.throw _ _
  obtain ⟨out, hprocess⟩ := hprints
  have hexecute := execute_of_input (o := env.adjust o) program box ht hi (ne_nil_of_readText hs)
  have hrun := run_of_error ho ((congrFun hexecute d).trans hprocess)
  have hrefusal : fault.isRefusal = true := by
    have hyields := Program.read_yields .standard source
    rw [hp] at hyields
    exact hyields.1
  have hreport : report (.reading fault) = "Pseudo Java Error: " ++ fault.message ++ ['\n'] := by
    simp only [report, failureLine, hrefusal, ↓reduceIte, Option.map_some, Option.getD_some]
  rw [hrun, hreport]
  exact ⟨rfl, rfl, rfl⟩

theorem run_of_refused_with_all_options :
    let source : Text := "main\n    var x"
    let d : Desk := { files := FileTree.empty.put ["work", "a.pj"] (.file (.text source)) }
    let quiet : Tool := fun _ t => ({}, t)
    let box : Toolbox := { javac := some quiet, java := some quiet }
    let arguments : List Text :=
      ["a.pj", "-o", "out/X.java", "--output-dir", "gen", "--compile", "-rv"]
    let left := run "javax_parser.py" box ⟨some "1", some "elsewhere"⟩ arguments d
    left.1 = 1 ∧ left.2.files = d.files ∧
      left.2.err = d.err ++ ("Pseudo Java Error: " ++
        Fault.message (.uninitialized "var x" false) ++ ['\n']) := by
  intro source d quiet box arguments
  apply run_of_refused "javax_parser.py" "a.pj" source box _ arguments
    { input := some "a.pj", output := .set "out/X.java", outputDir := .set "gen", compile := true,
      run := true, verbose := true } d
  · decide +kernel
  · rfl
  · rfl
  · decide +kernel
  · decide +kernel

theorem exitCode_eq_zero_iff {asked : ArgStop} :
    asked.exitCode = 0 ↔ asked = .help ∨ asked = .version := by
  cases asked with
  | help => simp [ArgStop.exitCode]
  | version => simp [ArgStop.exitCode]
  | unrecognized => simp [ArgStop.exitCode]
  | ambiguous => simp [ArgStop.exitCode]
  | noValue => simp [ArgStop.exitCode]
  | unwantedValue => simp [ArgStop.exitCode]

theorem exit_zero_of_ok (ho : Options.read (interface program) arguments = .ok o) :
    (run program box env arguments d).1 = 0 ↔
      o.test = false ∧ ∃ input w source p, o.input = some input ∧
        Completes box (env.adjust o) input d.files w (run program box env arguments d).2.files
          source
          p := by
  have hdecided := execute_decided program box (env.adjust o) d
  cases hexecute : execute program box (env.adjust o) d with
  | mk res d' =>
    rw [hexecute] at hdecided
    cases hdecided with
    | done met =>
      rw [run_of_ok ho hexecute]
      exact iff_of_true rfl met
    | failed unmet code =>
      rw [run_of_error ho hexecute, code]
      exact iff_of_false Nat.one_ne_zero (unmet _)

/-- A run exits with zero exactly if it was asked for help or for the version, or if it came through
all stages: the sketch was read, its Java was written and, as far as this was asked for, compiled
and started. How the started program exits is not asked. What the Java file holds when it is
written is the Java of the program. -/
theorem exit_zero_iff (program : Text) (box : Toolbox) (env : Environment)
    (arguments : List Text) (d : Desk) :
    let asked := Options.read (interface program) arguments
    let left := run program box env arguments d
    left.1 = 0 ↔ asked = .error .help ∨ asked = .error .version ∨
      ∃ o input w source p, asked = .ok o ∧ o.test = false ∧ o.input = some input ∧
        Completes box (env.adjust o) input d.files w left.2.files source p ∧
        ∃ place, d.files.Holds w (javaPath (env.adjust o) p) (.text p.toJava) place := by
  intro asked left
  cases hasked : asked with
  | error stop =>
    have hcode : left.1 = stop.exitCode := run_of_stop hasked
    rw [hcode, exitCode_eq_zero_iff]
    simp
  | ok o =>
    have hzero : left.1 = 0 ↔ _ := exit_zero_of_ok hasked
    rw [hzero]
    constructor
    · rintro ⟨ht, input, w, source, p, hi, h⟩
      exact .inr (.inr ⟨o, input, w, source, p, rfl, ht, hi, h, h.holds⟩)
    · rintro (h | h | ⟨o', input, w, source, p, h, ht, hi, hc, -⟩)
      · cases h
      · cases h
      · cases h
        exact ⟨ht, input, w, source, p, hi, hc⟩

theorem exit_zero_of_failing_program :
    let source : Text := "program A\nmain\n    x()"
    let d : Desk := { files := FileTree.empty.put ["work", "a.pj"] (.file (.text source)) }
    let javac : Tool := fun _ t => ({}, t.put ["work", "A.class"] (.file (.text [])))
    let box : Toolbox := { javac := some javac, java := some fun _ t => ({ exit := 3 }, t) }
    let left := run "javax_parser.py" box {} ["a.pj", "-r"] d
    left.1 = 0 ∧ ∃ (w : FileTree) (p : Program) (place : Location),
      d.files.Holds w (p.name ++ ".java") (.text p.toJava) place ∧
        Finishes box { run := true } (p.name ++ ".java") w left.2.files := by
  intro source d javac box left
  have hzero : left.1 = 0 := by decide +kernel
  have hread : Options.read (interface "javax_parser.py") ["a.pj", "-r"] =
      .ok { input := some "a.pj", run := true } := by decide +kernel
  refine ⟨hzero, ?_⟩
  rcases (exit_zero_iff "javax_parser.py" box {} ["a.pj", "-r"] d).1 hzero with
    h | h | ⟨o, input, w, source, p, ho, -, -, hcompletes, place, hplace⟩
  · cases hread.symm.trans h
  · cases hread.symm.trans h
  · cases hread.symm.trans ho
    exact ⟨w, p, place, hplace, hcompletes.finished⟩

end Command

end JavaSketch
