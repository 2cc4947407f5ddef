import JavaSketch.Proofs.FileTrees
import JavaSketch.Proofs.LeadingComments
import JavaSketch.Proofs.ProgramNames

namespace JavaSketch

namespace NormalPath

variable {p file name : Text} {parts : List Text}

theorem name_ofText (h : Text.splitAt '/' p = parts ++ [file]) (hn : file ≠ [])
    (hdot : file ≠ ['.']) : (ofText p).name = file := by
  have hkeep : [file].filter (fun part : Text => part ≠ [] ∧ part ≠ ['.']) = [file] := by
    simp [hn, hdot]
  rw [NormalPath.name, ofText, h, List.filter_append, hkeep, List.getLastD_concat]

end NormalPath

namespace Filing

/-- The name of a Java file. -/
def javaFile (name : Text) : Text := name ++ ".java"

variable {name : Text}

theorem slash_notMem_javaFile (hn : IsName name) : '/' ∉ javaFile name := by
  rw [javaFile, List.mem_append, not_or]
  exact ⟨hn.notMem (by decide), by decide⟩

theorem javaFile_length (name : Text) : 5 ≤ (javaFile name).length := by
  rw [javaFile, List.length_append]
  exact Nat.le_add_left 5 _

theorem javaFile_ne {other : Text} (h : other.length < 5) : javaFile name ≠ other := by
  intro he
  have hl := javaFile_length name
  rw [he] at hl
  omega

/-- The parts of the path end in the name of the file. -/
theorem splitAt_outputPath (hn : IsName name) (dir : Option Text) :
    ∃ parts, Text.splitAt '/' (outputPath name none dir) = parts ++ [javaFile name] := by
  have hsplit : Text.splitAt '/' (javaFile name) = [javaFile name] :=
    Text.splitAt_of_notMem (slash_notMem_javaFile hn)
  cases dir with
  | none => exact ⟨[], hsplit⟩
  | some dir =>
    cases dir with
    | nil => exact ⟨[], hsplit⟩
    | cons c dir =>
      have hpath : outputPath name none (some (c :: dir)) = Path.join (c :: dir) (javaFile name) :=
        rfl
      rw [hpath]
      rcases Path.join_eq (List.cons_ne_nil c dir) (slash_notMem_javaFile hn) with
        ⟨front, -, hjoin⟩ | ⟨-, hjoin⟩
      · rw [hjoin, Text.splitAt_append_cons, hsplit]
        exact ⟨_, rfl⟩
      · rw [hjoin, Text.splitAt_append_cons, hsplit]
        exact ⟨_, rfl⟩

theorem stem_outputPath (hn : IsName name) (dir : Option Text) :
    (NormalPath.ofText (outputPath name none dir)).stem = name := by
  obtain ⟨parts, hparts⟩ := splitAt_outputPath hn dir
  have hname := NormalPath.name_ofText hparts (javaFile_ne (by decide)) (javaFile_ne (by decide))
  have hcut : Path.cutAtDot? (javaFile name) = some (name, "java".toList) := by
    have hreverse : (javaFile name).reverse = "avaj".toList ++ (".".toList ++ name.reverse) := by
      rw [javaFile, List.reverse_append]
      rfl
    have hdot : Text.cut? ".".toList ("avaj".toList ++ (".".toList ++ name.reverse)) =
        (Text.cut? ".".toList (".".toList ++ name.reverse)).map fun res =>
          ("avaj".toList ++ res.1, res.2) := Text.cut?_append (by decide)
    rw [Path.cutAtDot?, hreverse, hdot, Text.cut?_self (by decide)]
    simp
  rw [NormalPath.stem, NormalPath.stemAndSuffix, hname, hcut]
  cases hc : name with
  | nil => exact absurd hc hn.ne_nil
  | cons c before => rfl

end Filing

namespace DeskM

variable {ε ε' α β : Type} {a : DeskM ε α} {f : α → DeskM ε β} {g : ε → ε'} {d d' : Desk} {x : α}
  {y : β} {e : ε}

theorem bind_of_ok (h : a d = (.ok x, d')) : (a >>= f) d = f x d' := by
  have hb : (a >>= f) d = ExceptT.bindCont f (a d).1 (a d).2 := rfl
  rw [hb, h]
  rfl

theorem bind_of_error (h : a d = (.error e, d')) : (a >>= f) d = (.error e, d') := by
  have hb : (a >>= f) d = ExceptT.bindCont f (a d).1 (a d).2 := rfl
  rw [hb, h]
  rfl

theorem files_bind (f : FileTree → DeskM ε β) (d : Desk) : (files >>= f) d = f d.files d := rfl

/-- Whatever the action does, the files stay as they are. -/
def KeepsFiles (a : DeskM ε α) : Prop := ∀ d, (a d).2.files = d.files

namespace KeepsFiles

theorem grown (ha : KeepsFiles a) (d : Desk) : d.files.Grown (a d).2.files := by
  rw [ha]
  exact .refl _

theorem pure (x : α) : KeepsFiles (pure x : DeskM ε α) := fun _ => rfl

theorem say (line : Text) : KeepsFiles (say line : DeskM ε Unit) := fun _ => rfl

theorem complain (line : Text) : KeepsFiles (complain line : DeskM ε Unit) := fun _ => rfl

theorem note (wanted : Bool) (line : Text) : KeepsFiles (note wanted line : DeskM ε Unit) := by
  cases wanted with
  | false => exact pure ()
  | true => exact say line

end KeepsFiles

theorem mapError_of_ok {d' : Desk} (h : a d = (.ok x, d')) : mapError g a d = (.ok x, d') := by
  simp only [mapError, h]

theorem mapError_of_error {d' : Desk} (h : a d = (.error e, d')) :
    mapError g a d = (.error (g e), d') := by
  simp only [mapError, h]

theorem forM_ok {f : Text → DeskM ε Unit} (hf : ∀ line d, ∃ d', f line d = (.ok (), d'))
    (lines : List Text) (d : Desk) : ∃ d', lines.forM f d = (.ok (), d') := by
  induction lines generalizing d with
  | nil => exact ⟨d, rfl⟩
  | cons line rest ih =>
    obtain ⟨d₁, h₁⟩ := hf line d
    obtain ⟨d₂, h₂⟩ := ih d₁
    exact ⟨d₂, (bind_of_ok h₁).trans h₂⟩

/-- The action has the given outcome and leaves the given files. It prints to the standard channel
only. -/
def Leaves (a : DeskM ε α) (d : Desk) (t : FileTree) (res : Except ε α) : Prop :=
  ∃ out, a d = (res, { d with files := t, out })

namespace Leaves

variable {t u : FileTree} {res : Except ε β}

theorem bind (ha : Leaves a d t (.ok x))
    (hf : ∀ out, Leaves (f x) { d with files := t, out } u res) :
    Leaves (a >>= f) d u res := by
  obtain ⟨out, ha⟩ := ha
  obtain ⟨out', hf⟩ := hf out
  exact ⟨out', (bind_of_ok ha).trans hf⟩

theorem bind_error (ha : Leaves a d t (.error e)) : Leaves (a >>= f) d t (.error e) := by
  obtain ⟨out, ha⟩ := ha
  exact ⟨out, bind_of_error ha⟩

theorem mapError_ok (ha : Leaves a d t (.ok x)) : Leaves (mapError g a) d t (.ok x) := by
  obtain ⟨out, ha⟩ := ha
  exact ⟨out, mapError_of_ok ha⟩

theorem mapError_error (ha : Leaves a d t (.error e)) :
    Leaves (mapError g a) d t (.error (g e)) := by
  obtain ⟨out, ha⟩ := ha
  exact ⟨out, mapError_of_error ha⟩

end Leaves

/-- The action only prints. -/
abbrev Prints (a : DeskM ε α) (d : Desk) (res : Except ε α) : Prop := Leaves a d d.files res

namespace Prints

theorem pure (x : α) (d : Desk) : Prints (pure x : DeskM ε α) d (.ok x) := ⟨d.out, rfl⟩

theorem throw (e : ε) (d : Desk) : Prints (throw e : DeskM ε α) d (.error e) := ⟨d.out, rfl⟩

theorem say (line : Text) (d : Desk) : Prints (say line : DeskM ε Unit) d (.ok ()) := ⟨_, rfl⟩

theorem note (wanted : Bool) (line : Text) (d : Desk) :
    Prints (note wanted line : DeskM ε Unit) d (.ok ()) := by
  cases wanted with
  | false => exact pure () d
  | true => exact say line d

theorem files (d : Desk) : Prints (files : DeskM ε FileTree) d (.ok d.files) := ⟨d.out, rfl⟩

end Prints

/-- What a run on a tree ends with: a file was put at the path, and what came behind it left the
files; or the run failed before that and has at most made directories. -/
def Writes (later : FileTree → FileTree → Prop) (t : FileTree) (path s : Text)
    (run : Except ε Unit × Desk) : Prop :=
  (∃ w place, t.Holds w path (.text s) place ∧ later w run.2.files) ∨
    run.1 ≠ .ok () ∧ t.Grown run.2.files

namespace Writes

variable {later : FileTree → FileTree → Prop} {t : FileTree} {f : α → DeskM ε Unit} {path s : Text}

theorem error (ht : t.Grown d.files) : Writes later t path s (.error e, d) := by
  refine .inr ⟨?_, ht⟩
  intro he
  cases he

/-- How a run is reported does not change what it has written. -/
theorem report {res : Except ε Unit} {res' : Except ε' Unit} (h : Writes later t path s (res, d))
    (hd : d'.files = d.files) (hres : res ≠ .ok () → res' ≠ .ok ()) :
    Writes later t path s (res', d') := by
  rcases h with ⟨w, place, hplace, hlater⟩ | ⟨hfailed, hgrown⟩
  · exact .inl ⟨w, place, hplace, hd.symm ▸ hlater⟩
  · exact .inr ⟨hres hfailed, hd.symm ▸ hgrown⟩

/-- Directories may be made before. -/
theorem after (ha : d.files.Grown (a d).2.files) (ht : t.Grown d.files)
    (hf : ∀ x d', t.Grown d'.files → Writes later t path s (f x d')) :
    Writes later t path s ((a >>= f) d) := by
  cases h : a d with
  | mk res d₁ =>
    rw [h] at ha
    cases res with
    | error e =>
      rw [bind_of_error h]
      exact error (ht.trans ha)
    | ok x =>
      rw [bind_of_ok h]
      exact hf x d₁ (ht.trans ha)

end Writes

end DeskM

/-- Nothing comes behind the file. -/
theorem Filing.write_writes (notes : Bool) (path s : Text) (d : Desk) :
    DeskM.Writes Eq d.files path s (write notes path s d) := by
  have hcases := holds_or_grown d.files path s
  rw [write, DeskM.files_bind]
  cases hw : writeTo d.files path s with
  | mk t fault? =>
    rw [hw] at hcases
    cases fault? with
    | some fault =>
      rcases hcases with ⟨place, hplace⟩ | ⟨-, hgrown⟩
      · exact .inl ⟨t, place, hplace, rfl⟩
      · exact .error hgrown
    | none =>
      obtain ⟨place, hplace⟩ := hcases.resolve_right fun h => h.1 rfl
      have hnote : DeskM.KeepsFiles (DeskM.note notes ("Successfully wrote file: " ++ path) :
        DeskM FilingError Unit) := .note _ _
      exact .inl ⟨t, place, hplace, (hnote { d with files := t }).symm⟩

/-- The files after the shell has run some commands. -/
def Shell.runAll (shell : Shell) (commands : List Text) (t : FileTree) : FileTree :=
  commands.foldl (fun t command => (shell command t).2) t

/-- The shell has run the first of the given commands, or all of them. -/
def Shell.RunsFirst (shell : Shell) (commands : List Text) (t u : FileTree) : Prop :=
  ∃ run, run <+: commands ∧ u = shell.runAll run t

theorem JavaTools.call_eq {ε : Type} (work : FileTree → Answer × FileTree) (d : Desk) :
    (call work : DeskM ε Answer) d =
      (.ok (work d.files).1, { d with files := (work d.files).2 }) := rfl

namespace Release

open DeskM

variable {r : Release} {shell : Shell} {o : Options} {path : Text}

/-- What the shell is asked for when a Java file is written. -/
def commands (o : Options) (path : Text) : List Text :=
  if o.compile || o.run then
    compileCommand path :: if o.run then [runCommand path] else []
  else []

theorem runProgram_files (d : Desk) :
    (runProgram o shell path d).2.files = (shell (runCommand path) d.files).2 := by
  obtain ⟨out, hnote⟩ := Prints.note (ε := Failure) o.verbose "Running Java program..." d
  rw [runProgram, bind_of_ok hnote, bind_of_ok (JavaTools.call_eq _ _)]
  split_ifs
  · rfl
  · rfl

theorem compileProgram_files (d : Desk) (h : (o.compile || o.run) = true) :
    shell.RunsFirst (commands o path) d.files (compileProgram o shell path d).2.files := by
  obtain ⟨out, hnote⟩ := Prints.note (ε := Failure) o.verbose "Compiling Java code..." d
  rw [commands, if_pos h, compileProgram, bind_of_ok hnote, bind_of_ok (JavaTools.call_eq _ _)]
  by_cases hexit : (shell (compileCommand path) d.files).1.exit ≠ 0
  · rw [if_pos hexit]
    exact ⟨[compileCommand path], List.cons_prefix_cons.2 ⟨rfl, List.nil_prefix⟩, rfl⟩
  · rw [if_neg hexit]
    refine ⟨_, List.prefix_rfl, ?_⟩
    cases hrun : o.run with
    | false => rfl
    | true => exact runProgram_files _

theorem prepareDirectory_grown (notes : Bool) (path : Text) (d : Desk) :
    d.files.Grown (prepareDirectory notes path d).2.files := by
  have hmade := FileTree.makeDirs_grown false d.files (Path.directory path)
  rw [prepareDirectory, files_bind]
  split_ifs
  · exact .refl _
  · cases hm : d.files.makeDirs false (Path.directory path) with
    | mk t fault? =>
      rw [hm] at hmade
      cases fault? with
      | some fault => exact hmade
      | none =>
        have hnote : KeepsFiles (note notes ("Created directory: " ++ Path.directory path) :
          DeskM Failure Unit) := .note _ _
        exact (hnote { d with files := t }).symm ▸ hmade

theorem writeFile_writes {later : FileTree → FileTree → Prop} {t : FileTree} {s : Text} {d : Desk}
    {rest : Unit → DeskM Failure Unit} (ht : t.Grown d.files)
    (hr : ∀ d', later d'.files (rest () d').2.files) :
    Writes later t path s ((writeFile path s >>= rest) d) := by
  cases hput : d.files.putFile path (.text s) with
  | error fault =>
    have hw : writeFile path s d = (.error (.filing fault), d) := by
      rw [writeFile, files_bind, hput]
      rfl
    rw [bind_of_error hw]
    exact .error ht
  | ok u =>
    have hw : writeFile path s d = (.ok (), { d with files := u }) := by
      rw [writeFile, files_bind, hput]
      rfl
    rw [bind_of_ok hw]
    obtain ⟨place, hplace⟩ := FileTree.holds_of_putFile ht hput
    exact .inl ⟨u, place, hplace, hr { d with files := u }⟩

theorem process_writes {input source java : Text} {d : Desk}
    (hs : d.files.readText input = .ok source) (hj : r.edition.javaText source = .ok java)
    (hp : r.outputPath o input source = .ok path) :
    Writes (shell.RunsFirst (commands o path)) d.files path java (r.process shell o input d) := by
  have hrun : r.process shell o input d = (do
      note o.verbose ("Reading pseudo-Java file: " ++ input)
      prepareDirectory o.verbose path
      writeFile path java
      say ("Generated Java code: " ++ path)
      if o.compile || o.run then compileProgram o shell path : DeskM Failure Unit) d := by
    rw [process, files_bind, hs]
    dsimp only
    rw [hj, hp]
    rfl
  rw [hrun]
  refine .after ((KeepsFiles.note _ _).grown d) (.refl _) fun _ d₁ h₁ => ?_
  refine .after (prepareDirectory_grown _ _ _) h₁ fun _ d₂ h₂ => ?_
  refine writeFile_writes h₂ fun d' => ?_
  obtain ⟨out, hsay⟩ := Prints.say (ε := Failure) ("Generated Java code: " ++ path) d'
  rw [bind_of_ok hsay]
  split_ifs with hc
  · exact compileProgram_files _ hc
  · refine ⟨[], List.nil_prefix, rfl⟩

theorem main_writes {input source java program : Text} {arguments : List Text} {d : Desk}
    (ho : Options.read (r.interface program) arguments = .ok o) (ht : o.test = false)
    (hi : o.input = some input) (hs : d.files.readText input = .ok source)
    (hj : r.edition.javaText source = .ok java) (hp : r.outputPath o input source = .ok path) :
    Writes (shell.RunsFirst (commands o path)) d.files path java
      (r.main program shell arguments d) := by
  have hmain : r.main program shell arguments = r.execute program shell o := by
    rw [main, ho]
  have hwrites : Writes (shell.RunsFirst (commands o path)) d.files path java
    (r.process shell o input d) := process_writes hs hj hp
  rw [hmain, execute, ht, hi]
  cases input with
  | nil => cases hs
  | cons c input =>
    rw [if_neg (by decide)]
    dsimp only
    rw [files_bind]
    split_ifs
    · refine .after ((KeepsFiles.complain _).grown d) (.refl _) fun _ d' hd => ?_
      exact .error hd
    · dsimp only
      cases hrun : r.process shell o (c :: input) d with
      | mk res d' =>
        rw [hrun] at hwrites
        cases res with
        | ok => exact hwrites.report rfl fun h => absurd rfl h
        | error f =>
          dsimp only
          cases failureLine f with
          | none => exact hwrites.report rfl fun _ h => by cases h
          | some line => exact hwrites.report rfl fun _ h => by cases h

/-- The Java file has the name of the program unless the first line is the bare word `program` with
a space behind it. -/
theorem written_stem_iff (program input source : Text) (arguments : List Text) (shell : Shell)
    (o : Options) (d : Desk) (p : Program)
    (ho : Options.read (openAccessors.interface program) arguments = .ok o) (ht : o.test = false)
    (hi : o.input = some input) (hout : o.output.value?.getD [] = [])
    (hs : d.files.readText input = .ok source)
    (hp : (Edition.openAccessors .standard).read source = .ok p) :
    ∃ path, Writes (shell.RunsFirst (commands o path)) d.files path
        ((Edition.openAccessors .standard).toJava p)
        (openAccessors.main program shell arguments d) ∧
      ((NormalPath.ofText path).stem = p.name ↔ ¬LosesName .standard source) := by
  obtain ⟨name, hname, hn, hiff⟩ := nameByWords_iff .standard source
  have hpath : openAccessors.outputPath o input source =
      .ok (Filing.outputPath name none o.outputDir.value?) := by
    have hnameOf : openAccessors.nameOf source = .ok name := hname
    rw [outputPath, hnameOf]
    cases hv : o.output.value? with
    | none => rfl
    | some value =>
      rw [hv] at hout
      obtain rfl : value = [] := hout
      rfl
  have hjava : openAccessors.edition.javaText source =
      .ok ((Edition.openAccessors .standard).toJava p) := map_eq_ok.2 ⟨p, hp, rfl⟩
  refine ⟨_, main_writes ho ht hi hs hjava hpath, ?_⟩
  rw [Filing.stem_outputPath hn, ← hiff]
  rw [Edition.read_eq] at hp
  rw [Program.name_of_readParts hp]

theorem written_stem_of_nameless_line :
    let source : Text := "program \nmain\n    x()"
    let d : Desk :=
      { files := FileTree.empty.put ["work", "a.pj"] (.file (.text source)) }
    let shell : Shell := fun _ t => ({}, t)
    let p : Program := { name := "MainProgram", main := ["x();"] }
    (Edition.openAccessors .standard).read source = .ok p ∧
      ∃ path, Writes (shell.RunsFirst []) d.files path
          ((Edition.openAccessors .standard).toJava p)
          (openAccessors.main "javax" shell ["a.pj"] d) ∧
        (NormalPath.ofText path).stem ≠ p.name := by
  intro source d shell p
  have hp : (Edition.openAccessors .standard).read source = .ok p := by decide +kernel
  have ho : Options.read (openAccessors.interface "javax") ["a.pj"] =
      .ok { input := some "a.pj" } := by decide +kernel
  have hlost : LosesName .standard source :=
    ⟨by decide +kernel, by decide +kernel, by decide +kernel⟩
  obtain ⟨path, hw, hiff⟩ := written_stem_iff "javax" "a.pj" source ["a.pj"] shell _ d p ho rfl rfl
    rfl (by decide +kernel) hp
  exact ⟨hp, path, hw, fun he => hiff.1 he hlost⟩

end Release

end JavaSketch
