import JavaSketch.Proofs.LineBreaks
import JavaSketch.Proofs.MemberPieces
import JavaSketch.Proofs.Members
import JavaSketch.Proofs.WrittenFiles

namespace JavaSketch

namespace Java

variable {p : Program} {t : Template} {v : Variable} {m : Method} {ms : List Method}
  {className : Option Text} {head : Text} {body lines : List Text}

theorem methodHead_isLine (h : m.Unbroken) (hc : ∀ name ∈ className, IsLine name) :
    IsLine (methodHead .current className m) :=
  IsLine.piecewise.methodHead h.name h.returnType
    (fun q hq => ⟨(h.params q hq).type, (h.params q hq).name⟩) hc

def isPublicHeader (line : Text) : Bool := line.startsWith "public class "

/-- A line that declares no public class. -/
structure Inner (line : Text) : Prop where
  isLine : IsLine line
  unlisted : isPublicHeader line = false

namespace Inner

theorem empty : Inner [] := ⟨.empty, rfl⟩

theorem closing : Inner Java.closing := ⟨by decide, rfl⟩

theorem indented {s : Text} (h : IsLine s) : Inner (Java.indented s) :=
  ⟨IsLine.append (by decide) h, rfl⟩

theorem bodyLine {s : Text} (h : IsLine s) : Inner (Java.bodyLine s) :=
  ⟨IsLine.append (by decide) h, rfl⟩

theorem spaced (h : ∀ line ∈ lines, Inner line) : ∀ line ∈ Java.spaced lines, Inner line :=
  List.forall_mem_append.2 ⟨h, List.forall_mem_singleton.2 empty⟩

theorem flatMap {α : Type} {f : α → List Text} {l : List α}
    (h : ∀ a ∈ l, ∀ line ∈ f a, Inner line) : ∀ line ∈ l.flatMap f, Inner line := by
  intro line hl
  obtain ⟨a, ha, hf⟩ := List.mem_flatMap.1 hl
  exact h a ha line hf

theorem block (hh : IsLine head) (hb : ∀ line ∈ body, IsLine line) :
    ∀ line ∈ Java.block head body, Inner line := by
  rw [Java.block, List.forall_mem_append, List.forall_mem_append, List.forall_mem_singleton,
    List.forall_mem_singleton, List.forall_mem_map]
  exact ⟨⟨indented (hh.append (by decide)), fun line hl => bodyLine (hb line hl)⟩,
    indented (by decide)⟩

theorem methodParts (h : ∀ m ∈ ms, m.Unbroken) (hc : ∀ name ∈ className, IsLine name) :
    ∀ line ∈ Java.methodParts .current className ms, Inner line :=
  flatMap fun m hm => spaced (block (methodHead_isLine (h m hm) hc) (h m hm).body)

theorem methods (h : ∀ m ∈ ms, m.Unbroken) :
    ∀ line ∈ Java.methodParts .current none ms, Inner line :=
  methodParts h fun _ hn => by cases hn

theorem variableLines {vs : List Variable} (h : ∀ v ∈ vs, v.Unbroken) (isStatic : Bool) :
    ∀ line ∈ Java.variableLines isStatic vs, Inner line := by
  rw [Java.variableLines]
  split
  · exact List.forall_mem_nil _
  · apply spaced
    rw [List.forall_mem_map]
    intro v hv
    have hline :=
      IsLine.piecewise.variableLine (h v hv).name (h v hv).type (h v hv).initial isStatic
    exact ⟨hline, rfl⟩

theorem accessorLines (h : v.Unbroken) (access : Access) :
    ∀ line ∈ Java.accessorLines .current access v, Inner line := by
  have hP := IsLine.piecewise
  have hc : IsLine v.name.capitalize := h.name.capitalize
  have hget : ∀ line ∈ getterLines .current access v, Inner line :=
    block (hP.getterHead hc h.type access) (List.forall_mem_singleton.2 (hP.getterBody h.name))
  have hset : ∀ line ∈ setterLines .current access v, Inner line :=
    block (hP.setterHead hc h.name h.type access)
      (List.forall_mem_singleton.2 (hP.setterBody h.name))
  exact List.forall_mem_append.2 ⟨spaced hget, hset⟩

theorem abstractLine (h : m.Unbroken) : Inner (Java.abstractLine m) :=
  ⟨IsLine.piecewise.abstractLine h.name h.returnType
    fun q hq => ⟨(h.params q hq).type, (h.params q hq).name⟩, rfl⟩

theorem stateParts (h : t.Unbroken) : ∀ line ∈ Java.stateParts .current t, Inner line := by
  rw [Java.stateParts, List.forall_mem_append, List.forall_mem_append]
  refine ⟨⟨variableLines h.staticVars true, variableLines h.instanceVars false⟩, ?_⟩
  apply methodParts h.constructors
  intro name hn
  cases hn
  exact h.name

theorem accessorParts (h : t.Unbroken) : ∀ line ∈ Java.accessorParts .current t, Inner line := by
  refine flatMap fun a _ => ?_
  split
  · rename_i v hv
    exact spaced (accessorLines (h.allVars v (List.mem_of_find?_eq_some hv)) a.access)
  · exact List.forall_mem_nil _

theorem behaviourParts (h : t.Unbroken) : ∀ line ∈ Java.behaviourParts .current t, Inner line :=
  methods (List.forall_mem_append.2 ⟨h.staticMethods, h.instanceMethods⟩)

theorem classHeader (h : t.Unbroken) : Inner (opened (Java.classHeader t)) := by
  have hline := IsLine.piecewise.classHeader h.name h.parent h.interfaces
  refine ⟨hline.append (by decide), ?_⟩
  rw [isPublicHeader, Bool.eq_false_iff]
  intro hs
  obtain ⟨rest, hrest⟩ := List.isPrefixOf_iff_prefix.1 hs
  have hhead : some 'p' ∈ [some 'i', some 'a', some 'c'] := by
    have hkind := head?_classHeader t
    rw [← hrest] at hkind
    exact hkind
  exact absurd hhead (by decide)

theorem classLines (h : t.Unbroken) : ∀ line ∈ Java.classLines .current t, Inner line := by
  have habstract : ∀ line ∈ t.abstractMethods.flatMap (fun m => [Java.abstractLine m, []]),
      Inner line :=
    flatMap fun m hm => spaced (List.forall_mem_singleton.2 (abstractLine (h.abstractMethods m hm)))
  have hunless {parts : List Text} (hp : ∀ line ∈ parts, Inner line) :
      ∀ line ∈ (if t.isInterface then [] else parts), Inner line := by
    split_ifs
    · exact List.forall_mem_nil _
    · exact hp
  simp only [Java.classLines, List.forall_mem_append, List.forall_mem_singleton]
  exact ⟨⟨⟨⟨⟨classHeader h, hunless (stateParts h)⟩, behaviourParts h⟩, habstract⟩,
    hunless (accessorParts h)⟩, closing⟩

end Inner

/-- A public class stands in front of all other classes and is named like the program. -/
inductive Publishes (p : Program) : List Text → Prop
  | none {lines : List Text} (inner : ∀ line ∈ lines, Inner line) : Publishes p lines
  | first {lines : List Text} (inner : ∀ line ∈ lines, Inner line) :
    Publishes p ([publicHeader p.name] ++ lines)

theorem publishes (h : p.Unbroken) : Publishes p (programLines p) := by
  have hlay := layout p
  have hmain : ∀ line ∈ mainLines p.main, Inner line := Inner.block (by decide) h.main
  have hclose : ∀ line ∈ [closing], Inner line := List.forall_mem_singleton.2 .closing
  generalize programLines p = lines at hlay
  cases hlay with
  | @merged t host =>
    obtain ⟨hp, hn, -⟩ := host?_eq_some.1 host
    have ht : t.Unbroken := h.templates t (by rw [hp]; exact .head _)
    rw [mergedLines, hn]
    simp only [List.append_assoc]
    apply Publishes.first
    simp only [List.forall_mem_append]
    exact ⟨Inner.stateParts ht, Inner.behaviourParts ht, Inner.accessorParts ht,
      Inner.methods h.methods, hmain, hclose⟩
  | separate host main =>
    have hown : ∀ m ∈ (p.templates.filter (isOwnUtility p)).flatMap (·.staticMethods) ++ p.methods,
        m.Unbroken := by
      intro m hm
      rcases mem_publicMethods hm with ⟨t, ht, hm⟩ | hm
      · exact (h.templates t ht).staticMethods m hm
      · exact h.methods m hm
    have hclasses : ∀ line ∈ (p.templates.filter fun t => !isOwnUtility p t).flatMap fun t =>
        spaced (classLines .current t), Inner line :=
      Inner.flatMap fun t ht =>
        Inner.spaced (Inner.classLines (h.templates t (List.mem_of_mem_filter ht)))
    rw [separateLines]
    simp only [List.append_assoc]
    apply Publishes.first
    simp only [List.forall_mem_append]
    exact ⟨Inner.methods hown, hmain, Inner.spaced hclose, hclasses⟩
  | @single t host main only =>
    exact .none (Inner.classLines (h.templates t (by rw [only]; exact .head _)))
  | methods host main several =>
    rw [methodsLines]
    rw [List.append_assoc]
    apply Publishes.first
    exact List.forall_mem_append.2 ⟨Inner.methods h.methods, hclose⟩

theorem Publishes.isLine (hn : IsLine p.name) (h : Publishes p lines) :
    ∀ line ∈ lines, IsLine line := by
  cases h with
  | none inner => exact fun line hl => (inner line hl).isLine
  | first inner =>
    refine List.forall_mem_cons.2 ⟨?_, fun line hl => (inner line hl).isLine⟩
    exact (IsLine.append (by decide) hn).append (by decide)

theorem Publishes.filter_eq (h : Publishes p lines) :
    lines.filter isPublicHeader = [] ∨ lines.filter isPublicHeader = [publicHeader p.name] := by
  have hnone {lines : List Text} (inner : ∀ line ∈ lines, Inner line) :
      lines.filter isPublicHeader = [] := by
    apply List.filter_eq_nil_iff.2
    intro line hl
    exact Bool.eq_false_iff.1 (inner line hl).unlisted
  cases h with
  | none inner => exact .inl (hnone inner)
  | first inner =>
    rw [List.filter_append, hnone inner]
    exact .inr rfl

end Java

theorem Text.lines_unlines {lines : List Text} (hn : lines ≠ []) (h : ∀ line ∈ lines, IsLine line) :
    (unlines lines).lines = lines := by
  cases lines with
  | nil => exact absurd rfl hn
  | cons line lines =>
    obtain ⟨hl, hrest⟩ := List.forall_mem_cons.1 h
    rw [unlines, Text.lines, join_cons]
    exact splitAt_pieces hl hrest

/-- The lines of the Java text are those that are laid out. -/
theorem Program.lines_toJava {p : Program} (h : p.Unbroken) :
    p.toJava.lines = Java.outputLines p := by
  have himports : ∀ line ∈ Java.imports, IsLine line := by decide
  have hlines := (Java.publishes h).isLine h.name
  apply Text.lines_unlines
  · exact List.cons_ne_nil _ _
  · exact List.forall_mem_append.2 ⟨himports, hlines⟩

/-- The place of a directory; without a path it is the working directory. -/
def FileTree.Leads (t : FileTree) (dir : Option Text) (place : Location) : Prop :=
  match dir with
  | some (c :: path) => t.find (c :: path) = .ok (.occupied place .directory)
  | _ => place = t.workDir ∧ t.node? place = some .directory

namespace Filing

variable {name : Text} {dir : Option Text} {t : FileTree} {spot : Spot}

/-- The path of a file in a directory. -/
def pathIn (dir : Option Text) (file : Text) : Text :=
  match dir with
  | some (c :: path) =>
    if (c :: path).getLast? = some '/' then c :: path ++ file else c :: path ++ '/' :: file
  | _ => file

theorem outputPath_eq {output : Option Text} (hn : IsName name) (ho : output.getD [] = []) :
    outputPath name output dir = pathIn dir (javaFile name) := by
  have hnone : outputPath name output dir = outputPath name none dir := by
    cases output with
    | none => rfl
    | some path =>
      obtain rfl : path = [] := ho
      rfl
  rw [hnone]
  cases dir with
  | none => rfl
  | some path =>
    cases path with
    | nil => rfl
    | cons c path =>
      have hjoin : outputPath name none (some (c :: path)) =
          Path.join (c :: path) (javaFile name) := rfl
      rw [hjoin, pathIn]
      rcases Path.join_eq (List.cons_ne_nil c path) (slash_notMem_javaFile hn) with
        ⟨front, hdir, hpath⟩ | ⟨hlast, hpath⟩
      · rw [hpath, hdir, if_pos List.getLast?_concat, List.append_assoc]
        rfl
      · rw [hpath, if_neg hlast]

/-- The file stands in the output directory itself. -/
theorem leads_of_find (hn : IsName name)
    (h : t.find (outputPath name none dir) = .ok spot) :
    ∃ place, t.Leads dir place ∧ spot.place = place ++ [javaFile name] := by
  have hslash := slash_notMem_javaFile hn
  have hentry : FileTree.IsEntry (javaFile name) :=
    ⟨javaFile_ne (by decide), javaFile_ne (by decide), javaFile_ne (by decide)⟩
  have hwork (hw : t.find (javaFile name) = .ok spot) :
      ∃ place, (place = t.workDir ∧ t.node? place = some .directory) ∧
        spot.place = place ++ [javaFile name] := by
    obtain ⟨-, -, hw⟩ := FileTree.find_eq_ok.1 hw
    rw [FileTree.route_of_notMem hslash, Text.splitAt_of_notMem hslash,
      ← List.nil_append [javaFile name]] at hw
    obtain ⟨place, hplace, hspot⟩ := hw.of_concat hentry
    cases hplace with
    | here found => exact ⟨_, ⟨rfl, found⟩, hspot⟩
  cases dir with
  | none => exact hwork h
  | some path =>
    cases path with
    | nil => exact hwork h
    | cons c path =>
      exact FileTree.find_join (List.cons_ne_nil c path) hslash hentry h

end Filing

/-- A Java text has at most one public class, which is named like the program. So is the file that
it is written to, and the file stands in the output directory itself. -/
theorem Program.written_as_named (v : Vocabulary) (source : Text) (p : Program)
    (output dir : Option Text) (notes : Bool) (d : Desk) (h : read v source = .ok p)
    (ho : output.getD [] = []) :
    let path := Filing.outputPath p.name output dir
    let run := Filing.write notes path p.toJava d
    IsName p.name ∧
      (p.toJava.lines.filter Java.isPublicHeader = [] ∨
        p.toJava.lines.filter Java.isPublicHeader = [Java.publicHeader p.name]) ∧
      path = Filing.pathIn dir (p.name ++ ".java") ∧ (NormalPath.ofText path).stem = p.name ∧
      ((∃ place, run.2.files.Leads dir place ∧
          d.files.Holds run.2.files path (.text p.toJava) (place ++ [p.name ++ ".java"])) ∨
        run.1 ≠ .ok () ∧ d.files.Grown run.2.files) := by
  intro path run
  have hname := isName_of_read h
  have hunbroken := unbroken_of_read h
  have hheaders : p.toJava.lines.filter Java.isPublicHeader =
      (Java.programLines p).filter Java.isPublicHeader := by
    rw [lines_toJava hunbroken, Java.outputLines, List.filter_append]
    rfl
  have hpath : path = Filing.outputPath p.name none dir :=
    (Filing.outputPath_eq hname ho).trans (Filing.outputPath_eq hname rfl).symm
  refine ⟨hname, ?_, Filing.outputPath_eq hname ho, ?_, ?_⟩
  · rw [hheaders]
    exact (Java.publishes hunbroken).filter_eq
  · rw [hpath]
    exact Filing.stem_outputPath hname dir
  · rcases Filing.write_writes notes path p.toJava d with ⟨w, place, hplace, rfl⟩ | hfailed
    · have hfound : run.2.files.find (Filing.outputPath p.name none dir) =
          .ok (.occupied place (.file (.text p.toJava))) := by
        rw [← hpath]
        exact hplace.found
      obtain ⟨inside, hleads, hspot⟩ := Filing.leads_of_find hname hfound
      obtain rfl : place = inside ++ [p.name ++ ".java"] := hspot
      exact .inl ⟨inside, hleads, hplace⟩
    · exact .inr hfailed

theorem Program.written_as_named_into_directory :
    let source : Text :=
      "program P\nblueprint A\n    instance vars:\n        x as int\nmain\n    x()"
    let t : Template := { name := "A", instanceVars := [⟨"x", "int", .pack, none, false⟩] }
    let p : Program := { name := "P", templates := [t], main := ["x();"] }
    let d : Desk := { files := .empty }
    let run := Filing.write false "out/P.java" p.toJava d
    read Vocabulary.standard source = .ok p ∧
      p.toJava.lines.filter Java.isPublicHeader = ["public class P \x7b"] ∧
      ∃ place, run.2.files.Leads (some "out") place ∧
        d.files.Holds run.2.files "out/P.java" (.text p.toJava) (place ++ ["P.java".toList]) := by
  intro source t p d run
  have h : read Vocabulary.standard source = .ok p := by decide +kernel
  have hdir : Path.directory "out/P.java" = "out".toList := by decide +kernel
  have hok : (Filing.write false "out/P.java" p.toJava d).1 = .ok () := by
    rw [Filing.write, DeskM.files_bind, Filing.writeTo, hdir, FileTree.makeDirs]
    rfl
  obtain ⟨-, -, -, -, hplace | ⟨hfailed, -⟩⟩ :=
    written_as_named .standard source p none (some "out") false d h rfl
  · exact ⟨h, by decide +kernel, hplace⟩
  · exact absurd hok hfailed

end JavaSketch
