import JavaSketch.Proofs.Declarations
import JavaSketch.Proofs.MemberPieces

namespace JavaSketch

structure Variable.Plain (v : Variable) : Prop where
  name : BraceFree v.name
  type : BraceFree v.type
  initial : ∀ value ∈ v.initial, BraceFree value

structure Method.Closed (m : Method) : Prop where
  name : BraceFree m.name
  returnType : BraceFree m.returnType
  params : ∀ q ∈ m.params, BraceFree q.name ∧ BraceFree q.type
  body : Balanced m.body.flatten

structure Template.Closed (t : Template) : Prop where
  name : BraceFree t.name
  vars : ∀ v ∈ t.allVars, v.Plain
  methods : ∀ m ∈ t.constructors ++ (t.staticMethods ++ t.instanceMethods) ++ t.abstractMethods,
    m.Closed
  parent : ∀ name ∈ t.parent, BraceFree name
  interfaces : ∀ name ∈ t.interfaces, BraceFree name

/-- No name, type, value or clause has a brace, and the braces of every body are balanced. -/
structure Program.Closed (p : Program) : Prop where
  name : BraceFree p.name
  templates : ∀ t ∈ p.templates, t.Closed
  methods : ∀ m ∈ p.methods, m.Closed
  main : Balanced p.main.flatten

/-- The lines leave as many braces open as there were before them, and close none of those. -/
def Level (lines : List Text) : Prop := ∀ d, depthAfter d lines.flatten = some d

variable {pad head : Text} {lines more body : List Text}

namespace Level

theorem nil : Level [] := fun _ => rfl

theorem of_braceFree (h : ∀ line ∈ lines, BraceFree line) : Level lines := by
  intro d
  refine BraceFree.depthAfter (fun c hc => ?_) d
  obtain ⟨line, hl, hc⟩ := List.mem_flatten.1 hc
  exact h line hl c hc

theorem append (h : Level lines) (h' : Level more) : Level (lines ++ more) := by
  intro d
  rw [List.flatten_append, depthAfter_append (h d)]
  exact h' d

theorem spaced (h : Level lines) : Level (Java.spaced lines) := h.append fun _ => rfl

theorem flatMap {α : Type} {f : α → List Text} {l : List α} (h : ∀ a ∈ l, Level (f a)) :
    Level (l.flatMap f) := by
  induction l with
  | nil => exact nil
  | cons a l ih =>
    obtain ⟨ha, hl⟩ := List.forall_mem_cons.1 h
    exact ha.append (ih hl)

/-- What the first line opens, the last one closes. -/
theorem enclosed (hh : BraceFree head) (hp : BraceFree pad) (h : Level lines) :
    Level ([Java.opened head] ++ lines ++ [pad ++ Java.closing]) := by
  intro d
  have ho : depthAfter d (Java.opened head) = some (d + 1) := depthAfter_pad hh d _
  rw [List.flatten_append, List.flatten_append, List.flatten_singleton, List.flatten_singleton,
    List.append_assoc, depthAfter_append ho, depthAfter_append (h (d + 1)), depthAfter_pad hp]
  rfl

theorem balanced_unlines (h : Level lines) : Balanced (Text.unlines lines) := by
  apply Balanced.of_depthAfter
  rw [depthAfter_unlines]
  exact h 0

end Level

namespace Java

theorem level_block (hh : BraceFree head) (hb : Balanced body.flatten) :
    Level (block head body) := by
  have hl : Level (body.map bodyLine) := by
    intro d
    have hd := depthAfter_padded (by decide : BraceFree "        ") d body
    rw [List.flatMap_def] at hd
    exact hd.trans (hb.depthAfter d)
  have hi : BraceFree (indented head) := BraceFree.append (by decide) hh
  rw [block, indented_opened]
  exact hl.enclosed hi (by decide)

variable {t : Template} {v : Variable} {m : Method} {ms : List Method} {className : Option Text}

theorem braceFree_methodHead (h : m.Closed) (hc : ∀ name ∈ className, BraceFree name) :
    BraceFree (methodHead .current className m) :=
  BraceFree.piecewise.methodHead h.name h.returnType (fun q hq => (h.params q hq).symm) hc

theorem level_methodParts (h : ∀ m ∈ ms, m.Closed) (hc : ∀ name ∈ className, BraceFree name) :
    Level (methodParts .current className ms) :=
  .flatMap fun m hm => (level_block (braceFree_methodHead (h m hm) hc) (h m hm).body).spaced

theorem level_variableLines {vs : List Variable} (h : ∀ v ∈ vs, v.Plain) (isStatic : Bool) :
    Level (variableLines isStatic vs) := by
  rw [variableLines]
  split
  · exact .nil
  · refine Level.spaced (.of_braceFree fun line hl => ?_)
    obtain ⟨v, hv, rfl⟩ := List.mem_map.1 hl
    exact BraceFree.piecewise.variableLine (h v hv).name (h v hv).type (h v hv).initial isStatic

theorem level_accessorLines (h : v.Plain) (access : Access) :
    Level (accessorLines .current access v) := by
  have hP := BraceFree.piecewise
  have hc : BraceFree v.name.capitalize := h.name.capitalize
  have hg : Level (getterLines .current access v) := by
    apply level_block (hP.getterHead hc h.type access)
    rw [List.flatten_singleton]
    exact (hP.getterBody h.name).balanced
  have hs : Level (setterLines .current access v) := by
    apply level_block (hP.setterHead hc h.name h.type access)
    rw [List.flatten_singleton]
    exact (hP.setterBody h.name).balanced
  exact (hg.append fun _ => rfl).append hs

end Java

namespace Template.Closed

open Java

variable {t : Template}

theorem level_state (h : t.Closed) : Level (stateParts .current t) := by
  obtain ⟨hi, hs⟩ := List.forall_mem_append.1 h.vars
  have hk : ∀ m ∈ t.constructors, m.Closed := fun m hm =>
    h.methods m (List.mem_append_left _ (List.mem_append_left _ hm))
  refine ((level_variableLines hs true).append (level_variableLines hi false)).append ?_
  refine level_methodParts hk fun name hn => ?_
  cases hn
  exact h.name

theorem level_behaviour (h : t.Closed) : Level (behaviourParts .current t) := by
  refine level_methodParts (fun m hm => ?_) (fun _ hn => by cases hn)
  exact h.methods m (List.mem_append_left _ (List.mem_append_right _ hm))

theorem level_abstract (h : t.Closed) :
    Level (t.abstractMethods.flatMap fun m => [abstractLine m, []]) := by
  refine .flatMap fun m hm => Level.spaced (.of_braceFree (List.forall_mem_singleton.2 ?_))
  have hm := h.methods m (List.mem_append_right _ hm)
  exact BraceFree.piecewise.abstractLine hm.name hm.returnType fun q hq => (hm.params q hq).symm

theorem level_accessors (h : t.Closed) : Level (accessorParts .current t) := by
  refine .flatMap fun a _ => ?_
  split
  · rename_i v hv
    exact (level_accessorLines (h.vars v (List.mem_of_find?_eq_some hv)) a.access).spaced
  · exact .nil

theorem level_class (h : t.Closed) : Level (classLines .current t) := by
  have hs : Level (if t.isInterface then [] else stateParts .current t) := by
    split
    · exact .nil
    · exact h.level_state
  have ha : Level (if t.isInterface then [] else accessorParts .current t) := by
    split
    · exact .nil
    · exact h.level_accessors
  have hl := ((hs.append h.level_behaviour).append h.level_abstract).append ha
  have hh := BraceFree.piecewise.classHeader h.name h.parent h.interfaces
  have hc := hl.enclosed hh (List.forall_mem_nil _)
  simp only [classLines, List.append_assoc] at hc ⊢
  exact hc

end Template.Closed

namespace Program.Closed

open Java

variable {p : Program} {t : Template}

theorem level_methods {ms : List Method} (h : ∀ m ∈ ms, m.Closed) :
    Level (methodParts .current none ms) :=
  level_methodParts h fun _ hn => by cases hn

theorem level_main (h : p.Closed) : Level (mainLines p.main) := level_block (by decide) h.main

theorem publicClass {name : Text} {lines : List Text} (hn : BraceFree name) (h : Level lines) :
    Level ([publicHeader name] ++ lines ++ [closing]) :=
  h.enclosed (BraceFree.append (by decide) hn) (List.forall_mem_nil _)

theorem level_merged (h : p.Closed) (ht : t ∈ p.templates) : Level (mergedLines .current t p) := by
  have hc := h.templates t ht
  have hl := (((hc.level_state.append hc.level_behaviour).append hc.level_accessors).append
    (level_methods h.methods)).append h.level_main
  have hp := publicClass hc.name hl
  simp only [mergedLines, List.append_assoc] at hp ⊢
  exact hp

theorem level_separate (h : p.Closed) :
    Level (separateLines .current (classLines .current) p) := by
  have hm : ∀ m ∈ (p.templates.filter (isOwnUtility p)).flatMap (·.staticMethods) ++ p.methods,
      m.Closed := by
    intro m hm
    rcases mem_publicMethods hm with ⟨t, ht, hm⟩ | hm
    · refine (h.templates t ht).methods m (List.mem_append_left _ (List.mem_append_right _ ?_))
      exact List.mem_append_left _ hm
    · exact h.methods m hm
  have hl : Level ((p.templates.filter fun t => !isOwnUtility p t).flatMap fun t =>
      Java.spaced (classLines .current t)) :=
    .flatMap fun t ht => (h.templates t (List.mem_of_mem_filter ht)).level_class.spaced
  have hp := (publicClass h.name ((level_methods hm).append h.level_main)).spaced.append hl
  simp only [separateLines, Java.spaced, List.append_assoc] at hp ⊢
  exact hp

theorem level_program (h : p.Closed) : Level (programLines p) := by
  have hlay := layout p
  generalize programLines p = lines at hlay
  cases hlay with
  | @merged t host =>
    obtain ⟨ht, _⟩ := host?_eq_some.1 host
    exact h.level_merged (by rw [ht]; exact .head _)
  | separate host main => exact h.level_separate
  | @single t host main only => exact (h.templates t (by rw [only]; exact .head _)).level_class
  | methods host main several => exact publicClass h.name (level_methods h.methods)

end Program.Closed

/-- If no name, type, value or clause has a brace and the bodies are balanced, so is the Java
text. -/
theorem Program.toJava_balanced (p : Program) (h : p.Closed) : Balanced p.toJava := by
  have hi : Level Java.imports := .of_braceFree (by decide)
  exact (hi.append h.level_program).balanced_unlines

theorem Program.toJava_balanced_of_nested :
    let m : Method := { name := "f", body := ["while (b) \x7b", "if (c) \x7b", "\x7d", "\x7d"] }
    let t : Template :=
      { name := "A", instanceVars := [⟨"ǆ", "int", .priv, some "1", false⟩], instanceMethods := [m],
        accessors := [⟨"ǆ", .pub⟩], parent := some "B", interfaces := ["I", "J"] }
    let p : Program := { name := "P", templates := [t], main := ["for (;;) \x7b", "\x7d"] }
    p.Closed ∧ Balanced p.toJava := by
  intro m t p
  have hm : m.Closed := ⟨by decide, by decide, List.forall_mem_nil _, .of_depthAfter rfl⟩
  have hv : ∀ v ∈ t.allVars, v.Plain :=
    List.forall_mem_singleton.2 ⟨by decide, by decide, fun _ h => by cases h; decide⟩
  have ht : t.Closed :=
    ⟨by decide, hv, List.forall_mem_singleton.2 hm, fun _ h => by cases h; decide, by decide⟩
  have hp : p.Closed :=
    ⟨by decide, List.forall_mem_singleton.2 ht, List.forall_mem_nil _, .of_depthAfter rfl⟩
  exact ⟨hp, toJava_balanced p hp⟩

end JavaSketch
