import JavaSketch.Edition.History
import JavaSketch.Proofs.Declarations
import JavaSketch.Proofs.Text

namespace JavaSketch.Java

variable {p : Program} {t : Template} {m : Method} {ms : List Method} {className : Option Text}

/-- The members of the editions with the compact layout. -/
def compact : Style := ⟨false, true, Java.className⟩

/-- Templates have names, and no method outside their constructors is a constructor. -/
structure Orderly (p : Program) : Prop where
  named : ∀ t ∈ p.templates, t.name ≠ []
  members : ∀ t ∈ p.templates, ∀ m ∈ t.staticMethods ++ t.instanceMethods, m.isConstructor = false
  methods : ∀ m ∈ p.methods, m.isConstructor = false

/-- The only template is named like the program and has the main method, and there is no main
part beside it. -/
def BringsMain (p : Program) : Prop :=
  p.main = [] ∧ ∃ t, p.templates = [t] ∧ t.name = p.name ∧ hasMain t = true

theorem methodLines_compact (h : m.isConstructor = false) :
    methodLines compact className m = methodLines .current className m := by
  rw [methodLines, methodLines, methodHead, methodHead, h]
  rfl

theorem constructorLines_compact {name : Text} (hn : name ≠ []) (m : Method) :
    methodLines compact (some name) m = methodLines .current (some name) m := by
  cases name with
  | nil => exact absurd rfl hn
  | cons c name => rfl

theorem methodParts_compact (h : ∀ m ∈ ms, m.isConstructor = false) :
    methodParts compact className ms = methodParts .current className ms := by
  refine List.flatMap_congr fun m hm => ?_
  rw [methodLines_compact (h m hm)]

theorem stateParts_compact (hn : t.name ≠ []) : stateParts compact t = stateParts .current t := by
  have hc : methodParts compact (some t.name) t.constructors =
      methodParts .current (some t.name) t.constructors := by
    refine List.flatMap_congr fun m _ => ?_
    rw [constructorLines_compact hn]
  rw [stateParts, stateParts, hc]

theorem compactLines_separate (style : Style) (hm : p.main ≠ [])
    (hn : ∀ t, p.templates = [t] → t.name ≠ p.name) :
    compactLines style p = separateLines style (classLines style) p := by
  rw [compactLines]
  split
  · rename_i hm'
    exact absurd hm' hm
  · rename_i t line rest ht _
    exact if_neg (hn t ht)
  · rfl
  · rename_i hm' _
    exact absurd hm' hm

theorem compactLines_methods (style : Style) (hm : p.main = []) (hs : ∀ t, p.templates ≠ [t]) :
    compactLines style p = methodsLines style p := by
  rw [compactLines, hm]
  split
  · rename_i t ht _
    exact absurd ht (hs t)
  · rename_i hc
    cases hc
  · rename_i hc _
    cases hc
  · rfl

namespace Orderly

theorem behaviourParts_eq (h : Orderly p) (ht : t ∈ p.templates) :
    behaviourParts compact t = behaviourParts .current t :=
  methodParts_compact (h.members t ht)

theorem classLines_eq (h : Orderly p) (ht : t ∈ p.templates) :
    classLines compact t = classLines .current t := by
  rw [classLines, classLines, stateParts_compact (h.named t ht), h.behaviourParts_eq ht]
  rfl

theorem mergedLines_eq (h : Orderly p) (ht : t ∈ p.templates) :
    mergedLines compact t p = mergedLines .current t p := by
  rw [mergedLines, mergedLines, stateParts_compact (h.named t ht), h.behaviourParts_eq ht,
    methodParts_compact h.methods]
  rfl

theorem methodsLines_eq (h : Orderly p) : methodsLines compact p = methodsLines .current p := by
  rw [methodsLines, methodsLines, methodParts_compact h.methods]

theorem separateLines_eq (h : Orderly p) :
    separateLines compact (classLines compact) p =
      separateLines .current (classLines .current) p := by
  have hm : ∀ m ∈ (p.templates.filter (isOwnUtility p)).flatMap (·.staticMethods) ++ p.methods,
      m.isConstructor = false := by
    intro m hm
    rcases mem_publicMethods hm with ⟨t, ht, hm⟩ | hm
    · exact h.members t ht m (List.mem_append_left _ hm)
    · exact h.methods m hm
  have hc : ((p.templates.filter fun t => !isOwnUtility p t).flatMap fun t =>
      spaced (classLines compact t)) =
        (p.templates.filter fun t => !isOwnUtility p t).flatMap fun t =>
          spaced (classLines .current t) := by
    refine List.flatMap_congr fun t ht => ?_
    rw [h.classLines_eq (List.mem_of_mem_filter ht)]
  rw [separateLines, separateLines, methodParts_compact hm, hc]

/-- Apart from a template that brings the main method, both layouts make the same choice. -/
theorem compactLines_eq (h : Orderly p) (hb : ¬ BringsMain p) :
    compactLines compact p = programLines p := by
  have hlay := layout p
  generalize programLines p = lines at hlay
  cases hlay with
  | @merged t host =>
    obtain ⟨ht, hn, hm⟩ := host?_eq_some.1 host
    cases hp : p.main with
    | nil =>
      have hmain : hasMain t = true := hm.resolve_left (absurd hp)
      exact absurd ⟨hp, t, ht, hn, hmain⟩ hb
    | cons line rest =>
      rw [compactLines, ht, hp]
      dsimp only
      rw [if_pos hn]
      exact h.mergedLines_eq (by rw [ht]; exact .head _)
  | separate host main =>
    rw [← h.separateLines_eq]
    refine compactLines_separate compact main fun t ht hn => ?_
    rw [host?_eq_some.2 ⟨ht, hn, .inl main⟩] at host
    cases host
  | @single t host main only =>
    rw [compactLines, only, main]
    exact h.classLines_eq (by rw [only]; exact .head _)
  | methods host main several =>
    rw [← h.methodsLines_eq]
    exact compactLines_methods compact main several

end Orderly

theorem unlines_imports (line : Text) (lines : List Text) :
    Text.unlines (imports ++ line :: lines) =
      Text.unlines imports ++ '\n' :: (line ++ lines.flatMap (['\n'] ++ ·)) := by
  simp only [Text.unlines, imports, List.cons_append, List.nil_append, Text.join_cons,
    List.flatMap_cons, List.flatMap_nil, List.append_assoc]

theorem unlines_classLines_ne (style : Style) (t u : Template) (p : Program) :
    Text.unlines (imports ++ classLines style t) ≠
      Text.unlines (imports ++ mergedLines .current u p) := by
  intro h
  obtain ⟨lines, hc⟩ : ∃ lines, classLines style t = opened (classHeader t) :: lines := ⟨_, rfl⟩
  obtain ⟨others, hm⟩ : ∃ lines, mergedLines .current u p = publicHeader u.name :: lines :=
    ⟨_, rfl⟩
  rw [hc, hm, unlines_imports, unlines_imports] at h
  have htail := (List.cons.inj (List.append_cancel_left h)).2
  have hhead := congrArg List.head? htail
  rw [List.head?_append] at hhead
  have hkind := head?_classHeader t
  simp only [List.mem_cons, List.not_mem_nil, or_false] at hkind
  rcases hkind with hk | hk | hk
  · rw [hk] at hhead
    cases hhead
  · rw [hk] at hhead
    cases hhead
  · rw [hk] at hhead
    cases hhead

end JavaSketch.Java

namespace JavaSketch

/-- The last edition and the present one write the same Java text for every orderly program, with
the one exception of a template that brings the main method. -/
theorem Edition.toJava_openAccessors_iff (v : Vocabulary) (p : Program) (h : Java.Orderly p) :
    (openAccessors v).toJava p = p.toJava ↔ ¬ Java.BringsMain p := by
  have he : (openAccessors v).toJava p =
      Text.unlines (Java.imports ++ Java.compactLines Java.compact p) := rfl
  rw [he, Program.toJava]
  constructor
  · rintro heq ⟨hm, t, ht, hn, hmain⟩
    have hc : Java.compactLines Java.compact p = Java.classLines Java.compact t := by
      rw [Java.compactLines, ht, hm]
    have hp : Java.programLines p = Java.mergedLines .current t p := by
      rw [Java.programLines, Java.host?_eq_some.2 ⟨ht, hn, .inr hmain⟩]
    rw [hc, hp] at heq
    exact Java.unlines_classLines_ne _ t t p heq
  · intro hb
    rw [h.compactLines_eq hb]

theorem Edition.toJava_openAccessors_of_constructors :
    let t : Template :=
      { name := "A", parent := some "B", constructors := [{ name := "A", isConstructor := true }],
        staticMethods := [{ name := "main", isStatic := true }] }
    let p : Program :=
      { name := "P", templates := [t, { name := "Q" }], main := ["x();"],
        methods := [{ name := "f", isStatic := true }] }
    Java.Orderly p ∧ ¬ Java.BringsMain p ∧
      (openAccessors .standard).toJava p = p.toJava := by
  intro t p
  have ho : Java.Orderly p := ⟨by decide, by decide, by decide⟩
  have hb : ¬ Java.BringsMain p := by
    rintro ⟨hm, _⟩
    cases hm
  exact ⟨ho, hb, (toJava_openAccessors_iff .standard p ho).2 hb⟩

end JavaSketch
