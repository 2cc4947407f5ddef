import JavaSketch.Java.Program

namespace JavaSketch.Java

variable {p : Program} {t : Template} {m : Method} {ms : List Method} {line : Text}
  {lines : List Text}

def outputLines (p : Program) : List Text := imports ++ programLines p

def signatureLine (m : Method) : Text := indented (opened (methodHead .current none m))

/-- The members of the template stand in the public class of the program. -/
def IsMerged (p : Program) (t : Template) : Prop :=
  host? p = some t ∨ (host? p = none ∧ p.main ≠ [] ∧ isOwnUtility p t = true)

/-- Every template has the header of its own class or of the public class that it is merged into,
and every method has its signature. -/
structure Complete (p : Program) : Prop where
  templates : ∀ t ∈ p.templates, opened (classHeader t) ∈ outputLines p ∨
    (IsMerged p t ∧ publicHeader t.name ∈ outputLines p)
  methods : ∀ m ∈ p.methods, signatureLine m ∈ outputLines p

/-- The four ways to lay a program out, and when each is taken. -/
inductive Layout (p : Program) : List Text → Prop
  | merged {t : Template} (host : host? p = some t) : Layout p (mergedLines .current t p)
  | separate (host : host? p = none) (main : p.main ≠ []) :
    Layout p (separateLines .current (classLines .current) p)
  | single {t : Template} (host : host? p = none) (main : p.main = [])
    (only : p.templates = [t]) : Layout p (classLines .current t)
  | methods (host : host? p = none) (main : p.main = []) (several : ∀ t, p.templates ≠ [t]) :
    Layout p (methodsLines .current p)

theorem layout (p : Program) : Layout p (programLines p) := by
  rw [programLines]
  cases hh : host? p with
  | some t => exact .merged hh
  | none =>
    dsimp only
    split
    · rename_i hm
      rw [Bool.not_eq_true', List.isEmpty_eq_false_iff] at hm
      exact .separate hh hm
    · rename_i hm
      rw [Bool.not_eq_true', List.isEmpty_eq_false_iff, Decidable.not_not] at hm
      split
      · rename_i t ht
        exact .single hh hm ht
      · rename_i ht
        exact .methods hh hm ht

theorem host?_eq_some :
    host? p = some t ↔
      p.templates = [t] ∧ t.name = p.name ∧ (p.main ≠ [] ∨ hasMain t = true) := by
  rw [host?]
  split
  · rename_i u hu
    simp only [hu, List.cons.injEq, and_true, Option.ite_none_right_eq_some, Option.some.injEq,
      Bool.or_eq_true, Bool.not_eq_true', List.isEmpty_eq_false_iff]
    constructor
    · rintro ⟨h, rfl⟩
      exact ⟨rfl, h⟩
    · rintro ⟨rfl, h⟩
      exact ⟨h, rfl⟩
  · rename_i hu
    constructor
    · intro h
      cases h
    · rintro ⟨h, _⟩
      exact absurd h (hu t)

theorem signatureLine_mem (hm : m ∈ ms) : signatureLine m ∈ methodParts .current none ms := by
  refine List.mem_flatMap.2 ⟨m, hm, ?_⟩
  simp only [spaced, methodLines, block, signatureLine, List.mem_append, List.mem_singleton,
    true_or]

theorem indented_opened (head : Text) : indented (opened head) = opened (indented head) :=
  (List.append_assoc _ _ _).symm

theorem mem_publicMethods
    (h : m ∈ (p.templates.filter (isOwnUtility p)).flatMap (·.staticMethods) ++ p.methods) :
    (∃ t ∈ p.templates, m ∈ t.staticMethods) ∨ m ∈ p.methods := by
  rcases List.mem_append.1 h with h | h
  · obtain ⟨t, ht, hm⟩ := List.mem_flatMap.1 h
    exact .inl ⟨t, (List.mem_filter.1 ht).1, hm⟩
  · exact .inr h

theorem head?_classHeader (t : Template) :
    (opened (classHeader t)).head? ∈ [some 'i', some 'a', some 'c'] := by
  rw [classHeader]
  cases t.isInterface with
  | true => exact .head _
  | false =>
    cases t.isAbstract with
    | true => exact .tail _ (.head _)
    | false => exact .tail _ (.tail _ (.head _))

theorem head?_of_mem_methodParts (h : line ∈ methodParts .current none ms) :
    line = [] ∨ line.head? = some ' ' := by
  obtain ⟨m, _, hl⟩ := List.mem_flatMap.1 h
  simp only [spaced, methodLines, block, List.mem_append, List.mem_singleton, List.mem_map] at hl
  rcases hl with ((rfl | ⟨s, _, rfl⟩) | rfl) | rfl
  · exact .inr rfl
  · exact .inr rfl
  · exact .inr rfl
  · exact .inl rfl

theorem classHeader_notMem_imports (t : Template) : opened (classHeader t) ∉ imports := by
  have hl : (opened (classHeader t)).getLast? = some '\x7b' := List.getLast?_append
  have himports : ∀ line ∈ imports, line.getLast? ≠ some '\x7b' := by decide
  intro h
  exact himports _ h hl

theorem signatureLine_notMem_imports (m : Method) : signatureLine m ∉ imports := by
  have himports : ∀ line ∈ imports, line.head? ≠ some ' ' := by decide
  intro h
  exact himports _ h rfl

theorem classHeader_notMem_methodsLines (t : Template) (p : Program) :
    opened (classHeader t) ∉ methodsLines .current p := by
  have hkind := head?_classHeader t
  intro h
  simp only [methodsLines, List.mem_append, List.mem_singleton] at h
  have hhead : (opened (classHeader t)).head? ∈ [some 'p', none, some ' ', some '\x7d'] := by
    rcases h with (h | h) | h
    · rw [h]
      exact .head _
    · rcases head?_of_mem_methodParts h with h | h
      · rw [h]
        exact .tail _ (.head _)
      · rw [h]
        exact .tail _ (.tail _ (.head _))
    · rw [h]
      exact .tail _ (.tail _ (.tail _ (.head _)))
  have hne : ∀ c ∈ [some 'i', some 'a', some 'c'], c ∉ [some 'p', none, some ' ', some '\x7d'] := by
    decide
  exact hne _ hkind hhead

theorem mem_outputLines (h : line ∈ programLines p) : line ∈ outputLines p :=
  List.mem_append_right _ h

theorem complete_of_host (hh : host? p = some t) (hl : programLines p = mergedLines .current t p) :
    Complete p where
  templates := by
    intro u hu
    obtain ⟨ht, _⟩ := host?_eq_some.1 hh
    rw [ht, List.mem_singleton] at hu
    subst hu
    refine .inr ⟨.inl hh, mem_outputLines ?_⟩
    rw [hl, mergedLines]
    simp only [List.mem_append, List.mem_singleton, true_or]
  methods := by
    intro m hm
    apply mem_outputLines
    rw [hl, mergedLines]
    simp only [List.mem_append, signatureLine_mem hm, true_or, or_true]

theorem complete_of_main (hh : host? p = none) (hm : p.main ≠ [])
    (hl : programLines p = separateLines .current (classLines .current) p) : Complete p where
  templates := by
    intro t ht
    cases hu : isOwnUtility p t with
    | true =>
      have hn : t.name = p.name := eq_of_beq (Bool.and_eq_true_iff.1 hu).2
      refine .inr ⟨.inr ⟨hh, hm, hu⟩, mem_outputLines ?_⟩
      rw [hl, separateLines, hn]
      simp only [List.mem_append, List.mem_singleton, true_or]
    | false =>
      have hmem : opened (classHeader t) ∈ spaced (classLines .current t) := by
        simp only [spaced, classLines, List.mem_append, List.mem_singleton, true_or]
      have hf : t ∈ p.templates.filter fun u => !isOwnUtility p u :=
        List.mem_filter.2 ⟨ht, by rw [hu]; rfl⟩
      refine .inl (mem_outputLines ?_)
      rw [hl, separateLines]
      exact List.mem_append_right _ (List.mem_flatMap.2 ⟨t, hf, hmem⟩)
  methods := by
    intro m hm
    have hown := signatureLine_mem (List.mem_append_right
      ((p.templates.filter (isOwnUtility p)).flatMap (·.staticMethods)) hm)
    apply mem_outputLines
    rw [hl, separateLines]
    simp only [List.mem_append, hown, true_or, or_true]

theorem complete_single_iff (ht : p.templates = [t]) (hl : programLines p = classLines .current t) :
    Complete p ↔ ∀ m ∈ p.methods, signatureLine m ∈ classLines .current t := by
  constructor
  · intro hc m hm
    have hmem := hc.methods m hm
    rw [outputLines, hl, List.mem_append] at hmem
    exact hmem.resolve_left (signatureLine_notMem_imports m)
  · intro h
    constructor
    · intro u hu
      rw [ht, List.mem_singleton] at hu
      subst hu
      refine .inl (mem_outputLines ?_)
      rw [hl, classLines]
      simp only [List.mem_append, List.mem_singleton, true_or]
    · intro m hm
      apply mem_outputLines
      rw [hl]
      exact h m hm

theorem complete_methods_iff (hh : host? p = none) (hm : p.main = [])
    (hl : programLines p = methodsLines .current p) : Complete p ↔ p.templates = [] := by
  constructor
  · intro hc
    refine List.eq_nil_iff_forall_not_mem.2 fun t ht => ?_
    rcases hc.templates t ht with h | ⟨h | ⟨_, hm', _⟩, _⟩
    · rw [outputLines, hl, List.mem_append] at h
      exact h.elim (classHeader_notMem_imports t) (classHeader_notMem_methodsLines t p)
    · rw [hh] at h
      cases h
    · exact hm' hm
  · intro ht
    constructor
    · intro t hmem
      rw [ht] at hmem
      cases hmem
    · intro m hmem
      apply mem_outputLines
      rw [hl, methodsLines]
      simp only [List.mem_append, signatureLine_mem hmem, true_or, or_true]

/-- The Java text keeps all declarations if there is a main part or no template. Beside a single
template it keeps the methods if the template is merged with them, because it is named like the
program and has a main method of its own, or if its class happens to hold their signatures. All
other programs lose declarations. -/
theorem complete_iff (p : Program) :
    Complete p ↔
      p.main ≠ [] ∨ p.templates = [] ∨
        ∃ t, p.templates = [t] ∧ ((t.name = p.name ∧ hasMain t = true) ∨
          ∀ m ∈ p.methods, signatureLine m ∈ classLines .current t) := by
  have hlay := layout p
  generalize hl : programLines p = lines at hlay
  cases hlay with
  | @merged t host =>
    obtain ⟨ht, hn, hm⟩ := host?_eq_some.1 host
    refine iff_of_true (complete_of_host host hl) ?_
    rcases hm with hm | hm
    · exact .inl hm
    · exact .inr (.inr ⟨t, ht, .inl ⟨hn, hm⟩⟩)
  | separate host main => exact iff_of_true (complete_of_main host main hl) (.inl main)
  | @single t host main only =>
    rw [complete_single_iff only hl]
    constructor
    · intro h
      exact .inr (.inr ⟨t, only, .inr h⟩)
    · rintro (h | h | ⟨u, hu, ⟨hn, hm⟩ | h⟩)
      · exact absurd main h
      · rw [only] at h
        cases h
      · have hh := host?_eq_some.2 ⟨hu, hn, .inr hm⟩
        rw [host] at hh
        cases hh
      · rw [only] at hu
        cases hu
        exact h
  | methods host main several =>
    rw [complete_methods_iff host main hl]
    constructor
    · intro h
      exact .inr (.inl h)
    · rintro (h | h | ⟨t, ht, _⟩)
      · exact absurd main h
      · exact h
      · exact absurd ht (several t)

end JavaSketch.Java
