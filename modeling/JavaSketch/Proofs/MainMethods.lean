import JavaSketch.Proofs.Members
import JavaSketch.Proofs.Openings

namespace JavaSketch

namespace Template

variable {t : Template} {m : Method}

theorem constructor_of_addAll (ms : List Member) (h : m ∈ (t.addAll ms).constructors) :
    m ∈ t.constructors ∨ .constructor m ∈ ms := by
  induction ms generalizing t with
  | nil => exact .inl h
  | cons first ms ih =>
    rcases ih h with h | h
    · cases first with
      | constructor n =>
        rcases List.mem_append.1 h with h | h
        · exact .inl h
        · cases List.mem_singleton.1 h
          exact .inr List.mem_cons_self
      | _ => exact .inl h
    · exact .inr (List.mem_cons_of_mem _ h)

end Template

namespace Java

variable {p : Program} {t : Template} {m : Method} {ms : List Method} {line : Text}
  {lines cls : List Text} {className : Option Text} {writesMain : Bool}

def mainHead : Text := "public static void main(String[] args)"

def mainLine : Text := indented (opened mainHead)

/-- The number of methods in a class that have the header of a main method. -/
def mains (cls : List Text) : Nat := cls.count mainLine

def isMain (m : Method) : Bool := methodHead .current none m == mainHead

/-- The classes of the text, in their order. -/
def classes (p : Program) : List (List Text) :=
  if (host? p).isNone ∧ p.main ≠ [] then
    mainClassLines p :: (p.templates.filter fun t => !isOwnUtility p t).map (classLines .current)
  else [programLines p]

/-- A class of the text with the methods that it takes from the program. The flag says whether the
main part of the program is written into the class. -/
inductive ClassOf (p : Program) : List Text → List Method → Bool → Prop
  | merged {t : Template} (host : host? p = some t) :
    ClassOf p (mergedLines .current t p) (t.staticMethods ++ t.instanceMethods ++ p.methods) true
  | main (host : host? p = none) (main : p.main ≠ []) :
    ClassOf p (mainClassLines p)
      ((p.templates.filter (isOwnUtility p)).flatMap (·.staticMethods) ++ p.methods) true
  | separate {t : Template} (host : host? p = none) (main : p.main ≠ []) (mem : t ∈ p.templates)
    (own : isOwnUtility p t = false) :
    ClassOf p (classLines .current t) (t.staticMethods ++ t.instanceMethods) false
  | single {t : Template} (host : host? p = none) (main : p.main = []) (only : p.templates = [t]) :
    ClassOf p (classLines .current t) (t.staticMethods ++ t.instanceMethods) false
  | methods (host : host? p = none) (main : p.main = []) (several : ∀ t, p.templates ≠ [t]) :
    ClassOf p (methodsLines .current p) p.methods false

theorem mains_append (lines more : List Text) : mains (lines ++ more) = mains lines + mains more :=
  List.count_append

theorem mains_eq_zero (h : ∀ line ∈ lines, line.getLast? ≠ some '\x7b') : mains lines = 0 := by
  apply List.count_eq_zero.2
  intro hm
  exact h _ hm rfl

theorem mains_block (head : Text) (body : List Text) :
    mains (block head body) = if head = mainHead then 1 else 0 := by
  have hbody : mains (body.map bodyLine) = 0 := by
    apply List.count_eq_zero.2
    intro hm
    obtain ⟨s, _, hs⟩ := List.mem_map.1 hm
    have hfour : (bodyLine s)[4]? = some ' ' := rfl
    rw [hs] at hfour
    cases hfour
  have hhead : mains [indented (opened head)] = if head = mainHead then 1 else 0 := by
    rw [mains, List.count_singleton]
    by_cases h : head = mainHead
    · rw [h, if_pos rfl]
      exact if_pos BEq.rfl
    · rw [if_neg h]
      apply if_neg
      rw [beq_iff_eq]
      intro he
      exact h (List.append_cancel_right (List.append_cancel_left he))
  rw [block, mains_append, mains_append, hbody, hhead]
  rfl

theorem mains_methodParts (className : Option Text) (ms : List Method) :
    mains (methodParts .current className ms) =
      ms.countP fun m => methodHead .current className m == mainHead := by
  induction ms with
  | nil => rfl
  | cons m ms ih =>
    have hparts : methodParts .current className (m :: ms) =
        block (methodHead .current className m) m.body ++
          ([[]] ++ methodParts .current className ms) := List.append_assoc _ _ _
    have hempty : mains [[]] = 0 := rfl
    rw [hparts, mains_append, mains_append, hempty, ih, mains_block, List.countP_cons,
      Nat.zero_add, Nat.add_comm]
    simp only [beq_iff_eq]

theorem getLast?_variableLine (isStatic : Bool) (v : Variable) :
    (variableLine isStatic v).getLast? = some ';' := by
  rw [variableLine, indented, ← List.append_assoc]
  exact List.getLast?_append

theorem mains_variables (isStatic : Bool) (vs : List Variable) :
    mains (variableLines isStatic vs) = 0 := by
  apply mains_eq_zero
  intro line hl
  rw [variableLines] at hl
  split at hl
  · cases hl
  · rcases List.mem_append.1 hl with hl | hl
    · obtain ⟨v, _, rfl⟩ := List.mem_map.1 hl
      rw [getLast?_variableLine]
      decide
    · rw [List.mem_singleton.1 hl]
      decide

theorem mains_abstract (ms : List Method) :
    mains (ms.flatMap fun m => [abstractLine m, []]) = 0 := by
  apply mains_eq_zero
  intro line hl
  obtain ⟨m, _, hl⟩ := List.mem_flatMap.1 hl
  rcases List.mem_cons.1 hl with rfl | hl
  · have hlast : (abstractLine m).getLast? = some ';' := by
      rw [abstractLine, indented, ← List.append_assoc]
      exact List.getLast?_append
    rw [hlast]
    decide
  · rw [List.mem_singleton.1 hl]
    decide

/-- A constructor is named like its class, and a name has no blanks. -/
theorem constructor_ne_main (hn : IsName t.name) (hm : m.isConstructor = true) :
    methodHead .current (some t.name) m ≠ mainHead := by
  have hname : Style.current.constructorName (some t.name) m = t.name := by
    obtain ⟨c, name, hc⟩ := List.exists_cons_of_ne_nil hn.ne_nil
    rw [hc]
    rfl
  have hne (before rest : Text) (hb : '(' ∉ before) (hs : ' ' ∈ before) :
      call t.name m.params ≠ before ++ '(' :: rest := by
    intro h
    have hcall : t.name ++ '(' :: (paramList m.params ++ ")") = before ++ '(' :: rest := by
      rw [← h, call]
      simp only [List.append_assoc]
      rfl
    rw [← Text.eq_of_append_cons hcall (hn.notMem rfl) hb] at hs
    exact hn.notMem rfl hs
  rw [methodHead, if_pos hm, hname]
  intro h
  cases ha : m.access with
  | pub =>
    rw [ha] at h
    have hpublic : "public ".toList ++ call t.name m.params =
        "public ".toList ++ ("static void main".toList ++ '(' :: "String[] args)".toList) := h
    exact hne _ _ (by decide) (by decide) (List.append_cancel_left hpublic)
  | priv =>
    rw [ha] at h
    cases congrArg (·[1]?) h
  | prot =>
    rw [ha] at h
    cases congrArg (·[1]?) h
  | pack =>
    rw [ha] at h
    exact hne "public static void main" "String[] args)" (by decide) (by decide) h

theorem mains_accessor (access : Access) (v : Variable) :
    mains (accessorLines .current access v) = 0 := by
  have hget : Style.current.accessLead access ++ v.type ++ " " ++ call (getterName v) [] ≠
      mainHead := by
    intro h
    have hends : (Style.current.accessLead access ++ v.type ++ " " ++ getterName v) ++ "()" =
        "public static void main(String[] arg".toList ++ "s)" := by
      refine Eq.trans ?_ h
      rw [call]
      simp only [List.append_assoc]
      rfl
    cases List.append_inj_right' hends rfl
  have hset : Style.current.accessLead access ++ "void " ++
      call (setterName v) [⟨v.name, v.type⟩] ≠ mainHead := by
    intro h
    cases access with
    | pub => cases congrArg (·[7]?) h
    | priv => cases congrArg (·[1]?) h
    | prot => cases congrArg (·[1]?) h
    | pack => cases congrArg (·[0]?) h
  rw [accessorLines, getterLines, setterLines, mains_append, mains_append, mains_block, mains_block,
    if_neg hget, if_neg hset]
  rfl

theorem mains_accessorParts (t : Template) : mains (accessorParts .current t) = 0 := by
  rw [accessorParts]
  induction t.accessors with
  | nil => rfl
  | cons a accessors ih =>
    rw [List.flatMap_cons, mains_append, ih]
    split
    · rw [spaced, mains_append, mains_accessor]
      rfl
    · rfl

theorem mains_stateParts (hn : IsName t.name) (hc : ∀ m ∈ t.constructors, m.isConstructor = true) :
    mains (stateParts .current t) = 0 := by
  have hnone : (t.constructors.countP fun m =>
      methodHead .current (some t.name) m == mainHead) = 0 := by
    apply List.countP_eq_zero.2
    intro m hm
    rw [beq_iff_eq]
    exact constructor_ne_main hn (hc m hm)
  rw [stateParts, mains_append, mains_append, mains_variables, mains_variables, mains_methodParts,
    hnone]

theorem mains_head (h : line.head? ≠ some ' ') : mains [line] = 0 := by
  apply List.count_eq_zero.2
  intro hm
  rw [← List.mem_singleton.1 hm] at h
  exact h rfl

theorem mains_classHeader (t : Template) : mains [opened (classHeader t)] = 0 := by
  apply mains_head
  intro h
  have hkind := head?_classHeader t
  rw [h] at hkind
  revert hkind
  decide

theorem mains_publicHeader (name : Text) : mains [publicHeader name] = 0 := mains_head nofun

theorem mains_main (body : List Text) : mains (mainLines body) = 1 := by
  rw [mainLines, mains_block]
  exact if_pos rfl

theorem mains_closing : mains [closing] = 0 := rfl

theorem mains_classLines (hn : IsName t.name) (hc : ∀ m ∈ t.constructors, m.isConstructor = true) :
    mains (classLines .current t) = (t.staticMethods ++ t.instanceMethods).countP isMain := by
  have hstate : mains (if t.isInterface then [] else stateParts .current t) = 0 := by
    split
    · rfl
    · exact mains_stateParts hn hc
  have haccess : mains (if t.isInterface then [] else accessorParts .current t) = 0 := by
    split
    · rfl
    · exact mains_accessorParts t
  simp only [classLines, mains_append, mains_classHeader, hstate, haccess, behaviourParts,
    mains_methodParts, mains_abstract, mains_closing, Nat.zero_add, Nat.add_zero]
  rfl

theorem mains_mergedLines (hn : IsName t.name) (hc : ∀ m ∈ t.constructors, m.isConstructor = true)
    (p : Program) : mains (mergedLines .current t p) =
      (t.staticMethods ++ t.instanceMethods ++ p.methods).countP isMain + 1 := by
  rw [List.countP_append]
  simp only [mergedLines, mains_append, mains_publicHeader, mains_stateParts hn hc, behaviourParts,
    mains_methodParts, mains_accessorParts, mains_main, mains_closing, Nat.zero_add, Nat.add_zero]
  rfl

theorem mains_mainClassLines (p : Program) : mains (mainClassLines p) =
    ((p.templates.filter (isOwnUtility p)).flatMap (·.staticMethods) ++ p.methods).countP isMain +
      1 := by
  simp only [mainClassLines, mains_append, mains_publicHeader, mains_methodParts, mains_main,
    mains_closing, Nat.zero_add, Nat.add_zero]
  rfl

theorem mains_methodsLines (p : Program) :
    mains (methodsLines .current p) = p.methods.countP isMain := by
  simp only [methodsLines, mains_append, mains_publicHeader, mains_methodParts, mains_closing,
    Nat.zero_add, Nat.add_zero]
  rfl

/-- A class has a main method for each of its methods with that header, and one for the main part
of the program. -/
theorem ClassOf.mains_eq (h : ClassOf p cls ms writesMain)
    (hp : ∀ t ∈ p.templates, IsName t.name ∧ ∀ m ∈ t.constructors, m.isConstructor = true) :
    mains cls = ms.countP isMain + if writesMain then 1 else 0 := by
  cases h with
  | @merged t host =>
    have ht : t ∈ p.templates := (host?_eq_some.1 host).1 ▸ List.mem_singleton_self t
    exact mains_mergedLines (hp t ht).1 (hp t ht).2 p
  | main => exact mains_mainClassLines p
  | @separate t _ _ mem _ => exact mains_classLines (hp t mem).1 (hp t mem).2
  | @single t _ _ only =>
    have ht : t ∈ p.templates := only ▸ List.mem_singleton_self t
    exact mains_classLines (hp t ht).1 (hp t ht).2
  | methods => exact mains_methodsLines p

/-- The text is made of its classes, with the imports before them. -/
theorem toJava_classes (p : Program) : ∃ gap : List Text, gap ∈ [[], [[]]] ∧
    p.toJava = Text.unlines (imports ++ (classes p).flatMap (· ++ gap)) := by
  rw [classes]
  split
  case isTrue h =>
    refine ⟨[[]], by decide, ?_⟩
    rw [Program.toJava, programLines_separate (Option.isNone_iff_eq_none.1 h.1) h.2,
      List.flatMap_cons, List.flatMap_map, List.append_assoc]
    rfl
  case isFalse h =>
    refine ⟨[], by decide, ?_⟩
    rw [Program.toJava, List.flatMap_singleton, List.append_nil]

theorem classOf_layout (h : Layout p lines) (hs : ¬((host? p).isNone ∧ p.main ≠ [])) :
    ∃ ms writesMain, ClassOf p lines ms writesMain := by
  cases h with
  | merged host => exact ⟨_, _, .merged host⟩
  | separate host main => exact absurd ⟨Option.isNone_iff_eq_none.2 host, main⟩ hs
  | single host main only => exact ⟨_, _, .single host main only⟩
  | methods host main several => exact ⟨_, _, .methods host main several⟩

theorem classOf_mem (h : cls ∈ classes p) : ∃ ms writesMain, ClassOf p cls ms writesMain := by
  rw [classes] at h
  split at h
  case isTrue hs =>
    have host := Option.isNone_iff_eq_none.1 hs.1
    rcases List.mem_cons.1 h with rfl | h
    · exact ⟨_, _, .main host hs.2⟩
    · obtain ⟨t, ht, rfl⟩ := List.mem_map.1 h
      obtain ⟨hm, ho⟩ := List.mem_filter.1 ht
      exact ⟨_, _, .separate host hs.2 hm ((Bool.not_eq_true' _).mp ho)⟩
  case isFalse hs =>
    rw [List.mem_singleton.1 h]
    exact classOf_layout (layout p) hs

theorem classes_of_host (h : host? p = some t) : classes p = [mergedLines .current t p] := by
  rw [classes, h, if_neg fun h => Bool.false_ne_true h.1, programLines, h]

end Java

namespace Program

variable {v : Vocabulary} {p : Program} {t : Template} {source : Text}

theorem named_of_read (h : read v source = .ok p) :
    ∀ t ∈ p.templates, IsName t.name ∧ ∀ m ∈ t.constructors, m.isConstructor = true := by
  intro t ht
  obtain ⟨line, _, word, rest, n, hr⟩ := template_of_read h ht
  obtain ⟨ho, ms, hfit, he⟩ := Template.opening_of_read hr
  refine ⟨ho.isName, fun m hm => ?_⟩
  rw [he] at hm
  rcases Template.constructor_of_addAll ms hm with hm | hm
  · cases hm
  · exact hfit _ hm

/-- Every class of an accepted program has as many main methods as it has methods with that header,
and one more if the main part of the program is written into it. So it has at most one exactly if no
method has the header where the main part is written, and at most one method elsewhere. A program
that is merged into its only template has two as soon as the template has a main section. -/
theorem mains_of_read (v : Vocabulary) (source : Text) (p : Program) (h : read v source = .ok p) :
    (∃ gap : List Text, gap ∈ [[], [[]]] ∧
      p.toJava = Text.unlines (Java.imports ++ (Java.classes p).flatMap (· ++ gap))) ∧
    (∀ cls ∈ Java.classes p, ∃ ms writesMain, Java.ClassOf p cls ms writesMain ∧
      (Java.mains cls ≤ 1 ↔ ms.countP Java.isMain ≤ if writesMain then 0 else 1)) ∧
    (∀ t body, p.templates = [t] → t.name = p.name → Template.mainMethod body ∈ t.staticMethods →
      ∃ cls ∈ Java.classes p, 2 ≤ Java.mains cls) := by
  have hp := named_of_read h
  refine ⟨Java.toJava_classes p, fun cls hc => ?_, fun t body ht hn hm => ?_⟩
  · obtain ⟨ms, writesMain, hclass⟩ := Java.classOf_mem hc
    refine ⟨ms, writesMain, hclass, ?_⟩
    rw [hclass.mains_eq hp]
    cases writesMain with
    | true =>
      rw [if_pos rfl, if_pos rfl]
      omega
    | false =>
      rw [if_neg Bool.false_ne_true, if_neg Bool.false_ne_true]
      omega
  · have hmain : Java.hasMain t = true := List.any_eq_true.2 ⟨_, hm, by rfl⟩
    have host : Java.host? p = some t := Java.host?_eq_some.2 ⟨ht, hn, .inr hmain⟩
    have hcount : 0 < (t.staticMethods ++ t.instanceMethods ++ p.methods).countP Java.isMain := by
      apply List.countP_pos_iff.2
      exact ⟨_, List.mem_append_left _ (List.mem_append_left _ hm), by rfl⟩
    refine ⟨_, Java.classes_of_host host ▸ List.mem_singleton_self _, ?_⟩
    rw [(Java.ClassOf.merged host).mains_eq hp]
    exact Nat.succ_le_succ hcount

theorem two_mains_of_main_section :
    ∃ p, read Vocabulary.standard "class A\n    main\n        x()" = .ok p ∧
      ∃ cls ∈ Java.classes p, 2 ≤ Java.mains cls := by
  let m := Template.mainMethod ["x();"]
  let t : Template := { name := "A", staticMethods := [m] }
  let p : Program := { name := "A", templates := [t] }
  have h : read Vocabulary.standard "class A\n    main\n        x()" = .ok p := by decide +kernel
  exact ⟨p, h, (mains_of_read .standard _ p h).2.2 t ["x();"] rfl rfl (List.mem_singleton_self m)⟩

end Program

end JavaSketch
