import JavaSketch.Proofs.Declarations
import JavaSketch.Proofs.Text
import Mathlib.Data.List.Perm.Subperm

namespace JavaSketch.Java

open scoped List

def parentClause : Option Text → List Text
  | none | some [] => []
  | some name => ["extends", name]

def interfacesClause (names : List Text) : List Text :=
  if names.isEmpty then [] else ["implements", Text.join ", " names]

def clauses (t : Template) : List Text := parentClause t.parent ++ interfacesClause t.interfaces

def classKinds : List Text := ["class", "abstract class", "public class", "public abstract class"]

def headerOf (kind : Text) (t : Template) : Text :=
  opened (Text.join " " (kind :: t.name :: clauses t))

/-- The lines of each variable, constructor and method. -/
def memberParts (t : Template) : List (List Text) :=
  t.staticVars.map (fun v => [variableLine true v]) ++
    t.instanceVars.map (fun v => [variableLine false v]) ++
    t.constructors.map (methodLines .current (some t.name)) ++
    (t.staticMethods ++ t.instanceMethods).map (methodLines .current none) ++
    t.abstractMethods.map (fun m => [abstractLine m])

/-- The class has the clauses of the template in its header and all of its members, in any order
and each with lines of its own. -/
structure Carries (cls : List Text) (t : Template) : Prop where
  header : ∃ kind ∈ classKinds, cls.head? = some (headerOf kind t)
  members : ∀ part ∈ memberParts t, part <:+: cls
  apart : (memberParts t).flatten <+~ cls

/-- The public class beside the classes of the templates. -/
def mainClassLines (p : Program) : List Text :=
  [publicHeader p.name] ++
    methodParts .current none
      ((p.templates.filter (isOwnUtility p)).flatMap (·.staticMethods) ++ p.methods) ++
    mainLines p.main ++ [closing]

/-- The class into which a template is written. -/
inductive Emits (p : Program) (t : Template) : List Text → Prop
  | merged (host : host? p = some t) : Emits p t (mergedLines .current t p)
  | utility (mem : t ∈ p.templates) (host : host? p = none) (main : p.main ≠ [])
    (own : isOwnUtility p t = true) : Emits p t (mainClassLines p)
  | separate (mem : t ∈ p.templates) (host : host? p = none) (main : p.main ≠ [])
    (own : isOwnUtility p t = false) : Emits p t (classLines .current t)
  | single (host : host? p = none) (main : p.main = []) (only : p.templates = [t]) :
    Emits p t (classLines .current t)

/-- The parts stand one after another in the lines, with other lines around them. -/
inductive Laid : List (List Text) → List Text → Prop
  | nil (lines : List Text) : Laid [] lines
  | skip {parts : List (List Text)} {lines : List Text} (line : Text) (rest : Laid parts lines) :
    Laid parts (line :: lines)
  | part {parts : List (List Text)} {lines : List Text} (part : List Text)
    (rest : Laid parts lines) : Laid (part :: parts) (part ++ lines)

variable {p : Program} {t : Template} {kind line : Text} {lines more cls part : List Text}
  {parts others : List (List Text)}

namespace Laid

theorem skips (more : List Text) (h : Laid parts lines) : Laid parts (more ++ lines) := by
  induction more with
  | nil => exact h
  | cons line more ih => exact .skip line ih

theorem append (h : Laid parts lines) (h' : Laid others more) :
    Laid (parts ++ others) (lines ++ more) := by
  induction h with
  | nil lines => exact h'.skips lines
  | skip line _ ih => exact .skip line ih
  | part part _ ih =>
    rw [List.append_assoc]
    exact .part part ih

theorem append_right (more : List Text) (h : Laid parts lines) : Laid parts (lines ++ more) := by
  have h' := h.append (.nil more)
  rw [List.append_nil] at h'
  exact h'

theorem single (part more : List Text) : Laid [part] (part ++ more) := .part part (.nil more)

theorem map {α : Type} {f g : α → List Text} (l : List α) (h : ∀ a, Laid [f a] (g a)) :
    Laid (l.map f) (l.flatMap g) := by
  induction l with
  | nil => exact .nil _
  | cons a l ih => exact (h a).append ih

theorem isInfix (h : Laid parts lines) (hp : part ∈ parts) : part <:+: lines := by
  induction h with
  | nil => cases hp
  | skip line _ ih => exact List.infix_cons (ih hp)
  | @part parts lines first _ ih =>
    rcases List.mem_cons.1 hp with rfl | hp
    · exact (List.prefix_append part lines).isInfix
    · exact (ih hp).trans (List.suffix_append first lines).isInfix

theorem sublist (h : Laid parts lines) : parts.flatten <+ lines := by
  induction h with
  | nil => exact List.nil_sublist _
  | skip line _ ih => exact ih.cons line
  | part part _ ih => exact (List.Sublist.refl part).append ih

end Laid

theorem Carries.of_laid (hk : kind ∈ classKinds) (h : Laid (memberParts t) lines) :
    Carries (headerOf kind t :: lines) t where
  header := ⟨kind, hk, rfl⟩
  members := fun _ hp => (h.skip _).isInfix hp
  apart := (h.skip _).sublist.subperm

theorem laid_methods (className : Option Text) (ms : List Method) :
    Laid (ms.map (methodLines .current className)) (methodParts .current className ms) :=
  .map ms fun m => .single (methodLines .current className m) [[]]

theorem laid_variables (isStatic : Bool) (vs : List Variable) :
    Laid (vs.map fun v => [variableLine isStatic v]) (variableLines isStatic vs) := by
  rw [variableLines]
  split
  · rename_i he
    rw [List.isEmpty_iff.1 he]
    exact .nil _
  · apply Laid.append_right
    have h : Laid (vs.map fun v => [variableLine isStatic v])
        (vs.flatMap fun v => [variableLine isStatic v]) :=
      .map vs fun v => .single [variableLine isStatic v] []
    rw [← List.map_eq_flatMap] at h
    exact h

theorem laid_state (t : Template) :
    Laid (t.staticVars.map (fun v => [variableLine true v]) ++
      t.instanceVars.map (fun v => [variableLine false v]) ++
      t.constructors.map (methodLines .current (some t.name))) (stateParts .current t) :=
  ((laid_variables true t.staticVars).append (laid_variables false t.instanceVars)).append
    (laid_methods (some t.name) t.constructors)

theorem laid_abstract (ms : List Method) :
    Laid (ms.map fun m => [abstractLine m]) (ms.flatMap fun m => [abstractLine m, []]) :=
  .map ms fun m => .single [abstractLine m] [[]]

theorem opened_classHeader (hi : t.isInterface = false) :
    ∃ kind ∈ classKinds, opened (classHeader t) = headerOf kind t := by
  cases ha : t.isAbstract with
  | true =>
    refine ⟨"abstract class", by decide, ?_⟩
    rw [classHeader, hi, ha, List.append_assoc]
    rfl
  | false =>
    refine ⟨"class", by decide, ?_⟩
    rw [classHeader, hi, ha, List.append_assoc]
    rfl

theorem headerOf_eq (kind : Text) (t : Template) :
    headerOf kind t = opened (kind ++ " " ++ t.name ++ (clauses t).flatMap (" ".toList ++ ·)) := by
  rw [headerOf, Text.join_cons, List.flatMap_cons]
  simp only [List.append_assoc]

theorem publicHeader_of_nil (h : clauses t = []) :
    publicHeader t.name = headerOf "public class" t := by
  rw [headerOf_eq, h, List.flatMap_nil, List.append_nil]
  rfl

/-- The header of the public class has no clauses. -/
theorem clauses_eq_nil (hk : kind ∈ classKinds) (h : publicHeader t.name = headerOf kind t) :
    clauses t = [] := by
  rw [headerOf_eq] at h
  have h := List.append_cancel_right h
  simp only [classKinds, List.mem_cons, List.not_mem_nil, or_false] at hk
  rcases hk with rfl | rfl | rfl | rfl
  · cases congrArg List.head? h
  · cases congrArg List.head? h
  · have hn : (clauses t).flatMap (" ".toList ++ ·) = [] := List.self_eq_append_right.1 h
    cases hc : clauses t with
    | nil => rfl
    | cons word words =>
      rw [hc] at hn
      cases hn
  · cases congrArg (·[7]?) h

theorem carries_classLines (hi : t.isInterface = false) : Carries (classLines .current t) t := by
  obtain ⟨kind, hk, he⟩ := opened_classHeader hi
  rw [classLines, hi, he]
  simp only [Bool.false_eq_true, ↓reduceIte]
  refine .of_laid hk (Laid.append_right _ (Laid.append_right _ ?_))
  exact ((laid_state t).append (laid_methods none _)).append (laid_abstract _)

theorem carries_mergedLines (hc : clauses t = []) (ha : t.abstractMethods = []) :
    Carries (mergedLines .current t p) t := by
  have hl : Laid (memberParts t) (stateParts .current t ++ behaviourParts .current t) := by
    rw [memberParts, ha, List.map_nil, List.append_nil]
    exact (laid_state t).append (laid_methods none _)
  rw [mergedLines, publicHeader_of_nil hc]
  refine .of_laid (by decide) ?_
  exact (((hl.append_right _).append_right _).append_right _).append_right _

theorem isOwnUtility_eq_true :
    isOwnUtility p t = true ↔ t.name = p.name ∧ t.instanceVars = [] ∧ t.constructors = [] ∧
      t.accessors = [] ∧ t.instanceMethods = [] ∧ t.staticMethods ≠ [] := by
  simp only [isOwnUtility, isUtility, Bool.and_eq_true, List.isEmpty_iff, Bool.not_eq_true',
    List.isEmpty_eq_false_iff, beq_iff_eq]
  tauto

theorem carries_mainClassLines (hm : t ∈ p.templates) (hu : isOwnUtility p t = true)
    (hc : clauses t = []) (ha : t.abstractMethods = []) (hv : t.staticVars = []) :
    Carries (mainClassLines p) t := by
  obtain ⟨hn, hi, hk, _, hs, _⟩ := isOwnUtility_eq_true.1 hu
  have hp : memberParts t = t.staticMethods.map (methodLines .current none) := by
    rw [memberParts, hv, hi, hk, hs, ha]
    simp only [List.map_nil, List.nil_append, List.append_nil]
  obtain ⟨before, after, hf⟩ := List.append_of_mem (List.mem_filter.2 ⟨hm, hu⟩)
  rw [mainClassLines, ← hn, publicHeader_of_nil hc, hf]
  refine .of_laid (by decide) (Laid.append_right _ (Laid.append_right _ ?_))
  rw [hp]
  simp only [methodParts, List.flatMap_append, List.flatMap_cons]
  exact (((laid_methods none t.staticMethods).append_right _).skips _).append_right _

/-- A line that ends in a semicolon and is indented once. The lines of a class are told apart by
counting these, because the line of a variable can read like that of an abstract method. -/
def isDeclaring (s : Text) : Bool := s.getLast? == some ';' && s[4]? != some ' '

theorem isDeclaring_indented {c : Char} (hc : c ≠ ' ') (s : Text) :
    isDeclaring (indented (c :: s ++ ";")) = true := by
  have hl : (indented (c :: s ++ ";")).getLast? = some ';' := by
    rw [indented, ← List.append_assoc]
    exact List.getLast?_append
  have hi : (indented (c :: s ++ ";"))[4]? = some c := rfl
  rw [isDeclaring, hl, hi]
  simp [hc]

theorem accessLead_append (access : Access) {c : Char} (hc : c ≠ ' ') (s : Text) :
    ∃ d r, d ≠ ' ' ∧ Style.current.accessLead access ++ (c :: s) = d :: r := by
  cases access with
  | pub => exact ⟨'p', _, by decide, rfl⟩
  | priv => exact ⟨'p', _, by decide, rfl⟩
  | prot => exact ⟨'p', _, by decide, rfl⟩
  | pack => exact ⟨c, s, hc, rfl⟩

theorem isDeclaring_variableLine (v : Variable) : isDeclaring (variableLine true v) = true := by
  obtain ⟨d, r, hd, he⟩ := accessLead_append v.access (by decide : 's' ≠ ' ') "tatic "
  have hs : Style.current.accessLead v.access ++ staticWord true = d :: r := he
  rw [variableLine, hs]
  exact isDeclaring_indented hd _

theorem isDeclaring_abstractLine (m : Method) : isDeclaring (abstractLine m) = true := by
  obtain ⟨d, r, hd, he⟩ := accessLead_append m.access (by decide : 'a' ≠ ' ') "bstract "
  have hs : Style.current.accessLead m.access ++ "abstract " = d :: r := he
  rw [abstractLine, hs]
  exact isDeclaring_indented hd _

theorem isDeclaring_opened (head : Text) : isDeclaring (opened head) = false := by
  have hl : (opened head).getLast? = some '\x7b' := List.getLast?_append
  rw [isDeclaring, hl]
  rfl

theorem isDeclaring_block {head : Text} {body : List Text} (h : line ∈ block head body) :
    isDeclaring line = false := by
  simp only [block, List.mem_append, List.mem_singleton, List.mem_map] at h
  rcases h with (rfl | ⟨s, _, rfl⟩) | rfl
  · rw [indented_opened]
    exact isDeclaring_opened _
  · have hi : (bodyLine s)[4]? = some ' ' := rfl
    rw [isDeclaring, hi]
    exact Bool.and_false _
  · rfl

theorem isDeclaring_methodParts {className : Option Text} {ms : List Method}
    (h : line ∈ methodParts .current className ms) : isDeclaring line = false := by
  obtain ⟨m, _, hl⟩ := List.mem_flatMap.1 h
  rcases List.mem_append.1 hl with hl | hl
  · exact isDeclaring_block hl
  · rw [List.mem_singleton.1 hl]
    rfl

theorem isDeclaring_accessorParts (h : line ∈ accessorParts .current t) :
    isDeclaring line = false := by
  obtain ⟨a, _, hl⟩ := List.mem_flatMap.1 h
  split at hl
  · simp only [spaced, accessorLines, Style.current, ↓reduceIte, List.mem_append,
      List.mem_singleton] at hl
    rcases hl with ((hl | rfl) | hl) | rfl
    · exact isDeclaring_block hl
    · rfl
    · exact isDeclaring_block hl
    · rfl
  · cases hl

theorem countP_eq_zero_of (h : ∀ line ∈ lines, isDeclaring line = false) :
    lines.countP isDeclaring = 0 :=
  List.countP_eq_zero.2 fun line hl => Bool.eq_false_iff.1 (h line hl)

theorem countP_variables (isStatic : Bool) (vs : List Variable) :
    (variableLines isStatic vs).countP isDeclaring =
      (vs.map fun v => [variableLine isStatic v]).flatten.countP isDeclaring := by
  have hf : (vs.map fun v => [variableLine isStatic v]).flatten =
      vs.map (variableLine isStatic) := by
    rw [← List.flatMap_def, ← List.map_eq_flatMap]
  rw [variableLines, hf]
  split
  · rename_i he
    rw [List.isEmpty_iff.1 he]
    rfl
  · rw [spaced, List.countP_append]
    rfl

theorem countP_methodParts (className : Option Text) (ms : List Method) :
    (methodParts .current className ms).countP isDeclaring = 0 :=
  countP_eq_zero_of fun _ => isDeclaring_methodParts

theorem countP_methods (className : Option Text) (ms : List Method) :
    (ms.map (methodLines .current className)).flatten.countP isDeclaring = 0 := by
  have h := (laid_methods className ms).sublist.countP_le (p := isDeclaring)
  rw [countP_methodParts] at h
  exact Nat.le_zero.1 h

theorem countP_abstract (ms : List Method) :
    (ms.map fun m => [abstractLine m]).flatten.countP isDeclaring = ms.length := by
  rw [← List.flatMap_def, ← List.map_eq_flatMap, List.countP_map, List.countP_eq_length]
  exact fun m _ => isDeclaring_abstractLine m

/-- The members have as many declaring lines as the state of the class, and one more for each
abstract method. -/
theorem countP_memberParts (t : Template) :
    (memberParts t).flatten.countP isDeclaring =
      (stateParts .current t).countP isDeclaring + t.abstractMethods.length := by
  simp only [memberParts, stateParts, List.flatten_append, List.countP_append, countP_variables,
    countP_methods, countP_methodParts, countP_abstract, Nat.add_zero]

theorem countP_publicHeader (name : Text) : [publicHeader name].countP isDeclaring = 0 :=
  countP_eq_zero_of (List.forall_mem_singleton.2 (isDeclaring_opened _))

theorem countP_mainLines (body : List Text) : (mainLines body).countP isDeclaring = 0 :=
  countP_eq_zero_of fun _ => isDeclaring_block

theorem countP_closing : [closing].countP isDeclaring = 0 := rfl

theorem countP_mergedLines (t : Template) (p : Program) :
    (mergedLines .current t p).countP isDeclaring =
      (stateParts .current t).countP isDeclaring := by
  have ha : (accessorParts .current t).countP isDeclaring = 0 :=
    countP_eq_zero_of fun _ => isDeclaring_accessorParts
  simp only [mergedLines, behaviourParts, List.countP_append, countP_publicHeader,
    countP_methodParts, ha, countP_mainLines, countP_closing, Nat.add_zero, Nat.zero_add]

theorem countP_mainClassLines (p : Program) : (mainClassLines p).countP isDeclaring = 0 := by
  simp only [mainClassLines, List.countP_append, countP_publicHeader, countP_methodParts,
    countP_mainLines, countP_closing]

theorem mem_stateParts {v : Variable} (h : v ∈ t.staticVars) :
    variableLine true v ∈ stateParts .current t := by
  have hv : [variableLine true v] <:+: stateParts .current t := by
    refine (laid_state t).isInfix (List.mem_append_left _ (List.mem_append_left _ ?_))
    exact List.mem_map_of_mem h
  exact hv.subset (List.mem_singleton_self _)

theorem Carries.of_mergedLines (h : Carries (mergedLines .current t p) t) :
    clauses t = [] ∧ t.abstractMethods = [] := by
  obtain ⟨kind, hk, hh⟩ := h.header
  have hn := h.apart.countP_le isDeclaring
  rw [countP_memberParts, countP_mergedLines] at hn
  refine ⟨clauses_eq_nil hk (Option.some.inj hh), List.eq_nil_of_length_eq_zero ?_⟩
  omega

theorem Carries.of_mainClassLines (hn : t.name = p.name) (h : Carries (mainClassLines p) t) :
    clauses t = [] ∧ t.abstractMethods = [] ∧ t.staticVars = [] := by
  obtain ⟨kind, hk, hh⟩ := h.header
  have hz := h.apart.countP_le isDeclaring
  rw [countP_memberParts, countP_mainClassLines] at hz
  have hs : (stateParts .current t).countP isDeclaring = 0 := by omega
  have hp : publicHeader t.name = headerOf kind t := by
    rw [hn]
    exact Option.some.inj hh
  refine ⟨clauses_eq_nil hk hp, List.eq_nil_of_length_eq_zero (by omega), ?_⟩
  refine List.eq_nil_iff_forall_not_mem.2 fun v hv => ?_
  exact List.countP_eq_zero.1 hs _ (mem_stateParts hv) (isDeclaring_variableLine v)

theorem programLines_separate (hh : host? p = none) (hm : p.main ≠ []) :
    programLines p = mainClassLines p ++ ([] ::
      (p.templates.filter fun t => !isOwnUtility p t).flatMap fun t =>
        spaced (classLines .current t)) := by
  have he : p.main.isEmpty = false := List.isEmpty_eq_false_iff.2 hm
  simp only [programLines, hh, he, separateLines, mainClassLines, List.append_assoc]
  rfl

theorem Emits.isInfix (h : Emits p t cls) : cls <:+: outputLines p := by
  rw [outputLines]
  cases h with
  | merged host =>
    rw [programLines, host]
    exact (List.suffix_append _ _).isInfix
  | utility mem host main own =>
    rw [programLines_separate host main]
    exact ⟨imports, _, rfl⟩
  | separate mem host main own =>
    have hf : t ∈ p.templates.filter fun u => !isOwnUtility p u :=
      List.mem_filter.2 ⟨mem, by rw [own]; rfl⟩
    have hl := (Laid.map (p.templates.filter fun u => !isOwnUtility p u)
      fun u => .single (classLines .current u) [[]]).isInfix (List.mem_map_of_mem hf)
    rw [programLines_separate host main]
    refine hl.trans ((List.suffix_cons [] _).isInfix.trans ?_)
    rw [← List.append_assoc]
    exact (List.suffix_append _ _).isInfix
  | single host main only =>
    rw [programLines, host, main, only]
    exact (List.suffix_append _ _).isInfix

/-- A template without a class is not in the text. -/
theorem classHeader_notMem_of_lost (ht : t ∈ p.templates) (hl : ∀ cls, ¬ Emits p t cls) :
    opened (classHeader t) ∉ outputLines p := by
  have hlay := layout p
  rw [outputLines]
  generalize programLines p = lines at hlay
  cases hlay with
  | @merged u host =>
    obtain ⟨hu, _⟩ := host?_eq_some.1 host
    rw [hu, List.mem_singleton] at ht
    subst ht
    exact absurd (.merged host) (hl _)
  | separate host main =>
    cases hu : isOwnUtility p t with
    | true => exact absurd (.utility ht host main hu) (hl _)
    | false => exact absurd (.separate ht host main hu) (hl _)
  | @single u host main only =>
    rw [only, List.mem_singleton] at ht
    subst ht
    exact absurd (.single host main only) (hl _)
  | methods host main several =>
    rw [List.mem_append]
    rintro (h | h)
    · exact classHeader_notMem_imports t h
    · exact classHeader_notMem_methodsLines t p h

theorem isMerged_iff_of_none (host : host? p = none) :
    IsMerged p t ↔ p.main ≠ [] ∧ isOwnUtility p t = true := by
  constructor
  · rintro (h | ⟨_, h⟩)
    · rw [host] at h
      cases h
    · exact h
  · intro h
    exact .inr ⟨host, h⟩

theorem Emits.carries_iff (h : Emits p t cls) (hi : t.isInterface = false) :
    Carries cls t ↔ (IsMerged p t → clauses t = [] ∧ t.abstractMethods = [] ∧
      (host? p = some t ∨ t.staticVars = [])) := by
  cases h with
  | merged host =>
    constructor
    · intro hc _
      obtain ⟨hn, ha⟩ := hc.of_mergedLines
      exact ⟨hn, ha, .inl host⟩
    · intro hc
      obtain ⟨hn, ha, _⟩ := hc (.inl host)
      exact carries_mergedLines hn ha
  | utility mem host main own =>
    constructor
    · intro hc _
      obtain ⟨hn, ha, hv⟩ := hc.of_mainClassLines (isOwnUtility_eq_true.1 own).1
      exact ⟨hn, ha, .inr hv⟩
    · intro hc
      obtain ⟨hn, ha, hv | hv⟩ := hc (.inr ⟨host, main, own⟩)
      · rw [host] at hv
        cases hv
      · exact carries_mainClassLines mem own hn ha hv
  | separate mem host main own =>
    have hm : ¬ IsMerged p t := by
      rw [isMerged_iff_of_none host, own]
      rintro ⟨_, h⟩
      cases h
    exact iff_of_true (carries_classLines hi) fun h => absurd h hm
  | single host main only =>
    have hm : ¬ IsMerged p t := by
      rw [isMerged_iff_of_none host]
      exact fun h => h.1 main
    exact iff_of_true (carries_classLines hi) fun h => absurd h hm

/-- A template that is no interface has a class in the text, or its header is not there at all. The
class carries the clauses and all members unless the template is merged into the public class:
then clauses and abstract methods are lost, and the variables of a utility template. -/
theorem emitted_carries_iff (p : Program) (t : Template) (ht : t ∈ p.templates)
    (hi : t.isInterface = false) :
    ((∀ cls, ¬ Emits p t cls) → opened (classHeader t) ∉ outputLines p) ∧
      ∀ cls, Emits p t cls → cls <:+: outputLines p ∧
        (Carries cls t ↔ (IsMerged p t → clauses t = [] ∧ t.abstractMethods = [] ∧
          (host? p = some t ∨ t.staticVars = []))) :=
  ⟨classHeader_notMem_of_lost ht, fun _ h => ⟨h.isInfix, h.carries_iff hi⟩⟩

theorem merging_loses_members :
    (let t : Template := { name := "P", parent := some "B" }
      let p : Program := { name := "P", templates := [t], main := ["x();"] }
      let cls : List Text := ["public class P \x7b",
        "    public static void main(String[] args) \x7b", "        x();", "    \x7d", "\x7d"]
      Emits p t cls ∧ ¬ Carries cls t) ∧
    (let t : Template :=
        { name := "P", staticVars := [⟨"n", "int", .pack, none, true⟩],
          staticMethods := [{ name := "f", isStatic := true }] }
      let p : Program := { name := "P", templates := [t, { name := "Q" }], main := ["x();"] }
      let cls : List Text := ["public class P \x7b", "    static void f() \x7b", "    \x7d", "",
        "    public static void main(String[] args) \x7b", "        x();", "    \x7d", "\x7d"]
      Emits p t cls ∧ ¬ Carries cls t) := by
  constructor
  · intro t p cls
    have hl : mergedLines .current t p = cls := by decide +kernel
    have he : Emits p t cls := hl ▸ .merged rfl
    refine ⟨he, fun hc => ?_⟩
    obtain ⟨hn, _⟩ := ((emitted_carries_iff p t (.head _) rfl).2 cls he).2.1 hc (.inl rfl)
    cases hn
  · intro t p cls
    have hl : mainClassLines p = cls := by decide +kernel
    have he : Emits p t cls := hl ▸ .utility (.head _) rfl (List.cons_ne_nil _ _) rfl
    refine ⟨he, fun hc => ?_⟩
    obtain ⟨_, _, hh | hv⟩ := ((emitted_carries_iff p t (.head _) rfl).2 cls he).2.1 hc
      (.inr ⟨rfl, List.cons_ne_nil _ _, rfl⟩)
    · cases hh
    · cases hv

end JavaSketch.Java
