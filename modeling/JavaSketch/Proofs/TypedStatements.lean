import JavaSketch.Edition.Statements
import JavaSketch.Proofs.Guards

namespace JavaSketch

namespace Statement

def isCreation (s : Text) : Bool :=
  (creationRule Vocabulary.standard.creationVerbs s).isSome ||
    (bareCreationRule Vocabulary.standard.creationVerbs s).isSome

/-- An assignment whose type word stands behind the equals sign only, and that is nothing else that
would be recognised first. -/
structure Formless (s : Text) : Prop where
  assigns : isAssignment s = true
  typed : s.includes " as " = true
  typedBehind : ∃ part value, Text.cut? " = " s = some (part, value) ∧
    part.trim.includes " as " = false
  notCreation : isCreation s = false
  notList : s.includes "arraylist" = false
  notPrint : s.startsWith "print " = false
  notVar : s.startsWith "var " = false

/-- Where the rule applies, it gives a Java form. -/
def IsTotal (rule : Rule) : Prop := ∀ s r, rule s = some r → ∃ java, r = .ok (some java)

variable {s : Text} {f : Fault}

theorem isTotal_guarded {applies : Text → Bool} {g : Text → Except Fault (Option Text)}
    (hg : ∀ s, ∃ java, g s = .ok (some java)) : IsTotal (declarationRule applies g) := by
  intro s r h
  obtain ⟨-, h⟩ := Option.ite_none_right_eq_some.1 h
  cases h
  exact hg s

theorem isTotal_opening (word : Text) (g : Text → Text) : IsTotal (Rule.opening word g) := by
  have h : IsTotal (declarationRule (·.startsWith word) fun s => .ok (some (g s))) :=
    isTotal_guarded fun s => ⟨g s, rfl⟩
  exact h

theorem isTotal_creation (verbs : List Text) : IsTotal (creationRule verbs) := by
  intro s r h
  obtain ⟨verb, -, h⟩ := List.exists_of_findSome?_eq_some h
  split at h
  · cases h
    exact ⟨_, rfl⟩
  · cases h

theorem isTotal_bareCreation (verbs : List Text) : IsTotal (bareCreationRule verbs) := by
  intro s r h
  obtain ⟨verb, -, h⟩ := List.exists_of_findSome?_eq_some h
  split at h
  · cases h
    exact ⟨_, rfl⟩
  · cases h

theorem isTotal_list : IsTotal (listRule bareAssignment) := by
  refine isTotal_guarded fun s => ?_
  rw [listAssignment]
  split
  · split
    · exact ⟨_, rfl⟩
    · exact ⟨_, rfl⟩
  · exact ⟨_, rfl⟩

/-- The rules that are tried before the declarations. -/
def firstRules (style : PrintStyle) : List Rule :=
  creationRules ++ [listRule bareAssignment] ++ printRules style

/-- The rules that are tried behind the declarations. -/
def lastRules (loops : LoopStyle) : List Rule :=
  declarationRule isAssignment bareAssignment :: controlRules loops

theorem typedRules_eq (style : PrintStyle) (loops : LoopStyle) :
    typedRules (printRules style) loops = firstRules style ++
      declarationRule (fun s => s.includes " as " && isAssignment s) declareTyped ::
        lastRules loops := by
  simp [typedRules, firstRules, lastRules]

theorem firstRules_total (style : PrintStyle) : ∀ rule ∈ firstRules style, IsTotal rule := by
  simp only [firstRules, creationRules, printRules, List.forall_mem_append, List.forall_mem_cons,
    List.not_mem_nil, false_imp_iff, implies_true, and_true]
  exact ⟨⟨⟨isTotal_creation _, isTotal_bareCreation _⟩, isTotal_list⟩, isTotal_opening _ _,
    isTotal_opening _ _⟩

theorem lastRules_total (loops : LoopStyle) : ∀ rule ∈ lastRules loops, IsTotal rule := by
  have he : IsTotal elseRule := by
    intro s r h
    obtain ⟨-, h⟩ := Option.ite_none_right_eq_some.1 h
    cases h
    exact ⟨_, rfl⟩
  simp only [lastRules, controlRules, List.forall_mem_cons, List.not_mem_nil, false_imp_iff,
    implies_true, and_true]
  exact ⟨isTotal_guarded fun s => ⟨_, rfl⟩, isTotal_opening _ _, isTotal_opening _ _, he,
    isTotal_opening _ _, isTotal_opening _ _, isTotal_opening _ _, isTotal_opening _ _⟩

theorem ok_of_findSome? {rules : List Rule} (h : ∀ rule ∈ rules, IsTotal rule)
    {r : Except Fault (Option Text)} (hr : rules.findSome? (· s) = some r) :
    ∃ java, r = .ok (some java) := by
  obtain ⟨rule, hm, hs⟩ := List.exists_of_findSome?_eq_some hr
  exact h rule hm s r hs

theorem firstRules_none_iff (style : PrintStyle) (s : Text) :
    (firstRules style).findSome? (· s) = none ↔
      isCreation s = false ∧ isListAssignment s = false ∧ s.startsWith "print " = false := by
  have hf : s.startsWith "print " = false → s.startsWith "print f\"" = false := by
    intro hp
    rw [Bool.eq_false_iff] at hp ⊢
    intro hf
    have hpre : "print ".toList <+: "print f\"".toList := by decide
    exact hp (List.isPrefixOf_iff_prefix.2 (hpre.trans (List.isPrefixOf_iff_prefix.1 hf)))
  have hguard {applies : Bool} {r : Except Fault (Option Text)} :
      (if applies = true then some r else none) = none ↔ applies = false := by
    cases applies <;> simp
  rw [List.findSome?_eq_none_iff]
  simp only [firstRules, creationRules, printRules, List.forall_mem_append, List.forall_mem_cons,
    List.not_mem_nil, false_imp_iff, implies_true, and_true, listRule, declarationRule,
    Rule.opening, hguard, isCreation, Bool.or_eq_false_iff, Option.isSome_eq_false_iff,
    Option.isNone_iff_eq_none]
  constructor
  · rintro ⟨⟨hc, hl⟩, -, hp⟩
    exact ⟨hc, hl, hp⟩
  · rintro ⟨hc, hl, hp⟩
    exact ⟨⟨hc, hl⟩, hf hp, hp⟩

/-- Only a declaration can fail. -/
theorem convertBy_eq_error (style : PrintStyle) (loops : LoopStyle) :
    convertBy (typedRules (printRules style) loops) s = .error f ↔
      (firstRules style).findSome? (· s.trim) = none ∧
        (s.trim.includes " as " && isAssignment s.trim) = true ∧
        (declareTyped s.trim >>= required) = .error f := by
  rw [convertBy_eq, typedRules_eq, List.findSome?_append]
  cases hfirst : (firstRules style).findSome? (· s.trim) with
  | some r =>
    obtain ⟨java, rfl⟩ := ok_of_findSome? (firstRules_total style) hfirst
    exact iff_of_false (fun h => by cases h) fun h => by cases h.1
  | none =>
    rw [Option.none_or, List.findSome?_cons, declarationRule]
    cases ha : s.trim.includes " as " && isAssignment s.trim with
    | true =>
      exact ⟨fun h => ⟨rfl, rfl, h⟩, fun h => h.2.2⟩
    | false =>
      refine iff_of_false (fun h => ?_) fun h => by cases h.2.1
      have h : (((lastRules loops).findSome? (· s.trim)).getD (.ok (some (terminate s.trim))) >>=
        required) = .error f := h
      cases hlast : (lastRules loops).findSome? (· s.trim) with
      | none =>
        rw [hlast] at h
        cases h
      | some r =>
        obtain ⟨java, rfl⟩ := ok_of_findSome? (lastRules_total loops) hlast
        rw [hlast] at h
        cases h

theorem typedDeclaration_eq_none (hs : s.trim = s) (ha : s.includes " as " = true) :
    typedDeclaration true s = none ↔ ∃ part value,
      Text.cut? " = " s = some (part, value) ∧ part.trim.includes " as " = false := by
  rw [typedDeclaration]
  cases hc : Text.cut? " = " s with
  | none =>
    obtain ⟨⟨name, type⟩, hn⟩ := Option.isSome_iff_exists.1 ha
    dsimp only
    rw [hs, hn]
    refine iff_of_false (fun h => by cases h) ?_
    rintro ⟨part, value, h, -⟩
    cases h
  | some parts =>
    obtain ⟨part, value⟩ := parts
    dsimp only
    cases hn : Text.cut? " as " part.trim with
    | none =>
      have hnot : part.trim.includes " as " = false := by
        rw [Text.includes, hn]
        rfl
      exact iff_of_true rfl ⟨part, value, rfl, hnot⟩
    | some typed =>
      refine iff_of_false (fun h => by cases h) ?_
      rintro ⟨part', value', h, hnot⟩
      cases h
      rw [Text.includes, hn] at hnot
      cases hnot

/-- A declaration is refused if it has no written type, and breaks down if the type is written
behind the equals sign only. -/
theorem declareTyped_eq_error (ha : s.includes " as " = true) :
    (declareTyped s >>= required) = .error f ↔
      (s.startsWith "var " = true ∧ f = .inferredLocal s) ∨
      (s.startsWith "var " = false ∧ f = .formless ∧ typedDeclaration true s = none) := by
  rw [declareTyped, onVar]
  cases hv : s.startsWith "var " with
  | true =>
    simp only [↓reduceIte, true_and, Bool.true_eq_false, false_and, or_false]
    exact ⟨fun h => (Except.error.inj h).symm, fun h => congrArg Except.error h.symm⟩
  | false =>
    simp only [Bool.false_eq_true, ↓reduceIte, false_and, ha, true_and, false_or]
    cases typedDeclaration true s with
    | none => exact ⟨fun h => ⟨(Except.error.inj h).symm, rfl⟩, fun h => congrArg _ h.1.symm⟩
    | some java => exact iff_of_false (fun h => by cases h) fun h => by cases h.2

theorem convertBy_formless_iff (style : PrintStyle) (loops : LoopStyle) (hs : s.trim = s) :
    convertBy (typedRules (printRules style) loops) s = .error .formless ↔ Formless s := by
  rw [convertBy_eq_error, hs, firstRules_none_iff]
  constructor
  · rintro ⟨⟨hc, hl, hp⟩, ha, h⟩
    obtain ⟨has, hassign⟩ := Bool.and_eq_true_iff.1 ha
    rcases (declareTyped_eq_error has).1 h with ⟨-, h⟩ | ⟨hv, -, h⟩
    · cases h
    · have hpart := (typedDeclaration_eq_none hs has).1 h
      refine ⟨hassign, has, hpart, hc, ?_, hp, hv⟩
      rw [isListAssignment, hassign, Bool.and_true] at hl
      exact hl
  · rintro ⟨hassign, has, hpart, hc, hl, hp, hv⟩
    refine ⟨⟨hc, ?_, hp⟩, Bool.and_eq_true_iff.2 ⟨has, hassign⟩, ?_⟩
    · rw [isListAssignment, hl, Bool.false_and]
    · exact (declareTyped_eq_error has).2
        (.inr ⟨hv, rfl, (typedDeclaration_eq_none hs has).2 hpart⟩)

theorem refused_or_formless {style : PrintStyle} {loops : LoopStyle}
    (h : convertBy (typedRules (printRules style) loops) s = .error f) :
    f.isRefusal = true ∨ f = .formless := by
  obtain ⟨-, ha, h⟩ := (convertBy_eq_error style loops).1 h
  obtain ⟨has, -⟩ := Bool.and_eq_true_iff.1 ha
  rcases (declareTyped_eq_error has).1 h with ⟨-, rfl⟩ | ⟨-, h, -⟩
  · exact .inl rfl
  · exact .inr h

end Statement

end JavaSketch
