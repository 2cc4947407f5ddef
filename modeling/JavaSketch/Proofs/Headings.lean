import JavaSketch.Proofs.Locality

namespace JavaSketch

namespace Vocabulary

/-- The names of sections that templates know whatever their words are, and that are not in the
list of fixed sections. -/
def sharedSections : List Text :=
  ["template vars", "static vars", "class vars", "template methods", "static methods",
   "class methods", "getters and setters", "getters, setters", "setters and getters"]

/-- The names of sections by which no body ends. -/
def overlooked (v : Vocabulary) : List Text :=
  sharedSections.filter fun name => !v.memberSections.contains name

def headingLine (name : Text) : Text := "    " ++ name ++ ":"

variable {v : Vocabulary} {word name : Text} {kind : Section}

theorem headingLine_eq (name : Text) : headingLine name = "    ".toList ++ (name ++ ":".toList) :=
  List.append_assoc _ _ _

theorem four_blank : ∀ c ∈ "    ".toList, isBlank c = true := List.all_eq_true.1 rfl

theorem head_headingLine (hn : name.trim = name) :
    ∀ c ∈ (name ++ ":".toList).head?, isBlank c = false := by
  intro c hc
  cases name with
  | nil =>
    cases hc
    rfl
  | cons d name => exact Text.head_of_trim hn c hc

theorem trim_headingLine (hn : name.trim = name) : (headingLine name).trim = name ++ ":" := by
  rw [headingLine_eq, Text.trim_append four_blank]
  apply Text.trim_of_ends (head_headingLine hn)
  intro c hc
  rw [List.getLast?_append] at hc
  cases hc
  rfl

theorem indent_headingLine (hn : name.trim = name) : (headingLine name).indent = 4 := by
  rw [headingLine_eq]
  exact Text.indent_append four_blank (head_headingLine hn)

theorem append_colon_ne_main (name : Text) : name ++ ":".toList ≠ "main" := by
  intro h
  have hl := congrArg List.getLast? h
  rw [show (name ++ ":".toList).getLast? = some ':' from List.getLast?_concat] at hl
  cases hl

theorem endsBody_headingLine (hn : name.trim = name) :
    Body.endsBody v (headingLine name) = ("main".toList :: v.memberSections).contains name := by
  have hm : (name ++ ":".toList == "main".toList) = false :=
    beq_eq_false_iff_ne.2 (append_colon_ne_main name)
  have he : Text.endsWith (name ++ ":".toList) ":" = true :=
    List.isSuffixOf_iff_suffix.2 (List.suffix_append _ _)
  have hd : Text.trim (name ++ ":".toList).dropLast = name := by
    rw [show (name ++ ":".toList).dropLast = name from List.dropLast_concat]
    exact hn
  rw [Body.endsBody, trim_headingLine hn, indent_headingLine hn]
  simp only [endsBody, Synonyms.isHeadingOrMain, isHeading, opensOuter, hm, he, hd, Bool.false_and,
    Bool.false_or, Bool.true_and, beq_self_eq_true, Nat.reduceBEq, Bool.or_false]

theorem mem_of_memberKind? {vars methods abstracts : List Text}
    (h : TemplateRules.memberKind? vars methods abstracts name = some kind) :
    name ∈ vars ∨ name ∈ methods ∨ name ∈ abstracts ∨ name ∈ fixedSections := by
  rw [TemplateRules.memberKind?] at h
  split at h
  · rename_i hv
    exact .inl (List.contains_iff_mem.1 hv)
  split at h
  · rename_i hi
    rw [hi]
    exact .inr (.inr (.inr List.mem_cons_self))
  split at h
  · rename_i hc
    rw [hc]
    exact .inr (.inr (.inr (by decide)))
  split at h
  · rename_i hm
    exact .inr (.inl (List.contains_iff_mem.1 hm))
  split at h
  · rename_i hi
    rw [hi]
    exact .inr (.inr (.inr (by decide)))
  split at h
  · rename_i ha
    exact .inr (.inr (.inl (List.contains_iff_mem.1 ha)))
  · cases h

theorem mem_memberSections_of_own (hw : word ∈ v.templateWords) (hn : name ∈ ownSections word) :
    name ∈ v.memberSections := by
  rw [Synonyms.memberSections, List.append_assoc]
  apply List.mem_append_right
  apply List.mem_append_left
  exact List.mem_flatMap.2 ⟨word, hw, hn⟩

theorem own_or_shared (hw : word ∈ "template".toList :: v.templateWords)
    (hn : name ∈ ownSections word) : name ∈ v.memberSections ∨ name ∈ sharedSections := by
  rcases List.mem_cons.1 hw with rfl | hw
  · have hs : ownSections "template" ⊆ sharedSections := by decide
    exact .inr (hs hn)
  · exact .inl (mem_memberSections_of_own hw hn)

theorem own_or_shared_of_static
    (hn : name ∈ staticVarSections word ∨ name ∈ staticMethodSections word) :
    name ∈ ownSections word ∨ name ∈ sharedSections := by
  rcases hn with hn | hn
  · rcases List.mem_cons.1 hn with rfl | hn
    · exact .inl List.mem_cons_self
    · have hs : ["template vars".toList, "static vars".toList, "class vars".toList] ⊆
        sharedSections := by decide
      exact .inr (hs hn)
  · rcases List.mem_cons.1 hn with rfl | hn
    · exact .inl (List.mem_cons_of_mem _ List.mem_cons_self)
    · have hs : ["template methods".toList, "static methods".toList, "class methods".toList] ⊆
        sharedSections := by decide
      exact .inr (hs hn)

theorem listed_or_shared (hw : word ∈ "template".toList :: v.templateWords)
    (hk : TemplateRules.sectionKind? v word name = some kind) :
    name ∈ "main".toList :: v.memberSections ∨ name ∈ sharedSections := by
  have hstatic (h : name ∈ staticVarSections word ∨ name ∈ staticMethodSections word) :
      name ∈ v.memberSections ∨ name ∈ sharedSections := by
    rcases own_or_shared_of_static h with ho | hs
    · exact own_or_shared hw ho
    · exact .inr hs
  have hfixed (h : name ∈ fixedSections) : name ∈ v.memberSections := by
    rw [Synonyms.memberSections, List.append_assoc]
    exact List.mem_append_left _ h
  rw [TemplateRules.sectionKind?] at hk
  split at hk
  · rename_i hm
    apply Or.imp_left (List.mem_cons_of_mem _)
    rcases mem_of_memberKind? hm with h | h | h | h
    · exact hstatic (.inl h)
    · exact hstatic (.inr h)
    · exact .inl (List.mem_append_right _ h)
    · exact .inl (hfixed h)
  · split at hk
    · rename_i ha
      rcases List.mem_cons.1 (List.contains_iff_mem.1 ha) with rfl | ha
      · exact .inl (List.mem_cons_of_mem _ (hfixed (by decide)))
      · have hs : ["getters and setters".toList, "getters, setters".toList,
          "setters and getters".toList] ⊆ sharedSections := by decide
        exact .inr (hs ha)
    · split at hk
      · rename_i hm
        rw [hm]
        exact .inl List.mem_cons_self
      · cases hk

theorem mem_overlooked :
    name ∈ v.overlooked ↔ name ∈ sharedSections ∧ name ∉ v.memberSections := by
  rw [overlooked, List.mem_filter, Bool.not_eq_true', ← Bool.not_eq_true, List.contains_iff_mem]

theorem listed_iff (hw : word ∈ "template".toList :: v.templateWords)
    (hk : TemplateRules.sectionKind? v word name = some kind) :
    name ∈ "main".toList :: v.memberSections ↔ name ∉ v.overlooked := by
  rw [mem_overlooked]
  constructor
  · rintro hl ⟨hs, hm⟩
    rcases List.mem_cons.1 hl with rfl | hl
    · revert hs
      decide
    · exact hm hl
  · intro ho
    rcases listed_or_shared hw hk with hl | hs
    · exact hl
    · by_cases hm : name ∈ v.memberSections
      · exact List.mem_cons_of_mem _ hm
      · exact absurd ⟨hs, hm⟩ ho

example : Vocabulary.standard.overlooked = ["static vars", "static methods",
    "getters and setters", "getters, setters", "setters and getters"] := by decide

end Vocabulary

namespace Body

variable {v : Vocabulary} {line : Text} {rest : List Text}

/-- A body is empty if its first line ends it. -/
theorem ofProgram_eq_empty_iff : ofProgram v (line :: rest) = .ok ([], 0) ↔
    isCode false line = true ∧ endsBody v line = true := by
  constructor
  · intro h
    rcases readFrom_cons h with ⟨hs, _, _⟩ | ⟨_, _, _, _, _, _, _, hn⟩
    · rcases step_cases hs with ⟨hc, _, he⟩ | ⟨_, _, _, _, he⟩ | ⟨_, _, he⟩
      · rw [isOutside_of_margin_none rfl, Bool.or_false] at he
        exact ⟨hc, he⟩
      · cases he
      · cases he
    · cases hn
  · rintro ⟨hc, he⟩
    apply Reads.readFrom_eq
    apply Reads.stop hc
    rw [he, Bool.true_or]

/-- At the heading of a section that templates know, the body of a member with nothing under it
ends, unless the heading reads as a comment or its name is overlooked. -/
theorem stops_at_heading_iff (v : Vocabulary) (word name : Text) (kind : Section)
    (before rest : List Text) (hw : word ∈ "template".toList :: v.templateWords)
    (hn : name.trim = name) (hk : TemplateRules.sectionKind? v word name = some kind) :
    readAt v (before ++ Vocabulary.headingLine name :: rest) before.length =
        .ok ([], before.length) ↔
      isCode false (Vocabulary.headingLine name) = true ∧ name ∉ v.overlooked := by
  rw [← Vocabulary.listed_iff hw hk, ← List.contains_iff_mem, ← Vocabulary.endsBody_headingLine hn,
    readAt, List.drop_left, numbered_eq_ok]
  constructor
  · rintro ⟨n, h, hn⟩
    have hz : n = 0 := by omega
    rw [hz] at h
    exact ofProgram_eq_empty_iff.1 h
  · intro h
    exact ⟨0, ofProgram_eq_empty_iff.2 h, rfl⟩

theorem stops_at_class_vars_not_static_vars :
    let kind? := TemplateRules.sectionKind? Vocabulary.standard "class"
    kind? "class vars" = some .staticVars ∧ kind? "static vars" = some .staticVars ∧
      readAt .standard ["        * f()", "    class vars:"] 1 = .ok ([], 1) ∧
      readAt .standard ["        * f()", "    static vars:"] 1 ≠ .ok ([], 1) := by
  intro kind?
  have hiff (name : Text) (hn : name.trim = name) (hk : kind? name = some .staticVars) :=
    stops_at_heading_iff .standard "class" name .staticVars ["        * f()"] [] (by decide) hn hk
  refine ⟨rfl, rfl, (hiff "class vars" rfl rfl).2 (by decide), fun h => ?_⟩
  exact absurd ((hiff "static vars" rfl rfl).1 h) (by decide)

end Body

end JavaSketch
