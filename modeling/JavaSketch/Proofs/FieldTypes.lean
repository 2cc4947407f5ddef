import JavaSketch.Proofs.CollectionWords

namespace JavaSketch

namespace Container

/-- The containers that only locals know. -/
def later : List Container := [linkedList, treeMap, treeSet, stack, queue, deque, vector]

theorem all_enlarged_later : Enlarged (· ∈ later) common all :=
  .keep _ <| .add (by simp [later]) <| .keep _ <| .add (by simp [later]) <| .keep _ <|
    Enlarged.nil.append_new (by simp [later])

theorem later_subset : later ⊆ all := by simp [later, all]

/-- The text begins with a capital letter. -/
def isCapital (t : Text) : Bool := t.head?.any Char.isUpper

theorem isCapital_append {t : Text} (h : t ≠ []) (rest : Text) :
    isCapital (t ++ rest) = isCapital t := by
  rw [isCapital, isCapital, List.head?_append_of_ne_nil _ h]

theorem isCapital_javaName : ∀ c ∈ all, c.javaName ≠ [] ∧ isCapital c.javaName = true := by decide

theorem isCapital_typeOf {c : Container} (hc : c ∈ all) (element : Text) :
    isCapital (c.typeOf element) = true := by
  obtain ⟨hne, hcapital⟩ := isCapital_javaName c hc
  simp only [typeOf, List.append_assoc]
  rw [isCapital_append hne, hcapital]

theorem later_words : ∀ c ∈ later, ∀ w ∈ c.words, TypeTable.full.javaName w = w ∧
    w ≠ [] ∧ isCapital w = false ∧ ∀ d ∈ common, w ∉ d.words := by
  decide +kernel

end Container

open Container Statement

variable {type outer inner : Text} {c : Container}

theorem typeAndValue_of_early (value : Option Text) (h : ∀ outer inner,
    Text.cut? "/" type = some (outer, inner) → ∀ c ∈ later, outer.trim.lower ∉ c.words) :
    typeAndValue .full common type value = typeAndValue .full Container.all type value := by
  rw [typeAndValue, typeAndValue]
  cases hcut : Text.cut? "/" type with
  | none => rfl
  | some res =>
    have hfind := all_enlarged_later.find?_eq
      (p := fun c => c.words.contains res.1.trim.lower) fun c hc => by
        rw [Bool.eq_false_iff, ne_eq, List.contains_iff_mem]
        exact h res.1 res.2 hcut c hc
    dsimp only
    rw [hfind]

theorem typeAndValue_field (value : Option Text)
    (hcut : Text.cut? "/" type = some (outer, inner)) (hc : c ∈ later)
    (hw : outer.trim.lower ∈ c.words) :
    ∃ element, typeAndValue .full common type value =
      (outer.trim.lower ++ "<" ++ element ++ ">", value) := by
  obtain ⟨hname, _, _, hunknown⟩ := later_words c hc _ hw
  have hnone : common.find? (·.words.contains outer.trim.lower) = none := by
    rw [List.find?_eq_none]
    intro d hd
    rw [List.contains_iff_mem]
    exact hunknown d hd
  simp only [typeAndValue, hcut, hnone, hname]
  exact ⟨_, rfl⟩

theorem typeAndValue_local (value : Option Text)
    (hcut : Text.cut? "/" type = some (outer, inner)) (hc : c ∈ later)
    (hw : outer.trim.lower ∈ c.words) :
    ∃ d ∈ Container.all, ∃ element,
      (typeAndValue .full Container.all type value).1 = d.typeOf element := by
  have hknown : (Container.all.find? (·.words.contains outer.trim.lower)).isSome = true := by
    rw [List.find?_isSome]
    exact ⟨c, later_subset hc, List.contains_iff_mem.2 hw⟩
  obtain ⟨d, hd⟩ := Option.isSome_iff_exists.1 hknown
  refine ⟨d, List.mem_of_find?_eq_some hd, ?_⟩
  simp only [typeAndValue, hcut, hd]
  exact ⟨_, rfl⟩

/-- A type means the same for a field as for a local exactly if its container is not one of those
that only locals know. -/
theorem typeAndValue_field_eq_local_iff (type : Text) (value : Option Text) :
    typeAndValue .full common type value =
        typeAndValue .full Stage.current.locals.containers type value ↔
      ∀ outer inner, Text.cut? "/" type = some (outer, inner) →
        ∀ c ∈ later, outer.trim.lower ∉ c.words := by
  constructor
  · intro he outer inner hcut c hc hw
    obtain ⟨element, hfield⟩ := typeAndValue_field value hcut hc hw
    obtain ⟨d, hd, boxed, hlocal⟩ := typeAndValue_local value hcut hc hw
    have hsame : outer.trim.lower ++ "<" ++ element ++ ">" = d.typeOf boxed := by
      rw [← hlocal]
      exact congrArg Prod.fst (hfield.symm.trans he)
    obtain ⟨_, hne, hsmall, _⟩ := later_words c hc _ hw
    have hcapital := isCapital_typeOf hd boxed
    rw [← hsame, List.append_assoc, List.append_assoc, isCapital_append hne, hsmall] at hcapital
    cases hcapital
  · exact typeAndValue_of_early value

end JavaSketch
