import JavaSketch.Edition.History
import JavaSketch.Proofs.Simulation

namespace JavaSketch

namespace Template

/-- The second template is the first one, with more accessors in between. -/
def Widens (t u : Template) : Prop :=
  ∃ more, t.accessors.Sublist more ∧ u = { t with accessors := more }

variable {t u : Template}

theorem Widens.refl (t : Template) : Widens t t := ⟨t.accessors, .refl _, rfl⟩

theorem Widens.add (h : Widens t u) (m : Member) : Widens (t.add m) (u.add m) := by
  obtain ⟨more, hs, rfl⟩ := h
  cases m with
  | accessor a => exact ⟨more ++ [a], hs.append_right [a], rfl⟩
  | _ => exact ⟨more, hs, rfl⟩

theorem Widens.addAll (h : Widens t u) (ms : List Member) : Widens (t.addAll ms) (u.addAll ms) := by
  induction ms generalizing t u with
  | nil => exact h
  | cons m ms ih => exact ih (h.add m)

theorem Widens.addRight (h : Widens t u) (as : List Accessor) :
    Widens t { u with accessors := u.accessors ++ as } := by
  obtain ⟨more, hs, rfl⟩ := h
  exact ⟨more ++ as, hs.trans (List.sublist_append_left more as), rfl⟩

end Template

namespace Edition

variable {v : Vocabulary} {t u : Template} {opening line : Text} {rest : List Text}
  {heading : Option Text}

theorem kind?_cases (v : Vocabulary) (opening : Text) (heading : Option Text) (indent : Nat) :
    (∃ kind, (inheritance v).kind? opening heading indent = some kind ∧
      (openAccessors v).kind? opening heading indent = some kind) ∨
    ((inheritance v).kind? opening heading indent = none ∧
      (openAccessors v).kind? opening heading indent = some .accessors) := by
  simp only [inheritance, openAccessors, atEight]
  by_cases hi : indent < 8
  · simp [hi]
  · cases heading with
    | none => simp [hi]
    | some name =>
      simp only [hi, ↓reduceIte, Option.bind_some]
      cases hw : wordKind? v.abstractSections (v.templateWordIn opening) name with
      | some kind => exact .inl ⟨kind, rfl, rfl⟩
      | none =>
        rw [accessorKind?]
        split_ifs with ha
        · exact .inl ⟨.accessors, rfl, rfl⟩
        · exact .inr ⟨rfl, rfl⟩

theorem memberOn_widens (h : Template.Widens t u) (opening : Text) (kind : Section) (line : Text)
    (rest : List Text) :
    Template.memberOn ((inheritance v).templateRules opening) t kind line rest =
      Template.memberOn ((openAccessors v).templateRules opening) u kind line rest := by
  obtain ⟨more, -, rfl⟩ := h
  cases kind with
  | _ => rfl

theorem readMember_widens (h : Template.Widens t u) (opening : Text) (heading : Option Text)
    (line : Text) (rest : List Text) :
    InStep (SameCount Template.Widens)
      (Template.readMember ((inheritance v).templateRules opening) t heading line rest)
      (Template.readMember ((openAccessors v).templateRules opening) u heading line rest) := by
  rcases kind?_cases v opening heading line.indent with ⟨kind, hk, hk'⟩ | ⟨hk, hk'⟩
  · rw [Template.readMember_some hk, Template.readMember_some hk', memberOn_widens h]
    apply (InStep.refl _).map
    rintro ⟨m, n⟩ _ rfl
    exact ⟨h.addAll m.toList, rfl⟩
  · rw [Template.readMember_none hk, Template.readMember]
    simp only [show ((openAccessors v).templateRules opening).kind? heading line.indent = _ from
      hk']
    rw [Accessor.read_eq]
    exact .value ⟨h.addRight _, rfl⟩

theorem parallel_openAccessors (v : Vocabulary) (opening : Text) :
    Template.Parallel ((inheritance v).templateRules opening)
      ((openAccessors v).templateRules opening) Eq Template.Widens Eq where
  idle h := by rw [h]
  ends h := by
    rw [h]
    rfl
  heading {line line'} h := by
    subst h
    change Option.Rel _ (Template.headingAtFour? line line.trim)
      (Template.headingAtFour? line line.trim)
    cases Template.headingAtFour? line line.trim with
    | none => exact .none
    | some name => exact .some rfl
  member ht hh hline hrest _ := by
    subst hh hline
    rw [List.forall₂_eq_eq_eq] at hrest
    subst hrest
    exact readMember_widens ht opening _ _ _

theorem readTemplate_widens (v : Vocabulary) (line : Text) (rest : List Text) :
    InStep (SameCount Template.Widens) ((inheritance v).readTemplate line rest)
      ((openAccessors v).readTemplate line rest) := by
  apply (InStep.refl (nameWith v line.trim)).bind
  rintro name _ rfl
  apply (parallel_openAccessors v line.trim).readMembers (.refl _) rfl
  rw [List.forall₂_eq_eq_eq]

theorem readParts_widens (v : Vocabulary) (name : Text) (lines : List Text) :
    InStep (Program.Related Template.Widens)
      (Program.readParts (inheritance v).programRules { name } lines)
      (Program.readParts (openAccessors v).programRules { name } lines) := by
  apply Program.readParts_inStep
  case hopens => rfl
  case hmain => rfl
  case hmethod => rfl
  case htemplate => exact readTemplate_widens v
  case hp => exact ⟨rfl, rfl, rfl, .nil⟩

/-- Both editions give the same fault for a text, or programs with the same name, main part, methods
and templates, where the templates of the later one may have accessors that the earlier one does not
give them. -/
theorem read_inheritance_openAccessors (v : Vocabulary) (source : Text) :
    (∃ f, (inheritance v).read source = .error f ∧ (openAccessors v).read source = .error f) ∨
    ∃ p q, (inheritance v).read source = .ok p ∧ (openAccessors v).read source = .ok q ∧
      q.name = p.name ∧ q.main = p.main ∧ q.methods = p.methods ∧
      List.Forall₂ (fun t u => ∃ more, t.accessors.Sublist more ∧ u = { t with accessors := more })
        p.templates q.templates := by
  have hparts : InStep (Program.Related Template.Widens) ((inheritance v).read source)
      ((openAccessors v).read source) := by
    apply (InStep.refl (Program.nameAndStart v source.trim.lines)).bind
    rintro ⟨name, start⟩ _ rfl
    exact readParts_widens v name _
  cases hparts.cases with
  | inl h => exact .inl h
  | inr h =>
    obtain ⟨p, q, hp, hq, h⟩ := h
    exact .inr ⟨p, q, hp, hq, h.name, h.main, h.methods, h.templates⟩

end Edition

end JavaSketch
