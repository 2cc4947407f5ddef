import JavaSketch.Program
import JavaSketch.Proofs.Outcome
import JavaSketch.Proofs.Text

namespace JavaSketch

theorem nameAfter?_of_none {word s : Text}
    (h : Pattern.find? (Pattern.anyCase word ++ [.gap, .name]) s = none) :
    nameAfter? word s = none := by
  rw [nameAfter?, h]

theorem nameAfter?_congr {word s t : Text}
    (h : Pattern.find? (Pattern.anyCase word ++ [.gap, .name]) s =
      Pattern.find? (Pattern.anyCase word ++ [.gap, .name]) t) :
    nameAfter? word s = nameAfter? word t := by
  rw [nameAfter?, nameAfter?, h]

/-- Literal words are tried as patterns without a breakdown. -/
theorem Synonyms.nameAfterAny_of_literal {words : List Text} (h : words.all isLiteral = true)
    (s : Text) : nameAfterAny s words = .ok (words.findSome? fun word => nameAfter? word s) := by
  induction words with
  | nil => rfl
  | cons word words ih =>
    obtain ⟨hword, hwords⟩ := Bool.and_eq_true_iff.1 h
    rw [nameAfterAny, if_pos hword, List.findSome?_cons]
    cases nameAfter? word s with
    | some name => rfl
    | none => exact ih hwords

namespace Vocabulary

variable (v : Vocabulary)

theorem templateName_eq (line : Text) :
    Synonyms.templateName v line = .ok (v.templateName? line) :=
  Synonyms.nameAfterAny_of_literal v.literal line.trim

theorem opensTemplate_eq (line : Text) :
    Synonyms.opensTemplate v line = .ok (v.opensTemplate line) := by
  rw [Synonyms.opensTemplate, templateName_eq]
  rfl

theorem opensOuter_eq (s : Text) (indent : Nat) :
    Synonyms.opensOuter v s indent = .ok (v.opensOuter s indent) := by
  rw [Synonyms.opensOuter, opensOuter, opensTemplate_eq]
  by_cases h : indent = 0
  · rw [if_pos h, beq_iff_eq.2 h]
    rfl
  · rw [if_neg h, beq_eq_false_iff_ne.2 h]
    rfl

/-- A line that ends the body before it, given its indentation. -/
def endsBody (s : Text) (indent : Nat) : Bool := v.isHeadingOrMain s indent || v.opensOuter s indent

/-- A line that ends the template before it, as it is and trimmed. -/
def endsTemplate (line s : Text) : Bool :=
  Template.isUnindented line && (v.opensTemplate s || s == "main".toList || s.startsWith "method ")

/-- The name of the program that a line opens a part of. -/
def nameFromPart? (line : Text) : Option Text :=
  if line.trim = "main".toList then some "MainProgram" else v.templateName? line.trim

def nameFromParts (lines : List Text) : Text :=
  (lines.findSome? v.nameFromPart?).getD "DefaultProgram"

/-- The name of a program, and the number of lines before its parts. -/
def nameAndStart : List Text → Text × Nat
  | [] => ("DefaultProgram", 0)
  | line :: rest =>
    match v.templateName? line.trim with
    | some name => (name, 0)
    | none =>
      if line.trim.startsWith "program " then (Program.nameIn line.trim, 1)
      else (v.nameFromParts (line :: rest), 0)

theorem nameFromPart_eq (line : Text) :
    Program.nameFromPart v line = .ok (v.nameFromPart? line) := by
  rw [Program.nameFromPart, nameFromPart?]
  by_cases h : line.trim = "main".toList
  · rw [if_pos h, if_pos h]
  · rw [if_neg h, if_neg h, templateName_eq]

theorem nameFromParts_eq (lines : List Text) :
    Program.nameFromParts v lines = .ok (v.nameFromParts lines) := by
  induction lines with
  | nil => rfl
  | cons line rest ih =>
    rw [Program.nameFromParts, nameFromPart_eq, nameFromParts, List.findSome?_cons]
    cases v.nameFromPart? line with
    | some name => rfl
    | none => exact ih

theorem nameAndStart_cons (line : Text) (rest : List Text) :
    v.nameAndStart (line :: rest) =
      match v.templateName? line.trim with
      | some name => (name, 0)
      | none =>
        if line.trim.startsWith "program " then (Program.nameIn line.trim, 1)
        else (v.nameFromParts (line :: rest), 0) := rfl

theorem nameAndStart_eq (lines : List Text) :
    Program.nameAndStart v lines = .ok (v.nameAndStart lines) := by
  cases lines with
  | nil => rfl
  | cons line rest =>
    obtain ⟨f, hf, hsome, hnone⟩ : ∃ f, Program.nameAndStart v (line :: rest) =
        (Synonyms.templateName v line.trim >>= f) ∧ (∀ name, f (some name) = .ok (name, 0)) ∧
        f none = if line.trim.startsWith "program " then .ok (Program.nameIn line.trim, 1)
          else (Program.nameFromParts v (line :: rest)).map (·, 0) :=
      ⟨_, rfl, fun _ => rfl, rfl⟩
    rw [hf, templateName_eq, nameAndStart_cons]
    cases v.templateName? line.trim with
    | some name => exact hsome name
    | none =>
      refine hnone.trans ?_
      rw [nameFromParts_eq]
      cases line.trim.startsWith "program " <;> rfl

end Vocabulary

theorem BodyRules.ends_current (v : Vocabulary) (s : Text) (indent : Nat) :
    (current v).ends s indent = .ok (v.endsBody s indent) := by
  have h : (current v).ends s indent =
      if v.isHeadingOrMain s indent then .ok true else Synonyms.opensOuter v s indent := rfl
  rw [h, Vocabulary.opensOuter_eq, Vocabulary.endsBody]
  cases v.isHeadingOrMain s indent <;> rfl

theorem TemplateRules.ends_current (v : Vocabulary) (word line s : Text) :
    (current v word).ends line s = .ok (v.endsTemplate line s) := by
  have h : (current v word).ends line s =
      if Template.isUnindented line then
        (Synonyms.opensTemplate v s).map (· || s == "main".toList || s.startsWith "method ")
      else .ok false := rfl
  rw [h, Vocabulary.opensTemplate_eq, Vocabulary.endsTemplate]
  cases Template.isUnindented line <;> rfl

theorem ProgramRules.opensTemplate_current (v : Vocabulary) (lines : List Text) (s : Text) :
    (current v lines).opensTemplate s = .ok (v.opensTemplate s) := v.opensTemplate_eq s

theorem Program.readLines_drop (v : Vocabulary) (lines : List Text) :
    readLines v lines = readParts (.current v lines) { name := (v.nameAndStart lines).1 }
      (lines.drop (v.nameAndStart lines).2) := by
  rw [readLines, v.nameAndStart_eq]
  rfl

namespace Template

variable {v : Vocabulary} {word line name : Text} {rest : List Text}

theorem read_of_name (h : v.templateName? line.trim = some name) :
    read v word line rest =
      readMembers (.current v word) (ofHeader name (Header.read v line.trim)) none rest := by
  rw [read, v.templateName_eq, h]
  rfl

theorem read_of_nameless (h : v.templateName? line.trim = none) :
    read v word line rest = .error (.namelessTemplate line.trim) := by
  rw [read, v.templateName_eq, h]
  rfl

end Template

/-- Induction on lines for readers that go on behind any number of them. -/
theorem lines_induction {motive : List Text → Prop} (nil : motive [])
    (cons : ∀ line rest, (∀ n, motive (rest.drop n)) → motive (line :: rest))
    (lines : List Text) : motive lines := by
  induction h : lines.length using Nat.strong_induction_on generalizing lines with
  | _ k ih =>
    cases lines with
    | nil => exact nil
    | cons line rest =>
      refine cons line rest fun n => ih _ ?_ _ rfl
      rw [← h, List.length_drop, List.length_cons]
      omega

namespace Template

variable {r : TemplateRules} {t : Template} {heading : Option Text} {line name : Text}
  {rest : List Text} {f : Fault}

theorem readMembers_nil : readMembers r t heading [] = .ok (t, 0) := by rw [readMembers]

theorem readMembers_idle (blank : isIdle line.trim = true) :
    readMembers r t heading (line :: rest) =
      (readMembers r t heading rest >>= fun res => .ok (res.1, res.2 + 1)) := by
  rw [readMembers]
  simp only [blank, ↓reduceIte]

theorem readMembers_broken (blank : isIdle line.trim = false)
    (ends : r.ends line line.trim = .error f) :
    readMembers r t heading (line :: rest) = .error f := by
  rw [readMembers]
  simp only [blank, Bool.false_eq_true, ↓reduceIte, ends]
  rfl

theorem readMembers_stop (blank : isIdle line.trim = false)
    (ends : r.ends line line.trim = .ok true) :
    readMembers r t heading (line :: rest) = .ok (t, 0) := by
  rw [readMembers]
  simp only [blank, Bool.false_eq_true, ↓reduceIte, ends]
  rfl

theorem readMembers_enter (blank : isIdle line.trim = false)
    (ends : r.ends line line.trim = .ok false) (opens : r.heading? line line.trim = some name) :
    readMembers r t heading (line :: rest) =
      (readMembers r t (some name) rest >>= fun res => .ok (res.1, res.2 + 1)) := by
  rw [readMembers]
  simp only [blank, Bool.false_eq_true, ↓reduceIte, ends, opens]
  rfl

theorem readMembers_member (blank : isIdle line.trim = false)
    (ends : r.ends line line.trim = .ok false) (opens : r.heading? line line.trim = none) :
    readMembers r t heading (line :: rest) = (readMember r t heading line rest >>= fun res =>
      readMembers r res.1 heading (rest.drop res.2) >>= fun res' =>
        .ok (res'.1, res'.2 + (res.2 + 1))) := by
  rw [readMembers]
  simp only [blank, Bool.false_eq_true, ↓reduceIte, ends, opens]
  rfl

end Template

namespace Program

variable {r : ProgramRules} {p : Program} {line : Text} {rest : List Text} {f : Fault}
  {method : Text → List Text → Except Fault (Option Method × Nat)}

theorem readParts_nil : readParts r p [] = .ok p := by rw [readParts]

theorem readParts_broken (opens : r.opensTemplate line.trim = .error f) :
    readParts r p (line :: rest) = .error f := by
  rw [readParts, opens]
  rfl

theorem readParts_template (opens : r.opensTemplate line.trim = .ok true) :
    readParts r p (line :: rest) = (r.template line rest >>= fun res =>
      readParts r { p with templates := p.templates ++ [res.1] } (rest.drop res.2)) := by
  rw [readParts, opens]
  rfl

theorem readParts_main (opens : r.opensTemplate line.trim = .ok false)
    (main : line.trim = "main".toList) :
    readParts r p (line :: rest) = (r.main rest >>= fun res =>
      readParts r { p with main := res.1 } (rest.drop res.2)) := by
  rw [readParts, opens]
  simp only [bind, Except.bind, Bool.false_eq_true, ↓reduceIte, main]

theorem readParts_method (opens : r.opensTemplate line.trim = .ok false)
    (main : line.trim ≠ "main".toList)
    (found : (if line.trim.startsWith "method " then r.method? else none) = some method) :
    readParts r p (line :: rest) = (method line rest >>= fun res =>
      readParts r { p with methods := p.methods ++ res.1.toList } (rest.drop res.2)) := by
  rw [readParts, opens]
  simp only [bind, Except.bind, Bool.false_eq_true, ↓reduceIte, main, found]

theorem readParts_pass (opens : r.opensTemplate line.trim = .ok false)
    (main : line.trim ≠ "main".toList)
    (found : (if line.trim.startsWith "method " then r.method? else none) = none) :
    readParts r p (line :: rest) = readParts r p rest := by
  rw [readParts, opens]
  simp only [bind, Except.bind, Bool.false_eq_true, ↓reduceIte, main, found]

end Program

theorem ne_nil_of_not_isIdle {s : Text} (h : isIdle s = false) : s ≠ [] := by
  rintro rfl
  cases h

namespace Access

/-- The access and the member of a line with a first character. -/
def parts : Text → Access × Text
  | [] => (pack, [])
  | c :: s => ofFirst c s

theorem read_eq {s : Text} (h : s ≠ []) : read s = .ok (parts s) := by
  cases s with
  | nil => exact absurd rfl h
  | cons c s => rfl

end Access

theorem Method.onMember_eq (line : Text)
    (read : Access → Text → Except Fault (Option Method × Nat)) :
    onMember line read =
      if isIdle line.trim then .ok (none, 0)
      else read (Access.parts line.trim).1 (Access.parts line.trim).2 := by
  rw [onMember]
  cases h : isIdle line.trim with
  | true => rfl
  | false =>
    simp only [Bool.false_eq_true, ↓reduceIte]
    rw [Access.read_eq (ne_nil_of_not_isIdle h)]
    rfl

theorem Accessor.read_eq (line : Text) :
    read line = .ok (if isIdle line.trim then none
      else some ⟨(Access.parts line.trim).2.trim, (Access.parts line.trim).1⟩) := by
  rw [read]
  cases h : isIdle line.trim with
  | true => rfl
  | false =>
    simp only [Bool.false_eq_true, ↓reduceIte]
    rw [Access.read_eq (ne_nil_of_not_isIdle h)]
    rfl

namespace Body

theorem cutAt_eq {mark s : Text} {parts : Text × Text} (h : Text.cut? mark s = some parts) :
    cutAt mark s = .ok parts := by
  rw [cutAt, h]

theorem of_cutAt {mark s : Text} {parts : Text × Text} (h : cutAt mark s = .ok parts) :
    Text.cut? mark s = some parts := by
  rw [cutAt] at h
  cases hc : Text.cut? mark s with
  | none =>
    rw [hc] at h
    cases h
  | some found =>
    rw [hc] at h
    cases h
    rfl

theorem closers_eq {α β : Type} {stack : List α} {other : List β}
    (h : stack.length = other.length) : closers stack = closers other := by
  rw [closers, closers, List.map_const', List.map_const', h]

/-- A body closes as many braces as blocks are open. -/
theorem closers_braces (st : State) : closers st.blocks.braces = closers st.openers :=
  closers_eq st.blocks.lockstep

end Body

namespace Statement

theorem convertBy_eq (rules : List Rule) (s : Text) :
    convertBy rules s =
      ((rules.findSome? (· s.trim)).getD (.ok (some (terminate s.trim))) >>= required) := by
  rw [convertBy]
  cases rules.findSome? (· s.trim) <;> rfl

theorem map_some_required (x : Except Fault Text) : (x.map some >>= required) = x := by
  cases x <;> rfl

theorem bind_required_eq_ok {x : Except Fault (Option Text)} {java : Text} :
    (x >>= required) = .ok java ↔ x = .ok (some java) := by
  constructor
  · intro h
    obtain ⟨result, rfl, h⟩ := bind_eq_ok.1 h
    cases result with
    | none => cases h
    | some result =>
      cases h
      rfl
  · rintro rfl
    rfl

end Statement

end JavaSketch
