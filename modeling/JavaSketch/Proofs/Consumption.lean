import JavaSketch.Program
import JavaSketch.Proofs.BodyStep

namespace JavaSketch

namespace Statement

variable {s : Text}

theorem localDeclaration_yields (s : Text) :
    Yields (localDeclaration Stage.current.locals s) fun _ => True := by
  rw [localDeclaration]
  split
  · rw [inferredDeclaration]
    split
    · exact .ok trivial
    · exact ⟨rfl, fun _ h => by cases h⟩
  · split
    · dsimp only
      split
      · exact .ok trivial
      · exact ⟨rfl, fun _ h => by cases h⟩
    · exact .ok trivial

theorem guarded_yields {c : Prop} [Decidable c] {x r : Except Fault (Option Text)}
    (hx : Yields x fun result => result.isSome = true)
    (h : (if c then some x else none) = some r) : Yields r fun result => result.isSome = true := by
  obtain ⟨_, h⟩ := Option.ite_none_right_eq_some.1 h
  cases h
  exact hx

/-- Only a declaration can be refused, and a rule that applies gives a result. -/
theorem rules_yield : ∀ rule ∈ Stage.current.rules, ∀ s r, rule s = some r →
    Yields r fun result => result.isSome = true := by
  have ho {word : Text} {convert : Text → Text} (s : Text) (r : Except Fault (Option Text))
      (h : Rule.opening word convert s = some r) : Yields r fun result => result.isSome = true :=
    guarded_yields (.ok rfl) h
  simp only [Stage.rules, printRules, controlRules, List.forall_mem_append, List.forall_mem_cons,
    List.not_mem_nil, false_imp_iff, implies_true, and_true]
  refine ⟨⟨⟨ho, ho⟩, ?_, ?_, ?_⟩, ho, ho, ?_, ho, ho, ho, ho⟩
  · intro s r h
    exact guarded_yields ((localDeclaration_yields s).map fun _ _ => rfl) h
  · intro s r h
    exact guarded_yields (.ok rfl) h
  · intro s r h
    exact guarded_yields (.ok rfl) h
  · intro s r h
    exact guarded_yields (.ok rfl) h

theorem required_yields {result : Option Text} (h : result.isSome = true) :
    Yields (required result) fun _ => True := by
  obtain ⟨java, rfl⟩ := Option.isSome_iff_exists.1 h
  exact .ok trivial

theorem convert_yields (s : Text) : Yields (convert .current s) fun _ => True := by
  rw [convert, convertBy]
  cases h : Stage.current.rules.findSome? (· s.trim) with
  | none => exact .ok trivial
  | some r =>
    obtain ⟨rule, hm, hr⟩ := List.exists_of_findSome?_eq_some h
    exact (rules_yield rule hm _ r hr).bind fun result h => required_yields h

end Statement

namespace Body

variable {r : BodyRules} {v : Vocabulary} {convert : Text → Except Fault Text} {line : Text}
  {rest body : List Text} {n : Nat}

/-- A line is cut at a triple quote only if it has one. -/
theorem commentMark_yields (hc : ∀ s, Yields (convert s) fun _ => True) (st : State) {s : Text}
    (hq : s.includes tripleQuote = true) : Yields (commentMark convert st s) (· ≠ .stop) := by
  obtain ⟨parts, hparts⟩ := Option.isSome_iff_exists.1 hq
  have hcut : Yields (cutAt tripleQuote s) fun _ => True := by
    rw [cutAt_eq hparts]
    exact .ok trivial
  rw [commentMark]
  split
  · split
    · exact .ok (by simp)
    · refine hcut.bind fun parts _ => ?_
      dsimp only
      split
      · exact .ok (by simp)
      · exact (hc _).bind fun java _ => .ok (by simp)
  · split
    · split
      · exact .ok (by simp)
      · exact .ok (by simp)
    · exact hcut.bind fun parts _ => (hc _).bind fun java _ => .ok (by simp)

theorem statement_yields (hc : ∀ s, Yields (convert s) fun _ => True) (st : State) (line : Text) :
    Yields (statement r convert st line) (· ≠ .stop) := by
  have hs : Yields (statementLine r.comments convert line.trim) fun _ => True := by
    rw [statementLine]
    split
    · exact hc _
    · exact (hc _).bind fun java _ => .ok trivial
  rw [statement]
  exact hs.bind fun java _ => .ok (by simp)

/-- A reader that has not yet met a statement stops only where its rules say that a body ends. -/
theorem step_yields (hc : ∀ s, Yields (convert s) fun _ => True)
    (hr : ∀ s indent, Yields (r.ends s indent) fun _ => True) (st : State) (line : Text) :
    Yields (step r convert st line) fun s =>
      s = .stop → r.ends line.trim line.indent = .ok true ∨ isOutside r.margin st line = true := by
  have hne {x : Except Fault Step} (h : Yields x (· ≠ .stop)) : Yields x fun s =>
      s = .stop → r.ends line.trim line.indent = .ok true ∨ isOutside r.margin st line = true :=
    h.mono fun s hs he => absurd he hs
  rw [step]
  split
  · rename_i h
    exact hne (commentMark_yields hc st h.2)
  · split
    · exact hne (.ok (by simp))
    · split
      · exact hne (.ok (by simp))
      · split
        · exact hne (.ok (by simp))
        · refine ((hr _ _).strengthen fun _ h => h).bind fun ends hends => ?_
          split
          · rename_i h
            refine .ok fun _ => (Bool.or_eq_true_iff.1 h).imp_left fun he => ?_
            rw [hends, he]
          · exact hne (statement_yields hc st line)

theorem readFrom_yields (hc : ∀ s, Yields (convert s) fun _ => True)
    (hr : ∀ s indent, Yields (r.ends s indent) fun _ => True) (st : State) (lines : List Text) :
    Yields (readFrom r convert st lines) fun _ => True := by
  induction lines generalizing st with
  | nil => exact .ok trivial
  | cons line rest ih =>
    rw [readFrom]
    refine (step_yields hc hr st line).bind fun s _ => ?_
    cases s with
    | stop => exact .ok trivial
    | emit entries next => exact (ih next).bind fun res _ => .ok trivial

theorem ends_yields (v : Vocabulary) (s : Text) (indent : Nat) :
    Yields ((BodyRules.current v).ends s indent) fun _ => True := by
  rw [BodyRules.ends_current]
  exact .ok trivial

/-- Bodies as they are read for programs in the given words. -/
def ofProgram (v : Synonyms) : List Text → Except Fault (List Text × Nat) :=
  read (.current v) (Statement.convert .current)

theorem ofProgram_yields (v : Vocabulary) (lines : List Text) :
    Yields (ofProgram v lines) fun res => res.2 ≤ lines.length :=
  (readFrom_yields Statement.convert_yields (ends_yields v) {} lines).strengthen
    fun _ h => readFrom_le h

theorem ofProgram_pos (hi : 8 ≤ line.indent)
    (h : ofProgram v (line :: rest) = .ok (body, n)) : 0 < n := by
  rcases readFrom_cons h with ⟨hs, _, _⟩ | ⟨_, _, _, _, _, _, _, rfl⟩
  · have hstop := (step_yields Statement.convert_yields (ends_yields v) {} line).of_ok hs rfl
    rcases hstop with he | ho
    · have hn : v.endsBody line.trim line.indent = false :=
        endsBody_of_indent (Nat.lt_of_lt_of_le (by decide) hi)
      rw [BodyRules.ends_current, hn] at he
      cases he
    · have hn : isOutside .firstStatement {} line = false := isOutside_of_margin_none rfl line
      cases ho.symm.trans hn
  · exact Nat.succ_pos _

end Body

namespace Parameter

theorem readAll_yields {one : Text → Except Fault Param} (h : ∀ p, Yields (one p) fun _ => True)
    (s : Text) : Yields (readAll one s) fun _ => True := by
  rw [readAll]
  split
  · exact .ok trivial
  · exact .mapM _ fun p => h p.trim

theorem typeIn_yields (guess? : Text → Option Text) (t : Template) (name : Text) :
    Yields (typeIn guess? t name) fun _ => True := by
  rw [typeIn]
  split
  · exact .ok trivial
  · split
    · exact .ok trivial
    · exact ⟨rfl, fun _ h => by cases h⟩

/-- The parameters of a template's method, whatever types are guessed. -/
theorem readAll_typeIn_yields (guess? : Text → Option Text) (t : Template) (s : Text) :
    Yields (readAll (read .full (typeIn guess? t)) s) fun _ => True := by
  refine readAll_yields (fun p => ?_) s
  rw [read]
  split
  · exact .ok trivial
  · exact (typeIn_yields guess? t p).map fun _ _ => trivial

theorem readFree_yields (s : Text) : Yields (readFree s) fun _ => True := by
  refine readAll_yields (fun p => ?_) s
  rw [readTyped]
  split
  · exact .ok trivial
  · exact ⟨rfl, fun _ h => by cases h⟩

end Parameter

namespace Field

theorem ofText_yields (isStatic : Bool) {s : Text} (hs : s ≠ []) :
    Yields (ofText isStatic s) fun _ => True := by
  rw [ofText, Access.read_eq hs]
  simp only [bind, Except.bind]
  split
  · exact ⟨rfl, fun _ h => by cases h⟩
  · exact .ok trivial

theorem read_yields (isStatic : Bool) (line : Text) :
    Yields (read isStatic line) fun _ => True := by
  rw [read]
  cases h : isIdle line.trim with
  | true => exact .ok trivial
  | false => exact (ofText_yields isStatic (ne_nil_of_not_isIdle h)).map fun _ _ => trivial

end Field

namespace Method

variable {body : List Text → Except Fault (List Text × Nat)} {t? : Option Template}
  {access : Access} {isStatic : Bool} {s line : Text} {rest : List Text}
  (hb : ∀ lines, Yields (body lines) fun res => res.2 ≤ lines.length)

theorem paramsFor_yields (t? : Option Template) (s : Text) :
    Yields (paramsFor t? s) fun _ => True := by
  cases t? with
  | none => exact Parameter.readFree_yields s
  | some t => exact Parameter.readAll_typeIn_yields _ t s

theorem abstract_yields : Yields ((reader body t?).abstract access s) fun _ => True := by
  rw [MethodReader.abstract]
  split
  · exact .ok trivial
  · exact (paramsFor_yields t? _).bind fun params _ => .ok trivial

theorem onMember_yields {read : Access → Text → Except Fault (Option Method × Nat)} {k : Nat}
    (h : ∀ access s, Yields (read access s) fun res => res.2 ≤ k) :
    Yields (onMember line read) fun res => res.2 ≤ k := by
  rw [onMember_eq]
  split
  · exact .ok (Nat.zero_le _)
  · exact h _ _

theorem readAbstract_yields : Yields (readAbstract t? line) fun _ => True := by
  have h : Yields (onMember line fun access s =>
      ((reader (fun _ => .ok ([], 0)) t?).abstract access s).map (·, 0)) fun res => res.2 ≤ 0 :=
    onMember_yields fun access s => abstract_yields.map fun _ _ => Nat.le_refl 0
  exact h.map fun _ _ => trivial

include hb

theorem regular_yields :
    Yields ((reader body t?).regular access isStatic s rest) fun res => res.2 ≤ rest.length := by
  rw [MethodReader.regular]
  split
  · exact .ok (Nat.zero_le _)
  · refine (paramsFor_yields t? _).bind fun params _ => ?_
    exact (hb rest).bind fun res hres => .ok hres

theorem named_yields :
    Yields ((reader body t?).named access s rest) fun res => res.2 ≤ rest.length := by
  rw [MethodReader.named]
  split
  · exact .ok (Nat.zero_le _)
  · refine (paramsFor_yields t? _).bind fun params _ => ?_
    exact (hb rest).bind fun res hres => .ok hres

theorem listed_yields (name : Text) :
    Yields ((reader body t?).listed name access s rest) fun res => res.2 ≤ rest.length := by
  rw [MethodReader.listed]
  refine (paramsFor_yields t? _).bind fun params _ => ?_
  exact (hb rest).bind fun res hres => .ok hres

theorem read_yields :
    Yields (read body t? isStatic line rest) fun res => res.2 ≤ rest.length :=
  onMember_yields fun _ _ => regular_yields hb

theorem readConstructor_yields :
    Yields (readConstructor body t? line rest) fun res => res.2 ≤ rest.length := by
  refine onMember_yields fun access s => ?_
  split
  · exact listed_yields hb _
  · exact named_yields hb

theorem readStandalone_yields :
    Yields (readStandalone body line rest) fun res => res.2 ≤ rest.length := by
  rw [readStandalone]
  split
  · exact regular_yields hb
  · exact .ok (Nat.zero_le _)

end Method

namespace Template

variable {v : Vocabulary} {word line : Text} {rest : List Text}

theorem readMember_yields (t : Template) (heading : Option Text) :
    Yields (readMember (.current v word) t heading line rest) fun res => res.2 ≤ rest.length := by
  have hb := Body.ofProgram_yields v
  rw [readMember]
  split
  · exact .ok (Nat.zero_le _)
  · exact (Field.read_yields _ _).bind fun _ _ => .ok (Nat.zero_le _)
  · exact (Field.read_yields _ _).bind fun _ _ => .ok (Nat.zero_le _)
  · exact (Method.readConstructor_yields hb).bind fun _ hn => .ok hn
  · exact (Method.read_yields hb).bind fun _ hn => .ok hn
  · exact (Method.read_yields hb).bind fun _ hn => .ok hn
  · exact Method.readAbstract_yields.bind fun _ _ => .ok (Nat.zero_le _)
  · rw [Accessor.read_eq]
    exact .ok (Nat.zero_le _)
  · exact (hb (line :: rest)).bind fun _ hn => .ok (Nat.sub_le_of_le_add hn)

theorem readMembers_yields (t : Template) (heading : Option Text) (lines : List Text) :
    Yields (readMembers (.current v word) t heading lines) fun res => res.2 ≤ lines.length := by
  induction lines using lines_induction generalizing t heading with
  | nil =>
    rw [readMembers_nil]
    exact .ok (Nat.zero_le _)
  | cons line rest ih =>
    cases blank : isIdle line.trim with
    | true =>
      rw [readMembers_idle blank]
      exact (ih 0 t heading).bind fun res hn => .ok (Nat.succ_le_succ hn)
    | false =>
      have ends := TemplateRules.ends_current v word line line.trim
      cases hstops : v.endsTemplate line line.trim with
      | true =>
        rw [hstops] at ends
        rw [readMembers_stop blank ends]
        exact .ok (Nat.zero_le _)
      | false =>
        rw [hstops] at ends
        cases opens : (TemplateRules.current v word).heading? line line.trim with
        | some name =>
          rw [readMembers_enter blank ends opens]
          exact (ih 0 t (some name)).bind fun res hn => .ok (Nat.succ_le_succ hn)
        | none =>
          rw [readMembers_member blank ends opens]
          refine (readMember_yields t heading).bind fun res hn => ?_
          refine (ih res.2 res.1 heading).bind fun res' hm => .ok ?_
          rw [List.length_drop] at hm
          rw [List.length_cons]
          omega

theorem read_yields (ho : v.opensTemplate line.trim = true) :
    Yields (read v word line rest) fun res => res.2 ≤ rest.length := by
  obtain ⟨name, hn⟩ := Option.isSome_iff_exists.1 ho
  rw [read_of_name hn]
  exact readMembers_yields _ _ _

end Template

namespace Program

variable {v : Vocabulary}

theorem readParts_yields {first : List Text} (p : Program) {lines : List Text}
    (hfirst : lines ≠ [] → first ≠ []) :
    Yields (readParts (.current v first) p lines) fun _ => True := by
  have hb := Body.ofProgram_yields v
  induction lines using lines_induction generalizing p with
  | nil =>
    rw [readParts_nil]
    exact .ok trivial
  | cons line rest ih =>
    have hne : first ≠ [] := hfirst (List.cons_ne_nil _ _)
    have hrest (n : Nat) (q : Program) :
        Yields (readParts (.current v first) q (rest.drop n)) fun _ => True :=
      ih n q fun _ => hne
    have hopens := ProgramRules.opensTemplate_current v first line.trim
    cases ho : v.opensTemplate line.trim with
    | true =>
      rw [ho] at hopens
      rw [readParts_template hopens]
      obtain ⟨head, tail, rfl⟩ := List.exists_cons_of_ne_nil hne
      exact (Template.read_yields ho).bind fun res _ => hrest _ _
    | false =>
      rw [ho] at hopens
      by_cases main : line.trim = "main".toList
      · rw [readParts_main hopens main]
        exact (hb rest).bind fun res _ => hrest _ _
      · cases found : if line.trim.startsWith "method " then
            (ProgramRules.current v first).method? else none with
        | some method =>
          rw [readParts_method hopens main found]
          obtain ⟨-, hmethod⟩ := Option.ite_none_right_eq_some.1 found
          cases hmethod
          exact (Method.readStandalone_yields hb).bind fun res _ => hrest _ _
        | none =>
          rw [readParts_pass hopens main found]
          exact hrest 0 p

theorem read_yields (v : Vocabulary) (source : Text) : Yields (read v source) fun _ => True := by
  rw [read, readLines_drop]
  exact readParts_yields _ fun h hnil => h (by rw [hnil, List.drop_nil])

end Program

end JavaSketch
