import JavaSketch.Proofs.Parts
import JavaSketch.Proofs.TypedStatements

namespace JavaSketch

theorem bind_eq_error {ε α β : Type} {x : Except ε α} {g : α → Except ε β} {f : ε} :
    x >>= g = .error f ↔ x = .error f ∨ ∃ a, x = .ok a ∧ g a = .error f := by
  cases x with
  | error e =>
    constructor
    · intro h
      cases h
      exact .inl rfl
    · rintro (h | ⟨a, h, -⟩)
      · cases h
        rfl
      · cases h
  | ok a =>
    constructor
    · intro h
      exact .inr ⟨a, rfl, h⟩
    · rintro (h | ⟨b, h, hb⟩)
      · cases h
      · cases h
        exact hb

theorem bind_eq_error_of_ok {ε α β : Type} {x : Except ε α} {g : α → Except ε β} {f : ε}
    (h : x >>= g = .error f) (hg : ∀ a, ∃ b, g a = .ok b) : x = .error f := by
  rcases bind_eq_error.1 h with hx | ⟨a, -, ha⟩
  · exact hx
  · obtain ⟨b, hb⟩ := hg a
    rw [hb] at ha
    cases ha

theorem map_eq_error {ε α β : Type} {x : Except ε α} {g : α → β} {f : ε} :
    x.map g = .error f ↔ x = .error f := by
  cases x with
  | error e =>
    constructor
    · intro h
      cases h
      rfl
    · intro h
      cases h
      rfl
  | ok a =>
    constructor
    · intro h
      cases h
    · intro h
      cases h

/-- The faults of an outcome are refusals, and those of the lines that are met. -/
structure Blames {α : Type} (convert : Text → Except Fault Text) (x : Except Fault α)
    (meets : Text → Prop) : Prop where
  sound : ∀ f, x = .error f → f.isRefusal = true ∨ ∃ s, meets s ∧ convert s = .error f
  complete : ∀ s f, meets s → convert s = .error f → x = .error f

namespace Blames

variable {α β : Type} {convert : Text → Except Fault Text} {x : Except Fault α}
  {g : α → Except Fault β} {meets meets' : Text → Prop}

theorem refusing (h : ∀ f, x = .error f → f.isRefusal = true) :
    Blames convert x fun _ => False where
  sound f hf := .inl (h f hf)
  complete _ _ hs _ := hs.elim

theorem ok (a : α) : Blames convert (.ok a) fun _ => False :=
  refusing fun _ h => by cases h

theorem congr (h : Blames convert x meets) (hm : ∀ s, meets' s ↔ meets s) :
    Blames convert x meets' where
  sound f hf := by
    rcases h.sound f hf with hr | ⟨s, hs, hc⟩
    · exact .inl hr
    · exact .inr ⟨s, (hm s).2 hs, hc⟩
  complete s f hs hc := h.complete s f ((hm s).1 hs) hc

/-- A step that cannot fail adds no fault. -/
theorem andThen (h : Blames convert x meets) (hg : ∀ a, ∃ b, g a = .ok b) :
    Blames convert (x >>= g) meets where
  sound f hf := h.sound f (bind_eq_error_of_ok hf hg)
  complete s f hs hc := bind_eq_error.2 (.inl (h.complete s f hs hc))

/-- Behind a step that only refuses, lines are met if it succeeds. -/
theorem after (hx : ∀ f, x = .error f → f.isRefusal = true)
    (hg : ∀ a, Blames convert (g a) meets) :
    Blames convert (x >>= g) fun s => (∃ a, x = .ok a) ∧ meets s where
  sound f hf := by
    rcases bind_eq_error.1 hf with hx' | ⟨a, ha, hga⟩
    · exact .inl (hx f hx')
    · rcases (hg a).sound f hga with hr | ⟨s, hs, hc⟩
      · exact .inl hr
      · exact .inr ⟨s, ⟨⟨a, ha⟩, hs⟩, hc⟩
  complete s f hs hc := by
    obtain ⟨⟨a, ha⟩, hs⟩ := hs
    exact bind_eq_error.2 (.inr ⟨a, ha, (hg a).complete s f hs hc⟩)

theorem map {h : α → β} (hx : Blames convert x meets) : Blames convert (x.map h) meets :=
  hx.andThen fun a => ⟨h a, rfl⟩

end Blames

namespace Body

/-- Reading a body in the given state comes to a line with a statement. -/
inductive Meets (r : BodyRules) (convert : Text → Except Fault Text) :
    State → List Text → Text → Prop
  | here {st : State} {line : Text} {rest : List Text} (filled : line.trim ≠ [])
    (inside : ¬StopsAt r st line) : Meets r convert st (line :: rest) line
  | later {st next : State} {line s : Text} {rest entries : List Text}
    (passed : step r convert st line = .ok (.emit entries next))
    (more : Meets r convert next rest s) : Meets r convert st (line :: rest) s

variable {r : BodyRules} {convert : Text → Except Fault Text} {st : State} {lines : List Text}
  {s : Text} {f : Fault}

theorem meets_of_readFrom (hr : r.IsPlain) (hc : st.inComment = false)
    (h : readFrom r convert st lines = .error f) :
    ∃ s, Meets r convert st lines s ∧ convert s.trim = .error f := by
  induction lines generalizing st with
  | nil => cases h
  | cons line rest ih =>
    rw [readFrom] at h
    rcases bind_eq_error.1 h with hs | ⟨res, hs, h⟩
    · by_cases hl : line.trim = []
      · rw [step_blankLine hr hc hl] at hs
        cases hs
      by_cases he : StopsAt r st line
      · rw [step_ends hr hc hl he] at hs
        cases hs
      · rw [step_statement hr hc hl he] at hs
        exact ⟨line, .here hl he, map_eq_error.1 hs⟩
    · cases res with
      | stop => cases h
      | emit entries next =>
        obtain ⟨s, hm, hf⟩ :=
          ih (inComment_of_step hr hc hs) (bind_eq_error_of_ok h fun res => ⟨_, rfl⟩)
        exact ⟨s, .later hs hm, hf⟩

theorem Meets.readFrom_eq (hr : r.IsPlain) (hc : st.inComment = false)
    (h : Meets r convert st lines s) (hs : convert s.trim = .error f) :
    readFrom r convert st lines = .error f := by
  induction h with
  | here filled inside =>
    rw [readFrom, step_statement hr hc filled inside, hs]
    rfl
  | later passed more ih =>
    rw [readFrom_emit passed, ih (inComment_of_step hr hc passed) hs]
    rfl

theorem readFrom_blames (hr : r.IsPlain) (hc : st.inComment = false) (lines : List Text) :
    Blames (fun line => convert line.trim) (readFrom r convert st lines)
      (Meets r convert st lines) where
  sound _ h := .inr (meets_of_readFrom hr hc h)
  complete _ _ h hs := h.readFrom_eq hr hc hs

end Body

theorem Yields.isRefusal {α : Type} {x : Except Fault α} {P : α → Prop} {f : Fault}
    (h : Yields x P) (hx : x = .error f) : f.isRefusal = true := by
  rw [hx] at h
  exact h.1

theorem Edition.anyParams_yields (t? : Option Template) (s : Text) :
    Yields (anyParams t? s) fun _ => True := by
  cases t? with
  | none => exact Parameter.readFree_yields s
  | some t => exact Parameter.readAll_typeIn_yields _ t s

namespace MethodReader

variable {r : MethodReader} {convert : Text → Except Fault Text} {meets : List Text → Text → Prop}

/-- The line of a method can be read, without its body. -/
def AcceptsRegular (r : MethodReader) (s : Text) : Prop :=
  ∃ sig ps, Signature.read? r.marks s = some sig ∧ r.params sig.returns sig.params = .ok ps

def AcceptsNamed (r : MethodReader) (s : Text) : Prop :=
  ∃ name params ps, Signature.callParts? s = some (name, params) ∧ r.params "void" params = .ok ps

def AcceptsListed (r : MethodReader) (s : Text) : Prop :=
  ∃ ps, r.params "void" (Text.trim (Text.dropEndWhile (· == ':') s)) = .ok ps

variable (hb : ∀ lines, Blames convert (r.body lines) (meets lines))
  (hp : ∀ returns s f, r.params returns s = .error f → f.isRefusal = true)

include hb hp

theorem regular_blames (access : Access) (isStatic : Bool) (s : Text) (rest : List Text) :
    Blames convert (r.regular access isStatic s rest)
      fun t => r.AcceptsRegular s ∧ meets rest t := by
  rw [regular]
  cases hs : Signature.read? r.marks s with
  | none =>
    refine (Blames.ok _).congr fun t => ?_
    simp [AcceptsRegular, hs]
  | some sig =>
    refine (Blames.after (hp _ _) fun ps => (hb rest).andThen fun res => ⟨_, rfl⟩).congr fun t => ?_
    simp [AcceptsRegular, hs]

theorem named_blames (access : Access) (s : Text) (rest : List Text) :
    Blames convert (r.named access s rest) fun t => r.AcceptsNamed s ∧ meets rest t := by
  rw [named]
  cases hs : Signature.callParts? s with
  | none =>
    refine (Blames.ok _).congr fun t => ?_
    simp [AcceptsNamed, hs]
  | some parts =>
    obtain ⟨name, params⟩ := parts
    refine (Blames.after (hp _ _) fun ps => (hb rest).andThen fun res => ⟨_, rfl⟩).congr fun t => ?_
    simp [AcceptsNamed, hs]

theorem listed_blames (name : Text) (access : Access) (s : Text) (rest : List Text) :
    Blames convert (r.listed name access s rest) fun t => r.AcceptsListed s ∧ meets rest t :=
  Blames.after (hp _ _) fun _ => (hb rest).andThen fun _ => ⟨_, rfl⟩

omit hb in
theorem abstract_refuses {access : Access} {s : Text} {f : Fault}
    (h : r.abstract access s = .error f) : f.isRefusal = true := by
  rw [abstract] at h
  cases hs : Signature.read? r.marks s with
  | none =>
    rw [hs] at h
    cases h
  | some sig =>
    rw [hs] at h
    rcases bind_eq_error.1 h with h | ⟨ps, -, h⟩
    · exact hp _ _ f h
    · cases h

end MethodReader

namespace Program

/-- The number of lines behind the given one that belong to the same part. -/
def partLength (r : ProgramRules) (line : Text) (rest : List Text) : Except Fault Nat := do
  if ← r.opensTemplate line.trim then (r.template line rest).map (·.2)
  else if line.trim = "main".toList then (r.main rest).map (·.2)
  else
    match if line.trim.startsWith "method " then r.method? else none with
    | some method => (method line rest).map (·.2)
    | none => .ok 0

variable {r : ProgramRules} {line : Text} {rest : List Text} {n : Nat} {f : Fault} {p : Program}

theorem partLength_template (ho : r.opensTemplate line.trim = .ok true) :
    partLength r line rest = (r.template line rest).map (·.2) := by
  rw [partLength, ho]
  rfl

theorem partLength_main (ho : r.opensTemplate line.trim = .ok false)
    (hm : line.trim = "main".toList) : partLength r line rest = (r.main rest).map (·.2) := by
  rw [partLength, ho]
  exact if_pos hm

theorem partLength_method {method : Text → List Text → Except Fault (Option Method × Nat)}
    (ho : r.opensTemplate line.trim = .ok false) (hm : line.trim ≠ "main".toList)
    (hf : (if line.trim.startsWith "method " then r.method? else none) = some method) :
    partLength r line rest = (method line rest).map (·.2) := by
  rw [partLength, ho]
  refine (if_neg hm).trans ?_
  rw [hf]

theorem partLength_pass (ho : r.opensTemplate line.trim = .ok false)
    (hm : line.trim ≠ "main".toList)
    (hf : (if line.trim.startsWith "method " then r.method? else none) = none) :
    partLength r line rest = .ok 0 := by
  rw [partLength, ho]
  refine (if_neg hm).trans ?_
  rw [hf]

theorem readParts_of_fault (h : partLength r line rest = .error f) :
    readParts r p (line :: rest) = .error f := by
  rcases bind_eq_error.1 h with ho | ⟨opens, ho, h⟩
  · exact readParts_broken ho
  cases opens with
  | true =>
    rw [readParts_template ho]
    exact bind_eq_error.2 (.inl (map_eq_error.1 h))
  | false =>
    rw [if_neg Bool.false_ne_true] at h
    by_cases hm : line.trim = "main".toList
    · rw [if_pos hm] at h
      rw [readParts_main ho hm]
      exact bind_eq_error.2 (.inl (map_eq_error.1 h))
    rw [if_neg hm] at h
    cases hf : (if line.trim.startsWith "method " then r.method? else none) with
    | none =>
      rw [hf] at h
      cases h
    | some method =>
      rw [hf] at h
      rw [readParts_method ho hm hf]
      exact bind_eq_error.2 (.inl (map_eq_error.1 h))

/-- Behind a part, reading goes on with another program. -/
theorem readParts_of_partLength (h : partLength r line rest = .ok n) (p : Program) :
    ∃ q, readParts r p (line :: rest) = readParts r q (rest.drop n) := by
  obtain ⟨opens, ho, h⟩ := bind_eq_ok.1 h
  cases opens with
  | true =>
    obtain ⟨⟨t, k⟩, ht, rfl⟩ := map_eq_ok.1 h
    rw [readParts_template ho, ht]
    exact ⟨_, rfl⟩
  | false =>
    rw [if_neg Bool.false_ne_true] at h
    by_cases hm : line.trim = "main".toList
    · rw [if_pos hm] at h
      obtain ⟨⟨body, k⟩, hb, rfl⟩ := map_eq_ok.1 h
      rw [readParts_main ho hm, hb]
      exact ⟨_, rfl⟩
    rw [if_neg hm] at h
    cases hf : (if line.trim.startsWith "method " then r.method? else none) with
    | none =>
      rw [hf] at h
      cases h
      exact ⟨p, readParts_pass ho hm hf⟩
    | some method =>
      rw [hf] at h
      obtain ⟨⟨m, k⟩, hr, rfl⟩ := map_eq_ok.1 h
      rw [readParts_method ho hm hf, hr]
      exact ⟨_, rfl⟩

end Program

namespace Edition

variable (e : Edition)

/-- The Java form of the statement on a line. -/
def convertLine (line : Text) : Except Fault Text := e.convert line.trim

/-- Reading a body under a member comes to the line. -/
def BodyMeets (lines : List Text) (s : Text) : Prop := Body.Meets e.bodyRules e.convert {} lines s

def MethodMeets (t? : Option Template) (line : Text) (rest : List Text) (s : Text) : Prop :=
  isIdle line.trim = false ∧
    (e.methodReader (e.params t?)).AcceptsRegular (Access.parts line.trim).2 ∧ e.BodyMeets rest s

/-- A constructor that is written as a call has no body if its line looks like a list. -/
def ConstructorMeets (t? : Option Template) (line : Text) (rest : List Text) (s : Text) : Prop :=
  let reader := e.methodReader fun _ => e.constructorParams t?
  let member := (Access.parts line.trim).2
  isIdle line.trim = false ∧ e.BodyMeets rest s ∧
    if e.constructorForm.isListed member then reader.AcceptsListed member
    else reader.AcceptsNamed member ∧ e.constructorForm.isListed line.trim = false

def MemberMeets (opening : Text) (t : Template) (heading : Option Text) (line : Text)
    (rest : List Text) (s : Text) : Prop :=
  match e.kind? opening heading line.indent with
  | some .constructors => e.ConstructorMeets (some t) line rest s
  | some .staticMethods | some .instanceMethods => e.MethodMeets (some t) line rest s
  | some .main => e.BodyMeets (line :: rest) s
  | _ => False

/-- Reading the members of a template comes to the line. -/
inductive TemplateMeets (opening : Text) : Template → Option Text → List Text → Text → Prop
  | idle {t : Template} {heading : Option Text} {line s : Text} {rest : List Text}
    (blank : isIdle line.trim = true) (more : TemplateMeets opening t heading rest s) :
    TemplateMeets opening t heading (line :: rest) s
  | enter {t : Template} {heading : Option Text} {line name s : Text} {rest : List Text}
    (blank : isIdle line.trim = false) (ends : e.endsTemplate line line.trim = false)
    (opens : e.heading? line line.trim = some name)
    (more : TemplateMeets opening t (some name) rest s) :
    TemplateMeets opening t heading (line :: rest) s
  | here {t : Template} {heading : Option Text} {line s : Text} {rest : List Text}
    (blank : isIdle line.trim = false) (ends : e.endsTemplate line line.trim = false)
    (opens : e.heading? line line.trim = none)
    (meets : e.MemberMeets opening t heading line rest s) :
    TemplateMeets opening t heading (line :: rest) s
  | later {t u : Template} {heading : Option Text} {line s : Text} {rest : List Text} {k : Nat}
    (blank : isIdle line.trim = false) (ends : e.endsTemplate line line.trim = false)
    (opens : e.heading? line line.trim = none)
    (reads : Template.readMember (e.templateRules opening) t heading line rest = .ok (u, k))
    (more : TemplateMeets opening u heading (rest.drop k) s) :
    TemplateMeets opening t heading (line :: rest) s

/-- Only refusals come from the lines of members and of templates. -/
structure Refusing (e : Edition) : Prop where
  body : e.bodyRules.IsPlain
  main : e.mainRules.IsPlain
  params : ∀ t? returns s f, e.params t? returns s = .error f → f.isRefusal = true
  constructorParams : ∀ t? s f, e.constructorParams t? s = .error f → f.isRefusal = true
  freeParams : ∀ returns s f, e.freeParams returns s = .error f → f.isRefusal = true
  field : ∀ isStatic s f, s ≠ [] → e.field isStatic s = .error f → f.isRefusal = true
  name : ∀ s f, e.templateName s = .error f → f.isRefusal = true

variable {e}

theorem readBody_blames (he : e.Refusing) (lines : List Text) :
    Blames e.convertLine (e.readBody lines) (e.BodyMeets lines) :=
  Body.readFrom_blames he.body rfl lines

theorem readMain_blames (he : e.Refusing) (lines : List Text) :
    Blames e.convertLine (e.readMain lines) (Body.Meets e.mainRules e.convert {} lines) :=
  Body.readFrom_blames he.main rfl lines

theorem readMethod_blames (he : e.Refusing) (t? : Option Template) (isStatic : Bool) (line : Text)
    (rest : List Text) :
    Blames e.convertLine (e.readMethod t? isStatic line rest) (e.MethodMeets t? line rest) := by
  rw [readMethod, Method.onMember_eq]
  cases hi : isIdle line.trim with
  | true =>
    refine (Blames.ok _).congr fun s => ?_
    simp [MethodMeets, hi]
  | false =>
    refine (MethodReader.regular_blames (readBody_blames he) (he.params t?) _ isStatic _ rest).congr
      fun s => ?_
    simp [MethodMeets, hi]

theorem readConstructor_blames (he : e.Refusing) (t? : Option Template) (line : Text)
    (rest : List Text) :
    Blames e.convertLine (e.readConstructor t? line rest) (e.ConstructorMeets t? line rest) := by
  have hp (returns : Text) := he.constructorParams t?
  rw [readConstructor, Method.onMember_eq]
  cases hi : isIdle line.trim with
  | true =>
    refine (Blames.ok _).congr fun s => ?_
    simp [ConstructorMeets, hi]
  | false =>
    cases hl : e.constructorForm.isListed (Access.parts line.trim).2 with
    | true =>
      refine (MethodReader.listed_blames (readBody_blames he) hp _ _ _ rest).congr fun s => ?_
      simp [ConstructorMeets, hi, hl, and_comm]
    | false =>
      cases hm : e.constructorForm.isListed line.trim with
      | true =>
        refine (MethodReader.named_blames (readBody_blames he) hp _ _ []).congr fun s => ?_
        have hnone : ¬e.BodyMeets [] s := by
          intro h
          cases h
        simp [ConstructorMeets, hi, hl, hm, hnone]
      | false =>
        refine (MethodReader.named_blames (readBody_blames he) hp _ _ rest).congr fun s => ?_
        simp [ConstructorMeets, hi, hl, hm, and_comm]

theorem readField_refuses (he : e.Refusing) {isStatic : Bool} {line : Text} {f : Fault}
    (h : e.readField isStatic line = .error f) : f.isRefusal = true := by
  rw [readField] at h
  cases hi : isIdle line.trim with
  | true =>
    simp only [hi, ↓reduceIte] at h
    cases h
  | false =>
    simp only [hi, Bool.false_eq_true, ↓reduceIte] at h
    exact he.field _ _ f (ne_nil_of_not_isIdle hi) (map_eq_error.1 h)

theorem readAbstract_refuses (he : e.Refusing) {t? : Option Template} {line : Text} {f : Fault}
    (h : e.readAbstract t? line = .error f) : f.isRefusal = true := by
  rw [readAbstract, Method.onMember_eq] at h
  cases hi : isIdle line.trim with
  | true =>
    simp only [hi, ↓reduceIte] at h
    cases h
  | false =>
    simp only [hi, Bool.false_eq_true, ↓reduceIte] at h
    exact MethodReader.abstract_refuses (he.params t?) (map_eq_error.1 (map_eq_error.1 h))

theorem readMember_blames (he : e.Refusing) (opening : Text) (t : Template)
    (heading : Option Text) (line : Text) (rest : List Text) :
    Blames e.convertLine (Template.readMember (e.templateRules opening) t heading line rest)
      (e.MemberMeets opening t heading line rest) := by
  rw [Template.readMember]
  cases hk : e.kind? opening heading line.indent with
  | none =>
    simp only [templateRules, hk]
    exact (Blames.ok _).congr fun s => by simp [MemberMeets, hk]
  | some kind =>
    have hk' : (e.templateRules opening).kind? heading line.indent = some kind := hk
    rw [hk']
    cases kind with
    | staticVars =>
      refine (Blames.refusing fun f hf => ?_).congr fun s => by simp [MemberMeets, hk]
      exact readField_refuses he (bind_eq_error_of_ok hf fun v => ⟨_, rfl⟩)
    | instanceVars =>
      refine (Blames.refusing fun f hf => ?_).congr fun s => by simp [MemberMeets, hk]
      exact readField_refuses he (bind_eq_error_of_ok hf fun v => ⟨_, rfl⟩)
    | constructors =>
      exact ((readConstructor_blames he (some t) line rest).andThen fun res => ⟨_, rfl⟩).congr
        fun s => by simp [MemberMeets, hk]
    | staticMethods =>
      exact ((readMethod_blames he (some t) true line rest).andThen fun res => ⟨_, rfl⟩).congr
        fun s => by simp [MemberMeets, hk]
    | instanceMethods =>
      exact ((readMethod_blames he (some t) false line rest).andThen fun res => ⟨_, rfl⟩).congr
        fun s => by simp [MemberMeets, hk]
    | abstractMethods =>
      refine (Blames.refusing fun f hf => ?_).congr fun s => by simp [MemberMeets, hk]
      exact readAbstract_refuses he (bind_eq_error_of_ok hf fun m => ⟨_, rfl⟩)
    | accessors =>
      refine (Blames.refusing fun f hf => ?_).congr fun s => by simp [MemberMeets, hk]
      have hread := bind_eq_error_of_ok hf fun a => ⟨_, rfl⟩
      rw [Accessor.read_eq] at hread
      cases hread
    | main =>
      exact ((readBody_blames he (line :: rest)).andThen fun res => ⟨_, rfl⟩).congr
        fun s => by simp [MemberMeets, hk]

theorem meets_of_readMembers (he : e.Refusing) {opening : Text} {t : Template}
    {heading : Option Text} {lines : List Text} {f : Fault}
    (h : Template.readMembers (e.templateRules opening) t heading lines = .error f) :
    f.isRefusal = true ∨
      ∃ s, e.TemplateMeets opening t heading lines s ∧ e.convertLine s = .error f := by
  induction lines using lines_induction generalizing t heading with
  | nil =>
    rw [Template.readMembers_nil] at h
    cases h
  | cons line rest ih =>
    have hends : (e.templateRules opening).ends line line.trim =
        .ok (e.endsTemplate line line.trim) := rfl
    cases blank : isIdle line.trim with
    | true =>
      rw [Template.readMembers_idle blank] at h
      rcases ih 0 (bind_eq_error_of_ok h fun res => ⟨_, rfl⟩) with hr | ⟨s, hm, hs⟩
      · exact .inl hr
      · exact .inr ⟨s, .idle blank hm, hs⟩
    | false =>
      cases ends : e.endsTemplate line line.trim with
      | true =>
        rw [ends] at hends
        rw [Template.readMembers_stop blank hends] at h
        cases h
      | false =>
        rw [ends] at hends
        cases opens : e.heading? line line.trim with
        | some name =>
          rw [Template.readMembers_enter blank hends opens] at h
          rcases ih 0 (bind_eq_error_of_ok h fun res => ⟨_, rfl⟩) with hr | ⟨s, hm, hs⟩
          · exact .inl hr
          · exact .inr ⟨s, .enter blank ends opens hm, hs⟩
        | none =>
          rw [Template.readMembers_member blank hends opens] at h
          rcases bind_eq_error.1 h with h | ⟨⟨u, k⟩, hk, h⟩
          · have hblames := readMember_blames he opening t heading line rest
            rcases hblames.sound f h with hr | ⟨s, hm, hs⟩
            · exact .inl hr
            · exact .inr ⟨s, .here blank ends opens hm, hs⟩
          · rcases ih k (bind_eq_error_of_ok h fun res => ⟨_, rfl⟩) with hr | ⟨s, hm, hs⟩
            · exact .inl hr
            · exact .inr ⟨s, .later blank ends opens hk hm, hs⟩

theorem TemplateMeets.readMembers_eq (he : e.Refusing) {opening s : Text} {t : Template}
    {heading : Option Text} {lines : List Text} {f : Fault}
    (h : e.TemplateMeets opening t heading lines s) (hs : e.convertLine s = .error f) :
    Template.readMembers (e.templateRules opening) t heading lines = .error f := by
  induction h with
  | idle blank more ih =>
    rw [Template.readMembers_idle blank, ih hs]
    rfl
  | enter blank ends opens more ih =>
    rw [Template.readMembers_enter blank (congrArg Except.ok ends) opens, ih hs]
    rfl
  | here blank ends opens meets =>
    rw [Template.readMembers_member blank (congrArg Except.ok ends) opens]
    exact bind_eq_error.2 (.inl ((readMember_blames he _ _ _ _ _).complete _ _ meets hs))
  | later blank ends opens reads more ih =>
    rw [Template.readMembers_member blank (congrArg Except.ok ends) opens]
    exact bind_eq_error.2 (.inr ⟨_, reads, bind_eq_error.2 (.inl (ih hs))⟩)

theorem readTemplate_blames (he : e.Refusing) (line : Text) (rest : List Text) :
    Blames e.convertLine (e.readTemplate line rest) fun s =>
      ∃ name, e.templateName line.trim = .ok name ∧
        e.TemplateMeets line.trim (.ofHeader name (e.header line.trim)) none rest s where
  sound f h := by
    rcases bind_eq_error.1 h with h | ⟨name, hn, h⟩
    · exact .inl (he.name _ f h)
    · rcases meets_of_readMembers he h with hr | ⟨s, hm, hs⟩
      · exact .inl hr
      · exact .inr ⟨s, ⟨name, hn, hm⟩, hs⟩
  complete s f hm hs := by
    obtain ⟨name, hn, hm⟩ := hm
    exact bind_eq_error.2 (.inr ⟨name, hn, hm.readMembers_eq he hs⟩)

variable (e) in
def StandaloneMeets (line : Text) (rest : List Text) (s : Text) : Prop :=
  line.trim.startsWith "method " = true ∧
    (e.methodReader e.freeParams).AcceptsRegular (Access.parts (Text.trim (line.trim.drop 7))).2 ∧
    e.BodyMeets rest s

theorem readStandalone_blames (he : e.Refusing) (line : Text) (rest : List Text) :
    Blames e.convertLine (e.readStandalone line rest) (e.StandaloneMeets line rest) := by
  cases hs : line.trim.startsWith "method " with
  | false =>
    have hread : e.readStandalone line rest = .ok (none, 0) := if_neg (Bool.eq_false_iff.1 hs)
    rw [hread]
    refine (Blames.ok _).congr fun s => ?_
    simp only [StandaloneMeets, hs, Bool.false_eq_true, false_and]
  | true =>
    rw [e.readStandalone_eq hs]
    refine (MethodReader.regular_blames (readBody_blames he) he.freeParams _ true _ rest).congr
      fun s => ?_
    simp only [StandaloneMeets, hs, true_and]

variable (e) in
/-- Reading the part of a program that begins on a line comes to the line. -/
def PartMeets (line : Text) (rest : List Text) (s : Text) : Prop :=
  if e.opensTemplate line.trim then
    ∃ name, e.templateName line.trim = .ok name ∧
      e.TemplateMeets line.trim (.ofHeader name (e.header line.trim)) none rest s
  else if line.trim = "main".toList then Body.Meets e.mainRules e.convert {} rest s
  else e.hasMethods = true ∧ e.StandaloneMeets line rest s

/-- A line that opens neither a template nor the main part takes those of a method, or none. -/
theorem partLength_free {line : Text} {rest : List Text} (ho : ¬e.opensTemplate line.trim = true)
    (hm : line.trim ≠ "main".toList) : Program.partLength e.programRules line rest =
      if line.trim.startsWith "method " = true ∧ e.hasMethods = true then
        (e.readStandalone line rest).map (·.2)
      else .ok 0 := by
  refine (if_neg ho).trans ((if_neg hm).trans ?_)
  cases line.trim.startsWith "method " with
  | false => rfl
  | true =>
    cases hh : e.hasMethods with
    | false => simp [programRules, hh]
    | true => simp [programRules, hh]

theorem partLength_blames (he : e.Refusing) (line : Text) (rest : List Text) :
    Blames e.convertLine (Program.partLength e.programRules line rest) (e.PartMeets line rest) := by
  by_cases ho : e.opensTemplate line.trim = true
  · rw [Program.partLength_template (congrArg Except.ok ho)]
    exact (readTemplate_blames he line rest).map.congr fun s => iff_of_eq (if_pos ho)
  have hopens : e.programRules.opensTemplate line.trim = .ok false :=
    congrArg Except.ok (Bool.eq_false_iff.2 ho)
  by_cases hm : line.trim = "main".toList
  · rw [Program.partLength_main hopens hm]
    exact (readMain_blames he rest).map.congr fun s =>
      iff_of_eq ((if_neg ho).trans (if_pos hm))
  have hmeets (s : Text) :
      e.PartMeets line rest s ↔ e.hasMethods = true ∧ e.StandaloneMeets line rest s :=
    iff_of_eq ((if_neg ho).trans (if_neg hm))
  refine Blames.congr ?_ hmeets
  rw [partLength_free ho hm]
  by_cases hs : line.trim.startsWith "method " = true ∧ e.hasMethods = true
  · rw [if_pos hs]
    exact (readStandalone_blames he line rest).map.congr fun s => and_iff_right hs.2
  · rw [if_neg hs]
    refine (Blames.ok _).congr fun s => iff_of_false ?_ not_false
    rintro ⟨hh, hmethod, -⟩
    exact hs ⟨hmethod, hh⟩

variable (e) in
/-- Reading the parts of a program comes to the line. -/
inductive Meets : List Text → Text → Prop
  | here {line s : Text} {rest : List Text} (meets : e.PartMeets line rest s) :
    Meets (line :: rest) s
  | later {line s : Text} {rest : List Text} {n : Nat}
    (passed : Program.partLength e.programRules line rest = .ok n) (more : Meets (rest.drop n) s) :
    Meets (line :: rest) s

theorem meets_of_readParts (he : e.Refusing) {p : Program} {lines : List Text} {f : Fault}
    (h : Program.readParts e.programRules p lines = .error f) :
    f.isRefusal = true ∨ ∃ s, e.Meets lines s ∧ e.convertLine s = .error f := by
  induction hk : lines.length using Nat.strong_induction_on generalizing p lines with
  | _ k ih =>
    cases lines with
    | nil =>
      rw [Program.readParts] at h
      cases h
    | cons line rest =>
      cases hn : Program.partLength e.programRules line rest with
      | error g =>
        rw [Program.readParts_of_fault hn] at h
        cases h
        rcases (partLength_blames he line rest).sound f hn with hr | ⟨s, hm, hs⟩
        · exact .inl hr
        · exact .inr ⟨s, .here hm, hs⟩
      | ok n =>
        obtain ⟨q, hq⟩ := Program.readParts_of_partLength hn p
        rw [hq] at h
        have hlt : (rest.drop n).length < k := by
          rw [← hk, List.length_drop, List.length_cons]
          omega
        rcases ih _ hlt h rfl with hr | ⟨s, hm, hs⟩
        · exact .inl hr
        · exact .inr ⟨s, .later hn hm, hs⟩

theorem Meets.readParts_eq (he : e.Refusing) {lines : List Text} {s : Text} {f : Fault}
    (h : e.Meets lines s) (hs : e.convertLine s = .error f) (p : Program) :
    Program.readParts e.programRules p lines = .error f := by
  induction h generalizing p with
  | here meets =>
    exact Program.readParts_of_fault ((partLength_blames he _ _).complete _ _ meets hs)
  | later passed more ih =>
    obtain ⟨q, hq⟩ := Program.readParts_of_partLength passed p
    rw [hq]
    exact ih hs q

theorem openAccessors_refusing (v : Vocabulary) : (openAccessors v).Refusing where
  body := ⟨rfl, rfl, fun _ _ => ⟨_, rfl⟩⟩
  main := ⟨rfl, rfl, fun _ _ => ⟨_, rfl⟩⟩
  params t? _ s f h := (anyParams_yields t? s).isRefusal h
  constructorParams t? s f h := (anyParams_yields t? s).isRefusal h
  freeParams _ s f h := (Parameter.readFree_yields s).isRefusal h
  field isStatic s f hs h := (Field.ofText_yields isStatic hs).isRefusal h
  name s f h := by
    have hn : nameWith v s = .error f := h
    rw [nameWith] at hn
    cases ht : v.templateName? s with
    | some name =>
      rw [ht] at hn
      cases hn
    | none =>
      rw [ht] at hn
      cases hn
      rfl

/-- A text has a Java form, or it is refused, or the reading breaks down, and it does that exactly
where it meets a statement whose type is written behind the equals sign only. -/
theorem javaText_formless_iff (v : Vocabulary) (source : Text) :
    (∀ f, (openAccessors v).javaText source = .error f → f.isRefusal = true ∨ f = .formless) ∧
    ((openAccessors v).javaText source = .error .formless ↔
      ∃ line, (openAccessors v).Meets source.trim.lines line ∧ Statement.Formless line.trim) := by
  have he := openAccessors_refusing v
  have hformless (line : Text) : (openAccessors v).convertLine line = .error .formless ↔
      Statement.Formless line.trim :=
    Statement.convertBy_formless_iff guesses.print guesses.loops (Text.trim_trim line)
  constructor
  · intro f h
    rw [javaText, map_eq_error, read_eq] at h
    rcases meets_of_readParts he h with hr | ⟨line, -, hs⟩
    · exact .inl hr
    · exact Statement.refused_or_formless hs
  · rw [javaText, map_eq_error, read_eq]
    constructor
    · intro h
      rcases meets_of_readParts he h with hr | ⟨line, hm, hs⟩
      · cases hr
      · exact ⟨line, hm, (hformless line).1 hs⟩
    · rintro ⟨line, hm, hs⟩
      exact hm.readParts_eq he ((hformless line).2 hs) _

example : (openAccessors .standard).javaText "main\n    x = y as int" = .error .formless := by
  decide +kernel

end Edition

end JavaSketch
