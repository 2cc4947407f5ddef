import JavaSketch.Proofs.Margins
import JavaSketch.Proofs.Position

namespace JavaSketch

/-- A member of a template, in the list that it belongs to. -/
inductive Member
  | staticVar (v : Variable)
  | instanceVar (v : Variable)
  | constructor (m : Method)
  | staticMethod (m : Method)
  | instanceMethod (m : Method)
  | abstractMethod (m : Method)
  | accessor (a : Accessor)

/-- The member is of the kind that its list is meant for. -/
def Member.Fits : Member → Prop
  | .staticVar v => v.isStatic = true
  | .instanceVar v => v.isStatic = false
  | .constructor m => m.isConstructor = true
  | .staticMethod m => m.isStatic = true ∧ m.isConstructor = false
  | .instanceMethod m => m.isStatic = false ∧ m.isConstructor = false
  | .abstractMethod m => m.isConstructor = false ∧ m.body = []
  | .accessor _ => True

theorem Field.isStatic_of_read {b : Bool} {line : Text} {v : Variable}
    (h : Field.read b line = .ok (some v)) : v.isStatic = b := by
  rw [Field.read] at h
  split at h
  · cases h
  · obtain ⟨w, hw, he⟩ := map_eq_ok.1 h
    cases he
    obtain ⟨parts, -, hw⟩ := bind_eq_ok.1 hw
    dsimp only at hw
    split at hw
    · cases hw
    · cases hw
      rfl

theorem MethodReader.bodiless_of_abstract {r : MethodReader} {access : Access} {s : Text}
    {m : Method} (h : r.abstract access s = .ok (some m)) :
    m.isConstructor = false ∧ m.body = [] := by
  rw [abstract] at h
  split at h
  · cases h
  · obtain ⟨params, _, h⟩ := bind_eq_ok.1 h
    cases h
    exact ⟨rfl, rfl⟩

namespace Method

variable {body : List Text → Except Fault (List Text × Nat)} {t? : Option Template}
  {isStatic : Bool} {line : Text} {rest : List Text} {m : Method} {n : Nat}

theorem flags_of_read (h : read body t? isStatic line rest = .ok (some m, n)) :
    m.isStatic = isStatic ∧ m.isConstructor = false := by
  obtain ⟨access, s, h⟩ := of_onMember h
  obtain ⟨_, _, _, -, -, -, rfl⟩ := MethodReader.of_regular h
  exact ⟨rfl, rfl⟩

theorem isConstructor_of_readConstructor
    (h : readConstructor body t? line rest = .ok (some m, n)) : m.isConstructor = true := by
  obtain ⟨access, s, h⟩ := of_onMember h
  split at h
  · obtain ⟨_, _, -, -, rfl⟩ := MethodReader.of_listed h
    rfl
  · obtain ⟨_, _, _, _, -, -, -, rfl⟩ := MethodReader.of_named h
    rfl

theorem bodiless_of_readAbstract (h : readAbstract t? line = .ok (some m)) :
    m.isConstructor = false ∧ m.body = [] := by
  obtain ⟨⟨m?, n⟩, hm, rfl⟩ := map_eq_ok.1 h
  obtain ⟨access, s, hs⟩ := of_onMember hm
  obtain ⟨m?, ha, he⟩ := map_eq_ok.1 hs
  cases he
  exact MethodReader.bodiless_of_abstract ha

end Method

namespace Template

/-- The template with one more member, which is the last one of its list. -/
def add (t : Template) : Member → Template
  | .staticVar v => { t with staticVars := t.staticVars ++ [v] }
  | .instanceVar v => { t with instanceVars := t.instanceVars ++ [v] }
  | .constructor m => { t with constructors := t.constructors ++ [m] }
  | .staticMethod m => { t with staticMethods := t.staticMethods ++ [m] }
  | .instanceMethod m => { t with instanceMethods := t.instanceMethods ++ [m] }
  | .abstractMethod m => { t with abstractMethods := t.abstractMethods ++ [m] }
  | .accessor a => { t with accessors := t.accessors ++ [a] }

def addAll (t : Template) (ms : List Member) : Template := ms.foldl add t

/-- What the opening line says about a template, apart from its name. -/
def header (t : Template) : Header := ⟨t.isAbstract, t.isInterface, t.parent, t.interfaces⟩

/-- The member that a line of a section brings, if it brings one. -/
def memberOn (r : TemplateRules) (t : Template) (kind : Section) (line : Text) (rest : List Text) :
    Except Fault (Option Member × Nat) :=
  match kind with
  | .staticVars => (r.field true line).map fun v => (v.map .staticVar, 0)
  | .instanceVars => (r.field false line).map fun v => (v.map .instanceVar, 0)
  | .constructors => (r.constructor t line rest).map fun res => (res.1.map .constructor, res.2)
  | .staticMethods => (r.method t true line rest).map fun res => (res.1.map .staticMethod, res.2)
  | .instanceMethods =>
    (r.method t false line rest).map fun res => (res.1.map .instanceMethod, res.2)
  | .abstractMethods => (r.abstract t line).map fun m => (m.map .abstractMethod, 0)
  | .accessors => (Accessor.read line).map fun a => (a.map .accessor, 0)
  | .main =>
    (r.body (line :: rest)).map fun res => (some (.staticMethod (mainMethod res.1)), res.2 - 1)

variable {r : TemplateRules} {v : Vocabulary} {word line : Text} {lines rest : List Text}
  {t u : Template} {heading : Option Text} {kind : Section} {i n : Nat}

theorem readMember_none (hk : r.kind? heading line.indent = none) :
    readMember r t heading line rest = .ok (t, 0) := by
  rw [readMember, hk]

theorem bind_append {α β : Type} (x : Except Fault β) (item : β → Option α) (count : β → Nat)
    (list : List α) (update : List α → Template) (make : α → Member) (hself : update list = t)
    (hadd : ∀ a, update (list ++ [a]) = t.add (make a)) :
    (x >>= fun b => .ok (update (list ++ (item b).toList), count b)) =
      (x.map fun b => ((item b).map make, count b)).map fun res =>
        (t.addAll res.1.toList, res.2) := by
  cases x with
  | error f => rfl
  | ok b =>
    refine congrArg (fun u => Except.ok (u, count b)) ?_
    dsimp only
    cases item b with
    | none => exact (congrArg update (List.append_nil list)).trans hself
    | some a => exact hadd a

theorem readMember_some (hk : r.kind? heading line.indent = some kind) :
    readMember r t heading line rest =
      (memberOn r t kind line rest).map fun res => (t.addAll res.1.toList, res.2) := by
  rw [readMember, hk]
  cases kind with
  | staticVars =>
    exact bind_append (r.field true line) id (fun _ => 0) t.staticVars
      (fun l => { t with staticVars := l }) .staticVar rfl fun _ => rfl
  | instanceVars =>
    exact bind_append (r.field false line) id (fun _ => 0) t.instanceVars
      (fun l => { t with instanceVars := l }) .instanceVar rfl fun _ => rfl
  | constructors =>
    exact bind_append (r.constructor t line rest) Prod.fst Prod.snd t.constructors
      (fun l => { t with constructors := l }) .constructor rfl fun _ => rfl
  | staticMethods =>
    exact bind_append (r.method t true line rest) Prod.fst Prod.snd t.staticMethods
      (fun l => { t with staticMethods := l }) .staticMethod rfl fun _ => rfl
  | instanceMethods =>
    exact bind_append (r.method t false line rest) Prod.fst Prod.snd t.instanceMethods
      (fun l => { t with instanceMethods := l }) .instanceMethod rfl fun _ => rfl
  | abstractMethods =>
    exact bind_append (r.abstract t line) id (fun _ => 0) t.abstractMethods
      (fun l => { t with abstractMethods := l }) .abstractMethod rfl fun _ => rfl
  | accessors =>
    exact bind_append (Accessor.read line) id (fun _ => 0) t.accessors
      (fun l => { t with accessors := l }) .accessor rfl fun _ => rfl
  | main =>
    rw [memberOn]
    cases r.body (line :: rest) with
    | error f => rfl
    | ok res => rfl

theorem fits_of_memberOn {m : Member}
    (h : memberOn (.current v word) t kind line rest = .ok (some m, n)) : m.Fits := by
  have hsome {α : Type} {make : α → Member} {a? : Option α} {k : Nat}
      (he : (a?.map make, k) = (some m, n)) : ∃ a, a? = some a ∧ make a = m ∧ k = n := by
    obtain ⟨ha, hk⟩ := Prod.mk.inj he
    obtain ⟨a, ha, hm⟩ := Option.map_eq_some_iff.1 ha
    exact ⟨a, ha, hm, hk⟩
  cases kind with
  | staticVars =>
    obtain ⟨v?, hr, he⟩ := map_eq_ok.1 h
    obtain ⟨v, rfl, rfl, _⟩ := hsome he
    exact Field.isStatic_of_read hr
  | instanceVars =>
    obtain ⟨v?, hr, he⟩ := map_eq_ok.1 h
    obtain ⟨v, rfl, rfl, _⟩ := hsome he
    exact Field.isStatic_of_read hr
  | constructors =>
    obtain ⟨⟨m?, k⟩, hr, he⟩ := map_eq_ok.1 h
    obtain ⟨m, rfl, rfl, _⟩ := hsome he
    exact Method.isConstructor_of_readConstructor hr
  | staticMethods =>
    obtain ⟨⟨m?, k⟩, hr, he⟩ := map_eq_ok.1 h
    obtain ⟨m, rfl, rfl, _⟩ := hsome he
    exact Method.flags_of_read hr
  | instanceMethods =>
    obtain ⟨⟨m?, k⟩, hr, he⟩ := map_eq_ok.1 h
    obtain ⟨m, rfl, rfl, _⟩ := hsome he
    exact Method.flags_of_read hr
  | abstractMethods =>
    obtain ⟨m?, hr, he⟩ := map_eq_ok.1 h
    obtain ⟨m, rfl, rfl, _⟩ := hsome he
    exact Method.bodiless_of_readAbstract hr
  | accessors =>
    obtain ⟨a?, -, he⟩ := map_eq_ok.1 h
    obtain ⟨a, -, rfl, _⟩ := hsome he
    trivial
  | main =>
    obtain ⟨res, _, he⟩ := map_eq_ok.1 h
    cases he
    exact ⟨rfl, rfl⟩

/-- The template has stayed as it is, or it has one more member. -/
def Grows (t u : Template) : Prop := u = t ∨ ∃ m : Member, m.Fits ∧ u = t.add m

theorem grows_of_readMember (h : readMember (.current v word) t heading line rest = .ok (u, n)) :
    Grows t u := by
  cases hk : (TemplateRules.current v word).kind? heading line.indent with
  | none =>
    rw [readMember_none hk] at h
    cases h
    exact .inl rfl
  | some kind =>
    rw [readMember_some hk] at h
    obtain ⟨⟨m?, k⟩, hm, he⟩ := map_eq_ok.1 h
    cases he
    cases m? with
    | none => exact .inl rfl
    | some m => exact .inr ⟨m, fits_of_memberOn hm, rfl⟩

theorem add_name (t : Template) (m : Member) : (t.add m).name = t.name := by
  cases m with
  | _ => rfl

theorem add_header (t : Template) (m : Member) : (t.add m).header = t.header := by
  cases m with
  | _ => rfl

theorem Grows.opening (h : Grows t u) : u.name = t.name ∧ u.header = t.header := by
  rcases h with rfl | ⟨m, _, rfl⟩
  · exact ⟨rfl, rfl⟩
  · exact ⟨t.add_name m, t.add_header m⟩

/-- Filling a template: a fault does not undo what has been added before it. -/
abbrev FillM := EStateM Fault Template

/-- Adds what was read; `next` is the line after the one that it was read from. -/
def fillWith (x : Except Fault (Option Member × Nat)) (next : Nat) : FillM Nat := do
  let (m, n) ← ofExcept x
  modify (·.addAll m.toList)
  return next + n

/-- Reads what stands on line `i` and adds it to the template; gives the line to go on with. -/
def fillAt (r : TemplateRules) (lines : List Text) (heading : Option Text) (i : Nat) :
    FillM Nat := do
  let line ← ofExcept (lineOf lines i)
  match r.kind? heading line.indent with
  | none => return i + 1
  | some kind => fillWith (memberOn r (← get) kind line (lines.drop (i + 1))) (i + 1)

/-- The template after some steps, each under a heading and on a line of its own. -/
def fillAll (r : TemplateRules) (lines : List Text) :
    List (Option Text × Nat) → Template → Template
  | [], t => t
  | (heading, i) :: steps, t =>
    match (fillAt r lines heading i).run t with
    | .ok _ u => fillAll r lines steps u
    | .error _ u => fillAll r lines steps u

/-- The outcome of a reader with the template that it leaves. -/
def leaving (t : Template) : Except Fault (Template × Nat) → EStateM.Result Fault Template Nat
  | .ok (u, n) => .ok n u
  | .error f => .error f t

/-- A step from line `i` goes on with a later line and lets the template grow, or it is refused
and leaves the template alone. -/
def Steps (lines : List Text) (i : Nat) (t : Template) : EStateM.Result Fault Template Nat → Prop
  | .ok n u => i < n ∧ n ≤ lines.length ∧ Grows t u ∧ u.name = t.name ∧ u.header = t.header
  | .error f u => f.isRefusal = true ∧ u = t

theorem fillWith_run (x : Except Fault (Option Member × Nat)) (next : Nat) (t : Template) :
    (fillWith x next).run t =
      leaving t (numbered next (x.map fun res => (t.addAll res.1.toList, res.2))) := by
  cases x with
  | error f => rfl
  | ok res => rfl

theorem fillAt_run (hl : lines[i]? = some line) :
    (fillAt (.current v word) lines heading i).run t =
      leaving t (memberAt (.current v word) lines t heading i) := by
  rw [memberAt_eq hl, fillAt, lineOf_eq hl]
  have hline (f : Text → FillM Nat) :
      (ofExcept (Except.ok (ε := Fault) line) >>= f).run t = (f line).run t := rfl
  rw [hline]
  cases hk : (TemplateRules.current v word).kind? heading line.indent with
  | none =>
    rw [readMember_none hk]
    rfl
  | some kind =>
    rw [readMember_some hk]
    exact fillWith_run _ _ t

theorem fillAt_steps (hi : i < lines.length) :
    Steps lines i t ((fillAt (.current v word) lines heading i).run t) := by
  have hl : lines[i]? = some lines[i] := List.getElem?_eq_getElem hi
  rw [fillAt_run hl]
  have hadv : Advances lines i (memberAt (.current v word) lines t heading i) :=
    memberAt_advances hi
  cases hm : memberAt (.current v word) lines t heading i with
  | error f =>
    rw [hm] at hadv
    exact ⟨hadv.1, rfl⟩
  | ok res =>
    obtain ⟨hlt, hle⟩ := hadv.of_ok hm
    rw [memberAt_eq hl] at hm
    obtain ⟨k, hr, _⟩ := numbered_eq_ok.1 hm
    have hg := grows_of_readMember hr
    exact ⟨hlt, hle, hg, hg.opening⟩

theorem addAll_opening (t : Template) (ms : List Member) :
    (t.addAll ms).name = t.name ∧ (t.addAll ms).header = t.header := by
  induction ms generalizing t with
  | nil => exact ⟨rfl, rfl⟩
  | cons m ms ih =>
    obtain ⟨hn, hh⟩ := ih (t.add m)
    exact ⟨hn.trans (t.add_name m), hh.trans (t.add_header m)⟩

/-- Over any steps the template only grows, by at most one member a step. -/
theorem fillAll_grows (steps : List (Option Text × Nat)) (hs : ∀ s ∈ steps, s.2 < lines.length)
    (t : Template) :
    ∃ ms : List Member, ms.length ≤ steps.length ∧ (∀ m ∈ ms, m.Fits) ∧
      fillAll (.current v word) lines steps t = t.addAll ms := by
  induction steps generalizing t with
  | nil => exact ⟨[], Nat.le_refl _, List.forall_mem_nil _, rfl⟩
  | cons step steps ih =>
    obtain ⟨hi, hr⟩ := List.forall_mem_cons.1 hs
    have hstep : Steps lines step.2 t ((fillAt (.current v word) lines step.1 step.2).run t) :=
      fillAt_steps hi
    rw [fillAll]
    cases hf : (fillAt (.current v word) lines step.1 step.2).run t with
    | error f u =>
      rw [hf] at hstep
      obtain ⟨ms, hlen, hfit, he⟩ := ih hr u
      rw [hstep.2] at he
      exact ⟨ms, Nat.le_succ_of_le hlen, hfit, by rw [hstep.2]; exact he⟩
    | ok n u =>
      rw [hf] at hstep
      obtain ⟨ms, hlen, hfit, he⟩ := ih hr u
      rcases hstep.2.2.1 with rfl | ⟨m, hm, rfl⟩
      · exact ⟨ms, Nat.le_succ_of_le hlen, hfit, he⟩
      · exact ⟨m :: ms, Nat.succ_le_succ hlen, List.forall_mem_cons.2 ⟨hm, hfit⟩, he⟩

/-- What a template has become behind the lines that it takes. -/
theorem Takes.grows (h : Takes (.current v word) t heading lines u n) :
    ∃ ms : List Member, (∀ m ∈ ms, m.Fits) ∧ u = t.addAll ms := by
  induction h with
  | finish => exact ⟨[], List.forall_mem_nil _, rfl⟩
  | idle _ _ ih => exact ih
  | stop => exact ⟨[], List.forall_mem_nil _, rfl⟩
  | enter _ _ _ _ ih => exact ih
  | member _ _ _ reads _ ih =>
    obtain ⟨ms, hfit, rfl⟩ := ih
    rcases grows_of_readMember reads with rfl | ⟨m, hm, rfl⟩
    · exact ⟨ms, hfit, rfl⟩
    · exact ⟨m :: ms, List.forall_mem_cons.2 ⟨hm, hfit⟩, rfl⟩

/-- A step on any line of a text is refused and leaves the template as it is, or it goes on with a
later line and adds at most one member, at the end of the list that the member belongs to. Any
number of steps adds at most as many members, and what the opening line says stays the same. -/
theorem fillAt_frame (v : Vocabulary) (lines : List Text) (t : Template) (heading : Option Text)
    (i : Nat) (hi : i < lines.length) :
    let r := TemplateRules.current v (v.templateWordIn (lines.headD []))
    let result := (fillAt r lines heading i).run t
    result = leaving t (memberAt r lines t heading i) ∧ Steps lines i t result ∧
      ∀ steps : List (Option Text × Nat), (∀ s ∈ steps, s.2 < lines.length) →
        ∃ ms : List Member, ms.length ≤ steps.length ∧ (∀ m ∈ ms, m.Fits) ∧
          fillAll r lines steps t = t.addAll ms ∧
          (fillAll r lines steps t).name = t.name ∧
          (fillAll r lines steps t).header = t.header := by
  intro r result
  refine ⟨fillAt_run (List.getElem?_eq_getElem hi), fillAt_steps hi, fun steps hs => ?_⟩
  obtain ⟨ms, hlen, hfit, he⟩ : ∃ ms : List Member, ms.length ≤ steps.length ∧
      (∀ m ∈ ms, m.Fits) ∧ fillAll r lines steps t = t.addAll ms := fillAll_grows steps hs t
  refine ⟨ms, hlen, hfit, he, ?_⟩
  rw [he]
  exact t.addAll_opening ms

theorem fillAt_frame_of_untyped :
    let lines : List Text := ["template A", "    instance vars:", "        x as int", "        y"]
    let r := TemplateRules.current Vocabulary.standard
      (Vocabulary.standard.templateWordIn "template A")
    let t : Template := { name := "A", isAbstract := true }
    let u := t.add (.instanceVar ⟨"x", "int", .pack, none, false⟩)
    (fillAt r lines (some "instance vars") 2).run t = .ok 3 u ∧
      (fillAt r lines (some "instance vars") 3).run u = .error (.untypedField "y") u ∧
      Steps lines 3 u (.error (.untypedField "y") u) ∧
      (fillAll r lines [(some "instance vars", 2), (some "instance vars", 3)] t).header =
        t.header := by
  intro lines r t u
  have hx : (fillAt r lines (some "instance vars") 2).run t = .ok 3 u := rfl
  have hy : (fillAt r lines (some "instance vars") 3).run u = .error (.untypedField "y") u :=
    rfl
  have hstep := (fillAt_frame .standard lines u (some "instance vars") 3 (by decide)).2.1
  refine ⟨hx, hy, hy ▸ hstep, ?_⟩
  obtain ⟨_, _, _, _, _, hh⟩ := (fillAt_frame .standard lines t none 0 (by decide)).2.2
    [(some "instance vars", 2), (some "instance vars", 3)] (by decide)
  exact hh

theorem fillAt_breaks_of_parenthesis :
    let v : Synonyms := { Vocabulary.standard.toSynonyms with templateWords := ["("] }
    let lines : List Text := ["        * f()", "x()"]
    let r := TemplateRules.current v (v.templateWordIn (lines.headD []))
    let result := (fillAt r lines (some "instance methods") 0).run { name := "A" }
    result = .error (.spliced "(") { name := "A" } ∧ ¬Steps lines 0 { name := "A" } result := by
  intro v lines r result
  have h : result = .error (.spliced "(") { name := "A" } := by rfl
  refine ⟨h, ?_⟩
  rw [h]
  exact fun hsteps => Bool.false_ne_true hsteps.1

end Template

end JavaSketch
