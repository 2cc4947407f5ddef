import JavaSketch.Proofs.BodyStep
import JavaSketch.Proofs.Declarations
import JavaSketch.Proofs.Parts
import JavaSketch.Proofs.Position
import JavaSketch.Proofs.ProgramNames
import JavaSketch.Proofs.StatementPieces

namespace JavaSketch

/-- The text lies on one line. -/
def IsLine (t : Text) : Prop := '\n' ∉ t

instance (t : Text) : Decidable (IsLine t) := inferInstanceAs (Decidable (_ ∉ _))

/-- All that an outcome can be has the property. -/
def Gives {ε α : Type} (x : Except ε α) (P : α → Prop) : Prop := ∀ a, x = .ok a → P a

namespace Gives

variable {ε α β : Type} {x : Except ε α} {f : α → Except ε β} {P : α → Prop} {R : β → Prop}

theorem ok {a : α} (h : P a) : Gives (.ok a : Except ε α) P := by
  intro b hb
  cases hb
  exact h

theorem error (e : ε) : Gives (.error e) P := by
  intro b hb
  cases hb

theorem bind (hx : Gives x P) (hf : ∀ a, P a → Gives (f a) R) : Gives (x >>= f) R := by
  intro b hb
  obtain ⟨a, ha, hb⟩ := bind_eq_ok.1 hb
  exact hf a (hx a ha) b hb

theorem map {g : α → β} (hx : Gives x P) (hg : ∀ a, P a → R (g a)) : Gives (x.map g) R := by
  intro b hb
  obtain ⟨a, ha, rfl⟩ := map_eq_ok.1 hb
  exact hg a (hx a ha)

theorem mapM {g : α → Except ε β} {l : List α} (hg : ∀ a ∈ l, Gives (g a) R) :
    Gives (l.mapM g) fun bs => ∀ b ∈ bs, R b := by
  induction l with
  | nil => exact ok (List.forall_mem_nil _)
  | cons a l ih =>
    obtain ⟨ha, hl⟩ := List.forall_mem_cons.1 hg
    rw [List.mapM_cons]
    refine ha.bind fun b hb => (ih hl).bind fun bs hbs => ok ?_
    exact List.forall_mem_cons.2 ⟨hb, hbs⟩

end Gives

namespace IsLine

variable {s t : Text}

theorem empty : IsLine [] := List.not_mem_nil

theorem append (hs : IsLine s) (ht : IsLine t) : IsLine (s ++ t) := by
  rw [IsLine, List.mem_append, not_or]
  exact ⟨hs, ht⟩

theorem piece (hs : IsLine s) (ht : t <:+: s) : IsLine t := fun h => hs (ht.subset h)

theorem trim (hs : IsLine s) : IsLine s.trim := hs.piece s.trim_infix

theorem drop (hs : IsLine s) (n : Nat) : IsLine (s.drop n) :=
  hs.piece (List.drop_suffix n s).isInfix

theorem capitalize (hs : IsLine s) : IsLine s.capitalize :=
  fun h => hs (Text.sign_mem_capitalize h (by decide))

theorem piecewise : Piecewise javaGlue IsLine := .notMem rfl rfl

theorem of_name (h : IsName s) : IsLine s := h.notMem (by decide)

theorem void : IsLine "void" := by decide

theorem javaName (hs : IsLine s) : IsLine (TypeTable.full.javaName s) :=
  piecewise.types.javaName hs

end IsLine

theorem Statement.convert_unbroken {s : Text} (hs : IsLine s) :
    Gives (convert .current s) IsLine := by
  intro t h
  have hopen {t : Text} (ht : IsLine t) : IsLine (t ++ [openBrace]) := ht.append (by decide)
  have hclose {t : Text} (ht : IsLine t) : IsLine (closeBrace :: t) :=
    IsLine.append (s := [closeBrace]) (by decide) ht
  exact convert_keeps IsLine.piecewise hopen hclose hs h

namespace Body

variable {v : Vocabulary} {s line : Text} {lines : List Text}

/-- The entries of a line lie on one line each. -/
def Step.Unbroken : Step → Prop
  | .stop => True
  | .emit entries _ => ∀ entry ∈ entries, IsLine entry

theorem openComment_unbroken (hs : IsLine s) : IsLine (openComment s) := by
  rw [openComment]
  split_ifs
  · decide
  · exact IsLine.append (by decide) hs

theorem closeComment_unbroken (hs : IsLine s) : IsLine (closeComment s) := by
  rw [closeComment]
  split_ifs
  · decide
  · exact (IsLine.append (by decide) hs).append (by decide)

theorem closers_unbroken {α : Type} (stack : List α) : ∀ entry ∈ closers stack, IsLine entry := by
  intro entry he
  obtain ⟨_, _, rfl⟩ := List.mem_map.1 he
  decide

theorem emit_one {entry : Text} {next : State} (h : IsLine entry) :
    Gives (.ok (.emit [entry] next) : Except Fault Step) Step.Unbroken :=
  .ok (List.forall_mem_singleton.2 h)

theorem commentMark_unbroken (st : State) (hs : IsLine s) :
    Gives (commentMark (Statement.convert .current) st s) Step.Unbroken := by
  have hcut : Gives (cutAt tripleQuote s) fun parts => IsLine parts.1 ∧ IsLine parts.2 :=
    fun parts h => IsLine.piecewise.cut? hs (of_cutAt h)
  rw [commentMark]
  split
  · split
    · exact emit_one (closeComment_unbroken (hs.piece (List.take_prefix _ _).isInfix).trim)
    · refine hcut.bind fun parts hparts => ?_
      have hclosed := closeComment_unbroken hparts.1.trim
      dsimp only
      split
      · exact emit_one hclosed
      · refine (Statement.convert_unbroken hparts.2.trim).bind fun java hj => .ok ?_
        exact List.forall_mem_cons.2 ⟨hclosed, List.forall_mem_singleton.2 hj⟩
  · split
    · split
      · have hinner : IsLine (Text.trim ((s.drop 3).take (s.length - 6))) :=
          ((hs.drop 3).piece (List.take_prefix _ _).isInfix).trim
        exact emit_one ((IsLine.append (by decide) hinner).append (by decide))
      · exact emit_one (openComment_unbroken (hs.drop 3).trim)
    · refine hcut.bind fun parts hparts => ?_
      refine (Statement.convert_unbroken hparts.1.trim).bind fun java hj => .ok ?_
      exact List.forall_mem_cons.2
        ⟨hj, List.forall_mem_singleton.2 (openComment_unbroken hparts.2.trim)⟩

theorem statementLine_unbroken (hs : IsLine s) :
    Gives (statementLine .all (Statement.convert .current) s) IsLine := by
  rw [statementLine]
  cases hi : inlineComment? .all s with
  | none => exact Statement.convert_unbroken hs
  | some parts =>
    have hparts : IsLine parts.1 ∧ IsLine parts.2 := by
      rcases inlineComment?_eq_some hi with hc | hc
      · exact IsLine.piecewise.cut? hs hc
      · exact IsLine.piecewise.cut? hs hc
    refine (Statement.convert_unbroken hparts.1.trim).bind fun java hj => .ok ?_
    split_ifs
    · exact hj
    · exact (hj.append (by decide)).append hparts.2.trim

theorem commentLine?_unbroken {entry : Text} (hs : IsLine s)
    (h : commentLine? .all s = some entry) : IsLine entry := by
  rw [commentLine?] at h
  split_ifs at h
  · cases h
    exact hs
  · cases h
    exact IsLine.append (by decide) (hs.drop 1).trim

theorem step_unbroken (st : State) (hl : IsLine line) :
    Gives (step (.current v) (Statement.convert .current) st line) Step.Unbroken := by
  have hs := hl.trim
  rw [step]
  split
  · exact commentMark_unbroken st hs
  · split
    · apply emit_one
      split
      · exact .empty
      · exact IsLine.append (by decide) hs
    · split
      · exact emit_one .empty
      · split
        · rename_i entry hc
          exact emit_one (commentLine?_unbroken hs hc)
        · rw [BodyRules.ends_current]
          refine Gives.bind (P := fun _ => True) (.ok trivial) fun ends _ => ?_
          split
          · exact .ok trivial
          · refine (statementLine_unbroken hs).bind fun java hj => .ok ?_
            exact List.forall_mem_append.2 ⟨closers_unbroken _, List.forall_mem_singleton.2 hj⟩

theorem readFrom_unbroken (st : State) (hl : ∀ line ∈ lines, IsLine line) :
    Gives (readFrom (.current v) (Statement.convert .current) st lines)
      fun res => ∀ entry ∈ res.1, IsLine entry := by
  induction lines generalizing st with
  | nil => exact .ok (closers_unbroken _)
  | cons line rest ih =>
    obtain ⟨hline, hrest⟩ := List.forall_mem_cons.1 hl
    rw [readFrom]
    refine (step_unbroken st hline).bind fun taken ht => ?_
    cases taken with
    | stop => exact .ok (closers_unbroken _)
    | emit entries next =>
      exact (ih next hrest).bind fun res hres => .ok (List.forall_mem_append.2 ⟨ht, hres⟩)

end Body

structure Variable.Unbroken (v : Variable) : Prop where
  name : IsLine v.name
  type : IsLine v.type
  initial : ∀ value ∈ v.initial, IsLine value

structure Param.Unbroken (q : Param) : Prop where
  name : IsLine q.name
  type : IsLine q.type

structure Method.Unbroken (m : Method) : Prop where
  name : IsLine m.name
  params : ∀ q ∈ m.params, q.Unbroken
  returnType : IsLine m.returnType
  body : ∀ line ∈ m.body, IsLine line

structure Template.Unbroken (t : Template) : Prop where
  name : IsLine t.name
  parent : ∀ name ∈ t.parent, IsLine name
  interfaces : ∀ name ∈ t.interfaces, IsLine name
  staticVars : ∀ v ∈ t.staticVars, v.Unbroken
  instanceVars : ∀ v ∈ t.instanceVars, v.Unbroken
  constructors : ∀ m ∈ t.constructors, m.Unbroken
  staticMethods : ∀ m ∈ t.staticMethods, m.Unbroken
  instanceMethods : ∀ m ∈ t.instanceMethods, m.Unbroken
  abstractMethods : ∀ m ∈ t.abstractMethods, m.Unbroken

/-- No text of the program has a line break. -/
structure Program.Unbroken (p : Program) : Prop where
  name : IsLine p.name
  templates : ∀ t ∈ p.templates, t.Unbroken
  main : ∀ line ∈ p.main, IsLine line
  methods : ∀ m ∈ p.methods, m.Unbroken

theorem Template.Unbroken.allVars {t : Template} (h : t.Unbroken) :
    ∀ v ∈ t.allVars, v.Unbroken :=
  List.forall_mem_append.2 ⟨h.instanceVars, h.staticVars⟩

theorem Access.read_unbroken {s : Text} (hs : IsLine s) :
    Gives (Access.read s) fun parts => IsLine parts.2 := by
  cases s with
  | nil => exact .error _
  | cons c s =>
    refine .ok ?_
    rw [Access.ofFirst]
    split
    · exact (hs.drop 1).trim
    · exact hs

theorem Field.partAndValue_unbroken {s : Text} (hs : IsLine s) :
    IsLine (partAndValue s).1 ∧ ∀ value, (partAndValue s).2 = some value → IsLine value := by
  have hcut {sep part value : Text} (h : Text.cut? sep s = some (part, value)) :
      IsLine part.trim ∧ ∀ t, some value.trim = some t → IsLine t := by
    obtain ⟨hp, hv⟩ := IsLine.piecewise.cut? hs h
    refine ⟨hp.trim, fun t ht => ?_⟩
    cases ht
    exact hv.trim
  rw [partAndValue]
  split
  · rename_i part value h
    exact hcut h
  · split
    · rename_i part value h
      exact hcut h
    · refine ⟨hs.trim, fun t ht => ?_⟩
      cases ht

theorem Field.read_unbroken (isStatic : Bool) {line : Text} (hl : IsLine line) :
    Gives (Field.read isStatic line) fun v? => ∀ v ∈ v?, v.Unbroken := by
  rw [Field.read]
  split
  · apply Gives.ok
    intro v hv
    cases hv
  · refine Gives.map (P := Variable.Unbroken) ?_ ?_
    · rw [ofText]
      refine (Access.read_unbroken hl.trim).bind fun parts hs => ?_
      obtain ⟨hpart, hvalue⟩ := partAndValue_unbroken hs
      dsimp only
      split
      · exact .error _
      · rename_i name type hcut
        obtain ⟨hn, ht⟩ := IsLine.piecewise.cut? hpart hcut
        have hcommon : ∀ c ∈ Container.common, isFixed typeGlue c.javaName = true := by decide
        obtain ⟨htype, hinitial⟩ := IsLine.piecewise.types.typeAndValue_of hcommon ht.trim
          (partAndValue parts.2).2
        exact .ok ⟨hn.trim, htype, hinitial hvalue⟩
    · intro v hv w hw
      cases hw
      exact hv

namespace Parameter

variable {t : Template} {s name : Text}

theorem readAll_unbroken {one : Text → Except Fault Param}
    (hone : ∀ p, IsLine p → Gives (one p) Param.Unbroken) (hs : IsLine s) :
    Gives (readAll one s) fun ps => ∀ q ∈ ps, q.Unbroken := by
  rw [readAll]
  split
  · exact .ok (List.forall_mem_nil _)
  · refine .mapM fun piece hp => hone _ ?_
    exact (hs.piece (Text.infix_of_mem_splitAt hp)).trim

theorem suggestedType_unbroken (name : Text) : IsLine (suggestedType name) := by
  have hguesses : ∀ g ∈ quantityGuesses, IsLine g.type := by decide
  rw [suggestedType, suggestedType?]
  split_ifs
  · decide
  · decide
  · decide
  · rw [firstGuess?]
    cases hg : quantityGuesses.find? (·.fits name.lower) with
    | none => decide
    | some g => exact hguesses g (List.mem_of_find?_eq_some hg)

theorem declaredType?_unbroken {type : Text} (ht : t.Unbroken)
    (h : declaredType? t name = some type) : IsLine type := by
  rw [declaredType?] at h
  cases hd : t.declared? name with
  | some v =>
    rw [hd] at h
    cases h
    exact (ht.allVars v (List.mem_of_find?_eq_some hd)).type
  | none =>
    rw [hd] at h
    obtain ⟨v, hv, hfound⟩ := List.exists_of_findSome?_eq_some h
    split at hfound
    · cases hfound
      exact ((ht.allVars v hv).type.drop 10).piece (List.dropLast_prefix _).isInfix
    · cases hfound

theorem readIn_unbroken (ht : t.Unbroken) (hs : IsLine s) :
    Gives (readIn t s) fun ps => ∀ q ∈ ps, q.Unbroken := by
  refine readAll_unbroken (fun p hp => ?_) hs
  rw [read]
  split
  · rename_i type name hcut
    obtain ⟨htype, hname⟩ := IsLine.piecewise.cut? hp hcut
    exact .ok ⟨hname.trim, htype.trim.javaName⟩
  · refine Gives.map (P := IsLine) ?_ fun type htype => ⟨hp, htype⟩
    rw [typeIn]
    split
    · rename_i type hd
      exact .ok (declaredType?_unbroken ht hd)
    · split
      · rename_i type hguess
        split_ifs at hguess
        cases hguess
        exact .ok (suggestedType_unbroken p)
      · exact .error _

theorem readFree_unbroken (hs : IsLine s) :
    Gives (readFree s) fun ps => ∀ q ∈ ps, q.Unbroken := by
  refine readAll_unbroken (fun p hp => ?_) hs
  rw [readTyped]
  split
  · rename_i type names hwords
    have hall : ∀ word ∈ type :: names, IsLine word := by
      intro word hw
      rw [← hwords] at hw
      split_ifs at hw
      · exact hp.piece (Text.infix_of_mem_words hw)
      · cases hw
    obtain ⟨htype, hnames⟩ := List.forall_mem_cons.1 hall
    exact .ok ⟨IsLine.piecewise.join (by decide) hnames, htype.javaName⟩
  · exact .error _

end Parameter

namespace Method

variable {body : List Text → Except Fault (List Text × Nat)} {t? : Option Template}
  {access : Access} {isStatic : Bool} {s line : Text} {rest : List Text}

theorem paramsFor_unbroken (ht : ∀ t ∈ t?, t.Unbroken) (hs : IsLine s) :
    Gives (paramsFor t? s) fun ps => ∀ q ∈ ps, q.Unbroken := by
  cases t? with
  | none => exact Parameter.readFree_unbroken hs
  | some t => exact Parameter.readIn_unbroken (ht t rfl) hs

theorem callParts_unbroken {parts : Text × Text} (hs : IsLine s)
    (h : Signature.callParts? s = some parts) :
    IsLine parts.1 ∧ IsLine parts.2 := by
  rw [Signature.callParts?] at h
  split at h
  · rename_i name params hfound
    cases h
    exact ⟨IsLine.piecewise.find? hs hfound List.mem_cons_self,
      IsLine.piecewise.find? hs hfound (List.mem_cons_of_mem _ List.mem_cons_self)⟩
  · cases h

theorem signature_unbroken {marks : List Text} {sig : Signature} (hs : IsLine s)
    (h : Signature.read? marks s = some sig) :
    IsLine sig.name ∧ IsLine sig.params ∧
      IsLine sig.returns := by
  have hsplit : IsLine (Signature.splitReturns marks s).1 ∧
      IsLine (Signature.splitReturns marks s).2 := by
    rw [Signature.splitReturns]
    split
    · rename_i head returns hfound
      obtain ⟨mark, _, hcut⟩ := List.exists_of_findSome?_eq_some hfound
      obtain ⟨hhead, hreturns⟩ := IsLine.piecewise.cut? hs hcut
      exact ⟨hhead, hreturns.trim⟩
    · exact ⟨hs, .void⟩
  obtain ⟨parts, hparts, rfl⟩ := Option.map_eq_some_iff.1 h
  obtain ⟨hname, hparams⟩ := callParts_unbroken hsplit.1 hparts
  exact ⟨hname, hparams, hsplit.2⟩

/-- What a reader of methods gives. -/
def Fit (res : Option Method × Nat) : Prop := ∀ m ∈ res.1, m.Unbroken

theorem fit_none {n : Nat} : Fit (none, n) := by
  intro m hm
  cases hm

theorem fit_some {m : Method} {n : Nat} (h : m.Unbroken) : Fit (some m, n) := by
  intro m' hm
  cases hm
  exact h

theorem onMember_unbroken {read : Access → Text → Except Fault (Option Method × Nat)}
    (hl : IsLine line)
    (h : ∀ access s, IsLine s → Gives (read access s) Fit) :
    Gives (onMember line read) Fit := by
  rw [onMember]
  dsimp only
  split
  · exact .ok fit_none
  · exact (Access.read_unbroken hl.trim).bind fun parts hs => h _ _ hs

theorem abstract_unbroken (ht : ∀ t ∈ t?, t.Unbroken) (hs : IsLine s) :
    Gives ((reader body t?).abstract access s) fun m? => ∀ m ∈ m?, m.Unbroken := by
  rw [MethodReader.abstract]
  split
  · exact .ok (fit_none (n := 0))
  · rename_i sig hsig
    obtain ⟨hname, hparams, hreturns⟩ := signature_unbroken hs hsig
    refine (paramsFor_unbroken ht hparams).bind fun params hp => .ok ?_
    exact fit_some (n := 0) ⟨hname, hp, hreturns.javaName, List.forall_mem_nil _⟩

theorem readAbstract_unbroken (ht : ∀ t ∈ t?, t.Unbroken) (hl : IsLine line) :
    Gives (readAbstract t? line) fun m? => ∀ m ∈ m?, m.Unbroken := by
  refine Gives.map (P := Fit) ?_ fun res hres => hres
  exact onMember_unbroken hl fun access s hs => (abstract_unbroken ht hs).map fun _ hm => hm

section

variable (hb : ∀ {lines : List Text}, (∀ line ∈ lines, IsLine line) →
    Gives (body lines) fun res => ∀ entry ∈ res.1, IsLine entry)
  (hr : ∀ line ∈ rest, IsLine line)
include hb hr

theorem regular_unbroken (ht : ∀ t ∈ t?, t.Unbroken) (hs : IsLine s) :
    Gives ((reader body t?).regular access isStatic s rest) Fit := by
  rw [MethodReader.regular]
  split
  · exact .ok fit_none
  · rename_i sig hsig
    obtain ⟨hname, hparams, hreturns⟩ := signature_unbroken hs hsig
    refine (paramsFor_unbroken ht hparams).bind fun params hp => (hb hr).bind fun res hres => ?_
    exact .ok (fit_some ⟨hname, hp, hreturns.javaName, hres⟩)

theorem named_unbroken (ht : ∀ t ∈ t?, t.Unbroken) (hs : IsLine s) :
    Gives ((reader body t?).named access s rest) Fit := by
  rw [MethodReader.named]
  split
  · exact .ok fit_none
  · rename_i name params hparts
    obtain ⟨hname, hparams⟩ := callParts_unbroken hs hparts
    refine (paramsFor_unbroken ht hparams).bind fun params hp => (hb hr).bind fun res hres => ?_
    exact .ok (fit_some ⟨hname, hp, .void, hres⟩)

theorem listed_unbroken {name : Text} (ht : ∀ t ∈ t?, t.Unbroken) (hn : IsLine name)
    (hs : IsLine s) : Gives ((reader body t?).listed name access s rest) Fit := by
  have hlist : IsLine (Text.trim (Text.dropEndWhile (· == ':') s)) :=
    (hs.piece (Text.dropEndWhile_isPrefix _ _).isInfix).trim
  rw [MethodReader.listed]
  refine (paramsFor_unbroken ht hlist).bind fun params hp => (hb hr).bind fun res hres => ?_
  refine .ok (fit_some ⟨hn, hp, .void, List.forall_mem_append.2 ⟨?_, hres⟩⟩)
  intro line hline
  obtain ⟨q, hq, rfl⟩ := List.mem_map.1 hline
  have hthis : IsLine ("this." ++ q.name) :=
    IsLine.append (by decide) (hp q hq).name
  exact ((hthis.append (by decide)).append (hp q hq).name).append (by decide)

theorem read_unbroken (ht : ∀ t ∈ t?, t.Unbroken) (hl : IsLine line) :
    Gives (read body t? isStatic line rest) Fit :=
  onMember_unbroken hl fun _ _ hs => regular_unbroken hb hr ht hs

theorem readConstructor_unbroken (ht : ∀ t ∈ t?, t.Unbroken) (hl : IsLine line) :
    Gives (readConstructor body t? line rest) Fit := by
  have hname : IsLine ((t?.map (·.name)).getD "Constructor") := by
    cases t? with
    | none => decide
    | some t => exact (ht t rfl).name
  refine onMember_unbroken hl fun access s hs => ?_
  split
  · exact listed_unbroken hb hr ht hname hs
  · exact named_unbroken hb hr ht hs

theorem readStandalone_unbroken (hl : IsLine line) :
    Gives (readStandalone body line rest) Fit := by
  rw [readStandalone]
  split
  · refine regular_unbroken hb hr (fun t ht => ?_) (hl.trim.drop 7).trim
    cases ht
  · exact .ok fit_none

end

end Method

namespace Header

variable {v : Vocabulary} {s : Text}

theorem clause?_isLine {words : List Text} {parts : Text × Text} (hs : IsLine s)
    (h : clause? words s = some parts) : IsLine parts.1 ∧ IsLine parts.2 := by
  obtain ⟨cut, hcut, rfl⟩ := Option.map_eq_some_iff.1 h
  obtain ⟨word, _, hword⟩ := List.exists_of_findSome?_eq_some hcut
  obtain ⟨hbefore, hafter⟩ := IsLine.piecewise.cut? hs hword
  exact ⟨hbefore.trim, hafter.trim⟩

theorem commaList_isLine (hs : IsLine s) : ∀ name ∈ commaList s, IsLine name := by
  intro name hn
  obtain ⟨piece, hp, rfl⟩ := List.mem_map.1 hn
  exact (hs.piece (Text.infix_of_mem_splitAt hp)).trim

theorem clauses_isLine (v : Vocabulary) (hs : IsLine s) :
    (∀ name ∈ (clauses v s).1, IsLine name) ∧ ∀ name ∈ (clauses v s).2, IsLine name := by
  have hnone : ∀ name ∈ (none : Option Text), IsLine name := by
    intro name hn
    cases hn
  have hsome {parent : Text} (hp : IsLine parent) : ∀ name ∈ some parent, IsLine name := by
    intro name hn
    cases hn
    exact hp
  rw [clauses]
  cases hp : clause? v.parentWords s with
  | none =>
    dsimp only
    cases hi : clause? v.interfaceWords s with
    | none => exact ⟨hnone, List.forall_mem_nil _⟩
    | some parts => exact ⟨hnone, commaList_isLine (clause?_isLine hs hi).2⟩
  | some parts =>
    obtain ⟨before, after⟩ := parts
    obtain ⟨hbefore, hafter⟩ := clause?_isLine hs hp
    dsimp only
    cases hi : clause? v.interfaceWords after with
    | none =>
      cases after with
      | cons c name => exact ⟨hsome hafter, List.forall_mem_nil _⟩
      | nil =>
        dsimp only
        cases ho : clause? v.interfaceWords before with
        | none => exact ⟨hsome .empty, List.forall_mem_nil _⟩
        | some others => exact ⟨hsome .empty, commaList_isLine (clause?_isLine hbefore ho).2⟩
    | some parts =>
      obtain ⟨parent, interfaces⟩ := parts
      obtain ⟨hparent, hinterfaces⟩ := clause?_isLine hafter hi
      cases parent with
      | cons c name => exact ⟨hsome hparent, commaList_isLine hinterfaces⟩
      | nil =>
        dsimp only
        cases ho : clause? v.interfaceWords before with
        | none => exact ⟨hsome .empty, commaList_isLine hinterfaces⟩
        | some others => exact ⟨hsome .empty, commaList_isLine (clause?_isLine hbefore ho).2⟩

end Header

namespace Template

variable {v : Vocabulary} {word line : Text} {lines rest : List Text} {t t' : Template}
  {heading : Option Text} {n : Nat}

theorem ofHeader_unbroken {name : Text} (hn : IsLine name) (hl : IsLine line) :
    (ofHeader name (Header.read v line)).Unbroken := by
  have habstract : IsLine (Header.dropAbstract v line.trim).2 := by
    rw [Header.dropAbstract]
    split
    · exact (hl.trim.drop _).trim
    · exact hl.trim
  have hinterface : IsLine (Header.dropInterface (Header.dropAbstract v line.trim).2).2 := by
    rw [Header.dropInterface]
    split
    · exact (habstract.drop 10).trim
    · exact habstract
  obtain ⟨hparent, hinterfaces⟩ := Header.clauses_isLine v hinterface
  exact ⟨hn, hparent, hinterfaces, List.forall_mem_nil _, List.forall_mem_nil _,
    List.forall_mem_nil _, List.forall_mem_nil _, List.forall_mem_nil _, List.forall_mem_nil _⟩

theorem forall_mem_toList {α : Type} {P : α → Prop} {l : List α} {a? : Option α}
    (hl : ∀ a ∈ l, P a) (ha : ∀ a ∈ a?, P a) : ∀ a ∈ l ++ a?.toList, P a := by
  refine List.forall_mem_append.2 ⟨hl, fun a h => ha a ?_⟩
  exact Option.mem_toList.1 h

theorem mainMethod_unbroken {body : List Text} (hb : ∀ line ∈ body, IsLine line) :
    (mainMethod body).Unbroken where
  name := by
    have hname : IsLine "main" := by decide
    exact hname
  params := by
    have hargs : IsLine "args" ∧ IsLine "String[]" := by decide
    exact List.forall_mem_singleton.2 ⟨hargs.1, hargs.2⟩
  returnType := .void
  body := hb

theorem readMember_unbroken (ht : t.Unbroken) (hl : IsLine line)
    (hr : ∀ line ∈ rest, IsLine line) :
    Gives (readMember (.current v word) t heading line rest) fun res => res.1.Unbroken := by
  have hself : ∀ u ∈ some t, u.Unbroken := by
    intro u hu
    cases hu
    exact ht
  have hbody {lines : List Text} (hlines : ∀ line ∈ lines, IsLine line) :
      Gives ((TemplateRules.current v word).body lines) fun res => ∀ entry ∈ res.1, IsLine entry :=
    Body.readFrom_unbroken {} hlines
  rw [readMember]
  split
  · exact .ok ht
  · refine (Field.read_unbroken true hl).bind fun v? hv => .ok ?_
    exact { ht with staticVars := forall_mem_toList ht.staticVars hv }
  · refine (Field.read_unbroken false hl).bind fun v? hv => .ok ?_
    exact { ht with instanceVars := forall_mem_toList ht.instanceVars hv }
  · refine (Method.readConstructor_unbroken hbody hr hself hl).bind fun res hm => .ok ?_
    exact { ht with constructors := forall_mem_toList ht.constructors hm }
  · refine (Method.read_unbroken hbody hr hself hl).bind fun res hm => .ok ?_
    exact { ht with staticMethods := forall_mem_toList ht.staticMethods hm }
  · refine (Method.read_unbroken hbody hr hself hl).bind fun res hm => .ok ?_
    exact { ht with instanceMethods := forall_mem_toList ht.instanceMethods hm }
  · refine (Method.readAbstract_unbroken hself hl).bind fun m? hm => .ok ?_
    exact { ht with abstractMethods := forall_mem_toList ht.abstractMethods hm }
  · exact Gives.bind (P := fun _ => True) (fun _ _ => trivial) fun a _ => .ok { ht with }
  · refine (hbody (List.forall_mem_cons.2 ⟨hl, hr⟩)).bind fun res hres => .ok ?_
    have hmain : (mainMethod res.1).Unbroken := mainMethod_unbroken hres
    exact { ht with
      staticMethods := List.forall_mem_append.2
        ⟨ht.staticMethods, List.forall_mem_singleton.2 hmain⟩ }

theorem Takes.unbroken (h : Takes (.current v word) t heading lines t' n) (ht : t.Unbroken)
    (hl : ∀ line ∈ lines, IsLine line) : t'.Unbroken := by
  induction h with
  | finish => exact ht
  | idle blank more ih => exact ih ht (List.forall_mem_cons.1 hl).2
  | stop blank ends => exact ht
  | enter blank ends opens more ih => exact ih ht (List.forall_mem_cons.1 hl).2
  | member blank ends opens reads more ih =>
    obtain ⟨hline, hrest⟩ := List.forall_mem_cons.1 hl
    apply ih (readMember_unbroken ht hline hrest _ reads)
    exact fun l hm => hrest l (List.mem_of_mem_drop hm)

theorem read_unbroken (hl : IsLine line) (hr : ∀ line ∈ rest, IsLine line) :
    Gives (read v word line rest) fun res => res.1.Unbroken := by
  intro res h
  cases hn : v.templateName? line.trim with
  | none =>
    rw [read_of_nameless hn] at h
    cases h
  | some name =>
    rw [read_of_name hn] at h
    have hname : IsLine name := .of_name (Vocabulary.templateName?_eq_some.1 hn).isName
    exact (takes_of_readMembers h).unbroken (ofHeader_unbroken hname hl.trim) hr

end Template

namespace Program

variable {v : Vocabulary} {first lines : List Text} {ts : List Template}
  {bodies : List (List Text)} {ms : List Method}

theorem Parts.unbroken (h : Parts (.current v first) lines ts bodies ms)
    (hl : ∀ line ∈ lines, IsLine line) : (∀ t ∈ ts, t.Unbroken) ∧
      (∀ body ∈ bodies, ∀ line ∈ body, IsLine line) ∧ ∀ m ∈ ms, m.Unbroken := by
  have hbody {lines : List Text} (hlines : ∀ line ∈ lines, IsLine line) :
      Gives (Body.ofProgram v lines) fun res => ∀ entry ∈ res.1, IsLine entry :=
    Body.readFrom_unbroken {} hlines
  induction h with
  | finish => exact ⟨List.forall_mem_nil _, List.forall_mem_nil _, List.forall_mem_nil _⟩
  | @template _ _ t _ _ _ _ opens reads more ih =>
    obtain ⟨hline, hrest⟩ := List.forall_mem_cons.1 hl
    obtain ⟨hts, hbodies, hms⟩ := ih fun l hm => hrest l (List.mem_of_mem_drop hm)
    have ht : t.Unbroken := by
      cases first with
      | nil => cases reads
      | cons head tail => exact Template.read_unbroken hline hrest _ reads
    exact ⟨List.forall_mem_cons.2 ⟨ht, hts⟩, hbodies, hms⟩
  | main opens main reads more ih =>
    obtain ⟨hline, hrest⟩ := List.forall_mem_cons.1 hl
    obtain ⟨hts, hbodies, hms⟩ := ih fun l hm => hrest l (List.mem_of_mem_drop hm)
    have hmain := hbody hrest _ reads
    exact ⟨hts, List.forall_mem_cons.2 ⟨hmain, hbodies⟩, hms⟩
  | method opens main found reads more ih =>
    obtain ⟨hline, hrest⟩ := List.forall_mem_cons.1 hl
    obtain ⟨hts, hbodies, hms⟩ := ih fun l hm => hrest l (List.mem_of_mem_drop hm)
    split_ifs at found
    cases found
    have hm := Method.readStandalone_unbroken hbody hrest hline _ reads
    refine ⟨hts, hbodies, List.forall_mem_append.2 ⟨fun m hmem => ?_, hms⟩⟩
    exact hm m (Option.mem_toList.1 hmem)
  | skip opens main found more ih => exact ih (List.forall_mem_cons.1 hl).2

theorem unbroken_of_read {source : Text} {p : Program} (h : read v source = .ok p) :
    p.Unbroken := by
  have hlines : ∀ line ∈ source.trim.lines, IsLine line :=
    fun line hl => Text.notMem_of_mem_splitAt hl
  have hname : IsLine p.name := .of_name (isName_of_read h)
  have hread := h
  rw [read, readLines_drop] at hread
  obtain ⟨ts, bodies, ms, hparts⟩ := parts_of_readParts hread
  obtain ⟨hts, hbodies, hms⟩ := hparts.unbroken fun l hl => hlines l (List.mem_of_mem_drop hl)
  rw [hparts.readParts_eq] at hread
  cases hread
  refine ⟨hname, hts, ?_, hms⟩
  rw [List.getLastD_eq_getLast?]
  cases hlast : bodies.getLast? with
  | none => exact List.forall_mem_nil _
  | some body => exact hbodies body (List.mem_of_getLast? hlast)

end Program

end JavaSketch
