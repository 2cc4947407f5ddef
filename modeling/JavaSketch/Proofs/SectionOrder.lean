import JavaSketch.Proofs.Constructors
import JavaSketch.Proofs.Headings

namespace JavaSketch

namespace Body

variable {v : Vocabulary} {convert : Text → Except Fault Text} {st : State} {line : Text}
  {lines rest body : List Text} {d n : Nat}

/-- Lines at which a body ends if its statements are indented deeper than `d`, or no lines. -/
def Stops (v : Vocabulary) (d : Nat) (rest : List Text) : Prop :=
  ∀ line ∈ rest.head?, isCode false line = true ∧ (endsBody v line = true ∨ line.indent ≤ d)

namespace Reads

/-- A body that takes all of its lines takes them in front of lines at which it ends, too. -/
theorem append_of_margin {m : Nat} (h : Reads v convert st lines body n) (hn : n = lines.length)
    (hclosed : lines.foldl commentAfter st.inComment = false) (hm : st.margin = some m)
    (hd : d < m) (hrest : Stops v d rest) : Reads v convert st (lines ++ rest) body n := by
  induction h with
  | finish =>
    cases rest with
    | nil => exact .finish
    | cons line rest =>
      obtain ⟨hcode, hends⟩ := hrest line rfl
      rw [List.foldl_nil] at hclosed
      apply Reads.stop
      · rw [hclosed]
        exact hcode
      · rcases hends with hends | hle
        · rw [hends, Bool.true_or]
        · rw [isOutside, hm, Bool.or_eq_true_iff]
          exact .inr (decide_eq_true (Nat.lt_of_le_of_lt hle hd))
  | stop => cases hn
  | enter hc hstays hj _ ih =>
    rw [List.foldl_cons, commentAfter_of_isCode hc] at hclosed
    apply Reads.enter hc hstays hj
    apply ih (Nat.succ.inj hn) hclosed
    rw [enter_margin, hm, Option.getD_some]
  | pass hc hs _ ih => exact .pass hc hs (ih (Nat.succ.inj hn) hclosed hm)

theorem append_of_first (h : Reads v convert st lines body n) (hn : n = lines.length)
    (hclosed : lines.foldl commentAfter st.inComment = false) (hm : st.margin = none)
    (hd : ∃ first ∈ (code st.inComment lines).head?, d < first.indent) (hrest : Stops v d rest) :
    Reads v convert st (lines ++ rest) body n := by
  induction h with
  | finish =>
    obtain ⟨first, hfirst, _⟩ := hd
    cases hfirst
  | stop => cases hn
  | enter hc hstays hj more _ =>
    rw [List.foldl_cons, commentAfter_of_isCode hc] at hclosed
    rw [code_cons_of_isCode hc] at hd
    obtain ⟨first, hfirst, hlt⟩ := hd
    cases hfirst
    apply Reads.enter hc hstays hj
    refine more.append_of_margin (Nat.succ.inj hn) hclosed ?_ hlt hrest
    rw [enter_margin, hm, Option.getD_none]
  | pass hc hs _ ih =>
    rw [code_cons_of_not_isCode hc] at hd
    exact .pass hc hs (ih (Nat.succ.inj hn) hclosed hm hd)

end Reads

end Body

namespace Parameter

variable {t : Template} {p s : Text}

/-- The parameters between the commas of a list. -/
def listed (s : Text) : List Text := if s.trim = [] then [] else (s.splitAt ',').map Text.trim

/-- The type of a bare parameter where it has one. -/
def knownType (t : Template) (p : Text) : Text := (declaredType? t p).getD (suggestedType p)

/-- A parameter has a type if there are no variables, or if one of them gives it. -/
def IsKnown (t : Template) (p : Text) : Prop := t.allVars = [] ∨ (declaredType? t p).isSome = true

instance (t : Template) (p : Text) : Decidable (IsKnown t p) :=
  inferInstanceAs (Decidable (_ ∨ _))

theorem declaredType?_of_allVars (h : t.allVars = []) (p : Text) : declaredType? t p = none := by
  rw [declaredType?, Template.declared?, elementType?, h]
  rfl

theorem knownType_of_allVars (h : t.allVars = []) (p : Text) :
    knownType t p = suggestedType p := by
  rw [knownType, declaredType?_of_allVars h]
  rfl

/-- Among variables, a parameter has the type that its name suggests if one of them gives it. -/
theorem isKnown_and_suggested (h : t.allVars ≠ []) (p : Text) :
    IsKnown t p ∧ knownType t p = suggestedType p ↔
      declaredType? t p = some (suggestedType p) := by
  rw [IsKnown, knownType]
  cases declaredType? t p with
  | none =>
    constructor
    · rintro ⟨hk | hk, _⟩
      · exact absurd hk h
      · cases hk
    · intro hn
      cases hn
  | some type =>
    constructor
    · rintro ⟨_, ht⟩
      exact congrArg some ht
    · intro ht
      exact ⟨.inr rfl, Option.some.inj ht⟩

theorem typeIn_of_isKnown (h : IsKnown t p) :
    typeIn (fun name => some (suggestedType name)) t p = .ok (knownType t p) := by
  rw [typeIn, knownType]
  rcases h with h | h
  · rw [declaredType?_of_allVars h, h]
    rfl
  · obtain ⟨type, htype⟩ := Option.isSome_iff_exists.1 h
    rw [htype]
    rfl

theorem typeIn_of_not_isKnown (h : ¬ IsKnown t p) :
    typeIn (fun name => some (suggestedType name)) t p = .error (.unknownParameter p) := by
  rw [IsKnown, not_or, Bool.not_eq_true, Option.isSome_eq_false_iff, Option.isNone_iff_eq_none] at h
  rw [typeIn, h.2, List.isEmpty_eq_false_iff.2 h.1]
  rfl

theorem readIn_eq (t : Template) (s : Text) :
    readIn t s =
      (listed s).mapM (read .full (typeIn (fun name => some (suggestedType name)) t)) := by
  rw [readIn, readAll, listed]
  by_cases hblank : s.trim = []
  · rw [if_pos hblank, if_pos hblank]
    rfl
  · rw [if_neg hblank, if_neg hblank, List.mapM_map]
    rfl

theorem read_bare {table : TypeTable} {bare : Text → Except Fault Text} (hp : ' ' ∉ p) :
    read table bare p = (bare p).map fun type => ⟨p, type⟩ := by
  have hcut : Text.cut? " " p = none :=
    Text.cut?_eq_none (Text.not_includes_of_notMem (by decide) hp)
  rw [read, hcut]

theorem readIn_of_isKnown (hbare : ∀ p ∈ listed s, ' ' ∉ p) (h : ∀ p ∈ listed s, IsKnown t p) :
    readIn t s = .ok ((listed s).map fun p => ⟨p, knownType t p⟩) := by
  rw [readIn_eq]
  apply mapM_eq_ok
  intro p hp
  rw [read_bare (hbare p hp), typeIn_of_isKnown (h p hp)]
  rfl

/-- A list with a parameter that has no type is refused for such a parameter. -/
theorem readIn_of_not_isKnown (hbare : ∀ p ∈ listed s, ' ' ∉ p)
    (h : ¬ ∀ p ∈ listed s, IsKnown t p) :
    ∃ p ∈ listed s, ¬ IsKnown t p ∧ readIn t s = .error (.unknownParameter p) := by
  have hread : ∀ p ∈ listed s, ¬ IsKnown t p →
      read .full (typeIn (fun name => some (suggestedType name)) t) p =
        .error (.unknownParameter p) := by
    intro p hp hn
    rw [read_bare (hbare p hp), typeIn_of_not_isKnown hn]
    rfl
  push Not at h
  obtain ⟨q, hq, hn⟩ := h
  obtain ⟨p, hp, f, hf, hl⟩ := mapM_eq_error ⟨q, hq, _, hread q hq hn⟩
  by_cases hk : IsKnown t p
  · rw [read_bare (hbare p hp), typeIn_of_isKnown hk] at hf
    cases hf
  · rw [hread p hp hk] at hf
    cases hf
    exact ⟨p, hp, hk, (readIn_eq t s).trans hl⟩

end Parameter

/-- A constructor as it is written, no deeper than `d`: a head with bare parameters, and under it a
block that has a statement deeper than `d` first and can be read. -/
structure ConstructorText (v : Vocabulary) (d : Nat) where
  head : Text
  block : List Text
  /-- The name in a head that is written as a call. -/
  called : Option Text
  /-- The parameters as the head lists them. -/
  list : Text
  /-- What the block gives alone. -/
  body : List Text
  head_code : Body.isCode false head = true
  head_depth : 8 ≤ head.indent ∧ head.indent ≤ d
  head_indented : Template.isUnindented head = false
  parts_eq : Constructor.parts? (Access.parts head.trim).2 = some (called, list)
  bare : ∀ p ∈ Parameter.listed list, ' ' ∉ p
  body_eq : Body.ofProgram v block = .ok (body, block.length)
  closed : block.foldl Body.commentAfter false = false
  deeper : ∃ first ∈ (Body.code false block).head?, d < first.indent

theorem not_isIdle_of_isCode {inComment : Bool} {line : Text}
    (h : Body.isCode inComment line = true) : isIdle line.trim = false := by
  have hs : Body.isStatement line = true := (Bool.and_eq_true_iff.1 h).2
  rw [Body.isStatement, Bool.and_eq_true_iff, Bool.and_eq_true_iff, Bool.not_eq_true',
    Bool.not_eq_true'] at hs
  rw [isIdle, hs.1.1, hs.1.2]
  rfl

namespace ConstructorText

variable {v : Vocabulary} {d : Nat} {t : Template} {rest : List Text} (c : ConstructorText v d)

def lines : List Text := c.head :: c.block

def names : List Text := Parameter.listed c.list

/-- The constructor with the given parameters, in a template with the given name. -/
def method (name : Text) (params : List Param) : Method :=
  Constructor.ofParts (Access.parts c.head.trim).1 c.called name params c.body

/-- The constructor in a template with the given variables. -/
def methodIn (t : Template) : Method :=
  c.method t.name (c.names.map fun p => ⟨p, Parameter.knownType t p⟩)

/-- The constructor with the types that the names of its parameters suggest. -/
def guessed (name : Text) : Method :=
  c.method name (c.names.map fun p => ⟨p, Parameter.suggestedType p⟩)

def read (t : Template) : Except Fault Method :=
  (Parameter.readIn t c.list).map (c.method t.name)

theorem ofProgram_append (h : Body.Stops v d rest) :
    Body.ofProgram v (c.block ++ rest) = .ok (c.body, c.block.length) :=
  ((Body.Reads.of_readFrom c.body_eq).append_of_first rfl c.closed rfl c.deeper h).readFrom_eq

theorem readConstructor_eq (h : Body.Stops v d rest) :
    Method.readConstructor (Body.ofProgram v) (some t) c.head (c.block ++ rest) =
      (c.read t).map fun m => (some m, c.block.length) := by
  rw [Method.readConstructor, Method.onMember_eq, not_isIdle_of_isCode c.head_code,
    if_neg Bool.false_ne_true,
    Constructor.read_of_parts _ c.parts_eq, c.ofProgram_append h, read]
  cases Parameter.readIn t c.list with
  | error f => rfl
  | ok params => rfl

theorem read_of_isKnown (h : ∀ p ∈ c.names, Parameter.IsKnown t p) :
    c.read t = .ok (c.methodIn t) := by
  rw [read, Parameter.readIn_of_isKnown c.bare h]
  rfl

theorem read_of_not_isKnown (h : ¬ ∀ p ∈ c.names, Parameter.IsKnown t p) :
    ∃ p ∈ c.names, ¬ Parameter.IsKnown t p ∧ c.read t = .error (.unknownParameter p) := by
  obtain ⟨p, hp, hn, hr⟩ := Parameter.readIn_of_not_isKnown c.bare h
  refine ⟨p, hp, hn, ?_⟩
  rw [read, hr]
  rfl

theorem methodIn_eq_guessed_iff :
    c.methodIn t = c.guessed t.name ↔
      ∀ p ∈ c.names, Parameter.knownType t p = Parameter.suggestedType p := by
  constructor
  · intro h p hp
    have hparams := congrArg Method.params h
    exact congrArg Param.type (List.map_inj_left.1 hparams p hp)
  · intro h
    have hparams : (c.names.map fun p => (⟨p, Parameter.knownType t p⟩ : Param)) =
        c.names.map fun p => ⟨p, Parameter.suggestedType p⟩ :=
      List.map_congr_left fun p hp => congrArg (Param.mk p) (h p hp)
    rw [methodIn, guessed, hparams]

/-- The constructors of a section. -/
def readAll (t : Template) (cs : List (ConstructorText v d)) : Except Fault (List Method) :=
  cs.mapM (·.read t)

theorem readAll_of_isKnown {cs : List (ConstructorText v d)}
    (h : ∀ c ∈ cs, ∀ p ∈ c.names, Parameter.IsKnown t p) :
    readAll t cs = .ok (cs.map (·.methodIn t)) :=
  mapM_eq_ok fun c hc => c.read_of_isKnown (h c hc)

theorem readAll_of_not_isKnown {cs : List (ConstructorText v d)}
    (h : ¬ ∀ c ∈ cs, ∀ p ∈ c.names, Parameter.IsKnown t p) :
    ∃ c ∈ cs, ∃ p ∈ c.names, ¬ Parameter.IsKnown t p ∧
      readAll t cs = .error (.unknownParameter p) := by
  push Not at h
  obtain ⟨b, hb, q, hq, hn⟩ := h
  obtain ⟨_, _, _, hread⟩ := b.read_of_not_isKnown fun hall => hn (hall q hq)
  obtain ⟨c, hc, f, hf, hl⟩ :=
    mapM_eq_error (f := fun c : ConstructorText v d => c.read t) ⟨b, hb, _, hread⟩
  have hnot : ¬ ∀ p ∈ c.names, Parameter.IsKnown t p := by
    intro hall
    rw [c.read_of_isKnown hall] at hf
    cases hf
  obtain ⟨p, hp, hk, hr⟩ := c.read_of_not_isKnown hnot
  rw [hr] at hf
  cases hf
  exact ⟨c, hc, p, hp, hk, hl⟩

theorem stops_lines {cs : List (ConstructorText v d)} (h : Body.Stops v d rest) :
    Body.Stops v d (cs.flatMap lines ++ rest) := by
  cases cs with
  | nil => exact h
  | cons c cs =>
    intro line hl
    cases hl
    exact ⟨c.head_code, .inr c.head_depth.2⟩

end ConstructorText

namespace TemplateRules

variable {v : Vocabulary} {word line name : Text}

theorem sectionKind?_instanceVars (hw : word ≠ "instance") :
    sectionKind? v word "instance vars" = some .instanceVars := by
  have hvars : (Vocabulary.staticVarSections word).contains "instance vars".toList = false := by
    apply staticVarSections_contains _ (by decide)
    intro h
    have hs : "instance".toList ++ " vars".toList = word ++ " vars".toList := h
    exact hw (List.append_cancel_right hs).symm
  have hkind : memberKind? (Vocabulary.staticVarSections word)
      (Vocabulary.staticMethodSections word) v.abstractSections "instance vars".toList =
      some .instanceVars := by
    rw [memberKind?, hvars]
    rfl
  rw [sectionKind?, hkind]

theorem sectionKind?_constructors : sectionKind? v word "constructor" = some .constructors := by
  have hvars : (Vocabulary.staticVarSections word).contains "constructor".toList = false := by
    apply staticVarSections_contains _ (by decide)
    intro h
    have hs : " vars".toList <:+ "constructor".toList := ⟨word, h.symm⟩
    exact absurd hs (by decide)
  have hkind : memberKind? (Vocabulary.staticVarSections word)
      (Vocabulary.staticMethodSections word) v.abstractSections "constructor".toList =
      some .constructors := by
    rw [memberKind?, hvars]
    rfl
  rw [sectionKind?, hkind]

theorem ends_of_indented (h : Template.isUnindented line = false) :
    (current v word).ends line line.trim = .ok false := by
  rw [ends_current, Vocabulary.endsTemplate, h, Bool.false_and]

theorem heading?_of_deep (h : 8 ≤ line.indent) :
    (current v word).heading? line line.trim = none := by
  have hfour : line.indent ≠ 4 := by omega
  rw [current]
  dsimp only
  rw [if_neg (fun h => hfour h.2), Template.headingAtFour?, beq_eq_false_iff_ne.2 hfour,
    Bool.and_false, if_neg Bool.false_ne_true]

theorem kind?_of_deep {n : Nat} (hname : name ≠ []) (h : 8 ≤ n) :
    (current v word).kind? (some name) n = sectionKind? v word name := by
  cases name with
  | nil => exact absurd rfl hname
  | cons c name =>
    rw [current]
    exact if_neg (Nat.not_lt.2 h)

end TemplateRules

namespace Field

/-- The variables on the lines of a section. -/
def readAll : List Text → Except Fault (List Variable)
  | [] => .ok []
  | line :: lines => read false line >>= fun x => (readAll lines).map (x.toList ++ ·)

end Field

namespace Template

variable {r : TemplateRules} {v : Vocabulary} {word line name : Text} {fields rest : List Text}
  {t : Template} {heading : Option Text} {d : Nat}

theorem readMembers_member_numbered (blank : isIdle line.trim = false)
    (ends : r.ends line line.trim = .ok false) (opens : r.heading? line line.trim = none) :
    readMembers r t heading (line :: rest) = (readMember r t heading line rest >>= fun res =>
      numbered (res.2 + 1) (readMembers r res.1 heading (rest.drop res.2))) := by
  rw [readMembers_member blank ends opens]
  exact congrArg _ (funext fun res : Template × Nat => bind_add_eq_numbered (res.2 + 1) _)

/-- Lines at which a template ends, indented no deeper than `d`, or no lines. -/
def Closes (r : TemplateRules) (d : Nat) (rest : List Text) : Prop :=
  ∀ line ∈ rest.head?,
    Body.isCode false line = true ∧ line.indent ≤ d ∧ r.ends line line.trim = .ok true

theorem readMembers_of_closes (h : Closes r d rest) :
    readMembers r t heading rest = .ok (t, 0) := by
  cases rest with
  | nil => exact readMembers_nil
  | cons line rest =>
    obtain ⟨hcode, _, hends⟩ := h line rfl
    exact readMembers_stop (not_isIdle_of_isCode hcode) hends

theorem Closes.stops (h : Closes r d rest) : Body.Stops v d rest := by
  intro line hl
  obtain ⟨hcode, hle, _⟩ := h line hl
  exact ⟨hcode, .inr hle⟩

/-- An idle line, or one that is as deep as a member. -/
def IsMemberLine (line : Text) : Prop :=
  isIdle line.trim = true ∨ 8 ≤ line.indent ∧ isUnindented line = false

theorem readMembers_field (hw : word ≠ "instance") (h : IsMemberLine line) :
    readMembers (.current v word) t (some "instance vars") (line :: rest) =
      (Field.read false line >>= fun x => numbered 1 (readMembers (.current v word)
        { t with instanceVars := t.instanceVars ++ x.toList } (some "instance vars") rest)) := by
  cases hidle : isIdle line.trim with
  | true =>
    have hread : Field.read false line = .ok none := if_pos hidle
    have hnone : t.instanceVars ++ (none : Option Variable).toList = t.instanceVars :=
      List.append_nil _
    rw [readMembers_idle hidle, bind_add_eq_numbered, hread]
    change _ = numbered 1 _
    rw [hnone]
  | false =>
    have hdeep : 8 ≤ line.indent ∧ isUnindented line = false := by
      rcases h with h | h
      · rw [hidle] at h
        cases h
      · exact h
    have hkind : (TemplateRules.current v word).kind? (some "instance vars") line.indent =
        some .instanceVars := by
      rw [TemplateRules.kind?_of_deep (by decide) hdeep.1]
      exact TemplateRules.sectionKind?_instanceVars hw
    rw [readMembers_member_numbered hidle (TemplateRules.ends_of_indented hdeep.2)
      (TemplateRules.heading?_of_deep hdeep.1), readMember, hkind]
    have hfield : (TemplateRules.current v word).field false line = Field.read false line := rfl
    dsimp only
    rw [hfield]
    cases Field.read false line with
    | error f => rfl
    | ok x => rfl

theorem readMembers_fields (hw : word ≠ "instance") (h : ∀ line ∈ fields, IsMemberLine line) :
    readMembers (.current v word) t (some "instance vars") (fields ++ rest) =
      (Field.readAll fields >>= fun xs => numbered fields.length (readMembers (.current v word)
        { t with instanceVars := t.instanceVars ++ xs } (some "instance vars") rest)) := by
  induction fields generalizing t with
  | nil =>
    rw [Field.readAll]
    change _ = numbered 0 _
    rw [numbered_zero, List.append_nil]
    rfl
  | cons line fields ih =>
    obtain ⟨hline, hfields⟩ := List.forall_mem_cons.1 h
    rw [List.cons_append, readMembers_field hw hline, Field.readAll]
    cases Field.read false line with
    | error f => rfl
    | ok x =>
      change numbered 1 _ = _
      rw [ih hfields]
      cases Field.readAll fields with
      | error f => rfl
      | ok xs =>
        change numbered 1 (numbered fields.length _) = numbered (fields.length + 1) _
        rw [numbered_numbered, Nat.add_comm 1, List.append_assoc]

theorem readMembers_constructor (c : ConstructorText v d) (h : Body.Stops v d rest) :
    readMembers (.current v word) t (some "constructor") (c.lines ++ rest) =
      (c.read t >>= fun m => numbered c.lines.length (readMembers (.current v word)
        { t with constructors := t.constructors ++ [m] } (some "constructor") rest)) := by
  have hkind : (TemplateRules.current v word).kind? (some "constructor") c.head.indent =
      some .constructors := by
    rw [TemplateRules.kind?_of_deep (by decide) c.head_depth.1]
    exact TemplateRules.sectionKind?_constructors
  have hread : (TemplateRules.current v word).constructor t c.head (c.block ++ rest) =
      (c.read t).map fun m => (some m, c.block.length) := c.readConstructor_eq h
  rw [ConstructorText.lines, List.cons_append,
    readMembers_member_numbered (not_isIdle_of_isCode c.head_code)
      (TemplateRules.ends_of_indented c.head_indented)
      (TemplateRules.heading?_of_deep c.head_depth.1), readMember, hkind]
  dsimp only
  rw [hread]
  cases c.read t with
  | error f => rfl
  | ok m =>
    change numbered (c.block.length + 1)
      (readMembers _ _ _ ((c.block ++ rest).drop c.block.length)) = _
    rw [List.drop_left]
    rfl

/-- Constructors are added in their order, and each is read with the variables that are known in
front of the section. -/
theorem readMembers_constructors (cs : List (ConstructorText v d)) (h : Body.Stops v d rest) :
    readMembers (.current v word) t (some "constructor")
        (cs.flatMap ConstructorText.lines ++ rest) =
      (ConstructorText.readAll t cs >>= fun ms =>
        numbered (cs.flatMap ConstructorText.lines).length (readMembers (.current v word)
          { t with constructors := t.constructors ++ ms } (some "constructor") rest)) := by
  induction cs generalizing t with
  | nil =>
    rw [ConstructorText.readAll, List.mapM_nil]
    change _ = numbered 0 _
    rw [numbered_zero, List.append_nil]
    rfl
  | cons c cs ih =>
    rw [List.flatMap_cons, List.append_assoc,
      readMembers_constructor c (ConstructorText.stops_lines h), ConstructorText.readAll,
      List.mapM_cons]
    cases c.read t with
    | error f => rfl
    | ok m =>
      change numbered c.lines.length _ = _
      rw [ih]
      have hread : ConstructorText.readAll { t with constructors := t.constructors ++ [m] } cs =
          cs.mapM (·.read t) := rfl
      rw [hread]
      cases cs.mapM (·.read t) with
      | error f => rfl
      | ok ms =>
        change numbered _ (numbered _ _) = numbered _ _
        rw [numbered_numbered, List.length_append, List.append_assoc]
        rfl

def varSection (fields : List Text) : List Text :=
  Vocabulary.headingLine "instance vars" :: fields

def constructorSection (cs : List (ConstructorText v d)) : List Text :=
  Vocabulary.headingLine "constructor" :: cs.flatMap ConstructorText.lines

theorem stops_varSection : Body.Stops v d (varSection fields ++ rest) := by
  intro line hl
  cases hl
  refine ⟨rfl, .inl ?_⟩
  rw [Vocabulary.endsBody_headingLine rfl]
  rfl

theorem readMembers_varSection (hw : word ≠ "instance")
    (hfields : ∀ line ∈ fields, IsMemberLine line) :
    readMembers (.current v word) t heading (varSection fields ++ rest) =
      (Field.readAll fields >>= fun xs => numbered (varSection fields).length
        (readMembers (.current v word) { t with instanceVars := t.instanceVars ++ xs }
          (some "instance vars") rest)) := by
  have hopens : (TemplateRules.current v word).heading? (Vocabulary.headingLine "instance vars")
      (Vocabulary.headingLine "instance vars").trim = some "instance vars" := rfl
  rw [varSection, List.cons_append, readMembers_enter rfl rfl hopens, bind_add_eq_numbered,
    readMembers_fields hw hfields]
  cases Field.readAll fields with
  | error f => rfl
  | ok xs =>
    change numbered 1 (numbered fields.length _) = numbered (fields.length + 1) _
    rw [numbered_numbered, Nat.add_comm]

theorem readMembers_constructorSection (cs : List (ConstructorText v d))
    (h : Body.Stops v d rest) :
    readMembers (.current v word) t heading (constructorSection cs ++ rest) =
      (ConstructorText.readAll t cs >>= fun ms => numbered (constructorSection cs).length
        (readMembers (.current v word) { t with constructors := t.constructors ++ ms }
          (some "constructor") rest)) := by
  have hopens : (TemplateRules.current v word).heading? (Vocabulary.headingLine "constructor")
      (Vocabulary.headingLine "constructor").trim = some "constructor" := rfl
  rw [constructorSection, List.cons_append, readMembers_enter rfl rfl hopens, bind_add_eq_numbered,
    readMembers_constructors cs h]
  cases ConstructorText.readAll t cs with
  | error f => rfl
  | ok ms =>
    change numbered 1 (numbered _ _) = numbered _ _
    rw [numbered_numbered, Nat.add_comm]
    rfl

theorem read_varSection_first {header : Text} (hw : word ≠ "instance")
    (hname : v.templateName? header.trim = some name)
    (hfields : ∀ line ∈ fields, IsMemberLine line) (cs : List (ConstructorText v d))
    (hrest : Closes (.current v word) d rest) :
    let start := ofHeader name (Header.read v header.trim)
    read v word header (varSection fields ++ constructorSection cs ++ rest) =
      (Field.readAll fields >>= fun xs =>
        (ConstructorText.readAll { start with instanceVars := xs } cs).map fun ms =>
          ({ start with instanceVars := xs, constructors := ms },
            (varSection fields ++ constructorSection cs).length)) := by
  intro start
  rw [read_of_name hname, List.append_assoc]
  rw [readMembers_varSection hw hfields]
  congr 1
  funext xs
  rw [readMembers_constructorSection cs hrest.stops]
  have hxs : start.instanceVars ++ xs = xs := rfl
  rw [hxs]
  cases ConstructorText.readAll { start with instanceVars := xs } cs with
  | error f => rfl
  | ok ms =>
    change numbered _ (numbered _ (readMembers _ _ _ rest)) = _
    rw [readMembers_of_closes hrest, numbered_numbered, List.length_append]
    rfl

theorem read_varSection_last {header : Text} (hw : word ≠ "instance")
    (hname : v.templateName? header.trim = some name)
    (hfields : ∀ line ∈ fields, IsMemberLine line) (cs : List (ConstructorText v d))
    (hrest : Closes (.current v word) d rest) :
    let start := ofHeader name (Header.read v header.trim)
    read v word header (constructorSection cs ++ varSection fields ++ rest) =
      (Field.readAll fields).map fun xs =>
        ({ start with instanceVars := xs, constructors := cs.map (·.guessed name) },
          (varSection fields ++ constructorSection cs).length) := by
  intro start
  have hall : start.allVars = [] := rfl
  have hread : ConstructorText.readAll start cs = .ok (cs.map (·.guessed name)) := by
    rw [ConstructorText.readAll_of_isKnown fun c _ p _ => .inl hall]
    refine congrArg Except.ok (List.map_congr_left fun c _ => ?_)
    exact c.methodIn_eq_guessed_iff.2 fun p _ => Parameter.knownType_of_allVars hall p
  rw [read_of_name hname, List.append_assoc]
  rw [readMembers_constructorSection cs stops_varSection, hread]
  change numbered _ (readMembers _ _ _ (varSection fields ++ rest)) = _
  rw [readMembers_varSection hw hfields]
  cases Field.readAll fields with
  | error f => rfl
  | ok xs =>
    change numbered _ (numbered _ (readMembers _ _ _ rest)) = _
    rw [readMembers_of_closes hrest, numbered_numbered, Nat.add_comm, List.length_append]
    rfl

end Template

namespace Template

theorem read_swapped_iff {xs : List Variable} {cs : List (ConstructorText v d)} {n : Nat}
    (hxs : t.allVars = xs) :
    (ConstructorText.readAll t cs).map (fun ms => ({ t with constructors := ms }, n)) =
        .ok ({ t with constructors := cs.map (·.guessed t.name) }, n) ↔
      xs = [] ∨ ∀ c ∈ cs, ∀ p ∈ c.names,
        Parameter.declaredType? t p = some (Parameter.suggestedType p) := by
  have hsame : (xs = [] ∨ ∀ c ∈ cs, ∀ p ∈ c.names,
      Parameter.declaredType? t p = some (Parameter.suggestedType p)) ↔
      ∀ c ∈ cs, ∀ p ∈ c.names,
        Parameter.IsKnown t p ∧ Parameter.knownType t p = Parameter.suggestedType p := by
    by_cases hnil : xs = []
    · have hall : t.allVars = [] := hxs.trans hnil
      exact ⟨fun _ c _ p _ => ⟨.inl hall, Parameter.knownType_of_allVars hall p⟩,
        fun _ => .inl hnil⟩
    · have hall : t.allVars ≠ [] := hxs ▸ hnil
      simp only [Parameter.isKnown_and_suggested hall, hnil, false_or]
  rw [hsame, map_eq_ok]
  constructor
  · rintro ⟨ms, hms, he⟩ c hc p hp
    have hknown : ∀ c ∈ cs, ∀ p ∈ c.names, Parameter.IsKnown t p := by
      by_contra hn
      obtain ⟨_, _, _, _, _, herror⟩ := ConstructorText.readAll_of_not_isKnown hn
      rw [herror] at hms
      cases hms
    rw [ConstructorText.readAll_of_isKnown hknown] at hms
    cases hms
    have hmap := congrArg (fun res : Template × Nat => res.1.constructors) he
    have hc' := List.map_inj_left.1 hmap c hc
    exact ⟨hknown c hc p hp, c.methodIn_eq_guessed_iff.1 hc' p hp⟩
  · intro h
    refine ⟨_, ConstructorText.readAll_of_isKnown fun c hc p hp => (h c hc p hp).1, ?_⟩
    have hmap : cs.map (·.methodIn t) = cs.map (·.guessed t.name) :=
      List.map_congr_left fun c hc => c.methodIn_eq_guessed_iff.2 fun p hp => (h c hc p hp).2
    rw [hmap]

/-- Two sections of a template in both orders. Constructors behind the variables get the types that
the variables give, and are refused if a parameter has none. In front of the variables they are
never refused and get the types that their names suggest. So the order does not matter exactly if
there are no variables, or if they give each parameter the type that its name suggests. -/
theorem read_sections_swapped (v : Vocabulary) (word header name : Text) (d : Nat)
    (fields rest : List Text) (cs : List (ConstructorText v d)) (hw : word ≠ "instance")
    (hname : v.templateName? header.trim = some name)
    (hfields : ∀ line ∈ fields, IsMemberLine line) (hrest : Closes (.current v word) d rest) :
    let varsFirst := read v word header (varSection fields ++ constructorSection cs ++ rest)
    let varsLast := read v word header (constructorSection cs ++ varSection fields ++ rest)
    (∀ f, Field.readAll fields = .error f → varsFirst = .error f ∧ varsLast = .error f) ∧
    ∀ xs, Field.readAll fields = .ok xs →
      let t := { ofHeader name (Header.read v header.trim) with instanceVars := xs }
      let n := (varSection fields ++ constructorSection cs).length
      varsLast = .ok ({ t with constructors := cs.map (·.guessed name) }, n) ∧
      ((∀ c ∈ cs, ∀ p ∈ c.names, Parameter.IsKnown t p) →
        varsFirst = .ok ({ t with constructors := cs.map (·.methodIn t) }, n)) ∧
      ((¬ ∀ c ∈ cs, ∀ p ∈ c.names, Parameter.IsKnown t p) →
        ∃ c ∈ cs, ∃ p ∈ c.names, ¬ Parameter.IsKnown t p ∧
          varsFirst = .error (.unknownParameter p)) ∧
      (varsFirst = varsLast ↔ xs = [] ∨ ∀ c ∈ cs, ∀ p ∈ c.names,
        Parameter.declaredType? t p = some (Parameter.suggestedType p)) := by
  intro varsFirst varsLast
  have hfirst := read_varSection_first hw hname hfields cs hrest
  have hlast := read_varSection_last hw hname hfields cs hrest
  constructor
  · intro f hf
    rw [hf] at hfirst hlast
    exact ⟨hfirst, hlast⟩
  · intro xs hxs t n
    rw [hxs] at hfirst hlast
    have hread : varsFirst = (ConstructorText.readAll t cs).map fun ms =>
      ({ t with constructors := ms }, n) := hfirst
    have hguessed : varsLast = .ok ({ t with constructors := cs.map (·.guessed name) }, n) := hlast
    refine ⟨hguessed, fun hknown => ?_, fun hn => ?_, ?_⟩
    · rw [hread, ConstructorText.readAll_of_isKnown hknown]
      rfl
    · obtain ⟨c, hc, p, hp, hk, herror⟩ := ConstructorText.readAll_of_not_isKnown hn
      refine ⟨c, hc, p, hp, hk, ?_⟩
      rw [hread, herror]
      rfl
    · rw [hread, hguessed]
      exact read_swapped_iff (List.append_nil xs)

/-- A list of one parameter, and a body with a comment. -/
def listedAge : ConstructorText .standard 8 where
  head := "        * age:"
  block := ["            // a greeting", "            print age"]
  called := none
  list := "age"
  body := ["// a greeting", "System.out.println(\"age\");"]
  head_code := rfl
  head_depth := by decide
  head_indented := rfl
  parts_eq := rfl
  bare := by decide
  body_eq := by decide +kernel
  closed := rfl
  deeper := ⟨"            print age", rfl, by decide⟩

/-- A call with a parameter, and a body of one statement. -/
def calledCount : ConstructorText .standard 8 where
  head := "        Person(count)"
  block := ["            print done"]
  called := some "Person"
  list := "count"
  body := ["System.out.println(\"done\");"]
  head_code := rfl
  head_depth := by decide
  head_indented := rfl
  parts_eq := rfl
  bare := by decide
  body_eq := by decide +kernel
  closed := rfl
  deeper := ⟨"            print done", rfl, by decide⟩

theorem read_sections_swapped_of_person :
    let fields : List Text := ["        * age as int", "", "        count as int"]
    let rest : List Text := ["main", "    greet()"]
    let cs := [listedAge, calledCount]
    let varsFirst := read Vocabulary.standard "template" "template Person"
      (varSection fields ++ constructorSection cs ++ rest)
    let varsLast := read Vocabulary.standard "template" "template Person"
      (constructorSection cs ++ varSection fields ++ rest)
    let types (t : Template) : List (List Text) := t.constructors.map (·.params.map (·.type))
    varsFirst.map (fun res => (types res.1, res.2)) = .ok ([["int"], ["int"]], 10) ∧
      varsLast.map (fun res => (types res.1, res.2)) = .ok ([["String"], ["int"]], 10) ∧
      varsFirst ≠ varsLast := by
  intro fields rest cs varsFirst varsLast types
  have hfields : ∀ line ∈ fields, IsMemberLine line := by
    refine List.forall_mem_cons.2 ⟨.inr ⟨by decide, rfl⟩, List.forall_mem_cons.2 ⟨.inl rfl, ?_⟩⟩
    exact List.forall_mem_singleton.2 (.inr ⟨by decide, rfl⟩)
  have hrest : Closes (.current Vocabulary.standard "template") 8 rest := by
    intro line hl
    cases hl
    exact ⟨rfl, by decide, rfl⟩
  let xs : List Variable :=
    [⟨"age", "int", .pub, none, false⟩, ⟨"count", "int", .pack, none, false⟩]
  have hxs : Field.readAll fields = .ok xs := by decide +kernel
  obtain ⟨hlast, hfirst, _, hiff⟩ := (read_sections_swapped .standard "template" "template Person"
    "Person" 8 fields rest cs (by decide) rfl hfields hrest).2 xs hxs
  refine ⟨?_, ?_, ?_⟩
  · rw [show varsFirst = _ from hfirst (by decide)]
    decide
  · rw [show varsLast = _ from hlast]
    decide
  · intro h
    rcases hiff.1 h with hnil | htypes
    · exact absurd hnil (List.cons_ne_nil _ _)
    · have hage := htypes listedAge List.mem_cons_self "age" List.mem_cons_self
      exact absurd hage (by decide)

end Template

end JavaSketch
