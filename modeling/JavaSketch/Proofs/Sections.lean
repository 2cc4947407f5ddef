import JavaSketch.Proofs.CaseSigns
import JavaSketch.Proofs.Signatures
import Mathlib.Data.List.Forall2

namespace JavaSketch

namespace Vocabulary

/-- The words for templates are made of letters, and none of them makes the section of instance
methods one of static methods. -/
def Ordinary (v : Vocabulary) : Prop :=
  ∀ word ∈ v.templateWords, word ≠ "instance" ∧ word.all Char.isAlpha = true

instance (v : Vocabulary) : Decidable v.Ordinary :=
  inferInstanceAs (Decidable (∀ word ∈ v.templateWords, _))

end Vocabulary

variable {v : Vocabulary} {word begun rest : Text} {c d : Char} {p : Pattern}

theorem Vocabulary.Ordinary.templateWordIn_ne (hv : v.Ordinary) (line : Text) :
    v.templateWordIn line ≠ "instance" := by
  rw [Synonyms.templateWordIn]
  cases h : v.templateWords.find? fun word => line.lower.includes word.lower with
  | none =>
    rw [Option.getD_none]
    decide
  | some word => exact (hv word (List.mem_of_find?_eq_some h)).1

theorem signs_isSign : ∀ d ∈ SignatureText.signs, isSign d = true := List.all_eq_true.1 rfl

theorem sameLetter_sign (h : c.isAlpha = true) (hd : d ∈ SignatureText.signs) :
    sameLetter c d = false := by
  rw [Bool.eq_false_iff]
  intro hs
  have hsign := signs_isSign d hd
  rw [← eq_of_sameLetter hs hsign, isSign, h, Bool.not_true, Bool.and_false] at hsign
  cases hsign

theorem find?_anyCase (hb : ∀ c ∈ begun, isWord c = true) (hd : isBlank d = false)
    (hw : ∀ c ∈ word, sameLetter c d = false) :
    Pattern.find? (Pattern.anyCase word ++ .gap :: p) (begun ++ d :: rest) = none := by
  induction word generalizing begun with
  | nil =>
    cases begun with
    | nil => exact Pattern.find?_gap hd rest
    | cons e begun => exact Pattern.find?_gap (not_blank_of_isWord (hb e List.mem_cons_self)) _
  | cons c word ih =>
    obtain ⟨hc, hword⟩ := List.forall_mem_cons.1 hw
    rw [Pattern.anyCase, List.map_cons, List.cons_append, ← Pattern.anyCase]
    cases begun with
    | nil => rw [List.nil_append, Pattern.find?, hc, if_neg Bool.false_ne_true]
    | cons e begun =>
      rw [List.cons_append, Pattern.find?]
      split
      · exact ih (List.forall_mem_cons.1 hb).2 hword
      · rfl

namespace SignatureText

variable (m : SignatureText)

theorem not_opensTemplate (hv : v.Ordinary) : v.opensTemplate m.text = false := by
  obtain ⟨begun, d, rest, he, hb, hd⟩ := m.text_eq
  have htrim : m.text.trim = m.text := by rw [← m.trim_line, Text.trim_trim]
  rw [Vocabulary.opensTemplate, Vocabulary.templateName?, htrim, Option.isSome_eq_false_iff,
    Option.isNone_iff_eq_none, List.findSome?_eq_none_iff]
  intro word hw
  have ha := List.all_eq_true.1 (hv word hw).2
  rw [he]
  apply nameAfter?_of_none
  exact find?_anyCase hb (sign_not_blank hd).1 fun c hc => sameLetter_sign (ha c hc) hd

theorem sign_notMem {w : Text} (h : w.all (fun c => !signs.contains c) = true) (hd : d ∈ signs) :
    d ∉ w := by
  intro hm
  have hn := List.all_eq_true.1 h d hm
  rw [List.contains_iff_mem.2 hd] at hn
  cases hn

theorem text_ne_main : m.text ≠ "main" := by
  obtain ⟨begun, d, rest, he, _, hd⟩ := m.text_eq
  intro h
  have hm : d ∈ "main".toList := by
    rw [← h, he]
    exact List.mem_append_right _ List.mem_cons_self
  exact sign_notMem (by decide) hd hm

theorem not_startsWith_method : m.text.startsWith "method " = false := by
  obtain ⟨begun, d, rest, he, hb, hd⟩ := m.text_eq
  rw [Bool.eq_false_iff]
  intro hs
  obtain ⟨t, ht⟩ := List.isPrefixOf_iff_prefix.1 hs
  rw [he] at ht
  have hblank : d ≠ ' ' := by
    rintro rfl
    cases (sign_not_blank hd).1
  have hsplit : "method".toList ++ ' ' :: t = begun ++ d :: rest := ht
  rcases List.append_eq_append_iff.1 hsplit with ⟨more, hbegun, hmore⟩ | ⟨more, hword, hmore⟩
  · cases more with
    | nil => exact hblank (List.cons.inj hmore).1.symm
    | cons c more =>
      obtain ⟨rfl, _⟩ := List.cons.inj hmore
      have hc := hb ' ' (hbegun ▸ List.mem_append_right _ List.mem_cons_self)
      cases hc
  · cases more with
    | nil => exact hblank (List.cons.inj hmore).1
    | cons c more =>
      obtain ⟨rfl, _⟩ := List.cons.inj hmore
      have hm : d ∈ "method".toList := hword ▸ List.mem_append_right _ List.mem_cons_self
      exact sign_notMem (by decide) hd hm

theorem text_not_startsWith {s : Text} (h : s.head? = some '/' ∨ s.head? = some '#') :
    m.text.startsWith s = false := by
  rw [Bool.eq_false_iff]
  intro hs
  obtain ⟨t, ht⟩ := List.isPrefixOf_iff_prefix.1 hs
  cases s with
  | nil => rcases h with h | h <;> cases h
  | cons c s =>
    have hc := m.text_head c (by rw [← ht]; rfl)
    rcases h with h | h
    · cases h
      exact hc.2.1 rfl
    · cases h
      exact hc.2.2 rfl

theorem text_ne : m.text ≠ [] := by
  obtain ⟨begun, d, rest, he, _, _⟩ := m.text_eq
  rw [he]
  exact List.append_ne_nil_of_right_ne_nil _ (List.cons_ne_nil d rest)

theorem not_isIdle : isIdle m.line.trim = false := by
  rw [m.trim_line, isIdle, List.isEmpty_eq_false_iff.2 m.text_ne, m.text_not_startsWith (.inl rfl)]
  rfl

/-- A signature ends the body in front of it, unless a triple quote makes it a comment there. -/
theorem isCode_line (hq : m.line.includes Body.tripleQuote = false) :
    Body.isCode false m.line = true := by
  have hs : Body.isStatement m.line = true := by
    rw [Body.isStatement, m.trim_line, List.isEmpty_eq_false_iff.2 m.text_ne,
      m.text_not_startsWith (.inl rfl), m.text_not_startsWith (.inr rfl)]
    rfl
  rw [Body.isCode, Text.includes_trim hq, hs]
  rfl

/-- The method with this signature and the given body. -/
def method (body : List Text) : Method where
  name := m.name
  params := m.params.map ParamText.toParam
  returnType := TypeTable.full.javaName m.returns
  access := m.access
  body := body

theorem read_line {t : Template} {lines body : List Text} {n : Nat}
    (hb : Body.ofProgram v lines = .ok (body, n)) :
    Method.read (Body.ofProgram v) (some t) false m.line lines = .ok (some (m.method body), n) := by
  rw [Method.read, Method.onMember_eq, m.not_isIdle, if_neg Bool.false_ne_true, m.trim_line,
    m.access_parts]
  dsimp only
  rw [MethodReader.regular, Method.reader]
  dsimp only
  rw [m.read?_head]
  dsimp only
  rw [Method.paramsFor]
  exact bind_eq_ok.2 ⟨_, m.readIn_paramsText t, bind_eq_ok.2 ⟨_, hb, rfl⟩⟩

end SignatureText

namespace Body

/-- A statement at or behind a margin that has a Java line. -/
structure Fits (d : Nat) (line : Text) : Prop where
  code : isCode false line = true
  depth : d ≤ line.indent
  converts : ∃ java, entry (Statement.convert .current) line = .ok java

/-- Lines that end a body with the given margin, or no lines. -/
def Ends (d : Nat) (rest : List Text) : Prop :=
  ∀ line ∈ rest.head?, isCode false line = true ∧ line.indent < d

/-- Statements at or behind the margin are read up to a statement in front of it, and what they
give does not depend on the lines from there on. -/
theorem reads_fitting {st : State} {d : Nat} (hd : 4 < d) (lines : List Text)
    (hm : st.margin = some d) (hc : st.inComment = false) (h : ∀ line ∈ lines, Fits d line) :
    ∃ body, ∀ rest, Ends d rest →
      Reads v (Statement.convert .current) st (lines ++ rest) body lines.length := by
  induction lines generalizing st with
  | nil =>
    refine ⟨closers st.openers, ?_⟩
    intro rest hr
    cases rest with
    | nil => exact .finish
    | cons line rest =>
      obtain ⟨hcode, hlt⟩ := hr line rfl
      have ho : isOutside .firstStatement st line = true := by
        rw [isOutside, hm]
        exact decide_eq_true hlt
      apply Reads.stop
      · rw [hc]
        exact hcode
      · rw [ho, Bool.or_true]
  | cons line lines ih =>
    obtain ⟨⟨hcode, hle, java, hj⟩, hlines⟩ := List.forall_mem_cons.1 h
    have ho : isOutside .firstStatement st line = false := by
      rw [isOutside, hm]
      exact decide_eq_false (Nat.not_lt.2 hle)
    have hmargin : (st.enter line java).margin = some d := by
      rw [enter_margin, hm, Option.getD_some]
    obtain ⟨body, hbody⟩ := ih hmargin hc hlines
    refine ⟨closers (st.openers.takeWhile (line.indent ≤ ·)) ++ [java] ++ body, ?_⟩
    intro rest hr
    apply Reads.enter _ _ hj (hbody rest hr)
    · rw [hc]
      exact hcode
    · rw [ho, Bool.or_false]
      exact endsBody_of_indent (Nat.lt_of_lt_of_le hd hle)

theorem ofProgram_block {first : Text} {others : List Text} (hd : 4 < first.indent)
    (h : ∀ line ∈ first :: others, Fits first.indent line) :
    ∃ body, ∀ rest, Ends first.indent rest →
      ofProgram v (first :: others ++ rest) = .ok (body, others.length + 1) := by
  obtain ⟨⟨hcode, _, java, hj⟩, hothers⟩ := List.forall_mem_cons.1 h
  have hmargin : (State.enter {} first java).margin = some first.indent := rfl
  obtain ⟨body, hbody⟩ := reads_fitting (v := v) hd others hmargin rfl hothers
  refine ⟨[java] ++ body, ?_⟩
  intro rest hr
  have hstays : (endsBody v first || isOutside .firstStatement {} first) = false := by
    rw [isOutside_of_margin_none rfl, Bool.or_false]
    exact endsBody_of_indent hd
  exact (Reads.enter hcode hstays hj (hbody rest hr)).readFrom_eq

end Body

/-- A method as it is written: a signature, and deeper under it the statements of its body. -/
structure MethodText where
  signature : SignatureText
  first : Text
  others : List Text
  inside : 8 < first.indent
  fits : ∀ line ∈ first :: others, Body.Fits first.indent line

namespace MethodText

def block (m : MethodText) : List Text := m.first :: m.others

def lines (m : MethodText) : List Text := m.signature.line :: m.block

/-- The method that is written, with the body that its statements give alone. -/
def Gives (v : Vocabulary) (m : MethodText) (method : Method) : Prop :=
  ∃ body, Body.ofProgram v m.block = .ok (body, m.block.length) ∧ method = m.signature.method body

theorem exists_body (v : Vocabulary) (m : MethodText) :
    ∃ body, ∀ rest, Body.Ends m.first.indent rest →
      Body.ofProgram v (m.block ++ rest) = .ok (body, m.block.length) :=
  Body.ofProgram_block (Nat.lt_trans (by decide) m.inside) m.fits

theorem ends_lines {members : List MethodText} {d : Nat} (hd : 8 < d)
    (hq : ∀ m ∈ members, m.signature.line.includes Body.tripleQuote = false) :
    Body.Ends d (members.flatMap lines) := by
  intro line hl
  cases members with
  | nil => cases hl
  | cons m members =>
    cases hl
    refine ⟨m.signature.isCode_line (hq m List.mem_cons_self), ?_⟩
    rw [m.signature.indent_line]
    exact hd

end MethodText

namespace TemplateRules

theorem staticVarSections_contains {name : Text} (h : name ≠ word ++ " vars".toList)
    (hshared : (["template vars", "static vars", "class vars"] : List Text).contains name = false) :
    (Vocabulary.staticVarSections word).contains name = false := by
  rw [Vocabulary.staticVarSections, List.contains_cons, beq_eq_false_iff_ne.2 h]
  exact hshared

theorem sectionKind?_instanceMethods (hw : word ≠ "instance") :
    sectionKind? v word "instance methods" = some .instanceMethods := by
  have hvars : (Vocabulary.staticVarSections word).contains "instance methods".toList = false := by
    apply staticVarSections_contains _ (by decide)
    intro h
    have hs : " vars".toList <:+ "instance methods".toList := ⟨word, h.symm⟩
    exact absurd hs (by decide)
  have hmethods :
      (Vocabulary.staticMethodSections word).contains "instance methods".toList = false := by
    have hne : "instance methods".toList ≠ word ++ " methods".toList := by
      intro h
      have hs : "instance".toList ++ " methods".toList = word ++ " methods".toList := h
      exact hw (List.append_cancel_right hs).symm
    rw [Vocabulary.staticMethodSections, List.contains_cons, beq_eq_false_iff_ne.2 hne]
    decide
  have hkind : memberKind? (Vocabulary.staticVarSections word)
      (Vocabulary.staticMethodSections word) v.abstractSections "instance methods".toList =
      some .instanceMethods := by
    rw [memberKind?, hvars, hmethods]
    rfl
  rw [sectionKind?, hkind]

theorem not_ends_signature (hv : v.Ordinary) (m : SignatureText) :
    (current v word).ends m.line m.line.trim = .ok false := by
  have hmain : (m.text == "main".toList) = false := beq_eq_false_iff_ne.2 m.text_ne_main
  rw [m.trim_line, ends_current, Vocabulary.endsTemplate, m.not_opensTemplate hv, hmain,
    m.not_startsWith_method, Bool.or_self, Bool.or_self, Bool.and_false]

theorem not_heading_signature (m : SignatureText) :
    (current v word).heading? m.line m.line.trim = none := by
  rw [current]
  dsimp only
  rw [m.indent_line, if_neg (fun h => absurd h.2 (by decide)), Template.headingAtFour?,
    m.indent_line, if_neg]
  rw [Bool.and_eq_true_iff]
  exact fun h => absurd h.2 (by decide)

end TemplateRules

namespace Template

theorem readMember_signature {t : Template} {lines body : List Text} {n : Nat} (m : SignatureText)
    (hw : word ≠ "instance") (hb : Body.ofProgram v lines = .ok (body, n)) :
    readMember (.current v word) t (some "instance methods") m.line lines =
      .ok ({ t with instanceMethods := t.instanceMethods ++ [m.method body] }, n) := by
  have hkind : (TemplateRules.current v word).kind? (some "instance methods") 8 =
      some .instanceMethods := TemplateRules.sectionKind?_instanceMethods hw
  rw [readMember, m.indent_line, hkind]
  exact bind_eq_ok.2 ⟨_, m.read_line hb, rfl⟩

theorem takes_methods (hv : v.Ordinary) (hw : word ≠ "instance") (t : Template)
    (members : List MethodText)
    (hq : ∀ m ∈ members.tail, m.signature.line.includes Body.tripleQuote = false) :
    ∃ methods, List.Forall₂ (MethodText.Gives v) members methods ∧
      Takes (.current v word) t (some "instance methods") (members.flatMap MethodText.lines)
        { t with instanceMethods := t.instanceMethods ++ methods }
        (members.flatMap MethodText.lines).length := by
  induction members generalizing t with
  | nil =>
    refine ⟨[], .nil, ?_⟩
    rw [List.append_nil]
    exact .finish
  | cons m members ih =>
    rw [List.tail_cons] at hq
    obtain ⟨body, hbody⟩ := m.exists_body v
    have halone : Body.ofProgram v m.block = .ok (body, m.block.length) := by
      have hnil := hbody [] (fun line hl => by cases hl)
      rw [List.append_nil] at hnil
      exact hnil
    have hread := hbody _ (MethodText.ends_lines m.inside hq)
    obtain ⟨methods, hgives, htakes⟩ :=
      ih { t with instanceMethods := t.instanceMethods ++ [m.signature.method body] }
        (fun m hm => hq m (List.mem_of_mem_tail hm))
    refine ⟨m.signature.method body :: methods, .cons ⟨body, halone, rfl⟩ hgives, ?_⟩
    rw [List.append_assoc, List.singleton_append] at htakes
    rw [List.flatMap_cons, MethodText.lines, List.cons_append, List.length_cons, List.length_append,
      Nat.add_comm m.block.length]
    apply Takes.member m.signature.not_isIdle (TemplateRules.not_ends_signature hv m.signature)
      (TemplateRules.not_heading_signature m.signature) (readMember_signature m.signature hw hread)
    rw [List.drop_left]
    exact htakes

end Template

namespace Program

/-- A template with a section of methods, one under another, has exactly these methods, in their
order: names, access, parameters and return types as they are written, and for each the body that
its own statements give. Behind the first method, a triple quote in a signature would begin a
comment in the body in front of it. -/
theorem templateAt_of_methods (v : Vocabulary) (header name : Text) (members : List MethodText)
    (hv : v.Ordinary) (hn : v.templateName? header.trim = some name)
    (hq : ∀ m ∈ members.tail, m.signature.line.includes Body.tripleQuote = false) :
    let lines := header :: "    instance methods:".toList :: members.flatMap MethodText.lines
    ∃ methods, List.Forall₂ (MethodText.Gives v) members methods ∧
      templateAt v lines 0 =
        some (.ok ({ Template.ofHeader name (Header.read v header.trim) with
          instanceMethods := methods }, lines.length)) := by
  intro lines
  obtain ⟨methods, hgives, htakes⟩ := Template.takes_methods hv (hv.templateWordIn_ne header)
    (Template.ofHeader name (Header.read v header.trim)) members hq
  refine ⟨methods, hgives, ?_⟩
  rw [templateAt_eq (show lines[0]? = some header from rfl), Option.some.injEq, numbered_eq_ok]
  refine ⟨_, ?_, Nat.add_comm _ 1⟩
  rw [Template.read_of_name hn]
  exact (Template.Takes.enter rfl rfl rfl htakes).readMembers_eq

end Program

namespace MethodText

/-- A public method without parameters and with one statement. -/
def short (name returns first : Text) (hname : name ≠ [] ∧ name.all isWord = true)
    (hreturns : returns ≠ [] ∧ returns.trim = returns) (inside : 8 < first.indent)
    (fits : Body.Fits first.indent first) : MethodText where
  signature :=
    { pad := "        ", access := .pub, gap := " ", name, params := [], returns
      pad_blank := rfl, pad_length := rfl, gap_blank := rfl, gap_of_pack := nofun
      name_ne := hname.1, name_word := hname.2
      returns_ne := hreturns.1, returns_trim := hreturns.2 }
  first
  others := []
  inside
  fits := List.forall_mem_singleton.2 fits

def plain : MethodText :=
  short "f" "int" "            x()" (by decide) (by decide) (by decide) ⟨rfl, by decide, _, rfl⟩

/-- A method whose return type has a triple quote. -/
def quoted : MethodText :=
  short "g" "a\"\"\"b" "            y()" (by decide) (by decide) (by decide)
    ⟨rfl, by decide, _, rfl⟩

/-- A method with parameters and with a block in its body. -/
def nested : MethodText where
  signature :=
    { pad := "        ", access := .prot, gap := [], name := "scale"
      params :=
        [⟨"int", "by", ⟨by decide, by decide, rfl⟩, ⟨by decide, by decide, rfl⟩⟩,
          ⟨"String", "unit", ⟨by decide, by decide, rfl⟩, ⟨by decide, by decide, rfl⟩⟩]
      returns := "void"
      pad_blank := rfl, pad_length := rfl, gap_blank := rfl, gap_of_pack := nofun
      name_ne := by decide, name_word := rfl, returns_ne := by decide, returns_trim := rfl }
  first := "            if by > 0"
  others := ["                print unit"]
  inside := by decide
  fits := List.forall_mem_cons.2
    ⟨⟨rfl, by decide, _, rfl⟩, List.forall_mem_singleton.2 ⟨rfl, by decide, _, rfl⟩⟩

end MethodText

namespace Program

open MethodText

theorem templateAt_of_quoted_nested_plain :
    [quoted, nested, plain].flatMap lines = ["        * g() returns a\"\"\"b", "            y()",
      "        +scale(int by, String unit) returns void", "            if by > 0",
      "                print unit", "        * f() returns int", "            x()"] ∧
    ∃ methods, List.Forall₂ (MethodText.Gives .standard) [quoted, nested, plain] methods ∧
      templateAt Vocabulary.standard ("template A" :: "    instance methods:" ::
        [quoted, nested, plain].flatMap lines) 0 =
        some (.ok ({ name := "A", instanceMethods := methods }, 9)) := by
  refine ⟨by decide +kernel, ?_⟩
  have hq : ∀ m ∈ [nested, plain], m.signature.line.includes Body.tripleQuote = false :=
    List.forall_mem_cons.2 ⟨rfl, List.forall_mem_singleton.2 rfl⟩
  exact templateAt_of_methods .standard "template A" "A" [quoted, nested, plain] (by decide) rfl hq

theorem method_lost_in_comment :
    let text : List Text :=
      "template A" :: "    instance methods:" :: [plain, quoted].flatMap lines
    templateAt Vocabulary.standard text 0 = some (.ok ({ name := "A", instanceMethods := [
        plain.signature.method ["x();", "* g() returns a;", "/* b", "   y()"]] }, 6)) ∧
      ¬ ∃ methods, List.Forall₂ (MethodText.Gives .standard) [plain, quoted] methods ∧
        templateAt Vocabulary.standard text 0 =
          some (.ok ({ name := "A", instanceMethods := methods }, 6)) := by
  intro text
  have hlost : templateAt Vocabulary.standard text 0 = some (.ok ({
      name := "A"
      instanceMethods := [plain.signature.method
        ["x();", "* g() returns a;", "/* b", "   y()"]] }, 6)) := by
    decide +kernel
  refine ⟨hlost, ?_⟩
  rintro ⟨methods, hgives, hread⟩
  rw [hlost] at hread
  cases hread
  have hl := hgives.length_eq
  cases hl

end Program

end JavaSketch
