import JavaSketch.Proofs.Parts
import JavaSketch.Proofs.Readers

namespace JavaSketch

namespace Text

variable {c : Char} {s t pad line line' p : Text}

theorem takeWhile_blank_append (h : s.trim ≠ []) (t : Text) :
    (s ++ t).takeWhile isBlank = s.takeWhile isBlank := by
  obtain ⟨c, hc, hb⟩ := exists_of_trim_ne_nil h
  have hne : (s.takeWhile isBlank).length ≠ s.length := by
    intro hl
    have hself := (List.takeWhile_prefix isBlank).eq_of_length hl
    have hall := List.takeWhile_eq_self_iff.1 hself c hc
    rw [hall] at hb
    cases hb
  rw [List.takeWhile_append, if_neg hne]

theorem trimRight_append_left (h : t.trim ≠ []) (s : Text) :
    (s ++ t).trimRight = s ++ t.trimRight := by
  obtain ⟨c, hc, hb⟩ := exists_of_trim_ne_nil h
  have hne : (t.reverse.dropWhile isBlank).isEmpty ≠ true := by
    rw [Ne, List.isEmpty_iff, List.dropWhile_eq_nil_iff]
    intro hall
    rw [hall c (List.mem_reverse.2 hc)] at hb
    cases hb
  rw [trimRight, dropEndWhile, List.reverse_append, List.dropWhile_append, if_neg hne,
    List.reverse_append, List.reverse_reverse, trimRight, dropEndWhile]

theorem splitAt_append_cons (c : Char) (s t : Text) :
    splitAt c (s ++ c :: t) = splitAt c s ++ splitAt c t := by
  induction s with
  | nil => exact if_pos rfl
  | cons d s ih =>
    rw [List.cons_append, splitAt, splitAt]
    by_cases hd : d = c
    · rw [if_pos hd, if_pos hd, ih]
      rfl
    · rw [if_neg hd, if_neg hd, ih]
      cases hs : splitAt c s with
      | nil => exact absurd hs (splitAt_ne_nil c s)
      | cons piece pieces => rfl

theorem lines_joined (s t : Text) : lines (s ++ '\n' :: t) = s.lines ++ t.lines :=
  splitAt_append_cons '\n' s t

theorem trim_joined (hs : s.trim ≠ []) (ht : t.trim ≠ []) :
    trim (s ++ '\n' :: t) = s.trimLeft ++ '\n' :: t.trimRight := by
  rw [trim, trimLeft_append hs, List.append_cons, trimRight_append_left ht, ← List.append_cons]

theorem firstLine_isPrefix (s : Text) : s.lines.headD [] <+: s := by
  induction s with
  | nil => exact List.prefix_refl []
  | cons d s ih =>
    rw [lines] at ih
    rw [lines, splitAt]
    by_cases hd : d = '\n'
    · rw [if_pos hd]
      exact List.nil_prefix
    · rw [if_neg hd]
      cases hs : splitAt '\n' s with
      | nil => exact absurd hs (splitAt_ne_nil '\n' s)
      | cons piece pieces =>
        rw [hs] at ih
        exact List.cons_prefix_cons.2 ⟨rfl, ih⟩

theorem trimLeft_of_indent (hs : (s.lines.headD []).trim ≠ []) (h : (s.lines.headD []).indent = 0) :
    s.trimLeft = s := by
  obtain ⟨rest, hrest⟩ := s.firstLine_isPrefix
  cases hf : s.lines.headD [] with
  | nil =>
    rw [hf] at hs
    exact absurd rfl hs
  | cons d first =>
    have hd : isBlank d = false := by
      rw [Bool.eq_false_iff]
      intro hd
      rw [hf, indent, List.takeWhile_cons_of_pos hd] at h
      cases h
    rw [hf] at hrest
    apply trimLeft_of_head
    rw [← hrest]
    exact head_cons hd

theorem not_startsWith_of_indent (h : s.indent = 0) (hc : isBlank c = true) :
    s.startsWith (c :: p) = false := by
  cases s with
  | nil => rfl
  | cons d s =>
    have hd : isBlank d ≠ true := by
      intro hd
      rw [indent, List.takeWhile_cons_of_pos hd] at h
      cases h
    have hcd : (c == d) = false := by
      rw [beq_eq_false_iff_ne]
      rintro rfl
      exact hd hc
    rw [startsWith, List.isPrefixOf, hcd, Bool.false_and]

theorem not_indented_of_indent (h : s.indent = 0) :
    s.startsWith "    " = false ∧ s.startsWith "\t" = false :=
  ⟨not_startsWith_of_indent h rfl, not_startsWith_of_indent h rfl⟩

/-- The second line is the first one with blanks behind it. -/
def Alike (line line' : Text) : Prop :=
  ∃ pad : Text, (∀ c ∈ pad, isBlank c = true) ∧ line' = line ++ pad

namespace Alike

theorem refl (line : Text) : Alike line line :=
  ⟨[], List.forall_mem_nil _, (List.append_nil line).symm⟩

theorem cons (h : Alike line line') (c : Char) : Alike (c :: line) (c :: line') := by
  obtain ⟨pad, hp, rfl⟩ := h
  exact ⟨pad, hp, rfl⟩

theorem trim_eq (h : Alike line line') : line'.trim = line.trim := by
  obtain ⟨pad, hp, rfl⟩ := h
  exact trim_append_right hp

theorem indent_eq (h : Alike line line') (hs : line.trim ≠ []) : line'.indent = line.indent := by
  obtain ⟨pad, -, rfl⟩ := h
  rw [indent, takeWhile_blank_append hs, indent]

theorem startsWith_eq (h : Alike line line') (hs : line.trim ≠ [])
    (hp : p.all isBlank = true) : line'.startsWith p = line.startsWith p := by
  obtain ⟨pad, -, rfl⟩ := h
  obtain ⟨c, hc, hb⟩ := exists_of_trim_ne_nil hs
  rw [Bool.eq_iff_iff, startsWith, startsWith, List.isPrefixOf_iff_prefix,
    List.isPrefixOf_iff_prefix]
  constructor
  · intro h
    rcases List.prefix_or_prefix_of_prefix h (List.prefix_append line pad) with hpl | hlp
    · exact hpl
    · rw [List.all_eq_true.1 hp c (hlp.subset hc)] at hb
      cases hb
  · intro h
    exact h.trans (List.prefix_append line pad)

end Alike

end Text

/-- The second list is the first one, up to blanks at the ends of lines, with further lines behind
it: blank ones and then `next`. -/
inductive Extends (next : List Text) : List Text → List Text → Prop
  | reach : Extends next [] next
  | blank {line : Text} {tail : List Text} (blank : line.trim = []) (more : Extends next [] tail) :
    Extends next [] (line :: tail)
  | line {line line' : Text} {lines lines' : List Text} (alike : Text.Alike line line')
    (more : Extends next lines lines') : Extends next (line :: lines) (line' :: lines')

section Readers

variable {α : Type} {next lines lines' : List Text} {s pad : Text}

theorem extends_blanks {blanks : List Text} (h : ∀ line ∈ blanks, line.trim = []) :
    Extends next [] (blanks ++ next) := by
  induction blanks with
  | nil => exact .reach
  | cons line blanks ih =>
    obtain ⟨hl, hr⟩ := List.forall_mem_cons.1 h
    exact .blank hl (ih hr)

theorem extends_lines (hp : ∀ c ∈ pad, isBlank c = true) (s : Text) :
    Extends next s.lines ((s ++ pad).lines ++ next) := by
  induction s with
  | nil =>
    have hb : ∀ line ∈ pad.lines, ∀ c ∈ line, isBlank c = true := by
      intro line hl c hc
      exact hp c ((Text.infix_of_mem_splitAt hl).subset hc)
    rw [List.nil_append]
    cases hl : pad.lines with
    | nil => exact absurd hl (Text.splitAt_ne_nil '\n' pad)
    | cons first rest =>
      rw [hl] at hb
      obtain ⟨hf, hr⟩ := List.forall_mem_cons.1 hb
      refine .line ⟨first, hf, rfl⟩ (extends_blanks fun line hl => ?_)
      exact Text.trim_append_right (s := []) (hr line hl)
  | cons d s ih =>
    rw [Text.lines] at ih ⊢
    rw [List.cons_append, Text.lines, Text.splitAt, Text.splitAt]
    by_cases hd : d = '\n'
    · rw [if_pos hd, if_pos hd]
      exact .line (.refl []) ih
    · rw [if_neg hd, if_neg hd]
      rw [Text.lines] at ih
      cases hs : Text.splitAt '\n' s with
      | nil => exact absurd hs (Text.splitAt_ne_nil '\n' s)
      | cons piece pieces =>
        cases hsp : Text.splitAt '\n' (s ++ pad) with
        | nil => exact absurd hsp (Text.splitAt_ne_nil '\n' (s ++ pad))
        | cons piece' pieces' =>
          rw [hs, hsp] at ih
          cases ih with
          | line alike more => exact .line (alike.cons d) more

/-- With more lines behind its own, the reader gives the same, and stops where it has reached at
most the lines in between. -/
def Continues (next : List Text) (read : List Text → Except Fault (α × Nat)) : Prop :=
  ∀ ⦃lines lines' : List Text⦄ ⦃a : α⦄ ⦃n : Nat⦄, Extends next lines lines' →
    read lines = .ok (a, n) →
    ∃ m, read lines' = .ok (a, m) ∧ Extends next (lines.drop n) (lines'.drop m)

theorem Continues.compositional : Compositional fun {_} => Continues next where
  const {α x} h lines lines' a n hx ha := by
    obtain rfl := h a n ha
    exact ⟨0, ha, hx⟩
  bind {α β x read} h lines lines' a n hx ha := by
    obtain ⟨b, hb, ha⟩ := bind_eq_ok.1 ha
    obtain ⟨m, hm, hx⟩ := h b hx ha
    exact ⟨m, bind_eq_ok.2 ⟨b, hb, hm⟩, hx⟩
  andThen {α β read f g} h hf lines lines' a n hx ha := by
    obtain ⟨⟨b, k⟩, hb, ha⟩ := bind_eq_ok.1 ha
    rw [hf] at ha
    cases ha
    obtain ⟨m, hm, hx⟩ := h hx hb
    exact ⟨m, bind_eq_ok.2 ⟨(b, m), hm, hf b m⟩, hx⟩

end Readers

namespace Body

variable {r : BodyRules} {convert : Text → Except Fault Text} {st : State} {line line' first : Text}
  {rest : List Text}

theorem ends_alike (h : Text.Alike line line') (hs : line.trim ≠ []) :
    StopsAt r st line' ↔ StopsAt r st line := by
  have ho : isOutside r.margin st line' = isOutside r.margin st line := by
    cases hm : r.margin with
    | firstStatement => rw [isOutside, isOutside, h.indent_eq hs]
    | fourSpaces =>
      rw [isOutside, isOutside, h.startsWith_eq hs rfl, h.startsWith_eq hs rfl]
  rw [StopsAt, StopsAt, h.trim_eq, h.indent_eq hs, ho]

/-- Blanks at the end of a line mean nothing. -/
theorem step_alike (hr : r.IsPlain) (hc : st.inComment = false) (h : Text.Alike line line') :
    step r convert st line' = step r convert st line := by
  by_cases hs : line.trim = []
  · rw [step_blankLine hr hc hs, step_blankLine hr hc (h.trim_eq.trans hs)]
  have hs' : line'.trim ≠ [] := by
    rw [h.trim_eq]
    exact hs
  by_cases he : StopsAt r st line
  · rw [step_ends hr hc hs he, step_ends hr hc hs' ((ends_alike h hs).2 he)]
  · rw [step_statement hr hc hs he, step_statement hr hc hs' (mt (ends_alike h hs).1 he), h.trim_eq]
    simp only [State.afterStatement, h.indent_eq hs]

theorem readFrom_continues (hr : r.IsPlain) (hc : st.inComment = false) (hf : first.trim ≠ [])
    (he : ∀ st, StopsAt r st first) : Continues (first :: rest) (readFrom r convert st) := by
  intro lines lines' body n hx h
  induction hx generalizing st body n with
  | reach =>
    obtain ⟨rfl, rfl⟩ := readFrom_nil h
    exact ⟨0, readFrom_stop (step_ends hr hc hf (he st)), .reach⟩
  | blank hb more ih =>
    obtain ⟨m, hm, hx⟩ := ih hc h
    rw [List.drop_nil] at hx ⊢
    refine ⟨m + 1, ?_, hx⟩
    rw [readFrom_emit (step_blankLine hr hc hb), hm]
    rfl
  | line alike more ih =>
    rcases readFrom_cons h with ⟨hs, rfl, rfl⟩ | ⟨entries, next, tail, k, hs, ht, rfl, rfl⟩
    · rw [← step_alike hr hc alike] at hs
      exact ⟨0, readFrom_stop hs, .line alike more⟩
    · obtain ⟨m, hm, hx⟩ := ih (inComment_of_step hr hc hs) ht
      rw [← step_alike hr hc alike] at hs
      refine ⟨m + 1, ?_, hx⟩
      rw [readFrom_emit hs, hm]
      rfl

end Body

theorem Template.isUnindented_of_trim {line : Text} (h : line.trim ≠ []) :
    isUnindented line = (!line.startsWith "    " && !line.startsWith "\t") := by
  cases line with
  | nil => exact absurd rfl h
  | cons c line => rfl

theorem TemplateRules.memberKind?_ne_main {vars methods abstracts : List Text} {name : Text} :
    memberKind? vars methods abstracts name ≠ some .main := by
  rw [memberKind?]
  split_ifs <;> simp

theorem Vocabulary.opensTemplate_nil (v : Vocabulary) : v.opensTemplate [] = false := by
  have hn : v.templateName? [] = none := by
    rw [templateName?, List.findSome?_eq_none_iff]
    intro word _
    cases word with
    | nil => rfl
    | cons c word => rfl
  rw [opensTemplate, hn]
  rfl

theorem Vocabulary.opensTemplate_trim (v : Vocabulary) (line : Text) :
    v.opensTemplate line.trim = v.opensTemplate line := by
  rw [opensTemplate, opensTemplate, templateName?, templateName?, Text.trim_trim]

namespace Edition

/-- Every part that is open ends at the line. -/
structure Outer (e : Edition) (first : Text) : Prop where
  idle : isIdle first.trim = false
  template : e.endsTemplate first first.trim = true
  body : ∀ st, Body.StopsAt e.bodyRules st first
  main : ∀ st, Body.StopsAt e.mainRules st first

/-- Blank lines and blanks at the ends of lines have no meaning, and a template has no main part of
its own. -/
structure Blind (e : Edition) : Prop where
  body : e.bodyRules.IsPlain
  main : e.mainRules.IsPlain
  opens : e.opensTemplate [] = false
  ends : ∀ {line line' : Text}, Text.Alike line line' → line.trim ≠ [] →
    e.endsTemplate line' line'.trim = e.endsTemplate line line.trim
  heading : ∀ {line line' : Text}, Text.Alike line line' → line.trim ≠ [] →
    e.heading? line' line'.trim = e.heading? line line.trim
  kind : ∀ opening heading indent, e.kind? opening heading indent ≠ some .main

variable {e : Edition} {first line line' opening : Text} {rest lines lines' : List Text}

theorem Outer.ne_nil (hf : e.Outer first) : first.trim ≠ [] := by
  intro h
  have hi := hf.idle
  rw [h] at hi
  cases hi

theorem readBody_continues (hb : e.Blind) (hf : e.Outer first) :
    Continues (first :: rest) e.readBody :=
  Body.readFrom_continues hb.body rfl hf.ne_nil hf.body

theorem readMain_continues (hb : e.Blind) (hf : e.Outer first) :
    Continues (first :: rest) e.readMain :=
  Body.readFrom_continues hb.main rfl hf.ne_nil hf.main

theorem readStandalone_trim (h : line'.trim = line.trim) :
    e.readStandalone line' rest = e.readStandalone line rest := by
  rw [readStandalone, readStandalone, h]

theorem readMember_alike (hb : e.Blind) (h : Text.Alike line line') (hs : line.trim ≠ [])
    (opening : Text) (t : Template) (heading : Option Text) (rest : List Text) :
    Template.readMember (e.templateRules opening) t heading line' rest =
      Template.readMember (e.templateRules opening) t heading line rest := by
  have hfield : ∀ b, e.readField b line' = e.readField b line := by
    intro b
    rw [readField, readField, h.trim_eq]
  have hmethod : ∀ b, e.readMethod (some t) b line' rest = e.readMethod (some t) b line rest := by
    intro b
    rw [readMethod, readMethod, Method.onMember, Method.onMember, h.trim_eq]
  rw [Template.readMember, Template.readMember, h.indent_eq hs]
  cases hk : (e.templateRules opening).kind? heading line.indent with
  | none => rfl
  | some kind =>
    cases kind with
    | staticVars => simp only [templateRules, hfield]
    | instanceVars => simp only [templateRules, hfield]
    | constructors =>
      simp only [templateRules, readConstructor, Method.onMember, h.trim_eq]
    | staticMethods => simp only [templateRules, hmethod]
    | instanceMethods => simp only [templateRules, hmethod]
    | abstractMethods => simp only [templateRules, readAbstract, Method.onMember, h.trim_eq]
    | accessors => simp only [Accessor.read, h.trim_eq]
    | main => exact absurd hk (hb.kind opening heading line.indent)

/-- Behind the last line of the first text, a template only passes over blank lines. -/
theorem takes_between (hf : e.Outer first) {t : Template} {heading : Option Text}
    (hx : Extends (first :: rest) [] lines') :
    ∃ m, Template.Takes (e.templateRules opening) t heading lines' t m ∧
      Extends (first :: rest) [] (lines'.drop m) := by
  generalize hl : ([] : List Text) = lines at hx
  induction hx with
  | reach => exact ⟨0, .stop hf.idle (congrArg Except.ok hf.template), .reach⟩
  | @blank line tail blank more ih =>
    obtain ⟨m, ht, hx⟩ := ih rfl
    have hidle : isIdle line.trim = true := by
      rw [blank]
      rfl
    exact ⟨m + 1, .idle hidle ht, hx⟩
  | line => cases hl

theorem takes_extends (hb : e.Blind) (hf : e.Outer first) {t t' : Template}
    {heading : Option Text} {n : Nat}
    (h : Template.Takes (e.templateRules opening) t heading lines t' n)
    (hx : Extends (first :: rest) lines lines') :
    ∃ m, Template.Takes (e.templateRules opening) t heading lines' t' m ∧
      Extends (first :: rest) (lines.drop n) (lines'.drop m) := by
  have hne : ∀ {line : Text}, isIdle line.trim = false → line.trim ≠ [] := by
    intro line hi hs
    rw [hs] at hi
    cases hi
  induction h generalizing lines' with
  | finish => exact takes_between hf hx
  | idle blank more ih =>
    cases hx with
    | line alike hx =>
      obtain ⟨m, ht, hx⟩ := ih hx
      rw [← alike.trim_eq] at blank
      exact ⟨m + 1, .idle blank ht, hx⟩
  | stop blank ends =>
    cases hx with
    | line alike hx =>
      have hends := congrArg (Except.ok (ε := Fault)) (hb.ends alike (hne blank))
      rw [← alike.trim_eq] at blank
      exact ⟨0, .stop blank (hends.trans ends), .line alike hx⟩
  | enter blank ends opens more ih =>
    cases hx with
    | line alike hx =>
      obtain ⟨m, ht, hx⟩ := ih hx
      have hends := congrArg (Except.ok (ε := Fault)) (hb.ends alike (hne blank))
      have hopens := hb.heading alike (hne blank)
      rw [← alike.trim_eq] at blank
      exact ⟨m + 1, .enter blank (hends.trans ends) (hopens.trans opens) ht, hx⟩
  | @member t u t' heading line rest k n blank ends opens reads more ih =>
    cases hx with
    | line alike hx =>
      rw [← readMember_alike hb alike (hne blank)] at reads
      obtain ⟨k', reads, hx⟩ :=
        Continues.compositional.readMember (readBody_continues hb hf) hb.kind _ _ _ _ hx reads
      obtain ⟨m, ht, hx⟩ := ih hx
      have hends := congrArg (Except.ok (ε := Fault)) (hb.ends alike (hne blank))
      have hopens := hb.heading alike (hne blank)
      rw [← alike.trim_eq] at blank
      refine ⟨m + k' + 1, .member blank (hends.trans ends) (hopens.trans opens) reads ht, ?_⟩
      rw [List.drop_drop, List.drop_drop] at hx
      rw [List.drop_succ_cons, List.drop_succ_cons, Nat.add_comm n, Nat.add_comm m]
      exact hx

theorem readTemplate_continues (hb : e.Blind) (hf : e.Outer first) (line : Text) :
    Continues (first :: rest) (e.readTemplate line) := by
  apply Continues.compositional.bind
  intro name lines lines' t n hx h
  obtain ⟨m, ht, hx⟩ := takes_extends hb hf (Template.takes_of_readMembers h) hx
  exact ⟨m, ht.readMembers_eq, hx⟩

theorem readTemplate_trim (h : line'.trim = line.trim) :
    e.readTemplate line' rest = e.readTemplate line rest := by
  rw [readTemplate, readTemplate, h]

theorem method_eq_readStandalone {method : Text → List Text → Except Fault (Option Method × Nat)}
    {b : Bool} (h : (if b = true then e.programRules.method? else none) = some method) :
    method = e.readStandalone := by
  cases b with
  | false => cases h
  | true =>
    cases hm : e.hasMethods with
    | false => simp [programRules, hm] at h
    | true =>
      simp only [programRules, hm, ↓reduceIte, Option.some.injEq] at h
      exact h.symm

variable {ts ts' : List Template} {bodies bodies' : List (List Text)} {ms ms' : List Method}

theorem parts_between (hb : e.Blind) (hx : Extends (first :: rest) [] lines')
    (hn : Program.Parts e.programRules (first :: rest) ts bodies ms) :
    Program.Parts e.programRules lines' ts bodies ms := by
  generalize hl : ([] : List Text) = lines at hx
  induction hx with
  | reach => exact hn
  | @blank line tail blank more ih =>
    apply Program.Parts.skip
    · rw [blank]
      exact congrArg Except.ok hb.opens
    · rw [blank]
      decide
    · rw [blank]
      rfl
    · exact ih rfl
  | line => cases hl

theorem parts_joined (hb : e.Blind) (hf : e.Outer first)
    (h : Program.Parts e.programRules lines ts bodies ms)
    (hx : Extends (first :: rest) lines lines')
    (hn : Program.Parts e.programRules (first :: rest) ts' bodies' ms') :
    Program.Parts e.programRules lines' (ts ++ ts') (bodies ++ bodies') (ms ++ ms') := by
  induction h generalizing lines' with
  | finish => exact parts_between hb hx hn
  | template opens reads more ih =>
    cases hx with
    | line alike hx =>
      obtain ⟨m, hm, hx⟩ := readTemplate_continues hb hf _ hx reads
      rw [← alike.trim_eq] at opens
      rw [← readTemplate_trim alike.trim_eq] at hm
      exact .template opens hm (ih hx)
  | main opens main reads more ih =>
    cases hx with
    | line alike hx =>
      obtain ⟨m, hm, hx⟩ := readMain_continues hb hf hx reads
      rw [← alike.trim_eq] at opens main
      exact .main opens main hm (ih hx)
  | method opens main found reads more ih =>
    cases hx with
    | line alike hx =>
      obtain rfl := method_eq_readStandalone found
      obtain ⟨m, hm, hx⟩ :=
        Continues.compositional.readStandalone (readBody_continues hb hf) _ hx reads
      rw [← alike.trim_eq] at opens main found
      rw [← readStandalone_trim alike.trim_eq] at hm
      rw [List.append_assoc]
      exact .method opens main found hm (ih hx)
  | skip opens main found more ih =>
    cases hx with
    | line alike hx =>
      rw [← alike.trim_eq] at opens main found
      exact .skip opens main found (ih hx)

variable {v : Vocabulary} {a b : Text} {p q : Program}

theorem openAccessors_blind (v : Vocabulary) : (openAccessors v).Blind where
  body := ⟨rfl, rfl, fun _ _ => ⟨_, rfl⟩⟩
  main := ⟨rfl, rfl, fun _ _ => ⟨_, rfl⟩⟩
  opens := v.opensTemplate_nil
  ends {line line'} h hs := by
    have hs' : line'.trim ≠ [] := by
      rw [h.trim_eq]
      exact hs
    have hu : Template.isUnindented line' = Template.isUnindented line := by
      rw [Template.isUnindented_of_trim hs, Template.isUnindented_of_trim hs',
        h.startsWith_eq hs rfl, h.startsWith_eq hs rfl]
    simp only [openAccessors, inheritance, parameterLists, sectionWords, synonyms, hu, h.trim_eq]
  heading {line line'} h hs := by
    have hh : Template.headingAtFour? line' line'.trim =
        Template.headingAtFour? line line.trim := by
      rw [Template.headingAtFour?, Template.headingAtFour?, h.indent_eq hs, h.trim_eq]
    exact hh
  kind opening heading indent h := by
    have hk : (atEight (wordKind? v.abstractSections (v.templateWordIn opening)) heading indent <|>
      some Section.accessors) = some .main := h
    cases ha : atEight (wordKind? v.abstractSections (v.templateWordIn opening)) heading indent with
    | none =>
      rw [ha] at hk
      cases hk
    | some kind =>
      rw [ha] at hk
      cases hk
      rw [atEight] at ha
      split_ifs at ha
      obtain ⟨name, -, hn⟩ := Option.bind_eq_some_iff.1 ha
      exact TemplateRules.memberKind?_ne_main hn

theorem endsTemplate_eq (v : Vocabulary) (line s : Text) : (openAccessors v).endsTemplate line s =
    (Template.isUnindented line && (v.opensTemplate s || s == "main".toList)) := rfl

theorem isIdle_of_opens {s : Text} (hv : v.SlashFree)
    (ho : v.opensTemplate s = true ∨ s = "main".toList) : isIdle s = false := by
  rcases ho with ho | rfl
  · cases s with
    | nil =>
      rw [v.opensTemplate_nil] at ho
      cases ho
    | cons c s =>
      by_cases hc : c = '/'
      · rw [hc, Vocabulary.opensTemplate, hv.templateName?_slash] at ho
        cases ho
      · have hslash : ('/' == c) = false := beq_eq_false_iff_ne.2 (Ne.symm hc)
        simp [isIdle, Text.startsWith, List.isPrefixOf, hslash]
  · decide

theorem stopsAt_main {first : Text} (hi : first.indent = 0) (st : Body.State) :
    Body.StopsAt (openAccessors v).mainRules st first := by
  obtain ⟨hspaces, htab⟩ := Text.not_indented_of_indent hi
  have hmargin : (openAccessors v).mainRules.margin = .fourSpaces := rfl
  rw [Body.StopsAt, hmargin, Body.isOutside, hspaces, htab]
  exact .inr rfl

/-- A template or a main part at the margin ends whatever is open. -/
theorem openAccessors_outer {first : Text} (hv : v.SlashFree) (hi : first.indent = 0)
    (ho : v.opensTemplate first.trim = true ∨ first.trim = "main".toList) :
    (openAccessors v).Outer first := by
  have hidle := isIdle_of_opens hv ho
  have hne : first.trim ≠ [] := by
    intro h
    rw [h] at hidle
    cases hidle
  obtain ⟨hspaces, htab⟩ := Text.not_indented_of_indent hi
  have hopens : (v.opensTemplate first.trim || first.trim == "main".toList) = true := by
    rw [Bool.or_eq_true, beq_iff_eq]
    exact ho
  constructor
  case idle => exact hidle
  case template =>
    have hu : Template.isUnindented first = true := by
      rw [Template.isUnindented_of_trim hne, hspaces, htab]
      rfl
    rw [endsTemplate_eq, hu, hopens, Bool.and_self]
  case body =>
    intro st
    simp only [Body.StopsAt, openAccessors, inheritance, Vocabulary.opensOuter, hi, hopens,
      beq_self_eq_true, Bool.and_self, Bool.or_true, true_or]
  case main => exact stopsAt_main hi

/-- The first line of the second text, without blanks behind that text, ends whatever is open. -/
theorem outer_trimRight (hv : v.SlashFree) (hi : (b.lines.headD []).indent = 0)
    (ho : v.opensTemplate (b.lines.headD []).trim = true) :
    ∃ first rest, b.trimRight.lines = first :: rest ∧ (openAccessors v).Outer first := by
  obtain ⟨pad, hpad, hb⟩ := b.exists_trimRight
  have hx : Extends [] b.trimRight.lines ((b.trimRight ++ pad).lines ++ []) := extends_lines hpad _
  rw [← hb, List.append_nil] at hx
  cases hl : b.trimRight.lines with
  | nil => exact absurd hl (Text.splitAt_ne_nil '\n' b.trimRight)
  | cons first rest =>
    refine ⟨first, rest, rfl, ?_⟩
    rw [hl] at hx
    generalize b.lines = lines at hx hi ho
    cases hx with
    | line alike more =>
      rw [List.headD_cons] at hi ho
      rw [alike.trim_eq] at ho
      have hne : first.trim ≠ [] := by
        intro h
        rw [h, v.opensTemplate_nil] at ho
        cases ho
      rw [alike.indent_eq hne] at hi
      exact openAccessors_outer hv hi (.inl ho)

/-- Two sketches that are read one by one are read from one text, and their templates and methods
follow one another. -/
theorem read_joined (v : Vocabulary) (a b : Text) (p q : Program) (hv : v.SlashFree)
    (ha : a.trim ≠ []) (hi : (b.lines.headD []).indent = 0)
    (ho : v.opensTemplate (b.lines.headD []) = true) (hp : (openAccessors v).read a = .ok p)
    (hq : (openAccessors v).read b = .ok q) :
    ∃ r, (openAccessors v).read (a ++ '\n' :: b) = .ok r ∧
      r.templates = p.templates ++ q.templates ∧ r.methods = p.methods ++ q.methods := by
  rw [← v.opensTemplate_trim] at ho
  have hfirst : (b.lines.headD []).trim ≠ [] := by
    intro h
    rw [h, v.opensTemplate_nil] at ho
    cases ho
  have hb : b.trim ≠ [] := by
    obtain ⟨c, hc, hblank⟩ := Text.exists_of_trim_ne_nil hfirst
    exact Text.trim_ne_nil (b.firstLine_isPrefix.subset hc) hblank
  have htrim : b.trim = b.trimRight := by
    rw [Text.trim, Text.trimLeft_of_indent hfirst hi]
  obtain ⟨first, rest, hlines, houter⟩ := outer_trimRight hv hi ho
  have hx : Extends (first :: rest) a.trim.lines (Text.trim (a ++ '\n' :: b)).lines := by
    obtain ⟨pad, hpad, hleft⟩ := a.trimLeft.exists_trimRight
    rw [Text.trim_joined ha hb, Text.lines_joined, hlines, hleft]
    exact extends_lines hpad a.trim
  obtain ⟨bodies, hparts⟩ := parts_of_read hp
  obtain ⟨bodies', hparts'⟩ := parts_of_read hq
  rw [htrim, hlines] at hparts'
  exact read_of_parts (parts_joined (openAccessors_blind v) houter hparts hx hparts')

theorem read_joined_of_open_block :
    let a : Text :=
      "method h()\ntemplate A\n    instance methods:\n        f()\n            if x:\n" ++
        "                g() \n\n"
    let b : Text := "blueprint B\n    instance vars:\n        n as int\nmain\nmethod k()"
    ∃ r, (openAccessors .standard).read (a ++ '\n' :: b) = .ok r ∧
      r.templates =
        [{ name := "A"
           instanceMethods := [{ name := "f", body := ["if (x) \x7b", "g();", "\x7d"] }] },
         { name := "B", instanceVars := [⟨"n", "int", .pack, none, false⟩] }] ∧
      r.methods = [{ name := "h", isStatic := true }, { name := "k", isStatic := true }] := by
  intro a b
  let p : Program :=
    { name := "A"
      templates := [{ name := "A", instanceMethods :=
        [{ name := "f", body := ["if (x) \x7b", "g();", "\x7d"] }] }]
      methods := [{ name := "h", isStatic := true }] }
  let q : Program :=
    { name := "B"
      templates := [{ name := "B", instanceVars := [⟨"n", "int", .pack, none, false⟩] }]
      methods := [{ name := "k", isStatic := true }] }
  have hp : (openAccessors .standard).read a = .ok p := by decide +kernel
  have hq : (openAccessors .standard).read b = .ok q := by decide +kernel
  exact read_joined .standard a b p q Vocabulary.standard_slashFree (by decide +kernel)
    (by decide +kernel) (by decide +kernel) hp hq

end Edition

end JavaSketch
