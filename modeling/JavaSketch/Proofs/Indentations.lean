import JavaSketch.Proofs.Locality
import Mathlib.Data.List.Forall2

namespace JavaSketch

namespace Vocabulary

/-- A text that ends bodies at one indentation or another: `main`, the opening of a template, or the
heading of a section. -/
def isBoundary (v : Vocabulary) (s : Text) : Bool :=
  s == "main".toList || v.opensTemplate s ||
    (s.endsWith ":" && ("main".toList :: v.memberSections).contains (Text.trim s.dropLast))

theorem isBoundary_eq_true_iff {v : Vocabulary} {s : Text} :
    v.isBoundary s = true ↔ ∃ indent, v.endsBody s indent = true := by
  simp only [isBoundary, endsBody, Synonyms.isHeadingOrMain, isHeading, opensOuter,
    Bool.or_eq_true, Bool.and_eq_true, beq_iff_eq]
  constructor
  · rintro ((hm | ht) | ⟨hc, hs⟩)
    · exact ⟨4, .inl (.inl ⟨hm, rfl⟩)⟩
    · exact ⟨0, .inr ⟨rfl, .inl ht⟩⟩
    · exact ⟨4, .inl (.inr ⟨⟨hc, rfl⟩, hs⟩)⟩
  · rintro ⟨indent, (⟨hm, _⟩ | ⟨⟨hc, _⟩, hs⟩) | ⟨_, ht | hm⟩⟩
    · exact .inl (.inl hm)
    · exact .inr ⟨hc, hs⟩
    · exact .inl (.inr ht)
    · exact .inl (.inl hm)

end Vocabulary

namespace Body

variable {v : Vocabulary} {convert : Text → Except Fault Text} {R : Nat → Nat → Prop}
  {st other : State} {line line' java : Text} {lines lines' : List Text}
  {openers openers' : List Nat} {a b : Nat}

/-- Related indentations are ordered alike. -/
def OrderedAlike (R : Nat → Nat → Prop) : Prop :=
  ∀ {a b c d : Nat}, R a b → R c d → (a ≤ c ↔ b ≤ d)

/-- Both states have seen related indentations at the same places. -/
structure State.Alike (R : Nat → Nat → Prop) (st other : State) : Prop where
  margin : Option.Rel R st.margin other.margin
  openers : List.Forall₂ R st.openers other.openers
  inComment : other.inComment = st.inComment

/-- Lines with the same trimmed text, which have related indentations and go on with a body unless
they are blank. -/
structure LineAlike (v : Vocabulary) (R : Nat → Nat → Prop) (line line' : Text) : Prop where
  text : line'.trim = line.trim
  indent : line.trim ≠ [] → R line.indent line'.indent
  stays : line.trim ≠ [] → v.isBoundary line.trim = false

theorem openers_alike (hR : OrderedAlike R) (h : List.Forall₂ R openers openers') (hab : R a b) :
    List.Forall₂ R (openers.takeWhile (a ≤ ·)) (openers'.takeWhile (b ≤ ·)) ∧
      List.Forall₂ R (openers.dropWhile (a ≤ ·)) (openers'.dropWhile (b ≤ ·)) := by
  induction h with
  | nil => exact ⟨.nil, .nil⟩
  | @cons c d openers openers' hcd hrest ih =>
    have hle : a ≤ c ↔ b ≤ d := hR hab hcd
    by_cases hc : a ≤ c
    · have hd := hle.1 hc
      rw [List.takeWhile_cons_of_pos (by simpa using hc), List.takeWhile_cons_of_pos
        (by simpa using hd), List.dropWhile_cons_of_pos (by simpa using hc),
        List.dropWhile_cons_of_pos (by simpa using hd)]
      exact ⟨.cons hcd ih.1, ih.2⟩
    · have hd := mt hle.2 hc
      rw [List.takeWhile_cons_of_neg (by simpa using hc), List.takeWhile_cons_of_neg
        (by simpa using hd), List.dropWhile_cons_of_neg (by simpa using hc),
        List.dropWhile_cons_of_neg (by simpa using hd)]
      exact ⟨.nil, .cons hcd hrest⟩

theorem closers_alike (h : List.Forall₂ R openers openers') :
    closers openers' = closers openers := by
  rw [closers, closers, List.map_const', List.map_const', h.length_eq]

namespace State.Alike

theorem isOutside_eq (hR : OrderedAlike R) (h : State.Alike R st other)
    (hi : R line.indent line'.indent) :
    isOutside .firstStatement other line' = isOutside .firstStatement st line := by
  rw [isOutside, isOutside, decide_eq_decide]
  generalize hm : st.margin = margin
  generalize hm' : other.margin = margin'
  have hrel := h.margin
  rw [hm, hm'] at hrel
  cases hrel with
  | none => exact iff_of_false (Nat.lt_irrefl _) (Nat.lt_irrefl _)
  | some hab =>
    rw [Option.getD_some, Option.getD_some, ← Nat.not_le, ← Nat.not_le, hR hab hi]

theorem enter (hR : OrderedAlike R) (h : State.Alike R st other)
    (hi : R line.indent line'.indent) (java : Text) :
    State.Alike R (st.enter line java) (other.enter line' java) where
  margin := by
    rw [enter_margin, enter_margin]
    apply Option.Rel.some
    generalize hm : st.margin = margin
    generalize hm' : other.margin = margin'
    have hrel := h.margin
    rw [hm, hm'] at hrel
    cases hrel with
    | none => exact hi
    | some hab => exact hab
  openers := by
    rw [enter_openers, enter_openers]
    have hinside := (openers_alike hR h.openers hi).2
    split_ifs
    · exact .cons hi hinside
    · exact hinside
  inComment := h.inComment

theorem pass (h : State.Alike R st other) (inComment : Bool) :
    State.Alike R { st with inComment } { other with inComment } where
  margin := h.margin
  openers := h.openers
  inComment := rfl

end State.Alike

namespace LineAlike

theorem isCode_eq (h : LineAlike v R line line') (inComment : Bool) :
    isCode inComment line' = isCode inComment line := by
  simp only [isCode, isStatement, h.text]

theorem entry_eq (h : LineAlike v R line line') (convert : Text → Except Fault Text) :
    entry convert line' = entry convert line := by
  rw [entry, entry, isStatement, isStatement, h.text]

theorem not_endsBody (h : LineAlike v R line line') (hs : line.trim ≠ []) :
    endsBody v line = false ∧ endsBody v line' = false := by
  have hends (indent : Nat) : v.endsBody line.trim indent = false := by
    rw [Bool.eq_false_iff]
    intro he
    have hb := Vocabulary.isBoundary_eq_true_iff.2 ⟨indent, he⟩
    rw [h.stays hs] at hb
    cases hb
  rw [endsBody, endsBody, h.text]
  exact ⟨hends _, hends _⟩

end LineAlike

theorem trim_ne_nil_of_isCode {inComment : Bool} (hc : isCode inComment line = true) :
    line.trim ≠ [] := by
  intro he
  simp [isCode, isStatement, he] at hc

/-- From states with related indentations, lines with related indentations are read alike. -/
theorem readFrom_alike (hR : OrderedAlike R) (h : List.Forall₂ (LineAlike v R) lines lines')
    (hst : State.Alike R st other) :
    readFrom (.current v) convert other lines' = readFrom (.current v) convert st lines := by
  induction h generalizing st other with
  | nil => rw [readFrom_end, readFrom_end, closers_alike hst.openers]
  | @cons line line' rest rest' hl _ ih =>
    cases hc : isCode st.inComment line with
    | false => exact readFrom_congr_of_not_isCode hst.inComment hl.text hc (ih (hst.pass _))
    | true =>
      have hs := trim_ne_nil_of_isCode hc
      have hi := hl.indent hs
      obtain ⟨he, he'⟩ := hl.not_endsBody hs
      have hc' : isCode other.inComment line' = true := by
        rw [hst.inComment, hl.isCode_eq, hc]
      have hleft := closers_alike (openers_alike hR hst.openers hi).1
      have hrest (java : Text) := ih (hst.enter hR hi java)
      simp only [readFrom_of_isCode hc, readFrom_of_isCode hc', he, he', hst.isOutside_eq hR hi,
        hl.entry_eq, hleft, hrest, closers_alike hst.openers]

/-- Two texts with the same trimmed lines, in which the indentations of the lines that are not blank
are ordered alike. -/
structure IndentedAlike (lines lines' : List Text) : Prop where
  length : lines.length = lines'.length
  text : ∀ p ∈ lines.zip lines', p.1.trim = p.2.trim
  order : ∀ p ∈ lines.zip lines', ∀ q ∈ lines.zip lines', p.1.trim ≠ [] → q.1.trim ≠ [] →
    (p.1.indent ≤ q.1.indent ↔ p.2.indent ≤ q.2.indent)

/-- The indentations of two lines that stand at the same place of two texts. -/
def Indents (lines lines' : List Text) (a b : Nat) : Prop :=
  ∃ p ∈ lines.zip lines', p.1.trim ≠ [] ∧ p.1.indent = a ∧ p.2.indent = b

namespace IndentedAlike

theorem orderedAlike (h : IndentedAlike lines lines') : OrderedAlike (Indents lines lines') := by
  rintro a b c d ⟨p, hp, hpne, rfl, rfl⟩ ⟨q, hq, hqne, rfl, rfl⟩
  exact h.order p hp q hq hpne hqne

theorem lines_alike (h : IndentedAlike lines lines')
    (hstays : ∀ line ∈ lines, line.trim ≠ [] → v.isBoundary line.trim = false) :
    List.Forall₂ (LineAlike v (Indents lines lines')) lines lines' := by
  rw [List.forall₂_iff_zip]
  refine ⟨h.length, ?_⟩
  intro line line' hp
  exact ⟨(h.text _ hp).symm, fun hs => ⟨_, hp, hs, rfl, rfl⟩,
    hstays line (List.of_mem_zip hp).1⟩

end IndentedAlike

/-- Only the order of the indentations matters: a body is the same in every text with the same
trimmed lines in which the indentations are ordered alike, if no line is `main`, opens a template or
is the heading of a section. -/
theorem readAt_of_indentedAlike (v : Vocabulary) (lines lines' : List Text) (i : Nat)
    (h : IndentedAlike lines lines')
    (hstays : ∀ line ∈ lines, line.trim ≠ [] → v.isBoundary line.trim = false) :
    readAt v lines i = readAt v lines' i := by
  have hlines := List.forall₂_drop i (h.lines_alike hstays)
  have hread : ofProgram v (lines'.drop i) = ofProgram v (lines.drop i) :=
    readFrom_alike h.orderedAlike hlines ⟨.none, .nil, rfl⟩
  rw [readAt, readAt, hread]

theorem readAt_of_uneven_indents :
    let lines : List Text := ["f()", "    if a:", "        if b:", "", "      y()", "    z()"]
    let lines' : List Text := ["f()", " if a:", "\t\t\tif b:", " ", "  y()", " z()"]
    let body : List Text := ["if (a) \x7b", "if (b) \x7b", "", "\x7d", "y();", "\x7d", "z();"]
    IndentedAlike lines lines' ∧ readAt .standard lines 1 = .ok (body, 6) ∧
      readAt .standard lines' 1 = .ok (body, 6) := by
  intro lines lines' body
  have halike : IndentedAlike lines lines' := ⟨rfl, by decide +kernel, by decide +kernel⟩
  have hread : readAt .standard lines 1 = .ok (body, 6) := by decide +kernel
  have hsame := readAt_of_indentedAlike .standard lines lines' 1 halike (by decide +kernel)
  exact ⟨halike, hread, hsame.symm.trans hread⟩

end Body

end JavaSketch
