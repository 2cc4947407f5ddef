import JavaSketch.Edition.History
import JavaSketch.Proofs.LeadingComments

namespace JavaSketch

/-- Blank lines and comments have no meaning in these bodies. -/
structure BodyRules.IsPlain (r : BodyRules) : Prop where
  comments : r.comments = .none
  blanks : r.keepsBlanks = false
  decides : ∀ s indent, ∃ ends, r.ends s indent = .ok ends

namespace Body

variable {r : BodyRules} {convert : Text → Except Fault Text} {st next : State} {line : Text}
  {entries : List Text}

/-- A line that is not blank ends the body, whatever has been read before it. -/
def StopsAt (r : BodyRules) (st : State) (line : Text) : Prop :=
  r.ends line.trim line.indent = .ok true ∨ isOutside r.margin st line = true

/-- What has been read behind a statement with the given Java form. -/
def State.afterStatement (r : BodyRules) (st : State) (line java : Text) : State :=
  let inside := st.blocks.leave line.indent
  { st with
    margin := some (st.margin.getD line.indent)
    blocks := if r.closesBlocks && java.endsWith "\x7b" then inside.enter line.indent else inside }

theorem afterStatement_openers (r : BodyRules) (st : State) (line java : Text) :
    (st.afterStatement r line java).openers =
      if r.closesBlocks && java.endsWith "\x7b" then
        line.indent :: st.openers.dropWhile (line.indent ≤ ·)
      else st.openers.dropWhile (line.indent ≤ ·) := by
  rw [State.openers, State.afterStatement]
  cases r.closesBlocks && java.endsWith "\x7b" <;> rfl

theorem not_ends_of_inside (hr : r.IsPlain) (h : ¬StopsAt r st line) :
    r.ends line.trim line.indent = .ok false ∧ isOutside r.margin st line = false := by
  obtain ⟨hends, hout⟩ := not_or.1 h
  obtain ⟨ends, he⟩ := hr.decides line.trim line.indent
  cases ends with
  | true => exact absurd he hends
  | false => exact ⟨he, Bool.eq_false_iff.2 hout⟩

theorem step_blankLine (hr : r.IsPlain) (hc : st.inComment = false) (hl : line.trim = []) :
    step r convert st line = .ok (.emit [] st) := by
  rw [step, hr.comments, hc, hr.blanks]
  simp only [hl, reduceCtorEq, false_and, Bool.false_eq_true, ↓reduceIte]

/-- A line that is a statement and nothing else where comments are written in the given style. -/
structure Unmarked (style : CommentStyle) (line : Text) : Prop where
  filled : line.trim ≠ []
  unquoted : style = .all → line.trim.includes tripleQuote = false
  alone : commentLine? style line.trim = none
  inline : inlineComment? style line.trim = none

theorem Unmarked.none (h : line.trim ≠ []) : Unmarked .none line where
  filled := h
  unquoted := by simp
  alone := by simp [commentLine?]
  inline := rfl

/-- To a line without comments it does not matter how comments are written. It ends the body, or it
closes the blocks that it is not inside of. -/
theorem step_unmarked (h : Unmarked r.comments line) (hc : st.inComment = false) :
    step r convert st line = (r.ends line.trim line.indent >>= fun ends =>
      if ends || isOutside r.margin st line then .ok .stop
      else (convert line.trim).map fun java =>
        .emit (closers (st.openers.takeWhile (line.indent ≤ ·)) ++ [java])
          (st.afterStatement r line java)) := by
  have hquotes : ¬(r.comments = .all ∧ line.trim.includes tripleQuote = true) := by
    rintro ⟨hall, hq⟩
    rw [h.unquoted hall] at hq
    cases hq
  have hline : statementLine r.comments convert line.trim = convert line.trim := by
    rw [statementLine, h.inline]
  simp only [step, if_neg hquotes, hc, if_neg h.filled, h.alone, Bool.false_eq_true, ↓reduceIte]
  rw [statement, hline]
  rfl

theorem unmarked_of_isPlain (hr : r.IsPlain) (hl : line.trim ≠ []) : Unmarked r.comments line := by
  rw [hr.comments]
  exact .none hl

theorem step_ends (hr : r.IsPlain) (hc : st.inComment = false) (hl : line.trim ≠ [])
    (he : StopsAt r st line) : step r convert st line = .ok .stop := by
  rw [step_unmarked (unmarked_of_isPlain hr hl) hc]
  rcases he with hends | hout
  · rw [hends]
    rfl
  · obtain ⟨ends, hends⟩ := hr.decides line.trim line.indent
    rw [hends, hout]
    exact if_pos (Bool.or_true ends)

theorem step_statement (hr : r.IsPlain) (hc : st.inComment = false) (hl : line.trim ≠ [])
    (he : ¬StopsAt r st line) : step r convert st line =
      (convert line.trim).map fun java =>
        .emit (closers (st.openers.takeWhile (line.indent ≤ ·)) ++ [java])
          (st.afterStatement r line java) := by
  obtain ⟨hends, hout⟩ := not_ends_of_inside hr he
  rw [step_unmarked (unmarked_of_isPlain hr hl) hc, hends, hout]
  rfl

theorem next_of_step (hr : r.IsPlain) (hc : st.inComment = false)
    (h : step r convert st line = .ok (.emit entries next)) :
    (line.trim = [] ∧ next = st) ∨
      line.trim ≠ [] ∧ ∃ java, next = st.afterStatement r line java := by
  by_cases hl : line.trim = []
  · rw [step_blankLine hr hc hl] at h
    cases h
    exact .inl ⟨hl, rfl⟩
  by_cases he : StopsAt r st line
  · rw [step_ends hr hc hl he] at h
    cases h
  · rw [step_statement hr hc hl he] at h
    obtain ⟨java, -, h⟩ := map_eq_ok.1 h
    cases h
    exact .inr ⟨hl, java, rfl⟩

theorem inComment_of_step (hr : r.IsPlain)
    (hc : st.inComment = false) (h : step r convert st line = .ok (.emit entries next)) :
    next.inComment = false := by
  rcases next_of_step hr hc h with ⟨-, rfl⟩ | ⟨-, java, rfl⟩
  · exact hc
  · exact hc

end Body

theorem Text.trim_behind_method {line tail : Text} (h : "method ".toList ++ tail = line.trim) :
    tail.trim ≠ [] := by
  have hne : ' ' :: tail ≠ [] := List.cons_ne_nil _ _
  have hlast := List.getLast?_eq_some_getLast hne
  have hends : line.trim.getLast? = some ((' ' :: tail).getLast hne) := by
    rw [← h, ← hlast]
    exact List.getLast?_append_of_ne_nil "method".toList hne
  have hblank := Text.getLast_of_trim (Text.trim_trim line) _ hends
  rcases List.mem_cons.1 (List.getLast_mem hne) with hc | hc
  · rw [hc] at hblank
    cases hblank
  · exact Text.trim_ne_nil hc hblank

namespace Edition

theorem readStandalone_eq {line : Text} (e : Edition) (hs : line.trim.startsWith "method " = true)
    (rest : List Text) :
    e.readStandalone line rest = (e.methodReader e.freeParams).regular
      (Access.parts (Text.trim (line.trim.drop 7))).1 true
      (Access.parts (Text.trim (line.trim.drop 7))).2 rest := by
  obtain ⟨tail, ht⟩ := List.isPrefixOf_iff_prefix.1 hs
  have hdrop : line.trim.drop 7 = tail := by rw [← ht]; rfl
  refine (if_pos hs).trans ?_
  rw [hdrop, Access.read_eq (Text.trim_behind_method ht)]
  rfl

variable {v : Vocabulary} {source : Text} {p : Program} {ts : List Template}
  {bodies : List (List Text)} {ms : List Method}

/-- A line that names the program holds no part of it. -/
theorem readLines_eq (v : Vocabulary) (first : Text) (rest : List Text) :
    (openAccessors v).readLines (first :: rest) =
      Program.readParts (openAccessors v).programRules
        { name := (v.nameAndStart (first :: rest)).1 } (first :: rest) := by
  have hread : (openAccessors v).readLines (first :: rest) =
      Program.readParts (openAccessors v).programRules
        { name := (v.nameAndStart (first :: rest)).1 }
        ((first :: rest).drop (v.nameAndStart (first :: rest)).2) := by
    rw [readLines, show (openAccessors v).nameAndStart = Program.nameAndStart v from rfl,
      v.nameAndStart_eq]
    rfl
  rw [hread, Program.nameAndStart_eq]
  cases hp : Program.isProgramLine v first with
  | false => rfl
  | true =>
    obtain ⟨ho, hs⟩ := Bool.and_eq_true_iff.1 hp
    have hopens : (openAccessors v).programRules.opensTemplate first.trim = .ok false :=
      congrArg Except.ok ((Bool.not_eq_true' _).mp ho)
    exact (Program.readParts_skip hopens (by decide) hs).symm

theorem read_eq (v : Vocabulary) (source : Text) : (openAccessors v).read source =
    Program.readParts (openAccessors v).programRules
      { name := (v.nameAndStart source.trim.lines).1 } source.trim.lines := by
  rw [read]
  cases hl : source.trim.lines with
  | nil => exact absurd hl (Text.splitAt_ne_nil '\n' source.trim)
  | cons first rest => exact readLines_eq v first rest

theorem parts_of_read (h : (openAccessors v).read source = .ok p) :
    ∃ bodies, Program.Parts (openAccessors v).programRules source.trim.lines p.templates bodies
      p.methods := by
  rw [read_eq] at h
  obtain ⟨ts, bodies, ms, hparts⟩ := Program.parts_of_readParts h
  rw [hparts.readParts_eq] at h
  cases h
  exact ⟨bodies, hparts⟩

theorem read_of_parts
    (h : Program.Parts (openAccessors v).programRules source.trim.lines ts bodies ms) :
    ∃ p, (openAccessors v).read source = .ok p ∧ p.templates = ts ∧ p.methods = ms := by
  rw [read_eq, h.readParts_eq]
  exact ⟨_, rfl, rfl, rfl⟩

end Edition

end JavaSketch
