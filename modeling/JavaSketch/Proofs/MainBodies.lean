import JavaSketch.Proofs.Joining

namespace JavaSketch

namespace Body

/-- The Java of a body that goes on to the last line. -/
def whole (r : BodyRules) (convert : Text → Except Fault Text) (st : State) :
    List Text → Except Fault (List Text)
  | [] => .ok (closers st.openers)
  | line :: rest =>
    if line.trim = [] then whole r convert st rest
    else do
      let java ← convert line.trim
      let body ← whole r convert (st.afterStatement r line java) rest
      .ok (closers (st.openers.takeWhile (line.indent ≤ ·)) ++ [java] ++ body)

/-- The indentation of the first line that is not blank. -/
def firstIndent : List Text → Nat
  | [] => 0
  | line :: rest => if line.trim = [] then firstIndent rest else line.indent

variable {r r' : BodyRules} {convert : Text → Except Fault Text} {st : State} {lines : List Text}
  {d : Nat}

theorem whole_congr (h : r'.closesBlocks = r.closesBlocks) :
    whole r' convert st lines = whole r convert st lines := by
  induction lines generalizing st with
  | nil => rfl
  | cons line rest ih =>
    have hafter (java : Text) : st.afterStatement r' line java = st.afterStatement r line java := by
      simp only [State.afterStatement, h]
    simp only [whole, ih, hafter]

theorem readFrom_whole (hr : r.IsPlain) (hc : st.inComment = false)
    (hset : ∀ m ∈ st.margin, m = d) (hfirst : st.margin = none → firstIndent lines = d)
    (hin : ∀ line ∈ lines, line.trim ≠ [] →
      ∀ st : State, (∀ m ∈ st.margin, m = d) → ¬StopsAt r st line) :
    readFrom r convert st lines = (whole r convert st lines).map (·, lines.length) := by
  induction lines generalizing st with
  | nil => exact readFrom_end r convert st
  | cons line rest ih =>
    obtain ⟨hline, hrest⟩ := List.forall_mem_cons.1 hin
    by_cases hs : line.trim = []
    · rw [firstIndent, if_pos hs] at hfirst
      rw [readFrom_emit (step_blankLine hr hc hs), ih hc hset hfirst hrest, whole, if_pos hs]
      cases whole r convert st rest with
      | error f => rfl
      | ok body => rfl
    · have hstep := @step_statement r convert st line hr hc hs (hline hs st hset)
      rw [firstIndent, if_neg hs] at hfirst
      rw [whole, if_neg hs]
      cases hj : convert line.trim with
      | error f =>
        rw [readFrom, hstep, hj]
        rfl
      | ok java =>
        have hmargin : st.margin.getD line.indent = d := by
          cases hm : st.margin with
          | some m => exact hset m hm
          | none => exact hfirst hm
        have hnext : readFrom r convert (st.afterStatement r line java) rest =
            (whole r convert (st.afterStatement r line java) rest).map (·, rest.length) := by
          apply @ih (st.afterStatement r line java) hc _ _ hrest
          · intro m hm
            rw [State.afterStatement, hmargin] at hm
            exact (Option.some.inj hm).symm
          · intro hm
            cases hm
        rw [hj] at hstep
        rw [readFrom_emit hstep, hnext]
        change _ = (whole r convert (st.afterStatement r line java) rest >>= fun body =>
          .ok (closers (st.openers.takeWhile (line.indent ≤ ·)) ++ [java] ++ body)).map
            (·, rest.length + 1)
        cases whole r convert (st.afterStatement r line java) rest with
        | error f => rfl
        | ok body => rfl

theorem read_whole (hr : r.IsPlain)
    (hin : ∀ line ∈ lines, line.trim ≠ [] →
      ∀ st : State, (∀ m ∈ st.margin, m = firstIndent lines) → ¬StopsAt r st line) :
    read r convert lines = (whole r convert {} lines).map (·, lines.length) := by
  apply readFrom_whole hr rfl _ _ hin
  · intro m hm
    cases hm
  · intro _
    rfl

end Body

namespace Edition

/-- The main part that is read from line `i` on, and the line behind it. -/
def mainAt (e : Edition) (lines : List Text) (i : Nat) : Except Fault (List Text × Nat) :=
  numbered i (e.readMain (lines.drop i))

/-- The body of a method that is read from line `i` on, and the line behind it. -/
def bodyAt (e : Edition) (lines : List Text) (i : Nat) : Except Fault (List Text × Nat) :=
  numbered i (e.readBody (lines.drop i))

/-- Lines that are indented, at least as deep as the first of them, and that are no headings of
sections. Blank lines may stand among them. -/
structure Aligned (v : Vocabulary) (lines : List Text) : Prop where
  indented : ∀ line ∈ lines, line.trim ≠ [] →
    line.startsWith "    " = true ∨ line.startsWith "\t" = true
  deep : ∀ line ∈ lines, line.trim ≠ [] → Body.firstIndent lines ≤ line.indent
  unheaded : ∀ line ∈ lines, line.trim ≠ [] →
    Vocabulary.isHeading v.memberSections line.trim line.indent = false

namespace Aligned

variable {v : Vocabulary} {lines : List Text} {line : Text} {st : Body.State}

theorem indent_ne_zero (h : Aligned v lines) (hl : line ∈ lines) (hs : line.trim ≠ []) :
    line.indent ≠ 0 := by
  intro hi
  obtain ⟨hspaces, htab⟩ := Text.not_indented_of_indent hi
  rcases h.indented line hl hs with hstart | hstart
  · rw [hspaces] at hstart
    cases hstart
  · rw [htab] at hstart
    cases hstart

theorem inMain (h : Aligned v lines) (hl : line ∈ lines) (hs : line.trim ≠ []) :
    ¬Body.StopsAt (openAccessors v).mainRules st line := by
  have houtside : Body.isOutside .fourSpaces st line = false := by
    rw [Body.isOutside]
    rcases h.indented line hl hs with hstart | hstart
    · rw [hstart]
      rfl
    · rw [hstart, Bool.not_true, Bool.and_false]
  rintro (hends | hout)
  · cases hends
  · exact absurd (houtside.symm.trans hout) Bool.false_ne_true

theorem inBody (h : Aligned v lines) (hl : line ∈ lines) (hs : line.trim ≠ [])
    (hm : ∀ m ∈ st.margin, m = Body.firstIndent lines) :
    ¬Body.StopsAt (openAccessors v).bodyRules st line := by
  have houter : v.opensOuter line.trim line.indent = false := by
    rw [Vocabulary.opensOuter, beq_eq_false_iff_ne.2 (h.indent_ne_zero hl hs), Bool.false_and]
  have houtside : Body.isOutside .firstStatement st line = false := by
    rw [Body.isOutside, decide_eq_false_iff_not, Nat.not_lt]
    cases hst : st.margin with
    | none => exact Nat.le_refl _
    | some m =>
      rw [Option.getD_some, hm m hst]
      exact h.deep line hl hs
  have hrule : (openAccessors v).bodyRules.ends line.trim line.indent =
      .ok (Vocabulary.isHeading v.memberSections line.trim line.indent ||
        v.opensOuter line.trim line.indent) := rfl
  rintro (hends | hout)
  · rw [hrule, h.unheaded line hl hs, houter] at hends
    cases hends
  · exact absurd (houtside.symm.trans hout) Bool.false_ne_true

theorem readMain_eq (h : Aligned v lines) :
    (openAccessors v).readMain lines =
      (Body.whole (openAccessors v).bodyRules (openAccessors v).convert {} lines).map
        (·, lines.length) := by
  have hclose :
      (openAccessors v).mainRules.closesBlocks = (openAccessors v).bodyRules.closesBlocks :=
    rfl
  rw [← Body.whole_congr hclose]
  apply Body.read_whole ⟨rfl, rfl, fun _ _ => ⟨_, rfl⟩⟩
  intro line hl hs st _
  exact h.inMain hl hs

theorem readBody_eq (h : Aligned v lines) :
    (openAccessors v).readBody lines =
      (Body.whole (openAccessors v).bodyRules (openAccessors v).convert {} lines).map
        (·, lines.length) := by
  apply Body.read_whole ⟨rfl, rfl, fun _ _ => ⟨_, rfl⟩⟩
  intro line hl hs st hm
  exact h.inBody hl hs hm

end Aligned

/-- On indented lines that are no shallower than the first of them and hold no heading, a main part
and the body of a method are the same, from any line on, and both go on to the last line. -/
theorem mainAt_eq_bodyAt (v : Vocabulary) (lines : List Text) (i : Nat)
    (h : Aligned v (lines.drop i)) :
    (openAccessors v).mainAt lines i = (openAccessors v).bodyAt lines i ∧
    ∀ body n, (openAccessors v).mainAt lines i = .ok (body, n) → lines.drop n = [] := by
  rw [mainAt, bodyAt, h.readMain_eq, h.readBody_eq]
  refine ⟨rfl, ?_⟩
  intro body n hn
  obtain ⟨k, hk, rfl⟩ := numbered_eq_ok.1 hn
  obtain ⟨entries, -, he⟩ := map_eq_ok.1 hk
  cases he
  rw [← List.drop_drop]
  exact List.drop_length

theorem mainAt_eq_bodyAt_of_nested :
    let lines : List Text :=
      ["main", "", "    if a:", "            x()", "        y() ", "  ", "    print \"z\""]
    let body : List Text := ["if (a) \x7b", "x();", "y();", "\x7d", "System.out.println(\"z\");"]
    (openAccessors .standard).mainAt lines 1 = .ok (body, 7) ∧
      (openAccessors .standard).bodyAt lines 1 = .ok (body, 7) := by
  intro lines body
  have hmain : (openAccessors .standard).mainAt lines 1 = .ok (body, 7) := by decide +kernel
  have haligned : Aligned .standard (lines.drop 1) :=
    ⟨by decide +kernel, by decide +kernel, by decide +kernel⟩
  refine ⟨hmain, ?_⟩
  rw [← (mainAt_eq_bodyAt .standard lines 1 haligned).1]
  exact hmain

end Edition

end JavaSketch
