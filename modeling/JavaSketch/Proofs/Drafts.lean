import JavaSketch.Edition.Draft
import JavaSketch.Proofs.Parts
import JavaSketch.Proofs.Simulation

namespace JavaSketch

namespace Body

variable {r r' : BodyRules} {convert : Text → Except Fault Text} {st : State} {line java : Text}
  {lines entries body : List Text}

namespace Unmarked

theorem slashes (h : line.trim ≠ []) (hs : line.includes "//" = false) :
    Unmarked .slashes line where
  filled := h
  unquoted := by simp
  alone := by
    rw [commentLine?, Text.not_startsWith_of_not_includes (Text.includes_trim hs)]
    simp
  inline := Text.cut?_eq_none (Text.includes_trim hs)

theorem all (h : line.trim ≠ []) (hu : Uncommented line) : Unmarked .all line where
  filled := h
  unquoted _ := Text.includes_trim hu.quotes
  alone := by
    rw [commentLine?, Text.not_startsWith_of_not_includes (Text.includes_trim hu.slashes),
      Text.not_startsWith_of_not_includes (Text.includes_trim hu.numberSign)]
    simp
  inline := by
    rw [inlineComment?, Text.cut?_eq_none (Text.includes_trim hu.slashes),
      Text.cut?_eq_none (Text.includes_trim hu.numberSign)]
    rfl

end Unmarked

theorem readFrom_unmarked (h : Unmarked r.comments line) (hc : st.inComment = false)
    (rest : List Text) :
    readFrom r convert st (line :: rest) = (r.ends line.trim line.indent >>= fun ends =>
      if ends || isOutside r.margin st line then .ok (closers st.openers, 0)
      else convert line.trim >>= fun java =>
        (readFrom r convert (st.afterStatement r line java) rest).map fun res =>
          (closers (st.openers.takeWhile (line.indent ≤ ·)) ++ [java] ++ res.1, res.2 + 1)) := by
  have hstep := @step_unmarked r convert st line h hc
  cases hends : r.ends line.trim line.indent with
  | error f =>
    rw [hends] at hstep
    rw [readFrom, hstep]
    rfl
  | ok ends =>
    rw [hends] at hstep
    change _ = if _ then _ else _
    split_ifs with hstop
    · exact readFrom_stop (hstep.trans (if_pos hstop))
    · replace hstep := hstep.trans (if_neg hstop)
      cases hj : convert line.trim with
      | error f =>
        rw [hj] at hstep
        rw [readFrom, hstep]
        rfl
      | ok java =>
        rw [hj] at hstep
        exact readFrom_emit hstep

theorem readFrom_congr_of_unmarked (hends : r'.ends = r.ends) (hmargin : r'.margin = r.margin)
    (hcloses : r'.closesBlocks = r.closesBlocks) (hc : st.inComment = false)
    (hl : ∀ line ∈ lines, Unmarked r.comments line ∧ Unmarked r'.comments line) :
    readFrom r' convert st lines = readFrom r convert st lines := by
  induction lines generalizing st with
  | nil => rw [readFrom_end, readFrom_end]
  | cons line rest ih =>
    obtain ⟨⟨h, h'⟩, hrest⟩ := List.forall_mem_cons.1 hl
    have hafter (java : Text) : st.afterStatement r' line java = st.afterStatement r line java := by
      simp only [State.afterStatement, hcloses]
    have hread (java : Text) : readFrom r' convert (st.afterStatement r line java) rest =
        readFrom r convert (st.afterStatement r line java) rest := ih hc hrest
    simp only [readFrom_unmarked h hc, readFrom_unmarked h' hc, hends, hmargin, hafter, hread]

/-- An entry that opens a block. -/
def opensBlock (java : Text) : Bool := java.endsWith "\x7b"

/-- The entry that closes a block. -/
def closer : Text := "\x7d"

/-- The body is made of the entries and of closing braces, one for each block that the entries open
and for each of the `k` blocks that are open before them. -/
structure ClosedOff (k : Nat) (entries body : List Text) : Prop where
  sublist : entries.Sublist body
  length : body.length = entries.length + k + entries.countP opensBlock
  braces : body.count closer = entries.count closer + k + entries.countP opensBlock

theorem count_closer (openers : List Nat) : (closers openers).count closer = openers.length := by
  rw [closers, List.map_const']
  exact List.count_replicate_self

theorem length_closers (openers : List Nat) : (closers openers).length = openers.length :=
  List.length_map _

namespace ClosedOff

theorem finish (openers : List Nat) : ClosedOff openers.length [] (closers openers) where
  sublist := List.nil_sublist _
  length := by simp [length_closers]
  braces := by simp [count_closer]

theorem statement {out inside : List Nat} {k : Nat} (h : ClosedOff k entries body)
    (hk : k = inside.length + if opensBlock java then 1 else 0) :
    ClosedOff (out.length + inside.length) (java :: entries) (closers out ++ [java] ++ body) where
  sublist := by
    rw [List.append_assoc]
    exact (h.sublist.cons_cons java).trans (List.sublist_append_right _ _)
  length := by
    have hlength := h.length
    simp only [List.length_append, length_closers, List.length_cons, List.length_nil,
      List.countP_cons]
    omega
  braces := by
    have hbraces := h.braces
    simp only [List.count_append, count_closer, List.count_cons, List.count_nil, List.countP_cons]
    omega

theorem eq_iff (h : ClosedOff 0 entries body) :
    entries = body ↔ ∀ java ∈ entries, opensBlock java = false := by
  have hlength := h.length
  rw [← h.sublist.length_eq]
  have hcount : entries.countP opensBlock = 0 ↔ ∀ java ∈ entries, opensBlock java = false := by
    simp [List.countP_eq_zero]
  rw [← hcount]
  omega

end ClosedOff

/-- Both readings take as many lines. The first one has the Java of each line and nothing else, and
the second one closes the blocks as well. -/
structure LeftOpen (convert : Text → Except Fault Text) (lines : List Text) (k : Nat)
    (x y : List Text × Nat) : Prop where
  taken : x.2 = y.2
  entries : List.Forall₂ (fun line java => convert line.trim = .ok java) (lines.take x.2) x.1
  closed : ClosedOff k x.1 y.1

theorem LeftOpen.statement {rest : List Text} {x y : List Text × Nat} {out inside : List Nat}
    {k : Nat} (h : LeftOpen convert rest k x y) (hj : convert line.trim = .ok java)
    (hk : k = inside.length + if opensBlock java then 1 else 0) :
    LeftOpen convert (line :: rest) (out.length + inside.length) (java :: x.1, x.2 + 1)
      (closers out ++ [java] ++ y.1, y.2 + 1) where
  taken := congrArg (· + 1) h.taken
  entries := by
    rw [List.take_succ_cons]
    exact .cons hj h.entries
  closed := h.closed.statement hk

theorem length_afterStatement (h : r.closesBlocks = true) :
    (st.afterStatement r line java).openers.length =
      (st.openers.dropWhile (line.indent ≤ ·)).length + if opensBlock java then 1 else 0 := by
  have hends : opensBlock java = java.endsWith "\x7b" := rfl
  rw [afterStatement_openers, h, Bool.true_and, hends]
  cases java.endsWith "\x7b" <;> rfl

theorem readFrom_leftOpen (hends : r'.ends = r.ends) (hmargin : r'.margin = r.margin)
    (hcloses : r.closesBlocks = true) (hopen : r'.closesBlocks = false)
    (hc : st.inComment = false)
    (hl : ∀ line ∈ lines, Unmarked r.comments line ∧ Unmarked r'.comments line) :
    InStep (LeftOpen convert lines st.openers.length)
      (readFrom r' convert { st with blocks := .empty } lines) (readFrom r convert st lines) := by
  induction lines generalizing st with
  | nil =>
    rw [readFrom_end, readFrom_end]
    exact .value ⟨rfl, .nil, .finish st.openers⟩
  | cons line rest ih =>
    obtain ⟨⟨h, h'⟩, hrest⟩ := List.forall_mem_cons.1 hl
    have houtside : isOutside r'.margin { st with blocks := .empty } line =
        isOutside r.margin st line := by
      rw [hmargin]
      cases r.margin with
      | firstStatement => rfl
      | fourSpaces => rfl
    have hafter (java : Text) : State.afterStatement r' { st with blocks := .empty } line java =
        { st.afterStatement r line java with blocks := .empty } := by
      have hleave : Blocks.empty.leave line.indent = .empty := rfl
      simp [State.afterStatement, hopen, hleave]
    have hbare : { st with blocks := .empty }.inComment = false := hc
    simp only [readFrom_unmarked h hc, readFrom_unmarked h' hbare, hends, houtside, hafter]
    apply (InStep.refl (r.ends line.trim line.indent)).bind
    rintro ends _ rfl
    split_ifs with hstop
    · exact .value ⟨rfl, .nil, .finish st.openers⟩
    · cases hj : convert line.trim with
      | error f => exact .fault f
      | ok java =>
        have hnext := @ih (st.afterStatement r line java) hc hrest
        apply hnext.map
        intro x y hxy
        have hblocks : st.openers.length = (st.openers.takeWhile (line.indent ≤ ·)).length +
            (st.openers.dropWhile (line.indent ≤ ·)).length := by
          rw [← List.length_append, List.takeWhile_append_dropWhile]
        rw [hblocks]
        exact hxy.statement hj (length_afterStatement hcloses)

end Body

namespace Draft

/-- The body that is read from line `i` on, and the line behind it. -/
def bodyAt (d : Draft) (lines : List Text) (i : Nat) : Except Fault (List Text × Nat) :=
  numbered i (Body.read d.body d.convert (lines.drop i))

/-- Comments of all kinds were added without a change to bodies that have none: on lines that are
neither blank nor hold a comment mark, both drafts give the same body and the same next line, or the
same fault. -/
theorem allComments_bodyAt (v : Vocabulary) (lines : List Text) (i : Nat)
    (h : ∀ line ∈ lines, line.trim ≠ [] ∧ Body.Uncommented line) :
    (allComments v).bodyAt lines i = (indexedLists v).bodyAt lines i := by
  have hread : Body.read (allComments v).body (allComments v).convert (lines.drop i) =
      Body.read (indexedLists v).body (indexedLists v).convert (lines.drop i) := by
    apply Body.readFrom_congr_of_unmarked
    · rfl
    · rfl
    · rfl
    · rfl
    · intro line hline
      obtain ⟨hfilled, hunmarked⟩ := h line (List.mem_of_mem_drop hline)
      exact ⟨.none hfilled, .all hfilled hunmarked⟩
  rw [bodyAt, bodyAt, hread]

theorem allComments_bodyAt_of_nested :
    let lines : List Text :=
      ["main", "    for x in xs:", "        if x > 1:", "            use(x)", "    done()", "main"]
    let body : List Text :=
      ["for (var x : xs) \x7b", "if (x > 1) \x7b", "use(x);", "\x7d", "\x7d", "done();"]
    (indexedLists Vocabulary.standard).bodyAt lines 1 = .ok (body, 5) ∧
      (allComments Vocabulary.standard).bodyAt lines 1 = .ok (body, 5) := by
  intro lines body
  have hbare : (indexedLists Vocabulary.standard).bodyAt lines 1 = .ok (body, 5) := by
    decide +kernel
  refine ⟨hbare, ?_⟩
  rw [allComments_bodyAt .standard lines 1 (by decide +kernel)]
  exact hbare

/-- The draft with comments after two slashes never closes a block. On lines that are neither blank
nor hold two slashes it fails as the draft before it does and takes the same lines; its body is the
Java of these lines, where the other draft has a closing brace for each block as well. So the two
agree exactly if no statement of the body opens a block. -/
theorem slashComments_bodyAt_iff (v : Vocabulary) (lines : List Text) (i : Nat)
    (h : ∀ line ∈ lines, line.trim ≠ [] ∧ line.includes "//" = false) :
    let slashes := (slashComments v).bodyAt lines i
    let bare := (indexedLists v).bodyAt lines i
    (slashes = bare ↔ ∀ entries n, slashes = .ok (entries, n) →
      ∀ java ∈ entries, Body.opensBlock java = false) ∧
    (∀ f, slashes = .error f ↔ bare = .error f) ∧
    ∀ entries n, slashes = .ok (entries, n) →
      List.Forall₂ (fun line java => Statement.convert .indexedLists line.trim = .ok java)
        ((lines.drop i).take (n - i)) entries ∧
      ∃ body, bare = .ok (body, n) ∧ Body.ClosedOff 0 entries body := by
  intro slashes bare
  have hread : InStep (Body.LeftOpen (Statement.convert .indexedLists) (lines.drop i) 0)
      (Body.read (slashComments v).body (slashComments v).convert (lines.drop i))
      (Body.read (indexedLists v).body (indexedLists v).convert (lines.drop i)) := by
    apply @Body.readFrom_leftOpen (indexedLists v).body (slashComments v).body _ {}
    · rfl
    · rfl
    · rfl
    · rfl
    · rfl
    · intro line hline
      obtain ⟨hfilled, hslashes⟩ := h line (List.mem_of_mem_drop hline)
      exact ⟨.none hfilled, .slashes hfilled hslashes⟩
  rcases hread.cases with ⟨f, hs, hb⟩ | ⟨⟨entries, n⟩, ⟨body, m⟩, hs, hb, hopen⟩
  · have hslashes : slashes = .error f := congrArg (numbered i) hs
    have hbare : bare = .error f := congrArg (numbered i) hb
    rw [hslashes, hbare]
    simp
  · obtain rfl : n = m := hopen.taken
    have hslashes : slashes = .ok (entries, i + n) := congrArg (numbered i) hs
    have hbare : bare = .ok (body, i + n) := congrArg (numbered i) hb
    have hclosed : Body.ClosedOff 0 entries body := hopen.closed
    rw [hslashes, hbare]
    refine ⟨?_, ?_, ?_⟩
    · constructor
      · intro he entries' n' he'
        cases he'
        cases he
        exact hclosed.eq_iff.1 rfl
      · intro hnone
        rw [hclosed.eq_iff.2 (hnone entries _ rfl)]
    · intro f
      constructor
      · intro he
        cases he
      · intro he
        cases he
    · intro entries' n' he
      cases he
      rw [Nat.add_sub_cancel_left]
      exact ⟨hopen.entries, body, rfl, hclosed⟩

theorem slashComments_bodyAt_of_block :
    let lines : List Text := ["main", "    if a:", "        x()"]
    let entries : List Text := ["if (a) \x7b", "x();"]
    (slashComments Vocabulary.standard).bodyAt lines 1 = .ok (entries, 3) ∧
      (indexedLists Vocabulary.standard).bodyAt lines 1 ≠ .ok (entries, 3) ∧
      ∃ body, (indexedLists Vocabulary.standard).bodyAt lines 1 = .ok (body, 3) ∧
        Body.ClosedOff 0 entries body := by
  intro lines entries
  have hslashes : (slashComments Vocabulary.standard).bodyAt lines 1 = .ok (entries, 3) := by
    decide +kernel
  obtain ⟨hiff, -, hok⟩ := slashComments_bodyAt_iff .standard lines 1 (by decide +kernel)
  refine ⟨hslashes, ?_, (hok entries 3 hslashes).2⟩
  intro hbare
  have hnone := hiff.1 (hslashes.trans hbare.symm) entries 3 hslashes
  exact absurd (hnone _ List.mem_cons_self) (by decide +kernel)

end Draft

end JavaSketch
