import JavaSketch.Proofs.BodyStep
import JavaSketch.Proofs.StatementPieces

namespace JavaSketch

namespace Body

open Statement (isElif Shape)

/-- A line without braces and without comment marks. -/
structure Bare (line : Text) : Prop where
  braceFree : BraceFree line
  slashes : line.includes "//" = false
  numberSign : line.includes "#" = false
  quotes : line.includes tripleQuote = false

instance (line : Text) : Decidable (Bare line) :=
  decidable_of_iff
    (BraceFree line ∧ line.includes "//" = false ∧ line.includes "#" = false ∧
      line.includes tripleQuote = false)
    ⟨fun ⟨hb, hs, hn, hq⟩ => ⟨hb, hs, hn, hq⟩,
      fun h => ⟨h.braceFree, h.slashes, h.numberSign, h.quotes⟩⟩

/-- `if`, then `elif` any number of times, then perhaps `else`, all behind the same blanks and
each with the lines of its branch. -/
structure Chain where
  pad : Text
  condition : Text
  branch : List Text
  elifs : List (Text × List Text)
  otherwise : Option (List Text)

def Chain.lines (c : Chain) : List Text :=
  (c.pad ++ "if " ++ c.condition ++ ":") :: c.branch ++
    (c.elifs.flatMap fun e => (c.pad ++ "elif " ++ e.1 ++ ":") :: e.2) ++
    match c.otherwise with
    | none => []
    | some branch => (c.pad ++ "else:") :: branch

def Chain.branches (c : Chain) : List (List Text) :=
  c.branch :: c.elifs.map (·.2) ++ c.otherwise.toList

/-- No branch is empty, and the statements of the branches are indented deeper than the chain. -/
structure Chain.Proper (c : Chain) : Prop where
  pad_blank : ∀ x ∈ c.pad, isBlank x = true
  bare : ∀ line ∈ c.lines, Bare line
  filled : ∀ branch ∈ c.branches, ∃ line ∈ branch, line.trim ≠ []
  deeper : ∀ branch ∈ c.branches, ∀ line ∈ branch, line.trim = [] ∨ c.pad.length < line.indent

variable {v : Vocabulary} {st next : State} {line java : Text} {lines body entries : List Text}
  {n : Nat}

theorem Bare.uncommented (h : Bare line) : Uncommented line := ⟨h.slashes, h.numberSign, h.quotes⟩

theorem depthAfter_closers (openers : List Nat) (d : Nat) :
    depthAfter (openers.length + d) (closers openers).flatten = some d := by
  induction openers with
  | nil => exact congrArg some (Nat.zero_add d)
  | cons c openers ih =>
    rw [List.length_cons, show openers.length + 1 + d = openers.length + d + 1 by omega]
    exact (depthAfter_append (depthAfter_close _)).trans ih

theorem count_closers (openers : List Nat) :
    (closers openers).flatten.count closeBrace = openers.length ∧
      (closers openers).flatten.count openBrace = 0 := by
  induction openers with
  | nil => exact ⟨rfl, rfl⟩
  | cons c openers ih =>
    have hc : (closers (c :: openers)).flatten = closeBrace :: (closers openers).flatten := rfl
    rw [hc, List.count_cons_self, List.count_cons_of_ne (by decide), ih.1, ih.2]
    exact ⟨rfl, rfl⟩

theorem endsWith_open (t : Text) : Text.endsWith (t ++ [openBrace]) "\x7b" = true :=
  List.isSuffixOf_iff_suffix.2 (List.suffix_append t [openBrace])

theorem not_endsWith_open (h : BraceFree java) : java.endsWith "\x7b" = false := by
  rw [Bool.eq_false_iff]
  intro hs
  have hm := (List.isSuffixOf_iff_suffix.1 hs).subset (List.mem_singleton.2 rfl)
  exact (h _ hm).1 rfl

theorem depthAfter_shape (h : Shape BraceFree java) (d : Nat) :
    depthAfter d java = some (if java.endsWith "\x7b" then d + 1 else d) := by
  cases h with
  | flat h =>
    rw [not_endsWith_open h]
    exact h.depthAfter d
  | @block t h =>
    rw [endsWith_open, depthAfter_append (h.depthAfter d)]
    rfl

theorem length_enter (st : State) (line java : Text) :
    (st.enter line java).openers.length =
      (st.openers.dropWhile (line.indent ≤ ·)).length +
        if java.endsWith "\x7b" then 1 else 0 := by
  rw [State.enter]
  split
  · rfl
  · rfl

theorem length_takeWhile_add (st : State) (line : Text) :
    (st.openers.takeWhile (line.indent ≤ ·)).length +
      (st.openers.dropWhile (line.indent ≤ ·)).length = st.openers.length := by
  rw [← List.length_append, List.takeWhile_append_dropWhile]

theorem count_elifLine {s : Text} (hs : BraceFree s) :
    (Statement.elifLine s).count openBrace = 1 ∧ (Statement.elifLine s).count closeBrace = 1 ∧
      (Statement.elifLine s).endsWith "\x7b" = true := by
  obtain ⟨t, ht, hl⟩ := BraceFree.piecewise.elifLine hs
  rw [hl]
  refine ⟨?_, ?_, endsWith_open _⟩
  · rw [List.count_append, List.count_cons_of_ne (by decide), ht.count_open]
    rfl
  · rw [List.count_append, List.count_cons_self, ht.count_close]
    rfl

theorem isElif_nil : isElif [] = false := rfl

theorem step_depth (hb : Bare line) (hc : st.inComment = false) (he : isElif line.trim = false)
    (h : step (.current v) (Statement.convert .current) st line = .ok (.emit entries next)) :
    depthAfter st.openers.length entries.flatten = some next.openers.length := by
  obtain ⟨java, hj, ⟨hs, rfl, rfl⟩ | ⟨hs, rfl, rfl⟩⟩ := step_current hb.quotes hc h
  · rw [entry, hs, hb.uncommented.trim_eq_nil hs] at hj
    cases hj
    rfl
  · rw [hb.uncommented.entry_eq _ hs] at hj
    have hshape := Statement.convert_shape BraceFree.piecewise hb.braceFree.trim
      (by rw [Text.trim_trim]; exact he) hj
    rw [List.flatten_append, ← length_takeWhile_add st line,
      depthAfter_append (depthAfter_closers _ _), List.flatten_singleton,
      depthAfter_shape hshape, length_enter]
    split
    · rfl
    · rfl

/-- A line closes as many braces as it opens, up to the blocks that it enters or leaves and to one
brace more if it is `elif`. -/
theorem step_count (hb : Bare line) (hc : st.inComment = false)
    (h : step (.current v) (Statement.convert .current) st line = .ok (.emit entries next)) :
    entries.flatten.count closeBrace + next.openers.length =
      entries.flatten.count openBrace + st.openers.length +
        if isElif line.trim then 1 else 0 := by
  cases he : isElif line.trim with
  | false =>
    have hd := count_of_depthAfter (step_depth hb hc he h)
    rw [if_neg Bool.false_ne_true]
    omega
  | true =>
    obtain ⟨java, hj, ⟨hs, rfl, rfl⟩ | ⟨hs, rfl, rfl⟩⟩ := step_current hb.quotes hc h
    · rw [hb.uncommented.trim_eq_nil hs, isElif_nil] at he
      cases he
    · have he' : isElif line.trim.trim = true := by rw [Text.trim_trim]; exact he
      rw [hb.uncommented.entry_eq _ hs, Statement.convert_elif he'] at hj
      cases hj
      obtain ⟨ho, hcl, hend⟩ := count_elifLine hb.braceFree.trim.trim
      have hk := count_closers (st.openers.takeWhile (line.indent ≤ ·))
      have hlen := length_takeWhile_add st line
      simp only [length_enter, hend, List.flatten_append, List.flatten_singleton, List.count_append,
        hk.1, hk.2, ho, hcl, ↓reduceIte]
      omega

theorem next_inComment (hb : Bare line) (hc : st.inComment = false)
    (h : step (.current v) (Statement.convert .current) st line = .ok (.emit entries next)) :
    next.inComment = false := by
  obtain ⟨java, hj, ⟨hs, rfl, rfl⟩ | ⟨hs, rfl, rfl⟩⟩ := step_current hb.quotes hc h
  · exact hc
  · exact hc

theorem readFrom_depth (hb : ∀ line ∈ lines, Bare line) (hc : st.inComment = false)
    (h : readFrom (.current v) (Statement.convert .current) st lines = .ok (body, n))
    (he : ∀ line ∈ lines.take n, isElif line.trim = false) :
    depthAfter st.openers.length body.flatten = some 0 := by
  induction lines generalizing st body n with
  | nil =>
    obtain ⟨rfl, rfl⟩ := readFrom_nil h
    exact depthAfter_closers st.openers 0
  | cons line rest ih =>
    obtain ⟨hl, hr⟩ := List.forall_mem_cons.1 hb
    rcases readFrom_cons h with ⟨_, rfl, rfl⟩ | ⟨entries, next, tail, m, hs, ht, rfl, rfl⟩
    · exact depthAfter_closers st.openers 0
    · obtain ⟨hle, hre⟩ := List.forall_mem_cons.1 he
      rw [List.flatten_append, depthAfter_append (step_depth hl hc hle hs)]
      exact ih hr (next_inComment hl hc hs) ht hre

theorem readFrom_count (hb : ∀ line ∈ lines, Bare line) (hc : st.inComment = false)
    (h : readFrom (.current v) (Statement.convert .current) st lines = .ok (body, n)) :
    body.flatten.count closeBrace = body.flatten.count openBrace + st.openers.length +
      (lines.take n).countP (isElif ·.trim) := by
  induction lines generalizing st body n with
  | nil =>
    obtain ⟨rfl, rfl⟩ := readFrom_nil h
    have hk := count_closers st.openers
    rw [hk.1, hk.2, Nat.zero_add]
    rfl
  | cons line rest ih =>
    obtain ⟨hl, hr⟩ := List.forall_mem_cons.1 hb
    rcases readFrom_cons h with ⟨_, rfl, rfl⟩ | ⟨entries, next, tail, m, hs, ht, rfl, rfl⟩
    · have hk := count_closers st.openers
      rw [hk.1, hk.2, Nat.zero_add]
      rfl
    · have hi := ih hr (next_inComment hl hc hs) ht
      have hk := step_count hl hc hs
      rw [List.flatten_append, List.count_append, List.count_append, List.take_succ_cons,
        List.countP_cons]
      omega

theorem balanced_iff (hb : ∀ line ∈ lines, Bare line)
    (h : read (.current v) (Statement.convert .current) lines = .ok (body, n)) :
    Balanced body.flatten ↔ ∀ line ∈ lines.take n, isElif line.trim = false := by
  constructor
  · intro hbal
    have hk := readFrom_count hb rfl h
    have hz : (lines.take n).countP (isElif ·.trim) = 0 := by
      have ht := hbal.total
      change _ = _ + [].length + _ at hk
      omega
    intro line hl
    exact Bool.eq_false_iff.2 (List.countP_eq_zero.1 hz line hl)
  · intro he
    exact .of_depthAfter (readFrom_depth hb rfl h he)

/-- The body of a chain closes one brace too many for each line that is read as `elif`, and its
braces are balanced exactly if there is none. -/
theorem Chain.braces_of_read (v : Vocabulary) (c : Chain) (hc : c.Proper)
    (h : read (.current v) (Statement.convert .current) c.lines = .ok (body, n)) :
    body.flatten.count closeBrace =
        body.flatten.count openBrace + (c.lines.take n).countP (isElif ·.trim) ∧
      (Balanced body.flatten ↔ ∀ line ∈ c.lines.take n, isElif line.trim = false) :=
  ⟨readFrom_count hc.bare rfl h, balanced_iff hc.bare h⟩

theorem Chain.unbalanced_of_one_elif :
    Proper ⟨[], "a", ["    x()"], [("b", ["    y()"])], none⟩ ∧
      read (.current Vocabulary.standard) (Statement.convert .current)
          ["if a:", "    x()", "elif b:", "    y()"] =
        .ok (["if (a) \x7b", "x();", "\x7d", "\x7d else if (b) \x7b", "y();", "\x7d"], 4) ∧
      ¬ Balanced (List.flatten
        ["if (a) \x7b", "x();", "\x7d", "\x7d else if (b) \x7b", "y();", "\x7d"]) := by
  have hp : Proper ⟨[], "a", ["    x()"], [("b", ["    y()"])], none⟩ :=
    ⟨List.forall_mem_nil _, by decide, by decide, by decide⟩
  refine ⟨hp, rfl, fun hb => ?_⟩
  have hn := (Chain.braces_of_read .standard _ hp rfl).2.1 hb "elif b:" (by decide)
  cases hn

end Body

end JavaSketch
