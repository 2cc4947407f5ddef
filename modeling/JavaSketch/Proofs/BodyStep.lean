import JavaSketch.Proofs.Guards

namespace JavaSketch.Body

variable {r : BodyRules} {v : Vocabulary} {convert : Text → Except Fault Text}
  {st next : State} {line s code comment java : Text} {rest lines body entries : List Text}
  {n : Nat}

/-- Reading either stops at a line, or takes the line and goes on behind it. -/
theorem readFrom_cons (h : readFrom r convert st (line :: rest) = .ok (body, n)) :
    (step r convert st line = .ok .stop ∧ body = closers st.openers ∧ n = 0) ∨
      ∃ entries next tail m, step r convert st line = .ok (.emit entries next) ∧
        readFrom r convert next rest = .ok (tail, m) ∧ body = entries ++ tail ∧ n = m + 1 := by
  rw [readFrom] at h
  obtain ⟨s, hs, h⟩ := bind_eq_ok.1 h
  cases s with
  | stop =>
    cases h
    exact .inl ⟨hs, closers_braces st, rfl⟩
  | emit entries next =>
    obtain ⟨⟨tail, m⟩, ht, h⟩ := bind_eq_ok.1 h
    cases h
    exact .inr ⟨entries, next, tail, m, hs, ht, rfl, rfl⟩

theorem readFrom_stop (hs : step r convert st line = .ok .stop) :
    readFrom r convert st (line :: rest) = .ok (closers st.openers, 0) := by
  rw [readFrom, hs, ← closers_braces]
  rfl

theorem readFrom_emit (hs : step r convert st line = .ok (.emit entries next)) :
    readFrom r convert st (line :: rest) =
      (readFrom r convert next rest).map fun res => (entries ++ res.1, res.2 + 1) := by
  rw [readFrom, hs]
  rfl

theorem readFrom_end (r : BodyRules) (convert : Text → Except Fault Text) (st : State) :
    readFrom r convert st [] = .ok (closers st.openers, 0) := by
  rw [readFrom, closers_braces]

theorem readFrom_nil (h : readFrom r convert st [] = .ok (body, n)) :
    body = closers st.openers ∧ n = 0 := by
  cases h
  exact ⟨closers_braces st, rfl⟩

theorem readFrom_le (h : readFrom r convert st lines = .ok (body, n)) : n ≤ lines.length := by
  induction lines generalizing st body n with
  | nil =>
    obtain ⟨_, hn⟩ := readFrom_nil h
    exact Nat.le_of_eq hn
  | cons line rest ih =>
    rcases readFrom_cons h with ⟨_, _, hn⟩ | ⟨_, _, _, _, _, ht, _, hn⟩
    · rw [hn]
      exact Nat.zero_le _
    · rw [hn]
      exact Nat.succ_le_succ (ih ht)

/-- A line that is neither blank nor only a comment. -/
def isStatement (line : Text) : Bool :=
  !line.trim.isEmpty && !line.trim.startsWith "//" && !line.trim.startsWith "#"

/-- The entry of a line outside block comments, which does not depend on the lines around it. -/
def entry (convert : Text → Except Fault Text) (line : Text) : Except Fault Text :=
  if isStatement line then statementLine .all convert line.trim
  else .ok ((commentLine? .all line.trim).getD [])

/-- The entry of a statement, with the comment behind it. -/
def withComment (java c : Text) : Text := if c.trim = [] then java else java ++ " // " ++ c.trim

theorem inlineComment?_eq_some (h : inlineComment? .all s = some (code, comment)) :
    Text.cut? "//" s = some (code, comment) ∨ Text.cut? "#" s = some (code, comment) := by
  rw [inlineComment?] at h
  cases hc : Text.cut? "//" s with
  | some parts =>
    rw [hc] at h
    exact .inl h
  | none =>
    rw [hc] at h
    exact .inr h

theorem statementLine_of_marked (hi : inlineComment? .all s = some (code, comment)) :
    statementLine .all convert s = .ok java ↔
      ∃ before, convert code.trim = .ok before ∧ withComment before comment = java := by
  rw [statementLine, hi]
  constructor
  · intro h
    obtain ⟨before, hb, h⟩ := bind_eq_ok.1 h
    exact ⟨before, hb, Except.ok.inj h⟩
  · rintro ⟨before, hb, rfl⟩
    exact bind_eq_ok.2 ⟨before, hb, rfl⟩

theorem statementLine_of_unmarked (hs : s.includes "//" = false)
    (hn : s.includes "#" = false) : statementLine .all convert s = convert s := by
  rw [statementLine, inlineComment?, Text.cut?_eq_none hs, Text.cut?_eq_none hn]
  rfl

/-- A line without comment marks. -/
structure Uncommented (line : Text) : Prop where
  slashes : line.includes "//" = false
  numberSign : line.includes "#" = false
  quotes : line.includes tripleQuote = false

instance (line : Text) : Decidable (Uncommented line) :=
  decidable_of_iff
    (line.includes "//" = false ∧ line.includes "#" = false ∧ line.includes tripleQuote = false)
    ⟨fun ⟨hs, hn, hq⟩ => ⟨hs, hn, hq⟩, fun h => ⟨h.slashes, h.numberSign, h.quotes⟩⟩

namespace Uncommented

theorem trim_eq_nil (h : Uncommented line) (hs : isStatement line = false) : line.trim = [] := by
  have h₁ := Text.not_startsWith_of_not_includes (Text.includes_trim h.slashes)
  have h₂ := Text.not_startsWith_of_not_includes (Text.includes_trim h.numberSign)
  rw [isStatement, h₁, h₂] at hs
  simpa using hs

theorem entry_eq (h : Uncommented line) (convert : Text → Except Fault Text)
    (hs : isStatement line = true) : entry convert line = convert line.trim := by
  rw [entry, if_pos hs]
  exact statementLine_of_unmarked (Text.includes_trim h.slashes) (Text.includes_trim h.numberSign)

end Uncommented

def State.enter (st : State) (line java : Text) : State :=
  let inside := st.blocks.leave line.indent
  { st with
    margin := some (st.margin.getD line.indent)
    blocks := if java.endsWith "\x7b" then inside.enter line.indent else inside }

theorem enter_openers (st : State) (line java : Text) :
    (st.enter line java).openers =
      if java.endsWith "\x7b" then line.indent :: st.openers.dropWhile (line.indent ≤ ·)
      else st.openers.dropWhile (line.indent ≤ ·) := by
  rw [State.openers, State.enter]
  cases java.endsWith "\x7b" <;> rfl

theorem enter_margin (st : State) (line java : Text) :
    (st.enter line java).margin = some (st.margin.getD line.indent) := rfl

theorem enter_inComment (st : State) (line java : Text) :
    (st.enter line java).inComment = st.inComment := rfl

theorem isOutside_of_margin_none (hm : st.margin = none) (line : Text) :
    isOutside .firstStatement st line = false := by
  rw [isOutside, hm, Option.getD_none, decide_eq_false_iff_not]
  exact Nat.lt_irrefl _

theorem commentLine?_eq_none (hs : line.trim ≠ []) :
    commentLine? .all line.trim = none ↔ isStatement line = true := by
  have he : line.trim.isEmpty = false := by
    rw [Bool.eq_false_iff, ne_eq, List.isEmpty_iff]
    exact hs
  cases h₁ : line.trim.startsWith "//" <;> cases h₂ : line.trim.startsWith "#" <;>
    simp only [commentLine?, isStatement, he, h₁, h₂, ne_eq, reduceCtorEq, not_false_eq_true,
      true_and, Bool.false_eq_true, ↓reduceIte, Bool.not_false, Bool.not_true, Bool.and_true,
      Bool.and_false]

/-- What a line does outside block comments, unless reading stops there: a statement first
closes the blocks that it is not inside of, and nothing else changes the open blocks. -/
theorem step_current (hq : line.includes tripleQuote = false) (hc : st.inComment = false)
    (h : step (.current v) convert st line = .ok (.emit entries next)) :
    ∃ java, entry convert line = .ok java ∧
      ((isStatement line = false ∧ entries = [java] ∧ next = st) ∨
        (isStatement line = true ∧ next = st.enter line java ∧
          entries = closers (st.openers.takeWhile (line.indent ≤ ·)) ++ [java])) := by
  have hq' := Text.includes_trim hq
  simp only [step, hq', hc, Bool.false_eq_true, and_false, ↓reduceIte] at h
  split at h
  · rename_i hs
    cases h
    have hi : isStatement line = false := by simp [isStatement, hs]
    refine ⟨[], ?_, .inl ⟨hi, rfl, rfl⟩⟩
    rw [entry, hi, hs]
    rfl
  · rename_i hs
    split at h
    · rename_i t ht
      cases h
      have hi : isStatement line = false := by
        rw [Bool.eq_false_iff, ne_eq, ← commentLine?_eq_none hs]
        intro hn
        cases ht.symm.trans hn
      refine ⟨t, ?_, .inl ⟨hi, rfl, rfl⟩⟩
      rw [entry, hi]
      change Except.ok ((commentLine? .all line.trim).getD []) = _
      rw [show commentLine? .all line.trim = some t from ht]
      rfl
    · rename_i hn
      have hi : isStatement line = true := (commentLine?_eq_none hs).1 hn
      obtain ⟨stops, -, h⟩ := bind_eq_ok.1 h
      split at h
      · cases h
      · rw [statement] at h
        obtain ⟨java, hj, h⟩ := bind_eq_ok.1 h
        cases h
        refine ⟨java, ?_, .inr ⟨hi, rfl, rfl⟩⟩
        rw [entry, hi]
        exact hj

/-- A statement outside of block comments; a line with a triple quote belongs to a comment. -/
def isCode (inComment : Bool) (line : Text) : Bool :=
  !inComment && !line.trim.includes tripleQuote && isStatement line

/-- Whether a block comment is open behind a line. -/
def commentAfter (inComment : Bool) (line : Text) : Bool :=
  let s := line.trim
  if s.includes tripleQuote then
    !inComment && !(s.startsWith tripleQuote && s.endsWith tripleQuote && decide (6 < s.length))
  else inComment

theorem commentAfter_of_unquoted {inComment : Bool} (h : line.trim.includes tripleQuote = false) :
    commentAfter inComment line = inComment := by
  rw [commentAfter, h]
  rfl

theorem commentAfter_of_isCode {inComment : Bool} (h : isCode inComment line = true) :
    commentAfter inComment line = inComment := by
  simp only [isCode, Bool.and_eq_true, Bool.not_eq_true'] at h
  exact commentAfter_of_unquoted h.1.2

/-- A line that ends the body before it, whatever its lines are. -/
def endsBody (v : Vocabulary) (line : Text) : Bool :=
  v.endsBody line.trim line.indent

theorem endsBody_of_indent (h : 4 < line.indent) : endsBody v line = false := by
  have h₄ : (line.indent == 4) = false := by
    rw [beq_eq_false_iff_ne]
    omega
  have h₀ : (line.indent == 0) = false := by
    rw [beq_eq_false_iff_ne]
    omega
  simp only [endsBody, Vocabulary.endsBody, Synonyms.isHeadingOrMain, Vocabulary.isHeading,
    Vocabulary.opensOuter, h₄, h₀, Bool.and_false, Bool.false_and, Bool.or_self]

theorem step_of_isCode (h : isCode st.inComment line = true) :
    step (.current v) convert st line =
      if endsBody v line || isOutside .firstStatement st line then .ok .stop
      else statement (.current v) convert st line := by
  simp only [isCode, Bool.and_eq_true, Bool.not_eq_true'] at h
  obtain ⟨⟨hc, hq⟩, hs⟩ := h
  have hne : line.trim ≠ [] := by
    intro he
    simp [isStatement, he] at hs
  have hn : commentLine? (BodyRules.current v).comments line.trim = none :=
    (commentLine?_eq_none hne).2 hs
  simp only [step, hq, hc, hne, hn, Bool.false_eq_true, and_false, ↓reduceIte]
  rw [BodyRules.ends_current]
  rfl

/-- The entries that a step writes. -/
def Step.written : Step → List Text
  | stop => []
  | emit entries _ => entries

/-- The entries of a line that is no statement, given the trimmed line. -/
def passEntries (convert : Text → Except Fault Text) (inComment : Bool) (s : Text) :
    Except Fault (List Text) :=
  if s.includes tripleQuote then (commentMark convert { inComment } s).map Step.written
  else if inComment then .ok [if s = [] then [] else "   " ++ s]
  else .ok [(commentLine? .all s).getD []]

theorem commentMark_eq (st : State) (s : Text) :
    commentMark convert st s =
      ((commentMark convert { inComment := st.inComment } s).map Step.written).map fun entries =>
        .emit entries { st with
          inComment := !st.inComment && !(s.startsWith tripleQuote && s.endsWith tripleQuote &&
            decide (6 < s.length)) } := by
  obtain ⟨margin, openers, inComment⟩ := st
  rw [commentMark, commentMark]
  dsimp only
  cases inComment with
  | true =>
    rw [if_pos rfl, if_pos rfl]
    cases s.endsWith tripleQuote with
    | true => rfl
    | false =>
      rw [if_neg Bool.false_ne_true, if_neg Bool.false_ne_true]
      cases cutAt tripleQuote s with
      | error f => rfl
      | ok parts =>
        obtain ⟨content, code⟩ := parts
        by_cases hcode : code.trim = []
        · simp only [bind, Except.bind, hcode, ↓reduceIte]
          rfl
        · simp only [bind, Except.bind, hcode, ↓reduceIte]
          cases convert code.trim with
          | error f => rfl
          | ok java => rfl
  | false =>
    rw [if_neg Bool.false_ne_true, if_neg Bool.false_ne_true]
    cases hs : s.startsWith tripleQuote with
    | true =>
      rw [if_pos rfl, if_pos rfl]
      cases he : s.endsWith tripleQuote && decide (6 < s.length) with
      | true =>
        rw [if_pos rfl, if_pos rfl, Bool.true_and, he]
        rfl
      | false =>
        rw [if_neg Bool.false_ne_true, if_neg Bool.false_ne_true, Bool.true_and, he]
        rfl
    | false =>
      rw [if_neg Bool.false_ne_true, if_neg Bool.false_ne_true]
      cases cutAt tripleQuote s with
      | error f => rfl
      | ok parts =>
        simp only [bind, Except.bind]
        cases convert parts.1.trim with
        | error f => rfl
        | ok java => rfl

/-- A line that is no statement is taken, and changes nothing but whether a comment is open. -/
theorem step_pass (h : isCode st.inComment line = false) :
    step (.current v) convert st line =
      (passEntries convert st.inComment line.trim).map fun entries =>
        .emit entries { st with inComment := commentAfter st.inComment line } := by
  obtain ⟨margin, openers, inComment⟩ := st
  rw [step, passEntries, commentAfter]
  dsimp only at h ⊢
  cases hq : line.trim.includes tripleQuote with
  | true =>
    rw [if_pos ⟨rfl, rfl⟩, if_pos rfl, if_pos rfl]
    exact commentMark_eq _ _
  | false =>
    rw [if_neg fun h => Bool.false_ne_true h.2, if_neg Bool.false_ne_true,
      if_neg Bool.false_ne_true]
    cases inComment with
    | true => rfl
    | false =>
      rw [if_neg Bool.false_ne_true, if_neg Bool.false_ne_true]
      by_cases hne : line.trim = []
      · rw [if_pos hne, hne]
        rfl
      · rw [if_neg hne]
        have hstyle : (BodyRules.current v).comments = .all := rfl
        rw [hstyle]
        cases hn : commentLine? .all line.trim with
        | some entry => rfl
        | none =>
          rw [isCode, hq, (commentLine?_eq_none hne).1 hn] at h
          cases h

theorem step_of_not_isCode {res : Step} (h : isCode st.inComment line = false)
    (hs : step (.current v) convert st line = .ok res) :
    ∃ entries, res = .emit entries { st with inComment := commentAfter st.inComment line } := by
  rw [step_pass h] at hs
  obtain ⟨entries, _, he⟩ := map_eq_ok.1 hs
  exact ⟨entries, he.symm⟩

theorem readFrom_congr_of_not_isCode {st other : State} {line' : Text} {rest' : List Text}
    (h : other.inComment = st.inComment) (ht : line'.trim = line.trim)
    (hc : isCode st.inComment line = false)
    (hrest : readFrom (.current v) convert
        { other with inComment := commentAfter st.inComment line } rest' =
      readFrom (.current v) convert
        { st with inComment := commentAfter st.inComment line } rest) :
    readFrom (.current v) convert other (line' :: rest') =
      readFrom (.current v) convert st (line :: rest) := by
  have hc' : isCode other.inComment line' = false := by
    rw [h, isCode, isStatement, ht]
    exact hc
  have hafter : commentAfter other.inComment line' = commentAfter st.inComment line := by
    rw [h, commentAfter, commentAfter, ht]
  have hs' : step (.current v) convert other line' = _ := step_pass hc'
  have hs : step (.current v) convert st line = _ := step_pass hc
  rw [hafter, h, ht] at hs'
  cases hp : passEntries convert st.inComment line.trim with
  | error f =>
    rw [hp] at hs hs'
    rw [readFrom, readFrom, hs, hs']
    rfl
  | ok entries =>
    rw [hp] at hs hs'
    rw [readFrom_emit hs', readFrom_emit hs, hrest]

theorem step_enter {java : Text} (hc : isCode st.inComment line = true)
    (hn : (endsBody v line || isOutside .firstStatement st line) = false)
    (hj : entry convert line = .ok java) :
    step (.current v) convert st line =
      .ok (.emit (closers (st.openers.takeWhile (line.indent ≤ ·)) ++ [java])
        (st.enter line java)) := by
  rw [entry, if_pos (Bool.and_eq_true_iff.1 hc).2] at hj
  rw [step_of_isCode hc, if_neg (Bool.eq_false_iff.1 hn), statement]
  exact bind_eq_ok.2 ⟨java, hj, rfl⟩

theorem readFrom_of_isCode (hc : isCode st.inComment line = true) :
    readFrom (.current v) convert st (line :: rest) =
      if endsBody v line || isOutside .firstStatement st line then .ok (closers st.openers, 0)
      else entry convert line >>= fun java =>
        (readFrom (.current v) convert (st.enter line java) rest).map fun res =>
          (closers (st.openers.takeWhile (line.indent ≤ ·)) ++ [java] ++ res.1, res.2 + 1) := by
  cases hstop : endsBody v line || isOutside .firstStatement st line with
  | true =>
    apply readFrom_stop
    rw [step_of_isCode hc, hstop]
    rfl
  | false =>
    rw [if_neg Bool.false_ne_true]
    cases hj : entry convert line with
    | ok java => exact readFrom_emit (step_enter hc hstop hj)
    | error f =>
      rw [entry, if_pos (Bool.and_eq_true_iff.1 hc).2] at hj
      rw [readFrom, step_of_isCode hc, hstop, if_neg Bool.false_ne_true, statement,
        show (BodyRules.current v).comments = .all from rfl, hj]
      rfl

/-- What a line can do: a statement stops reading, because bodies end there or because it is
outside of this one, or it is entered; every other line is taken and can only open or close a block
comment. -/
theorem step_cases {res : Step} (h : step (.current v) convert st line = .ok res) :
    (isCode st.inComment line = true ∧ res = .stop ∧
      (endsBody v line || isOutside .firstStatement st line) = true) ∨
    (isCode st.inComment line = true ∧
      (endsBody v line || isOutside .firstStatement st line) = false ∧
      ∃ java, entry convert line = .ok java ∧
        res = .emit (closers (st.openers.takeWhile (line.indent ≤ ·)) ++ [java])
          (st.enter line java)) ∨
    (isCode st.inComment line = false ∧ ∃ entries,
      res = .emit entries { st with inComment := commentAfter st.inComment line }) := by
  cases hc : isCode st.inComment line with
  | false => exact .inr (.inr ⟨rfl, step_of_not_isCode hc h⟩)
  | true =>
    rw [step_of_isCode hc] at h
    split at h
    · rename_i hstop
      cases h
      exact .inl ⟨rfl, rfl, hstop⟩
    · rename_i hstop
      rw [statement] at h
      obtain ⟨java, hj, h⟩ := bind_eq_ok.1 h
      cases h
      have hs : isStatement line = true := (Bool.and_eq_true_iff.1 hc).2
      have he : entry convert line = .ok java := by
        rw [entry, if_pos hs]
        exact hj
      exact .inr (.inl ⟨rfl, Bool.eq_false_iff.2 hstop, java, he, rfl⟩)

/-- The lines that a body takes, one after another. -/
inductive Reads (v : Vocabulary) (convert : Text → Except Fault Text) :
    State → List Text → List Text → Nat → Prop
  | finish {st : State} : Reads v convert st [] (closers st.openers) 0
  | stop {st : State} {line : Text} {rest : List Text} (code : isCode st.inComment line = true)
    (ends : (endsBody v line || isOutside .firstStatement st line) = true) :
    Reads v convert st (line :: rest) (closers st.openers) 0
  | enter {st : State} {line java : Text} {rest body : List Text} {n : Nat}
    (code : isCode st.inComment line = true)
    (stays : (endsBody v line || isOutside .firstStatement st line) = false)
    (java_eq : entry convert line = .ok java)
    (more : Reads v convert (st.enter line java) rest body n) :
    Reads v convert st (line :: rest)
      (closers (st.openers.takeWhile (line.indent ≤ ·)) ++ [java] ++ body) (n + 1)
  | pass {st : State} {line : Text} {rest entries body : List Text} {n : Nat}
    (comment : isCode st.inComment line = false)
    (emits : step (.current v) convert st line =
      .ok (.emit entries { st with inComment := commentAfter st.inComment line }))
    (more : Reads v convert { st with inComment := commentAfter st.inComment line } rest body n) :
    Reads v convert st (line :: rest) (entries ++ body) (n + 1)

theorem Reads.of_readFrom (h : readFrom (.current v) convert st lines = .ok (body, n)) :
    Reads v convert st lines body n := by
  induction lines generalizing st body n with
  | nil =>
    obtain ⟨rfl, rfl⟩ := readFrom_nil h
    exact .finish
  | cons line rest ih =>
    rcases readFrom_cons h with ⟨hs, rfl, rfl⟩ | ⟨entries, next, tail, m, hs, ht, rfl, rfl⟩
    · rcases step_cases hs with ⟨hc, _, he⟩ | ⟨_, _, _, _, he⟩ | ⟨_, _, he⟩
      · exact .stop hc he
      · cases he
      · cases he
    · rcases step_cases hs with ⟨_, he, _⟩ | ⟨hc, hn, java, hj, he⟩ | ⟨hc, _, he⟩
      · cases he
      · cases he
        exact .enter hc hn hj (ih ht)
      · cases he
        exact .pass hc hs (ih ht)

theorem Reads.readFrom_eq (h : Reads v convert st lines body n) :
    readFrom (.current v) convert st lines = .ok (body, n) := by
  induction h with
  | finish => exact readFrom_end _ _ _
  | stop hc he =>
    apply readFrom_stop
    rw [step_of_isCode hc, if_pos he]
  | enter hc hn hj _ ih =>
    rw [readFrom_emit (step_enter hc hn hj), ih]
    rfl
  | pass _ hs _ ih =>
    rw [readFrom_emit hs, ih]
    rfl

end JavaSketch.Body
