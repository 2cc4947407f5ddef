import JavaSketch.Proofs.Blocks
import JavaSketch.Proofs.Consumption
import JavaSketch.Proofs.StatementPieces

namespace JavaSketch

/-- A text without the marks of Java comments. -/
structure Plain (t : Text) : Prop where
  opening : t.includes "/*" = false
  closing : t.includes "*/" = false

instance (t : Text) : Decidable (Plain t) :=
  decidable_of_iff (t.includes "/*" = false ∧ t.includes "*/" = false)
    ⟨fun ⟨ho, hc⟩ => ⟨ho, hc⟩, fun h => ⟨h.opening, h.closing⟩⟩

/-- The mark of a comment at the start of a text, written as a brace. -/
def mark? (s : Text) : Option Char :=
  if s.startsWith "/*" then some openBrace
  else if s.startsWith "*/" then some closeBrace
  else none

/-- The marks of comments in a text, from the left, each written as a brace. -/
def commentMarks : Text → Text
  | [] => []
  | c :: s => (mark? (c :: s)).toList ++ commentMarks s

variable {s t c : Text} {q : Char}

theorem notMem_marks (hq : q ≠ '/' ∧ q ≠ '*') : q ∉ "/*".toList ∧ q ∉ "*/".toList := by
  simp [hq.1, hq.2]

theorem mark?_append_cons (hq : q ≠ '/' ∧ q ≠ '*') : mark? (s ++ q :: t) = mark? s := by
  obtain ⟨hopen, hclose⟩ := notMem_marks hq
  rw [mark?, mark?, Text.startsWith_append_cons hopen, Text.startsWith_append_cons hclose]

/-- The marks on the two sides of a character that is part of no mark. -/
theorem commentMarks_append_cons (hq : q ≠ '/' ∧ q ≠ '*') :
    commentMarks (s ++ q :: t) = commentMarks s ++ commentMarks t := by
  induction s with
  | nil =>
    have hm : mark? (q :: t) = none := mark?_append_cons (s := []) hq
    change (mark? (q :: t)).toList ++ commentMarks t = commentMarks t
    rw [hm]
    rfl
  | cons d s ih =>
    have hm : mark? (d :: (s ++ q :: t)) = mark? (d :: s) := mark?_append_cons (s := d :: s) hq
    rw [List.cons_append, commentMarks, hm, ih, commentMarks, List.append_assoc]

theorem commentMarks_unlines (entries : List Text) :
    commentMarks (Text.unlines entries) = entries.flatMap commentMarks := by
  cases entries with
  | nil => rfl
  | cons entry entries =>
    rw [Text.unlines, Text.join_cons, List.flatMap_cons]
    induction entries generalizing entry with
    | nil => rw [List.flatMap_nil, List.flatMap_nil, List.append_nil, List.append_nil]
    | cons next entries ih =>
      rw [List.flatMap_cons, List.flatMap_cons, ← ih next, List.append_assoc]
      exact commentMarks_append_cons (by decide)

namespace Plain

theorem piece (hs : Plain s) (h : t <:+: s) : Plain t :=
  ⟨Text.not_includes_of_infix h hs.opening, Text.not_includes_of_infix h hs.closing⟩

theorem trim (hs : Plain s) : Plain s.trim := hs.piece s.trim_infix

theorem joined (hq : q ≠ '/' ∧ q ≠ '*') (hs : Plain s) (ht : Plain t) : Plain (s ++ q :: t) := by
  obtain ⟨hopen, hclose⟩ := notMem_marks hq
  constructor
  · rw [Text.includes_append_cons hopen, hs.opening, ht.opening]
    rfl
  · rw [Text.includes_append_cons hclose, hs.closing, ht.closing]
    rfl

theorem of_slashFree (h : '/' ∉ s) : Plain s := by
  constructor
  · rw [Bool.eq_false_iff, ne_eq, Text.includes_iff]
    exact fun hi => h (hi.subset (by decide))
  · rw [Bool.eq_false_iff, ne_eq, Text.includes_iff]
    exact fun hi => h (hi.subset (by decide))

theorem piecewise : Piecewise javaGlue Plain where
  empty := by decide
  piece := piece
  joined hq := by
    refine joined ⟨?_, ?_⟩
    · rintro rfl
      cases hq
    · rintro rfl
      cases hq
  lower _ hn := of_slashFree fun hm => hn (Text.sign_mem_lower hm (by decide))

theorem commentMarks_eq (h : Plain t) : commentMarks t = [] := by
  induction t with
  | nil => rfl
  | cons d t ih =>
    have hm : mark? (d :: t) = none := by
      rw [mark?, Text.not_startsWith_of_not_includes h.opening,
        Text.not_startsWith_of_not_includes h.closing]
      rfl
    rw [commentMarks, hm, ih (h.piece (List.suffix_cons d t).isInfix)]
    rfl

end Plain

theorem Statement.convert_plain (hs : Plain s) (h : convert .current s = .ok t) : Plain t := by
  have hopen {t : Text} (ht : Plain t) : Plain (t ++ [openBrace]) :=
    ht.joined (by decide) Plain.piecewise.empty
  have hclose {t : Text} (ht : Plain t) : Plain (closeBrace :: t) :=
    Plain.joined (s := []) (by decide) Plain.piecewise.empty ht
  exact convert_keeps Plain.piecewise hopen hclose hs h

namespace Body

variable {v : Vocabulary} {st next : State} {line java : Text} {lines rest body entries : List Text}
  {n : Nat}

theorem commentMarks_openComment (hc : Plain c) : commentMarks (openComment c) = [openBrace] := by
  have hspaced : commentMarks ("/*" ++ ' ' :: c) = [openBrace] := by
    rw [commentMarks_append_cons (by decide), hc.commentMarks_eq]
    rfl
  rw [openComment]
  split
  · rfl
  · exact hspaced

theorem commentMarks_closeComment (hc : Plain c) :
    commentMarks (closeComment c) = [closeBrace] := by
  rw [closeComment]
  split
  · rfl
  · have hspaced : commentMarks (("  " ++ ' ' :: c) ++ ' ' :: "*/") = [closeBrace] := by
      rw [commentMarks_append_cons (by decide), commentMarks_append_cons (by decide),
        hc.commentMarks_eq]
      rfl
    exact hspaced

theorem commentMarks_oneLine (hc : Plain c) :
    commentMarks ("/* " ++ c ++ " */") = [openBrace, closeBrace] := by
  have hspaced : commentMarks (("/*" ++ ' ' :: c) ++ ' ' :: "*/") = [openBrace, closeBrace] := by
    rw [commentMarks_append_cons (by decide), commentMarks_append_cons (by decide),
      hc.commentMarks_eq]
    rfl
  exact hspaced

theorem infix_of_inlineComment? {code comment : Text}
    (h : inlineComment? .all s = some (code, comment)) : code <:+: s ∧ comment <:+: s := by
  rcases inlineComment?_eq_some h with hc | hc
  · exact Text.infix_of_cut? hc
  · exact Text.infix_of_cut? hc

theorem statementLine_plain (hs : Plain s)
    (h : statementLine .all (Statement.convert .current) s = .ok java) : Plain java := by
  cases hi : inlineComment? .all s with
  | none =>
    rw [statementLine, hi] at h
    exact Statement.convert_plain hs h
  | some parts =>
    obtain ⟨hcode, hcomment⟩ := infix_of_inlineComment? hi
    obtain ⟨before, hb, rfl⟩ := (statementLine_of_marked hi).1 h
    have hbefore : Plain before := Statement.convert_plain (hs.piece hcode).trim hb
    have hafter : Plain parts.2.trim := (hs.piece hcomment).trim
    rw [withComment]
    split
    · exact hbefore
    · have hj : Plain (before ++ ' ' :: ("//" ++ ' ' :: parts.2.trim)) :=
        hbefore.joined (by decide) (Plain.joined (by decide) (by decide) hafter)
      rw [List.append_assoc]
      exact hj

theorem commentLine?_plain (hs : Plain s) (h : commentLine? .all s = some java) : Plain java := by
  rw [commentLine?] at h
  split at h
  · cases h
    exact hs
  · split at h
    · cases h
      have hd : Plain (Text.trim (s.drop 1)) := (hs.piece (List.drop_suffix 1 s).isInfix).trim
      have hj : Plain ("//" ++ ' ' :: Text.trim (s.drop 1)) :=
        Plain.joined (by decide) (by decide) hd
      exact hj
    · cases h

/-- A line that is no mark of a comment gives plain entries. -/
theorem flatMap_plain (h : ∀ entry ∈ entries, Plain entry) : entries.flatMap commentMarks = [] :=
  List.flatMap_eq_nil_iff.2 fun entry he => (h entry he).commentMarks_eq

theorem closers_plain (openers : List Nat) : ∀ entry ∈ closers openers, Plain entry := by
  intro entry he
  obtain ⟨_, _, rfl⟩ := List.mem_map.1 he
  decide

theorem commentMark_marks (hs : Plain s)
    (h : commentMark (Statement.convert .current) st s = .ok (.emit entries next)) :
    depthAfter st.inComment.toNat (entries.flatMap commentMarks) =
      some next.inComment.toNat := by
  obtain ⟨margin, blocks, inComment⟩ := st
  have hcut {parts : Text × Text} (hc : cutAt tripleQuote s = .ok parts) :
      Plain parts.1 ∧ Plain parts.2 := Plain.piecewise.cut? hs (of_cutAt hc)
  rw [commentMark] at h
  cases inComment with
  | true =>
    rw [if_pos rfl] at h
    split at h
    · cases h
      have hp : Plain (Text.trim (s.take (s.length - 3))) :=
        (hs.piece (List.take_prefix _ _).isInfix).trim
      rw [List.flatMap_singleton, commentMarks_closeComment hp]
      rfl
    · obtain ⟨parts, hc, h⟩ := bind_eq_ok.1 h
      obtain ⟨hcontent, hcode⟩ := hcut hc
      dsimp only at h
      split at h
      · cases h
        rw [List.flatMap_singleton, commentMarks_closeComment hcontent.trim]
        rfl
      · obtain ⟨java, hj, h⟩ := bind_eq_ok.1 h
        cases h
        rw [List.flatMap_cons, commentMarks_closeComment hcontent.trim, List.flatMap_singleton,
          (Statement.convert_plain hcode.trim hj).commentMarks_eq]
        rfl
  | false =>
    rw [if_neg Bool.false_ne_true] at h
    split at h
    · split at h
      · cases h
        have hp : Plain (Text.trim ((s.drop 3).take (s.length - 6))) :=
          (hs.piece ((List.take_prefix _ _).isInfix.trans (List.drop_suffix _ _).isInfix)).trim
        rw [List.flatMap_singleton, commentMarks_oneLine hp]
        rfl
      · cases h
        have hp : Plain (Text.trim (s.drop 3)) := (hs.piece (List.drop_suffix _ _).isInfix).trim
        rw [List.flatMap_singleton, commentMarks_openComment hp]
        rfl
    · obtain ⟨parts, hc, h⟩ := bind_eq_ok.1 h
      obtain ⟨hcode, hcontent⟩ := hcut hc
      obtain ⟨java, hj, h⟩ := bind_eq_ok.1 h
      cases h
      rw [List.flatMap_cons, (Statement.convert_plain hcode.trim hj).commentMarks_eq,
        List.flatMap_singleton, commentMarks_openComment hcontent.trim]
      rfl

theorem step_marks (hl : Plain line)
    (h : step (.current v) (Statement.convert .current) st line = .ok (.emit entries next)) :
    depthAfter st.inComment.toNat (entries.flatMap commentMarks) =
      some next.inComment.toNat := by
  have hs : Plain line.trim := hl.trim
  have hplain {st : State} {entries : List Text} (he : ∀ entry ∈ entries, Plain entry) :
      depthAfter st.inComment.toNat (entries.flatMap commentMarks) = some st.inComment.toNat := by
    rw [flatMap_plain he]
    rfl
  rw [step] at h
  split at h
  · exact commentMark_marks hs h
  · split at h
    · cases h
      apply hplain
      rw [List.forall_mem_singleton]
      split
      · exact Plain.piecewise.empty
      · have hp : Plain ("  " ++ ' ' :: line.trim) := Plain.joined (by decide) (by decide) hs
        exact hp
    · split at h
      · cases h
        apply hplain
        exact List.forall_mem_singleton.2 Plain.piecewise.empty
      · split at h
        · rename_i java hj
          cases h
          apply hplain
          rw [List.forall_mem_singleton]
          exact commentLine?_plain hs hj
        · obtain ⟨stops, -, h⟩ := bind_eq_ok.1 h
          split at h
          · cases h
          · rw [statement] at h
            obtain ⟨java, hj, h⟩ := bind_eq_ok.1 h
            cases h
            apply hplain
            apply List.forall_mem_append.2 ⟨closers_plain _, _⟩
            rw [List.forall_mem_singleton]
            exact statementLine_plain hs hj

theorem step_inComment {convert : Text → Except Fault Text}
    (h : step (.current v) convert st line = .ok (.emit entries next)) :
    next.inComment = commentAfter st.inComment line := by
  rcases step_cases h with ⟨_, he, _⟩ | ⟨hc, _, java, _, he⟩ | ⟨_, _, he⟩
  · cases he
  · cases he
    exact (commentAfter_of_isCode hc).symm
  · cases he
    rfl

/-- Along a body, the marks of comments open and close what the lines open and close. -/
theorem readFrom_marks (hp : ∀ line ∈ lines, Plain line)
    (h : readFrom (.current v) (Statement.convert .current) st lines = .ok (body, n)) :
    depthAfter st.inComment.toNat (body.flatMap commentMarks) =
      some ((lines.take n).foldl commentAfter st.inComment).toNat := by
  induction lines generalizing st body n with
  | nil =>
    obtain ⟨rfl, rfl⟩ := readFrom_nil h
    rw [flatMap_plain (closers_plain _)]
    rfl
  | cons line rest ih =>
    obtain ⟨hl, hr⟩ := List.forall_mem_cons.1 hp
    rcases readFrom_cons h with ⟨_, rfl, rfl⟩ | ⟨entries, next, tail, m, hs, ht, rfl, rfl⟩
    · rw [flatMap_plain (closers_plain _)]
      rfl
    · rw [List.flatMap_append, depthAfter_append (step_marks hl hs), ih hr ht, List.take_succ_cons,
        List.foldl_cons, step_inComment hs]

/-- Reading stops at a statement, so it stops outside of comments. -/
theorem Reads.outside_of_stop {convert : Text → Except Fault Text}
    (h : Reads v convert st lines body n) (hn : n < lines.length) :
    (lines.take n).foldl commentAfter st.inComment = false := by
  induction h with
  | finish => exact absurd hn (Nat.not_lt_zero 0)
  | stop code =>
    rw [List.take_zero, List.foldl_nil]
    simp only [isCode, Bool.and_eq_true, Bool.not_eq_true'] at code
    exact code.1.1
  | enter code _ _ _ ih =>
    rw [List.take_succ_cons, List.foldl_cons, commentAfter_of_isCode code]
    exact ih (Nat.lt_of_succ_lt_succ hn)
  | pass _ _ _ ih =>
    rw [List.take_succ_cons, List.foldl_cons]
    exact ih (Nat.lt_of_succ_lt_succ hn)

/-- The triple quotes in a text, from the left and without overlap; the counter says how many
characters of the last one are still to come. -/
def delimitersFrom : Nat → Text → Nat
  | _, [] => 0
  | n + 1, _ :: s => delimitersFrom n s
  | 0, c :: s =>
    if tripleQuote.isPrefixOf (c :: s) then delimitersFrom 2 s + 1 else delimitersFrom 0 s

def delimiters (s : Text) : Nat := delimitersFrom 0 s

def isOneLine (s : Text) : Bool :=
  s.startsWith tripleQuote && s.endsWith tripleQuote && decide (6 < s.length)

/-- A line with one triple quote at most, or a comment of one line with two. -/
def Tidy (inComment : Bool) (line : Text) : Prop :=
  delimiters line ≤ 1 ∨ (inComment = false ∧ isOneLine line.trim = true ∧ delimiters line = 2)

instance (inComment : Bool) (line : Text) : Decidable (Tidy inComment line) :=
  inferInstanceAs (Decidable (_ ∨ _))

theorem delimiters_eq_zero : delimiters s = 0 ↔ s.includes tripleQuote = false := by
  induction s with
  | nil => exact ⟨fun _ => rfl, fun _ => rfl⟩
  | cons d s ih =>
    rw [delimiters, delimitersFrom, Text.includes, Text.cut?]
    split
    · exact iff_of_false (Nat.succ_ne_zero _) Bool.noConfusion
    · rw [Option.isSome_map]
      exact ih

theorem not_prefix_blank {d : Char} (hd : isBlank d = true) (s : Text) :
    tripleQuote.isPrefixOf (d :: s) = false := by
  have hne : ('"' == d) = false := by
    rw [beq_eq_false_iff_ne]
    rintro rfl
    cases hd
  change ('"' == d && _) = false
  rw [hne, Bool.false_and]

theorem delimiters_append_left {pad : Text} (hp : ∀ c ∈ pad, isBlank c = true) :
    delimiters (pad ++ s) = delimiters s := by
  induction pad with
  | nil => rfl
  | cons d pad ih =>
    obtain ⟨hd, hp⟩ := List.forall_mem_cons.1 hp
    rw [List.cons_append, delimiters, delimitersFrom, not_prefix_blank hd,
      if_neg Bool.false_ne_true]
    exact ih hp

theorem delimitersFrom_blank {pad : Text} (hp : ∀ c ∈ pad, isBlank c = true) (n : Nat) :
    delimitersFrom n pad = 0 := by
  induction pad generalizing n with
  | nil => rw [delimitersFrom]
  | cons d pad ih =>
    obtain ⟨hd, hp⟩ := List.forall_mem_cons.1 hp
    cases n with
    | zero =>
      rw [delimitersFrom, not_prefix_blank hd, if_neg Bool.false_ne_true]
      exact ih hp 0
    | succ n =>
      rw [delimitersFrom]
      exact ih hp n

theorem delimitersFrom_append_right {pad : Text} (hp : ∀ c ∈ pad, isBlank c = true) (n : Nat) :
    delimitersFrom n (s ++ pad) = delimitersFrom n s := by
  induction s generalizing n with
  | nil =>
    rw [List.nil_append, delimitersFrom_blank hp, delimitersFrom]
  | cons d s ih =>
    cases n with
    | succ n =>
      rw [List.cons_append, delimitersFrom, delimitersFrom]
      exact ih n
    | zero =>
      have hstart : tripleQuote.isPrefixOf (d :: (s ++ pad)) = tripleQuote.isPrefixOf (d :: s) := by
        cases pad with
        | nil => rw [List.append_nil]
        | cons b pad =>
          have hb : b ∉ tripleQuote := by
            intro hm
            have he : b = '"' := by simpa [tripleQuote] using hm
            rw [he] at hp
            exact absurd (hp _ List.mem_cons_self) (by decide)
          exact Text.startsWith_append_cons (s := d :: s) hb
      rw [List.cons_append, delimitersFrom, delimitersFrom, hstart, ih, ih]

theorem delimiters_trim (line : Text) : delimiters line.trim = delimiters line := by
  obtain ⟨pad, hp, he⟩ := Text.exists_trimRight line.trimLeft
  have hright : delimiters line.trim = delimiters line.trimLeft := by
    rw [he]
    exact (delimitersFrom_append_right hp 0).symm
  have hleft : delimiters (line.takeWhile isBlank ++ line.trimLeft) = delimiters line.trimLeft :=
    delimiters_append_left (List.all_eq_true.1 List.all_takeWhile)
  rw [hright, ← hleft, Text.trimLeft, List.takeWhile_append_dropWhile]

theorem two_le_delimiters (h : isOneLine s = true) : 2 ≤ delimiters s := by
  simp only [isOneLine, Bool.and_eq_true, decide_eq_true_eq] at h
  obtain ⟨⟨hstart, hend⟩, hlen⟩ := h
  obtain ⟨rest, rfl⟩ := List.isPrefixOf_iff_prefix.1 hstart
  have hrest : tripleQuote <:+ rest := by
    apply List.suffix_of_suffix_length_le (List.isSuffixOf_iff_suffix.1 hend)
      (List.suffix_append _ _)
    rw [List.length_append] at hlen
    have hthree : tripleQuote.length = 3 := rfl
    omega
  have hpos : delimiters rest ≠ 0 := by
    rw [ne_eq, delimiters_eq_zero, Text.includes_iff.2 hrest.isInfix]
    exact Bool.noConfusion
  have hone : delimiters (tripleQuote ++ rest) = delimiters rest + 1 := rfl
  omega

theorem includes_of_delimiters (h : delimiters line ≠ 0) :
    line.trim.includes tripleQuote = true := by
  rw [← delimiters_trim, ne_eq, delimiters_eq_zero] at h
  exact (Bool.not_eq_false _).mp h

theorem Tidy.commentAfter_eq {inComment : Bool} (h : Tidy inComment line) :
    commentAfter inComment line = (inComment ^^ decide (delimiters line % 2 = 1)) := by
  have hdef : commentAfter inComment line =
      if line.trim.includes tripleQuote then !inComment && !isOneLine line.trim
      else inComment := rfl
  rcases h with h | ⟨rfl, ho, hd⟩
  · rcases Nat.le_one_iff_eq_zero_or_eq_one.1 h with hz | hd
    · have hi := delimiters_eq_zero.1 ((delimiters_trim line).trans hz)
      rw [hdef, hi, hz]
      exact (Bool.xor_false inComment).symm
    · have ho : isOneLine line.trim = false := by
        rw [Bool.eq_false_iff]
        intro ho
        have htwo := two_le_delimiters ho
        rw [delimiters_trim] at htwo
        omega
      rw [hdef, includes_of_delimiters (by omega), ho, hd, if_pos rfl, Bool.not_false,
        Bool.and_true]
      exact (Bool.xor_true inComment).symm
  · rw [hdef, includes_of_delimiters (by omega), ho, hd]
    rfl

def delimitersIn : List Text → Nat
  | [] => 0
  | line :: rest => delimiters line + delimitersIn rest

theorem decide_odd_add (m k : Nat) :
    decide ((m + k) % 2 = 1) = (decide (m % 2 = 1) ^^ decide (k % 2 = 1)) := by
  rcases Nat.mod_two_eq_zero_or_one m with hm | hm <;>
    rcases Nat.mod_two_eq_zero_or_one k with hk | hk <;> simp [Nat.add_mod, hm, hk]

theorem foldl_commentAfter {inComment : Bool}
    (h : ∀ k line, lines[k]? = some line →
      Tidy ((lines.take k).foldl commentAfter inComment) line) :
    lines.foldl commentAfter inComment =
      (inComment ^^ decide (delimitersIn lines % 2 = 1)) := by
  induction lines generalizing inComment with
  | nil => exact (Bool.xor_false inComment).symm
  | cons line rest ih =>
    have hl : Tidy inComment line := h 0 line rfl
    have hr := ih fun k other hk => h (k + 1) other hk
    rw [List.foldl_cons, hr, hl.commentAfter_eq, delimitersIn, decide_odd_add, Bool.xor_assoc]

/-- Whether a block comment is open in front of a line. -/
def inCommentAt (lines : List Text) (k : Nat) : Bool := (lines.take k).foldl commentAfter false

/-- The comments of a body are closed exactly if none is open behind the last line of the body. So
it is if the triple quotes are even in number and each line of the body is tidy: a line that has
more of them still opens or closes only one comment. -/
theorem block_comments_paired (v : Vocabulary) (lines : List Text)
    (hp : ∀ line ∈ lines, Plain line) (h : ofProgram v lines = .ok (body, n)) :
    (Balanced (commentMarks (Text.unlines body)) ↔ inCommentAt lines n = false) ∧
      (delimitersIn lines % 2 = 0 →
        (∀ k < n, Tidy (inCommentAt lines k) (lineAt lines k)) →
        Balanced (commentMarks (Text.unlines body))) := by
  have hd : depthAfter 0 (commentMarks (Text.unlines body)) = some (inCommentAt lines n).toNat := by
    rw [commentMarks_unlines]
    exact readFrom_marks hp h
  have hiff : Balanced (commentMarks (Text.unlines body)) ↔ inCommentAt lines n = false := by
    constructor
    · intro hb
      rw [hb.depthAfter 0, Option.some.injEq] at hd
      exact Bool.toNat_eq_zero.1 hd.symm
    · intro hn
      rw [hn] at hd
      exact .of_depthAfter hd
  refine ⟨hiff, fun he ht => hiff.2 ?_⟩
  by_cases hn : n < lines.length
  · exact (Reads.of_readFrom h).outside_of_stop hn
  · have hall : lines.take n = lines := List.take_of_length_le (Nat.le_of_not_lt hn)
    have hf : lines.foldl commentAfter false =
        (false ^^ decide (delimitersIn lines % 2 = 1)) := by
      apply foldl_commentAfter
      intro k line hk
      have hlen := (List.getElem?_eq_some_iff.1 hk).1
      have hline := ht k (by omega)
      rw [lineAt, List.getD_eq_getElem?_getD, hk] at hline
      exact hline
    rw [inCommentAt, hall, hf, he]
    rfl

theorem comment_left_open :
    delimitersIn ["x() \"\"\" note \"\"\"", "y()"] % 2 = 0 ∧
      ofProgram Vocabulary.standard ["x() \"\"\" note \"\"\"", "y()"] =
        .ok (["x();", "/* note \"\"\"", "   y()"], 2) ∧
      ¬ Balanced (commentMarks (Text.unlines ["x();", "/* note \"\"\"", "   y()"])) ∧
      Balanced (commentMarks (Text.unlines ["x();", "/* a", "   b */", "y();", "/* c */"])) := by
  refine ⟨by decide, rfl, ?_, ?_⟩
  · intro hb
    have hn := (block_comments_paired .standard ["x() \"\"\" note \"\"\"", "y()"] (by decide)
      rfl).1.1 hb
    cases hn
  · exact (block_comments_paired .standard ["x() \"\"\" a", "b \"\"\" y()", "\"\"\" c \"\"\""]
      (by decide) rfl).2 (by decide) (by decide)

end Body

end JavaSketch
