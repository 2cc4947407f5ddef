import JavaSketch.Proofs.BlockComments
import JavaSketch.Proofs.CommentMarks
import JavaSketch.Proofs.Locality
import Mathlib.Logic.Function.Basic

namespace JavaSketch

namespace Text

variable {line c : Text}

theorem trimLeft_ne_nil (h : line.trim ≠ []) : line.trimLeft ≠ [] := by
  intro he
  rw [trim, he] at h
  exact h rfl

theorem trim_comment (h : line.trim ≠ []) (c : Text) :
    (line ++ " // " ++ c).trim = line.trimLeft ++ ' ' :: '/' :: '/' :: trimRight (' ' :: c) := by
  have hpad : ∀ c ∈ line.takeWhile isBlank, isBlank c = true :=
    List.all_eq_true.1 List.all_takeWhile
  have hsplit : line ++ " // " ++ c =
      line.takeWhile isBlank ++ (line.trimLeft ++ " /" ++ '/' :: ' ' :: c) := by
    simp only [trimLeft, List.append_assoc]
    rw [← List.append_assoc (line.takeWhile isBlank), List.takeWhile_append_dropWhile]
    rfl
  have hhead : ∀ c ∈ (line.trimLeft ++ " /" ++ ['/']).head?, isBlank c = false := by
    intro d hd
    rw [List.append_assoc, List.head?_append_of_ne_nil _ (trimLeft_ne_nil h)] at hd
    exact not_of_head_dropWhile hd
  rw [hsplit, trim_append hpad, trim_append_cons hhead (by decide), List.append_assoc]
  rfl

theorem exists_trim_comment (h : line.trim ≠ []) (c : Text) : ∃ pad rest,
    (∀ d ∈ pad, isBlank d = true) ∧
      (line ++ " // " ++ c).trim = line.trim ++ (pad ++ '/' :: '/' :: rest) := by
  obtain ⟨pad, hp, he⟩ := exists_trimRight line.trimLeft
  refine ⟨pad ++ [' '], trimRight (' ' :: c), ?_, ?_⟩
  · exact List.forall_mem_append.2 ⟨hp, List.all_eq_true.1 rfl⟩
  · have hl : line.trimLeft = line.trim ++ pad := he
    rw [trim_comment h, hl, List.append_assoc, List.append_assoc]
    rfl

theorem indent_comment (h : line.trim ≠ []) (c : Text) :
    (line ++ " // " ++ c).indent = line.indent := by
  rw [indent, indent, List.append_assoc, List.takeWhile_append, if_neg]
  intro hl
  have he := (List.takeWhile_prefix isBlank).eq_of_length hl
  have hall : ∀ d ∈ line, isBlank d = true := by
    rw [← he]
    exact List.all_eq_true.1 List.all_takeWhile
  exact trimLeft_ne_nil h (List.dropWhile_eq_nil_iff.2 hall)

end Text

namespace Body

variable {v : Vocabulary} {convert : Text → Except Fault Text} {st : State}
  {line java c : Text} {lines body : List Text} {i j n : Nat}

theorem trim_ne_nil_of_isStatement (hs : isStatement line = true) : line.trim ≠ [] := by
  intro he
  rw [isStatement, he] at hs
  cases hs

theorem withComment_eq_iff (hc : c ≠ []) :
    withComment java c = java ++ " // " ++ c ↔ c.trim = c := by
  rw [withComment]
  split
  · rename_i ht
    rw [ht]
    refine iff_of_false ?_ hc.symm
    intro he
    have hl := congrArg List.length he
    rw [List.length_append, List.length_append] at hl
    have hd : 4 = " // ".toList.length := by decide
    omega
  · exact List.append_right_inj _

theorem includes_comment (hq : c.includes tripleQuote = true) :
    (line ++ " // " ++ c).trim.includes tripleQuote = true := by
  apply includes_of_delimiters
  rw [ne_eq, delimiters_eq_zero, Bool.not_eq_false, Text.includes_iff]
  exact (Text.includes_iff.1 hq).trans (List.suffix_append _ _).isInfix

theorem not_isCode_comment (inComment : Bool) (hq : c.includes tripleQuote = true) :
    isCode inComment (line ++ " // " ++ c) = false := by
  rw [isCode, includes_comment hq, Bool.not_true, Bool.and_false, Bool.false_and]

namespace Uncommented

variable (hu : Uncommented line) (hs : isStatement line = true)
include hu hs

theorem isStatement_comment (c : Text) : isStatement (line ++ " // " ++ c) = true := by
  have hne := trim_ne_nil_of_isStatement hs
  have hstart {part : Text} (hp : ' ' ∉ part) (hi : line.includes part = false) :
      (line ++ " // " ++ c).trim.startsWith part = false := by
    rw [Text.trim_comment hne]
    apply Text.not_startsWith_append_cons hp
    exact Text.not_includes_of_infix line.trimLeft_suffix.isInfix hi
  rw [isStatement, hstart (by decide) hu.slashes, hstart (by decide) hu.numberSign,
    Text.trim_comment hne]
  simp

theorem entry_comment (c : Text) (hj : entry convert line = .ok java) :
    entry convert (line ++ " // " ++ c) = .ok (withComment java c) := by
  have hcut : inlineComment? .all (line ++ " // " ++ c).trim =
      some (line.trimLeft ++ [' '], Text.trimRight (' ' :: c)) := by
    have hl : line.trimLeft.includes "//" = false :=
      Text.not_includes_of_infix line.trimLeft_suffix.isInfix hu.slashes
    have hself : Text.cut? "//" ('/' :: '/' :: Text.trimRight (' ' :: c)) =
        some ([], Text.trimRight (' ' :: c)) := Text.cut?_self (by decide) _
    rw [inlineComment?, Text.trim_comment (trim_ne_nil_of_isStatement hs),
      Text.cut?_append_cons (by decide) hl, hself]
    rfl
  have hcode : Text.trim (line.trimLeft ++ [' ']) = line.trim := by
    rw [Text.trim_append_right (List.all_eq_true.1 rfl), Text.trim_trimLeft]
  have hcomment : Text.trim (Text.trimRight ([' '] ++ c)) = c.trim := by
    rw [Text.trim_trimRight, Text.trim_append (List.all_eq_true.1 rfl)]
  rw [hu.entry_eq convert hs, ← hcode] at hj
  rw [entry, if_pos (hu.isStatement_comment hs c), statementLine_of_marked hcut]
  refine ⟨java, hj, ?_⟩
  rw [withComment, withComment, ← hcomment]
  rfl

omit hs in
theorem quotes_comment (hq : c.includes tripleQuote = false) :
    (line ++ " // " ++ c).includes tripleQuote = false := by
  have he : line ++ " // " ++ c = line ++ ' ' :: ("//" ++ ' ' :: c) := by
    rw [List.append_assoc]
    rfl
  rw [he, Text.includes_append_cons (by decide), Text.includes_append_cons (by decide), hu.quotes,
    hq]
  rfl

theorem isCode_comment (hq : c.includes tripleQuote = false) :
    isCode false (line ++ " // " ++ c) = true := by
  rw [isCode, hu.isStatement_comment hs, Text.includes_trim (hu.quotes_comment hq)]
  rfl

theorem commentAfter_comment (hq : c.includes tripleQuote = true) :
    commentAfter false (line ++ " // " ++ c) = true := by
  have hstart : (line ++ " // " ++ c).trim.startsWith tripleQuote = false := by
    rw [Text.trim_comment (trim_ne_nil_of_isStatement hs)]
    apply Text.not_startsWith_append_cons (by decide)
    exact Text.not_includes_of_infix line.trimLeft_suffix.isInfix hu.quotes
  rw [commentAfter, includes_comment hq, hstart]
  rfl

omit hu in
theorem endsBody_comment (hv : v.SlashFree) (c : Text) (he : endsBody v line = false) :
    endsBody v (line ++ " // " ++ c) = false := by
  have hne := trim_ne_nil_of_isStatement hs
  obtain ⟨pad, rest, hp, ht⟩ := Text.exists_trim_comment hne c
  have hopens : v.opensTemplate (line ++ " // " ++ c).trim = v.opensTemplate line.trim := by
    have htt := Text.trim_trim (line ++ " // " ++ c)
    rw [ht] at htt
    rw [Vocabulary.opensTemplate, Vocabulary.opensTemplate, ht,
      hv.templateName?_append hp line.trim_trim htt]
  have hslash : '/' ∈ Text.trim (line ++ " // " ++ c).trim.dropLast := by
    apply Text.mem_trim _ (by decide)
    rw [ht, ← List.append_assoc, List.dropLast_append_cons, List.dropLast_cons_cons]
    exact List.mem_append_right _ List.mem_cons_self
  have hmain : ((line ++ " // " ++ c).trim == "main".toList) = false := by
    rw [beq_eq_false_iff_ne]
    intro hm
    rw [hm] at hslash
    exact absurd hslash (by decide)
  have hheading : ("main".toList :: v.memberSections).contains
      (Text.trim (line ++ " // " ++ c).trim.dropLast) = false := by
    rw [Bool.eq_false_iff, ne_eq, List.contains_iff_mem]
    intro hm
    rcases List.mem_cons.1 hm with hm | hm
    · rw [hm] at hslash
      exact absurd hslash (by decide)
    · exact hv.notMem_memberSections hm hslash
  have houter : (line.indent == 0 && v.opensTemplate line.trim) = false := by
    have ho : v.opensOuter line.trim line.indent = false := (Bool.or_eq_false_iff.1 he).2
    rw [Vocabulary.opensOuter, Bool.and_or_distrib_left] at ho
    exact (Bool.or_eq_false_iff.1 ho).1
  simp only [endsBody, Vocabulary.endsBody, Synonyms.isHeadingOrMain, Vocabulary.isHeading,
    Vocabulary.opensOuter, hmain, hheading, hopens, Text.indent_comment hne, Bool.and_false,
    Bool.false_and, Bool.or_false, houter]

end Uncommented

theorem step_blank (h : line.trim = []) (hc : st.inComment = false) :
    step (.current v) convert st line = .ok (.emit [[]] st) := by
  simp only [step, h, hc]
  rfl

theorem commentAfter_blank (h : line.trim = []) :
    { st with inComment := commentAfter st.inComment line } = st := by
  rw [commentAfter_of_unquoted (by rw [h]; rfl)]

theorem Uncommented.trim_eq_nil_of_not_isCode (hu : Uncommented line) (hc : st.inComment = false)
    (h : isCode st.inComment line = false) : line.trim = [] := by
  apply hu.trim_eq_nil
  rw [isCode, hc, Text.includes_trim hu.quotes] at h
  exact h

namespace Reads

theorem blank {rest : List Text} (hc : st.inComment = false) (hb : line.trim = [])
    (h : Reads v convert st rest body n) :
    Reads v convert st (line :: rest) ([[]] ++ body) (n + 1) := by
  have hst : { st with inComment := commentAfter st.inComment line } = st := commentAfter_blank hb
  have hcode : isCode st.inComment line = false := by
    rw [isCode, isStatement, hb]
    exact Bool.and_false _
  apply pass hcode
  · rw [hst]
    exact step_blank hb hc
  · rw [hst]
    exact h

theorem reopened (h : Reads v convert st lines body n) (hc : st.inComment = false)
    (hu : ∀ line ∈ lines, Uncommented line) (blocks : Blocks) :
    ∃ other, Reads v convert { st with blocks } lines other n := by
  induction h generalizing blocks with
  | finish => exact ⟨_, .finish⟩
  | stop code ends => exact ⟨_, .stop code ends⟩
  | @enter st line java rest body n code stays java_eq more ih =>
    obtain ⟨other, ho⟩ := ih hc (List.forall_mem_cons.1 hu).2
      (State.enter { st with blocks } line java).blocks
    exact ⟨_, .enter code stays java_eq ho⟩
  | @pass st line rest entries body n comment emits more ih =>
    obtain ⟨hl, hr⟩ := List.forall_mem_cons.1 hu
    have hb := hl.trim_eq_nil_of_not_isCode hc comment
    rw [commentAfter_blank hb] at ih
    obtain ⟨other, ho⟩ := ih hc hr blocks
    exact ⟨_, ho.blank hc hb⟩

/-- A comment behind a statement that a body takes changes nothing in which lines it takes. -/
theorem commented (hv : v.SlashFree) (h : Reads v convert st lines body n)
    (hc : st.inComment = false) (hu : ∀ line ∈ lines, Uncommented line) (hj : j < n)
    (hl : lines[j]? = some line) (hs : isStatement line = true)
    (hq : c.includes tripleQuote = false) :
    ∃ other, Reads v convert st (lines.set j (line ++ " // " ++ c)) other n := by
  induction h generalizing j with
  | finish => exact absurd hj (Nat.not_lt_zero j)
  | stop => exact absurd hj (Nat.not_lt_zero j)
  | @enter st first java rest body n code stays java_eq more ih =>
    obtain ⟨hfirst, hrest⟩ := List.forall_mem_cons.1 hu
    cases j with
    | zero =>
      cases hl
      have hi : (line ++ " // " ++ c).indent = line.indent :=
        Text.indent_comment (trim_ne_nil_of_isStatement hs) c
      obtain ⟨hends, hout⟩ := Bool.or_eq_false_iff.1 stays
      have hstays : (endsBody v (line ++ " // " ++ c) ||
          isOutside .firstStatement st (line ++ " // " ++ c)) = false := by
        rw [Uncommented.endsBody_comment hs hv c hends, Bool.false_or, isOutside, hi]
        exact hout
      have hcode : isCode st.inComment (line ++ " // " ++ c) = true := by
        rw [hc]
        exact hfirst.isCode_comment hs hq
      have hentry := hfirst.entry_comment hs c java_eq
      have hnext : st.enter (line ++ " // " ++ c) (withComment java c) =
          { st.enter line java with
            blocks := (st.enter (line ++ " // " ++ c) (withComment java c)).blocks } := by
        simp only [State.enter, hi]
      obtain ⟨other, ho⟩ := more.reopened hc hrest _
      rw [← hnext] at ho
      exact ⟨_, .enter hcode hstays hentry ho⟩
    | succ j =>
      obtain ⟨other, ho⟩ := ih hc hrest (Nat.lt_of_succ_lt_succ hj) hl
      exact ⟨_, .enter code stays java_eq ho⟩
  | @pass st first rest entries body n comment emits more ih =>
    obtain ⟨hfirst, hrest⟩ := List.forall_mem_cons.1 hu
    have hb := hfirst.trim_eq_nil_of_not_isCode hc comment
    cases j with
    | zero =>
      cases hl
      exact absurd hb (trim_ne_nil_of_isStatement hs)
    | succ j =>
      rw [commentAfter_blank hb] at ih
      obtain ⟨other, ho⟩ := ih hc hrest (Nat.lt_of_succ_lt_succ hj) hl
      exact ⟨_, ho.blank hc hb⟩

theorem exists_pass {rest : List Text} (h : Reads v convert st (line :: rest) body n)
    (hc : isCode st.inComment line = false) : ∃ tail m,
      Reads v convert { st with inComment := commentAfter st.inComment line } rest tail m ∧
        n = m + 1 := by
  cases h with
  | stop code => exact absurd (code.symm.trans hc) Bool.noConfusion
  | enter code => exact absurd (code.symm.trans hc) Bool.noConfusion
  | pass _ _ more => exact ⟨_, _, more, rfl⟩

theorem to_end (h : Reads v convert st lines body n) (hc : st.inComment = true)
    (hu : ∀ line ∈ lines, Uncommented line) : n = lines.length := by
  induction h with
  | finish => rfl
  | stop code =>
    rw [isCode, hc] at code
    cases code
  | enter code =>
    rw [isCode, hc] at code
    cases code
  | pass _ _ _ ih =>
    obtain ⟨hl, hr⟩ := List.forall_mem_cons.1 hu
    rw [commentAfter_of_unquoted (Text.includes_trim hl.quotes)] at ih
    exact congrArg Nat.succ (ih hc hr)

theorem hides_rest {other : List Text} {m : Nat} (h : Reads v convert st lines body n)
    (hc : st.inComment = false) (hu : ∀ line ∈ lines, Uncommented line) (hj : j < n)
    (hl : lines[j]? = some line) (hs : isStatement line = true)
    (hq : c.includes tripleQuote = true)
    (ho : Reads v convert st (lines.set j (line ++ " // " ++ c)) other m) : m = lines.length := by
  induction h generalizing j other m with
  | finish => exact absurd hj (Nat.not_lt_zero j)
  | stop => exact absurd hj (Nat.not_lt_zero j)
  | @enter st first java rest body n code stays java_eq more ih =>
    obtain ⟨hfirst, hrest⟩ := List.forall_mem_cons.1 hu
    cases j with
    | zero =>
      cases hl
      have hcode : isCode st.inComment (line ++ " // " ++ c) = false := not_isCode_comment _ hq
      obtain ⟨tail, k, htail, rfl⟩ := ho.exists_pass hcode
      rw [hc, hfirst.commentAfter_comment hs hq] at htail
      exact congrArg Nat.succ (htail.to_end rfl hrest)
    | succ j =>
      cases ho with
      | stop _ ends => exact absurd (ends.symm.trans stays) Bool.noConfusion
      | enter _ _ java_eq' more =>
        cases java_eq.symm.trans java_eq'
        exact congrArg Nat.succ (ih hc hrest (Nat.lt_of_succ_lt_succ hj) hl more)
      | pass comment => exact absurd (code.symm.trans comment) Bool.noConfusion
  | @pass st first rest entries body n comment emits more ih =>
    obtain ⟨hfirst, hrest⟩ := List.forall_mem_cons.1 hu
    have hb := hfirst.trim_eq_nil_of_not_isCode hc comment
    cases j with
    | zero =>
      cases hl
      exact absurd hb (trim_ne_nil_of_isStatement hs)
    | succ j =>
      obtain ⟨tail, k, htail, rfl⟩ := ho.exists_pass comment
      rw [commentAfter_blank hb] at ih htail
      exact congrArg Nat.succ (ih hc hrest (Nat.lt_of_succ_lt_succ hj) hl htail)

end Reads

namespace Mark

variable {stated opens opens' : Nat → Bool} {indent : Nat → Nat} {stack : List Nat}

/-- A body has an entry for each line and for the end of each block. -/
theorem length_layout : (layout stated opens indent stack i n).length =
    stack.length + n + (List.range' i n).countP fun k => stated k && opens k := by
  induction n generalizing stack i with
  | zero =>
    rw [layout, List.length_map]
    rfl
  | succ n ih =>
    have hsplit : (stack.takeWhile fun j => decide (indent i ≤ indent j)).length +
        (stack.dropWhile fun j => decide (indent i ≤ indent j)).length = stack.length := by
      rw [← List.length_append, List.takeWhile_append_dropWhile]
    rw [layout, List.range'_succ, List.countP_cons]
    cases hs : stated i with
    | false =>
      rw [if_neg Bool.false_ne_true, List.length_cons, ih, Bool.false_and,
        if_neg Bool.false_ne_true]
      omega
    | true =>
      rw [if_pos rfl, List.length_append, List.length_cons, List.length_map, ih, Bool.true_and]
      cases opens i with
      | false =>
        rw [if_neg Bool.false_ne_true, if_neg Bool.false_ne_true]
        omega
      | true =>
        rw [if_pos rfl, if_pos rfl, List.length_cons]
        omega

/-- Two ways to open blocks that differ at one statement make bodies of different lengths. -/
theorem eq_of_length_layout (hj : j ∈ List.range' i n) (hs : stated j = true)
    (ho : ∀ k, k ≠ j → opens' k = opens k)
    (hl : (layout stated opens' indent stack i n).length =
      (layout stated opens indent stack i n).length) : opens' = opens := by
  have hperm := List.perm_cons_erase hj
  have hrest : ((List.range' i n).erase j).countP (fun k => stated k && opens' k) =
      ((List.range' i n).erase j).countP (fun k => stated k && opens k) := by
    apply List.countP_congr
    intro k hk
    have hne : k ≠ j := ((List.Nodup.mem_erase_iff List.nodup_range').1 hk).1
    rw [ho k hne]
  rw [length_layout, length_layout, hperm.countP_eq, hperm.countP_eq, List.countP_cons,
    List.countP_cons, hrest, hs, Bool.true_and, Bool.true_and] at hl
  funext k
  by_cases hk : k = j
  · subst hk
    revert hl
    cases opens' k <;> cases opens k <;> simp
  · exact ho k hk

end Mark

theorem lineAt_set (hj : j < lines.length) (k : Nat) :
    lineAt (lines.set j line) k = if k = j then line else lineAt lines k := by
  rw [lineAt, lineAt, List.getD_eq_getElem?_getD, List.getD_eq_getElem?_getD, List.getElem?_set]
  by_cases hk : k = j
  · rw [if_pos hk, if_pos hk.symm, if_pos hj]
    rfl
  · rw [if_neg hk, if_neg (Ne.symm hk)]

theorem Mark.line_mem {marks : List Mark} (h : marks.filterMap Mark.line? = List.range' i n)
    (hj : j ∈ List.range' i n) : Mark.line j ∈ marks := by
  rw [← h, List.mem_filterMap] at hj
  obtain ⟨m, hm, he⟩ := hj
  cases m with
  | line k =>
    cases he
    exact hm
  | close k => cases he

section

variable (hj : j < lines.length) (hu : Uncommented (lineAt lines j))
  (hs : isStatement (lineAt lines j) = true) (c : Text)
include hj hs

theorem indentAt_comment :
    indentAt (lines.set j (lineAt lines j ++ " // " ++ c)) = indentAt lines := by
  funext k
  rw [indentAt, indentAt, lineAt_set hj]
  split
  · rename_i hk
    rw [hk]
    exact Text.indent_comment (trim_ne_nil_of_isStatement hs) c
  · rfl

include hu

theorem isStatement_comment :
    (fun k => isStatement (lineAt (lines.set j (lineAt lines j ++ " // " ++ c)) k)) =
      fun k => isStatement (lineAt lines k) := by
  funext k
  rw [lineAt_set hj]
  split
  · rename_i hk
    rw [hk, hs]
    exact hu.isStatement_comment hs c
  · rfl

variable (he : entry convert (lineAt lines j) = .ok (javaAt convert lines j))
include he

theorem javaAt_comment :
    javaAt convert (lines.set j (lineAt lines j ++ " // " ++ c)) =
      Function.update (javaAt convert lines) j (withComment (javaAt convert lines j) c) := by
  funext k
  by_cases hk : k = j
  · rw [hk, Function.update_self, javaAt, lineAt_set hj, if_pos rfl, hu.entry_comment hs c he]
  · rw [Function.update_of_ne hk, javaAt, lineAt_set hj, if_neg hk]
    rfl

theorem opensAt_comment :
    opensAt convert (lines.set j (lineAt lines j ++ " // " ++ c)) =
      Function.update (opensAt convert lines) j
        ((withComment (javaAt convert lines j) c).endsWith "\x7b") := by
  funext k
  rw [opensAt, javaAt_comment hj hu hs c he, congrFun (isStatement_comment hj hu hs c) k]
  by_cases hk : k = j
  · rw [hk, Function.update_self, Function.update_self, hs, Bool.true_and]
  · rw [Function.update_of_ne hk, Function.update_of_ne hk]
    rfl

theorem layout_comment_iff (hc : c ≠ []) (hm : j ∈ List.range' i n)
    (ho : (layoutAt convert lines [] i n).filterMap Mark.line? = List.range' i n) :
    (layoutAt convert (lines.set j (lineAt lines j ++ " // " ++ c)) [] i n).map
        (Mark.text (javaAt convert (lines.set j (lineAt lines j ++ " // " ++ c)))) =
      (layoutAt convert lines [] i n).map (Mark.text
        (Function.update (javaAt convert lines) j (javaAt convert lines j ++ " // " ++ c))) ↔
      c.trim = c ∧ opensAt convert lines j = c.endsWith "\x7b" := by
  have hend : (javaAt convert lines j ++ " // " ++ c).endsWith "\x7b" = c.endsWith "\x7b" :=
    Text.endsWith_append hc
  rw [javaAt_comment hj hu hs c he, layoutAt, isStatement_comment hj hu hs c,
    indentAt_comment hj hs c, opensAt_comment hj hu hs c he]
  constructor
  · intro h
    have hl := congrArg List.length h
    rw [List.length_map, List.length_map, layoutAt] at hl
    have hopens := Mark.eq_of_length_layout hm hs (fun k hk => Function.update_of_ne hk _ _) hl
    rw [hopens] at h
    have htext := List.map_inj_left.1 h _ (Mark.line_mem ho hm)
    rw [Mark.text, Mark.text, Function.update_self, Function.update_self] at htext
    have hopen := congrFun hopens j
    rw [Function.update_self, htext, hend] at hopen
    exact ⟨(withComment_eq_iff hc).1 htext, hopen.symm⟩
  · rintro ⟨ht, hopen⟩
    rw [(withComment_eq_iff hc).2 ht, hend, ← hopen, Function.update_eq_self]
    rfl

end

/-- A comment behind a statement of a body changes the entry of the statement only, and adds just
the comment to it, exactly if the comment has no blanks around it and ends in a brace if and only if
the statement opens a block. This is so for comments without a triple quote; with one, the comment
hides all the lines behind it. -/
theorem trailing_comment_iff (v : Vocabulary) (lines : List Text) (i j n : Nat) (c : Text)
    (hv : v.SlashFree) (hu : ∀ line ∈ lines, Uncommented line)
    (h : readAt v lines i = .ok (body, n)) (hi : i ≤ j) (hj : j < n)
    (hs : isStatement (lineAt lines j) = true) (hc : c ≠ []) :
    let java := javaAt (Statement.convert .current) lines
    let changed := lines.set j (lineAt lines j ++ " // " ++ c)
    (c.includes tripleQuote = false →
      ∃ marks commented, Accounts (Statement.convert .current) lines i (n - i) [] body marks ∧
        readAt v changed i = .ok (commented, n) ∧
        (commented = marks.map (Mark.text (Function.update java j (java j ++ " // " ++ c))) ↔
          c.trim = c ∧ opensAt (Statement.convert .current) lines j = c.endsWith "\x7b")) ∧
      (c.includes tripleQuote = true →
        ∀ commented m, readAt v changed i = .ok (commented, m) → m = lines.length) := by
  intro java changed
  obtain ⟨m, hm, rfl⟩ := numbered_eq_ok.1 h
  have hlen : j < lines.length := by
    have hle := readFrom_le hm
    rw [List.length_drop] at hle
    omega
  have hget : lines[j]? = some (lineAt lines j) := by
    rw [lineAt, List.getD_eq_getElem?_getD, List.getElem?_eq_getElem hlen]
    rfl
  have hline := hu _ (List.mem_of_getElem? hget)
  have hdrop : (lines.drop i)[j - i]? = some (lineAt lines j) := by
    rw [List.getElem?_drop, Nat.add_sub_cancel' hi, hget]
  have hu' : ∀ line ∈ lines.drop i, Uncommented line :=
    fun line hl => hu line (List.mem_of_mem_drop hl)
  have hset : (lines.drop i).set (j - i) (lineAt lines j ++ " // " ++ c) = changed.drop i := by
    rw [List.drop_set, if_neg (Nat.not_lt_of_le hi)]
  have hreads := Reads.of_readFrom hm
  constructor
  · intro hq
    have htracks (lines : List Text) : Tracks lines {} [] := ⟨rfl, rfl, List.Pairwise.nil⟩
    have hacc := readFrom_layout (fun line hl => (hu line hl).quotes) (htracks lines) hm
    obtain ⟨commented, hother⟩ := hreads.commented hv rfl hu' (by omega) hdrop hs hq
    rw [hset] at hother
    have hquotes : ∀ line ∈ changed, line.includes tripleQuote = false := by
      intro line hl
      rcases List.mem_or_eq_of_mem_set hl with hl | rfl
      · exact (hu line hl).quotes
      · exact hline.quotes_comment hq
    have htexts := readFrom_layout hquotes (htracks _) hother.readFrom_eq
    have hrange : j ∈ List.range' i m := List.mem_range'_1.2 ⟨hi, hj⟩
    rw [Nat.add_sub_cancel_left]
    refine ⟨_, commented, hacc, numbered_eq_ok.2 ⟨m, hother.readFrom_eq, rfl⟩, ?_⟩
    rw [htexts.texts]
    exact layout_comment_iff hlen hline hs c (hacc.entries j hi hj) hc hrange hacc.in_order
  · intro hq commented k hk
    obtain ⟨m', hm', rfl⟩ := numbered_eq_ok.1 hk
    rw [← hset] at hm'
    have hend := hreads.hides_rest rfl hu' (by omega) hdrop hs hq (Reads.of_readFrom hm')
    rw [List.length_drop] at hend
    omega

theorem trailing_comment_hides_block :
    ∃ marks commented, Accounts (Statement.convert .current) ["    if a:", "        x()"] 0 2 []
        ["if (a) \x7b", "x();", "\x7d"] marks ∧
      readAt .standard ["    if a: // note", "        x()"] 0 = .ok (commented, 2) ∧
      commented ≠ marks.map (Mark.text (Function.update
        (javaAt (Statement.convert .current) ["    if a:", "        x()"]) 0
        ("if (a) \x7b" ++ " // " ++ "note"))) := by
  obtain ⟨marks, commented, hm, hc, hiff⟩ := (trailing_comment_iff .standard
    ["    if a:", "        x()"] 0 0 2 "note" Vocabulary.standard_slashFree (by decide) rfl
    (Nat.le_refl 0) (by decide) rfl (by decide)).1 rfl
  refine ⟨marks, commented, hm, hc, ?_⟩
  intro he
  exact absurd (hiff.1 he).2 (by decide)

end Body

end JavaSketch
