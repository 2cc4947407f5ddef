import JavaSketch.Proofs.Consumption
import JavaSketch.Proofs.StatementPieces

namespace JavaSketch

def inQuotes (c : Text) : Text := '"' :: (c ++ ['"'])

namespace Text

variable {head part c : Text}

theorem getLast?_inQuotes (head c : Text) : (head ++ inQuotes c).getLast? = some '"' := by
  rw [inQuotes, ← List.cons_append, ← List.append_assoc]
  exact List.getLast?_concat

theorem includes_inQuotes (hp : part ≠ []) (hq : '"' ∉ part) :
    (head ++ inQuotes c).includes part = (head.includes part || c.includes part) := by
  have hnil : includes [] part = false := by
    cases part with
    | nil => exact absurd rfl hp
    | cons d part => rfl
  rw [inQuotes, includes_append_cons hq, includes_append_cons hq, hnil, Bool.or_false]

theorem not_includes_tripleQuote (hh : '"' ∉ head) (hc : '"' ∉ c) :
    (head ++ inQuotes c).includes Body.tripleQuote = false := by
  rw [Bool.eq_false_iff, ne_eq, includes_iff]
  intro h
  have hle := h.sublist.count_le '"'
  have htwo : (head ++ inQuotes c).count '"' = 2 := by
    rw [inQuotes, List.count_append, List.count_cons_self, List.count_append,
      List.count_eq_zero.2 hh, List.count_eq_zero.2 hc]
    rfl
  rw [htwo] at hle
  exact absurd hle (by decide)

theorem head_inQuotes (hh : ∀ d ∈ head.head?, isBlank d = false) :
    ∀ d ∈ (head ++ inQuotes c).head?, isBlank d = false := by
  cases head with
  | nil =>
    intro d hd
    cases hd
    rfl
  | cons d head => exact hh

theorem trim_inQuotes (head c : Text) (hh : ∀ d ∈ head.head?, isBlank d = false) :
    (head ++ inQuotes c).trim = head ++ inQuotes c := by
  apply trim_of_ends (head_inQuotes hh)
  intro d hd
  rw [getLast?_inQuotes] at hd
  cases hd
  rfl

/-- A text that does not end as the separator does ends behind it. -/
theorem getLast?_cut? {sep s before after : Text} {d q : Char} (hs : s.getLast? = some q)
    (hsep : sep.getLast? = some d) (hd : d ≠ q) (h : cut? sep s = some (before, after)) :
    after.getLast? = some q := by
  rw [eq_of_cut? h, List.getLast?_append] at hs
  cases hl : after.getLast? with
  | some e =>
    rw [hl] at hs
    exact hs
  | none =>
    rw [hl, Option.none_or, List.getLast?_append, hsep] at hs
    exact absurd (Option.some.inj hs) hd

/-- What stands in front of a separator inside of quotes has no quote. -/
theorem notMem_of_cut?_quote {sep before after : Text} (hc : '"' ∉ c)
    (hs : sep.getLast? = some ' ') (h : cut? sep (c ++ ['"']) = some (before, after)) :
    '"' ∉ before := by
  have hp : before ++ sep <+: c ++ ['"'] := by
    rw [eq_of_cut? h]
    exact List.prefix_append _ _
  rcases List.prefix_concat_iff.1 hp with he | hp
  · have hl := congrArg List.getLast? he
    rw [List.getLast?_append, hs, List.getLast?_concat] at hl
    cases hl
  · intro hq
    exact hc (hp.subset (List.mem_append_left _ hq))

end Text

namespace Body

variable {v : Vocabulary} {convert : Text → Except Fault Text} {line java s head c : Text}

theorem ofProgram_single (hc : isCode false line = true) (he : endsBody v line = false) :
    ofProgram v [line] = (entry (Statement.convert .current) line).map fun java =>
      (java :: closers (State.enter {} line java).openers, 1) := by
  have ho : isOutside .firstStatement {} line = false := isOutside_of_margin_none rfl line
  rw [ofProgram, read, readFrom_of_isCode hc, he, ho, Bool.or_self, if_neg Bool.false_ne_true]
  cases entry (Statement.convert .current) line with
  | error f => rfl
  | ok java =>
    simp only [bind, Except.bind, readFrom_end]
    rfl

theorem ofProgram_single_iff (hc : isCode false line = true) (he : endsBody v line = false)
    (hj : java.endsWith "\x7b" = false) :
    ofProgram v [line] = .ok ([java], 1) ↔ entry (Statement.convert .current) line = .ok java := by
  rw [ofProgram_single hc he]
  constructor
  · intro h
    cases hr : entry (Statement.convert .current) line with
    | error f =>
      rw [hr] at h
      cases h
    | ok other =>
      rw [hr] at h
      have hb : other :: _ = [java] := congrArg Prod.fst (Except.ok.inj h)
      rw [(List.cons.inj hb).1]
  · intro h
    rw [h]
    have ho : (State.enter {} line java).openers = [] := by
      rw [State.enter, hj]
      rfl
    rw [Except.map, ho]
    rfl

theorem exists_inlineComment? (h : s.includes "//" = true ∨ s.includes "#" = true) :
    ∃ code comment, inlineComment? .all s = some (code, comment) := by
  rw [inlineComment?]
  cases hslash : Text.cut? "//" s with
  | some parts => exact ⟨parts.1, parts.2, rfl⟩
  | none =>
    cases hsign : Text.cut? "#" s with
    | some parts => exact ⟨parts.1, parts.2, rfl⟩
    | none =>
      rw [Text.includes, Text.includes, hslash, hsign] at h
      exact absurd h (by decide)

theorem getLast?_statementLine {q : Char} (hs : s.getLast? = some q) (hb : isBlank q = false)
    (hq : q ≠ '/' ∧ q ≠ '#') (hm : s.includes "//" = true ∨ s.includes "#" = true)
    (h : statementLine .all convert s = .ok java) : java.getLast? = some q := by
  obtain ⟨code, comment, hi⟩ := exists_inlineComment? hm
  have hl : comment.getLast? = some q := by
    rcases inlineComment?_eq_some hi with hc | hc
    · exact Text.getLast?_cut? hs rfl hq.1.symm hc
    · exact Text.getLast?_cut? hs rfl hq.2.symm hc
  have ht := Text.getLast?_trim hl hb
  have hne : comment.trim ≠ [] := by
    intro he
    rw [he] at ht
    cases ht
  obtain ⟨before, _, rfl⟩ := (statementLine_of_marked hi).1 h
  rw [withComment, if_neg hne, List.getLast?_append, ht]
  rfl

theorem quoted_isCode (hh : ∀ d ∈ head.head?, isBlank d = false) (hq : '"' ∉ head) (hc : '"' ∉ c)
    (hs : head.includes "//" = false) (hn : head.includes "#" = false) :
    isCode false ("    " ++ (head ++ inQuotes c)) = true := by
  have hslash : (head ++ inQuotes c).startsWith "//" = false :=
    Text.not_startsWith_append_cons (by decide) hs
  have hsign : (head ++ inQuotes c).startsWith "#" = false :=
    Text.not_startsWith_append_cons (by decide) hn
  have hne : (head ++ inQuotes c).isEmpty = false := by
    rw [Bool.eq_false_iff, ne_eq, List.isEmpty_iff]
    exact List.append_ne_nil_of_right_ne_nil head (List.cons_ne_nil _ _)
  rw [isCode, isStatement, Text.trim_append (List.all_eq_true.1 rfl), Text.trim_inQuotes head c hh,
    Text.not_includes_tripleQuote hq hc, hslash, hsign, hne]
  rfl

theorem quoted_not_endsBody (v : Vocabulary) (hh : ∀ d ∈ head.head?, isBlank d = false) :
    endsBody v ("    " ++ (head ++ inQuotes c)) = false := by
  have hi : Text.indent ("    " ++ (head ++ inQuotes c)) = 4 :=
    Text.indent_append (List.all_eq_true.1 rfl) (Text.head_inQuotes hh)
  have hl := Text.getLast?_inQuotes head c
  have hcolon : (head ++ inQuotes c).endsWith ":" = false :=
    Text.not_endsWith_of_getLast? hl (by decide)
  have hmain : (head ++ inQuotes c == "main".toList) = false := by
    rw [beq_eq_false_iff_ne]
    intro he
    rw [he] at hl
    cases hl
  rw [endsBody, Text.trim_append (List.all_eq_true.1 rfl), Text.trim_inQuotes head c hh, hi]
  simp only [Vocabulary.endsBody, Synonyms.isHeadingOrMain, Vocabulary.isHeading,
    Vocabulary.opensOuter, hcolon, hmain, Bool.false_and, Bool.or_self]
  rfl

end Body

namespace Statement

variable {c t : Text}

theorem convert_print (c : Text) :
    convert .current ("print " ++ inQuotes c) = .ok (println (inQuotes c)) := by
  have hf : Text.startsWith ("print " ++ inQuotes c) "print f\"" = false := rfl
  have hp : Text.startsWith ("print " ++ inQuotes c) "print " = true := rfl
  have hq : (inQuotes c).isQuoted = true := by
    have he : (inQuotes c).endsWith ['"'] = true :=
      List.isSuffixOf_iff_suffix.2 (List.suffix_append ('"' :: c) ['"'])
    rw [Text.isQuoted, he]
    rfl
  have hr : plainPrint Stage.current.print ("print " ++ inQuotes c) = println (inQuotes c) := by
    rw [plainPrint, show ("print " ++ inQuotes c : Text).drop 6 = inQuotes c from rfl,
      show (inQuotes c).trim = inQuotes c from Text.trim_inQuotes [] c (by simp), contentPrint,
      if_pos hq]
  rw [convert, convertBy, Text.trim_inQuotes "print " c (Text.head_cons rfl), rules_current,
    earlyRules, printRules]
  simp only [List.cons_append, List.findSome?_cons, Rule.opening, hf, hp, Bool.false_eq_true,
    ↓reduceIte, hr]
  rfl

theorem getLast?_println (argument : Text) : (println argument).getLast? = some ';' := by
  have h (t : Text) : (t ++ ");").getLast? = some ';' := by
    rw [List.getLast?_append]
    rfl
  exact h _

/-- Text by which an assignment is taken for a declaration. -/
def declares (c : Text) : Bool :=
  c.includes " as " && (c.includes " with " || !comparisons.any c.includes)

theorem isAssignment_message (c : Text) :
    isAssignment ("msg = " ++ inQuotes c) = !comparisons.any c.includes := by
  have he : Text.includes ("msg = " ++ inQuotes c) "=" = true := rfl
  have hc : ∀ t ∈ comparisons, Text.includes ("msg = " ++ inQuotes c) t = c.includes t := by
    intro t ht
    have hk : t ≠ [] ∧ '"' ∉ t ∧ Text.includes "msg = " t = false := by
      revert t
      decide
    rw [Text.includes_inQuotes hk.1 hk.2.1, hk.2.2, Bool.false_or]
  have ha : comparisons.any (Text.includes ("msg = " ++ inQuotes c)) =
      comparisons.any c.includes := by
    rw [Bool.eq_iff_iff, List.any_eq_true, List.any_eq_true]
    exact exists_congr fun t => and_congr_right fun ht => by rw [hc t ht]
  rw [isAssignment, he, Bool.true_and, ha]

theorem not_isAsciiName {s : Text} {d : Char} (h : d ∈ s) (hd : isAsciiWord d = false) :
    isAsciiName s = false := by
  cases s with
  | nil => rfl
  | cons e s =>
    rcases List.mem_cons.1 h with rfl | h
    · simp only [isAsciiWord, Char.isAlphanum, Bool.or_eq_false_iff] at hd
      rw [isAsciiName, hd.1.1, hd.2]
      rfl
    · have hs : s.all isAsciiWord = false := List.all_eq_false.2 ⟨d, h, Bool.eq_false_iff.1 hd⟩
      rw [isAsciiName, hs, Bool.and_false]

theorem not_isBareLocal_message (c : Text) : isBareLocal ("msg = " ++ inQuotes c) = false := by
  rw [isBareLocal, inQuotes, Text.cut?_append_cons (by decide) rfl]
  cases Text.cut? " as " (c ++ ['"']) with
  | none => rfl
  | some res =>
    have hm : '=' ∈ Text.trim ("msg = " ++ '"' :: res.1) := Text.mem_trim (by simp) rfl
    simp only [Option.map_some, not_isAsciiName hm rfl, Bool.and_false, Bool.false_and]

theorem isLocal_message (c : Text) : isLocal ("msg = " ++ inQuotes c) = declares c := by
  have hv : Text.startsWith ("msg = " ++ inQuotes c) "var " = false := rfl
  have ha : Text.includes ("msg = " ++ inQuotes c) " as " = c.includes " as " :=
    Text.includes_inQuotes (by decide) (by decide)
  have hw : Text.includes ("msg = " ++ inQuotes c) " with " = c.includes " with " :=
    Text.includes_inQuotes (by decide) (by decide)
  rw [isLocal, isValuedLocal, hasValue, hv, ha, hw, isAssignment_message, not_isBareLocal_message,
    Bool.and_false, Bool.or_false, Bool.false_or, declares]

theorem trim_message {s : Text} :
    Text.trim ("msg = " ++ '"' :: s) = "msg = " ++ '"' :: s.trimRight :=
  Text.trim_append_cons (Text.head_cons rfl) rfl

theorem declared_ne {type rest : Text} (ht : '"' ∉ type) (value : Option Text) :
    declared type ("msg = " ++ '"' :: rest) value ≠ "msg = " ++ inQuotes c ++ ";" := by
  have he : ∃ more, declared type ("msg = " ++ '"' :: rest) value =
      (type ++ " msg = ") ++ '"' :: more := by
    rw [declared.eq_def]
    split
    all_goals
      simp only [List.append_assoc]
      exact ⟨_, rfl⟩
  obtain ⟨more, he⟩ := he
  intro h
  have hm : (type ++ " msg = ") ++ '"' :: more = "msg = " ++ '"' :: (c ++ ['"'] ++ ";") :=
    he.symm.trans h
  have hq : '"' ∉ type ++ " msg = " := by
    rw [List.mem_append, not_or]
    exact ⟨ht, by decide⟩
  have hl := congrArg List.length (Text.eq_of_append_cons hm hq (by decide))
  rw [List.length_append] at hl
  exact absurd hl (by simp)

theorem partAndValue_with (hc : '"' ∉ c) (hw : c.includes " with " = true) :
    ∃ before value, '"' ∉ before ∧ partAndValue .all ("msg = " ++ inQuotes c) =
      ("msg = " ++ '"' :: before, some value) := by
  have hi : Text.includes (c ++ ['"']) " with " = true := by
    rw [Text.includes_append_cons (by decide), hw]
    rfl
  obtain ⟨⟨before, after⟩, hcut⟩ := Option.isSome_iff_exists.1 hi
  refine ⟨before.trimRight, after.trim, ?_, ?_⟩
  · intro hq
    exact Text.notMem_of_cut?_quote hc rfl hcut ((Text.dropEndWhile_isPrefix _ _).subset hq)
  · rw [partAndValue, inQuotes, Text.cut?_append_cons (by decide) rfl, hcut, Option.map_some]
    dsimp only
    rw [trim_message]

theorem partAndValue_without (hw : c.includes " with " = false) :
    (partAndValue .all ("msg = " ++ inQuotes c)).1 = "msg" := by
  have hi : Text.includes ("msg = " ++ inQuotes c) " with " = false :=
    (Text.includes_inQuotes (by decide) (by decide)).trans hw
  rw [partAndValue, Text.cut?_eq_none hi]
  rfl

theorem localDeclaration_message (hc : '"' ∉ c) (h : declares c = true) :
    localDeclaration Stage.current.locals ("msg = " ++ inQuotes c) ≠
      .ok ("msg = " ++ inQuotes c ++ ";") := by
  have ha : Text.includes ("msg = " ++ inQuotes c) " as " = true :=
    (Text.includes_inQuotes (by decide) (by decide)).trans (Bool.and_eq_true_iff.1 h).1
  rw [localDeclaration, if_neg (by exact Bool.false_ne_true), if_pos ha]
  dsimp only [Stage.current]
  cases hw : c.includes " with " with
  | false =>
    rw [partAndValue_without hw]
    intro he
    cases he
  | true =>
    obtain ⟨before, value, hb, hp⟩ := partAndValue_with hc hw
    rw [hp]
    dsimp only
    rw [Text.cut?_append_cons (by decide) rfl]
    cases hcut : Text.cut? " as " before with
    | none =>
      intro he
      cases he
    | some res =>
      have ht : '"' ∉ res.2.trim :=
        fun hq => hb ((Text.infix_of_cut? hcut).2.subset (res.2.trim_subset hq))
      have hpiecewise : Piecewise typeGlue ('"' ∉ ·) := .notMem rfl rfl
      have htype := (hpiecewise.typeAndValue ht (some value)).1
      rw [Option.map_some]
      dsimp only
      rw [trim_message]
      intro he
      exact declared_ne htype _ (Except.ok.inj he)

theorem convert_message_eq (c : Text) : convert .current ("msg = " ++ inQuotes c) =
    if declares c then localDeclaration Stage.current.locals ("msg = " ++ inQuotes c)
    else if comparisons.any c.includes then .ok (terminate ("msg = " ++ inQuotes c))
    else .ok (assignment .all ("msg = " ++ inQuotes c)) := by
  have ho : isOperation .all ("msg = " ++ inQuotes c) = false := rfl
  have hp : Text.startsWith ("msg = " ++ inQuotes c) "print " = false := rfl
  have hlate : (.opening "if " ifLine :: .opening "elif " elifLine :: lateRules).findSome?
      (· ("msg = " ++ inQuotes c)) = none := rfl
  have htrim := Text.trim_inQuotes "msg = " c (Text.head_cons rfl)
  rw [← htrim] at hp
  rw [convert_unprinted hp, convertBy_eq, htrim, ho, if_neg Bool.false_ne_true, hlate,
    isLocal_message, isAssignment_message]
  cases comparisons.any c.includes with
  | true =>
    simp only [Bool.not_true, Bool.false_eq_true, ↓reduceIte, Option.getD_none]
    rfl
  | false => simp only [Bool.not_false, Bool.false_eq_true, ↓reduceIte]

theorem terminate_of_getLast? {s : Text} {d : Char} (h : s.getLast? = some d)
    (hd : d ∉ [';', '\x7b', '\x7d']) : terminate s = s ++ ";" := by
  simp only [List.mem_cons, List.not_mem_nil, or_false, not_or] at hd
  obtain ⟨hsemi, hopen, hclose⟩ := hd
  have h₁ : s.endsWith ";" = false := Text.not_endsWith_of_getLast? h hsemi
  have h₂ : s.endsWith "\x7b" = false := Text.not_endsWith_of_getLast? h hopen
  have h₃ : s.endsWith "\x7d" = false := Text.not_endsWith_of_getLast? h hclose
  rw [terminate, h₁, h₂, h₃]
  rfl

theorem terminate_message (c : Text) :
    terminate ("msg = " ++ inQuotes c) = "msg = " ++ inQuotes c ++ ";" :=
  terminate_of_getLast? (Text.getLast?_inQuotes "msg = " c) (by decide)

theorem assignment_message (c : Text) :
    assignment .all ("msg = " ++ inQuotes c) = "msg = " ++ inQuotes c ++ ";" := by
  have hcut : Text.cut? "=" ("msg = " ++ inQuotes c) =
      some ("msg ".toList, [' '] ++ inQuotes c) := rfl
  have ht : Text.trim ([' '] ++ inQuotes c) = inQuotes c :=
    (Text.trim_append (List.all_eq_true.1 rfl)).trans (Text.trim_inQuotes [] c (by simp))
  have hv : javaValue .all (inQuotes c) = inQuotes c := rfl
  rw [assignment, hcut]
  dsimp only
  rw [ht, hv]
  rfl

theorem convert_message (hc : '"' ∉ c) :
    convert .current ("msg = " ++ inQuotes c) = .ok ("msg = " ++ inQuotes c ++ ";") ↔
      declares c = false := by
  rw [convert_message_eq]
  cases hd : declares c with
  | true =>
    rw [if_pos rfl]
    exact iff_of_false (localDeclaration_message hc hd) Bool.noConfusion
  | false =>
    rw [if_neg Bool.false_ne_true, terminate_message, assignment_message, ite_self]
    exact iff_of_true rfl rfl

end Statement

namespace Body

variable {v : Vocabulary} {head java c : Text}

/-- A line that ends in a quoted text has the given entry if the statement has this Java form and no
comment mark stands in the line. -/
theorem ofProgram_quoted_iff (v : Vocabulary) (head : Text)
    (hh : ∀ d ∈ head.head?, isBlank d = false) (hq : '"' ∉ head) (hc : '"' ∉ c)
    (hs : head.includes "//" = false) (hn : head.includes "#" = false)
    (hj : java.getLast? = some ';') :
    ofProgram v ["    " ++ (head ++ inQuotes c)] = .ok ([java], 1) ↔
      (c.includes "//" = false ∧ c.includes "#" = false) ∧
        Statement.convert .current (head ++ inQuotes c) = .ok java := by
  have hcode := quoted_isCode hh hq hc hs hn
  have hbrace : java.endsWith "\x7b" = false := Text.not_endsWith_of_getLast? hj (by decide)
  have hslash : (head ++ inQuotes c).includes "//" = c.includes "//" := by
    rw [Text.includes_inQuotes (by decide) (by decide), hs, Bool.false_or]
  have hsign : (head ++ inQuotes c).includes "#" = c.includes "#" := by
    rw [Text.includes_inQuotes (by decide) (by decide), hn, Bool.false_or]
  rw [ofProgram_single_iff hcode (quoted_not_endsBody v hh) hbrace, entry,
    if_pos (Bool.and_eq_true_iff.1 hcode).2, Text.trim_append (List.all_eq_true.1 rfl),
    Text.trim_inQuotes head c hh]
  by_cases hm : c.includes "//" = false ∧ c.includes "#" = false
  · rw [statementLine_of_unmarked (hslash.trans hm.1) (hsign.trans hm.2), and_iff_right hm]
  · refine iff_of_false ?_ (fun h => hm h.1)
    intro h
    rw [← hslash, ← hsign, not_and_or, Bool.not_eq_false, Bool.not_eq_false] at hm
    have hl := getLast?_statementLine (Text.getLast?_inQuotes head c) rfl (by decide) hm h
    rw [hj] at hl
    cases hl

/-- A quoted text is taken over as it stands exactly if it has no comment mark and, where it is
assigned, does not make a declaration of the assignment. -/
theorem quoted_kept_iff (v : Vocabulary) (c : Text) (hc : '"' ∉ c) :
    (ofProgram v ["    print " ++ inQuotes c] =
          .ok (["System.out.println(" ++ inQuotes c ++ ");"], 1) ↔
        c.includes "//" = false ∧ c.includes "#" = false) ∧
      (ofProgram v ["    msg = " ++ inQuotes c] = .ok (["msg = " ++ inQuotes c ++ ";"], 1) ↔
        (c.includes "//" = false ∧ c.includes "#" = false) ∧ Statement.declares c = false) := by
  constructor
  · have h := ofProgram_quoted_iff v "print " (Text.head_cons rfl) (by decide) hc rfl rfl
      (Statement.getLast?_println (inQuotes c))
    rw [Statement.convert_print, and_iff_left rfl] at h
    exact h
  · have hj : ("msg = " ++ inQuotes c ++ ";" : Text).getLast? = some ';' := List.getLast?_concat
    have h := ofProgram_quoted_iff v "msg = " (Text.head_cons rfl) (by decide) hc rfl rfl hj
    rw [Statement.convert_message hc] at h
    exact h

theorem quoted_not_kept : ¬ (ofProgram Vocabulary.standard ["    print " ++ inQuotes "http://x"] =
        .ok (["System.out.println(" ++ inQuotes "http://x" ++ ");"], 1)) ∧
    ¬ (ofProgram Vocabulary.standard ["    msg = " ++ inQuotes "read as int"] =
        .ok (["msg = " ++ inQuotes "read as int" ++ ";"], 1)) ∧
    ofProgram Vocabulary.standard ["    msg = " ++ inQuotes "known as x >= y"] =
        .ok (["msg = " ++ inQuotes "known as x >= y" ++ ";"], 1) := by
  refine ⟨?_, ?_, ?_⟩
  · intro h
    have hn := (quoted_kept_iff .standard "http://x" (by decide)).1.1 h
    cases hn.1
  · intro h
    have hn := (quoted_kept_iff .standard "read as int" (by decide)).2.1 h
    cases hn.2
  · exact (quoted_kept_iff .standard "known as x >= y" (by decide)).2.2 ⟨⟨rfl, rfl⟩, rfl⟩

end Body

end JavaSketch
