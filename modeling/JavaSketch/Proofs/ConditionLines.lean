import JavaSketch.Proofs.Literals
import JavaSketch.Proofs.SpokenWords

namespace JavaSketch

namespace Text

theorem meetsCased_colon (s : Text) : meetsCased (s ++ ":") = meetsCased s :=
  meetsCased_append (by decide +kernel) s

theorem lower_append_colon (s : Text) : lower (s ++ ":") = lower s ++ ":" := by
  have hafter (before : Text) : lowerAfter before (s ++ ":") = lowerAfter before s ++ ":" := by
    induction s generalizing before with
    | nil => rfl
    | cons c s ih => rw [List.cons_append, lowerAfter, lowerAfter, meetsCased_colon, ih,
        List.append_assoc]
  exact hafter []

theorem trim_append_colon (s : Text) : (s ++ ":").trim = s.trimLeft ++ ":" := by
  have hleft : (s ++ ":").trimLeft = s.trimLeft ++ ":" := by
    rw [trimLeft, trimLeft, List.dropWhile_append]
    split
    · rename_i he
      rw [List.isEmpty_iff.1 he]
      rfl
    · rfl
  rw [trim, hleft]
  apply trimRight_of_getLast
  intro c hc
  rw [List.getLast?_append] at hc
  cases hc
  rfl

theorem trim_of_suffix {s t : Text} (hs : s.trim = s) (h : t <:+ s) : t.trim = t.trimLeft := by
  apply trimRight_of_getLast
  intro c hc
  obtain ⟨front, hfront⟩ := (trimLeft_suffix t).trans h
  apply getLast_of_trim hs c
  rw [← hfront, List.getLast?_append_of_ne_nil _ (List.ne_nil_of_mem (List.mem_of_mem_getLast? hc))]
  exact hc

end Text

namespace Statement

variable {w c part line s t : Text}

theorem getLast?_declared (type name : Text) (value : Option Text) :
    (declared type name value).getLast? = some ';' := by
  rw [declared.eq_def]
  split
  all_goals exact List.getLast?_concat

theorem getLast?_localDeclaration {style : LocalStyle} (h : localDeclaration style s = .ok t) :
    t.getLast? = some ';' := by
  rw [localDeclaration] at h
  split at h
  · rw [inferredDeclaration] at h
    split at h
    · cases h
      exact List.getLast?_concat
    · cases h
  · split at h
    · dsimp only at h
      split at h
      · cases h
        exact getLast?_declared _ _ _
      · cases h
    · cases hu : style.untyped with
      | terminated =>
        rw [hu] at h
        cases h
        exact List.getLast?_concat
      | refusedIfAssigned =>
        rw [hu, Untyped.convert] at h
        split at h
        · cases h
        · cases h
          exact List.getLast?_concat

theorem getLast?_assignment (book : Phrasebook) (s : Text) :
    (assignment book s).getLast? = some ';' := by
  rw [assignment]
  split
  all_goals exact List.getLast?_concat

/-- What follows `as` at the start of a condition could be a type. -/
def namesType (c : Text) : Bool :=
  c.startsWith "as " && !Text.includes (c.drop 3) " as " &&
    !linkWords.any (Text.trim (c.drop 3)).lower.includes

/-- A condition by which the line of a block is taken for a declaration or an assignment. -/
def isMisread (c : Text) : Bool :=
  isAssignment c || Text.includes (' ' :: c) " as " && Text.includes (' ' :: c) " with " ||
    namesType c

theorem includes_line (hb : ' ' ∉ part) (hcolon : ':' ∉ part) (hne : part ≠ [])
    (hw : w.includes part = false) :
    Text.includes (w ++ ' ' :: (c ++ ":")) part = c.includes part := by
  have hnil : Text.includes [] part = false := by
    cases part with
    | nil => exact absurd rfl hne
    | cons d part => rfl
  rw [Text.includes_append_cons hb, hw, Bool.false_or]
  exact (Text.includes_append_cons hcolon).trans (by rw [hnil, Bool.or_false])

theorem includes_behind (hw : ' ' ∉ w) (hcolon : ':' ∉ ' ' :: part) :
    Text.includes (w ++ ' ' :: (c ++ ":")) (' ' :: part) =
      Text.includes (' ' :: c) (' ' :: part) := by
  have hfront : Text.includes (w ++ ' ' :: (c ++ ":")) (' ' :: part) =
      Text.includes (' ' :: c ++ ':' :: []) (' ' :: part) := by
    rw [Text.includes, Text.cut?_append hw, Option.isSome_map]
    rfl
  rw [hfront, Text.includes_append_cons hcolon]
  exact Bool.or_false _

theorem isAssignment_line (hw : '=' ∉ w) :
    isAssignment (w ++ ' ' :: (c ++ ":")) = isAssignment c := by
  have hparts : ∀ part ∈ comparisons, ' ' ∉ part ∧ ':' ∉ part ∧ '=' ∈ part := by decide
  have hcomparison : comparisons.any (Text.includes (w ++ ' ' :: (c ++ ":"))) =
      comparisons.any c.includes := by
    rw [Bool.eq_iff_iff, List.any_eq_true, List.any_eq_true]
    refine exists_congr fun part => and_congr_right fun hpart => ?_
    obtain ⟨hb, hcolon, he⟩ := hparts part hpart
    rw [includes_line hb hcolon (List.ne_nil_of_mem he) (Text.not_includes_of_notMem he hw)]
  have hsign : Text.includes (w ++ ' ' :: (c ++ ":")) "=" = c.includes "=" :=
    includes_line (by decide) (by decide) (by decide)
      (Text.not_includes_of_notMem List.mem_cons_self hw)
  rw [isAssignment, isAssignment, hcomparison, hsign]

theorem any_linkWords_colon (s : Text) :
    linkWords.any (Text.includes (s ++ ":")) = linkWords.any s.includes := by
  have hparts : ∀ part ∈ linkWords, ':' ∉ part ∧ part ≠ [] := by decide
  rw [Bool.eq_iff_iff, List.any_eq_true, List.any_eq_true]
  refine exists_congr fun part => and_congr_right fun hpart => ?_
  obtain ⟨hcolon, hne⟩ := hparts part hpart
  obtain ⟨d, part, rfl⟩ := List.exists_cons_of_ne_nil hne
  have hi : Text.includes (s ++ ":") (d :: part) = s.includes (d :: part) :=
    (Text.includes_append_cons hcolon).trans (Bool.or_false _)
  rw [hi]

theorem cut?_line (hw : ' ' ∉ w) (c : Text) : Text.cut? " as " (w ++ ' ' :: (c ++ ":")) =
    (Text.cut? " as " (' ' :: (c ++ ":"))).map fun res => (w ++ res.1, res.2) :=
  Text.cut?_append hw

theorem isBareLocal_as {r : Text} (hw : isAsciiName w = true) (hr : r.trim = r.trimLeft) :
    isBareLocal (w ++ ' ' :: ("as " ++ r ++ ":")) =
      (!r.includes " as " && !linkWords.any r.trim.lower.includes) := by
  have hname := isName_of_isAsciiName hw
  have hcut : Text.cut? " as " (' ' :: ("as " ++ r ++ ":")) = some ([], r ++ ":") :=
    Text.cut?_self (List.cons_ne_nil _ _) (r ++ ":")
  have htype : Text.includes (r ++ ":") " as " = r.includes " as " :=
    (Text.includes_append_cons (by decide)).trans (Bool.or_false _)
  rw [isBareLocal, cut?_line (hname.notMem rfl), hcut]
  dsimp only [Option.map_some]
  rw [htype, List.append_nil, hname.trim_eq, hw, Text.trim_append_colon, ← hr,
    Text.lower_append_colon, any_linkWords_colon, Bool.and_true]

theorem not_isBareLocal_line (hw : isAsciiName w = true) (hc : c.trim = c)
    (hs : c.startsWith "as " = false) : isBareLocal (w ++ ' ' :: (c ++ ":")) = false := by
  have hname := isName_of_isAsciiName hw
  rw [isBareLocal, cut?_line (hname.notMem rfl)]
  cases hcut : Text.cut? " as " (' ' :: (c ++ ":")) with
  | none => rfl
  | some res =>
    obtain ⟨before, after⟩ := res
    have hres : ' ' :: (c ++ ":") = before ++ " as " ++ after := Text.eq_of_cut? hcut
    have hspace : ∃ d rest, before = ' ' :: d :: rest ∧ isBlank d = false := by
      rw [List.append_assoc] at hres
      cases before with
      | nil =>
        have has : "as ".toList <+: c ++ ':' :: [] := ⟨after, (List.cons.inj hres).2.symm⟩
        have hstart := Text.prefix_of_append_cons (by decide) has
        rw [Text.startsWith, List.isPrefixOf_iff_prefix.2 hstart] at hs
        cases hs
      | cons b rest =>
        cases (List.cons.inj hres).1
        have htail : c ++ ":" = rest ++ (" as " ++ after) := (List.cons.inj hres).2
        have hhead : ∀ d ∈ (c ++ ":".toList).head?, isBlank d = false := by
          cases c with
          | nil => exact Text.head_cons rfl
          | cons d c => exact Text.head_cons (Text.head_of_trim hc d rfl)
        cases rest with
        | nil =>
          rw [htail] at hhead
          exact absurd (hhead ' ' rfl) (by decide)
        | cons d rest =>
          rw [htail] at hhead
          exact ⟨d, rest, rfl, hhead d rfl⟩
    obtain ⟨d, rest, rfl, hd⟩ := hspace
    have hgap : w ++ ' ' :: d :: rest = (w ++ " ") ++ d :: rest := by
      rw [List.append_assoc]
      rfl
    have hlong : isAsciiName (Text.trim (w ++ ' ' :: d :: rest)) = false := by
      rw [hgap, Text.trim_append_cons (by rw [List.append_assoc]; exact hname.head_append _) hd]
      exact not_isAsciiName (d := ' ') (by simp) rfl
    dsimp only [Option.map_some]
    rw [hlong, Bool.and_false, Bool.false_and]

/-- The word in front of the condition is taken for the name of a variable only if `as` follows. -/
theorem isBareLocal_line (hw : isAsciiName w = true) (hc : c.trim = c) :
    isBareLocal (w ++ ' ' :: (c ++ ":")) = namesType c := by
  cases hs : c.startsWith "as " with
  | true =>
    obtain ⟨r, hr⟩ : ∃ r : Text, "as " ++ r = c := List.isPrefixOf_iff_prefix.1 hs
    have hdrop : c.drop 3 = r := by
      rw [← hr]
      rfl
    rw [namesType, hs, hdrop, Bool.true_and, ← hr]
    exact isBareLocal_as hw (Text.trim_of_suffix hc ⟨_, hr⟩)
  | false =>
    rw [not_isBareLocal_line hw hc hs, namesType, hs]
    rfl

/-- The words in front of a condition that open a block. -/
def blockWords : List Text := ["if", "while"]

theorem eq_of_mem_blockWords (hw : w ∈ blockWords) : w = "if".toList ∨ w = "while".toList := by
  simpa [blockWords] using hw

theorem trim_line (hw : isAsciiName w = true) (c : Text) :
    Text.trim (w ++ ' ' :: (c ++ ":")) = w ++ ' ' :: (c ++ ":") := by
  apply Text.trim_of_ends ((isName_of_isAsciiName hw).head_append _)
  intro d hd
  rw [← List.cons_append, ← List.append_assoc, List.getLast?_append] at hd
  cases hd
  rfl

theorem isMisread_eq (hw : w ∈ blockWords) (hc : c.trim = c) :
    isMisread c = (isLocal (w ++ ' ' :: (c ++ ":")) || isAssignment (w ++ ' ' :: (c ++ ":"))) := by
  have hwords : ∀ w ∈ blockWords, isAsciiName w = true ∧ ' ' ∉ w ∧ '=' ∉ w := by decide
  obtain ⟨hname, hb, he⟩ := hwords w hw
  have hvar : Text.startsWith (w ++ ' ' :: (c ++ ":")) "var " = false := by
    obtain rfl | rfl := eq_of_mem_blockWords hw
    all_goals rfl
  have has : Text.includes (w ++ ' ' :: (c ++ ":")) " as " = Text.includes (' ' :: c) " as " :=
    includes_behind hb (by decide)
  have hwith : Text.includes (w ++ ' ' :: (c ++ ":")) " with " =
      Text.includes (' ' :: c) " with " := includes_behind hb (by decide)
  have hlooks : namesType c = true → Text.includes (' ' :: c) " as " = true := by
    intro h
    rw [namesType, Bool.and_assoc, Bool.and_eq_true] at h
    obtain ⟨r, rfl⟩ := List.isPrefixOf_iff_prefix.1 h.1
    exact Text.includes_iff.2 (List.prefix_append " as ".toList r).isInfix
  rw [isLocal, isValuedLocal, hasValue, hvar, has, hwith, isAssignment_line he,
    isBareLocal_line hname hc, isMisread]
  revert hlooks
  cases Text.includes (' ' :: c) " as " <;> cases namesType c <;> simp [Bool.or_comm]

theorem headAfter_line (n : Nat) (w c : Text) (hn : w.length + 1 = n) :
    headAfter n (w ++ ' ' :: (c ++ ":")) = c.dropEndWhile (· == ':') := by
  have hdrop : List.drop n (w ++ ' ' :: (c ++ ":")) = c ++ ":" := by
    rw [← hn, List.drop_length_add_append]
    rfl
  rw [headAfter, hdrop, Text.dropEndWhile, Text.dropEndWhile]
  exact congrArg List.reverse (by rw [List.reverse_append]; rfl)

theorem dropEndWhile_colon (hcolon : c.endsWith ":" = false) : c.dropEndWhile (· == ':') = c := by
  apply Text.dropEndWhile_of_getLast
  intro d hd
  rw [beq_eq_false_iff_ne]
  rintro rfl
  exact absurd (Text.endsWith_iff.2 hd) (Bool.eq_false_iff.1 hcolon)

theorem controlRules_line (hw : w ∈ blockWords) (c : Text) :
    (Rule.opening "if " ifLine :: .opening "elif " elifLine :: lateRules).findSome?
        (· (w ++ ' ' :: (c ++ ":"))) =
      some (.ok (some (w ++ " (" ++ javaOperators (c.dropEndWhile (· == ':')) ++ ") \x7b"))) := by
  obtain rfl | rfl := eq_of_mem_blockWords hw
  · rw [← headAfter_line 3 "if" c rfl]
    rfl
  · rw [← headAfter_line 6 "while" c rfl]
    rfl

/-- The rules in front of those for blocks decide whether a line with a condition opens a block. -/
theorem convert_line (hw : w ∈ blockWords) (c : Text) :
    convert .current (w ++ ' ' :: (c ++ ":")) =
      if isLocal (w ++ ' ' :: (c ++ ":")) then
        localDeclaration Stage.current.locals (w ++ ' ' :: (c ++ ":"))
      else if isAssignment (w ++ ' ' :: (c ++ ":")) then
        .ok (assignment .all (w ++ ' ' :: (c ++ ":")))
      else .ok (w ++ " (" ++ javaOperators (c.dropEndWhile (· == ':')) ++ ") \x7b") := by
  have hopens := controlRules_line hw c
  have hwords : isAsciiName w = true ∧ isOperation .all (w ++ ' ' :: (c ++ ":")) = false ∧
      Text.startsWith (w ++ ' ' :: (c ++ ":")) "print " = false := by
    obtain rfl | rfl := eq_of_mem_blockWords hw
    all_goals exact ⟨rfl, rfl, rfl⟩
  obtain ⟨hname, hno, hprint⟩ := hwords
  have htrim := trim_line hname c
  rw [convert_unprinted (by rw [htrim, hprint]), htrim, hno, if_neg Bool.false_ne_true, convertBy,
    htrim, hopens]
  rfl

theorem convert_condition (hw : w ∈ blockWords) (hc : c.trim = c) (h : isMisread c = false) :
    convert .current (w ++ ' ' :: (c ++ ":")) =
      .ok (w ++ " (" ++ javaOperators (c.dropEndWhile (· == ':')) ++ ") \x7b") := by
  rw [isMisread_eq hw hc, Bool.or_eq_false_iff] at h
  rw [convert_line hw, h.1, h.2, if_neg Bool.false_ne_true, if_neg Bool.false_ne_true]

theorem getLast?_misread (hw : w ∈ blockWords) (hc : c.trim = c) (h : isMisread c = true)
    (hline : convert .current (w ++ ' ' :: (c ++ ":")) = .ok line) : line.getLast? = some ';' := by
  rw [convert_line hw] at hline
  split at hline
  · exact getLast?_localDeclaration hline
  · rename_i hlocal
    rw [isMisread_eq hw hc, Bool.or_eq_true] at h
    rw [if_pos (h.resolve_left hlocal)] at hline
    cases hline
    exact getLast?_assignment _ _

/-- A condition behind `if` or `while` opens a block exactly if the line is not misread as a
declaration or an assignment, and then stands between the parentheses with its words replaced. -/
theorem opens_block_iff (hw : w ∈ (["if", "while"] : List Text)) (hc : c.trim = c)
    (hcolon : c.endsWith ":" = false) :
    ((∃ line, convert .current (w ++ " " ++ c ++ ":") = .ok line ∧
        line.startsWith (w ++ " (") = true ∧ line.endsWith ") \x7b" = true) ↔ isMisread c = false) ∧
      (isMisread c = false → convert .current (w ++ " " ++ c ++ ":") =
        .ok (w ++ " (" ++ javaOperators c ++ ") \x7b")) := by
  have hshape : w ++ " " ++ c ++ ":" = w ++ ' ' :: (c ++ ":") := by
    rw [List.append_assoc, List.append_assoc]
    rfl
  have hopens (h : isMisread c = false) : convert .current (w ++ ' ' :: (c ++ ":")) =
      .ok (w ++ " (" ++ javaOperators c ++ ") \x7b") := by
    rw [convert_condition hw hc h, dropEndWhile_colon hcolon]
  rw [hshape]
  refine ⟨⟨?_, fun h => ⟨_, hopens h, ?_, ?_⟩⟩, hopens⟩
  · rintro ⟨line, hline, -, hend⟩
    rw [Bool.eq_false_iff]
    intro h
    have hlast := getLast?_misread hw hc h hline
    obtain ⟨front, rfl⟩ := List.isSuffixOf_iff_suffix.1 hend
    rw [List.getLast?_append] at hlast
    cases hlast
  · rw [List.append_assoc]
    exact List.isPrefixOf_iff_prefix.2 (List.prefix_append _ _)
  · exact List.isSuffixOf_iff_suffix.2 (List.suffix_append _ _)

theorem opens_block_iff_quoted_sign :
    (¬ ∃ line, convert .current ("if" ++ " " ++ "x.equals(\"a=b\")" ++ ":") = .ok line ∧
        line.startsWith ("if" ++ " (") = true ∧ line.endsWith ") \x7b" = true) ∧
      convert .current ("while" ++ " " ++ "i <= n and open(\"a\")" ++ ":") =
        .ok ("while" ++ " (" ++ "i <= n && open(\"a\")" ++ ") \x7b") := by
  have hsign : isMisread "x.equals(\"a=b\")" = true := by decide +kernel
  have hwords : javaOperators "i <= n and open(\"a\")" = "i <= n && open(\"a\")".toList := by
    decide +kernel
  constructor
  · rw [(opens_block_iff (by decide) (by decide +kernel) (by decide +kernel)).1, hsign]
    exact Bool.noConfusion
  · rw [(opens_block_iff (by decide) (by decide +kernel) (by decide +kernel)).2 (by decide +kernel),
      hwords]

end Statement

end JavaSketch
