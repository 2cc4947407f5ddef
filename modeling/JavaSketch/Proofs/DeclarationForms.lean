import JavaSketch.Proofs.ConditionLines
import JavaSketch.Proofs.SecondWords
import JavaSketch.Proofs.SpokenReceivers
import JavaSketch.Proofs.ValuedDeclarations

namespace JavaSketch

theorem Text.append_blanks_ne {s t pad gap : Text} {c d : Char} (hpad : ∀ b ∈ pad, isBlank b = true)
    (hgap : ∀ b ∈ gap, isBlank b = true) (hs : s.getLast? = some c) (ht : t.getLast? = some d)
    (hc : isBlank c = false) (hd : isBlank d = false) (hne : c ≠ d) : s ++ pad ≠ t ++ gap := by
  intro h
  have htrim {s : Text} {c : Char} (hs : s.getLast? = some c) (hc : isBlank c = false) :
      s.trimRight = s := by
    refine trimRight_of_getLast fun b hb => ?_
    cases hs.symm.trans hb
    exact hc
  have hfront := congrArg trimRight h
  rw [trimRight_append hpad, trimRight_append hgap, htrim hs hc, htrim ht hd] at hfront
  rw [hfront, ht] at hs
  exact hne (Option.some.inj hs).symm

namespace Statement

open Operation

variable {n t v : Text}

/-- A block is opened, or the statement stays as it is, with or without a semicolon. -/
def Controlled (s o : Text) : Prop := o.getLast? = some '\x7b' ∨ o = s ∨ o = s ++ ";"

theorem getLast?_opening (head : Text) : (head ++ ") \x7b").getLast? = some '\x7b' := by
  rw [List.getLast?_append]
  rfl

theorem getLast?_countingLine (v first bound : Text) :
    (countingLine v first bound).getLast? = some '\x7b' := by
  obtain ⟨head, hshape⟩ : ∃ head, countingLine v first bound = head ++ "++) \x7b" := ⟨_, rfl⟩
  rw [hshape, List.getLast?_append]
  rfl

theorem getLast?_range {style : LoopStyle} {arguments java : Text}
    (h : style.range? v arguments = some java) : java.getLast? = some '\x7b' := by
  rw [LoopStyle.range?] at h
  split at h
  · cases h
    exact getLast?_countingLine _ _ _
  · cases h
    exact getLast?_countingLine _ _ _
  · obtain ⟨-, hjava⟩ := Option.ite_none_right_eq_some.1 h
    cases hjava
    exact getLast?_countingLine _ _ _
  · cases h

theorem controlled_forLine (style : LoopStyle) (s : Text) : Controlled s (forLine style s) := by
  rw [forLine]
  split
  · split
    · rename_i v arguments _
      cases hrange : style.range? v arguments with
      | none => exact .inr (.inl rfl)
      | some java => exact .inl (getLast?_range hrange)
    · exact .inr (.inl rfl)
  · split
    · split
      · exact .inl (getLast?_opening _)
      · exact .inr (.inl rfl)
    · exact .inr (.inl rfl)

theorem controlled_terminate (s : Text) : Controlled s (terminate s) := by
  rw [terminate]
  split
  · exact .inr (.inl rfl)
  · exact .inr (.inr rfl)

/-- The rules for blocks and `return` change a statement only where they open a block. -/
theorem controlled_of_convertBy {s o : Text} (htrim : s.trim = s)
    (h : convertBy (.opening "if " ifLine :: .opening "elif " elifLine :: lateRules) s = .ok o) :
    Controlled s o := by
  have hopening {word : Text} {f : Text → Text} (hf : Controlled s (f s))
      {r : Except Fault (Option Text)} (hr : Rule.opening word f s = some r) :
      ∃ o, r = .ok (some o) ∧ Controlled s o := by
    obtain ⟨-, hr⟩ := Option.ite_none_right_eq_some.1 hr
    cases hr
    exact ⟨_, rfl, hf⟩
  have hrules : ∀ rule ∈ Rule.opening "if " ifLine :: .opening "elif " elifLine :: lateRules,
      ∀ r, rule s = some r → ∃ o, r = .ok (some o) ∧ Controlled s o := by
    simp only [lateRules, List.forall_mem_cons, List.not_mem_nil, false_imp_iff, implies_true,
      and_true]
    refine ⟨fun r => hopening (.inl (getLast?_opening _)),
      fun r => hopening (.inl (getLast?_opening _)), fun r hr => ?_,
      fun r => hopening (controlled_forLine _ _), fun r => hopening (.inl (getLast?_opening _)),
      fun r => hopening (.inl (getLast?_opening _)), fun r => hopening (.inr (.inr rfl))⟩
    obtain ⟨-, hr⟩ := Option.ite_none_right_eq_some.1 hr
    cases hr
    exact ⟨_, rfl, .inl rfl⟩
  rw [convertBy_eq, htrim] at h
  cases hfind : List.findSome? (· s)
      (.opening "if " ifLine :: .opening "elif " elifLine :: lateRules) with
  | none =>
    rw [hfind] at h
    cases h
    exact controlled_terminate s
  | some r =>
    obtain ⟨rule, hm, hr⟩ := List.exists_of_findSome?_eq_some hfind
    obtain ⟨o', rfl, ho⟩ := hrules rule hm r hr
    rw [hfind] at h
    cases h
    exact ho

section Apart

variable (hn : IsName n) (ht : IsUnbroken t) (hv : IsInitial v)
include hn ht hv

theorem initialised_ne_line (more : Text) : initialised n t v ≠ valuedLine n t "=" v ++ more := by
  intro h
  rw [valuedLine_eq, List.append_assoc, List.cons_append, List.append_assoc, List.cons_append] at h
  obtain ⟨htype, hname, rest, hrest⟩ := words_of_initialised (hn.notMem rfl) ht hv.ne_nil
    (hn.notMem rfl) (hn.notMem rfl) (by decide) h
  have hequals : t = "=" := by
    have hsign : t ++ ' ' :: ("=" ++ ' ' :: v ++ more) = "=".toList ++ ' ' :: rest := by
      rw [List.append_assoc, List.cons_append] at hrest
      exact hrest
    exact Text.eq_of_append_cons hsign (ht.notMem rfl) (by decide)
  rw [hequals, hname] at htype
  exact absurd htype (by decide)

theorem initialised_ne_controlled {o : Text} (h : Controlled (valuedLine n t "=" v) o) :
    o ≠ initialised n t v := by
  rintro rfl
  rcases h with h | h | h
  · rw [initialised, getLast?_declared] at h
    cases h
  · refine initialised_ne_line hn ht hv [] ?_
    rw [List.append_nil]
    exact h
  · exact initialised_ne_line hn ht hv ";" h

omit hn ht in
theorem countP_initialised : v.countP isBlank + 3 ≤ (initialised n t v).countP isBlank := by
  obtain ⟨value, hvalue, hcases⟩ := exists_initialised n t v
  have hle : v.countP isBlank ≤ value.countP isBlank ∧ value ≠ [] := by
    rcases hcases with rfl | ⟨rfl, hname⟩
    · exact ⟨Nat.le_refl _, hv.ne_nil⟩
    · have hnone : v.countP isBlank = 0 := by
        rw [List.countP_eq_zero]
        exact fun c hc => Bool.eq_false_iff.1
          (not_blank_of_isWord ((hname.resolve_left hv.ne_nil).char hc))
      exact ⟨hnone ▸ Nat.zero_le _, List.cons_ne_nil _ _⟩
  have hblank : List.countP isBlank " " = 1 := rfl
  have hequals : List.countP isBlank " = " = 2 := rfl
  rw [hvalue, declared_some _ _ hle.2]
  simp only [List.countP_append]
  omega

omit hv in
theorem countP_valuedLine (v : Text) :
    (valuedLine n t "=" v).countP isBlank = v.countP isBlank + 4 := by
  have hname : n.countP isBlank = 0 :=
    List.countP_eq_zero.2 fun c hc => Bool.eq_false_iff.1 (not_blank_of_isWord (hn.char hc))
  have htype : t.countP isBlank = 0 :=
    List.countP_eq_zero.2 fun c hc => Bool.eq_false_iff.1 (ht.char hc)
  have hshape : valuedLine n t "=" v = n ++ " as " ++ t ++ " = " ++ v := by
    simp [valuedLine, typedPart]
  have has : List.countP isBlank " as " = 2 := rfl
  have hequals : List.countP isBlank " = " = 2 := rfl
  rw [hshape]
  simp only [List.countP_append]
  omega

omit hn ht hv in
theorem lower_valuedLine (n t v : Text) : (valuedLine n t "=" v).lower =
    n.lower ++ ' ' :: ("as" ++ ' ' :: (t.lower ++ ' ' :: ("=" ++ ' ' :: v.lower))) := by
  have has : Text.lower "as" = "as" := rfl
  have hsign : Text.lower "=" = "=" := rfl
  rw [valuedLine_eq, Text.lower_append_blank, Text.lower_append_blank, Text.lower_append_blank,
    Text.lower_append_blank, has, hsign]

end Apart

section Operations

variable (hn : IsName n) (ht : IsUnbroken t) (hv : IsInitial v)
include hn ht hv

theorem initialised_ne_receiving {front more : Text} (hname : TypeTable.full.javaName n = n)
    (hbracket : '<' ∉ front) (hblank : ' ' ∉ front) (hne : n ≠ front) :
    initialised n t v ≠ front ++ ' ' :: (t ++ ' ' :: more) := by
  intro h
  obtain ⟨htype, rfl, -⟩ := words_of_initialised (hn.notMem rfl) ht hv.ne_nil hbracket hblank
    (ht.notMem rfl) h
  exact hne (hname.symm.trans htype)

theorem initialised_ne_asked (hname : TypeTable.full.javaName n = n) (has : n ≠ "as")
    (method more : Text) : initialised n t v ≠
      call ("as" ++ ' ' :: (t ++ ' ' :: ("=" ++ ' ' :: v))) method [] ++ more := by
  have hshape : call ("as" ++ ' ' :: (t ++ ' ' :: ("=" ++ ' ' :: v))) method [] ++ more =
      "as" ++ ' ' :: (t ++ ' ' :: ("=" ++ ' ' :: v ++ ("." ++ method ++ "(" ++ ")" ++ more))) := by
    simp [call]
  rw [hshape]
  exact initialised_ne_receiving hn ht hv hname (by decide) (by decide) has

theorem initialised_ne_applied {method : Text} (hname : TypeTable.full.javaName n = n)
    (hm : IsName method) (more : Text) : initialised n t v ≠
      call "Collections" method ("as" ++ ' ' :: (t ++ ' ' :: ("=" ++ ' ' :: v))) ++ more := by
  have hshape : call "Collections" method ("as" ++ ' ' :: (t ++ ' ' :: ("=" ++ ' ' :: v))) ++ more =
      ("Collections." ++ method ++ "(as") ++
        ' ' :: (t ++ ' ' :: ("=" ++ ' ' :: v ++ (")" ++ more))) := by
    simp [call]
  have hfree {c : Char} (hword : isWord c = false) (hc : c ∉ "Collections.(as".toList) :
      c ∉ "Collections." ++ method ++ "(as" := by
    have hfixed {w : Text} (hw : w ⊆ "Collections.(as".toList) : c ∉ w := fun hmem => hc (hw hmem)
    rw [List.mem_append, List.mem_append, not_or, not_or]
    exact ⟨⟨hfixed (by decide), hm.notMem hword⟩, hfixed (by decide)⟩
  have hopen : n ≠ "Collections." ++ method ++ "(as" := by
    rintro rfl
    exact hn.notMem (c := '(') rfl (List.mem_append_right _ List.mem_cons_self)
  rw [hshape]
  exact initialised_ne_receiving hn ht hv hname (hfree rfl (by decide)) (hfree rfl (by decide))
    hopen

omit hn ht hv in
theorem exists_operationStatement (book : Phrasebook) (s : Text) :
    ∃ more, operationStatement book s = operationExpression book.operations s ++ more ∧
      more.countP isBlank = 0 := by
  rw [operationStatement]
  split
  · exact ⟨[], (List.append_nil _).symm, rfl⟩
  · exact ⟨";", rfl, rfl⟩

theorem initialised_ne_expression {op : Operation} {e more : Text} (hop : op ∈ phrases)
    (hc : op.covers (valuedLine n t "=" v).lower = true)
    (he : op.expression? (valuedLine n t "=" v) = some e) (hmore : more.countP isBlank = 0) :
    initialised n t v ≠ e ++ more := by
  rcases phrases_cases op hop with hshort | ⟨words, hwords, build, rfl, hbuild⟩
  · intro h
    have hless := hshort.blanks _ _ he
    have hline := countP_valuedLine hn ht v
    have hdeclared := countP_initialised (n := n) (t := t) hv
    rw [h, List.countP_append, hmore] at hdeclared
    omega
  · have hapart : ∀ words ∈ receiverPhrases, ∀ w ∈ words,
        IsKeyword w ∧ TypeTable.full.lookup w = none ∧ w ≠ "as" := by decide
    rw [lower_valuedLine] at hc
    obtain rfl := word_of_covers hwords build hn.isUnbroken.lower hc
    obtain ⟨hkey, htable, has⟩ := hapart _ hwords _ List.mem_cons_self
    have hname : TypeTable.full.javaName n = n := by
      rw [TypeTable.javaName, htable]
      rfl
    have hdrop : Text.trim ((valuedLine n t "=" v).drop ((Text.join " " [n.lower]).length + 1)) =
        "as" ++ ' ' :: (t ++ ' ' :: ("=" ++ ' ' :: v)) := by
      have hshape : "as" ++ ' ' :: (t ++ ' ' :: ("=" ++ ' ' :: v)) =
          ("as " ++ t ++ " = ") ++ v := by simp
      rw [Text.join_one, ← length_of_lower hkey rfl, valuedLine_eq, List.drop_length_add_append,
        List.drop_one, List.tail_cons, hshape]
      exact hv.trim_append (Text.head_cons rfl)
    have hbuilt : build ("as" ++ ' ' :: (t ++ ' ' :: ("=" ++ ' ' :: v))) = e := by
      rw [← hdrop]
      exact Option.some.inj he
    obtain ⟨method, hm, rfl | rfl⟩ := hbuild rfl
    · rw [← hbuilt]
      refine initialised_ne_asked hn ht hv hname ?_ method more
      rintro rfl
      exact has rfl
    · rw [← hbuilt]
      exact initialised_ne_applied hn ht hv hname hm more

theorem initialised_ne_operation (h : isOperation .all (valuedLine n t "=" v) = true) :
    operationStatement .all (valuedLine n t "=" v) ≠ initialised n t v := by
  rw [Phrasebook.all_agrees.isOperation_eq] at h
  obtain ⟨op, hop, hc⟩ := List.any_eq_true.1 (Bool.and_eq_true_iff.1 h).2
  have hphrase {op : Operation} (hop : op ∈ Operation.all)
      (hc : op.covers (valuedLine n t "=" v).lower = true) : op ∈ phrases := by
    rw [lower_valuedLine] at hc
    exact mem_phrases (fun hm => hn.notMem rfl (Text.sign_mem_lower hm rfl)) hop hc
  have hreads : ∃ e, op.expression? (valuedLine n t "=" v) = some e := by
    rcases phrases_cases op (hphrase hop hc) with hshort | ⟨words, -, build, rfl, -⟩
    · exact hshort.reads _ hc
    · exact ⟨_, rfl⟩
  obtain ⟨e, he⟩ := hreads
  obtain ⟨other, hmem, hcovers, hother⟩ := exists_operationExpression hop hc he
  obtain ⟨more, hstatement, hmore⟩ := exists_operationStatement .all (valuedLine n t "=" v)
  rw [hstatement]
  exact (initialised_ne_expression hn ht hv (hphrase hmem hcovers) hcovers hother hmore).symm

end Operations

theorem exists_behind_with (hv : IsInitial v) (hwith : v.startsWith "with " = true) :
    ∃ pad rest, (∀ c ∈ pad, isBlank c = true) ∧ Text.trim (v.drop 5) = rest ∧
      v = "with" ++ pad ++ rest ∧ rest ≠ [] ∧ ' ' ∈ v := by
  obtain ⟨w, rfl⟩ : ∃ w : Text, "with " ++ w = v := List.isPrefixOf_iff_prefix.1 hwith
  have hdrop : ("with " ++ w).drop 5 = w := rfl
  have htrim : w.trim = w.trimLeft := Text.trim_of_suffix hv.trimmed (List.suffix_append _ _)
  have hpad : ∀ c ∈ ' ' :: w.takeWhile isBlank, isBlank c = true :=
    List.forall_mem_cons.2 ⟨rfl, List.all_eq_true.1 List.all_takeWhile⟩
  have hsplit : "with " ++ w = "with" ++ (' ' :: w.takeWhile isBlank) ++ w.trim := by
    have hparts : w = w.takeWhile isBlank ++ w.trim := by
      rw [htrim]
      exact List.takeWhile_append_dropWhile.symm
    conv_lhs => rw [hparts]
    rfl
  refine ⟨' ' :: w.takeWhile isBlank, w.trim, hpad, by rw [hdrop], hsplit, fun hnil => ?_,
    List.mem_append_left _ (by decide)⟩
  have htrimmed := hv.trimmed
  rw [hsplit, hnil, List.append_nil, Text.trim_append_right hpad] at htrimmed
  have hlength := congrArg List.length htrimmed
  have hwith : (Text.trim "with").length = 4 := rfl
  have hfour : "with".toList.length = 4 := rfl
  rw [List.length_append, List.length_cons] at hlength
  omega

theorem initialised_ne_with (hv : IsInitial v) (hwith : v.startsWith "with " = true) :
    initialised n t v ≠ initialised n (t ++ " =") (Text.trim (v.drop 5)) := by
  obtain ⟨pad, rest, hpad, hrest, hsplit, hne, hblank⟩ := exists_behind_with hv hwith
  obtain ⟨value, hvalue, hcases⟩ := exists_initialised n t v
  obtain ⟨other, hother, hothers⟩ := exists_initialised n (t ++ " =") rest
  have hgiven : value = v :=
    hcases.resolve_right fun h => (h.2.resolve_left hv.ne_nil).notMem rfl hblank
  rw [hrest, hvalue, hother, hgiven, declared_some _ _ hv.ne_nil, hsplit]
  intro h
  rcases hothers with rfl | ⟨rfl, hname⟩
  · rw [declared_some _ _ hne, ← List.append_assoc, ← List.append_assoc] at h
    have hfront := List.append_cancel_right (List.append_cancel_right h)
    have hsign : writtenType (t ++ " =") ++ " " ++ n ++ " = " =
        (writtenType (t ++ " =") ++ " " ++ n ++ " =") ++ " " := by simp
    rw [hsign] at hfront
    refine Text.append_blanks_ne (c := 'h') (d := '=') hpad (List.forall_mem_singleton.2 rfl) ?_ ?_
      rfl rfl (by decide) hfront
    · rw [List.getLast?_append]
      rfl
    · rw [List.getLast?_append]
      rfl
  · have hnew : ("new " ++ writtenType (t ++ " =") ++ "()" : Text) ≠ [] := List.cons_ne_nil _ _
    rw [declared_some _ _ hnew] at h
    have hlast := congrArg List.getLast? (List.append_cancel_right h)
    rw [← List.append_assoc, List.getLast?_append_of_ne_nil _ hne, ← List.append_assoc,
      List.getLast?_append] at hlast
    exact (hname.resolve_left hne).notMem rfl (List.mem_of_getLast? hlast)

section Comparison

variable (hn : IsName n) (hprint : n ≠ "print") (hvar : n ≠ "var") (hv : IsInitial v)
include hn hprint hv

theorem convert_with (t : Text) : convert .current (valuedLine n t "with" v) =
    localDeclaration Stage.current.locals (valuedLine n t "with" v) := by
  rw [convert_valuedLine hn hprint hv, isLocal_with hn, if_pos rfl]

theorem convert_local (hlocal : isLocal (valuedLine n t "=" v) = true) :
    convert .current (valuedLine n t "=" v) =
      localDeclaration Stage.current.locals (valuedLine n t "=" v) := by
  rw [convert_valuedLine hn hprint hv, hlocal, if_pos rfl]

/-- A line that is no declaration does not become one. -/
theorem convert_ne_of_not_isLocal (ht : IsUnbroken t)
    (hlocal : isLocal (valuedLine n t "=" v) = false) :
    convert .current (valuedLine n t "=" v) ≠ .ok (initialised n t v) := by
  have hassign : isAssignment (valuedLine n t "=" v) = false := by
    rw [Bool.eq_false_iff]
    intro h
    rw [isLocal, isValuedLocal, hasValue, includes_as_line hn, h] at hlocal
    simp at hlocal
  rw [convert_valuedLine hn hprint hv, hlocal, if_neg Bool.false_ne_true, hassign,
    if_neg Bool.false_ne_true]
  intro h
  split_ifs at h with hop
  · exact initialised_ne_operation hn ht hv hop (Except.ok.inj h)
  · have hcontrolled := controlled_of_convertBy (trim_valuedLine hn hv t "=") h
    exact initialised_ne_controlled hn ht hv hcontrolled rfl

include hvar

theorem convert_ne_of_with : convert .current (valuedLine n "with" "with" v) ≠
    convert .current (valuedLine n "with" "=" v) := by
  have hwith : Text.includes (valuedLine n "with" "=" v) " with " = true := by
    have hcut : Text.cut? " with " (valuedLine n "with" "=" v) =
        some (n ++ ["as".toList].flatMap (' ' :: ·), "=" ++ ' ' :: v) :=
      cut?_type (hn.notMem rfl) (w := "with") (by decide) (by decide) "=" v
    rw [Text.includes, hcut]
    rfl
  rw [convert_with hn hprint hv, convert_local hn hprint hv (isLocal_of_with hn hwith),
    localDeclaration_with_with hn hvar, localDeclaration_with_with hn hvar]
  intro h
  have hlines := Fault.untypedLocal.inj (Except.error.inj h)
  have hlength := congrArg List.length hlines
  rw [valuedLine, valuedLine, List.length_append, List.length_append, List.length_cons,
    List.length_cons, List.length_append, List.length_append] at hlength
  have hfour : "with".toList.length = 4 := rfl
  have hone : "=".toList.length = 1 := rfl
  omega

end Comparison

/-- The two forms of a declaration have one Java form only if the second one is read as a
declaration, no word stands in a place where the line is divided, and the value is no operation.
The first one is the declaration always. -/
theorem declaration_forms_agree_iff (hn : IsName n) (hprint : n ≠ "print") (hvar : n ≠ "var")
    (ht : IsUnbroken t) (hv : IsInitial v) :
    (convert .current (n ++ " as " ++ t ++ " with " ++ v) =
        convert .current (n ++ " as " ++ t ++ " = " ++ v) ↔
      t ≠ "with" ∧ t ≠ "=" ∧ v.startsWith "with " = false ∧
        ((comparisons.any t.includes || comparisons.any v.includes) = true →
          isAsciiName n = true ∧ v.startsWith "as " = false ∧
            linkWords.any (Text.includes (' ' :: v.lower)) = false) ∧
        javaValue .all v = v) ∧
    (t ≠ "with" → convert .current (n ++ " as " ++ t ++ " with " ++ v) =
      .ok (initialised n t v)) := by
  have hfirst : n ++ " as " ++ t ++ " with " ++ v = valuedLine n t "with" v := by
    simp [valuedLine, typedPart]
  have hsecond : n ++ " as " ++ t ++ " = " ++ v = valuedLine n t "=" v := by
    simp [valuedLine, typedPart]
  have hdeclared (hne : t ≠ "with") :
      convert .current (valuedLine n t "with" v) = .ok (initialised n t v) := by
    rw [convert_with hn hprint hv, localDeclaration_with hn hvar hv ht hne]
  rw [hfirst, hsecond]
  refine ⟨⟨fun h => ?_, ?_⟩, hdeclared⟩
  · have hne : t ≠ "with" := by
      rintro rfl
      exact convert_ne_of_with hn hprint hvar hv h
    rw [hdeclared hne] at h
    have hlocal : isLocal (valuedLine n t "=" v) = true := by
      rw [← Bool.not_eq_false]
      exact fun hno => convert_ne_of_not_isLocal hn hprint hv ht hno h.symm
    rw [convert_local hn hprint hv hlocal] at h
    have hwith : v.startsWith "with " = false := by
      rw [Bool.eq_false_iff]
      intro hwith
      rw [localDeclaration_equals_with hn hvar hv ht hne hwith] at h
      exact initialised_ne_with hv hwith (Except.ok.inj h)
    have heq : t ≠ "=" := by
      rintro rfl
      rw [localDeclaration_equals_equals hn hvar hv hwith] at h
      cases h
    rw [localDeclaration_equals hn hvar hv ht hne heq hwith] at h
    exact ⟨hne, heq, hwith, (isLocal_equals hn ht hv hvar hne hwith).1 hlocal,
      javaValue_of_initialised hv.ne_nil (Except.ok.inj h)⟩
  · rintro ⟨hne, heq, hwith, hread, hvalue⟩
    have hlocal := (isLocal_equals hn ht hv hvar hne hwith).2 hread
    rw [hdeclared hne, convert_local hn hprint hv hlocal,
      localDeclaration_equals hn hvar hv ht hne heq hwith, hvalue]

theorem declaration_forms_agree_iff_size :
    convert .current "n as int with size of xs" ≠ convert .current "n as int = size of xs" ∧
      convert .current "n as int with size of xs" = .ok "int n = size of xs;" ∧
      convert .current "b as boolean with x == y" = convert .current "b as boolean = x == y" := by
  have hname : IsName "n" ∧ IsName "b" := ⟨⟨by decide, rfl⟩, by decide, rfl⟩
  have htype : IsUnbroken "int" ∧ IsUnbroken "boolean" := ⟨⟨by decide, rfl⟩, by decide, rfl⟩
  have hsize : IsInitial "size of xs" := ⟨by decide, by decide, by decide, by decide, by decide⟩
  have hcompared : IsInitial "x == y" := ⟨by decide, by decide, by decide, by decide, by decide⟩
  have hvalue : javaValue .all "size of xs" ≠ "size of xs" := by decide +kernel
  have hjava : initialised "n" "int" "size of xs" = "int n = size of xs;" := by decide +kernel
  obtain ⟨hforms, hdeclared⟩ :=
    declaration_forms_agree_iff hname.1 (by decide) (by decide) htype.1 hsize
  obtain ⟨hagree, -⟩ :=
    declaration_forms_agree_iff hname.2 (by decide) (by decide) htype.2 hcompared
  refine ⟨fun h => hvalue (hforms.1 h).2.2.2.2, hjava ▸ hdeclared (by decide), ?_⟩
  exact hagree.2 (by decide +kernel)

end Statement

end JavaSketch
