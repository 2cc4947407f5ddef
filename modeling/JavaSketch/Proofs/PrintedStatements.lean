import JavaSketch.Edition.History
import JavaSketch.Proofs.Assignments

namespace JavaSketch

theorem Pattern.accepts_before {c : Char} (hc : c ≠ '\n') (longest keep : Bool) (s : Text) :
    accepts [.run .any 0 longest keep, .exact c] s = true ↔
      c ∈ s.takeWhile CharClass.any.holds := by
  rw [accepts_cons]
  constructor
  · rintro ⟨n, ⟨-, hn⟩, hrest⟩
    obtain ⟨-, ⟨-, hhead⟩, -⟩ := accepts_cons.1 hrest
    obtain ⟨after, hdrop⟩ := List.head?_eq_some_iff.1 hhead
    have htaken : ∀ d ∈ s.take n, CharClass.any.holds d = true := fun d hd =>
      List.all_eq_true.1 List.all_takeWhile d
        ((List.prefix_of_prefix_length_le (List.take_prefix n s) (List.takeWhile_prefix _)
          ((List.length_take_le n s).trans hn)).subset hd)
    have hholds : CharClass.any.holds c = true := bne_iff_ne.2 hc
    rw [← List.take_append_drop n s, hdrop, List.takeWhile_append_of_pos htaken,
      List.takeWhile_cons_of_pos hholds]
    exact List.mem_append_right _ List.mem_cons_self
  · intro hm
    obtain ⟨before, after, hline⟩ := List.append_of_mem hm
    have hs : s = before ++ c :: (after ++ s.dropWhile CharClass.any.holds) := by
      conv_lhs => rw [← List.takeWhile_append_dropWhile (p := CharClass.any.holds) (l := s), hline]
      rw [List.append_assoc, List.cons_append]
    refine ⟨before.length, ⟨Nat.zero_le _, ?_⟩, ?_⟩
    · rw [hline, List.length_append]
      exact Nat.le_add_right _ _
    · have hdrop : s.drop before.length = c :: (after ++ s.dropWhile CharClass.any.holds) := by
        conv_lhs => rw [hs]
        exact List.drop_left
      rw [hdrop]
      exact accepts_cons.2 ⟨1, ⟨rfl, rfl⟩, rfl⟩

namespace Statement

variable {s java : Text}

/-- A line that calls the printing method. -/
def isPrintCall (java : Text) : Bool :=
  java.startsWith "System.out.println(" && java.endsWith ");"

theorem isPrintCall_println (x : Text) : isPrintCall (println x) = true := by
  have hline : println x = "System.out.println(".toList ++ (x ++ ");".toList) :=
    List.append_assoc _ _ _
  have hend : println x = ("System.out.println(".toList ++ x) ++ ");".toList := rfl
  exact Bool.and_eq_true_iff.2
    ⟨List.isPrefixOf_iff_prefix.2 ⟨_, hline.symm⟩, List.isSuffixOf_iff_suffix.2 ⟨_, hend.symm⟩⟩

theorem not_isPrintCall (h : java.startsWith "print" = true) : isPrintCall java = false :=
  Bool.and_eq_false_iff.2 (.inl (Text.startsWith_of_ne (by decide) h))

theorem trim_print (r : Text) : Text.trim ("print " ++ r) = "print" ∨
    (Text.trim ("print " ++ r)).startsWith "print " = true := by
  have hline : Text.trim ("print " ++ r) = "prin".toList ++ 't' :: Text.trimRight (' ' :: r) :=
    show Text.trim ("prin".toList ++ 't' :: ' ' :: r) = _ from
      Text.trim_append_cons (Text.head_cons rfl) rfl
  rw [hline]
  rcases List.prefix_cons_iff.1 (Text.dropEndWhile_isPrefix isBlank (' ' :: r)) with
    hnil | ⟨more, hmore, -⟩
  · rw [Text.trimRight, hnil]
    exact .inl rfl
  · rw [Text.trimRight, hmore]
    exact .inr rfl

theorem startsWith_trim_print (r : Text) :
    (Text.trim ("print " ++ r)).startsWith "print" = true := by
  rcases trim_print r with h | h
  · rw [h]
    rfl
  · have htaken : "print".toList <+: "print ".toList := by decide
    exact List.isPrefixOf_iff_prefix.2 (htaken.trans (List.isPrefixOf_iff_prefix.1 h))

theorem print_not_isCreation (r : Text) : isCreation ("print " ++ r) = false := by
  refine not_isCreation_of_find? fun verb hv p => ?_
  simp only [Vocabulary.standard, List.mem_cons, List.not_mem_nil, or_false] at hv
  rcases hv with rfl | rfl | rfl | rfl | rfl
  all_goals rfl

theorem listAssignment_print (r : Text) :
    ∃ java, listAssignment bareAssignment ("print " ++ r) = .ok (some java) ∧
      java.startsWith "print" = true := by
  have hcut : Text.cut? "=" ("print ".toList ++ r) =
      (Text.cut? "=" r).map fun parts => ("print ".toList ++ parts.1, parts.2) :=
    Text.cut?_append (by decide)
  rw [listAssignment, hcut]
  cases Text.cut? "=" r with
  | none => exact ⟨_, rfl, rfl⟩
  | some parts =>
    rw [Option.map_some]
    dsimp only
    split_ifs
    · refine ⟨_, rfl, List.isPrefixOf_iff_prefix.2 ?_⟩
      simp only [List.append_assoc]
      exact (List.isPrefixOf_iff_prefix.1 (startsWith_trim_print parts.1)).trans
        (List.prefix_append _ _)
    · exact ⟨_, rfl, rfl⟩

theorem formatPrint_cases (style : PrintStyle) (x : Text) :
    '"' ∈ x.takeWhile (· != '\n') ∧ (∃ y, formatPrint style ("print f\"" ++ x) = println y) ∨
      '"' ∉ x.takeWhile (· != '\n') ∧
        formatPrint style ("print f\"" ++ x) = "print f\"" ++ x ++ ";" := by
  have hfind : formatPattern.find? ("print f\"" ++ x) =
      Pattern.find? [.run .any 0 false true, .exact '"'] x := by
    rw [formatPattern, List.append_assoc, Pattern.find?_exactly_append]
    rfl
  have hclosed := Pattern.accepts_before (c := '"') (by decide) false true x
  rw [formatPrint, hfind]
  cases hkept : Pattern.find? [.run .any 0 false true, .exact '"'] x with
  | none =>
    rw [Pattern.accepts, hkept] at hclosed
    exact .inr ⟨fun hm => Bool.noConfusion (hclosed.2 hm), rfl⟩
  | some kept =>
    rw [Pattern.accepts, hkept] at hclosed
    obtain ⟨content, rfl⟩ := List.length_eq_one_iff.1 (Pattern.length_of_find? hkept)
    exact .inl ⟨hclosed.1 rfl, exists_interpolated style content⟩

theorem convert_typed_print (v : Vocabulary) (hp : s.trim.startsWith "print " = true) :
    (Edition.openAccessors v).convert s =
      if isListAssignment s.trim then listAssignment bareAssignment s.trim >>= required
      else .ok (if s.trim.startsWith "print f\"" then formatPrint Edition.guesses.print s.trim
        else plainPrint Edition.guesses.print s.trim) := by
  have hrules : (Edition.openAccessors v).rules =
      typedRules (printRules Edition.guesses.print) Edition.guesses.loops := rfl
  obtain ⟨r, hr⟩ := List.isPrefixOf_iff_prefix.1 hp
  have hfirst := firstRules_of_not_isCreation (hr ▸ print_not_isCreation r) Edition.guesses.print
  rw [Edition.convert, hrules, convertBy_eq, typedRules_eq, List.findSome?_append, hfirst,
    printRules_printed Edition.guesses.print hp]
  split_ifs
  all_goals rfl

/-- Something follows the word, no list is assigned, and a format string is closed before its line
ends. -/
structure IsPrinted (t : Text) : Prop where
  follows : t ≠ "print"
  notList : isListAssignment t = false
  closed : t.startsWith "print f\"" = true → '"' ∈ (t.drop 8).takeWhile (· != '\n')

theorem exists_convert_print (v : Vocabulary) (hp : s.startsWith "print " = true) :
    ∃ java, (Edition.openAccessors v).convert s = .ok java ∧
      (IsPrinted s.trim ∧ (∃ x, java = println x) ∨
        ¬IsPrinted s.trim ∧ java.startsWith "print" = true) := by
  obtain ⟨r, rfl⟩ := List.isPrefixOf_iff_prefix.1 hp
  rcases trim_print r with hword | hprint
  · refine ⟨"print;", ?_, .inr ⟨fun h => h.follows hword, rfl⟩⟩
    rw [Edition.convert, convertBy, hword]
    rfl
  have hne : Text.trim ("print " ++ r) ≠ "print" := by
    intro he
    rw [he] at hprint
    cases hprint
  obtain ⟨more, hmore⟩ := List.isPrefixOf_iff_prefix.1 hprint
  rw [convert_typed_print v hprint]
  by_cases hlist : isListAssignment (Text.trim ("print " ++ r)) = true
  · obtain ⟨java, hjava, hstart⟩ := listAssignment_print more
    rw [if_pos hlist, ← hmore, hjava]
    exact ⟨java, rfl, .inr ⟨fun h => Bool.eq_false_iff.1 h.notList (hmore ▸ hlist), hstart⟩⟩
  rw [if_neg hlist]
  refine ⟨_, rfl, ?_⟩
  by_cases hformat : (Text.trim ("print " ++ r)).startsWith "print f\"" = true
  · obtain ⟨x, hx⟩ := List.isPrefixOf_iff_prefix.1 hformat
    rw [if_pos hformat, ← hx]
    rcases formatPrint_cases Edition.guesses.print x with ⟨hclosed, hline⟩ | ⟨hopen, hline⟩
    · exact .inl ⟨⟨hx ▸ hne, Bool.eq_false_iff.2 (hx ▸ hlist), fun _ => hclosed⟩, hline⟩
    · refine .inr ⟨fun h => hopen (h.closed rfl), ?_⟩
      rw [hline]
      rfl
  · rw [if_neg hformat]
    exact .inl ⟨⟨hne, Bool.eq_false_iff.2 hlist, fun h => absurd h hformat⟩,
      exists_contentPrint _ _⟩

/-- A statement that begins with `print ` becomes a call that prints exactly if something follows
the word, no list is assigned in it, and a format string is closed before its line ends. Otherwise
the line still begins with the word. -/
theorem isPrintCall_convert_iff (v : Vocabulary) (hp : s.startsWith "print " = true) :
    ∃ java, (Edition.openAccessors v).convert s = .ok java ∧
      (isPrintCall java = true ↔ IsPrinted s.trim) ∧
      (isPrintCall java = false → java.startsWith "print" = true) := by
  obtain ⟨java, hjava, ⟨hprinted, x, rfl⟩ | ⟨hnot, hstart⟩⟩ := exists_convert_print v hp
  · have hcall := isPrintCall_println x
    exact ⟨_, hjava, iff_of_true hcall hprinted, fun h => absurd hcall (Bool.eq_false_iff.1 h)⟩
  · have hcall := Bool.eq_false_iff.1 (not_isPrintCall hstart)
    exact ⟨_, hjava, iff_of_false hcall hnot, fun _ => hstart⟩

theorem isPrintCall_convert_iff_list :
    let e := Edition.openAccessors .standard
    e.convert "print xs = arraylist" = .ok "print xs = new ArrayList<String>();" ∧
      ¬IsPrinted "print xs = arraylist" ∧
      e.convert "print f\"xs = \x7bxs\x7d\"" =
        .ok "System.out.println(String.format(\"xs = %s\", xs));" ∧
      IsPrinted "print f\"xs = \x7bxs\x7d\"" := by
  intro e
  have hlist : e.convert "print xs = arraylist" = .ok "print xs = new ArrayList<String>();" := by
    decide +kernel
  have hformat : e.convert "print f\"xs = \x7bxs\x7d\"" =
      .ok "System.out.println(String.format(\"xs = %s\", xs));" := by
    decide +kernel
  obtain ⟨java, hjava, hcall, -⟩ :=
    isPrintCall_convert_iff .standard (s := "print xs = arraylist") rfl
  obtain ⟨java', hjava', hcall', -⟩ :=
    isPrintCall_convert_iff .standard (s := "print f\"xs = \x7bxs\x7d\"") rfl
  obtain rfl := Except.ok.inj (hjava.symm.trans hlist)
  obtain rfl := Except.ok.inj (hjava'.symm.trans hformat)
  exact ⟨hlist, fun h => absurd (hcall.2 h) (by decide), hformat, hcall'.1 (by decide)⟩

end Statement

end JavaSketch
