import JavaSketch.Proofs.Guards
import JavaSketch.Proofs.Pieces

namespace JavaSketch

namespace Statement

/-- A Java line with a property, or with a brace behind what has the property. -/
inductive Shape (P : Text → Prop) : Text → Prop
  | flat {t : Text} (h : P t) : Shape P t
  | block {t : Text} (h : P t) : Shape P (t ++ [openBrace])

theorem infix_of_mem_slots {s t : Text} (h : t ∈ slots s) : t <:+: s := by
  suffices hs : ∀ n, t ∈ slotsFrom n s → t <:+: s from hs 0 h
  clear h
  induction s with
  | nil =>
    intro n h
    rw [slotsFrom] at h
    cases h
  | cons c s ih =>
    intro n h
    cases n with
    | succ n =>
      rw [slotsFrom] at h
      exact List.infix_cons (ih n h)
    | zero =>
      rw [slotsFrom] at h
      split at h
      · rcases List.mem_cons.1 h with rfl | h
        · exact List.infix_cons (List.takeWhile_prefix _).isInfix
        · exact List.infix_cons (ih _ h)
      · exact List.infix_cons (ih 0 h)

end Statement

namespace Piecewise

open Statement

variable {P : Text → Prop} {s t type name first bound arguments : Text}
  {value : Option Text}

variable (hP : Piecewise javaGlue P)
include hP

theorem types : Piecewise typeGlue P := hP.mono fun _ hq => Bool.or_eq_true_iff.2 (.inl hq)

theorem declared (ht : P type) (hn : P name) (hv : ∀ t, value = some t → P t) :
    P (Statement.declared type name value) := by
  have hhead : P (type ++ " " ++ name) := hP.between ht (by decide) hn
  cases value with
  | none => exact hP.append_fixed hhead (by decide)
  | some value =>
    cases value with
    | nil => exact hP.append_fixed hhead (by decide)
    | cons c value =>
      have hall : P (type ++ " " ++ name ++ " = " ++ c :: value) :=
        hP.between hhead (by decide) (hv _ rfl)
      exact hP.append_fixed hall (by decide)

theorem partAndValue (hs : P s) :
    P (Statement.partAndValue .all s).1 ∧
      ∀ t, (Statement.partAndValue .all s).2 = some t → P t := by
  rw [Statement.partAndValue]
  split
  · rename_i part value h
    obtain ⟨hp, hv⟩ := hP.cut? hs h
    refine ⟨hP.trim hp, ?_⟩
    intro t ht
    cases ht
    exact hP.trim hv
  · split
    · rename_i part value h
      obtain ⟨hp, hv⟩ := hP.cut? hs h
      refine ⟨hP.trim hp, ?_⟩
      intro t ht
      cases ht
      exact hP.javaValue (hP.trim hv)
    · refine ⟨hs, ?_⟩
      intro t ht
      cases ht

theorem localDeclaration (hs : P s)
    (h : Statement.localDeclaration Stage.current.locals s = .ok t) : P t := by
  rw [Statement.localDeclaration] at h
  split at h
  · rw [inferredDeclaration] at h
    split at h
    · rename_i name value hcut
      obtain ⟨hn, hv⟩ := hP.cut? (hP.trim (hP.drop hs 4)) hcut
      have hname : P ("var " ++ name.trim) := hP.fixed_append (by decide) (hP.trim hn)
      cases h
      apply hP.append_fixed _ (by decide)
      exact hP.between hname (by decide) (hP.javaValue (hP.trim hv))
    · cases h
  · split at h
    · obtain ⟨hp, hv⟩ := hP.partAndValue hs
      dsimp only at h
      split at h
      · rename_i name type hcut
        obtain ⟨hn, ht⟩ := hP.cut? hp hcut
        obtain ⟨htype, hvalue⟩ := hP.types.typeAndValue (hP.trim ht)
          (Statement.partAndValue .all s).2
        cases h
        exact hP.declared htype (hP.trim hn) (hvalue hv)
      · cases h
    · cases h
      exact hP.append_fixed hs (by decide)

theorem operationStatement (hs : P s) : P (Statement.operationStatement .all s) := by
  have he := hP.operationExpression hs
  rw [Statement.operationStatement]
  split
  · exact he
  · exact hP.append_fixed he (by decide)

theorem assignment (hs : P s) : P (Statement.assignment .all s) := by
  rw [Statement.assignment]
  split
  · rename_i target value h
    obtain ⟨ht, hv⟩ := hP.cut? hs h
    apply hP.append_fixed _ (by decide)
    exact hP.between (hP.trim ht) (by decide) (hP.javaValue (hP.trim hv))
  · exact hP.append_fixed hs (by decide)

/-- A conversion begins with a percent sign and ends with its letter. -/
theorem conversion (hs : P s) :
    ∃ m q, Statement.conversion s = '%' :: (m ++ [q]) ∧ P m ∧ javaGlue q = true := by
  rw [Statement.conversion]
  split
  · split
    · rename_i whole digits more he
      have hd : digits <:+: s := by
        apply Text.infix_of_mem_splitAt (c := '.')
        rw [he]
        exact List.mem_cons_of_mem _ List.mem_cons_self
      have hm : P ("." ++ digits.dropLast) :=
        hP.fixed_append (by decide) (hP.piece hs ((List.dropLast_prefix digits).isInfix.trans hd))
      exact ⟨_, 'f', rfl, hm, by decide⟩
    · exact ⟨[], 'f', rfl, hP.empty, by decide⟩
  · split
    · exact ⟨[], 'd', rfl, hP.empty, by decide⟩
    · exact ⟨[], 's', rfl, hP.empty, by decide⟩

theorem slot (hs : P s) :
    (∃ m q, (Stage.current.print.slot s).1 = '%' :: (m ++ [q]) ∧ P m ∧ javaGlue q = true) ∧
      P (Stage.current.print.slot s).2 := by
  have hplain : ∃ m q, "%s".toList = '%' :: (m ++ [q]) ∧ P m ∧ javaGlue q = true :=
    ⟨[], 's', rfl, hP.empty, by decide⟩
  rw [PrintStyle.slot]
  split
  · rename_i expression format h
    obtain ⟨he, hf⟩ := hP.cut? hs h
    exact ⟨hP.conversion (hP.trim hf), hP.trim he⟩
  · split
    · refine ⟨hplain, ?_⟩
      exact hP.append_fixed (hP.fixed_append (by decide) (hP.operationExpression hs)) (by decide)
    · split
      · exact ⟨hplain, hP.append_fixed (hP.fixed_append (by decide) hs) (by decide)⟩
      · exact ⟨hplain, hs⟩

theorem formatOf (hs : P s) : P (Stage.current.print.formatOf s) := by
  have hslots : ∀ t ∈ slots s, P t := fun t ht => hP.piece hs (infix_of_mem_slots ht)
  have hfold : ∀ (l : List Text) (format : Text), (∀ t ∈ l, P t) → P format →
      P (l.foldl (fun format t =>
        format.replace (braced t) (Stage.current.print.slot t).1) format) := by
    intro l
    induction l with
    | nil =>
      intro format _ hf
      exact hf
    | cons t l ih =>
      intro format hl hf
      obtain ⟨ht, hl⟩ := List.forall_mem_cons.1 hl
      obtain ⟨⟨m, q, he, hm, hq⟩, _⟩ := hP.slot ht
      apply ih _ hl
      dsimp only
      rw [he]
      exact hP.replace hf (by decide) hm hq
  exact hP.replace (m := []) (q := '\\') (r := '"') (hfold _ s hslots hs) (by decide) hP.empty
    (by decide)

theorem println (hs : P s) : P (Statement.println s) :=
  hP.append_fixed (hP.fixed_append (by decide) hs) (by decide)

theorem interpolated (hs : P s) : P (Statement.interpolated Stage.current.print s) := by
  have hliteral : P ("\"" ++ Stage.current.print.formatOf s ++ "\"") :=
    hP.append_fixed (hP.fixed_append (by decide) (hP.formatOf hs)) (by decide)
  have harguments : ∀ t ∈ Stage.current.print.arguments s, P t := by
    intro t ht
    obtain ⟨u, hu, rfl⟩ := List.mem_map.1 ht
    exact (hP.slot (hP.piece hs (infix_of_mem_slots hu))).2
  rw [Statement.interpolated]
  split
  · exact hP.println hliteral
  · apply hP.println
    apply hP.append_fixed _ (by decide)
    exact hP.between (hP.fixed_append (by decide) hliteral) (by decide)
      (hP.join (by decide) harguments)

theorem formatPrint (hs : P s) : P (Statement.formatPrint Stage.current.print s) := by
  rw [Statement.formatPrint]
  split
  · rename_i content h
    exact hP.interpolated (hP.find? hs h List.mem_cons_self)
  · exact hP.append_fixed hs (by decide)

theorem plainPrint (hs : P s) : P (Statement.plainPrint Stage.current.print s) := by
  have hc : P (Text.trim (s.drop 6)) := hP.trim (hP.drop hs 6)
  rw [Statement.plainPrint, contentPrint]
  split
  · exact hP.println hc
  · exact hP.interpolated hc

theorem javaOperators (hs : P s) : P (Statement.javaOperators s) := by
  have hand : P (s.replace " and " " && ") :=
    hP.replace (m := "&&") hs (by decide) (hP.fixed (by decide)) (by decide)
  have hor : P ((s.replace " and " " && ").replace " or " " || ") :=
    hP.replace (m := "||") hand (by decide) (hP.fixed (by decide)) (by decide)
  exact hP.replace (m := []) (q := ' ') (r := '!') hor (by decide) hP.empty (by decide)

theorem headAfter (n : Nat) (hs : P s) : P (Statement.headAfter n s) :=
  hP.piece (hP.drop hs n) (Text.dropEndWhile_isPrefix _ _).isInfix

theorem opened (hs : P s) : Shape P (s ++ ") \x7b") := by
  have he : (s ++ ") \x7b" : Text) = (s ++ ") ") ++ [openBrace] := by
    rw [List.append_assoc]
    rfl
  rw [he]
  exact .block (hP.append_fixed hs (by decide))

theorem ifLine (hs : P s) : Shape P (Statement.ifLine s) :=
  hP.opened (hP.fixed_append (by decide) (hP.javaOperators (hP.headAfter 3 hs)))

theorem whileLine (hs : P s) : Shape P (Statement.whileLine s) :=
  hP.opened (hP.fixed_append (by decide) (hP.javaOperators (hP.headAfter 6 hs)))

theorem switchLine (hs : P s) : Shape P (Statement.switchLine s) :=
  hP.opened (hP.fixed_append (by decide) (hP.headAfter 7 hs))

theorem elifLine (hs : P s) :
    ∃ t, P t ∧ Statement.elifLine s = closeBrace :: t ++ [openBrace] := by
  refine ⟨" else if (" ++ Statement.javaOperators (Statement.headAfter 5 s) ++ ") ", ?_, ?_⟩
  · apply hP.append_fixed _ (by decide)
    exact hP.fixed_append (by decide) (hP.javaOperators (hP.headAfter 5 hs))
  · have h : Statement.elifLine s = closeBrace ::
        (" else if (" ++ Statement.javaOperators (Statement.headAfter 5 s)) ++
        (") " ++ [openBrace]) := rfl
    rw [h, ← List.append_assoc]
    rfl

theorem countingLine (hs : P s) (hf : P first) (hb : P bound) :
    Shape P (Statement.countingLine s first bound) := by
  have hstart : P ("for (int " ++ s ++ " = " ++ first) :=
    hP.between (hP.fixed_append (by decide) hs) (by decide) hf
  have htest : P ("for (int " ++ s ++ " = " ++ first ++ "; " ++ s ++ " < " ++ bound) :=
    hP.between (hP.between hstart (by decide) hs) (by decide) hb
  have hnext : P ("for (int " ++ s ++ " = " ++ first ++ "; " ++ s ++ " < " ++ bound ++ "; " ++ s) :=
    hP.between htest (by decide) hs
  have h : Statement.countingLine s first bound =
      ("for (int " ++ s ++ " = " ++ first ++ "; " ++ s ++ " < " ++ bound ++ "; " ++ s) ++
        ("++" ++ ") \x7b") := rfl
  rw [h, ← List.append_assoc]
  exact hP.opened (hP.append_fixed hnext (by decide))

theorem eachLine (hs : P s) (ht : P t) : Shape P (Statement.eachLine s t) :=
  hP.opened (hP.between (hP.fixed_append (by decide) hs) (by decide) ht)

theorem range? {style : LoopStyle} (hs : P s) (ha : P arguments)
    (h : style.range? s arguments = some t) : Shape P t := by
  have hp {piece : Text} (hm : piece ∈ arguments.splitAt ',') : P piece.trim :=
    hP.trim (hP.piece ha (Text.infix_of_mem_splitAt hm))
  rw [LoopStyle.range?] at h
  split at h
  · rename_i bound he
    cases h
    exact hP.countingLine hs (hP.fixed (by decide)) (hp (by simp [he]))
  · rename_i first bound he
    cases h
    exact hP.countingLine hs (hp (by simp [he])) (hp (by simp [he]))
  · rename_i first bound more _ he
    split at h
    · cases h
      exact hP.countingLine hs (hp (by simp [he])) (hp (by simp [he]))
    · cases h
  · cases h

theorem collection (style : LoopStyle) (hs : P s) : P (style.collection s) := by
  rw [LoopStyle.collection]
  split
  · exact hP.append_fixed (hP.trim (hP.drop hs 8)) (by decide)
  · split
    · exact hP.append_fixed (hP.trim (hP.drop hs 10)) (by decide)
    · split
      · rw [List.getLastD_eq_getLast?]
        cases hw : s.words.getLast? with
        | none => exact hP.empty
        | some w => exact hP.piece hs (Text.infix_of_mem_words (List.mem_of_getLast? hw))
      · exact hs

theorem forLine (style : LoopStyle) (hs : P s) : Shape P (Statement.forLine style s) := by
  rw [Statement.forLine]
  split
  · split
    · rename_i v arguments h
      cases hr : style.range? v arguments with
      | none => exact .flat hs
      | some t => exact hP.range? (hP.find? hs h (by simp)) (hP.find? hs h (by simp)) hr
    · exact .flat hs
  · split
    · split
      · rename_i v c h
        exact hP.eachLine (hP.find? hs h (by simp))
          (hP.collection style (hP.trim (hP.find? hs h (by simp))))
      · exact .flat hs
    · exact .flat hs

theorem terminate (hs : P s) : P (Statement.terminate s) := by
  rw [Statement.terminate]
  split
  · exact hs
  · exact hP.append_fixed hs (by decide)

end Piecewise

namespace Statement

variable {P : Text → Prop} {s t : Text}

/-- The rule gives statements with the property a line that has it, up to a brace that opens a
block. -/
def Shaped (P : Text → Prop) (rule : Rule) : Prop :=
  ∀ s t, P s → rule s = some (.ok (some t)) → Shape P t

theorem opening_shaped {word : Text} {convert : Text → Text}
    (hc : ∀ s, P s → Shape P (convert s)) : Shaped P (.opening word convert) := by
  intro s t hs h
  rw [Rule.opening] at h
  split at h
  · cases h
    exact hc s hs
  · cases h

/-- The rules before those for blocks. -/
def earlyRules : List Rule :=
  printRules Stage.current.print ++
    [localRule .current isLocal, operationRule .all,
     assignmentRule (assignment .all)]

def lateRules : List Rule :=
  [elseRule, .opening "for " (forLine Stage.current.loops), .opening "while " whileLine,
   .opening "switch " switchLine, .opening "return " (· ++ ";")]

theorem rules_current : Stage.current.rules =
    earlyRules ++ .opening "if " ifLine :: .opening "elif " elifLine :: lateRules := rfl

theorem printRules_printed (style : PrintStyle) (hp : s.startsWith "print " = true) :
    (printRules style).findSome? (· s) = some (.ok (some (if s.startsWith "print f\"" then
      formatPrint style s else plainPrint style s))) := by
  simp only [printRules, List.findSome?_cons, Rule.opening, hp, ↓reduceIte]
  split_ifs
  · rfl
  · rfl

theorem convert_printed (hp : s.trim.startsWith "print " = true) :
    convert .current s = .ok (if s.trim.startsWith "print f\"" then
      formatPrint Stage.current.print s.trim else plainPrint Stage.current.print s.trim) := by
  rw [convert, convertBy_eq, rules_current, List.findSome?_append, earlyRules,
    List.findSome?_append,
    printRules_printed Stage.current.print hp]
  rfl

/-- A statement that prints nothing is a declaration, an operation or an assignment, or else is left
to the other rules. -/
theorem convert_unprinted (hp : s.trim.startsWith "print " = false) :
    convert .current s =
      if isLocal s.trim then localDeclaration Stage.current.locals s.trim
      else if isOperation .all s.trim then .ok (operationStatement .all s.trim)
      else if isAssignment s.trim then .ok (assignment .all s.trim)
      else convertBy (.opening "if " ifLine :: .opening "elif " elifLine :: lateRules) s := by
  have hf : s.trim.startsWith "print f\"" = false := by
    rw [Bool.eq_false_iff] at hp ⊢
    intro hs
    exact hp (List.isPrefixOf_iff_prefix.2
      ((List.prefix_append _ _).trans (List.isPrefixOf_iff_prefix.1 hs)))
  have hearly : earlyRules.findSome? (· s.trim) =
      if isLocal s.trim then some ((localDeclaration Stage.current.locals s.trim).map some)
      else if isOperation .all s.trim then
        some (.ok (some (operationStatement .all s.trim)))
      else if isAssignment s.trim then some (.ok (some (assignment .all s.trim)))
      else none := by
    simp only [earlyRules, printRules, List.cons_append, List.nil_append, List.findSome?_cons,
      Rule.opening, hf, hp, Bool.false_eq_true, ↓reduceIte, localRule, operationRule,
      assignmentRule, List.findSome?_nil]
    split_ifs
    all_goals rfl
  rw [convert, convertBy_eq, convertBy_eq, rules_current, List.findSome?_append, hearly]
  split_ifs
  · exact map_some_required _
  · rfl
  · rfl
  · rw [Option.none_or]

theorem earlyRules_shaped (hP : Piecewise javaGlue P) : ∀ rule ∈ earlyRules, Shaped P rule := by
  simp only [earlyRules, printRules, List.forall_mem_append, List.forall_mem_cons, List.not_mem_nil,
    false_imp_iff, implies_true, and_true]
  refine ⟨⟨opening_shaped fun s hs => .flat (hP.formatPrint hs),
    opening_shaped fun s hs => .flat (hP.plainPrint hs)⟩, ?_, ?_, ?_⟩
  · intro s t hs h
    rw [localRule] at h
    split at h
    · obtain ⟨java, hj, he⟩ := map_eq_ok.1 (Option.some.inj h)
      cases he
      exact .flat (hP.localDeclaration hs hj)
    · cases h
  · intro s t hs h
    rw [operationRule] at h
    split at h
    · cases h
      exact .flat (hP.operationStatement hs)
    · cases h
  · intro s t hs h
    rw [assignmentRule] at h
    split at h
    · cases h
      exact .flat (hP.assignment hs)
    · cases h

theorem lateRules_shaped (hP : Piecewise javaGlue P) : ∀ rule ∈ lateRules, Shaped P rule := by
  simp only [lateRules, List.forall_mem_cons, List.not_mem_nil, false_imp_iff, implies_true,
    and_true]
  refine ⟨?_, opening_shaped fun s hs => hP.forLine _ hs,
    opening_shaped fun s hs => hP.whileLine hs, opening_shaped fun s hs => hP.switchLine hs,
    opening_shaped fun s hs => .flat (hP.append_fixed hs (by decide))⟩
  intro s t hs h
  rw [elseRule] at h
  split at h
  · cases h
    exact .block (t := "else ") (hP.fixed (by decide))
  · cases h

/-- A statement that is read as `elif`: it begins so, and is taken neither for a declaration nor
for an operation nor for an assignment. -/
def isElif (s : Text) : Bool :=
  s.startsWith "elif " && !isLocal s && !isOperation .all s && !isAssignment s

theorem earlyRules_eq_none : (∀ rule ∈ earlyRules, rule s = none) ↔
    (s.startsWith "print f\"" = false ∧ s.startsWith "print " = false) ∧
      isLocal s = false ∧ isOperation .all s = false ∧ isAssignment s = false := by
  simp only [earlyRules, printRules, List.forall_mem_append, List.forall_mem_cons, List.not_mem_nil,
    false_imp_iff, implies_true, and_true, Rule.opening, localRule, operationRule, assignmentRule,
    ite_eq_right_iff, reduceCtorEq, imp_false, Bool.not_eq_true]

theorem convert_elif (h : isElif s.trim = true) :
    convert .current s = .ok (elifLine s.trim) := by
  simp only [isElif, Bool.and_eq_true, Bool.not_eq_true'] at h
  obtain ⟨⟨⟨he, hl⟩, ho⟩, ha⟩ := h
  have hp : ∀ q : Text, s.trim.startsWith ('p' :: q) = false :=
    fun q => Text.startsWith_of_ne (c := 'e') (p := "lif ") (by decide) he
  have hi : s.trim.startsWith "if " = false :=
    Text.startsWith_of_ne (c := 'e') (p := "lif ") (t := "f ") (by decide) he
  have hn : earlyRules.findSome? (· s.trim) = none :=
    List.findSome?_eq_none_iff.2 (earlyRules_eq_none.2
      ⟨⟨hp "rint f\"", hp "rint "⟩, hl, ho, ha⟩)
  have hr : Stage.current.rules.findSome? (· s.trim) = some (.ok (some (elifLine s.trim))) := by
    rw [rules_current, List.findSome?_append, hn, Option.none_or, List.findSome?_cons]
    simp only [Rule.opening, hi, he, Bool.false_eq_true, ↓reduceIte, List.findSome?_cons]
  rw [convert, convertBy, hr]
  rfl

/-- Apart from `elif`, the Java form of a statement with a piecewise property has the property, up
to a brace at its end. -/
theorem convert_shape (hP : Piecewise javaGlue P) (hs : P s) (hn : isElif s.trim = false)
    (h : convert .current s = .ok t) : Shape P t := by
  rw [convert, convertBy_eq, rules_current, List.findSome?_append] at h
  cases he : earlyRules.findSome? (· s.trim) with
  | some r =>
    obtain ⟨rule, hm, hr⟩ := List.exists_of_findSome?_eq_some he
    rw [he] at h
    obtain rfl := bind_required_eq_ok.1 h
    exact earlyRules_shaped hP rule hm _ t (hP.trim hs) hr
  | none =>
    obtain ⟨_, hl, ho, ha⟩ := earlyRules_eq_none.1 (List.findSome?_eq_none_iff.1 he)
    have hw : s.trim.startsWith "elif " = false := by
      simpa only [isElif, hl, ho, ha, Bool.not_false, Bool.and_true] using hn
    rw [he, Option.none_or] at h
    cases hb : (Rule.opening "if " ifLine :: Rule.opening "elif " elifLine :: lateRules).findSome?
        (· s.trim) with
    | none =>
      rw [hb] at h
      cases h
      exact .flat (hP.terminate (hP.trim hs))
    | some r =>
      rw [hb] at h
      obtain ⟨rule, hm, hr⟩ := List.exists_of_findSome?_eq_some hb
      obtain rfl := bind_required_eq_ok.1 h
      rcases List.mem_cons.1 hm with rfl | hm
      · exact opening_shaped (fun s hs => hP.ifLine hs) _ t (hP.trim hs) hr
      · rcases List.mem_cons.1 hm with rfl | hm
        · rw [Rule.opening, hw] at hr
          cases hr
        · exact lateRules_shaped hP rule hm _ t (hP.trim hs) hr

/-- A piecewise property that braces do not disturb holds of the Java form of a statement. -/
theorem convert_keeps (hP : Piecewise javaGlue P) (hopen : ∀ {t : Text}, P t → P (t ++ [openBrace]))
    (hclose : ∀ {t : Text}, P t → P (closeBrace :: t)) (hs : P s)
    (h : convert .current s = .ok t) : P t := by
  cases he : isElif s.trim with
  | false =>
    cases convert_shape hP hs he h with
    | flat ht => exact ht
    | block ht => exact hopen ht
  | true =>
    rw [convert_elif he] at h
    cases h
    obtain ⟨u, hu, hl⟩ := hP.elifLine (hP.trim hs)
    rw [hl]
    exact hopen (hclose hu)

end Statement

end JavaSketch
