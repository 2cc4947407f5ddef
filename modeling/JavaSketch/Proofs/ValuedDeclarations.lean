import JavaSketch.Proofs.Creations
import JavaSketch.Proofs.SpokenWords

namespace JavaSketch

namespace Statement

open Operation

/-- What a declaration can be given as a value: it has none of the words that divide a
declaration. -/
structure IsInitial (v : Text) : Prop where
  ne_nil : v ≠ []
  trimmed : v.trim = v
  untyped : v.includes " as " = false
  unjoined : v.includes " with " = false
  unassigned : v.includes " = " = false

theorem IsInitial.trim_append {v head : Text} (hv : IsInitial v)
    (hh : ∀ c ∈ (head ++ v).head?, isBlank c = false) : Text.trim (head ++ v) = head ++ v := by
  apply Text.trim_of_ends hh
  intro c hc
  rw [List.getLast?_append_of_ne_nil _ hv.ne_nil] at hc
  exact Text.getLast_of_trim hv.trimmed c hc

/-- The declaration of a name with a type, without a value. -/
def typedPart (n t : Text) : Text := n ++ ["as".toList, t].flatMap (' ' :: ·)

/-- The declaration with a value behind a word. -/
def valuedLine (n t word v : Text) : Text := typedPart n t ++ ' ' :: (word ++ ' ' :: v)

theorem valuedLine_eq (n t word v : Text) :
    valuedLine n t word v = n ++ ' ' :: ("as" ++ ' ' :: (t ++ ' ' :: (word ++ ' ' :: v))) := by
  simp [valuedLine, typedPart]

/-- The Java form of a declaration with a value. -/
def initialised (n t v : Text) : Text :=
  declared (typeAndValue .full Container.all t (some v)).1 n
    (typeAndValue .full Container.all t (some v)).2

variable {n t v w x : Text}

section Cuts

variable (hn : ' ' ∉ n) (ht : ' ' ∉ t) (hw : ' ' ∉ w)
include hn

theorem cut?_typed (rest : Text) :
    Text.cut? " as " (n ++ ' ' :: ("as" ++ ' ' :: rest)) = some (n, rest) := by
  have hmove : Text.cut? " as " (n ++ ' ' :: ("as" ++ ' ' :: rest)) =
      (Text.cut? " as " (' ' :: ("as" ++ ' ' :: rest))).map fun res => (n ++ res.1, res.2) :=
    Text.cut?_append hn
  have hself : Text.cut? " as " (' ' :: ("as" ++ ' ' :: rest)) = some ([], rest) :=
    Text.cut?_self (List.cons_ne_nil _ _) rest
  rw [hmove, hself, Option.map_some, List.append_nil]

include hw

/-- The word is found in front of the value, unless the type is this word. -/
theorem cut?_value (ht : ' ' ∉ t) (hne : t ≠ w) (has : w ≠ "as") (v : Text) :
    Text.cut? (' ' :: (w ++ [' '])) (valuedLine n t w v) = some (typedPart n t, v) := by
  have hparts : ∀ part ∈ ["as".toList, t], ' ' ∉ part ∧ part ≠ w :=
    List.forall_mem_cons.2 ⟨⟨by decide, has.symm⟩, List.forall_mem_singleton.2 ⟨ht, hne⟩⟩
  rw [valuedLine, typedPart, List.append_assoc, Text.cut?_append hn, Text.cut?_words hw hparts,
    Option.map_some]

theorem cut?_type (has : w ≠ "as") (word v : Text) :
    Text.cut? (' ' :: (w ++ [' '])) (valuedLine n w word v) =
      some (n ++ ["as".toList].flatMap (' ' :: ·), word ++ ' ' :: v) := by
  have hparts : ∀ part ∈ ["as".toList], ' ' ∉ part ∧ part ≠ w :=
    List.forall_mem_singleton.2 ⟨by decide, has.symm⟩
  have hshape : valuedLine n w word v =
      n ++ (["as".toList].flatMap (' ' :: ·) ++ ' ' :: (w ++ ' ' :: (word ++ ' ' :: v))) := by
    simp [valuedLine, typedPart]
  rw [hshape, Text.cut?_append hn, Text.cut?_words hw hparts, Option.map_some]

/-- Another word can be found only in the value. -/
theorem cut?_beyond {word : Text} (ht : ' ' ∉ t) (hne : t ≠ w) (has : w ≠ "as")
    (hword : ' ' ∉ word) (hother : word ≠ w) (v : Text) :
    Text.cut? (' ' :: (w ++ [' '])) (valuedLine n t word v) =
      (Text.cut? (' ' :: (w ++ [' '])) (' ' :: v)).map fun res =>
        (typedPart n t ++ ' ' :: (word ++ res.1), res.2) := by
  rw [valuedLine_eq, Text.cut?_append hn, Text.cut?_skip hw (by decide) has.symm,
    Text.cut?_skip hw ht hne, Text.cut?_skip hw hword hother, Option.map_map, Option.map_map,
    Option.map_map]
  refine congrArg (Option.map · _) (funext fun res => ?_)
  simp [typedPart]

end Cuts

theorem cut?_initial (hv : v.includes (' ' :: (w ++ [' '])) = false) :
    Text.cut? (' ' :: (w ++ [' '])) (' ' :: v) =
      if v.startsWith (w ++ [' ']) then some ([], v.drop (w.length + 1)) else none := by
  rw [Text.cut?, Text.cut?_eq_none hv]
  split_ifs with h h' h'
  · simp
  · exact absurd h h'
  · exact absurd h' h
  · rfl

theorem includes_value (v word : Text) :
    Text.includes (valuedLine n t word v) (' ' :: (word ++ [' '])) = true := by
  rw [Text.includes_iff]
  refine ⟨typedPart n t, v, ?_⟩
  simp [valuedLine]

theorem trim_typedPart (hn : IsName n) (ht : IsUnbroken t) :
    (typedPart n t).trim = typedPart n t := by
  apply Text.trim_of_ends
  · exact hn.head_append _
  · intro c hc
    have hshape : typedPart n t = (n ++ " as ") ++ t := by simp [typedPart]
    have hlast : (typedPart n t).getLast? = t.getLast? := by
      rw [hshape, List.getLast?_append_of_ne_nil _ ht.ne_nil]
    exact ht.char (List.mem_of_mem_getLast? (hlast ▸ hc))

theorem trim_valuedLine (hn : IsName n) (hv : IsInitial v) (t word : Text) :
    (valuedLine n t word v).trim = valuedLine n t word v := by
  have hshape : valuedLine n t word v = (n ++ " as " ++ t ++ " " ++ word ++ " ") ++ v := by
    simp [valuedLine, typedPart]
  rw [hshape]
  apply hv.trim_append
  simp only [List.append_assoc]
  exact hn.head_append _

section Lines

variable (hn : IsName n) (hprint : n ≠ "print") (hvar : n ≠ "var") (ht : IsUnbroken t)
  (hv : IsInitial v)
include hn

theorem includes_as_line (t word v : Text) : (valuedLine n t word v).includes " as " = true := by
  rw [Text.includes, valuedLine_eq, cut?_typed (hn.notMem rfl)]
  rfl

include hprint hv

theorem convert_valuedLine (t word : Text) :
    convert .current (valuedLine n t word v) =
      if isLocal (valuedLine n t word v) then
        localDeclaration Stage.current.locals (valuedLine n t word v)
      else if isOperation .all (valuedLine n t word v) then
        .ok (operationStatement .all (valuedLine n t word v))
      else if isAssignment (valuedLine n t word v) then
        .ok (assignment .all (valuedLine n t word v))
      else convertBy (.opening "if " ifLine :: .opening "elif " elifLine :: lateRules)
        (valuedLine n t word v) := by
  have htrim := trim_valuedLine hn hv t word
  have hp : Text.startsWith (valuedLine n t word v) "print " = false := by
    rw [valuedLine_eq]
    exact Text.startsWith_word (hn.notMem rfl) (v := "print") (by decide) hprint _
  rw [convert_unprinted (by rw [htrim, hp]), htrim]

omit hprint hv
include hvar

theorem not_var_line (t word v : Text) : (valuedLine n t word v).startsWith "var " = false := by
  rw [valuedLine_eq]
  exact Text.startsWith_word (hn.notMem rfl) (v := "var") (by decide) hvar _

variable {part name type value word : Text}

theorem localDeclaration_typed
    (h : partAndValue .all (valuedLine n t word v) = (part, some value))
    (hcut : Text.cut? " as " part = some (name, type)) :
    localDeclaration Stage.current.locals (valuedLine n t word v) =
      .ok (initialised name.trim type.trim value) := by
  rw [localDeclaration, not_var_line hn hvar, if_neg Bool.false_ne_true,
    if_pos (includes_as_line hn t word v)]
  dsimp only [Stage.current]
  rw [h]
  dsimp only
  rw [hcut]
  rfl

theorem localDeclaration_untyped
    (h : partAndValue .all (valuedLine n t word v) = (part, some value))
    (hcut : Text.cut? " as " part = none) :
    localDeclaration Stage.current.locals (valuedLine n t word v) =
      .error (.untypedLocal (valuedLine n t word v)) := by
  rw [localDeclaration, not_var_line hn hvar, if_neg Bool.false_ne_true,
    if_pos (includes_as_line hn t word v)]
  dsimp only [Stage.current]
  rw [h]
  dsimp only
  rw [hcut]

theorem localDeclaration_doubled (h : partAndValue .all (valuedLine n t word v) =
      (Text.trim (n ++ ["as".toList].flatMap (' ' :: ·)), some x)) :
    localDeclaration Stage.current.locals (valuedLine n t word v) =
      .error (.untypedLocal (valuedLine n t word v)) := by
  refine localDeclaration_untyped hn hvar h (Text.cut?_eq_none (Text.includes_trim ?_))
  have hnone : Text.cut? " as " (n ++ ' ' :: "as") =
      (Text.cut? " as " (' ' :: "as".toList)).map fun res => (n ++ res.1, res.2) :=
    Text.cut?_append (hn.notMem rfl)
  have hshape : n ++ ["as".toList].flatMap (' ' :: ·) = n ++ ' ' :: "as".toList := by simp
  rw [hshape, Text.includes, hnone]
  rfl

theorem localDeclaration_plain (ht : IsUnbroken t)
    (h : partAndValue .all (valuedLine n t word v) = ((typedPart n t).trim, some value)) :
    localDeclaration Stage.current.locals (valuedLine n t word v) =
      .ok (initialised n t value) := by
  have hcut : Text.cut? " as " (typedPart n t) = some (n, t) := by
    have hshape : typedPart n t = n ++ ' ' :: ("as" ++ ' ' :: t) := by simp [typedPart]
    rw [hshape, cut?_typed (hn.notMem rfl)]
  rw [trim_typedPart hn ht] at h
  rw [localDeclaration_typed hn hvar h hcut, hn.trim_eq, ht.trim_eq]

end Lines

section Forms

variable (hn : IsName n) (hvar : n ≠ "var") (ht : IsUnbroken t) (hv : IsInitial v)
include hn hvar hv

theorem localDeclaration_with (ht : IsUnbroken t) (hne : t ≠ "with") :
    localDeclaration Stage.current.locals (valuedLine n t "with" v) = .ok (initialised n t v) := by
  have hcut : Text.cut? " with " (valuedLine n t "with" v) = some (typedPart n t, v) :=
    cut?_value (hn.notMem rfl) (w := "with") (by decide) (ht.notMem rfl) hne (by decide) v
  refine localDeclaration_plain hn hvar ht ?_
  rw [partAndValue, hcut]
  dsimp only
  rw [hv.trimmed]

omit hv in
theorem localDeclaration_with_with (word v : Text) :
    localDeclaration Stage.current.locals (valuedLine n "with" word v) =
      .error (.untypedLocal (valuedLine n "with" word v)) := by
  have hcut : Text.cut? " with " (valuedLine n "with" word v) =
      some (n ++ ["as".toList].flatMap (' ' :: ·), word ++ ' ' :: v) :=
    cut?_type (hn.notMem rfl) (w := "with") (by decide) (by decide) word v
  refine localDeclaration_doubled hn hvar (x := Text.trim (word ++ ' ' :: v)) ?_
  rw [partAndValue, hcut]

omit hvar in
theorem cut?_with_equals (ht : IsUnbroken t) (hne : t ≠ "with") :
    Text.cut? " with " (valuedLine n t "=" v) =
      if v.startsWith "with " then some (typedPart n t ++ " =", v.drop 5) else none := by
  have hsign : ' ' ∉ "=".toList := by decide
  have hbeyond : Text.cut? " with " (valuedLine n t "=" v) =
      (Text.cut? " with " (' ' :: v)).map fun res =>
        (typedPart n t ++ ' ' :: ("=" ++ res.1), res.2) :=
    cut?_beyond (hn.notMem rfl) (w := "with") (by decide) (ht.notMem rfl) hne (by decide) hsign
      (by decide) v
  have hvalue : Text.cut? " with " (' ' :: v) =
      if v.startsWith "with " then some ([], v.drop 5) else none :=
    cut?_initial (w := "with") hv.unjoined
  rw [hbeyond, hvalue]
  split_ifs
  · rfl
  · rfl

theorem localDeclaration_equals_equals (hwith : v.startsWith "with " = false) :
    localDeclaration Stage.current.locals (valuedLine n "=" "=" v) =
      .error (.untypedLocal (valuedLine n "=" "=" v)) := by
  have hequals : IsUnbroken "=" := ⟨by decide, rfl⟩
  have hcut : Text.cut? " = " (valuedLine n "=" "=" v) =
      some (n ++ ["as".toList].flatMap (' ' :: ·), "=" ++ ' ' :: v) :=
    cut?_type (hn.notMem rfl) (w := "=") (by decide) (by decide) "=" v
  refine localDeclaration_doubled hn hvar
    (x := javaValue .all (Text.trim ("=" ++ ' ' :: v))) ?_
  rw [partAndValue, cut?_with_equals hn hv hequals (by decide), hwith, if_neg Bool.false_ne_true]
  dsimp only
  rw [hcut]

theorem localDeclaration_equals (ht : IsUnbroken t) (hne : t ≠ "with") (heq : t ≠ "=")
    (hwith : v.startsWith "with " = false) :
    localDeclaration Stage.current.locals (valuedLine n t "=" v) =
      .ok (initialised n t (javaValue .all v)) := by
  have hcut : Text.cut? " = " (valuedLine n t "=" v) = some (typedPart n t, v) :=
    cut?_value (hn.notMem rfl) (w := "=") (by decide) (ht.notMem rfl) heq (by decide) v
  refine localDeclaration_plain hn hvar ht ?_
  rw [partAndValue, cut?_with_equals hn hv ht hne, hwith, if_neg Bool.false_ne_true]
  dsimp only
  rw [hcut]
  dsimp only
  rw [hv.trimmed]

theorem localDeclaration_equals_with (ht : IsUnbroken t) (hne : t ≠ "with")
    (hwith : v.startsWith "with " = true) :
    localDeclaration Stage.current.locals (valuedLine n t "=" v) =
      .ok (initialised n (t ++ " =") (Text.trim (v.drop 5))) := by
  have hpart : Text.trim (typedPart n t ++ " =") = typedPart n t ++ " =" := by
    apply Text.trim_of_ends
    · rw [typedPart, List.append_assoc]
      exact hn.head_append _
    · intro c hc
      rw [List.getLast?_append] at hc
      cases hc
      rfl
  have htype : Text.trim (t ++ " =") = t ++ " =" := by
    apply Text.trim_of_ends (ht.head_append _)
    intro c hc
    rw [List.getLast?_append] at hc
    cases hc
    rfl
  have hcut : Text.cut? " as " (typedPart n t ++ " =") = some (n, t ++ " =") := by
    have hshape : typedPart n t ++ " =" = n ++ ' ' :: ("as" ++ ' ' :: (t ++ " =")) := by
      simp [typedPart]
    rw [hshape, cut?_typed (hn.notMem rfl)]
  have h : partAndValue .all (valuedLine n t "=" v) =
      (typedPart n t ++ " =", some (Text.trim (v.drop 5))) := by
    rw [partAndValue, cut?_with_equals hn hv ht hne, hwith, if_pos rfl]
    dsimp only
    rw [hpart]
  rw [localDeclaration_typed hn hvar h hcut, hn.trim_eq, htype]

end Forms

theorem includes_equals (hx : ' ' ∉ x) (hw : ' ' ∉ w) (hne : w ≠ "=") (y : Text) :
    Text.includes (x ++ ' ' :: ("=" ++ ' ' :: y)) (' ' :: (w ++ [' '])) =
      Text.includes (' ' :: y) (' ' :: (w ++ [' '])) := by
  rw [Text.includes, Text.includes, Text.cut?_append hx, Text.cut?_skip hw (by decide) hne.symm,
    Option.isSome_map, Option.isSome_map]

theorem linkWords_eq : linkWords =
    (["to", "from", "in", "at", "into"] : List Text).map fun w => ' ' :: (w ++ [' ']) := rfl

section Locality

variable (hn : IsName n)
include hn

theorem isLocal_with (t v : Text) : isLocal (valuedLine n t "with" v) = true := by
  have hwith : Text.includes (valuedLine n t "with" v) " with " = true := includes_value v "with"
  rw [isLocal, isValuedLocal, hasValue, includes_as_line hn, hwith]
  simp

theorem any_comparisons_equals (t v : Text) :
    comparisons.any (valuedLine n t "=" v).includes =
      (comparisons.any t.includes || comparisons.any v.includes) := by
  have hparts : ∀ part ∈ comparisons, ' ' ∉ part ∧ '=' ∈ part ∧
      Text.includes "as" part = false ∧ Text.includes "=" part = false := by decide
  have hpart {part : Text} (h : part ∈ comparisons) :
      (valuedLine n t "=" v).includes part = (t.includes part || v.includes part) := by
    obtain ⟨hb, hsign, has, heq⟩ := hparts part h
    rw [valuedLine_eq, Text.includes_append_cons hb, Text.includes_append_cons hb,
      Text.includes_append_cons hb, Text.includes_append_cons hb, has, heq,
      Text.not_includes_of_notMem hsign (hn.notMem rfl), Bool.false_or, Bool.false_or,
      Bool.false_or]
  rw [Bool.eq_iff_iff, Bool.or_eq_true]
  simp only [List.any_eq_true]
  constructor
  · rintro ⟨part, hm, h⟩
    rw [hpart hm, Bool.or_eq_true] at h
    exact h.imp (fun h => ⟨part, hm, h⟩) fun h => ⟨part, hm, h⟩
  · rintro (⟨part, hm, h⟩ | ⟨part, hm, h⟩)
    · exact ⟨part, hm, by rw [hpart hm, h, Bool.true_or]⟩
    · exact ⟨part, hm, by rw [hpart hm, h, Bool.or_true]⟩

theorem isAssignment_equals (t v : Text) : isAssignment (valuedLine n t "=" v) =
    !(comparisons.any t.includes || comparisons.any v.includes) := by
  have hmem : '=' ∈ valuedLine n t "=" v := by
    rw [valuedLine]
    exact List.mem_append_right _ (List.mem_cons_of_mem _ List.mem_cons_self)
  have hsign : (valuedLine n t "=" v).includes "=" = true := Text.includes_of_mem hmem
  rw [isAssignment, hsign, any_comparisons_equals hn, Bool.true_and]

variable (ht : IsUnbroken t) (hv : IsInitial v)
include ht hv

/-- As a declaration without a value the line is read only if nothing in the value shows it to be
about a collection. -/
theorem isBareLocal_equals : isBareLocal (valuedLine n t "=" v) =
    (!v.startsWith "as " && isAsciiName n && !linkWords.any (Text.includes (' ' :: v.lower))) := by
  have hcut := cut?_typed (hn.notMem rfl) (t ++ ' ' :: ("=" ++ ' ' :: v))
  have htrim : Text.trim (t ++ ' ' :: ("=" ++ ' ' :: v)) = t ++ ' ' :: ("=" ++ ' ' :: v) := by
    have hshape : t ++ ' ' :: ("=" ++ ' ' :: v) = (t ++ " = ") ++ v := by simp
    rw [hshape]
    apply hv.trim_append
    rw [List.append_assoc]
    exact ht.head_append _
  have has : Text.includes (t ++ ' ' :: ("=" ++ ' ' :: v)) " as " = v.startsWith "as " := by
    have hbehind : Text.includes (t ++ ' ' :: ("=" ++ ' ' :: v)) " as " =
        Text.includes (' ' :: v) " as " :=
      includes_equals (ht.notMem rfl) (w := "as") (by decide) (by decide) v
    have hvalue : Text.cut? " as " (' ' :: v) =
        if v.startsWith "as " then some ([], v.drop 3) else none :=
      cut?_initial (w := "as") hv.untyped
    rw [hbehind, Text.includes, hvalue]
    cases v.startsWith "as "
    · rfl
    · rfl
  have hlower : Text.lower (t ++ ' ' :: ("=" ++ ' ' :: v)) =
      t.lower ++ ' ' :: ("=" ++ ' ' :: v.lower) := by
    have hsign : Text.lower "=" = "=" := rfl
    rw [Text.lower_append_blank, Text.lower_append_blank, hsign]
  have hlinks : linkWords.any (Text.includes (t.lower ++ ' ' :: ("=" ++ ' ' :: v.lower))) =
      linkWords.any (Text.includes (' ' :: v.lower)) := by
    have hwords : ∀ w ∈ (["to", "from", "in", "at", "into"] : List Text), ' ' ∉ w ∧ w ≠ "=" := by
      decide
    rw [Bool.eq_iff_iff, List.any_eq_true, List.any_eq_true]
    refine exists_congr fun part => and_congr_right fun hpart => ?_
    obtain ⟨w, hw, rfl⟩ := List.mem_map.1 (linkWords_eq ▸ hpart)
    obtain ⟨hblank, hne⟩ := hwords w hw
    rw [includes_equals (ht.lower.notMem rfl) hblank hne]
  rw [isBareLocal, valuedLine_eq, hcut]
  dsimp only
  rw [htrim, has, hlower, hlinks, hn.trim_eq]

omit ht hv in
theorem isLocal_of_with {v : Text} (h : Text.includes (valuedLine n t "=" v) " with " = true) :
    isLocal (valuedLine n t "=" v) = true := by
  rw [isLocal, isValuedLocal, hasValue, includes_as_line hn, h]
  simp

theorem isLocal_equals (hvar : n ≠ "var") (hne : t ≠ "with")
    (hwith : v.startsWith "with " = false) :
    isLocal (valuedLine n t "=" v) = true ↔
      ((comparisons.any t.includes || comparisons.any v.includes) = true →
        isAsciiName n = true ∧ v.startsWith "as " = false ∧
          linkWords.any (Text.includes (' ' :: v.lower)) = false) := by
  have hnone : Text.includes (valuedLine n t "=" v) " with " = false := by
    rw [Text.includes, cut?_with_equals hn hv ht hne, hwith]
    rfl
  rw [isLocal, isValuedLocal, hasValue, not_var_line hn hvar, includes_as_line hn, hnone,
    isAssignment_equals hn, isBareLocal_equals hn ht hv]
  cases comparisons.any t.includes || comparisons.any v.includes with
  | false => simp
  | true => simp [and_assoc, and_comm]

end Locality

/-- The Java type of a declaration, which does not depend on its value. -/
def writtenType (t : Text) : Text := (typeAndValue .full Container.all t none).1

theorem typeAndValue_fst (t : Text) (value : Option Text) :
    (typeAndValue .full Container.all t value).1 = writtenType t := by
  rw [writtenType, typeAndValue, typeAndValue]
  cases Text.cut? "/" t with
  | none => rfl
  | some res =>
    dsimp only
    cases Container.all.find? (·.words.contains res.1.trim.lower) with
    | none => rfl
    | some c => rfl

/-- A value stays, unless it is a word that asks for an empty container. -/
theorem typeAndValue_snd (t v : Text) :
    (typeAndValue .full Container.all t (some v)).2 = some v ∨
      (typeAndValue .full Container.all t (some v)).2 = some ("new " ++ writtenType t ++ "()") ∧
        (v = [] ∨ IsName v) := by
  have hnames : ∀ c ∈ Container.all, ∀ w ∈ c.emptyWords, w ≠ [] ∧ w.all isWord = true := by decide
  rw [← typeAndValue_fst t (some v), typeAndValue]
  cases Text.cut? "/" t with
  | none => exact .inl rfl
  | some res =>
    dsimp only
    cases hfind : Container.all.find? (·.words.contains res.1.trim.lower) with
    | none => exact .inl rfl
    | some c =>
      dsimp only
      by_cases hempty : c.isEmptyValue (some v) = true
      · rw [if_pos hempty]
        refine .inr ⟨rfl, ?_⟩
        rcases Bool.or_eq_true_iff.1 hempty with h | h
        · exact .inl (List.isEmpty_iff.1 h)
        · obtain ⟨hne, hchars⟩ := hnames c (List.mem_of_find?_eq_some hfind) v
            (List.contains_iff_mem.1 h)
          exact .inr ⟨hne, hchars⟩
      · rw [if_neg hempty]
        exact .inl rfl

theorem declared_some (type name : Text) {value : Text} (h : value ≠ []) :
    declared type name (some value) = type ++ " " ++ name ++ " = " ++ value ++ ";" := by
  obtain ⟨c, value, rfl⟩ := List.exists_cons_of_ne_nil h
  rfl

theorem declared_inj {type name value other : Text} (hne : value ≠ [])
    (h : declared type name (some value) = declared type name (some other)) : value = other := by
  rw [declared_some _ _ hne] at h
  cases other with
  | nil =>
    have h : type ++ " " ++ name ++ " = " ++ value ++ ";" = type ++ " " ++ name ++ ";" := h
    have hlength := congrArg List.length h
    have hequals : (" = ".toList).length = 3 := rfl
    simp only [List.length_append] at hlength
    omega
  | cons c other =>
    rw [declared_some _ _ (List.cons_ne_nil _ _)] at h
    exact List.append_cancel_left (List.append_cancel_right h)

/-- A declaration with a value has the value, or creates an empty container. -/
theorem exists_initialised (n t v : Text) :
    ∃ value, initialised n t v = declared (writtenType t) n (some value) ∧
      (value = v ∨ value = "new " ++ writtenType t ++ "()" ∧ (v = [] ∨ IsName v)) := by
  rw [initialised, typeAndValue_fst]
  rcases typeAndValue_snd t v with h | ⟨h, hname⟩
  · exact ⟨v, by rw [h], .inl rfl⟩
  · exact ⟨_, by rw [h], .inr ⟨rfl, hname⟩⟩

theorem javaValue_new (x : Text) : javaValue .all ("new " ++ x) = "new " ++ x := by
  have hno : isOperation .all ("new " ++ x) = false := rfl
  rw [javaValue, hno, if_neg Bool.false_ne_true]

theorem javaValue_name (hv : IsName v) : javaValue .all v = v := by
  rw [javaValue, Operation.isOperation_of_isName hv, if_neg Bool.false_ne_true]

theorem javaValue_of_initialised (hv : v ≠ [])
    (h : initialised n t v = initialised n t (javaValue .all v)) :
    javaValue .all v = v := by
  obtain ⟨value, hvalue, rfl | ⟨-, hname⟩⟩ := exists_initialised n t v
  · obtain ⟨other, hother, hcases⟩ := exists_initialised n t (javaValue .all value)
    rw [hvalue, hother] at h
    have heq := declared_inj hv h
    rcases hcases with rfl | ⟨rfl, -⟩
    · exact heq.symm
    · rw [heq, List.append_assoc]
      exact javaValue_new _
  · exact javaValue_name (hname.resolve_left hv)

theorem writtenType_words (ht : IsUnbroken t) :
    (writtenType t = TypeTable.full.javaName t ∧ ' ' ∉ TypeTable.full.javaName t) ∨
      ∃ a b, writtenType t = a ++ '<' :: b ∧ ' ' ∉ a := by
  have hcontainers : ∀ c ∈ Container.all, ' ' ∉ c.javaName := by decide
  rw [writtenType, typeAndValue]
  cases hcut : Text.cut? "/" t with
  | none => exact .inl ⟨rfl, notMem_javaName (by decide) (ht.notMem rfl)⟩
  | some res =>
    right
    have houter : ' ' ∉ res.1.trim.lower := by
      intro hm
      obtain ⟨c, hc, hblank⟩ := Text.blank_mem_lowerAfter hm rfl
      rw [ht.char ((Text.infix_of_cut? hcut).1.subset (res.1.trim_subset hc))] at hblank
      cases hblank
    dsimp only
    cases hfind : Container.all.find? (·.words.contains res.1.trim.lower) with
    | none =>
      dsimp only
      rw [List.append_assoc, List.append_assoc]
      exact ⟨_, _, rfl, notMem_javaName (by decide) houter⟩
    | some c =>
      dsimp only
      rw [Container.typeOf, List.append_assoc, List.append_assoc, List.append_assoc]
      exact ⟨_, _, rfl, hcontainers c (List.mem_of_find?_eq_some hfind)⟩

theorem ne_of_bracket {a b y : Text} (ha : ' ' ∉ a) (hx : '<' ∉ x) :
    a ++ '<' :: b ≠ x ++ ' ' :: y := by
  intro h
  rcases List.append_eq_append_iff.1 h with ⟨front, rfl, hrest⟩ | ⟨front, rfl, hrest⟩
  · cases front with
    | nil => cases hrest
    | cons d front =>
      cases hrest
      exact hx (List.mem_append_right _ List.mem_cons_self)
  · cases front with
    | nil => cases hrest
    | cons d front =>
      cases hrest
      exact ha (List.mem_append_right _ List.mem_cons_self)

theorem words_of_initialised {w₁ w₂ rest : Text} (hn : ' ' ∉ n) (ht : IsUnbroken t) (hv : v ≠ [])
    (hbracket : '<' ∉ w₁) (hfirst : ' ' ∉ w₁) (hsecond : ' ' ∉ w₂)
    (h : initialised n t v = w₁ ++ ' ' :: (w₂ ++ ' ' :: rest)) :
    TypeTable.full.javaName t = w₁ ∧ n = w₂ ∧ ∃ more, rest = '=' :: ' ' :: more := by
  obtain ⟨value, hvalue, hcases⟩ := exists_initialised n t v
  have hne : value ≠ [] := by
    rcases hcases with rfl | ⟨rfl, -⟩
    · exact hv
    · exact List.cons_ne_nil _ _
  have hshape : declared (writtenType t) n (some value) =
      writtenType t ++ ' ' :: (n ++ ' ' :: '=' :: ' ' :: (value ++ ";")) := by
    rw [declared_some _ _ hne]
    simp
  rw [hvalue, hshape] at h
  rcases writtenType_words ht with ⟨htype, hblank⟩ | ⟨a, b, htype, ha⟩
  · rw [htype] at h
    have hw := Text.eq_of_append_cons h hblank hfirst
    rw [hw] at h
    have hrest := (List.cons.inj (List.append_cancel_left h)).2
    have hname := Text.eq_of_append_cons hrest hn hsecond
    rw [hname] at hrest
    exact ⟨hw, hname, _, (List.cons.inj (List.append_cancel_left hrest)).2.symm⟩
  · rw [htype, List.append_assoc] at h
    exact absurd h (ne_of_bracket ha hbracket)

end Statement

end JavaSketch
