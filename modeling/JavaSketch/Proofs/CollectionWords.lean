import JavaSketch.Edition.Draft
import JavaSketch.Proofs.Phrases
import JavaSketch.Proofs.StatementPieces

namespace JavaSketch

/-- A list with further entries put in between, each of them new. -/
inductive Enlarged {α : Type} (IsNew : α → Prop) : List α → List α → Prop
  | nil : Enlarged IsNew [] []
  | keep (a : α) {old new : List α} (h : Enlarged IsNew old new) :
    Enlarged IsNew (a :: old) (a :: new)
  | add {a : α} {old new : List α} (ha : IsNew a) (h : Enlarged IsNew old new) :
    Enlarged IsNew old (a :: new)

namespace Enlarged

variable {α β : Type} {IsNew : α → Prop} {old old' new new' more : List α} {a : α}

theorem refl (l : List α) : Enlarged IsNew l l := by
  induction l with
  | nil => exact .nil
  | cons a l ih => exact .keep a ih

theorem append (h : Enlarged IsNew old new) (h' : Enlarged IsNew old' new') :
    Enlarged IsNew (old ++ old') (new ++ new') := by
  induction h with
  | nil => exact h'
  | keep a _ ih => exact .keep a ih
  | add ha _ ih => exact .add ha ih

theorem append_new (h : Enlarged IsNew old new) (hm : ∀ a ∈ more, IsNew a) :
    Enlarged IsNew old (new ++ more) := by
  have hmore : Enlarged IsNew [] more := by
    induction more with
    | nil => exact .nil
    | cons a more ih =>
      obtain ⟨ha, hm⟩ := List.forall_mem_cons.1 hm
      exact .add ha (ih hm)
  have happend := h.append hmore
  rwa [List.append_nil] at happend

/-- A search that passes over the new entries finds what it found before. -/
theorem findSome?_eq {f : α → Option β} (h : Enlarged IsNew old new)
    (hf : ∀ a, IsNew a → f a = none) : new.findSome? f = old.findSome? f := by
  induction h with
  | nil => rfl
  | keep a _ ih => rw [List.findSome?_cons, List.findSome?_cons, ih]
  | add ha _ ih => rw [List.findSome?_cons, hf _ ha, ih]

theorem find?_eq {p : α → Bool} (h : Enlarged IsNew old new) (hp : ∀ a, IsNew a → p a = false) :
    new.find? p = old.find? p := by
  rw [List.find?_eq_findSome?_guard, List.find?_eq_findSome?_guard]
  apply h.findSome?_eq
  intro a ha
  rw [Option.guard, hp a ha]
  rfl

theorem any_eq {p : α → Bool} (h : Enlarged IsNew old new) (hp : ∀ a, IsNew a → p a = false) :
    new.any p = old.any p := by
  rw [← List.isSome_find?, ← List.isSome_find?, h.find?_eq hp]

end Enlarged

namespace Text

variable {s t w : Text}

/-- One small sigma for both. -/
def foldSigma (c : Char) : Char := if c = 'ς' then 'σ' else c

/-- The lower-case form of a character, which does not depend on where it stands. -/
def small (c : Char) : Text := (lower [c]).map foldSigma

theorem map_foldSigma_lowerAfter (before s : Text) :
    (lowerAfter before s).map foldSigma = s.flatMap small := by
  induction s generalizing before with
  | nil => rfl
  | cons c s ih =>
    rw [lowerAfter, List.map_append, ih, List.flatMap_cons, small, lower, lowerAfter, lowerAfter,
      List.append_nil]
    congr 1
    by_cases hc : c = 'Σ'
    · rw [if_pos hc, if_pos hc]
      split_ifs <;> rfl
    · rw [if_neg hc, if_neg hc]

/-- A word without a small sigma is found where it is found up to the form of the sigmas. -/
theorem infix_of_foldSigma (hw : 'σ' ∉ w) (h : w <:+: s.map foldSigma) : w <:+: s := by
  obtain ⟨part, hp, rfl⟩ := List.infix_map_iff.1 h
  have hself : part.map foldSigma = part := by
    refine (List.map_congr_left fun c hc => ?_).trans (List.map_id part)
    have hne : c ≠ 'ς' := by
      rintro rfl
      exact hw (List.mem_map.2 ⟨_, hc, rfl⟩)
    exact if_neg hne
  rwa [hself]

theorem infix_lower (hw : 'σ' ∉ w ∧ 'ς' ∉ w) (ht : t <:+: s) (h : w <:+: t.lower) :
    w <:+: s.lower := by
  apply infix_of_foldSigma hw.1
  have hself : w.map foldSigma = w := by
    refine (List.map_congr_left fun c hc => ?_).trans (List.map_id w)
    have hne : c ≠ 'ς' := by
      rintro rfl
      exact hw.2 hc
    exact if_neg hne
  rw [lower, map_foldSigma_lowerAfter]
  calc w = w.map foldSigma := hself.symm
    _ <:+: t.lower.map foldSigma := h.map foldSigma
    _ = t.flatMap small := map_foldSigma_lowerAfter [] t
    _ <:+: s.flatMap small := ht.flatMap small

theorem infix_lower_self (hw : 'σ' ∉ w) (hs : w.flatMap small = w) (h : w <:+: s) :
    w <:+: s.lower := by
  apply infix_of_foldSigma hw
  rw [lower, map_foldSigma_lowerAfter, ← hs]
  exact h.flatMap small

end Text

/-- The words that came last. -/
def newWords : List Text :=
  ["put", "keys", "values", "push", "pop", "peek", "queue", "offer", "poll", "first", "last",
   ".set", "linkedlist", "treemap", "treeset", "stack", "deque", "vector"]

/-- None of the words stands in the text, in whatever case. -/
def Familiar (s : Text) : Prop := ∀ w ∈ newWords, s.lower.includes w = false

theorem newWords_sigmaFree : ∀ w ∈ newWords, 'σ' ∉ w ∧ 'ς' ∉ w := by decide

/-- A phrase that has one of the words in it. -/
def Operation.IsNew (op : Operation) : Prop := ∃ w ∈ newWords, Pattern.exactly w <:+: op.shape

instance (op : Operation) : Decidable op.IsNew := inferInstanceAs (Decidable (∃ w ∈ newWords, _))

/-- A container whose names have one of the words in them. -/
def Container.IsNew (c : Container) : Prop := ∀ word ∈ c.words, ∃ w ∈ newWords, w <:+: word

instance (c : Container) : Decidable c.IsNew := inferInstanceAs (Decidable (∀ word ∈ c.words, _))

theorem Operation.all_enlarged : Enlarged IsNew (onLists removals) all := by
  have hadd : Enlarged IsNew [passing "add" "to" "add", passing "append" "to" "add"]
      [adding "first" "addFirst", adding "last" "addLast", storing,
        passing "add" "to" "add", passing "append" "to" "add"] :=
    .add (by decide) <| .add (by decide) <| .add (by decide) <| .refl _
  have hget : Enlarged IsNew [passing "get item at" "from" "get", passing "get" "from" "get"]
      [passing "get item at" "from" "get", asking "get first from" "getFirst",
        asking "get last from" "getLast", passing "get" "from" "get"] :=
    .keep _ <| .add (by decide) <| .add (by decide) <| .refl _
  have hlists := (((((hadd.append (.refl removals)).append (.refl [asking "clear" "clear"])).append
    (.refl sizes)).append (.refl searches)).append hget).append (.refl placements)
  exact (hlists.append_new (by decide +kernel)).append (.refl arrangements)

theorem Container.all_enlarged : Enlarged IsNew common all :=
  .keep _ <| .add (by decide) <| .keep _ <| .add (by decide) <| .keep _ <|
    Enlarged.nil.append_new (by decide)

namespace Familiar

open Statement

variable {s t w : Text} (hs : Familiar s)
include hs

theorem not_infix (hw : w ∈ newWords) : ¬ w <:+: s.lower := by
  rw [← Text.includes_iff, hs w hw]
  exact Bool.false_ne_true

/-- A part of a text without the words is without them. -/
theorem piece (ht : t <:+: s) : Familiar t := by
  intro w hw
  rw [Bool.eq_false_iff, ne_eq, Text.includes_iff]
  intro h
  exact hs.not_infix hw (Text.infix_lower (newWords_sigmaFree w hw) ht h)

theorem trim : Familiar s.trim := hs.piece s.trim_infix

theorem covers {op : Operation} (hop : op.IsNew) : op.covers s.lower = false := by
  rw [Bool.eq_false_iff]
  intro hc
  obtain ⟨w, hw, hi⟩ := hop
  exact hs.not_infix hw (Pattern.infix_of_accepts hi hc)

omit hs in
theorem operations_indexedLists :
    Stage.indexedLists.book.operations = Operation.onLists Operation.removals := rfl

theorem isOperation_eq :
    isOperation .all s = isOperation Stage.indexedLists.book s := by
  have hagrees : Stage.indexedLists.book.Agrees := Phrasebook.indexedLists_agrees
  rw [Phrasebook.all_agrees.isOperation_eq, hagrees.isOperation_eq, operations_indexedLists]
  exact congrArg _ (Operation.all_enlarged.any_eq fun op => hs.covers)

theorem operationExpression_eq :
    operationExpression Phrasebook.all.operations s =
      operationExpression Stage.indexedLists.book.operations s := by
  have hfind := Operation.all_enlarged.findSome?_eq
    (f := fun op => if op.covers s.lower then op.expression? s else none) fun op hop => by
      rw [hs.covers hop, if_neg Bool.false_ne_true]
  rw [operationExpression, operationExpression, operations_indexedLists, ← hfind]
  rfl

theorem javaValue_eq : javaValue .all s = javaValue Stage.indexedLists.book s := by
  rw [javaValue, javaValue, hs.isOperation_eq, hs.operationExpression_eq]

theorem typeAndValue_eq (value : Option Text) :
    typeAndValue .full Container.all s value = typeAndValue .full Container.common s value := by
  rw [typeAndValue, typeAndValue]
  cases hcut : Text.cut? "/" s with
  | none => rfl
  | some res =>
    have houter : Familiar res.1.trim := (hs.piece (Text.infix_of_cut? hcut).1).trim
    have hfind := Container.all_enlarged.find?_eq
      (p := fun c => c.words.contains res.1.trim.lower) fun c hc => by
        rw [Bool.eq_false_iff, ne_eq, List.contains_iff_mem]
        intro hm
        obtain ⟨w, hw, hi⟩ := hc _ hm
        exact houter.not_infix hw hi
    dsimp only
    rw [hfind]

theorem partAndValue_eq :
    partAndValue .all s = partAndValue Stage.indexedLists.book s := by
  rw [partAndValue, partAndValue]
  cases Text.cut? " with " s with
  | some res => rfl
  | none =>
    cases hcut : Text.cut? " = " s with
    | none => rfl
    | some res =>
      have hvalue : Familiar res.2.trim := (hs.piece (Text.infix_of_cut? hcut).2).trim
      dsimp only
      rw [hvalue.javaValue_eq]

omit hs in
theorem infix_partAndValue (book : Phrasebook) (s : Text) : (partAndValue book s).1 <:+: s := by
  rw [partAndValue]
  cases hwith : Text.cut? " with " s with
  | some res => exact (Text.trim_infix _).trans (Text.infix_of_cut? hwith).1
  | none =>
    cases hcut : Text.cut? " = " s with
    | some res => exact (Text.trim_infix _).trans (Text.infix_of_cut? hcut).1
    | none => exact List.infix_rfl

theorem inferredDeclaration_eq (hint : Bool) : inferredDeclaration .all hint s =
    inferredDeclaration Stage.indexedLists.book hint s := by
  rw [inferredDeclaration, inferredDeclaration]
  cases hcut : Text.cut? " = " (Text.trim (s.drop 4)) with
  | none => rfl
  | some res =>
    have hrest : Familiar (Text.trim (s.drop 4)) := (hs.piece (List.drop_suffix 4 s).isInfix).trim
    have hvalue : Familiar res.2.trim := (hrest.piece (Text.infix_of_cut? hcut).2).trim
    dsimp only
    rw [hvalue.javaValue_eq]

theorem localDeclaration_eq :
    localDeclaration Stage.current.locals s = localDeclaration Stage.indexedLists.locals s := by
  have hpart : partAndValue Stage.current.locals.book s =
      partAndValue Stage.indexedLists.locals.book s := hs.partAndValue_eq
  rw [localDeclaration, localDeclaration]
  split_ifs with hvar has
  · exact hs.inferredDeclaration_eq false
  · have hi := infix_partAndValue Stage.indexedLists.locals.book s
    rw [hpart]
    dsimp only
    cases hcut : Text.cut? " as " (partAndValue Stage.indexedLists.locals.book s).1 with
    | none => rfl
    | some res =>
      have htype : Familiar res.2.trim := ((hs.piece hi).piece (Text.infix_of_cut? hcut).2).trim
      have hjava (value : Option Text) :
          typeAndValue .full Stage.current.locals.containers res.2.trim value =
            typeAndValue .full Stage.indexedLists.locals.containers res.2.trim value :=
        htype.typeAndValue_eq value
      dsimp only
      rw [hjava]
  · rfl

theorem assignment_eq :
    assignment .all s = assignment Stage.indexedLists.book s := by
  rw [assignment, assignment]
  cases hcut : Text.cut? "=" s with
  | none => rfl
  | some res =>
    have hvalue : Familiar res.2.trim := (hs.piece (Text.infix_of_cut? hcut).2).trim
    dsimp only
    rw [hvalue.javaValue_eq]

theorem operationStatement_eq :
    operationStatement .all s = operationStatement Stage.indexedLists.book s := by
  rw [operationStatement, operationStatement, hs.operationExpression_eq]

theorem slot_eq : Stage.current.print.slot s = Stage.indexedLists.print.slot s := by
  have hoperation : isOperation Stage.current.print.book s =
      isOperation Stage.indexedLists.print.book s := hs.isOperation_eq
  have hexpression : operationExpression Stage.current.print.book.operations s =
      operationExpression Stage.indexedLists.print.book.operations s := hs.operationExpression_eq
  rw [PrintStyle.slot, PrintStyle.slot, hoperation, hexpression]
  rfl

/-- The texts in braces are parts of the content. -/
theorem slots_eq :
    ∀ t ∈ slots s, Stage.current.print.slot t = Stage.indexedLists.print.slot t := by
  intro t ht
  exact (hs.piece (infix_of_mem_slots ht)).slot_eq

theorem formatOf_eq : Stage.current.print.formatOf s = Stage.indexedLists.print.formatOf s := by
  have hfold := List.foldl_ext
    (fun format t => Text.replace format (braced t) (Stage.current.print.slot t).1)
    (fun format t => Text.replace format (braced t) (Stage.indexedLists.print.slot t).1) s
    fun format t ht => by rw [hs.slots_eq t ht]
  have hcurrent : Stage.current.print.escapes = true := rfl
  have hlists : Stage.indexedLists.print.escapes = true := rfl
  rw [PrintStyle.formatOf, PrintStyle.formatOf, hfold, hcurrent, hlists]

theorem arguments_eq :
    Stage.current.print.arguments s = Stage.indexedLists.print.arguments s := by
  rw [PrintStyle.arguments, PrintStyle.arguments]
  apply List.map_congr_left
  intro t ht
  rw [hs.slots_eq t ht]

theorem interpolated_eq :
    interpolated Stage.current.print s = interpolated Stage.indexedLists.print s := by
  rw [interpolated, interpolated, hs.formatOf_eq, hs.arguments_eq]

theorem formatPrint_eq :
    formatPrint Stage.current.print s = formatPrint Stage.indexedLists.print s := by
  rw [formatPrint, formatPrint]
  cases hfind : formatPattern.find? s with
  | none => rfl
  | some kept =>
    cases kept with
    | nil => rfl
    | cons content more =>
      have hcontent : content <:+: s := Pattern.infix_of_find? hfind List.mem_cons_self
      cases more with
      | nil => exact (hs.piece hcontent).interpolated_eq
      | cons _ _ => rfl

theorem plainPrint_eq :
    plainPrint Stage.current.print s = plainPrint Stage.indexedLists.print s := by
  have hcontent : Familiar (Text.trim (s.drop 6)) := (hs.piece (List.drop_suffix 6 s).isInfix).trim
  rw [plainPrint, plainPrint, contentPrint, contentPrint, hcontent.interpolated_eq]

theorem not_startsWith {p : Text} (hw : w ∈ newWords) (hself : w.flatMap Text.small = w)
    (hp : w <+: p) : s.startsWith p = false := by
  rw [Bool.eq_false_iff]
  intro h
  have hi : w <:+: s := (hp.trans (List.isPrefixOf_iff_prefix.1 h)).isInfix
  exact hs.not_infix hw (Text.infix_lower_self (newWords_sigmaFree w hw).1 hself hi)

theorem collection_eq :
    Stage.current.loops.collection s = Stage.indexedLists.loops.collection s := by
  have hkeys : s.startsWith "keys of " = false :=
    hs.not_startsWith (w := "keys") (by decide) (by decide) (by decide)
  have hvalues : s.startsWith "values of " = false :=
    hs.not_startsWith (w := "values") (by decide) (by decide) (by decide)
  rw [LoopStyle.collection, LoopStyle.collection, hkeys, hvalues]
  rfl

theorem forLine_eq :
    forLine Stage.current.loops s = forLine Stage.indexedLists.loops s := by
  rw [forLine, forLine]
  split_ifs with hrange hin
  · rfl
  · cases hfind : eachPattern.find? s with
    | none => rfl
    | some kept =>
      cases kept with
      | nil => rfl
      | cons v more =>
        cases more with
        | nil => rfl
        | cons c more =>
          have hc : c <:+: s :=
            Pattern.infix_of_find? hfind (List.mem_cons_of_mem _ List.mem_cons_self)
          cases more with
          | nil => exact congrArg (eachLine v) (hs.piece hc).trim.collection_eq
          | cons _ _ => rfl
  · rfl

omit hs in
theorem opening_congr {f g : Text → Text} (word : Text) (h : f s = g s) :
    Rule.opening word f s = Rule.opening word g s := by
  rw [Rule.opening, Rule.opening, h]

theorem rules_eq : Stage.current.rules.map (· s) = Stage.indexedLists.rules.map (· s) := by
  have hformat := opening_congr "print f\"" hs.formatPrint_eq
  have hplain := opening_congr "print " hs.plainPrint_eq
  have hlocal : localRule .current isLocal s = localRule .indexedLists isLocal s := by
    rw [localRule, localRule, hs.localDeclaration_eq]
  have hoperation : operationRule Stage.current.book s =
      operationRule Stage.indexedLists.book s := by
    rw [operationRule, operationRule, ← hs.operationStatement_eq, ← hs.isOperation_eq]
    rfl
  have hassignment : assignmentRule (assignment Stage.current.book) s =
      assignmentRule (assignment Stage.indexedLists.book) s := by
    rw [assignmentRule, assignmentRule, ← hs.assignment_eq]
    rfl
  have hfor := opening_congr "for " hs.forLine_eq
  simp only [Stage.rules, printRules, controlRules, List.cons_append, List.nil_append,
    List.map_cons, List.map_nil, hformat, hplain, hlocal, hoperation, hassignment, hfor]

end Familiar

/-- Without the words that came last, the current language and the draft before it give a statement
the same Java form, or refuse it for the same reason. -/
theorem Draft.allComments_convert (v : Vocabulary) (s : Text)
    (hs : ∀ w ∈ newWords, s.lower.includes w = false) :
    Statement.convert .current s = (allComments v).convert s := by
  have hrules := (Familiar.trim hs).rules_eq
  have hfind (stage : Statement.Stage) : stage.rules.findSome? (· s.trim) =
      (stage.rules.map (· s.trim)).findSome? id := by
    rw [List.findSome?_map]
    rfl
  have hconvert : Statement.convert .current s = Statement.convert .indexedLists s := by
    rw [Statement.convert, Statement.convert, Statement.convertBy, Statement.convertBy, hfind,
      hfind, hrules]
  exact hconvert

theorem Draft.allComments_convert_of_removal :
    let s : Text := "print f\"\x7bRemove 3 from xs\x7d\""
    let java : Text := "System.out.println(String.format(\"%s\", (xs.remove(Integer.valueOf(3)))));"
    (∀ w ∈ newWords, s.lower.includes w = false) ∧ Statement.convert .current s = .ok java ∧
      (allComments Vocabulary.standard).convert s = .ok java := by
  intro s java
  have hfamiliar : ∀ w ∈ newWords, s.lower.includes w = false := by decide +kernel
  have hcurrent : Statement.convert .current s = .ok java := by decide +kernel
  refine ⟨hfamiliar, hcurrent, ?_⟩
  rw [← allComments_convert .standard s hfamiliar]
  exact hcurrent

end JavaSketch
