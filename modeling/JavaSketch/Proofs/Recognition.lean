import JavaSketch.Proofs.LetterCase
import JavaSketch.Proofs.Phrases
import Mathlib.Data.List.Forall2

namespace JavaSketch

/-- A text of ASCII. -/
def IsAscii (s : Text) : Prop := ∀ c ∈ s, c.toNat < 0x80

instance (s : Text) : Decidable (IsAscii s) :=
  List.decidableBAll (fun c : Char => c.toNat < 0x80) s

namespace IsAscii

variable {s : Text} {c : Char}

theorem tail (h : IsAscii (c :: s)) : IsAscii s := fun d hd => h d (List.mem_cons_of_mem c hd)

theorem drop (h : IsAscii s) (n : Nat) : IsAscii (s.drop n) :=
  fun c hc => h c (List.mem_of_mem_drop hc)

theorem lowerAfter_eq (h : IsAscii s) (before : Text) :
    Text.lowerAfter before s = s.map lowerChar := by
  apply Text.lowerAfter_eq_map
  · exact fun hs => absurd (h _ hs) (by decide)
  · exact fun hs => absurd (h _ hs) (by decide)

theorem lower_eq (h : IsAscii s) : s.lower = s.map lowerChar := h.lowerAfter_eq []

end IsAscii

namespace CharClass

/-- The class does not tell a letter of ASCII from its small form. -/
def IgnoresCase (cls : CharClass) : Prop :=
  ∀ n < 0x80, cls.holds (lowerChar (Char.ofNat n)) = cls.holds (Char.ofNat n)

instance (cls : CharClass) : Decidable cls.IgnoresCase :=
  inferInstanceAs (Decidable (∀ n < 0x80, _))

theorem blank_ignoresCase : blank.IgnoresCase := by decide

theorem word_ignoresCase : word.IgnoresCase := by decide

theorem any_ignoresCase : any.IgnoresCase := by decide

theorem IgnoresCase.length_takeWhile {cls : CharClass} {s : Text} (h : cls.IgnoresCase)
    (hs : IsAscii s) :
    ((s.map lowerChar).takeWhile cls.holds).length = (s.takeWhile cls.holds).length := by
  induction s with
  | nil => rfl
  | cons c s ih =>
    have hc : cls.holds (lowerChar c) = cls.holds c := by
      have hn := h c.toNat (hs c List.mem_cons_self)
      rwa [Char.ofNat_toNat] at hn
    rw [List.map_cons, List.takeWhile_cons, List.takeWhile_cons, hc]
    split
    · exact congrArg Nat.succ (ih hs.tail)
    · rfl

end CharClass

/-- A text in small letters. -/
def Text.isSmall (t : Text) : Bool := t.all fun c => lowerChar c == c

/-- The second step takes from a text of ASCII what the first one takes from its small letters. -/
inductive Step.Reads : Step → Step → Prop
  | letter {c : Char} (small : lowerChar c = c) : Reads (.exact c) (.letter c)
  | sign {c : Char} (sign : isSign c = true) : Reads (.exact c) (.exact c)
  | run {cls : CharClass} (caseless : cls.IgnoresCase) (least : Nat)
    (longest keep longest' keep' : Bool) :
    Reads (.run cls least longest keep) (.run cls least longest' keep')

theorem Step.Reads.takes {shape reader : Step} {s : Text} {n : Nat} (h : shape.Reads reader)
    (hs : IsAscii s) (ht : shape.Takes (s.map lowerChar) n) : reader.Takes s n := by
  cases h with
  | @letter c hc =>
    obtain ⟨hn, hhead⟩ := ht
    rw [List.head?_map, Option.map_eq_some_iff] at hhead
    obtain ⟨d, hd, hdc⟩ := hhead
    refine ⟨hn, d, hd, ?_⟩
    rw [sameLetter, hc, hdc, beq_self_eq_true, Bool.true_or]
  | @sign c hc =>
    obtain ⟨hn, hhead⟩ := ht
    rw [List.head?_map, Option.map_eq_some_iff] at hhead
    obtain ⟨d, hd, rfl⟩ := hhead
    rw [eq_of_lowerChar hc]
    exact ⟨hn, hd⟩
  | run hcls =>
    obtain ⟨hleast, hmost⟩ := ht
    rw [hcls.length_takeWhile hs] at hmost
    exact ⟨hleast, hmost⟩

namespace Pattern

/-- The second pattern reads, step by step, what the first one recognises. -/
abbrev Reads (shape reader : Pattern) : Prop := List.Forall₂ Step.Reads shape reader

variable {p q : Pattern} {s t : Text}

/-- What is recognised in lower case is read from the text itself. -/
theorem Reads.accepts (h : Reads p q) (hs : IsAscii s) (ha : p.accepts s.lower = true) :
    q.accepts s = true := by
  rw [hs.lower_eq] at ha
  induction h generalizing s with
  | nil => rfl
  | cons hstep _ ih =>
    obtain ⟨n, hn, hrest⟩ := accepts_cons.1 ha
    rw [← List.map_drop] at hrest
    exact accepts_cons.2 ⟨n, hstep.takes hs hn, ih (hs.drop n) hrest⟩

theorem reads_exactly (ht : t.isSmall = true) : Reads (exactly t) (anyCase t) := by
  rw [Reads, exactly, anyCase, List.forall₂_map_left_iff, List.forall₂_map_right_iff,
    List.forall₂_same]
  exact fun c hc => .letter (beq_iff_eq.1 (List.all_eq_true.1 ht c hc))

theorem countP_anyCase (t : Text) : (anyCase t).countP Step.isKept = 0 := by
  rw [List.countP_eq_zero]
  intro step hstep
  obtain ⟨c, _, rfl⟩ := List.mem_map.1 hstep
  exact Bool.false_ne_true

theorem reads_gap : Step.Reads .gap .gap := .run CharClass.blank_ignoresCase ..

theorem spaced_cons (p : Pattern) (ps : List Pattern) :
    spaced (p :: ps) = p ++ ps.flatMap (.gap :: ·) := by
  induction ps generalizing p with
  | nil => simp [spaced, List.intercalate]
  | cons next ps ih =>
    have h : spaced (p :: next :: ps) = p ++ .gap :: spaced (next :: ps) := by
      simp [spaced, List.intercalate]
    rw [h, ih, List.flatMap_cons]
    rfl

/-- A name and a method of it, up to the parenthesis. -/
theorem reads_method (ht : t.isSmall = true) (keep : Bool) :
    Reads ([.run .word 1 true false] ++ exactly t ++ [.space] ++ exactly "(")
      ([.run .word 1 true keep] ++ anyCase t ++ [.space] ++ exactly "(") := by
  have hname : Reads [.run .word 1 true false] [.run .word 1 true keep] :=
    .cons (.run CharClass.word_ignoresCase ..) .nil
  have hspace : Reads [.space] [.space] := .cons (.run CharClass.blank_ignoresCase ..) .nil
  have hopen : Reads (exactly "(") (exactly "(") := .cons (.sign rfl) .nil
  exact List.rel_append (List.rel_append (List.rel_append hname (reads_exactly ht)) hspace) hopen

theorem reads_spaced {ps qs : List Pattern} (h : List.Forall₂ Reads ps qs) :
    Reads (spaced ps) (spaced qs) := by
  cases h with
  | nil => exact .nil
  | cons hfirst hrest =>
    rw [spaced_cons, spaced_cons]
    apply List.rel_append hfirst
    induction hrest with
    | nil => exact .nil
    | cons hnext _ ih => exact List.rel_append (.cons reads_gap hnext) ih

end Pattern

namespace Part

open Pattern

/-- The words of a phrase are given in small letters. -/
def isSmall : Part → Bool
  | words t => t.isSmall
  | _ => true

def isKept : Part → Bool
  | words _ => false
  | _ => true

variable {part : Part} {parts : List Part}

theorem reads (h : part.isSmall = true) : Pattern.Reads part.shape part.reader := by
  cases part with
  | words t =>
    apply reads_spaced
    rw [List.forall₂_map_left_iff, List.forall₂_map_right_iff, List.forall₂_same]
    intro piece hpiece
    apply reads_exactly
    rw [Text.isSmall, List.all_eq_true]
    intro c hc
    exact List.all_eq_true.1 h c ((Text.infix_of_mem_splitAt hpiece).subset hc)
  | operand => exact .cons (.run CharClass.any_ignoresCase ..) .nil
  | receiver => exact .cons (.run CharClass.word_ignoresCase ..) .nil
  | tail => exact .cons (.run CharClass.any_ignoresCase ..) .nil

theorem reads_phrase (h : parts.all isSmall = true) :
    Pattern.Reads (spaced (parts.map shape)) (spaced (parts.map reader)) := by
  apply reads_spaced
  rw [List.forall₂_map_left_iff, List.forall₂_map_right_iff, List.forall₂_same]
  exact fun part hpart => reads (List.all_eq_true.1 h part hpart)

theorem countP_reader (part : Part) :
    part.reader.countP Step.isKept = if part.isKept then 1 else 0 := by
  cases part with
  | words t =>
    have htail (pieces : List Text) :
        ((pieces.map anyCase).flatMap (.gap :: ·)).countP Step.isKept = 0 := by
      induction pieces with
      | nil => rfl
      | cons piece pieces ih =>
        rw [List.map_cons, List.flatMap_cons, List.countP_append, List.countP_cons, countP_anyCase,
          ih]
        rfl
    rw [reader]
    cases t.splitAt ' ' with
    | nil => rfl
    | cons piece pieces =>
      rw [List.map_cons, spaced_cons, List.countP_append, countP_anyCase, htail]
      rfl
  | operand => rfl
  | receiver => rfl
  | tail => rfl

/-- A phrase keeps one text for each part that is not given by words. -/
theorem countP_phrase (parts : List Part) :
    (spaced (parts.map reader)).countP Step.isKept = parts.countP isKept := by
  have htail (parts : List Part) :
      ((parts.map reader).flatMap (.gap :: ·)).countP Step.isKept = parts.countP isKept := by
    induction parts with
    | nil => rfl
    | cons part parts ih =>
      rw [List.map_cons, List.flatMap_cons, List.countP_append, List.countP_cons, countP_reader, ih,
        List.countP_cons]
      exact Nat.add_comm _ _
  cases parts with
  | nil => rfl
  | cons part parts =>
    rw [List.map_cons, spaced_cons, List.countP_append, countP_reader, htail, List.countP_cons]
    exact Nat.add_comm _ _

end Part

namespace Operation

open Pattern

variable {first second method words place : Text} {shape reader : Pattern} {parts : List Part}
  {build : List Text → Option Text} {s : Text}

/-- `c.set(`, in any case. -/
def setCall : Pattern :=
  [.run .word 1 true false] ++ anyCase ".set" ++ [.space] ++ exactly "("

/-- A statement of ASCII that the operation covers has an expression, which is a call; where
`c.set(` comes first, a comma might be missing. -/
def Answers (op : Operation) : Prop :=
  ∀ s, IsAscii s → setCall.accepts s = false → op.covers s.lower = true →
    ∃ e, op.expression? s = some e ∧ e.endsWith ")" = true

theorem call_endsWith (receiver method argument : Text) :
    (call receiver method argument).endsWith ")" = true :=
  List.isSuffixOf_iff_suffix.2 (List.suffix_append _ _)

theorem ofPattern_answers (hr : Pattern.Reads shape reader)
    (hb : ∀ kept, kept.length = reader.countP Step.isKept →
      ∃ e, build kept = some e ∧ e.endsWith ")" = true) :
    (ofPattern shape reader build).Answers := by
  intro s hs _ hc
  obtain ⟨kept, hk⟩ := Option.isSome_iff_exists.1 (hr.accepts hs hc)
  obtain ⟨e, he, hend⟩ := hb kept (length_of_find? hk)
  exact ⟨e, Option.bind_eq_some_iff.2 ⟨kept, hk, he⟩, hend⟩

theorem pair_answers {f : Text → Text → Text} (hr : Pattern.Reads shape reader)
    (hk : reader.countP Step.isKept = 2) (hf : ∀ a b, (f a b).endsWith ")" = true) :
    (ofPattern shape reader fun
      | [a, b] => some (f a b)
      | _ => none).Answers := by
  apply ofPattern_answers hr
  intro kept hlength
  obtain ⟨a, b, rfl⟩ := List.length_eq_two.1 (hlength.trans hk)
  exact ⟨f a b, rfl, hf a b⟩

theorem triple_answers {f : Text → Text → Text → Text} (hr : Pattern.Reads shape reader)
    (hk : reader.countP Step.isKept = 3) (hf : ∀ a b c, (f a b c).endsWith ")" = true) :
    (ofPattern shape reader fun
      | [a, b, c] => some (f a b c)
      | _ => none).Answers := by
  apply ofPattern_answers hr
  intro kept hlength
  obtain ⟨a, b, c, rfl⟩ := List.length_eq_three.1 (hlength.trans hk)
  exact ⟨f a b c, rfl, hf a b c⟩

theorem passing_answers (hf : first.isSmall = true) (hs : second.isSmall = true) :
    (passing first second method).Answers := by
  have hsmall : [Part.words first, .operand, .words second, .receiver].all Part.isSmall = true := by
    have hboth : (first.isSmall && second.isSmall) = true := by rw [hf, hs, Bool.and_self]
    simpa only [List.all_cons, List.all_nil, Part.isSmall, Bool.true_and, Bool.and_true] using hboth
  exact pair_answers (Part.reads_phrase hsmall) (Part.countP_phrase _) fun _ _ => call_endsWith ..

theorem removing_answers (hf : first.isSmall = true) : (removing first).Answers := by
  have hsmall : [Part.words first, .operand, .words "from", .receiver].all Part.isSmall = true := by
    rw [List.all_cons, Part.isSmall, hf]
    rfl
  exact pair_answers (Part.reads_phrase hsmall) (Part.countP_phrase _) fun _ _ => call_endsWith ..

theorem setting_answers (hf : first.isSmall = true) : (setting first).Answers := by
  have hsmall : [Part.words first, .operand, .words "in", .receiver, .words "to", .tail].all
      Part.isSmall = true := by
    rw [List.all_cons, Part.isSmall, hf]
    rfl
  exact triple_answers (Part.reads_phrase hsmall) (Part.countP_phrase _) fun _ _ _ =>
    call_endsWith ..

theorem inserting_answers : inserting.Answers :=
  triple_answers (Part.reads_phrase rfl) (Part.countP_phrase _) fun _ _ _ => call_endsWith ..

theorem putting_answers : putting.Answers :=
  triple_answers (Part.reads_phrase rfl) (Part.countP_phrase _) fun _ _ _ => call_endsWith ..

theorem onReceiver_answers {build : Text → Text} (hb : ∀ c, (build c).endsWith ")" = true) :
    (onReceiver words build).Answers := fun _ _ _ _ => ⟨_, rfl, hb _⟩

theorem asking_answers : (asking words method).Answers :=
  onReceiver_answers fun _ => call_endsWith ..

theorem applying_answers : (applying words method).Answers :=
  onReceiver_answers fun _ => call_endsWith ..

theorem adding_answers (hp : place.isSmall = true) : (adding place method).Answers := by
  have hspace : Pattern.Reads [.space] [.space] :=
    .cons (.run CharClass.blank_ignoresCase ..) .nil
  have hrun : Pattern.Reads [.gap, .run .any 1 true false] [.gap, .run .any 1 true true] :=
    .cons reads_gap (.cons (.run CharClass.any_ignoresCase ..) .nil)
  have hclose : Pattern.Reads (exactly ")") (exactly ")") := .cons (.sign rfl) .nil
  have hmethod := reads_method (t := ".add") rfl true
  apply pair_answers
  · exact List.rel_append (List.rel_append (List.rel_append (List.rel_append hmethod hspace)
      (reads_exactly hp)) hrun) hclose
  · simp only [List.countP_append, countP_anyCase]
    rfl
  · exact fun _ _ => call_endsWith ..

theorem storing_answers : storing.Answers := by
  intro s hs hset hc
  have hhead := accepts_of_append (accepts_of_append hc)
  have hmethod := reads_method (t := ".set") rfl false
  have hstarts : setCall.accepts s = true := hmethod.accepts hs hhead
  rw [hset] at hstarts
  cases hstarts

theorem placements_answer : ∀ op ∈ placements, op.Answers := by
  simp only [placements, List.forall_mem_cons, List.not_mem_nil, false_imp_iff, implies_true,
    and_true]
  exact ⟨setting_answers rfl, setting_answers rfl, inserting_answers,
    onReceiver_answers fun _ => call_endsWith .., onReceiver_answers fun _ => call_endsWith ..,
    passing_answers rfl rfl, asking_answers⟩

theorem all_answer : ∀ op ∈ all, op.Answers := by
  simp only [all, removals, sizes, searches, arrangements, List.forall_mem_append,
    List.forall_mem_cons, List.not_mem_nil, false_imp_iff, implies_true, and_true]
  exact ⟨⟨⟨⟨⟨⟨⟨⟨⟨adding_answers rfl, adding_answers rfl, storing_answers, passing_answers rfl rfl,
    passing_answers rfl rfl⟩, passing_answers rfl rfl, removing_answers rfl, removing_answers rfl⟩,
    asking_answers⟩, asking_answers, asking_answers, asking_answers⟩, passing_answers rfl rfl,
    passing_answers rfl rfl⟩, passing_answers rfl rfl, asking_answers, asking_answers,
    passing_answers rfl rfl⟩, placements_answer⟩, putting_answers, asking_answers, asking_answers,
    passing_answers rfl rfl, asking_answers, asking_answers, passing_answers rfl rfl,
    asking_answers, passing_answers rfl rfl, asking_answers, passing_answers rfl rfl,
    passing_answers rfl rfl, asking_answers, asking_answers⟩, applying_answers, applying_answers,
    applying_answers⟩

end Operation

/-- The first operation that covers a statement decides, if it can be read. -/
theorem operationExpression_of_find? {ops : List Operation} {op : Operation} {s e : Text}
    (hfirst : ops.find? (·.covers s.lower) = some op) (he : op.expression? s = some e) :
    operationExpression ops s = e := by
  obtain ⟨hcovers, before, after, rfl, hbefore⟩ := List.find?_eq_some_iff_append.1 hfirst
  have hnone : (before.findSome? fun op =>
      if op.covers s.lower then op.expression? s else none) = none := by
    rw [List.findSome?_eq_none_iff]
    intro other hother
    exact if_neg fun h => by simpa [h] using hbefore other hother
  rw [operationExpression, List.findSome?_append, hnone, Option.none_or, List.findSome?_cons,
    if_pos hcovers, he]
  rfl

/-- The test for operations and the reading of operations agree. A statement is recognised exactly
if one of the operations covers it. What is no operation is left as it is; an operation of ASCII,
`c.set(` apart, becomes the call that its first covering phrase stands for. -/
theorem operationExpression_agrees (s : Text) :
    (isOperation .all s = true ↔
      s.startsWith "print " = false ∧ ∃ op ∈ Operation.all, op.covers s.lower = true) ∧
    (s.startsWith "print " = false → isOperation .all s = false →
      operationExpression Operation.all s = s) ∧
    (IsAscii s → Operation.setCall.accepts s = false → isOperation .all s = true →
      ∃ op, Operation.all.find? (·.covers s.lower) = some op ∧
        op.expression? s = some (operationExpression Operation.all s) ∧
        (operationExpression Operation.all s).endsWith ")" = true) := by
  have hagrees : isOperation .all s =
      (!s.startsWith "print " && Operation.all.any (·.covers s.lower)) :=
    Phrasebook.all_agrees.isOperation_eq s
  refine ⟨?_, ?_, ?_⟩
  · rw [hagrees, Bool.and_eq_true, Bool.not_eq_true', List.any_eq_true]
  · intro hprint hop
    have hnone : Operation.all.any (·.covers s.lower) = false := by
      rw [hagrees, hprint] at hop
      exact hop
    have hfind : (Operation.all.findSome? fun op =>
        if op.covers s.lower then op.expression? s else none) = none := by
      rw [List.findSome?_eq_none_iff]
      intro op hm
      exact if_neg (List.any_eq_false.1 hnone op hm)
    rw [operationExpression, hfind]
    rfl
  · intro hs hset hop
    rw [hagrees] at hop
    have hany : Operation.all.any (·.covers s.lower) = true := (Bool.and_eq_true_iff.1 hop).2
    obtain ⟨op, hfirst⟩ := Option.isSome_iff_exists.1 (List.isSome_find?.trans hany)
    have hm : op ∈ Operation.all := List.mem_of_find?_eq_some hfirst
    have hcovers := List.find?_some hfirst
    obtain ⟨e, he, hend⟩ := Operation.all_answer op hm s hs hset hcovers
    rw [operationExpression_of_find? hfirst he]
    exact ⟨op, hfirst, he, hend⟩

theorem operationExpression_agrees_at :
    operationExpression Operation.all "x.total + y" = "x.total + y".toList ∧
      ∃ op, Operation.all.find? (·.covers (Text.lower "Remove INDEX 2 from Xs")) = some op ∧
        op.expression? "Remove INDEX 2 from Xs" = some "Xs.remove(2)".toList := by
  obtain ⟨-, hplain, -⟩ := operationExpression_agrees "x.total + y"
  obtain ⟨-, -, hremoval⟩ := operationExpression_agrees "Remove INDEX 2 from Xs"
  obtain ⟨op, hfirst, he, _⟩ := hremoval (by decide +kernel) (by decide +kernel) (by decide +kernel)
  have hexpression : operationExpression Operation.all "Remove INDEX 2 from Xs" =
      "Xs.remove(2)".toList := by decide +kernel
  rw [hexpression] at he
  exact ⟨hplain (by decide +kernel) (by decide +kernel), op, hfirst, he⟩

end JavaSketch
