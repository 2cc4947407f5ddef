import JavaSketch.Proofs.Creations

namespace JavaSketch

namespace Text

variable {s before after : Text}

section Close

variable (h : cut? "):" (s ++ "):") = some (before, after))
include h

theorem append_close_eq : s ++ ([')'] ++ [':']) = before ++ ([')'] ++ [':']) ++ after :=
  eq_of_cut? h

theorem before_of_cut?_close (hafter : after = []) : before = s := by
  have hs := append_close_eq h
  rw [hafter, List.append_nil] at hs
  exact (List.append_cancel_right hs).symm

/-- Nothing is left behind the first closing sign exactly if there is none in the text before the
last one. -/
theorem cut?_close_iff : after = [] ↔ s.includes "):" = false := by
  constructor
  · intro hafter
    obtain rfl := before_of_cut?_close h hafter
    rw [Bool.eq_false_iff]
    intro hin
    obtain ⟨front, behind, rfl⟩ := includes_iff.1 hin
    have hle : (front ++ "):".toList ++ behind).length ≤ front.length := by
      apply length_le_of_cut? h
      rw [List.append_assoc, List.append_assoc, List.drop_left]
      exact List.prefix_append _ _
    rw [List.length_append, List.length_append] at hle
    have htwo : "):".toList.length = 2 := rfl
    omega
  · intro hnone
    have hs := append_close_eq h
    rcases List.eq_nil_or_concat' after with rfl | ⟨front, c, rfl⟩
    · rfl
    · exfalso
      simp only [← List.append_assoc] at hs
      obtain ⟨hs, -⟩ := List.append_inj' hs rfl
      rcases List.eq_nil_or_concat' front with rfl | ⟨more, d, rfl⟩
      · rw [List.append_nil] at hs
        obtain ⟨-, hlast⟩ := List.append_inj' hs rfl
        exact absurd (List.cons.inj hlast).1 (by decide)
      · simp only [← List.append_assoc] at hs
        obtain ⟨hs, -⟩ := List.append_inj' hs rfl
        rw [Bool.eq_false_iff] at hnone
        refine hnone (includes_iff.2 ⟨before, more, ?_⟩)
        simp only [hs, List.append_assoc]
        rfl

theorem count_of_cut?_close (hne : after ≠ []) : before.count ':' < s.count ':' := by
  have hs := append_close_eq h
  have hcount := congrArg (List.count ':') hs
  simp only [List.count_append] at hcount
  have hlast : after.getLast? = some ':' := by
    have hend := congrArg List.getLast? hs
    rw [List.getLast?_append_of_ne_nil _ hne, ← List.append_assoc, List.getLast?_concat] at hend
    exact hend.symm
  have hpos : 0 < after.count ':' := List.count_pos_iff.2 (List.mem_of_getLast? hlast)
  omega

end Close

theorem includes_join {part : Text} {pieces : List Text} (hcomma : ',' ∉ part) (hblank : ' ' ∉ part)
    (hne : part ≠ []) (h : ∀ piece ∈ pieces, piece.includes part = false) :
    (join ", " pieces).includes part = false := by
  have hnil : includes [] part = false := by
    rw [Bool.eq_false_iff]
    exact fun hin => hne (List.eq_nil_of_infix_nil (includes_iff.1 hin))
  cases pieces with
  | nil => exact hnil
  | cons piece pieces =>
    rw [join_cons]
    obtain ⟨hfirst, hrest⟩ := List.forall_mem_cons.1 h
    clear h
    induction pieces generalizing piece with
    | nil => rwa [List.flatMap_nil, List.append_nil]
    | cons next pieces ih =>
      obtain ⟨hnext, hrest⟩ := List.forall_mem_cons.1 hrest
      have hstep : piece ++ (next :: pieces).flatMap (", ".toList ++ ·) =
          piece ++ ',' :: ([] ++ ' ' :: (next ++ pieces.flatMap (", ".toList ++ ·))) := rfl
      rw [hstep, includes_append_cons hcomma, includes_append_cons hblank, hfirst, hnil,
        ih next hnext hrest]
      rfl

end Text

namespace Statement

open Pattern (exactly)

/-- The arguments of a range. It ends before its bound, and begins at zero and advances by one if
nothing else is said. -/
inductive RangeCall where
  | upTo (bound : Text)
  | between (first bound : Text)
  | stepping (first bound step : Text)

/-- A loop that counts, with the statement that advances its variable. -/
def loopText (v first bound advance : Text) : Text :=
  "for (int " ++ v ++ " = " ++ first ++ "; " ++ v ++ " < " ++ bound ++ "; " ++ advance ++ ") \x7b"

/-- The statements that advance a variable by a step. -/
inductive Advances (v : Text) : Text → Text → Prop
  | one : Advances v "1" (v ++ "++")
  | adding (step : Text) : Advances v step (v ++ " += " ++ step)

namespace RangeCall

def arguments : RangeCall → List Text
  | upTo bound => [bound]
  | between first bound => [first, bound]
  | stepping first bound step => [first, bound, step]

def first : RangeCall → Text
  | upTo _ => "0"
  | between first _ => first.trim
  | stepping first _ _ => first.trim

def bound : RangeCall → Text
  | upTo bound => bound.trim
  | between _ bound => bound.trim
  | stepping _ bound _ => bound.trim

def step : RangeCall → Text
  | stepping _ _ step => step.trim
  | _ => "1"

/-- The loop over a range as it is written in a sketch. -/
def statement (r : RangeCall) (v : Text) : Text :=
  "for " ++ v ++ " in range(" ++ (Text.join ", " r.arguments ++ "):")

/-- The loops in Java that count through a range. -/
def IsLoop (r : RangeCall) (v java : Text) : Prop :=
  ∃ advance, Advances v r.step advance ∧ java = loopText v r.first r.bound advance

/-- Arguments that stay in one piece. -/
def IsPlain (r : RangeCall) : Prop :=
  ∀ a ∈ r.arguments, ',' ∉ a ∧ '\n' ∉ a ∧ a.includes "):" = false

end RangeCall

variable {v first bound advance step arguments s : Text} {q : Char}

theorem countingLine_eq (v first bound : Text) :
    countingLine v first bound = loopText v first bound (v ++ "++") := by
  have hend (head : Text) : head ++ v ++ "++) \x7b" = head ++ (v ++ "++") ++ ") \x7b" := by
    simp only [List.append_assoc]
    rfl
  exact hend _

/-- The two signs at which an argument can be cut short. -/
def isCuttingSign (q : Char) : Bool := q == ',' || q == ':'

theorem eq_or_of_isCuttingSign (hq : isCuttingSign q = true) : q = ',' ∨ q = ':' := by
  simpa [isCuttingSign] using hq

theorem count_fixed (hq : isCuttingSign q = true) {t : Text} (ht : t.any isCuttingSign = false) :
    t.count q = 0 := by
  rw [List.count_eq_zero]
  intro hm
  exact List.any_eq_false.1 ht q hm hq

theorem count_name (hq : isCuttingSign q = true) (hv : IsName v) : v.count q = 0 := by
  rw [List.count_eq_zero]
  apply hv.notMem
  rcases eq_or_of_isCuttingSign hq with rfl | rfl
  · rfl
  · rfl

theorem count_loopText (hq : isCuttingSign q = true) (hv : IsName v) :
    (loopText v first bound advance).count q = first.count q + bound.count q + advance.count q := by
  have hshape : loopText v first bound advance = "for (int " ++ v ++ " = " ++ first ++ "; " ++ v ++
      " < " ++ bound ++ "; " ++ advance ++ ") \x7b" := rfl
  rw [hshape]
  simp only [List.count_append, count_name hq hv]
  rw [count_fixed hq (t := "for (int ") rfl, count_fixed hq (t := " = ") rfl,
    count_fixed hq (t := "; ") rfl, count_fixed hq (t := " < ") rfl,
    count_fixed hq (t := ") \x7b") rfl]
  omega

theorem Advances.count (h : Advances v step advance) (hq : isCuttingSign q = true) (hv : IsName v) :
    advance.count q = step.count q := by
  cases h with
  | one =>
    rw [List.count_append, count_name hq hv, count_fixed hq (t := "++") rfl,
      count_fixed hq (t := "1") rfl]
  | adding =>
    rw [List.count_append, List.count_append, count_name hq hv, count_fixed hq (t := " += ") rfl]
    omega

namespace RangeCall

variable {r : RangeCall}

theorem count_arguments (hq : isCuttingSign q = true) (r : RangeCall) :
    r.first.count q + r.bound.count q + r.step.count q = r.arguments.flatten.count q := by
  have hblank : isBlank q = false := by
    rcases eq_or_of_isCuttingSign hq with rfl | rfl
    · rfl
    · rfl
  have hzero : List.count q "0".toList = 0 := count_fixed hq rfl
  have hone : List.count q "1".toList = 0 := count_fixed hq rfl
  cases r with
  | upTo bound =>
    simp only [first, RangeCall.bound, step, arguments, List.flatten_cons, List.flatten_nil,
      List.append_nil, Text.count_trim hblank]
    omega
  | between first bound =>
    simp only [RangeCall.first, RangeCall.bound, step, arguments, List.flatten_cons,
      List.flatten_nil, List.append_nil, Text.count_trim hblank, List.count_append]
    omega
  | stepping first bound step =>
    simp only [RangeCall.first, RangeCall.bound, RangeCall.step, arguments, List.flatten_cons,
      List.flatten_nil, List.append_nil, Text.count_trim hblank, List.count_append]
    omega

theorem IsLoop.count {java : Text} (h : r.IsLoop v java) (hq : isCuttingSign q = true)
    (hv : IsName v) : java.count q = r.arguments.flatten.count q := by
  obtain ⟨advance, hadvance, rfl⟩ := h
  rw [count_loopText hq hv, hadvance.count hq hv, count_arguments hq]

end RangeCall

theorem find?_rangePattern (hv : IsName v) (s : Text) :
    rangePattern.find? ("for " ++ v ++ " in range(" ++ s) =
      ((Text.cut? "):" s).bind fun parts =>
        if parts.1.all CharClass.any.holds then some [parts.1] else none).map (v :: ·) := by
  have hshape : "for " ++ v ++ " in range(" ++ s =
      "for".toList ++ ' ' :: (v ++ ' ' :: ("in".toList ++ ' ' :: ("range(".toList ++ s))) := by
    simp only [List.append_assoc]
    rfl
  have hpattern : rangePattern = exactly "for" ++ (.gap :: .name :: .gap :: (exactly "in" ++
      (.gap :: (exactly "range(" ++ (.run .any 0 false true :: exactly "):"))))) := rfl
  have hin (t : Text) : ∀ c ∈ ("in".toList ++ t).head?, isBlank c = false := Text.head_cons rfl
  have hrange : ∀ c ∈ ("range(".toList ++ s).head?, isBlank c = false := Text.head_cons rfl
  rw [hshape, hpattern, Pattern.find?_exactly_append, Pattern.find?_gap_one (hv.head_append _),
    Pattern.find?_name_gap hv, Pattern.find?_gap_one (hin _), Pattern.find?_exactly_append,
    Pattern.find?_gap_one hrange, Pattern.find?_exactly_append, Pattern.find?_upTo]

theorem forLine_range (hv : IsName v) {before after : Text}
    (hs : s = "for " ++ v ++ " in range(" ++ (arguments ++ "):"))
    (h : Text.cut? "):" (arguments ++ "):") = some (before, after)) :
    forLine Stage.current.loops s = if before.all CharClass.any.holds then
      (Stage.current.loops.range? v before).getD s else s := by
  have hin : s.includes " in range(" = true := by
    rw [hs]
    exact Text.includes_iff.2 ⟨_, _, rfl⟩
  rw [forLine, if_pos hin]
  have hfind := find?_rangePattern hv (arguments ++ "):")
  rw [← hs, h, Option.bind_some] at hfind
  split_ifs with hall
  · rw [if_pos hall] at hfind
    rw [hfind]
    rfl
  · rw [if_neg hall] at hfind
    rw [hfind]
    rfl

theorem range?_current (v arguments : Text) : ∃ first bound,
    Stage.current.loops.range? v arguments = some (countingLine v first bound) ∧
      ',' ∉ first ∧ ',' ∉ bound ∧ first.count ':' + bound.count ':' ≤ arguments.count ':' := by
  have hpieces (piece : Text) (hm : piece ∈ arguments.splitAt ',') : ',' ∉ piece.trim :=
    fun hc => Text.notMem_of_mem_splitAt hm (Text.trim_subset piece hc)
  have hjoin := Text.join_splitAt ',' arguments
  have hcolon : isBlank ':' = false := rfl
  rw [LoopStyle.range?]
  cases hsplit : arguments.splitAt ',' with
  | nil => exact absurd hsplit (Text.splitAt_ne_nil _ _)
  | cons first more =>
    rw [hsplit] at hpieces hjoin
    have hfirst := hpieces first List.mem_cons_self
    cases more with
    | nil =>
      rw [Text.join_one] at hjoin
      refine ⟨"0", first.trim, rfl, by decide, hfirst, ?_⟩
      rw [Text.count_trim hcolon, hjoin]
      exact Nat.le_of_eq (Nat.zero_add _)
    | cons bound more =>
      have hbound := hpieces bound (List.mem_cons_of_mem _ List.mem_cons_self)
      refine ⟨first.trim, bound.trim, ?_, hfirst, hbound, ?_⟩
      · cases more with
        | nil => rfl
        | cons step more => rfl
      · rw [← hjoin, Text.join_cons, List.flatMap_cons, Text.count_trim hcolon,
          Text.count_trim hcolon]
        simp only [List.count_append]
        omega

namespace RangeCall

variable {r : RangeCall}

theorem range?_arguments (h : ∀ a ∈ r.arguments, ',' ∉ a) :
    Stage.current.loops.range? v (Text.join ", " r.arguments) =
      some (countingLine v r.first r.bound) := by
  have htrim (a : Text) : Text.trim (' ' :: a) = a.trim :=
    Text.trim_append (List.forall_mem_singleton.2 rfl)
  cases r with
  | upTo bound =>
    rw [LoopStyle.range?, arguments, Text.splitAt_join h]
    rfl
  | between first bound =>
    rw [LoopStyle.range?, arguments, Text.splitAt_join h]
    exact congrArg (fun b => some (countingLine v first.trim b)) (htrim bound)
  | stepping first bound step =>
    rw [LoopStyle.range?, arguments, Text.splitAt_join h]
    exact congrArg (fun b => some (countingLine v first.trim b)) (htrim bound)

theorem not_isLoop_statement (hv : IsName v) (r : RangeCall) : ¬ r.IsLoop v (r.statement v) := by
  rintro ⟨advance, -, h⟩
  obtain ⟨c, more, hname⟩ := List.exists_cons_of_ne_nil hv.ne_nil
  have hword := hv.char (hname ▸ List.mem_cons_self)
  have hparenthesis : c = '(' := by
    have hfifth := congrArg (·[4]?) h
    rw [hname] at hfifth
    exact Option.some.inj hfifth
  rw [hparenthesis] at hword
  cases hword

theorem isLoop_countingLine_iff : r.IsLoop v (countingLine v r.first r.bound) ↔ r.step = "1" := by
  rw [countingLine_eq]
  constructor
  · rintro ⟨advance, hadvance, h⟩
    have hsame : v ++ "++" = advance := List.append_cancel_left (List.append_cancel_right h)
    generalize r.step = step at hadvance ⊢
    cases hadvance with
    | one => rfl
    | adding =>
      rw [List.append_assoc] at hsame
      cases List.append_cancel_left hsame
  · intro hstep
    refine ⟨v ++ "++", ?_, rfl⟩
    rw [hstep]
    exact .one

theorem count_join (r : RangeCall) :
    (Text.join ", " r.arguments).count ':' = r.arguments.flatten.count ':' := by
  have hcomma : List.count ':' ", ".toList = 0 := rfl
  cases r with
  | upTo bound =>
    rw [arguments, Text.join_one, List.flatten_cons, List.flatten_nil, List.append_nil]
  | between first bound =>
    simp only [arguments, Text.join_cons, List.flatMap_cons, List.flatMap_nil, List.flatten_cons,
      List.flatten_nil, List.count_append, hcomma, Nat.zero_add]
  | stepping first bound step =>
    simp only [arguments, Text.join_cons, List.flatMap_cons, List.flatMap_nil, List.flatten_cons,
      List.flatten_nil, List.count_append, hcomma, Nat.zero_add]

/-- A loop that is made of pieces without commas counts through a range only if the arguments have
no commas, and no colons that the pieces have not. -/
theorem IsLoop.signs (h : r.IsLoop v (countingLine v first bound)) (hv : IsName v)
    (hfirst : ',' ∉ first) (hbound : ',' ∉ bound) : (∀ a ∈ r.arguments, ',' ∉ a) ∧
      (Text.join ", " r.arguments).count ':' = first.count ':' + bound.count ':' := by
  have hcount {q : Char} (hq : isCuttingSign q = true) :
      first.count q + bound.count q = r.arguments.flatten.count q := by
    rw [← h.count hq hv, countingLine_eq, count_loopText hq hv, List.count_append, count_name hq hv,
      count_fixed hq (t := "++") rfl]
    rfl
  constructor
  · intro a ha hm
    have hnone := hcount (q := ',') rfl
    rw [List.count_eq_zero.2 hfirst, List.count_eq_zero.2 hbound] at hnone
    exact List.count_eq_zero.1 hnone.symm (List.mem_flatten_of_mem ha hm)
  · rw [count_join, hcount rfl]

theorem IsPlain.one_line (h : r.IsPlain) :
    (Text.join ", " r.arguments).all CharClass.any.holds = true := by
  have hnone : (Text.join ", " r.arguments).includes ['\n'] = false := by
    apply Text.includes_join (by decide) (by decide) (by decide)
    intro a ha
    exact Text.not_includes_of_notMem List.mem_cons_self (h a ha).2.1
  rw [List.all_eq_true]
  intro c hc
  refine bne_iff_ne.2 fun hbreak => ?_
  rw [Text.includes_of_mem (hbreak ▸ hc)] at hnone
  cases hnone

/-- A loop over a range counts as it says exactly if each of its arguments stays in one piece and it
advances by one. A third argument is never looked at. -/
theorem isLoop_forLine_iff (hv : IsName v) (r : RangeCall) :
    (r.IsLoop v (forLine Stage.current.loops (r.statement v)) ↔ r.IsPlain ∧ r.step = "1") ∧
      (r.IsPlain → forLine Stage.current.loops (r.statement v) =
        countingLine v r.first r.bound) := by
  obtain ⟨⟨before, after⟩, hcut⟩ : ∃ parts, Text.cut? "):" (Text.join ", " r.arguments ++ "):") =
      some parts :=
    Option.isSome_iff_exists.1 (Text.includes_iff.2 (List.suffix_append _ _).isInfix)
  have hincludes := Text.cut?_close_iff hcut
  have hline := forLine_range (s := r.statement v) hv rfl hcut
  have hexact (hplain : r.IsPlain) :
      forLine Stage.current.loops (r.statement v) = countingLine v r.first r.bound := by
    have hafter : after = [] := hincludes.2
      (Text.includes_join (by decide) (by decide) (by decide) fun a ha => (hplain a ha).2.2)
    rw [hline, Text.before_of_cut?_close hcut hafter, if_pos hplain.one_line,
      range?_arguments fun a ha => (hplain a ha).1, Option.getD_some]
  refine ⟨⟨fun hloop => ?_, ?_⟩, hexact⟩
  · have hall : before.all CharClass.any.holds = true := by
      by_contra hall
      rw [hline, if_neg hall] at hloop
      exact not_isLoop_statement hv r hloop
    obtain ⟨first, bound, hrange, hfirst, hbound, hcolons⟩ := range?_current v before
    rw [if_pos hall, hrange, Option.getD_some] at hline
    obtain ⟨hcommas, hcount⟩ := IsLoop.signs (hline ▸ hloop) hv hfirst hbound
    have hafter : after = [] := by
      by_contra hne
      have hfewer := Text.count_of_cut?_close hcut hne
      omega
    have hplain : r.IsPlain := by
      intro a ha
      have hin : a <:+: Text.join ", " r.arguments := Text.infix_of_mem_join ha
      refine ⟨hcommas a ha, fun hbreak => ?_, Text.not_includes_of_infix hin (hincludes.1 hafter)⟩
      rw [Text.before_of_cut?_close hcut hafter] at hall
      exact bne_iff_ne.1 (List.all_eq_true.1 hall _ (hin.subset hbreak)) rfl
    rw [hexact hplain] at hloop
    exact ⟨hplain, isLoop_countingLine_iff.1 hloop⟩
  · rintro ⟨hplain, hstep⟩
    rw [hexact hplain]
    exact isLoop_countingLine_iff.2 hstep

theorem isLoop_forLine_iff_nested_call :
    ¬ (upTo "max(a, b)").IsLoop "i" (forLine Stage.current.loops "for i in range(max(a, b)):") ∧
      ¬ (stepping "0" "10" "2").IsLoop "i"
        (forLine Stage.current.loops "for i in range(0, 10, 2):") ∧
      (between "a" "f(b)").IsLoop "i" (forLine Stage.current.loops "for i in range(a, f(b)):") := by
  have hi : IsName "i" := ⟨by decide, rfl⟩
  refine ⟨fun h => ?_, fun h => ?_, (isLoop_forLine_iff hi (between "a" "f(b)")).1.2 ⟨?_, rfl⟩⟩
  · have hplain := ((isLoop_forLine_iff hi (upTo "max(a, b)")).1.1 h).1
    exact absurd (hplain "max(a, b)" List.mem_cons_self).1 (by decide)
  · have hstep := ((isLoop_forLine_iff hi (stepping "0" "10" "2")).1.1 h).2
    exact absurd hstep (by decide)
  · unfold IsPlain
    decide

end RangeCall

end Statement

end JavaSketch
