import JavaSketch.Proofs.SpokenOperations

namespace JavaSketch

namespace Text

/-- Words with a gap behind each, of one blank and a number of further ones, and then a text. -/
def spread : List (Text × Nat) → Text → Text
  | [], s => s
  | (w, n) :: words, s => w ++ (List.replicate (n + 1) ' ' ++ spread words s)

/-- The number of further blanks in all gaps. -/
def surplus : List (Text × Nat) → Nat
  | [] => 0
  | (_, n) :: words => n + surplus words

variable {words front : List (Text × Nat)} {s t c last : Text}

theorem isBlank_of_mem_blanks {n : Nat} {d : Char} (h : d ∈ List.replicate n ' ') :
    isBlank d = true := by
  rw [List.eq_of_mem_replicate h]
  rfl

theorem spread_concat (front : List (Text × Nat)) (last : Text) (n : Nat) (s : Text) :
    spread (front ++ [(last, n)]) s = spread front last ++ (List.replicate (n + 1) ' ' ++ s) := by
  induction front with
  | nil => rfl
  | cons pair front ih =>
    rw [List.cons_append, spread, spread, ih, List.append_assoc, List.append_assoc]

theorem join_concat_cons (word : Text) (words : List Text) (s : Text) :
    join " " (word :: words ++ [s]) = word ++ ' ' :: join " " (words ++ [s]) :=
  join_blank word (List.append_ne_nil_of_right_ne_nil _ (List.cons_ne_nil _ _))

theorem spread_single (words : List Text) (s : Text) :
    spread (words.map fun w => (w, 0)) s = join " " (words ++ [s]) := by
  induction words with
  | nil => exact (join_one _ s).symm
  | cons word words ih =>
    rw [List.map_cons, spread, ih, join_concat_cons]
    rfl

theorem surplus_single (words : List Text) : surplus (words.map fun w => (w, 0)) = 0 := by
  induction words with
  | nil => rfl
  | cons word words ih => rw [List.map_cons, surplus, ih]

theorem length_spread (words : List (Text × Nat)) (s : Text) :
    (spread words s).length = (join " " (words.map Prod.fst ++ [s])).length + surplus words := by
  induction words with
  | nil =>
    rw [List.map_nil, List.nil_append, join_one]
    rfl
  | cons pair words ih =>
    rw [List.map_cons, join_concat_cons, spread, surplus]
    simp only [List.length_append, List.length_cons, List.length_replicate, ih]
    omega

theorem suffix_spread (words : List (Text × Nat)) (s : Text) : s <:+ spread words s := by
  induction words with
  | nil => exact List.suffix_refl s
  | cons pair words ih =>
    rw [spread]
    exact (ih.trans (List.suffix_append _ _)).trans (List.suffix_append _ _)

theorem lower_blanks (n : Nat) (s : Text) :
    lower (List.replicate n ' ' ++ s) = List.replicate n ' ' ++ lower s := by
  induction n with
  | zero => rfl
  | succ n ih =>
    have hblank := lower_append_blank [] (List.replicate n ' ' ++ s)
    rw [ih] at hblank
    exact hblank

theorem lower_spread (h : ∀ pair ∈ words, IsKeyword pair.1) (s : Text) :
    lower (spread words s) = spread words (lower s) := by
  induction words with
  | nil => rfl
  | cons pair words ih =>
    obtain ⟨hfirst, hmore⟩ := List.forall_mem_cons.1 h
    rw [spread, List.replicate_succ, List.cons_append, lower_append_blank, lower_blanks, ih hmore,
      hfirst.lower_eq]
    rfl

theorem countP_trim (s : Text) : s.trim.countP (!isBlank ·) = s.countP (!isBlank ·) := by
  obtain ⟨before, after, hbefore, hafter, he⟩ := exists_trim s
  have hnone {pad : Text} (hpad : ∀ d ∈ pad, isBlank d = true) : pad.countP (!isBlank ·) = 0 := by
    rw [List.countP_eq_zero]
    intro d hd
    rw [hpad d hd]
    exact Bool.false_ne_true
  conv_rhs => rw [he]
  rw [List.countP_append, List.countP_append, hnone hbefore, hnone hafter, Nat.zero_add,
    Nat.add_zero]

/-- What follows the place of the receiver is the receiver if there is at most one blank too
many. -/
theorem trim_drop_spread_iff (hlast : IsUnbroken last) (hc : IsUnbroken c) (n : Nat) :
    trim ((spread (front ++ [(last, n)]) c).drop
      ((join " " (front.map Prod.fst ++ [last])).length + 1)) = c ↔ surplus front ≤ 1 := by
  have hlength := length_spread front last
  generalize (join " " (front.map Prod.fst ++ [last])).length = k at hlength ⊢
  rw [spread_concat]
  constructor
  · intro h
    by_contra hmany
    have hlt : k + 1 < (spread front last).length := by omega
    obtain ⟨d, hd⟩ := Option.ne_none_iff_exists'.1 (mt List.getLast?_eq_none_iff.1 hlast.ne_nil)
    have hword : ((spread front last).drop (k + 1)).getLast? = some d := by
      obtain ⟨before, hbefore⟩ := suffix_spread front last
      rw [List.getLast?_drop, if_neg (Nat.not_le.2 hlt), ← hbefore,
        List.getLast?_append_of_ne_nil _ hlast.ne_nil, hd]
    have hcount := countP_trim
      ((spread front last ++ (List.replicate (n + 1) ' ' ++ c)).drop (k + 1))
    rw [h, List.drop_append_of_le_length (Nat.le_of_lt hlt), List.countP_append,
      List.countP_append] at hcount
    have hnone : ((spread front last).drop (k + 1)).countP (!isBlank ·) = 0 := by omega
    have hblank := List.countP_eq_zero.1 hnone d (List.mem_of_mem_getLast? hword)
    rw [hlast.char (List.mem_of_mem_getLast? hd)] at hblank
    exact hblank rfl
  · intro h
    have hgap : k + 1 - (spread front last).length ≤ (List.replicate (n + 1) ' ').length := by
      rw [List.length_replicate]
      omega
    rw [List.drop_append, List.drop_eq_nil_of_le (by omega), List.nil_append,
      List.drop_append_of_le_length hgap,
      trim_append fun d hd => isBlank_of_mem_blanks (List.mem_of_mem_drop hd), hc.trim_eq]

end Text

namespace Pattern

/-- The word that follows the first gap of the pattern, if the pattern gives one. -/
def secondWord? : Pattern → Option Text
  | .exact _ :: p => secondWord? p
  | .run .blank 1 true false :: p => firstWord? p
  | _ => none

variable {p : Pattern} {s w v u : Text} {words : List (Text × Nat)}

theorem secondWord?_append (w : Text) (p : Pattern) :
    secondWord? (exactly w ++ .gap :: p) = firstWord? p := by
  induction w with
  | nil => rfl
  | cons c w ih => exact ih

theorem accepts_blanks (n : Nat) (h : p.accepts s = true) :
    accepts (.gap :: p) (List.replicate (n + 1) ' ' ++ s) = true := by
  apply accepts_run_append (fun d => Text.isBlank_of_mem_blanks) _ h
  rw [List.length_replicate]
  exact Nat.le_add_left 1 n

theorem accepts_spread (h : p.accepts s = true) :
    accepts ((words.map Prod.fst).flatMap (exactly · ++ [.gap]) ++ p) (Text.spread words s) =
      true := by
  induction words with
  | nil => exact h
  | cons pair words ih =>
    rw [List.map_cons, List.flatMap_cons, List.append_assoc, List.append_assoc,
      List.singleton_append, accepts, Text.spread, find?_exactly_append]
    exact accepts_blanks _ ih

theorem spaced_exactly (w : Text) (words : List Text) (p : Pattern) :
    spaced ((w :: words).map exactly) ++ .gap :: p =
      (w :: words).flatMap (exactly · ++ [.gap]) ++ p := by
  induction words generalizing w with
  | nil =>
    rw [List.map_singleton, spaced_one, List.flatMap_singleton, List.append_assoc]
    rfl
  | cons next words ih =>
    have hne : (next :: words).map exactly ≠ [] := List.cons_ne_nil _ _
    rw [List.map_cons, spaced_gap _ hne, List.append_assoc, List.cons_append, ih]
    conv_rhs => rw [List.flatMap_cons, List.append_assoc, List.append_assoc]
    rfl

theorem accepts_of_blanks {n : Nat} (hp : ∀ t, p.accepts (' ' :: t) = false)
    (hs : ∀ d ∈ s.head?, isBlank d = false)
    (h : accepts (.gap :: p) (List.replicate (n + 1) ' ' ++ s) = true) : p.accepts s = true := by
  obtain ⟨m, ⟨_, hm⟩, hrest⟩ := accepts_cons.1 h
  have hrun : (List.replicate (n + 1) ' ' ++ s).takeWhile CharClass.blank.holds =
      List.replicate (n + 1) ' ' := Text.takeWhile_exact (fun d => Text.isBlank_of_mem_blanks) hs
  rw [hrun, List.length_replicate] at hm
  rw [List.drop_append_of_le_length (by rwa [List.length_replicate]), List.drop_replicate] at hrest
  cases hk : n + 1 - m with
  | zero =>
    rw [hk] at hrest
    exact hrest
  | succ k =>
    rw [hk, List.replicate_succ, List.cons_append, hp] at hrest
    cases hrest

theorem not_accepts_secondWord (hw : p.firstWord? = some w) (hv : p.secondWord? = some v)
    (hkey : IsKeyword v) (hu : IsUnbroken u) (hne : u ≠ v) (n : Nat) (t : Text) :
    p.accepts (w ++ (List.replicate (n + 1) ' ' ++ (u ++ ' ' :: t))) = false := by
  obtain ⟨rest, rfl⟩ := exists_of_firstWord? hw
  rw [secondWord?_append] at hv
  obtain ⟨rest, rfl⟩ := exists_of_firstWord? hv
  obtain ⟨a, v, rfl⟩ := List.exists_cons_of_ne_nil hkey.isName.ne_nil
  have hblank (t : Text) : accepts (exactly (a :: v) ++ .gap :: rest) (' ' :: t) = false := by
    rw [accepts, find?_exactly_of_head (List.ne_of_not_mem_cons hkey.notMem)]
    rfl
  rw [Bool.eq_false_iff, accepts, find?_exactly_append]
  intro h
  have hsecond := accepts_of_blanks hblank (hu.head_append _) h
  rw [accepts, find?_otherWord hkey.notMem (fun _ => hu.char) hne] at hsecond
  cases hsecond

end Pattern

namespace Operation

open Pattern

/-- The words of the phrases on a receiver alone. -/
def receiverPhrases : List (List Text) :=
  [["clear"], ["size", "of"], ["length", "of"], ["count", "of"], ["get", "first", "from"],
   ["get", "last", "from"], ["first", "in"], ["last", "in"], ["is", "empty"], ["keys", "of"],
   ["values", "of"], ["pop", "from"], ["peek"], ["dequeue", "from"], ["poll", "from"],
   ["pop", "first", "from"], ["pop", "last", "from"], ["sort"], ["reverse"], ["shuffle"]]

/-- The words of a phrase on a receiver alone, the phrases tried before it that begin with the same
word, and what it builds. Those tried before it have another second word. -/
structure IsReceiverPhrase (words : List Text) (front : List Operation) (build : Text → Text) :
    Prop where
  keywords : ∀ w ∈ words, IsKeyword w
  injective : Function.Injective build
  found : ∃ w ∈ words.head?, ∃ back,
    opening w = front ++ onReceiver (Text.join " " words) build :: back
  apart : ∀ other ∈ front,
    ∃ v ∈ other.shape.secondWord?, IsKeyword v ∧ ∃ u ∈ words[1]?, u ≠ v

theorem receiver_injective (method argument : Text) :
    Function.Injective fun c => call c method argument := by
  intro c d h
  simpa [call] using h

theorem argument_injective (c method : Text) : Function.Injective fun x => call c method x := by
  intro x y h
  simpa [call] using h

theorem lastIn_injective :
    Function.Injective fun c => call c "get" (call c "size" [] ++ " - 1") := by
  intro c d h
  have hlength := congrArg List.length h
  simp only [call, List.length_append] at hlength
  simp only [call, List.append_assoc] at h
  exact (List.append_inj h (by omega)).1

theorem shape_onReceiver {words : List Text} (h : ∀ w ∈ words, ' ' ∉ w) (hne : words ≠ [])
    (build : Text → Text) : (onReceiver (Text.join " " words) build).shape =
      words.flatMap (exactly · ++ [.gap]) ++ [.run .word 1 true false] := by
  obtain ⟨w, words, rfl⟩ := List.exists_cons_of_ne_nil hne
  obtain ⟨hw, hmore⟩ := List.forall_mem_cons.1 h
  have hsplit : (Text.join " " (w :: words)).splitAt ' ' = w :: words := by
    rw [Text.join_cons]
    exact Text.splitAt_pieces hw hmore
  change spaced [spaced (((Text.join " " (w :: words)).splitAt ' ').map exactly),
    [.run .word 1 true false]] = _
  rw [hsplit, spaced_gap _ (List.cons_ne_nil _ _), spaced_one]
  exact spaced_exactly w words _

theorem keyword_of_receiverPhrases : ∀ words ∈ receiverPhrases, words ≠ [] ∧
    ∀ w ∈ words, IsKeyword w := by decide

/-- A phrase on a receiver alone whose first word no other phrase has. -/
theorem isReceiverPhrase_of_lone {words : List Text} {build : Text → Text}
    (h : words ∈ receiverPhrases) (hop : onReceiver (Text.join " " words) build ∈ all)
    (hinj : Function.Injective build) (hlone : ∀ w ∈ words.head?, w ∉ sharedWords) :
    IsReceiverPhrase words [] build := by
  obtain ⟨hne, hkeys⟩ := keyword_of_receiverPhrases words h
  have hshape := shape_onReceiver (fun w hw => (hkeys w hw).notMem) hne build
  obtain ⟨w, words, rfl⟩ := List.exists_cons_of_ne_nil hne
  have hfirst : (onReceiver (Text.join " " (w :: words)) build).shape.firstWord? = some w := by
    rw [hshape, List.flatMap_cons, List.append_assoc, List.append_assoc, List.singleton_append,
      firstWord?_append]
  exact ⟨hkeys, hinj, ⟨w, rfl, [], opening_of_lone _ hop hfirst (hlone w rfl)⟩,
    List.forall_mem_nil _⟩

/-- The words of the phrases for calls without arguments whose first word is theirs alone, with the
methods. -/
def loneAskings : List (Text × Text) :=
  [("clear", "clear"), ("size of", "size"), ("length of", "size"), ("count of", "size"),
   ("is empty", "isEmpty"), ("keys of", "keySet"), ("values of", "values"), ("peek", "peek"),
   ("dequeue from", "poll"), ("poll from", "poll")]

theorem asking_mem_all : ∀ f ∈ loneAskings, asking f.1 f.2 ∈ all := by
  simp only [loneAskings, List.forall_mem_cons, List.not_mem_nil, false_imp_iff, implies_true,
    and_true]
  simp only [all, sizes, placements, List.mem_append, List.mem_cons, true_or, or_true, and_self]

theorem applying_mem_all : ∀ w ∈ (["sort", "reverse", "shuffle"] : List Text),
    applying w w ∈ all := by
  simp only [List.forall_mem_cons, List.not_mem_nil, false_imp_iff, implies_true, and_true]
  simp only [all, arrangements, List.mem_append, List.mem_cons, true_or, or_true, and_self]

theorem receiverPhrases_cases : ∀ words ∈ receiverPhrases,
    (∃ f ∈ loneAskings, f.1.splitAt ' ' = words ∧ ∀ w ∈ words.head?, w ∉ sharedWords) ∨
      (∃ w ∈ (["sort", "reverse", "shuffle"] : List Text), [w] = words ∧ w ∉ sharedWords) ∨
      words ∈ ([["first", "in"], ["last", "in"], ["get", "first", "from"],
        ["get", "last", "from"], ["pop", "from"], ["pop", "first", "from"],
        ["pop", "last", "from"]] : List (List Text)) := by
  decide +kernel

theorem exists_receiverPhrase {words : List Text} (h : words ∈ receiverPhrases) :
    ∃ front build, IsReceiverPhrase words front build := by
  have hpop : opening "pop" = [asking "pop from" "pop", asking "pop first from" "removeFirst",
      asking "pop last from" "removeLast"] := Eq.refl _
  have hfirstIn : (onReceiver "first in" fun c => call c "get" "0") ∈ placements := by
    simp only [placements, List.mem_cons, true_or, or_true]
  have hlastIn : (onReceiver "last in" fun c => call c "get" (call c "size" [] ++ " - 1")) ∈
      placements := by
    simp only [placements, List.mem_cons, true_or, or_true]
  rcases receiverPhrases_cases words h with ⟨f, hf, rfl, hlone⟩ | ⟨w, hw, rfl, hlone⟩ | hwords
  · have hop := asking_mem_all f hf
    have hjoin : Text.join " " (f.1.splitAt ' ') = f.1 := Text.join_splitAt ' ' f.1
    rw [← hjoin] at hop
    exact ⟨_, _, isReceiverPhrase_of_lone h hop (receiver_injective f.2 []) hlone⟩
  · have hop := applying_mem_all w hw
    rw [← Text.join_one " " w] at hop
    refine ⟨_, _, isReceiverPhrase_of_lone h hop (argument_injective "Collections" _) ?_⟩
    exact fun v hv => Option.some.inj hv ▸ hlone
  · simp only [List.mem_cons, List.not_mem_nil, or_false] at hwords
    rcases hwords with rfl | rfl | rfl | rfl | rfl | rfl | rfl
    · exact ⟨_, _, isReceiverPhrase_of_lone h (mem_all_of_placements hfirstIn)
        (receiver_injective "get" "0") (by decide)⟩
    · exact ⟨_, _, isReceiverPhrase_of_lone h (mem_all_of_placements hlastIn) lastIn_injective
        (by decide)⟩
    · exact ⟨[passing "get item at" "from" "get"], _, by decide, receiver_injective "getFirst" [],
        ⟨_, rfl, _, opening_get⟩, by decide +kernel⟩
    · exact ⟨[passing "get item at" "from" "get", asking "get first from" "getFirst"], _, by decide,
        receiver_injective "getLast" [], ⟨_, rfl, _, opening_get⟩, by decide +kernel⟩
    · exact ⟨[], _, by decide, receiver_injective "pop" [], ⟨_, rfl, _, hpop⟩,
        List.forall_mem_nil _⟩
    · exact ⟨[asking "pop from" "pop"], _, by decide, receiver_injective "removeFirst" [],
        ⟨_, rfl, _, hpop⟩, by decide +kernel⟩
    · exact ⟨[asking "pop from" "pop", asking "pop first from" "removeFirst"], _, by decide,
        receiver_injective "removeLast" [], ⟨_, rfl, _, hpop⟩, by decide +kernel⟩

variable {words : List (Text × Nat)} {front : List Operation} {build : Text → Text} {c : Text}

/-- A phrase on a receiver alone is the first to cover it, whatever its gaps are. -/
theorem isFirst_spread {w : Text} {n : Nat}
    (h : IsReceiverPhrase (((w, n) :: words).map Prod.fst) front build) (s : Text) :
    (onReceiver (Text.join " " (((w, n) :: words).map Prod.fst)) build).IsFirst
      (Text.spread ((w, n) :: words) s) := by
  obtain ⟨v, hv, back, hopening⟩ := h.found
  cases hv
  apply isFirst_of_opening front hopening
  intro other hother
  have hshape : other.shape.firstWord? = some w := by
    have hmem : other ∈ opening w := hopening ▸ List.mem_append_left _ hother
    exact beq_iff_eq.1 (List.mem_filter.1 hmem).2
  obtain ⟨v, hv, hkey, u, hu, hne⟩ := h.apart other hother
  cases words with
  | nil => cases hu
  | cons next words =>
    cases hu
    have hnext : IsKeyword next.1 := h.keywords _ (List.mem_cons_of_mem _ List.mem_cons_self)
    exact not_accepts_secondWord hshape hv hkey hnext.isOperand.toIsUnbroken hne n _

theorem operationExpression_spread (h : IsReceiverPhrase (words.map Prod.fst) front build)
    (hne : words ≠ []) (hc : IsName c) :
    operationExpression all (Text.spread words c) =
      build (Text.trim ((Text.spread words c).drop
        ((Text.join " " (words.map Prod.fst)).length + 1))) := by
  have hlower : (Text.spread words c).lower = Text.spread words c.lower :=
    Text.lower_spread (fun pair hp => h.keywords _ (List.mem_map_of_mem hp)) c
  have hcovers : (onReceiver (Text.join " " (words.map Prod.fst)) build).covers
      (Text.spread words c.lower) = true := by
    have hname := (Part.Wording.name hc).covers
    rw [List.map_singleton, spaced_one] at hname
    rw [covers, shape_onReceiver (fun w hw => (h.keywords w hw).notMem)
      fun he => hne (List.map_eq_nil_iff.1 he)]
    exact accepts_spread hname
  obtain ⟨⟨w, n⟩, more, rfl⟩ := List.exists_cons_of_ne_nil hne
  apply operationExpression_of_find?
  · rw [hlower]
    exact (isFirst_spread h c.lower).find? hcovers
  · rfl

variable {gapped : List (Text × Nat)} {last : Text}

theorem operationExpression_spread_eq
    (h : IsReceiverPhrase (gapped.map Prod.fst ++ [last]) front build) (hc : IsName c) (n : Nat) :
    ∃ x, (x = c ↔ Text.surplus gapped ≤ 1) ∧
      operationExpression all (Text.spread (gapped ++ [(last, n)]) c) = build x := by
  have hlast : IsKeyword last := h.keywords last (List.mem_append_right _ List.mem_cons_self)
  have hmap : (gapped ++ [(last, n)]).map Prod.fst = gapped.map Prod.fst ++ [last] :=
    List.map_append
  rw [← hmap] at h
  refine ⟨_, ?_, operationExpression_spread h (List.append_ne_nil_of_right_ne_nil _
    (List.cons_ne_nil _ _)) hc⟩
  rw [hmap]
  exact Text.trim_drop_spread_iff hlast.isOperand.toIsUnbroken hc.isUnbroken n

/-- A phrase on a receiver alone says the same with wider gaps if and only if the gaps between its
own words have at most one blank too many. The gap in front of the receiver may have any width. -/
theorem operationExpression_spread_iff {front : List (Text × Nat)} {last c : Text}
    (hw : front.map Prod.fst ++ [last] ∈ receiverPhrases) (hc : IsName c) (n : Nat) :
    operationExpression all (Text.spread (front ++ [(last, n)]) c) =
        operationExpression all (Text.join " " (front.map Prod.fst ++ [last, c])) ↔
      Text.surplus front ≤ 1 := by
  obtain ⟨_, build, h⟩ := exists_receiverPhrase hw
  have hsingle : Text.join " " (front.map Prod.fst ++ [last, c]) =
      Text.spread ((front.map Prod.fst).map (fun w => (w, 0)) ++ [(last, 0)]) c := by
    have hspread := Text.spread_single (front.map Prod.fst ++ [last]) c
    rw [List.append_assoc, List.map_append] at hspread
    exact hspread.symm
  have hmap : ((front.map Prod.fst).map (fun w => (w, 0))).map Prod.fst = front.map Prod.fst := by
    simp
  obtain ⟨x, hx, hspread⟩ := operationExpression_spread_eq h hc n
  rw [← hmap] at h
  obtain ⟨y, hy, hjoin⟩ := operationExpression_spread_eq h hc 0
  rw [Text.surplus_single] at hy
  rw [hsingle, hspread, hjoin, h.injective.eq_iff, hy.2 (Nat.zero_le 1), hx]

theorem operationExpression_spread_size :
    (["size", "of"] : List Text) ∈ receiverPhrases ∧ IsName "xs" ∧
      operationExpression all "size  of   xs" = operationExpression all "size of xs" ∧
      operationExpression all "size   of xs" ≠ operationExpression all "size of xs" := by
  have hc : IsName "xs" := ⟨by decide, by decide⟩
  have hone : ([("size", 1)] : List (Text × Nat)).map Prod.fst ++ [("of" : Text)] ∈
      receiverPhrases := by decide
  have htwo : ([("size", 2)] : List (Text × Nat)).map Prod.fst ++ [("of" : Text)] ∈
      receiverPhrases := by decide
  refine ⟨hone, hc, (operationExpression_spread_iff hone hc 2).2 (by decide), ?_⟩
  exact fun he => absurd ((operationExpression_spread_iff htwo hc 0).1 he) (by decide)

end Operation

end JavaSketch
