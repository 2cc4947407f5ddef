import JavaSketch.Proofs.ConditionLines

namespace JavaSketch

namespace Text

variable {p : Char → Bool} {old new : Text}

/-- What neither the old text nor the new one has is there as often as before. -/
theorem countP_replace (hne : old ≠ []) (hold : old.countP p = 0) (hnew : new.countP p = 0)
    (s : Text) : (s.replace old new).countP p = s.countP p := by
  have hfrom (n : Nat) : (replaceFrom old new n s).countP p = List.countP p (s.drop n) := by
    induction s generalizing n with
    | nil => rw [replaceFrom, List.drop_nil]
    | cons c s ih =>
      cases n with
      | succ n => exact ih n
      | zero =>
        rw [replaceFrom]
        split
        · rename_i hp
          obtain ⟨rest, hrest⟩ := List.isPrefixOf_iff_prefix.1 hp
          obtain ⟨d, old, rfl⟩ := List.exists_cons_of_ne_nil hne
          have htail : old ++ rest = s := (List.cons.inj hrest).2
          have hs : s.drop old.length = rest := by rw [← htail, List.drop_left]
          rw [List.countP_append, hnew, List.length_cons, Nat.add_sub_cancel, ih, hs, Nat.zero_add,
            List.drop_zero, ← hrest, List.countP_append, hold, Nat.zero_add]
        · rw [List.countP_cons, ih 0, List.drop_zero, List.drop_zero, List.countP_cons]
  exact (hfrom 0).trans (by rw [List.drop_zero])

theorem countP_join (hp : p ' ' = false) (word : Text) (words : List Text) :
    (join " " (word :: words)).countP p = word.countP p + (join " " words).countP p := by
  by_cases hne : words = []
  · rw [hne, join_one]
    rfl
  · rw [join_blank word hne, List.countP_append, List.countP_cons_of_neg (Bool.eq_false_iff.1 hp)]

end Text

namespace Statement

variable {w new sign : Text} {put : List Text → List Text} {ts : List Text} {free : Bool}

/-- The sign of a negation stands right in front of the next word. -/
def negate : List Text → List Text
  | [] => ["!"]
  | t :: ts => ('!' :: t) :: ts

/-- The words of a condition with signs for `and`, `or` and `not`. -/
def javaTokens : List Text → List Text
  | [] => []
  | t :: ts =>
    if t = "and" then "&&" :: javaTokens ts
    else if t = "or" then "||" :: javaTokens ts
    else if t = "not" then negate (javaTokens ts)
    else t :: javaTokens ts

/-- One kind of word replaced, where the blank in front of the first word may be used up. -/
def respell (w : Text) (put : List Text → List Text) : Bool → List Text → List Text
  | _, [] => []
  | free, t :: ts =>
    if free = true ∧ t = w ∧ ts ≠ [] then put (respell w put false ts)
    else t :: respell w put true ts

/-- How many words `respell` replaces. -/
def respelled (w : Text) : Bool → List Text → Nat
  | _, [] => 0
  | free, t :: ts =>
    if free = true ∧ t = w ∧ ts ≠ [] then respelled w false ts + 1 else respelled w true ts

/-- What comes for a word and its blanks, as a text and as words in front of others. -/
structure Puts (new : Text) (put : List Text → List Text) : Prop where
  ne_nil (ts : List Text) : put ts ≠ []
  join_eq {ts : List Text} (hts : ts ≠ []) : new ++ Text.join " " ts = ' ' :: Text.join " " (put ts)

theorem puts_sign (sign : Text) : Puts (' ' :: (sign ++ " ")) (sign :: ·) where
  ne_nil ts := List.cons_ne_nil sign ts
  join_eq hts := by
    rw [Text.join_blank sign hts, List.cons_append, List.append_assoc]
    rfl

theorem puts_negate : Puts " !" negate where
  ne_nil ts := by
    cases ts with
    | nil => exact List.cons_ne_nil _ _
    | cons t ts => exact List.cons_ne_nil _ _
  join_eq {ts} hts := by
    obtain ⟨t, ts, rfl⟩ := List.exists_cons_of_ne_nil hts
    rw [negate, Text.join_cons, Text.join_cons]
    rfl

theorem respell_ne_nil (h : Puts new put) (hts : ts ≠ []) : respell w put free ts ≠ [] := by
  obtain ⟨t, ts, rfl⟩ := List.exists_cons_of_ne_nil hts
  rw [respell]
  split_ifs
  · exact h.ne_nil _
  · exact List.cons_ne_nil _ _

theorem replace_free_word (h : Puts new put) (hts : ts ≠ [])
    (ih : (Text.join " " ts).replace (' ' :: (w ++ " ")) new =
      Text.join " " (respell w put false ts)) :
    Text.replace (' ' :: Text.join " " (w :: ts)) (' ' :: (w ++ " ")) new =
      ' ' :: Text.join " " (put (respell w put false ts)) := by
  have hsplit : ' ' :: Text.join " " (w :: ts) = ' ' :: (w ++ " ") ++ Text.join " " ts := by
    rw [Text.join_blank w hts, List.cons_append, List.append_assoc]
    rfl
  rw [hsplit, Text.replace_occurrence (List.cons_ne_nil _ _), ih, h.join_eq (respell_ne_nil h hts)]

theorem replace_join (h : Puts new put) (hw : ' ' ∉ w) (hts : ∀ t ∈ ts, ' ' ∉ t) :
    (Text.join " " ts).replace (' ' :: (w ++ " ")) new = Text.join " " (respell w put false ts) ∧
      (ts ≠ [] → Text.replace (' ' :: Text.join " " ts) (' ' :: (w ++ " ")) new =
        ' ' :: Text.join " " (respell w put true ts)) := by
  induction ts with
  | nil => exact ⟨rfl, fun hne => absurd rfl hne⟩
  | cons t ts ih =>
    obtain ⟨ht, hts⟩ := List.forall_mem_cons.1 hts
    obtain ⟨ihused, ihfree⟩ := ih hts
    have hused : (Text.join " " (t :: ts)).replace (' ' :: (w ++ " ")) new =
        Text.join " " (t :: respell w put true ts) := by
      by_cases hne : ts = []
      · have hrep := Text.replace_append ht (w ++ " ") new []
        rw [List.append_nil] at hrep
        rw [hne, Text.join_one, hrep, respell, Text.join_one]
        exact List.append_nil t
      · rw [Text.join_blank t hne, Text.replace_append ht, ihfree hne,
          Text.join_blank t (respell_ne_nil h hne)]
    refine ⟨?_, fun _ => ?_⟩
    · rw [hused, respell, if_neg fun hc => Bool.false_ne_true hc.1]
    · by_cases hc : t = w ∧ ts ≠ []
      · obtain ⟨rfl, hne⟩ := hc
        rw [replace_free_word h hne ihused, respell, if_pos ⟨rfl, rfl, hne⟩]
      · have hp : ¬ ' ' :: (w ++ " ") <+: ' ' :: Text.join " " (t :: ts) := by
          intro hp
          obtain ⟨rest, hrest⟩ := (List.cons_prefix_cons.1 hp).2
          by_cases hne : ts = []
          · rw [hne, Text.join_one] at hrest
            exact ht (hrest ▸ List.mem_append_left _ (List.mem_append_right _ List.mem_cons_self))
          · rw [Text.join_blank t hne, List.append_assoc] at hrest
            exact hc ⟨(Text.eq_of_append_cons hrest hw ht).symm, hne⟩
        rw [Text.replace_cons hp, hused, respell, if_neg fun h => hc h.2]

theorem notMem_respell {c : Char} (w : Text) {sign : Text} (hs : c ∉ sign) (free : Bool)
    (hts : ∀ t ∈ ts, c ∉ t) : ∀ t ∈ respell w (sign :: ·) free ts, c ∉ t := by
  induction ts generalizing free with
  | nil => exact hts
  | cons t ts ih =>
    obtain ⟨ht, hts⟩ := List.forall_mem_cons.1 hts
    rw [respell]
    split_ifs
    · exact List.forall_mem_cons.2 ⟨hs, ih _ hts⟩
    · exact List.forall_mem_cons.2 ⟨ht, ih _ hts⟩

theorem javaOperators_join (hts : ∀ t ∈ ts, ' ' ∉ t) :
    javaOperators (Text.join " " ts) =
      Text.join " " (respell "not" negate false (respell "or" ("||".toList :: ·) false
        (respell "and" ("&&".toList :: ·) false ts))) := by
  have hsigns : ' ' ∉ "&&".toList ∧ ' ' ∉ "||".toList := by decide
  have hand := notMem_respell "and" hsigns.1 false hts
  have hor := notMem_respell "or" hsigns.2 false hand
  have first : (Text.join " " ts).replace " and " " && " = _ :=
    (replace_join (puts_sign "&&") (w := "and") (by decide) hts).1
  have second := (replace_join (puts_sign "||") (w := "or") (by decide) hand).1
  have third := (replace_join puts_negate (w := "not") (by decide) hor).1
  rw [javaOperators, first]
  refine Eq.trans ?_ third
  exact congrArg (Text.replace · " not " " !") second

section Counting

variable {p : Char → Bool}

theorem Puts.countP_put (h : Puts new put) (hp : p ' ' = false) (hnew : new.countP p = 0)
    (hts : ts ≠ []) : (Text.join " " (put ts)).countP p = (Text.join " " ts).countP p := by
  have hc := congrArg (List.countP p) (h.join_eq hts)
  rw [List.countP_append, hnew, Nat.zero_add,
    List.countP_cons_of_neg (Bool.eq_false_iff.1 hp)] at hc
  exact hc.symm

theorem countP_respell (h : Puts new put) (hp : p ' ' = false) (hnew : new.countP p = 0)
    (free : Bool) (ts : List Text) :
    (Text.join " " (respell w put free ts)).countP p + w.countP p * respelled w free ts =
      (Text.join " " ts).countP p := by
  induction ts generalizing free with
  | nil => rfl
  | cons t ts ih =>
    rw [respell, respelled, Text.countP_join hp]
    split_ifs with hc
    · rw [h.countP_put hp hnew (respell_ne_nil h hc.2.2), ← ih false, hc.2.1, Nat.mul_succ]
      omega
    · rw [Text.countP_join hp, ← ih true, Nat.add_assoc]

theorem countP_negate (hp : p ' ' = false) (hsign : p '!' = false) (ts : List Text) :
    (Text.join " " (negate ts)).countP p = (Text.join " " ts).countP p := by
  cases ts with
  | nil => exact List.countP_cons_of_neg (Bool.eq_false_iff.1 hsign)
  | cons t ts =>
    rw [negate, Text.countP_join hp, Text.countP_join hp,
      List.countP_cons_of_neg (Bool.eq_false_iff.1 hsign)]

theorem countP_javaTokens (hp : p ' ' = false) (hand : List.countP p "&&" = 0)
    (hor : List.countP p "||" = 0) (hnot : p '!' = false) (ts : List Text) :
    (Text.join " " (javaTokens ts)).countP p + List.countP p "and" * ts.count "and".toList +
        List.countP p "or" * ts.count "or".toList + List.countP p "not" * ts.count "not".toList =
      (Text.join " " ts).countP p := by
  induction ts with
  | nil => rfl
  | cons t ts ih =>
    rw [javaTokens, Text.countP_join hp, ← ih]
    split_ifs with h₁ h₂ h₃
    · rw [h₁, Text.countP_join hp, hand, List.count_cons_self, List.count_cons_of_ne (by decide),
        List.count_cons_of_ne (by decide), Nat.mul_succ]
      omega
    · rw [h₂, Text.countP_join hp, hor, List.count_cons_self, List.count_cons_of_ne (by decide),
        List.count_cons_of_ne (by decide), Nat.mul_succ]
      omega
    · rw [h₃, countP_negate hp hnot, List.count_cons_self, List.count_cons_of_ne (by decide),
        List.count_cons_of_ne (by decide), Nat.mul_succ]
      omega
    · rw [Text.countP_join hp, List.count_cons_of_ne h₁, List.count_cons_of_ne h₂,
        List.count_cons_of_ne h₃]
      omega

end Counting

theorem respelled_le (w : Text) (free : Bool) (ts : List Text) :
    respelled w free ts ≤ ts.count w := by
  induction ts generalizing free with
  | nil => exact Nat.le_refl 0
  | cons t ts ih =>
    rw [respelled, List.count_cons]
    split_ifs with hc ht ht
    · exact Nat.succ_le_succ (ih false)
    · exact absurd (beq_iff_eq.2 hc.2.1) ht
    · exact Nat.le_succ_of_le (ih true)
    · exact ih true

/-- A word that is neither first nor last nor behind a like word. -/
def IsInner (w : Text) (ts : List Text) : Prop :=
  ts.head? ≠ some w ∧ ts.getLast? ≠ some w ∧ ¬ [w, w] <:+: ts

instance (w : Text) (ts : List Text) : Decidable (IsInner w ts) :=
  inferInstanceAs (Decidable (_ ∧ _ ∧ _))

theorem pair_infix_cons {t : Text} : [w, w] <:+: t :: ts ↔
    t = w ∧ ts.head? = some w ∨ [w, w] <:+: ts := by
  rw [List.infix_cons_iff]
  refine or_congr_left ?_
  cases ts with
  | nil => simp
  | cons u ts => simp [eq_comm]

theorem getLast?_cons_eq {t : Text} (ht : t ≠ w) :
    (t :: ts).getLast? = some w ↔ ts.getLast? = some w := by
  cases ts with
  | nil => simp [ht]
  | cons u ts => rw [List.getLast?_cons_cons]

/-- All like words are replaced exactly if none of them lacks a blank. -/
theorem respelled_eq_count_iff (w : Text) (free : Bool) (ts : List Text) :
    respelled w free ts = ts.count w ↔
      (free = false → ts.head? ≠ some w) ∧ ts.getLast? ≠ some w ∧ ¬ [w, w] <:+: ts := by
  induction ts generalizing free with
  | nil => simp [respelled]
  | cons t ts ih =>
    rw [respelled, pair_infix_cons]
    by_cases ht : t = w
    · rw [ht, List.count_cons_self]
      by_cases hc : free = true ∧ ts ≠ []
      · obtain ⟨rfl, hne⟩ := hc
        rw [if_pos ⟨rfl, rfl, hne⟩, Nat.succ_inj, ih false, List.getLast?_cons_of_ne_nil hne]
        tauto
      · rw [if_neg fun h => hc ⟨h.1, h.2.2⟩]
        have hle := respelled_le w true ts
        constructor
        · intro h
          omega
        · rintro ⟨hhead, hlast, -⟩
          have hfree : free = true := by
            rw [← Bool.not_eq_false]
            exact fun h => hhead h rfl
          have hnil : ts = [] := by
            by_contra hne
            exact hc ⟨hfree, hne⟩
          rw [hnil] at hlast
          exact absurd rfl hlast
    · have hhead : (t :: ts).head? ≠ some w := fun h => ht (Option.some.inj h)
      have hlast : (t :: ts).getLast? = some w ↔ ts.getLast? = some w := getLast?_cons_eq ht
      rw [if_neg fun h => ht h.2.1, List.count_cons_of_ne ht, ih true]
      tauto

theorem isInner_iff : IsInner w ts ↔ respelled w false ts = ts.count w := by
  rw [respelled_eq_count_iff, IsInner, imp_iff_right rfl]

section Signs

variable {v : Text} (hv : v ≠ w) (hs : sign ≠ v)
include hv hs

theorem respelled_respell (used free : Bool) (ts : List Text) :
    respelled v used (respell w (sign :: ·) free ts) = respelled v used ts := by
  induction ts generalizing used free with
  | nil => rfl
  | cons t ts ih =>
    rw [respell]
    split_ifs with hc
    · rw [respelled, respelled, hc.2.1, if_neg fun h => hs h.2.1, if_neg fun h => hv h.2.1.symm, ih]
    · have hnil : respell w (sign :: ·) true ts ≠ [] ↔ ts ≠ [] := by
        refine ⟨?_, respell_ne_nil (puts_sign sign)⟩
        rintro h rfl
        exact h rfl
      rw [respelled, respelled, ih, ih]
      simp only [hnil]

theorem count_respell (free : Bool) (ts : List Text) :
    (respell w (sign :: ·) free ts).count v = ts.count v := by
  induction ts generalizing free with
  | nil => rfl
  | cons t ts ih =>
    rw [respell]
    split_ifs with hc
    · rw [List.count_cons_of_ne hs, hc.2.1, List.count_cons_of_ne hv.symm, ih]
    · rw [List.count_cons, List.count_cons, ih]

end Signs

/-- One kind of word replaced wherever it stands. -/
def respellAll (w : Text) (put : List Text → List Text) : List Text → List Text
  | [] => []
  | t :: ts => if t = w then put (respellAll w put ts) else t :: respellAll w put ts

theorem respell_eq_respellAll (put : List Text → List Text)
    (h : respelled w free ts = ts.count w) : respell w put free ts = respellAll w put ts := by
  induction ts generalizing free with
  | nil => rfl
  | cons t ts ih =>
    rw [respell, respellAll]
    rw [respelled] at h
    by_cases hc : free = true ∧ t = w ∧ ts ≠ []
    · rw [if_pos hc, hc.2.1, List.count_cons_self] at h
      rw [if_pos hc, if_pos hc.2.1, ih (Nat.succ_inj.1 h)]
    · rw [if_neg hc] at h
      have ht : t ≠ w := by
        intro ht
        have hle := respelled_le w true ts
        rw [ht, List.count_cons_self] at h
        omega
      rw [List.count_cons_of_ne ht] at h
      rw [if_neg hc, if_neg ht, ih h]

theorem javaTokens_eq (ts : List Text) : javaTokens ts =
    respellAll "not" negate
      (respellAll "or" ("||".toList :: ·) (respellAll "and" ("&&".toList :: ·) ts)) := by
  induction ts with
  | nil => rfl
  | cons t ts ih =>
    rw [javaTokens, respellAll]
    split_ifs with hand hor hnot
    · rw [respellAll, if_neg (by decide), respellAll, if_neg (by decide), ih]
    · rw [hor, respellAll, if_pos rfl, respellAll, if_neg (by decide), ih]
    · rw [hnot, respellAll, if_neg (by decide), respellAll, if_pos rfl, ih]
    · rw [respellAll, if_neg hor, respellAll, if_neg hnot, ih]

/-- The words that signs are written for. -/
def logicalWords : List Text := ["and", "or", "not"]

theorem mem_logicalWords :
    w ∈ logicalWords ↔ w = "and".toList ∨ w = "or".toList ∨ w = "not".toList := by
  simp [logicalWords]

theorem notMem_negate (hw : w.head? ≠ some '!') (hts : w ∉ ts) : w ∉ negate ts := by
  cases ts with
  | nil =>
    rw [negate, List.mem_singleton]
    rintro rfl
    exact hw rfl
  | cons t ts =>
    rw [negate, List.mem_cons, not_or]
    refine ⟨?_, List.not_mem_of_not_mem_cons hts⟩
    rintro rfl
    exact hw rfl

theorem notMem_javaTokens (hw : w ∈ logicalWords) (ts : List Text) : w ∉ javaTokens ts := by
  have hwords : ∀ w ∈ logicalWords, w ≠ "&&" ∧ w ≠ "||" ∧ w.head? ≠ some '!' := by decide
  obtain ⟨hand, hor, hnot⟩ := hwords w hw
  induction ts with
  | nil => exact List.not_mem_nil
  | cons t ts ih =>
    rw [javaTokens]
    split_ifs with h₁ h₂ h₃
    · exact List.not_mem_cons_of_ne_of_not_mem hand ih
    · exact List.not_mem_cons_of_ne_of_not_mem hor ih
    · exact notMem_negate hnot ih
    · refine List.not_mem_cons_of_ne_of_not_mem ?_ ih
      rintro rfl
      rcases mem_logicalWords.1 hw with h | h | h
      · exact h₁ h
      · exact h₂ h
      · exact h₃ h

/-- The operators of a condition of words are the signs for all its words exactly if every word has
its blanks. -/
theorem javaOperators_join_eq_iff (hts : ∀ t ∈ ts, ' ' ∉ t) :
    javaOperators (Text.join " " ts) = Text.join " " (javaTokens ts) ↔
      ∀ w ∈ logicalWords, IsInner w ts := by
  have hall : (∀ w ∈ logicalWords, IsInner w ts) ↔
      IsInner "and" ts ∧ IsInner "or" ts ∧ IsInner "not" ts := by
    simp [logicalWords]
  rw [javaOperators_join hts, hall, isInner_iff, isInner_iff, isInner_iff]
  generalize hfirst : respell "and" ("&&".toList :: ·) false ts = first
  generalize hsecond : respell "or" ("||".toList :: ·) false first = second
  have hor (used : Bool) : respelled "or" used first = respelled "or" used ts := by
    rw [← hfirst, respelled_respell (by decide) (by decide)]
  have hnot (used : Bool) : respelled "not" used second = respelled "not" used ts := by
    rw [← hsecond, respelled_respell (by decide) (by decide), ← hfirst,
      respelled_respell (by decide) (by decide)]
  constructor
  · intro h
    have hletters := countP_javaTokens (p := Char.isAlpha) rfl rfl rfl rfl ts
    have hthird := countP_respell (w := "not") puts_negate (p := Char.isAlpha) rfl rfl false second
    have hmiddle := countP_respell (w := "or") (puts_sign "||") (p := Char.isAlpha) rfl rfl false
      first
    have hstart := countP_respell (w := "and") (puts_sign "&&") (p := Char.isAlpha) rfl rfl false ts
    rw [h, hnot] at hthird
    rw [hsecond, hor] at hmiddle
    rw [hfirst] at hstart
    have hthree : List.countP Char.isAlpha "and".toList = 3 := rfl
    have htwo : List.countP Char.isAlpha "or".toList = 2 := rfl
    have hnotThree : List.countP Char.isAlpha "not".toList = 3 := rfl
    have hle₁ := respelled_le "and" false ts
    have hle₂ := respelled_le "or" false ts
    have hle₃ := respelled_le "not" false ts
    rw [hthree] at hletters hstart
    rw [htwo] at hletters hmiddle
    rw [hnotThree] at hletters hthird
    omega
  · rintro ⟨h₁, h₂, h₃⟩
    have hcount₂ : respelled "or" false first = first.count "or".toList := by
      rw [hor, h₂, ← hfirst, count_respell (by decide) (by decide)]
    have hcount₃ : respelled "not" false second = second.count "not".toList := by
      rw [hnot, h₃, ← hsecond, count_respell (by decide) (by decide), ← hfirst,
        count_respell (by decide) (by decide)]
    rw [respell_eq_respellAll _ hcount₃, ← hsecond, respell_eq_respellAll _ hcount₂, ← hfirst,
      respell_eq_respellAll _ h₁, javaTokens_eq]

theorem countP_colon_javaOperators (c : Text) :
    (javaOperators c).countP (· == ':') = c.countP (· == ':') := by
  rw [javaOperators, Text.countP_replace (by decide) rfl rfl,
    Text.countP_replace (by decide) rfl rfl, Text.countP_replace (by decide) rfl rfl]

theorem javaOperators_colon (h : Text.endsWith (Text.join " " ts) ":" = true) :
    javaOperators ((Text.join " " ts).dropEndWhile (· == ':')) ≠ Text.join " " (javaTokens ts) := by
  intro he
  have htokens := countP_javaTokens (p := (· == ':')) rfl rfl rfl rfl ts
  rw [← he, countP_colon_javaOperators] at htokens
  obtain ⟨front, hfront⟩ : ∃ front : Text, front ++ ":" = Text.join " " ts :=
    List.isSuffixOf_iff_suffix.1 h
  have hdrop : (Text.join " " ts).dropEndWhile (· == ':') = front.dropEndWhile (· == ':') := by
    rw [← hfront, Text.dropEndWhile, Text.dropEndWhile, List.reverse_append]
    rfl
  have hle : List.countP (· == ':') (front.dropEndWhile (· == ':')) ≤ front.countP (· == ':') :=
    (Text.dropEndWhile_isPrefix _ front).sublist.countP_le
  have hone : List.countP (· == ':') ":".toList = 1 := rfl
  have hand : List.countP (· == ':') "and".toList = 0 := rfl
  have hor : List.countP (· == ':') "or".toList = 0 := rfl
  have hnot : List.countP (· == ':') "not".toList = 0 := rfl
  rw [hdrop, ← hfront, List.countP_append, hone, hand, hor, hnot] at htokens
  omega

/-- Signs come for all logical words of a condition, and all else is kept, exactly if the line is
not misread, the condition does not end in a colon and each logical word has a blank of its own on
either side. -/
theorem signs_for_words_iff (hts : ∀ t ∈ ts, IsUnbroken t) :
    (convert .current ("if " ++ Text.join " " ts ++ ":") =
        .ok ("if (" ++ Text.join " " (javaTokens ts) ++ ") \x7b") ↔
      isMisread (Text.join " " ts) = false ∧ (Text.join " " ts).endsWith ":" = false ∧
        ∀ w ∈ (["and", "or", "not"] : List Text), IsInner w ts) ∧
      ∀ w ∈ (["and", "or", "not"] : List Text), w ∉ javaTokens ts := by
  have hshape : ("if " : Text) ++ Text.join " " ts ++ ":" =
      "if" ++ ' ' :: (Text.join " " ts ++ ":") := List.append_assoc _ _ _
  have hif : "if".toList ∈ blockWords := by decide
  have htrim : (Text.join " " ts).trim = Text.join " " ts := by
    by_cases hne : ts = []
    · rw [hne]
      rfl
    · exact Text.trim_words hts
  have hblank : ∀ t ∈ ts, ' ' ∉ t := fun t ht => (hts t ht).notMem rfl
  refine ⟨?_, fun w hw => notMem_javaTokens hw ts⟩
  rw [hshape]
  cases hm : isMisread (Text.join " " ts) with
  | true =>
    refine ⟨fun h => ?_, fun h => absurd h.1 (by decide)⟩
    have hlast := getLast?_misread hif htrim hm h
    rw [List.getLast?_append] at hlast
    cases hlast
  | false =>
    have hcancel {x y : Text} : (.ok ("if" ++ " (" ++ x ++ ") \x7b") : Except Fault Text) =
        .ok ("if (" ++ y ++ ") \x7b") ↔ x = y := by
      rw [Except.ok.injEq, List.append_left_inj]
      exact List.append_right_inj "if (".toList
    rw [convert_condition hif htrim hm, hcancel]
    cases hcolon : (Text.join " " ts).endsWith ":" with
    | true =>
      exact iff_of_false (fun h => javaOperators_colon hcolon h) fun h => absurd h.2.1 (by decide)
    | false =>
      rw [dropEndWhile_colon hcolon, javaOperators_join_eq_iff hblank]
      exact ⟨fun h => ⟨rfl, rfl, h⟩, fun h => h.2.2⟩

theorem signs_for_words_leading_not :
    convert .current ("if " ++ Text.join " " ["not", "done"] ++ ":") ≠
        .ok ("if (" ++ Text.join " " ["!done"] ++ ") \x7b") ∧
      convert .current ("if " ++ Text.join " " ["a", "and", "not", "b"] ++ ":") =
        .ok ("if (" ++ Text.join " " ["a", "&&", "!b"] ++ ") \x7b") := by
  have hone : ∀ t ∈ (["not", "done"] : List Text), IsUnbroken t :=
    List.forall_mem_cons.2 ⟨⟨by decide, rfl⟩, List.forall_mem_singleton.2 ⟨by decide, rfl⟩⟩
  have htwo : ∀ t ∈ (["a", "and", "not", "b"] : List Text), IsUnbroken t := by
    simp only [List.forall_mem_cons]
    exact ⟨⟨by decide, rfl⟩, ⟨by decide, rfl⟩, ⟨by decide, rfl⟩, ⟨by decide, rfl⟩, by simp⟩
  constructor
  · intro h
    have hinner := ((signs_for_words_iff hone).1.1 h).2.2 "not" (by decide)
    exact absurd hinner (by decide)
  · exact (signs_for_words_iff htwo).1.2 (by decide +kernel)

end Statement

end JavaSketch
