import JavaSketch.Java.Class
import JavaSketch.Proofs.CommentMarks
import JavaSketch.Proofs.SpokenWords
import JavaSketch.Template.Header

namespace JavaSketch

namespace Text

variable {word first next : Text} {front back rest ws : List Text}

theorem join_append_words (first next : Text) (front back : List Text) :
    join " " (first :: (front ++ next :: back)) =
      join " " (first :: front) ++ ' ' :: join " " (next :: back) := by
  rw [join_words, join_words, join_words, List.flatMap_append, List.flatMap_cons,
    List.append_assoc, List.cons_append]

theorem join_within (front : List Text) (hws : ws ≠ []) (back : List Text) :
    join " " (front ++ join " " ws :: back) = join " " (front ++ (ws ++ back)) := by
  obtain ⟨first, rest, rfl⟩ := List.exists_cons_of_ne_nil hws
  have hleft : join " " (join " " (first :: rest) :: back) = join " " (first :: rest ++ back) := by
    cases back with
    | nil => rw [join_one, List.append_nil]
    | cons next back =>
      rw [join_blank_cons, List.cons_append, join_append_words]
  cases front with
  | nil => exact hleft
  | cons f front =>
    rw [List.cons_append, List.cons_append, List.cons_append, join_append_words,
      join_append_words, hleft, List.cons_append]

theorem cut?_words_some (hw : ' ' ∉ word) (hfirst : ' ' ∉ first)
    (hfront : ∀ w ∈ front, ' ' ∉ w ∧ w ≠ word) (next : Text) (back : List Text) :
    cut? (' ' :: (word ++ [' '])) (join " " (first :: (front ++ word :: next :: back))) =
      some (join " " (first :: front), join " " (next :: back)) := by
  have hcut : cut? (' ' :: (word ++ [' ']))
      (front.flatMap (' ' :: ·) ++ ' ' :: (word ++ ' ' :: join " " (next :: back))) =
      some (front.flatMap (' ' :: ·), join " " (next :: back)) := cut?_words hw hfront
  have hline : (front ++ word :: next :: back).flatMap (' ' :: ·) =
      front.flatMap (' ' :: ·) ++ ' ' :: (word ++ ' ' :: join " " (next :: back)) := by
    rw [join_words, List.flatMap_append, List.flatMap_cons, List.flatMap_cons]
    rfl
  rw [join_words, cut?_append hfirst, hline, hcut, Option.map_some, join_words first front]

theorem drop_word (first next : Text) (back : List Text) :
    trim ((join " " (first :: next :: back)).drop first.length) =
      (join " " (next :: back)).trim := by
  have hblank : ∀ c ∈ [' '], isBlank c = true := List.all_eq_true.1 rfl
  rw [join_blank_cons, List.drop_left]
  exact trim_append hblank

/-- A line of words starts with a word and a blank if it is its first word, and not the only one. -/
theorem startsWith_words (hw : ' ' ∉ word) (hfirst : ' ' ∉ first) (next : Text)
    (back : List Text) :
    (join " " (first :: next :: back)).startsWith (word ++ " ") = (word == first) := by
  rw [join_blank_cons, Bool.eq_iff_iff, beq_iff_eq, startsWith,
    List.isPrefixOf_iff_prefix]
  constructor
  · rintro ⟨after, ha⟩
    rw [List.append_assoc] at ha
    exact eq_of_append_cons ha hw hfirst
  · rintro rfl
    exact ⟨join " " (next :: back), List.append_assoc _ _ _⟩

end Text

/-- The words of a header are told apart: they have neither blanks nor commas, no word is for
parents and for interfaces, and `class` does not say that a template is abstract. -/
structure Vocabulary.Legible (v : Vocabulary) : Prop where
  abstracts : ∀ w ∈ v.abstractWords, ' ' ∉ w
  parents : ∀ w ∈ v.parentWords, IsUnbroken w ∧ ',' ∉ w
  interfaces : ∀ w ∈ v.interfaceWords, IsUnbroken w ∧ ',' ∉ w
  apart : ∀ w ∈ v.parentWords, w ∉ v.interfaceWords
  class_notMem : "class".toList ∉ v.abstractWords

theorem Vocabulary.standard_legible : standard.Legible where
  abstracts := by decide
  parents := by
    have h : ∀ w ∈ standard.parentWords, (w ≠ [] ∧ w.all (!isBlank ·) = true) ∧ ',' ∉ w := by decide
    exact fun w hw => ⟨⟨(h w hw).1.1, (h w hw).1.2⟩, (h w hw).2⟩
  interfaces := by
    have h : ∀ w ∈ standard.interfaceWords, (w ≠ [] ∧ w.all (!isBlank ·) = true) ∧ ',' ∉ w := by
      decide
    exact fun w hw => ⟨⟨(h w hw).1.1, (h w hw).1.2⟩, (h w hw).2⟩
  apart := by decide
  class_notMem := by decide

/-- A name that begins no clause. -/
structure Vocabulary.Names (v : Vocabulary) (w : Text) : Prop extends IsName w where
  not_parent : w ∉ v.parentWords
  not_interface : w ∉ v.interfaceWords

namespace Header

/-- The words of a list: a comma stands behind each member but the last. -/
def listWords : List Text → List Text
  | [] => []
  | [i] => [i]
  | i :: j :: is => (i ++ [',']) :: listWords (j :: is)

variable {v : Vocabulary} {words : List Text} {word first next parent name e j : Text}
  {front back rest is : List Text}

theorem mem_listWords {w : Text} (h : w ∈ listWords is) :
    ∃ i ∈ is, w = i ∨ w = i ++ [','] := by
  induction is with
  | nil => cases h
  | cons i is ih =>
    cases is with
    | nil =>
      rw [List.mem_singleton.1 h]
      exact ⟨i, List.mem_cons_self, .inl rfl⟩
    | cons j is =>
      rcases List.mem_cons.1 h with rfl | h
      · exact ⟨i, List.mem_cons_self, .inr rfl⟩
      · obtain ⟨k, hk, hw⟩ := ih h
        exact ⟨k, List.mem_cons_of_mem _ hk, hw⟩

theorem listWords_ne_nil (h : is ≠ []) : listWords is ≠ [] := by
  cases is with
  | nil => exact absurd rfl h
  | cons i is =>
    cases is with
    | nil => exact List.cons_ne_nil _ _
    | cons j is => exact List.cons_ne_nil _ _

theorem join_listWords (is : List Text) : Text.join " " (listWords is) = Text.join ", " is := by
  induction is with
  | nil => rfl
  | cons i is ih =>
    cases is with
    | nil => rfl
    | cons j is =>
      have hne := listWords_ne_nil (List.cons_ne_nil j is)
      rw [listWords, Text.join_blank _ hne, ih, Text.join_cons, Text.join_cons, List.flatMap_cons,
        List.append_assoc]
      rfl

theorem commaList_join (h : ∀ i ∈ is, IsUnbroken i ∧ ',' ∉ i) (hne : is ≠ []) :
    commaList (Text.join ", " is) = is := by
  obtain ⟨i, rest, rfl⟩ := List.exists_cons_of_ne_nil hne
  exact Text.map_trim_splitAt_join fun k hk => ⟨(h k hk).1.trim_eq, (h k hk).2⟩

theorem clause?_none (hwords : ∀ w ∈ words, ' ' ∉ w) (h : ∀ w ∈ first :: rest, ' ' ∉ w)
    (hne : ∀ w ∈ rest.dropLast, w ∉ words) :
    clause? words (Text.join " " (first :: rest)) = none := by
  rw [clause?, Option.map_eq_none_iff, List.findSome?_eq_none_iff]
  intro word hword
  apply Text.cut?_words_none (hwords word hword) h
  intro w hw
  rintro rfl
  exact hne w hw hword

theorem clause?_some (hwords : ∀ w ∈ words, ' ' ∉ w) (hword : word ∈ words)
    (h : ∀ w ∈ first :: (front ++ word :: next :: back), IsUnbroken w)
    (hfront : ∀ w ∈ front, w ∉ words) (hback : ∀ w ∈ (next :: back).dropLast, w ∉ words) :
    clause? words (Text.join " " (first :: (front ++ word :: next :: back))) =
      some (Text.join " " (first :: front), Text.join " " (next :: back)) := by
  have hspace : ∀ w ∈ first :: (front ++ word :: next :: back), ' ' ∉ w :=
    fun w hw => (h w hw).notMem rfl
  have hinner : (front ++ word :: next :: back).dropLast =
      front ++ word :: (next :: back).dropLast := by
    rw [List.dropLast_append_of_ne_nil (List.cons_ne_nil _ _), List.dropLast_cons_cons]
  have hothers : ∀ w ∈ words, w ≠ word → Text.cut? (" " ++ w ++ " ")
      (Text.join " " (first :: (front ++ word :: next :: back))) = none := by
    intro w hw hne
    apply Text.cut?_words_none (hwords w hw) hspace
    rw [hinner]
    intro u hu
    rcases List.mem_append.1 hu with hu | hu
    · rintro rfl
      exact hfront u hu hw
    · rcases List.mem_cons.1 hu with rfl | hu
      · exact hne.symm
      · rintro rfl
        exact hback u hu hw
  have hfronts : ∀ w ∈ front, ' ' ∉ w ∧ w ≠ word := by
    intro w hw
    refine ⟨hspace w (List.mem_cons_of_mem _ (List.mem_append_left _ hw)), ?_⟩
    rintro rfl
    exact hfront w hw hword
  have hcut : Text.cut? (" " ++ word ++ " ")
      (Text.join " " (first :: (front ++ word :: next :: back))) =
      some (Text.join " " (first :: front), Text.join " " (next :: back)) :=
    Text.cut?_words_some (hwords word hword) (hspace first List.mem_cons_self) hfronts next back
  have hbefore : ∀ w ∈ first :: front, IsUnbroken w :=
    fun w hw => h w (List.mem_append_left (word :: next :: back) hw)
  have hafter : ∀ w ∈ next :: back, IsUnbroken w := by
    intro w hw
    exact h w (List.mem_cons_of_mem _ (List.mem_append_right _ (List.mem_cons_of_mem _ hw)))
  rw [clause?, findSome?_of_only hword hothers, hcut, Option.map_some]
  dsimp only
  rw [Text.trim_words hbefore, Text.trim_words hafter]

section Clauses

variable (hv : v.Legible)
include hv

theorem clauses_none (h : ∀ w ∈ first :: rest, IsUnbroken w)
    (hne : ∀ w ∈ rest.dropLast, w ∉ v.parentWords ∧ w ∉ v.interfaceWords) :
    clauses v (Text.join " " (first :: rest)) = (none, []) := by
  have hspace : ∀ w ∈ first :: rest, ' ' ∉ w := fun w hw => (h w hw).notMem rfl
  have hparent : clause? v.parentWords (Text.join " " (first :: rest)) = none :=
    clause?_none (fun w hw => (hv.parents w hw).1.notMem rfl) hspace fun w hw => (hne w hw).1
  have hinterface : clause? v.interfaceWords (Text.join " " (first :: rest)) = none :=
    clause?_none (fun w hw => (hv.interfaces w hw).1.notMem rfl) hspace fun w hw => (hne w hw).2
  rw [clauses, hparent]
  dsimp only
  rw [hinterface]

theorem clauses_parent (he : e ∈ v.parentWords) (h : ∀ w ∈ first :: front, IsUnbroken w)
    (hfront : ∀ w ∈ front, w ∉ v.parentWords) (hparent : IsUnbroken parent) :
    clauses v (Text.join " " (first :: (front ++ [e, parent]))) = (some parent, []) := by
  have hall : ∀ w ∈ first :: (front ++ [e, parent]), IsUnbroken w := by
    rw [← List.cons_append]
    refine List.forall_mem_append.2 ⟨h, List.forall_mem_cons.2 ⟨(hv.parents e he).1, ?_⟩⟩
    exact List.forall_mem_singleton.2 hparent
  have hcut : clause? v.parentWords (Text.join " " (first :: (front ++ [e, parent]))) =
      some (Text.join " " (first :: front), Text.join " " [parent]) :=
    clause?_some (fun w hw => (hv.parents w hw).1.notMem rfl) he hall hfront (List.forall_mem_nil _)
  have hlast : clause? v.interfaceWords (Text.join " " [parent]) = none :=
    clause?_none (fun w hw => (hv.interfaces w hw).1.notMem rfl)
      (List.forall_mem_singleton.2 (hparent.notMem rfl)) (List.forall_mem_nil _)
  obtain ⟨c, name, rfl⟩ := List.exists_cons_of_ne_nil hparent.ne_nil
  rw [clauses, hcut]
  dsimp only
  rw [hlast, Text.join_one]

theorem listWords_names (h : ∀ i ∈ is, v.Names i) : ∀ w ∈ listWords is,
    IsUnbroken w ∧ w ∉ v.parentWords ∧ w ∉ v.interfaceWords := by
  intro w hw
  obtain ⟨i, hi, he | rfl⟩ := mem_listWords hw
  · rw [he]
    exact ⟨(h i hi).isUnbroken, (h i hi).not_parent, (h i hi).not_interface⟩
  · have hcomma : ',' ∈ i ++ [','] := List.mem_append_right _ List.mem_cons_self
    refine ⟨⟨List.append_ne_nil_of_right_ne_nil _ (List.cons_ne_nil _ _), ?_⟩, ?_, ?_⟩
    · rw [List.all_append, (h i hi).isUnbroken.chars]
      rfl
    · exact fun hm => (hv.parents _ hm).2 hcomma
    · exact fun hm => (hv.interfaces _ hm).2 hcomma

theorem clauses_both (he : e ∈ v.parentWords) (hj : j ∈ v.interfaceWords)
    (h : ∀ w ∈ first :: front, IsUnbroken w) (hfront : ∀ w ∈ front, w ∉ v.parentWords)
    (hparent : v.Names parent) (his : ∀ i ∈ is, v.Names i) (hne : is ≠ []) :
    clauses v (Text.join " " (first :: (front ++ e :: parent :: j :: listWords is))) =
      (some parent, is) := by
  have hwords := listWords_names hv his
  have hlist := join_listWords is
  obtain ⟨next, back, hback⟩ := List.exists_cons_of_ne_nil (listWords_ne_nil hne)
  rw [hback] at hwords hlist ⊢
  have hafter : ∀ w ∈ parent :: j :: next :: back, IsUnbroken w ∧ w ∉ v.parentWords := by
    refine List.forall_mem_cons.2 ⟨⟨hparent.isUnbroken, hparent.not_parent⟩, ?_⟩
    refine List.forall_mem_cons.2 ⟨⟨(hv.interfaces j hj).1, fun hm => hv.apart j hm hj⟩, ?_⟩
    exact fun w hw => ⟨(hwords w hw).1, (hwords w hw).2.1⟩
  have hall : ∀ w ∈ first :: (front ++ e :: parent :: j :: next :: back), IsUnbroken w := by
    rw [← List.cons_append]
    refine List.forall_mem_append.2 ⟨h, List.forall_mem_cons.2 ⟨(hv.parents e he).1, ?_⟩⟩
    exact fun w hw => (hafter w hw).1
  have hcut : clause? v.parentWords
      (Text.join " " (first :: (front ++ e :: parent :: j :: next :: back))) =
      some (Text.join " " (first :: front), Text.join " " (parent :: j :: next :: back)) :=
    clause?_some (fun w hw => (hv.parents w hw).1.notMem rfl) he hall hfront
      fun w hw => (hafter w (List.mem_of_mem_dropLast hw)).2
  have hinner : clause? v.interfaceWords (Text.join " " (parent :: j :: next :: back)) =
      some (Text.join " " [parent], Text.join " " (next :: back)) := by
    rw [← List.nil_append (j :: next :: back)]
    apply clause?_some (fun w hw => (hv.interfaces w hw).1.notMem rfl) hj
    · exact fun w hw => (hafter w hw).1
    · exact List.forall_mem_nil _
    · exact fun w hw => (hwords w (List.mem_of_mem_dropLast hw)).2.2
  have hcomma : commaList (Text.join ", " is) = is :=
    commaList_join (fun i hi => ⟨(his i hi).isUnbroken, (his i hi).notMem rfl⟩) hne
  obtain ⟨c, name, rfl⟩ := List.exists_cons_of_ne_nil hparent.ne_nil
  rw [clauses, hcut]
  dsimp only
  rw [hinner, Text.join_one, hlist]
  dsimp only
  rw [hcomma]

theorem clauses_interfaces (hj : j ∈ v.interfaceWords) (h : ∀ w ∈ first :: front, IsUnbroken w)
    (hfront : ∀ w ∈ front, w ∉ v.parentWords ∧ w ∉ v.interfaceWords)
    (his : ∀ i ∈ is, v.Names i) (hne : is ≠ []) :
    clauses v (Text.join " " (first :: (front ++ j :: listWords is))) = (none, is) := by
  have hwords := listWords_names hv his
  have hlist := join_listWords is
  obtain ⟨next, back, hback⟩ := List.exists_cons_of_ne_nil (listWords_ne_nil hne)
  rw [hback] at hwords hlist ⊢
  have hall : ∀ w ∈ first :: (front ++ j :: next :: back), IsUnbroken w := by
    rw [← List.cons_append]
    refine List.forall_mem_append.2 ⟨h, List.forall_mem_cons.2 ⟨(hv.interfaces j hj).1, ?_⟩⟩
    exact fun w hw => (hwords w hw).1
  have hparent : clause? v.parentWords
      (Text.join " " (first :: (front ++ j :: next :: back))) = none := by
    apply clause?_none (fun w hw => (hv.parents w hw).1.notMem rfl)
    · exact fun w hw => (hall w hw).notMem rfl
    · intro w hw
      rcases List.mem_append.1 (List.mem_of_mem_dropLast hw) with hw | hw
      · exact (hfront w hw).1
      · rcases List.mem_cons.1 hw with rfl | hw
        · exact fun hm => hv.apart w hm hj
        · exact (hwords w hw).2.1
  have hcut : clause? v.interfaceWords
      (Text.join " " (first :: (front ++ j :: next :: back))) =
      some (Text.join " " (first :: front), Text.join " " (next :: back)) := by
    apply clause?_some (fun w hw => (hv.interfaces w hw).1.notMem rfl) hj hall
    · exact fun w hw => (hfront w hw).2
    · exact fun w hw => (hwords w (List.mem_of_mem_dropLast hw)).2.2
  have hcomma : commaList (Text.join ", " is) = is :=
    commaList_join (fun i hi => ⟨(his i hi).isUnbroken, (his i hi).notMem rfl⟩) hne
  rw [clauses, hparent]
  dsimp only
  rw [hcut, hlist]
  dsimp only
  rw [hcomma]

end Clauses

theorem dropAbstract_words (hv : ∀ w ∈ v.abstractWords, ' ' ∉ w)
    (h : ∀ w ∈ first :: next :: back, IsUnbroken w) :
    dropAbstract v (Text.join " " (first :: next :: back)) =
      if first ∈ v.abstractWords then (true, Text.join " " (next :: back))
      else (false, Text.join " " (first :: next :: back)) := by
  obtain ⟨hfirst, hrest⟩ := List.forall_mem_cons.1 h
  have hstarts : ∀ w ∈ v.abstractWords,
      (Text.join " " (first :: next :: back)).startsWith (w ++ " ") = (w == first) :=
    fun w hw => Text.startsWith_words (hv w hw) (hfirst.notMem rfl) next back
  rw [dropAbstract]
  cases hf : v.abstractWords.find? fun w =>
      (Text.join " " (first :: next :: back)).startsWith (w ++ " ") with
  | some w =>
    have hw := List.mem_of_find?_eq_some hf
    have hfound := List.find?_some hf
    rw [hstarts w hw, beq_iff_eq] at hfound
    rw [← hfound, if_pos hw]
    exact congrArg (Prod.mk true) ((Text.drop_word w next back).trans (Text.trim_words hrest))
  | none =>
    have hnone := List.find?_eq_none.1 hf
    rw [if_neg]
    intro hm
    apply hnone first hm
    rw [hstarts first hm, beq_self_eq_true]

theorem dropInterface_words (h : ∀ w ∈ first :: next :: back, IsUnbroken w) :
    dropInterface (Text.join " " (first :: next :: back)) =
      if "interface" = first then (true, Text.join " " (next :: back))
      else (false, Text.join " " (first :: next :: back)) := by
  obtain ⟨hfirst, hrest⟩ := List.forall_mem_cons.1 h
  have hword : ' ' ∉ "interface".toList := by decide
  have hstarts : (Text.join " " (first :: next :: back)).startsWith "interface " =
      ("interface".toList == first) :=
    Text.startsWith_words hword (hfirst.notMem rfl) next back
  rw [dropInterface, hstarts]
  by_cases hi : "interface".toList = first
  · have hdrop : (Text.join " " (first :: next :: back)).drop 10 =
        Text.join " " (next :: back) := by
      rw [← hi, Text.join_blank_cons]
      rfl
    rw [if_pos (beq_iff_eq.2 hi), if_pos hi, hdrop, Text.trim_words hrest]
  · rw [if_neg (by rwa [beq_iff_eq]), if_neg hi]

theorem read_class {parent? : Option Text} (hv : v.Legible)
    (h : ∀ w ∈ name :: rest, IsUnbroken w)
    (hc : clauses v (Text.join " " ("class" :: name :: rest)) = (parent?, is)) :
    read v (Text.join " " ("class" :: name :: rest)) =
      { parent := parent?, interfaces := is } := by
  have hall : ∀ w ∈ "class".toList :: name :: rest, IsUnbroken w :=
    List.forall_mem_cons.2 ⟨⟨by decide, rfl⟩, h⟩
  rw [read, Text.trim_words hall, dropAbstract_words hv.abstracts hall,
    if_neg hv.class_notMem]
  dsimp only
  rw [dropInterface_words hall, if_neg (by decide)]
  dsimp only
  rw [hc]

end Header

namespace Java

/-- The words in front of the name of a class. -/
def kindWords (t : Template) : List Text :=
  if t.isInterface then ["interface"] else if t.isAbstract then ["abstract", "class"] else ["class"]

def parentWords : Option Text → List Text
  | none => []
  | some parent => ["extends", parent]

def interfaceWords : List Text → List Text
  | [] => []
  | i :: is => "implements" :: Header.listWords (i :: is)

theorem classHeader_words {t : Template} (h : ∀ p ∈ t.parent, p ≠ []) :
    classHeader t = Text.join " "
      (kindWords t ++ t.name :: (parentWords t.parent ++ interfaceWords t.interfaces)) := by
  have hkind : (if t.isInterface then "interface".toList
      else if t.isAbstract then "abstract class".toList else "class".toList) =
      Text.join " " (kindWords t) := by
    rw [kindWords]
    split_ifs <;> rfl
  have hne : kindWords t ≠ [] := by
    rw [kindWords]
    split_ifs <;> exact List.cons_ne_nil _ _
  have hlist (front : List Text) : Text.join " " (front ++ if t.interfaces.isEmpty then []
      else ["implements".toList, Text.join ", " t.interfaces]) =
      Text.join " " (front ++ interfaceWords t.interfaces) := by
    cases t.interfaces with
    | nil => rfl
    | cons i is =>
      have hwords := Text.join_within (front ++ ["implements".toList])
        (Header.listWords_ne_nil (List.cons_ne_nil i is)) []
      rw [List.append_nil, Header.join_listWords, List.append_assoc, List.append_assoc] at hwords
      exact hwords
  rw [classHeader, hkind, hlist]
  cases hp : t.parent with
  | none => exact Text.join_within [] hne _
  | some p =>
    obtain ⟨c, p, rfl⟩ := List.exists_cons_of_ne_nil (h p hp)
    exact Text.join_within [] hne _

end Java

namespace Header

theorem clauses_javaWords {t : Template} (h : ∀ w ∈ first :: front, IsUnbroken w)
    (hfront : ∀ w ∈ front, Vocabulary.standard.Names w)
    (hparent : ∀ p ∈ t.parent, Vocabulary.standard.Names p)
    (his : ∀ i ∈ t.interfaces, Vocabulary.standard.Names i) :
    clauses Vocabulary.standard (Text.join " " (first :: (front ++
      (Java.parentWords t.parent ++ Java.interfaceWords t.interfaces)))) =
      (t.parent, t.interfaces) := by
  have hv := Vocabulary.standard_legible
  have hnone : ∀ w ∈ front, w ∉ Vocabulary.standard.parentWords ∧
      w ∉ Vocabulary.standard.interfaceWords :=
    fun w hw => ⟨(hfront w hw).not_parent, (hfront w hw).not_interface⟩
  cases hp : t.parent with
  | none =>
    cases hi : t.interfaces with
    | nil =>
      rw [Java.parentWords, Java.interfaceWords, List.append_nil, List.append_nil]
      exact clauses_none hv h fun w hw => hnone w (List.mem_of_mem_dropLast hw)
    | cons i is =>
      rw [hi] at his
      exact clauses_interfaces hv List.mem_cons_self h hnone his (List.cons_ne_nil i is)
  | some p =>
    have hname := hparent p hp
    cases hi : t.interfaces with
    | nil =>
      exact clauses_parent hv List.mem_cons_self h (fun w hw => (hnone w hw).1) hname.isUnbroken
    | cons i is =>
      rw [hi] at his
      exact clauses_both hv List.mem_cons_self List.mem_cons_self h (fun w hw => (hnone w hw).1)
        hname his (List.cons_ne_nil i is)

theorem javaWords_unbroken {t : Template} (hparent : ∀ p ∈ t.parent, Vocabulary.standard.Names p)
    (his : ∀ i ∈ t.interfaces, Vocabulary.standard.Names i) :
    ∀ w ∈ Java.parentWords t.parent ++ Java.interfaceWords t.interfaces, IsUnbroken w := by
  refine List.forall_mem_append.2 ⟨?_, ?_⟩
  · cases hp : t.parent with
    | none => exact List.forall_mem_nil _
    | some p =>
      exact List.forall_mem_cons.2 ⟨⟨by decide, rfl⟩,
        List.forall_mem_singleton.2 (hparent p hp).isUnbroken⟩
  · cases hi : t.interfaces with
    | nil => exact List.forall_mem_nil _
    | cons i is =>
      rw [hi] at his
      exact List.forall_mem_cons.2 ⟨⟨by decide, rfl⟩,
        fun w hw => (listWords_names Vocabulary.standard_legible his w hw).1⟩

/-- Reading the header of a class gives back what it was written from: whether it is abstract or an
interface, its parent and its interfaces. -/
theorem read_classHeader (t : Template) (hname : Vocabulary.standard.Names t.name)
    (hparent : ∀ p ∈ t.parent, Vocabulary.standard.Names p)
    (hinterfaces : ∀ i ∈ t.interfaces, Vocabulary.standard.Names i) :
    read Vocabulary.standard (Java.classHeader t) =
      { isAbstract := t.isAbstract && !t.isInterface, isInterface := t.isInterface,
        parent := t.parent, interfaces := t.interfaces } := by
  have hv := Vocabulary.standard_legible
  have hbare := clauses_javaWords (List.forall_mem_singleton.2 hname.isUnbroken)
    (List.forall_mem_nil _) hparent hinterfaces
  have hfront : ∀ w ∈ ["class".toList, t.name], IsUnbroken w :=
    List.forall_mem_cons.2 ⟨⟨by decide, rfl⟩, List.forall_mem_singleton.2 hname.isUnbroken⟩
  have hclauses := clauses_javaWords hfront (List.forall_mem_singleton.2 hname) hparent hinterfaces
  have hrest := List.forall_mem_cons.2 ⟨hname.isUnbroken, javaWords_unbroken hparent hinterfaces⟩
  rw [Java.classHeader_words fun p hp => (hparent p hp).ne_nil, Java.kindWords]
  generalize Java.parentWords t.parent ++ Java.interfaceWords t.interfaces = rest at *
  have hclass : ∀ w ∈ "class".toList :: t.name :: rest, IsUnbroken w :=
    List.forall_mem_cons.2 ⟨⟨by decide, rfl⟩, hrest⟩
  cases t.isInterface with
  | true =>
    have hall : ∀ w ∈ "interface".toList :: t.name :: rest, IsUnbroken w :=
      List.forall_mem_cons.2 ⟨⟨by decide, rfl⟩, hrest⟩
    rw [List.nil_append] at hbare
    rw [if_pos rfl, List.singleton_append, read, Text.trim_words hall,
      dropAbstract_words hv.abstracts hall, if_neg (by decide)]
    dsimp only
    rw [dropInterface_words hall, if_pos rfl]
    dsimp only
    rw [hbare, Bool.not_true, Bool.and_false]
  | false =>
    rw [if_neg Bool.false_ne_true]
    cases t.isAbstract with
    | true =>
      have hall : ∀ w ∈ "abstract".toList :: "class".toList :: t.name :: rest, IsUnbroken w :=
        List.forall_mem_cons.2 ⟨⟨by decide, rfl⟩, hclass⟩
      rw [if_pos rfl, List.cons_append, List.singleton_append, read, Text.trim_words hall,
        dropAbstract_words hv.abstracts hall, if_pos (by decide)]
      dsimp only
      rw [dropInterface_words hclass, if_neg (by decide)]
      dsimp only
      rw [show clauses Vocabulary.standard (Text.join " " ("class" :: t.name :: rest)) = _ from
        hclauses]
      rfl
    | false => exact read_class hv hrest hclauses

theorem read_classHeader_of_duck :
    let t : Template := { name := "Duck", isAbstract := true, parent := some "Bird",
                          interfaces := ["Swims", "Flies"] }
    Java.classHeader t = "abstract class Duck extends Bird implements Swims, Flies" ∧
      read Vocabulary.standard (Java.classHeader t) =
        { isAbstract := true, parent := some "Bird", interfaces := ["Swims", "Flies"] } := by
  intro t
  refine ⟨by decide, read_classHeader t ⟨⟨by decide, rfl⟩, by decide, by decide⟩ ?_ ?_⟩
  · intro p hp
    cases hp
    exact ⟨⟨by decide, rfl⟩, by decide, by decide⟩
  · exact List.forall_mem_cons.2 ⟨⟨⟨by decide, rfl⟩, by decide, by decide⟩,
      List.forall_mem_singleton.2 ⟨⟨by decide, rfl⟩, by decide, by decide⟩⟩

/-- Interfaces are read behind the parent. In front of it they are not looked for, and the clause
with the parent is all that is read. -/
theorem read_clause_order (v : Vocabulary) (name parent e j : Text) (interfaces : List Text)
    (hv : v.Legible) (he : e ∈ v.parentWords) (hj : j ∈ v.interfaceWords) (hname : v.Names name)
    (hparent : v.Names parent) (hinterfaces : ∀ i ∈ interfaces, v.Names i)
    (hne : interfaces ≠ []) :
    read v (Text.join " " ["class", name, e, parent, j, Text.join ", " interfaces]) =
        { parent := some parent, interfaces } ∧
      read v (Text.join " " ["class", name, j, Text.join ", " interfaces, e, parent]) =
        { parent := some parent } := by
  have hfront : ∀ w ∈ ["class".toList, name], IsUnbroken w :=
    List.forall_mem_cons.2 ⟨⟨by decide, rfl⟩, List.forall_mem_singleton.2 hname.isUnbroken⟩
  have hwords := listWords_ne_nil hne
  have hlist := listWords_names hv hinterfaces
  have hclause : ∀ w ∈ j :: listWords interfaces, IsUnbroken w ∧ w ∉ v.parentWords :=
    List.forall_mem_cons.2 ⟨⟨(hv.interfaces j hj).1, fun hm => hv.apart j hm hj⟩,
      fun w hw => ⟨(hlist w hw).1, (hlist w hw).2.1⟩⟩
  have hextends : ∀ w ∈ [e, parent], IsUnbroken w :=
    List.forall_mem_cons.2 ⟨(hv.parents e he).1, List.forall_mem_singleton.2 hparent.isUnbroken⟩
  rw [← join_listWords]
  constructor
  · have hline := Text.join_within ["class".toList, name, e, parent, j] hwords []
    rw [List.append_nil] at hline
    have hclauses := clauses_both hv he hj hfront (List.forall_mem_singleton.2 hname.not_parent)
      hparent hinterfaces hne
    refine (congrArg (read v) hline).trans (read_class hv ?_ hclauses)
    have hafter : ∀ w ∈ [e, parent] ++ j :: listWords interfaces, IsUnbroken w :=
      List.forall_mem_append.2 ⟨hextends, fun w hw => (hclause w hw).1⟩
    exact List.forall_mem_cons.2 ⟨hname.isUnbroken, hafter⟩
  · have hline := Text.join_within ["class".toList, name, j] hwords [e, parent]
    have hbefore : ∀ w ∈ name :: j :: listWords interfaces, IsUnbroken w ∧ w ∉ v.parentWords :=
      List.forall_mem_cons.2 ⟨⟨hname.isUnbroken, hname.not_parent⟩, hclause⟩
    have hclass : ∀ w ∈ "class".toList :: name :: j :: listWords interfaces, IsUnbroken w :=
      List.forall_mem_cons.2 ⟨⟨by decide, rfl⟩, fun w hw => (hbefore w hw).1⟩
    have hclauses := clauses_parent hv he hclass (fun w hw => (hbefore w hw).2) hparent.isUnbroken
    refine (congrArg (read v) hline).trans (read_class hv ?_ hclauses)
    exact List.forall_mem_append.2 ⟨fun w hw => (hbefore w hw).1, hextends⟩

theorem read_clause_order_of_duck :
    Text.join " " ["class", "Duck", "is-a", "Bird", "can", Text.join ", " ["Swim", "Fly"]] =
        "class Duck is-a Bird can Swim, Fly" ∧
      read Vocabulary.standard "class Duck is-a Bird can Swim, Fly" =
        { parent := some "Bird", interfaces := ["Swim", "Fly"] } ∧
      Text.join " " ["class", "Duck", "can", Text.join ", " ["Swim", "Fly"], "is-a", "Bird"] =
        "class Duck can Swim, Fly is-a Bird" ∧
      read Vocabulary.standard "class Duck can Swim, Fly is-a Bird" =
        { parent := some "Bird" } := by
  have hnames : ∀ i ∈ (["Swim", "Fly"] : List Text), Vocabulary.standard.Names i :=
    List.forall_mem_cons.2 ⟨⟨⟨by decide, rfl⟩, by decide, by decide⟩,
      List.forall_mem_singleton.2 ⟨⟨by decide, rfl⟩, by decide, by decide⟩⟩
  have hbehind : Text.join " " ["class", "Duck", "is-a", "Bird", "can",
      Text.join ", " ["Swim", "Fly"]] = "class Duck is-a Bird can Swim, Fly" := by decide
  have hbefore : Text.join " " ["class", "Duck", "can", Text.join ", " ["Swim", "Fly"], "is-a",
      "Bird"] = "class Duck can Swim, Fly is-a Bird" := by decide
  have horder := read_clause_order .standard "Duck" "Bird" "is-a" "can" ["Swim", "Fly"]
    Vocabulary.standard_legible (by decide) (by decide) ⟨⟨by decide, rfl⟩, by decide, by decide⟩
    ⟨⟨by decide, rfl⟩, by decide, by decide⟩ hnames (by decide)
  rw [hbehind, hbefore] at horder
  exact ⟨hbehind, horder.1, hbefore, horder.2⟩

theorem interfaces_lost_before_parent :
    read Vocabulary.standard "class Duck can Swim is-a Bird" = { parent := some "Bird" } ∧
      (read Vocabulary.standard "class Duck can Swim is-a Bird").interfaces ≠ ["Swim"] := by
  decide +kernel

end Header

end JavaSketch
