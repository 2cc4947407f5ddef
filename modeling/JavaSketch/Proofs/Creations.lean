import JavaSketch.Edition.History
import JavaSketch.Proofs.CommentMarks
import JavaSketch.Proofs.Literals

namespace JavaSketch

namespace Pattern

variable {p : Pattern} {s x t : Text}

theorem find?_name_gap (hx : IsName x) :
    find? (.name :: .gap :: p) (x ++ ' ' :: s) = (find? (.gap :: p) (' ' :: s)).map (x :: ·) := by
  have hend : ∀ c ∈ (' ' :: s).head?, isWord c = false := by
    intro c hc
    cases hc
    rfl
  cases hf : find? (.gap :: p) (' ' :: s) with
  | some kept =>
    exact find?_longest true (fun _ => hx.char) hend (List.length_pos_iff.2 hx.ne_nil) hf
  | none =>
    rw [Step.name, find?, Option.map_none, List.findSome?_eq_none_iff]
    intro n hn
    have hle : n ≤ x.length := by
      have h : n ≤ ((x ++ ' ' :: s).takeWhile isWord).length := le_of_mem_lengths hn
      rw [Text.takeWhile_exact (fun _ => hx.char) hend] at h
      exact h
    rw [List.drop_append_of_le_length hle]
    cases hd : x.drop n with
    | nil =>
      rw [List.nil_append, hf]
      rfl
    | cons c rest =>
      have hc : c ∈ x := List.mem_of_mem_drop (hd ▸ List.mem_cons_self)
      rw [List.cons_append, find?_gap (not_blank_of_isWord (hx.char hc))]
      rfl

end Pattern

namespace Statement

open Pattern

variable {verb other x cls a gap t : Text} {p : Pattern}

theorem typeAndValue_plain {type : Text} (ht : '/' ∉ type) (containers : List Container)
    (value : Option Text) :
    typeAndValue .full containers type value = (TypeTable.full.javaName type, value) := by
  have hcut : Text.cut? "/" type = none :=
    Text.cut?_eq_none (Text.not_includes_of_notMem List.mem_cons_self ht)
  rw [typeAndValue, hcut]

theorem localDeclaration_valued {s part value : Text} (hv : s.startsWith "var " = false)
    (ha : s.includes " as " = true) (hs : '/' ∉ part) (hn : value ≠ [])
    (hp : partAndValue .all s = (part, some value))
    (h : localDeclaration Stage.current.locals s = .ok t) :
    ∃ java name, t = java ++ " " ++ name ++ " = " ++ value ++ ";" := by
  rw [localDeclaration, hv, if_neg Bool.false_ne_true, if_pos ha] at h
  dsimp only [Stage.current] at h
  rw [hp] at h
  dsimp only at h
  cases hcut : Text.cut? " as " part with
  | none =>
    rw [hcut] at h
    cases h
  | some res =>
    have ht : '/' ∉ res.2.trim :=
      fun hq => hs ((Text.infix_of_cut? hcut).2.subset (res.2.trim_subset hq))
    rw [hcut] at h
    dsimp only at h
    rw [typeAndValue_plain ht] at h
    cases h
    obtain ⟨c, value, rfl⟩ := List.exists_cons_of_ne_nil hn
    exact ⟨_, _, rfl⟩

theorem not_isAssignment {s : Text} (h : '=' ∉ s) : isAssignment s = false := by
  have hi : s.includes "=" = false := Text.not_includes_of_notMem List.mem_cons_self h
  rw [isAssignment, hi, Bool.false_and]

theorem notMem_javaName {q : Char} {type : Text} (hq : ∀ entry ∈ TypeTable.full, q ∉ entry.2)
    (ht : q ∉ type) : q ∉ TypeTable.full.javaName type := by
  rw [TypeTable.javaName]
  cases hl : TypeTable.full.lookup type.lower with
  | none => exact ht
  | some java =>
    obtain ⟨key, hm⟩ := lookup_mem hl
    exact hq _ hm

theorem javaName_of_mem {q : Char} {type : Text} (hq : ∀ entry ∈ TypeTable.full, q ∉ entry.1)
    (h : q ∈ type.lower) : TypeTable.full.javaName type = type := by
  have hnone : TypeTable.full.lookup type.lower = none := by
    rw [List.lookup_eq_none_iff]
    intro entry hentry
    rw [bne_iff_ne]
    intro he
    exact hq entry hentry (he ▸ h)
  rw [TypeTable.javaName, hnone]
  rfl

theorem notMem_declared {q : Char} {type name : Text} {value : Option Text} (ht : q ∉ type)
    (hn : q ∉ name) (hv : ∀ t ∈ value, q ∉ t) (hq : q ∉ " =;".toList) :
    q ∉ declared type name value := by
  have hfixed {w : Text} (hw : w ⊆ " =;".toList) : q ∉ w := fun hm => hq (hw hm)
  rw [declared.eq_def]
  split
  · simp only [List.mem_append, not_or]
    exact ⟨⟨⟨ht, hfixed (by decide)⟩, hn⟩, hfixed (by decide)⟩
  · simp only [List.mem_append, not_or]
    exact ⟨⟨⟨ht, hfixed (by decide)⟩, hn⟩, hfixed (by decide)⟩
  · simp only [List.mem_append, not_or]
    exact ⟨⟨⟨⟨⟨ht, hfixed (by decide)⟩, hn⟩, hfixed (by decide)⟩, hv _ rfl⟩, hfixed (by decide)⟩

theorem pieces_of_partAndValue {s : Text} (h : '=' ∉ s) :
    (partAndValue .all s).1 ⊆ s ∧
      ∀ value ∈ (partAndValue .all s).2, value ⊆ s := by
  have hcut : Text.cut? " = " s = none :=
    Text.cut?_eq_none (Text.not_includes_of_notMem (by decide : '=' ∈ " = ".toList) h)
  rw [partAndValue]
  cases hw : Text.cut? " with " s with
  | none =>
    dsimp only
    rw [hcut]
    refine ⟨List.Subset.refl s, ?_⟩
    intro value hm
    cases hm
  | some res =>
    obtain ⟨hp, hv⟩ := Text.infix_of_cut? hw
    refine ⟨fun c hc => hp.subset (res.1.trim_subset hc), ?_⟩
    intro value hm c hc
    cases hm
    exact hv.subset (res.2.trim_subset hc)

/-- A declaration without equals signs and slashes has a closing parenthesis only if the statement
has one. -/
theorem localDeclaration_unclosed {s : Text} (hv : s.startsWith "var " = false) (he : '=' ∉ s)
    (hs : '/' ∉ s) (hp : ')' ∉ s) (h : localDeclaration Stage.current.locals s = .ok t) :
    ')' ∉ t := by
  obtain ⟨hpart, hvalue⟩ := pieces_of_partAndValue he
  rw [localDeclaration, hv, if_neg Bool.false_ne_true] at h
  split at h
  · dsimp only [Stage.current] at h
    cases hcut : Text.cut? " as " (partAndValue .all s).1 with
    | none =>
      rw [hcut] at h
      cases h
    | some res =>
      obtain ⟨hname, htype⟩ := Text.infix_of_cut? hcut
      have hsub : res.2.trim ⊆ s := fun c hc => hpart (htype.subset (res.2.trim_subset hc))
      rw [hcut] at h
      dsimp only at h
      rw [typeAndValue_plain fun hc => hs (hsub hc)] at h
      cases h
      apply notMem_declared
      · exact notMem_javaName (by decide) fun hc => hp (hsub hc)
      · exact fun hc => hp (hpart (hname.subset (res.1.trim_subset hc)))
      · exact fun value hm hc => hp (hvalue value hm hc)
      · decide
  · cases h
    rw [List.mem_append, not_or]
    exact ⟨hp, by decide⟩

theorem convertBy_of_trim {s u : Text} (rules : List Rule) (h : s.trim = u.trim) :
    convertBy rules s = convertBy rules u := by
  rw [convertBy, convertBy, h]

/-- The words of a creation, up to its arguments. -/
def creationWords (verb name type : Text) : Text :=
  verb ++ " " ++ name ++ " as " ++ type ++ " with"

theorem creationWords_eq (verb x cls t : Text) : creationWords verb x cls ++ t =
    verb ++ ' ' :: (x ++ ' ' :: ("as" ++ ' ' :: (cls ++ ' ' :: ("with" ++ t)))) := by
  simp only [creationWords, List.append_assoc]
  rfl

theorem creationWords_nil (verb x cls : Text) : creationWords verb x cls =
    verb ++ ' ' :: (x ++ ' ' :: ("as" ++ ' ' :: (cls ++ ' ' :: "with"))) := by
  have h := creationWords_eq verb x cls []
  rw [List.append_nil, List.append_nil] at h
  exact h

theorem find?_creationHead (hx : IsName x) (hc : IsName cls) :
    find? (creationHead verb ++ p) (creationWords verb x cls ++ t) =
      (find? p t).map fun kept => x :: cls :: kept := by
  have hname {y s : Text} (hy : IsName y) (q : Pattern) :
      find? (.gap :: .name :: .gap :: q) (' ' :: (y ++ ' ' :: s)) =
        (find? (.gap :: q) (' ' :: s)).map (y :: ·) := by
    rw [find?_gap_one (hy.head_append _), find?_name_gap hy]
  have hword {y s : Text} (hy : IsName y) (q : Pattern) :
      find? (.gap :: (exactly y ++ q)) (' ' :: (y ++ s)) = find? q s := by
    rw [find?_gap_one (hy.head_append _), find?_exactly_append]
  have hpattern : creationHead verb ++ p = exactly verb ++ (.gap :: .name :: .gap ::
      (exactly "as" ++ (.gap :: .name :: .gap :: (exactly "with" ++ p)))) := by
    simp only [creationHead, List.append_assoc]
    rfl
  rw [hpattern, creationWords_eq, find?_exactly_append, hname hx, hword ⟨by decide, by decide⟩,
    hname hc, hword ⟨by decide, by decide⟩, Option.map_map]
  rfl

theorem notMem_creationWords {q : Char} (hv : IsName verb) (hx : IsName x) (hc : IsName cls)
    (hq : isWord q = false) (hs : q ≠ ' ') : q ∉ creationWords verb x cls := by
  have hfixed {w : Text} (hw : w.all (fun c => isWord c || c == ' ') = true) : q ∉ w := by
    intro hm
    have := List.all_eq_true.1 hw q hm
    rw [Bool.or_eq_true_iff, hq, beq_iff_eq] at this
    exact hs (this.resolve_left Bool.false_ne_true)
  simp only [creationWords, List.mem_append, not_or]
  exact ⟨⟨⟨⟨⟨hv.notMem hq, hfixed (by decide)⟩, hx.notMem hq⟩, hfixed (by decide)⟩, hc.notMem hq⟩,
    hfixed (by decide)⟩

theorem includes_as (verb x cls t : Text) :
    (creationWords verb x cls ++ t).includes " as " = true := by
  rw [Text.includes_iff]
  refine ⟨verb ++ " " ++ x, cls ++ " with" ++ t, ?_⟩
  simp only [creationWords, List.append_assoc]

theorem includes_with (verb x cls gap a : Text) :
    (creationWords verb x cls ++ (' ' :: gap ++ a)).includes " with " = true := by
  rw [Text.includes_iff]
  refine ⟨verb ++ " " ++ x ++ " as " ++ cls, gap ++ a, ?_⟩
  simp only [creationWords, List.append_assoc]
  rfl

theorem isLocal_arguments (verb x cls gap a : Text) :
    isLocal (creationWords verb x cls ++ (' ' :: gap ++ a)) = true := by
  rw [isLocal, isValuedLocal, hasValue, includes_as, includes_with, Bool.true_or, Bool.and_true,
    Bool.or_true, Bool.true_or]

theorem creationVerbs_apart : ∀ verb ∈ Vocabulary.standard.creationVerbs,
    ∀ other ∈ Vocabulary.standard.creationVerbs,
      verb ≠ [] ∧ (other ≠ verb → verb.head? ≠ other.head?) := by decide

theorem creationVerb_isName (hv : verb ∈ Vocabulary.standard.creationVerbs) : IsName verb := by
  have hverbs : ∀ verb ∈ Vocabulary.standard.creationVerbs,
      verb ≠ [] ∧ verb.all isWord = true := by decide
  exact ⟨(hverbs verb hv).1, (hverbs verb hv).2⟩

theorem find?_otherVerb (hv : verb ∈ Vocabulary.standard.creationVerbs)
    (ho : other ∈ Vocabulary.standard.creationVerbs) (hne : other ≠ verb) (p : Pattern) (t : Text) :
    find? (creationHead other ++ p) (creationWords verb x cls ++ t) = none := by
  obtain ⟨c, verb, rfl⟩ := List.exists_cons_of_ne_nil (creationVerbs_apart verb hv other ho).1
  obtain ⟨d, other, rfl⟩ := List.exists_cons_of_ne_nil (creationVerbs_apart other ho other ho).1
  have hd : c ≠ d := fun he => (creationVerbs_apart _ hv _ ho).2 hne (congrArg some he)
  rw [creationWords_eq, creationHead]
  simp only [List.append_assoc]
  exact find?_exactly_of_head hd

theorem verb_opens_nothing (hv : verb ∈ Vocabulary.standard.creationVerbs) (rest : Text) :
    (Text.startsWith (verb ++ ' ' :: rest) "print " = false ∧
      Text.startsWith (verb ++ ' ' :: rest) "var " = false) ∧
    isOperation .all (verb ++ ' ' :: rest) = false ∧
    (.opening "if " ifLine :: .opening "elif " elifLine :: lateRules).findSome?
      (· (verb ++ ' ' :: rest)) = none := by
  simp only [Vocabulary.standard, List.mem_cons, List.not_mem_nil, or_false] at hv
  rcases hv with rfl | rfl | rfl | rfl | rfl
  all_goals exact ⟨⟨rfl, rfl⟩, rfl, rfl⟩

theorem not_var (hv : verb ∈ Vocabulary.standard.creationVerbs) (x cls t : Text) :
    (creationWords verb x cls ++ t).startsWith "var " = false := by
  rw [creationWords_eq]
  exact (verb_opens_nothing hv _).1.2

theorem head_creationWords (hv : verb ∈ Vocabulary.standard.creationVerbs) (x cls t : Text) :
    ∀ c ∈ (creationWords verb x cls ++ t).head?, isBlank c = false := by
  rw [creationWords_eq]
  exact (creationVerb_isName hv).head_append _

theorem trim_creationWords (hv : verb ∈ Vocabulary.standard.creationVerbs) (x cls : Text) :
    (creationWords verb x cls).trim = creationWords verb x cls := by
  have hh := head_creationWords hv x cls []
  rw [List.append_nil] at hh
  apply Text.trim_of_ends hh
  intro c hc
  rw [creationWords, List.getLast?_append] at hc
  cases hc
  rfl

theorem trim_creation_of_nil (hv : verb ∈ Vocabulary.standard.creationVerbs) (ha : a.trim = [])
    (x cls : Text) :
    Text.trim (creationWords verb x cls ++ " " ++ a) = creationWords verb x cls := by
  obtain ⟨before, after, hb, hafter, hs⟩ := a.exists_trim
  rw [ha, List.nil_append] at hs
  have hblank : ∀ c ∈ " ".toList ++ a, isBlank c = true := by
    rw [hs]
    simp only [List.forall_mem_append]
    exact ⟨List.forall_mem_singleton.2 rfl, hb, hafter⟩
  rw [List.append_assoc, Text.trim_append_right hblank, trim_creationWords hv]

theorem trim_creation (hv : verb ∈ Vocabulary.standard.creationVerbs) (ha : a.trim ≠ [])
    (x cls : Text) : ∃ gap : Text, (∀ c ∈ gap, isBlank c = true) ∧
      Text.trim (creationWords verb x cls ++ " " ++ a) =
        creationWords verb x cls ++ (' ' :: gap ++ a.trim) := by
  obtain ⟨gap, after, hb, hafter, hs⟩ := a.exists_trim
  have he : creationWords verb x cls ++ " " ++ a =
      creationWords verb x cls ++ (' ' :: gap ++ a.trim) ++ after := by
    conv_lhs => rw [hs]
    simp only [List.append_assoc]
    rfl
  refine ⟨gap, hb, ?_⟩
  rw [he, Text.trim_append_right hafter]
  apply Text.trim_of_ends (head_creationWords hv x cls _)
  rw [← List.append_assoc, List.getLast?_append_of_ne_nil _ ha]
  exact Text.getLast_of_trim a.trim_trim

theorem convert_arguments (hv : verb ∈ Vocabulary.standard.creationVerbs) {s : Text}
    (hs : s.trim = creationWords verb x cls ++ (' ' :: gap ++ a)) :
    convert .current s = localDeclaration Stage.current.locals
      (creationWords verb x cls ++ (' ' :: gap ++ a)) := by
  have hw := creationWords_eq verb x cls (' ' :: gap ++ a)
  obtain ⟨⟨hp, _⟩, _⟩ := verb_opens_nothing hv
    (x ++ ' ' :: ("as" ++ ' ' :: (cls ++ ' ' :: ("with" ++ (' ' :: gap ++ a)))))
  rw [← hw, ← hs] at hp
  rw [convert_unprinted hp, hs, isLocal_arguments, if_pos rfl]

theorem rules_openAccessors (v : Vocabulary) : ∃ rules, (Edition.openAccessors v).rules =
    creationRule Vocabulary.standard.creationVerbs ::
      bareCreationRule Vocabulary.standard.creationVerbs :: rules := ⟨_, rfl⟩

/-- The text ends in another one, with a blank in front of it. -/
def BehindBlank (s a : Text) : Prop :=
  ∃ (head : Text) (b : Char), isBlank b = true ∧ s = head ++ b :: a

theorem behindBlank_gap (hg : ∀ c ∈ gap, isBlank c = true) (head a : Text) :
    BehindBlank (head ++ (' ' :: gap ++ a)) a := by
  have hne : ' ' :: gap ≠ [] := List.cons_ne_nil _ _
  refine ⟨head ++ (' ' :: gap).dropLast, (' ' :: gap).getLast hne, ?_, ?_⟩
  · rcases List.mem_cons.1 (List.getLast_mem hne) with h | h
    · rw [h]
      rfl
    · exact hg _ h
  · conv_lhs => rw [← List.dropLast_concat_getLast hne]
    simp only [List.append_assoc]
    rfl

theorem ne_created {java : Text} {b : Char} (ha : ∀ c ∈ a.head?, isBlank c = false) (hn : a ≠ [])
    (hb : isBlank b = true) : java ++ (b :: a ++ ";") ≠ created x cls a := by
  have he : created x cls a = (cls ++ " " ++ x ++ " = new " ++ cls ++ "(") ++ (a ++ ");") := by
    rw [created, List.append_assoc _ a]
  rw [he]
  intro h
  obtain ⟨c, a, rfl⟩ := List.exists_cons_of_ne_nil hn
  have hlen : (b :: (c :: a) ++ ";" : Text).length = (c :: a ++ ");" : Text).length := by
    simp
  have htail := List.append_inj_right' h hlen
  cases (List.cons.inj htail).1
  rw [ha b rfl] at hb
  cases hb

/-- Among words between blanks, `with` and `as` are found where they stand first. -/
theorem cut?_spoken (parts : List Text) (word after : Text) (hv : ' ' ∉ verb) (hw : ' ' ∉ word)
    (h : ∀ part ∈ parts, ' ' ∉ part ∧ part ≠ word) :
    Text.cut? (' ' :: (word ++ [' ']))
        (verb ++ (parts.flatMap (' ' :: ·) ++ ' ' :: (word ++ ' ' :: after))) =
      some (verb ++ parts.flatMap (' ' :: ·), after) := by
  rw [Text.cut?_append hv, Text.cut?_words hw h]
  rfl

theorem names_apart (hx : IsName x) (hc : IsName cls) (hxw : x ≠ "with") (hcw : cls ≠ "with") :
    ∀ part ∈ [x, "as".toList, cls], ' ' ∉ part ∧ part ≠ "with" := by
  simp only [List.forall_mem_cons]
  exact ⟨⟨hx.notMem rfl, hxw⟩, ⟨by decide, by decide⟩, ⟨hc.notMem rfl, hcw⟩, List.forall_mem_nil _⟩

theorem cut?_as (hv : IsName verb) (hx : IsName x) (hxa : x ≠ "as") (rest : Text) :
    Text.cut? " as " (verb ++ ' ' :: (x ++ ' ' :: ("as" ++ ' ' :: rest))) =
      some (verb ++ ' ' :: x, rest) := by
  have h := cut?_spoken [x] "as" rest (hv.notMem rfl) (by decide)
    (List.forall_mem_singleton.2 ⟨hx.notMem rfl, hxa⟩)
  rw [List.flatMap_singleton] at h
  exact h

theorem cut?_with_ordinary (hv : IsName verb) (hx : IsName x) (hc : IsName cls)
    (hxw : x ≠ "with") (hcw : cls ≠ "with") (gap a : Text) :
    Text.cut? " with " (creationWords verb x cls ++ (' ' :: gap ++ a)) =
      some (verb ++ ' ' :: (x ++ ' ' :: ("as" ++ ' ' :: cls)), gap ++ a) := by
  have h := cut?_spoken [x, "as", cls] "with" (gap ++ a) (hv.notMem rfl) (by decide)
    (names_apart hx hc hxw hcw)
  rw [creationWords_eq]
  simp only [List.flatMap_cons, List.flatMap_nil, List.append_nil, List.append_assoc,
    List.cons_append] at h ⊢
  exact h

/-- Where the words of a creation are cut at `with`: behind the class, unless a name is `with`. -/
theorem cut?_with (hv : IsName verb) (hx : IsName x) (hc : IsName cls) (gap a : Text) :
    ∃ part after, Text.cut? " with " (creationWords verb x cls ++ (' ' :: gap ++ a)) =
      some (part, after) ∧ '/' ∉ part ∧
        (after = gap ++ a ∨ ∃ c w, isBlank c = false ∧ after = c :: w ++ (' ' :: gap ++ a)) := by
  by_cases hxw : x = "with"
  · have h := cut?_spoken [] "with" ("as" ++ ' ' :: (cls ++ ' ' :: ("with" ++ (' ' :: gap ++ a))))
      (hv.notMem rfl) (by decide) (List.forall_mem_nil _)
    rw [List.flatMap_nil, List.append_nil, List.nil_append] at h
    refine ⟨verb, _, ?_, hv.notMem rfl, .inr ⟨'a', "s " ++ cls ++ " with", rfl, rfl⟩⟩
    simp only [creationWords_eq, hxw, List.append_assoc, List.cons_append] at h ⊢
    exact h
  by_cases hcw : cls = "with"
  · have hparts : ∀ part ∈ [x, "as".toList], ' ' ∉ part ∧ part ≠ "with" := by
      simp only [List.forall_mem_cons]
      exact ⟨⟨hx.notMem rfl, hxw⟩, ⟨by decide, by decide⟩, nofun⟩
    have h := cut?_spoken [x, "as"] "with" ("with" ++ (' ' :: gap ++ a)) (hv.notMem rfl)
      (by decide) hparts
    refine ⟨verb ++ ' ' :: (x ++ ' ' :: "as".toList), _, ?_, ?_, .inr ⟨'w', "ith", rfl, rfl⟩⟩
    · rw [creationWords_eq, hcw]
      simp only [List.flatMap_cons, List.flatMap_nil, List.append_nil, List.append_assoc,
        List.cons_append] at h ⊢
      exact h
    · simp only [List.mem_append, List.mem_cons, not_or]
      exact ⟨hv.notMem rfl, by decide, hx.notMem rfl, by decide, by decide⟩
  refine ⟨_, _, cut?_with_ordinary hv hx hc hxw hcw gap a, ?_, .inl rfl⟩
  simp only [List.mem_append, List.mem_cons, not_or]
  exact ⟨hv.notMem rfl, by decide, hx.notMem rfl, by decide, by decide, by decide, hc.notMem rfl⟩

theorem partAndValue_creation (hv : IsName verb) (hx : IsName x) (hc : IsName cls)
    (hg : ∀ c ∈ gap, isBlank c = true) (ha : a.trim = a) (hn : a ≠ []) :
    ∃ part value, partAndValue .all (creationWords verb x cls ++ (' ' :: gap ++ a)) =
      (part, some value) ∧ '/' ∉ part ∧ value ≠ [] ∧ BehindBlank (' ' :: value) a := by
  obtain ⟨part, after, hcut, hs, hafter⟩ := cut?_with hv hx hc gap a
  refine ⟨part.trim, after.trim, ?_, fun h => hs (part.trim_subset h), ?_⟩
  · rw [partAndValue, hcut]
  · rcases hafter with rfl | ⟨c, w, hcb, rfl⟩
    · rw [Text.trim_append hg, ha]
      exact ⟨hn, [], ' ', rfl, rfl⟩
    · have hlast : ∀ d ∈ (c :: w ++ (' ' :: gap ++ a)).getLast?, isBlank d = false := by
        rw [← List.append_assoc, List.getLast?_append_of_ne_nil _ hn]
        exact Text.getLast_of_trim ha
      have ht : Text.trim (c :: w ++ (' ' :: gap ++ a)) = c :: w ++ (' ' :: gap ++ a) :=
        Text.trim_of_ends (Text.head_cons hcb) hlast
      rw [ht]
      exact ⟨List.cons_ne_nil _ _, behindBlank_gap hg (' ' :: c :: w) a⟩

theorem trim_typed (hv : IsName verb) (hc : IsName cls) (x : Text) :
    Text.trim (verb ++ ' ' :: (x ++ ' ' :: ("as" ++ ' ' :: cls))) =
      verb ++ ' ' :: (x ++ ' ' :: ("as" ++ ' ' :: cls)) := by
  have he : verb ++ ' ' :: (x ++ ' ' :: ("as" ++ ' ' :: cls)) =
      (verb ++ " " ++ x ++ " as ") ++ cls := by
    simp only [List.append_assoc]
    rfl
  apply Text.trim_of_ends (hv.head_append _)
  rw [he, List.getLast?_append_of_ne_nil _ hc.ne_nil]
  exact Text.getLast_of_trim hc.trim_eq

theorem trim_spoken (hv : IsName verb) (hx : IsName x) :
    Text.trim (verb ++ ' ' :: x) = verb ++ ' ' :: x := by
  apply Text.trim_of_ends (hv.head_append _)
  rw [List.append_cons, List.getLast?_append_of_ne_nil _ hx.ne_nil]
  exact Text.getLast_of_trim hx.trim_eq

theorem not_isBareLocal (hverb : IsName verb) (hx : IsName x) (hxa : x ≠ "as") (cls : Text) :
    isBareLocal (creationWords verb x cls) = false := by
  have hname : isAsciiName (Text.trim (verb ++ ' ' :: x)) = false := by
    rw [trim_spoken hverb hx]
    exact not_isAsciiName (List.mem_append_right _ List.mem_cons_self) rfl
  rw [isBareLocal, creationWords_nil, cut?_as hverb hx hxa]
  dsimp only
  rw [hname, Bool.and_false, Bool.false_and]

section

variable (hv : verb ∈ Vocabulary.standard.creationVerbs) (hx : IsName x) (hc : IsName cls)
include hv hx hc

theorem creationRule_arguments (hg : gap ≠ []) (hb : ∀ c ∈ gap, isBlank c = true)
    (ha : ∀ c ∈ a.head?, isBlank c = false) (hl : '\n' ∉ a) :
    creationRule Vocabulary.standard.creationVerbs (creationWords verb x cls ++ (gap ++ a)) =
      some (.ok (created x cls a)) := by
  have hany : find? [.run .any 0 true true] (a ++ []) = some [a] := by
    apply find?_longest true _ _ (Nat.zero_le _) rfl
    · intro c hc
      exact bne_iff_ne.2 (ne_of_mem_of_not_mem hc hl)
    · intro c hc
      cases hc
  rw [List.append_nil] at hany
  have hgap : find? [.gap, .run .any 0 true true] (gap ++ a) = some [a] :=
    find?_longest false hb ha (List.length_pos_iff.2 hg) hany
  rw [creationRule, findSome?_of_only hv, creationPattern, find?_creationHead hx hc, hgap]
  · rfl
  · intro other ho hne
    rw [creationPattern, find?_otherVerb hv ho hne]

theorem creationRule_bare :
    creationRule Vocabulary.standard.creationVerbs (creationWords verb x cls) = none := by
  rw [← List.append_nil (creationWords verb x cls), creationRule, findSome?_of_only hv,
    creationPattern, find?_creationHead hx hc]
  · rfl
  · intro other ho hne
    rw [creationPattern, find?_otherVerb hv ho hne]

theorem bareCreationRule_bare :
    bareCreationRule Vocabulary.standard.creationVerbs (creationWords verb x cls) =
      some (.ok (created x cls [])) := by
  rw [← List.append_nil (creationWords verb x cls), bareCreationRule, findSome?_of_only hv,
    bareCreationPattern, find?_creationHead hx hc]
  · rfl
  · intro other ho hne
    rw [bareCreationPattern, find?_otherVerb hv ho hne]

theorem convert_openAccessors_words (v : Vocabulary) :
    (Edition.openAccessors v).convert (creationWords verb x cls) = .ok (created x cls []) := by
  obtain ⟨rules, hr⟩ := rules_openAccessors v
  rw [Edition.convert, convertBy, hr, trim_creationWords hv, List.findSome?_cons,
    creationRule_bare hv hx hc]
  dsimp only
  rw [List.findSome?_cons, bareCreationRule_bare hv hx hc]
  rfl

theorem convert_openAccessors (v : Vocabulary) (ha : '\n' ∉ a) :
    (Edition.openAccessors v).convert (creationWords verb x cls ++ " " ++ a) =
      .ok (created x cls a.trim) := by
  by_cases hn : a.trim = []
  · have ht := (trim_creation_of_nil hv hn x cls).trans (trim_creationWords hv x cls).symm
    rw [hn, ← convert_openAccessors_words hv hx hc v]
    exact convertBy_of_trim _ ht
  · obtain ⟨gap, hg, ht⟩ := trim_creation hv hn x cls
    obtain ⟨rules, hr⟩ := rules_openAccessors v
    have hrule := creationRule_arguments hv hx hc (List.cons_ne_nil ' ' gap)
      (List.forall_mem_cons.2 ⟨rfl, hg⟩) (Text.head_of_trim a.trim_trim)
      fun h => ha (a.trim_subset h)
    rw [Edition.convert, convertBy, hr, ht, List.findSome?_cons, hrule]
    rfl

theorem localDeclaration_creation (hg : ∀ c ∈ gap, isBlank c = true) (ha : a.trim = a)
    (hn : a ≠ []) :
    localDeclaration Stage.current.locals (creationWords verb x cls ++ (' ' :: gap ++ a)) ≠
      .ok (created x cls a) := by
  intro h
  obtain ⟨part, value, hp, hs, hne, head, b, hb, he⟩ :=
    partAndValue_creation (creationVerb_isName hv) hx hc hg ha hn
  obtain ⟨java, name, ht⟩ := localDeclaration_valued (not_var hv _ _ _)
    (includes_as _ _ _ _) hs hne hp h
  have hsplit : java ++ " " ++ name ++ " = " ++ value ++ ";" =
      (java ++ " " ++ name ++ " =" ++ head) ++ (b :: a ++ ";") := by
    have hjoin : java ++ " " ++ name ++ " = " ++ value ++ ";" =
        java ++ " " ++ name ++ " =" ++ (' ' :: value) ++ ";" := by
      simp only [List.append_assoc]
      rfl
    rw [hjoin, he]
    simp only [List.append_assoc]
  rw [hsplit] at ht
  exact ne_created (Text.head_of_trim ha) hn hb ht.symm

theorem localDeclaration_ordinary (hxa : x ≠ "as") (hxw : x ≠ "with") (hcw : cls ≠ "with")
    (hg : ∀ c ∈ gap, isBlank c = true) (ha : a.trim = a) (hn : a ≠ []) :
    localDeclaration Stage.current.locals (creationWords verb x cls ++ (' ' :: gap ++ a)) =
      .ok (TypeTable.full.javaName cls ++ " " ++ verb ++ " " ++ x ++ " = " ++ a ++ ";") := by
  have hverb := creationVerb_isName hv
  rw [localDeclaration, not_var hv, if_neg Bool.false_ne_true, if_pos (includes_as _ _ _ _)]
  dsimp only [Stage.current]
  rw [partAndValue, cut?_with_ordinary hverb hx hc hxw hcw]
  dsimp only
  rw [trim_typed hverb hc, cut?_as hverb hx hxa]
  dsimp only
  rw [hc.trim_eq, typeAndValue_plain (hc.notMem rfl), trim_spoken hverb hx, Text.trim_append hg, ha]
  obtain ⟨c, a, rfl⟩ := List.exists_cons_of_ne_nil hn
  simp only [declared, List.append_assoc]
  rfl

/-- The words alone are taken for a declaration or left as they are. -/
theorem convert_words : convert .current (creationWords verb x cls) =
    if isLocal (creationWords verb x cls) then
      localDeclaration Stage.current.locals (creationWords verb x cls)
    else .ok (creationWords verb x cls ++ ";") := by
  have hterm : terminate (creationWords verb x cls) = creationWords verb x cls ++ ";" := by
    apply terminate_of_getLast? (d := 'h') _ (by decide)
    rw [creationWords, List.getLast?_append]
    rfl
  have hassign : isAssignment (creationWords verb x cls) = false :=
    not_isAssignment (notMem_creationWords (creationVerb_isName hv) hx hc rfl (by decide))
  have htrim := trim_creationWords hv x cls
  obtain ⟨⟨hp, _⟩, hop, hlate⟩ := verb_opens_nothing hv
    (x ++ ' ' :: ("as" ++ ' ' :: (cls ++ ' ' :: "with")))
  rw [← creationWords_nil] at hp hop hlate
  rw [← htrim] at hp
  rw [convert_unprinted hp, convertBy, htrim, hop, hassign, hlate, ← hterm]
  rfl

theorem not_includes_with (hxw : x ≠ "with") (hcw : cls ≠ "with") :
    (creationWords verb x cls).includes " with " = false := by
  have hlast : ' ' ∉ "with".toList := by decide
  have hnone := Text.cut?_last (by decide) (names_apart hx hc hxw hcw) hlast
  simp only [List.flatMap_cons, List.flatMap_nil, List.append_nil, List.append_assoc,
    List.cons_append] at hnone
  have hcut : Text.cut? (' ' :: ("with".toList ++ [' '])) (creationWords verb x cls) = none := by
    rw [creationWords_nil, Text.cut?_append ((creationVerb_isName hv).notMem rfl), hnone]
    rfl
  exact congrArg Option.isSome hcut

theorem not_isLocal_ordinary (hxa : x ≠ "as") (hxw : x ≠ "with") (hcw : cls ≠ "with") :
    isLocal (creationWords verb x cls) = false := by
  have hvar := not_var hv x cls []
  rw [List.append_nil] at hvar
  have hassign : isAssignment (creationWords verb x cls) = false :=
    not_isAssignment (notMem_creationWords (creationVerb_isName hv) hx hc rfl (by decide))
  rw [isLocal, isValuedLocal, hasValue, hvar, not_includes_with hv hx hc hxw hcw, hassign,
    not_isBareLocal (creationVerb_isName hv) hx hxa, Bool.or_false, Bool.and_false]
  rfl

/-- The words alone are no creation either: they have no parenthesis, and none comes in. -/
theorem convert_words_ne :
    convert .current (creationWords verb x cls) ≠ .ok (created x cls []) := by
  have hverb := creationVerb_isName hv
  have hclose : ')' ∈ created x cls [] := by
    rw [created]
    exact List.mem_append_right _ (by decide)
  have hp : ')' ∉ creationWords verb x cls := notMem_creationWords hverb hx hc rfl (by decide)
  rw [convert_words hv hx hc]
  intro h
  split at h
  · have hvar := not_var hv x cls []
    rw [List.append_nil] at hvar
    exact localDeclaration_unclosed hvar (notMem_creationWords hverb hx hc rfl (by decide))
      (notMem_creationWords hverb hx hc rfl (by decide)) hp h hclose
  · rw [← Except.ok.inj h, List.mem_append] at hclose
    exact hclose.elim hp (by decide)

theorem convert_creation_ne (a : Text) :
    convert .current (creationWords verb x cls ++ " " ++ a) ≠ .ok (created x cls a.trim) := by
  by_cases hn : a.trim = []
  · have ht := (trim_creation_of_nil hv hn x cls).trans (trim_creationWords hv x cls).symm
    rw [hn, convert, convertBy_of_trim _ ht]
    exact convert_words_ne hv hx hc
  · obtain ⟨gap, hg, ht⟩ := trim_creation hv hn x cls
    rw [convert_arguments hv ht]
    exact localDeclaration_creation hv hx hc hg a.trim_trim hn

end

/-- Creation of objects. The edition with rules for it writes a call of the constructor. The current
rules never do: with ordinary names they take the verb for a part of the name of a declared variable
if there are arguments, and otherwise leave the words as they are. -/
theorem creation_converted (v : Vocabulary) (verb x cls a : Text)
    (hv : verb ∈ Vocabulary.standard.creationVerbs) (hx : IsName x) (hc : IsName cls)
    (ha : '\n' ∉ a) :
    let words := creationWords verb x cls
    ((Edition.openAccessors v).convert (words ++ " " ++ a) = .ok (created x cls a.trim) ∧
      (Edition.openAccessors v).convert words = .ok (created x cls [])) ∧
    (convert .current (words ++ " " ++ a) ≠ .ok (created x cls a.trim) ∧
      convert .current words ≠ .ok (created x cls [])) ∧
    (x ≠ "as" → x ≠ "with" → cls ≠ "with" →
      (a.trim ≠ [] → convert .current (words ++ " " ++ a) =
        .ok (TypeTable.full.javaName cls ++ " " ++ verb ++ " " ++ x ++ " = " ++ a.trim ++ ";")) ∧
      convert .current words = .ok (words ++ ";")) := by
  intro words
  refine ⟨⟨convert_openAccessors hv hx hc v ha, convert_openAccessors_words hv hx hc v⟩,
    ⟨convert_creation_ne hv hx hc a, convert_words_ne hv hx hc⟩, fun hxa hxw hcw => ⟨?_, ?_⟩⟩
  · intro hn
    obtain ⟨gap, hg, ht⟩ := trim_creation hv hn x cls
    rw [convert_arguments hv ht]
    exact localDeclaration_ordinary hv hx hc hxa hxw hcw hg a.trim_trim hn
  · rw [convert_words hv hx hc, not_isLocal_ordinary hv hx hc hxa hxw hcw,
      if_neg Bool.false_ne_true]

theorem create_taken_for_declaration :
    let s := creationWords "create" "x" "Car" ++ " " ++ "1"
    convert .current s = .ok ("Car" ++ " " ++ "create" ++ " " ++ "x" ++ " = " ++ "1" ++ ";") ∧
      convert .current s ≠ .ok "Car x = new Car(1);" ∧
      (Edition.openAccessors .standard).convert s = .ok "Car x = new Car(1);" := by
  intro s
  obtain ⟨⟨hopen, _⟩, ⟨hne, _⟩, hcurrent⟩ := creation_converted .standard "create" "x" "Car" "1"
    (by decide) ⟨by decide, by decide⟩ ⟨by decide, by decide⟩ (by decide)
  exact ⟨(hcurrent (by decide) (by decide) (by decide)).1 (by decide), hne, hopen⟩

end Statement

end JavaSketch
