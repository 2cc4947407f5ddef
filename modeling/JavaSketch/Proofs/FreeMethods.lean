import JavaSketch.Proofs.Breakdowns
import JavaSketch.Proofs.Joining
import JavaSketch.Proofs.MainBodies

namespace JavaSketch

namespace Program

/-- The loop over the parts of a program comes to the line `first`, with the lines `post` behind
it. -/
inductive Comes (r : ProgramRules) : List Text → Text → List Text → Prop
  | here {first : Text} {post : List Text} : Comes r (first :: post) first post
  | later {line first : Text} {rest post : List Text} {n : Nat}
    (passed : partLength r line rest = .ok n) (more : Comes r (rest.drop n) first post) :
    Comes r (line :: rest) first post

/-- The line gives the program a method if the loop comes to it. -/
def Brings (r : ProgramRules) (line : Text) (rest : List Text) (m : Method) : Prop :=
  r.opensTemplate line.trim = .ok false ∧ line.trim.startsWith "method " = true ∧
    ∃ method n, r.method? = some method ∧ method line rest = .ok (some m, n)

variable {r : ProgramRules} {line first : Text} {lines rest pre post : List Text} {n : Nat}
  {ts : List Template} {bodies : List (List Text)} {ms : List Method} {m : Method}

theorem comes_cons_iff (hn : partLength r line rest = .ok n) :
    Comes r (line :: rest) first post ↔
      (first = line ∧ post = rest) ∨ Comes r (rest.drop n) first post := by
  constructor
  · intro h
    cases h with
    | here => exact .inl ⟨rfl, rfl⟩
    | later passed more =>
      rw [hn] at passed
      cases passed
      exact .inr more
  · rintro (⟨rfl, rfl⟩ | h)
    · exact .here
    · exact .later hn h

theorem Comes.length_lt (h : Comes r lines first post) : post.length < lines.length := by
  induction h with
  | here => exact Nat.lt_succ_self _
  | later passed more ih =>
    rw [List.length_drop] at ih
    rw [List.length_cons]
    omega

/-- The loop comes to no line of a part but the first. -/
theorem Comes.outside (h : Comes r lines line rest) (hn : partLength r line rest = .ok n)
    (hf : Comes r lines first post) :
    rest.length ≤ post.length ∨ post.length < rest.length - n := by
  induction h with
  | here =>
    rcases (comes_cons_iff hn).1 hf with ⟨-, rfl⟩ | hf
    · exact .inl (Nat.le_refl _)
    · have hlt := hf.length_lt
      rw [List.length_drop] at hlt
      exact .inr hlt
  | later passed more ih =>
    rcases (comes_cons_iff passed).1 hf with ⟨-, rfl⟩ | hf
    · have hlt := more.length_lt
      rw [List.length_drop] at hlt
      omega
    · exact ih hn hf

theorem Parts.uncons (h : Parts r (line :: rest) ts bodies ms) :
    ∃ n ts' bodies' ms', partLength r line rest = .ok n ∧ Parts r (rest.drop n) ts' bodies' ms' ∧
      ∀ m, m ∈ ms ↔ Brings r line rest m ∨ m ∈ ms' := by
  cases h with
  | @template _ _ t n ts _ _ opens reads more =>
    refine ⟨n, ts, bodies, ms, ?_, more, ?_⟩
    · rw [partLength_template opens, reads]
      rfl
    · simp [Brings, opens]
  | @main _ _ body n _ bodies _ opens main reads more =>
    refine ⟨n, ts, bodies, ms, ?_, more, ?_⟩
    · rw [partLength_main opens main, reads]
      rfl
    · intro m
      have hnone : ¬Brings r line rest m := by
        rintro ⟨-, hs, -⟩
        rw [main] at hs
        cases hs
      simp [hnone]
  | @method method _ _ got n _ _ ms opens main found reads more =>
    have hfound : line.trim.startsWith "method " = true ∧ r.method? = some method := by
      cases hs : line.trim.startsWith "method " with
      | false =>
        rw [hs] at found
        cases found
      | true =>
        rw [hs] at found
        exact ⟨rfl, found⟩
    refine ⟨n, ts, bodies, ms, ?_, more, ?_⟩
    · rw [partLength_method opens main found, reads]
      rfl
    · intro m
      rw [List.mem_append, Option.mem_toList]
      apply or_congr_left
      constructor
      · rintro rfl
        exact ⟨opens, hfound.1, method, n, hfound.2, reads⟩
      · rintro ⟨-, -, method', n', hm, hr⟩
        rw [hfound.2] at hm
        cases hm
        rw [reads] at hr
        cases hr
        rfl
  | skip opens main found more =>
    refine ⟨0, ts, bodies, ms, ?_, more, ?_⟩
    · exact partLength_pass opens main found
    · intro m
      have hnone : ¬Brings r line rest m := by
        rintro ⟨-, hs, method, n, hm, -⟩
        rw [if_pos hs, hm] at found
        cases found
      simp [hnone]

theorem Parts.mem_methods_iff (h : Parts r lines ts bodies ms) :
    m ∈ ms ↔ ∃ first post, Comes r lines first post ∧ Brings r first post m := by
  induction hk : lines.length using Nat.strong_induction_on generalizing lines ts bodies ms with
  | _ k ih =>
    cases lines with
    | nil =>
      cases h
      constructor
      · intro hm
        cases hm
      · rintro ⟨first, post, hc, -⟩
        cases hc
    | cons line rest =>
      obtain ⟨n, ts', bodies', ms', hn, hmore, hms⟩ := h.uncons
      have hlt : (rest.drop n).length < k := by
        rw [← hk, List.length_drop, List.length_cons]
        omega
      rw [hms, ih _ hlt hmore rfl]
      constructor
      · rintro (hb | ⟨first, post, hc, hb⟩)
        · exact ⟨line, rest, .here, hb⟩
        · exact ⟨first, post, .later hn hc, hb⟩
      · rintro ⟨first, post, hc, hb⟩
        rcases (comes_cons_iff hn).1 hc with ⟨rfl, rfl⟩ | hc
        · exact .inl hb
        · exact .inr ⟨first, post, hc, hb⟩

theorem Parts.partLength_of_comes (h : Parts r lines ts bodies ms) (hc : Comes r lines first post) :
    ∃ n, partLength r first post = .ok n := by
  induction hc generalizing ts bodies ms with
  | here =>
    obtain ⟨n, ts', bodies', ms', hn, -, -⟩ := h.uncons
    exact ⟨n, hn⟩
  | later passed more ih =>
    obtain ⟨n, ts', bodies', ms', hn, hmore, -⟩ := h.uncons
    rw [passed] at hn
    cases hn
    exact ih hmore

theorem Parts.comes (h : Parts r (pre ++ first :: post) ts bodies ms)
    (hb : ∀ a line b n, pre = a ++ line :: b → partLength r line (b ++ first :: post) = .ok n →
      n ≤ b.length) : Comes r (pre ++ first :: post) first post := by
  induction hk : pre.length using Nat.strong_induction_on generalizing pre ts bodies ms with
  | _ k ih =>
    cases pre with
    | nil => exact .here
    | cons line rest =>
      rw [List.cons_append] at h ⊢
      obtain ⟨n, ts', bodies', ms', hn, hmore, -⟩ := h.uncons
      have hle : n ≤ rest.length := hb [] line rest n rfl hn
      have hdrop : (rest ++ first :: post).drop n = rest.drop n ++ first :: post :=
        List.drop_append_of_le_length hle
      rw [hdrop] at hmore
      have hlt : (rest.drop n).length < k := by
        rw [← hk, List.length_drop, List.length_cons]
        omega
      apply Comes.later hn
      rw [hdrop]
      apply ih _ hlt hmore ?_ rfl
      intro a next b k hrest
      apply hb (line :: rest.take n ++ a)
      rw [List.cons_append, List.cons_append, List.append_assoc, ← hrest, List.take_append_drop]

end Program

/-- On these lines the reader takes at most the given number. -/
def Within {α : Type} (lines : List Text) (k : Nat) (read : List Text → Except Fault (α × Nat)) :
    Prop :=
  ∀ a n, read lines = .ok (a, n) → n ≤ k

theorem Within.compositional (lines : List Text) (k : Nat) :
    Compositional fun {_} => Within lines k where
  const {α x} h a n ha := by
    rw [h a n ha]
    exact Nat.zero_le k
  bind {α β x read} h a n ha := by
    obtain ⟨b, -, ha⟩ := bind_eq_ok.1 ha
    exact h b a n ha
  andThen {α β read f g} h hf a n ha := by
    obtain ⟨⟨b, k⟩, hb, ha⟩ := bind_eq_ok.1 ha
    rw [hf] at ha
    cases ha
    exact h b n hb

namespace Body

variable {r : BodyRules} {convert : Text → Except Fault Text} {st : State} {first : Text}
  {pre post : List Text}

/-- A body does not go beyond a line that ends it in every state of a kind that statements keep. -/
theorem readFrom_within (hr : r.IsPlain) (hc : st.inComment = false) (hf : first.trim ≠ [])
    {K : State → Prop} (hst : K st)
    (hstep : ∀ st line java, K st → K (st.afterStatement r line java))
    (hstop : ∀ st, K st → StopsAt r st first) :
    Within (pre ++ first :: post) pre.length (readFrom r convert st) := by
  intro body n h
  induction pre generalizing st body n with
  | nil =>
    rw [List.nil_append, readFrom_stop (step_ends hr hc hf (hstop st hst))] at h
    cases h
    exact Nat.le_refl 0
  | cons line pre ih =>
    rcases readFrom_cons h with ⟨-, -, rfl⟩ | ⟨entries, next, tail, k, hs, ht, -, rfl⟩
    · exact Nat.zero_le _
    · have hnext : K next := by
        rcases next_of_step hr hc hs with ⟨-, rfl⟩ | ⟨-, java, rfl⟩
        · exact hst
        · exact hstep st line java hst
      exact Nat.succ_le_succ (ih (inComment_of_step hr hc hs) hnext _ _ ht)

theorem readFrom_within_of_firstIndent (hr : r.IsPlain) (hm : r.margin = .firstStatement)
    (hc : st.inComment = false) (hst : st.margin = none) (hf : first.trim ≠ [])
    (hi : first.indent = 0) (h : 0 < firstIndent pre) :
    Within (pre ++ first :: post) pre.length (readFrom r convert st) := by
  intro body n hread
  induction pre generalizing st body n with
  | nil => cases h
  | cons line pre ih =>
    rcases readFrom_cons hread with ⟨-, -, rfl⟩ | ⟨entries, next, tail, k, hs, ht, -, rfl⟩
    · exact Nat.zero_le _
    have hcnext := inComment_of_step hr hc hs
    apply Nat.succ_le_succ
    rcases next_of_step hr hc hs with ⟨hl, rfl⟩ | ⟨hl, java, rfl⟩
    · rw [firstIndent, if_pos hl] at h
      exact ih hc hst h _ _ ht
    · rw [firstIndent, if_neg hl] at h
      have hmargin : (st.afterStatement r line java).margin = some line.indent := by
        rw [State.afterStatement, hst]
        rfl
      have hkeep : ∀ st' line' java', st'.margin = some line.indent →
          (State.afterStatement r st' line' java').margin = some line.indent := by
        intro st' line' java' hst'
        rw [State.afterStatement, hst']
        rfl
      have hstop : ∀ st', st'.margin = some line.indent → StopsAt r st' first := by
        intro st' hst'
        rw [StopsAt, hm, isOutside, hst', Option.getD_some, hi, decide_eq_true h]
        exact .inr rfl
      exact readFrom_within hr hcnext hf hmargin hkeep hstop _ _ ht

end Body

namespace Template

variable {r : TemplateRules} {t t' : Template} {heading : Option Text} {lines pre post : List Text}
  {first : Text} {n : Nat}

theorem Takes.ends_at (h : Takes r t heading lines t' n) (hl : lines[n]? = some first) :
    r.ends first first.trim = .ok true := by
  induction h with
  | finish => cases hl
  | idle blank more ih => exact ih hl
  | stop blank ends =>
    cases hl
    exact ends
  | enter blank ends opens more ih => exact ih hl
  | @member t u t' heading line rest k n blank ends opens reads more ih =>
    apply ih
    rw [List.getElem?_drop, Nat.add_comm]
    exact hl

theorem Takes.length_lt (h : Takes r t heading (pre ++ first :: post) t' n)
    (hends : ∀ line ∈ pre ++ [first], r.ends line line.trim = .ok false) : pre.length < n := by
  by_contra hn
  have hlt : n < (pre ++ [first]).length := by
    rw [List.length_append, List.length_singleton]
    omega
  obtain ⟨line, hl⟩ : ∃ line, (pre ++ [first])[n]? = some line :=
    ⟨_, List.getElem?_eq_getElem hlt⟩
  have hend : r.ends line line.trim = .ok true := by
    apply h.ends_at
    rw [List.append_cons, List.getElem?_append_left hlt]
    exact hl
  rw [hends line (List.mem_of_getElem? hl)] at hend
  cases hend

theorem Takes.within (h : Takes r t heading (pre ++ first :: post) t' n)
    (hidle : isIdle first.trim = false) (hends : r.ends first first.trim = .ok true)
    (hmember : ∀ t heading line pre,
      Within (pre ++ first :: post) pre.length (readMember r t heading line)) : n ≤ pre.length := by
  generalize hl : pre ++ first :: post = lines at h
  induction h generalizing pre with
  | finish => exact Nat.zero_le _
  | stop blank ends => exact Nat.zero_le _
  | @idle t t' heading line rest n blank more ih =>
    cases pre with
    | nil =>
      cases hl
      rw [hidle] at blank
      cases blank
    | cons line pre =>
      cases hl
      exact Nat.succ_le_succ (ih rfl)
  | @enter t t' heading line name rest n blank ends opens more ih =>
    cases pre with
    | nil =>
      cases hl
      rw [hends] at ends
      cases ends
    | cons line pre =>
      cases hl
      exact Nat.succ_le_succ (ih rfl)
  | @member t u t' heading line rest k n blank ends opens reads more ih =>
    cases pre with
    | nil =>
      cases hl
      rw [hends] at ends
      cases ends
    | cons line pre =>
      cases hl
      have hk : k ≤ pre.length := hmember t heading line pre u k reads
      have hn : n ≤ (pre.drop k).length := by
        apply ih
        exact (List.drop_append_of_le_length hk).symm
      rw [List.length_drop] at hn
      rw [List.length_cons]
      omega

end Template

namespace Edition

variable {e : Edition} {opening line first : Text} {block pre post rest : List Text} {n : Nat}

theorem readBody_within (hb : e.Blind) (hf : e.Outer first) (pre post : List Text) :
    Within (pre ++ first :: post) pre.length e.readBody :=
  Body.readFrom_within (K := fun _ => True) hb.body rfl hf.ne_nil trivial (fun _ _ _ _ => trivial)
    fun st _ => hf.body st

theorem readMain_within (hb : e.Blind) (hf : first.trim ≠ [])
    (he : ∀ st, Body.StopsAt e.mainRules st first) (pre post : List Text) :
    Within (pre ++ first :: post) pre.length e.readMain :=
  Body.readFrom_within (K := fun _ => True) hb.main rfl hf trivial (fun _ _ _ _ => trivial)
    fun st _ => he st

theorem readTemplate_within (hb : e.Blind) (hf : e.Outer first) (line : Text)
    (pre post : List Text) : Within (pre ++ first :: post) pre.length (e.readTemplate line) := by
  apply (Within.compositional _ _).bind
  intro name t n ht
  apply (Template.takes_of_readMembers ht).within hf.idle (congrArg Except.ok hf.template)
  intro t heading line pre
  exact (Within.compositional _ _).readMember (readBody_within hb hf pre post) hb.kind _ t heading
    line

theorem partLength_le_of_free {k : Nat} (ho : ¬e.opensTemplate line.trim = true)
    (hm : line.trim ≠ "main".toList)
    (hs : line.trim.startsWith "method " = true → Within rest k (e.readStandalone line))
    (h : Program.partLength e.programRules line rest = .ok n) : n ≤ k := by
  rw [partLength_free ho hm] at h
  split_ifs at h with hfree
  · obtain ⟨⟨m, j⟩, hr, rfl⟩ := map_eq_ok.1 h
    exact hs hfree.1 m j hr
  · cases h
    exact Nat.zero_le k

theorem partLength_within (hb : e.Blind) (hf : e.Outer first)
    (h : Program.partLength e.programRules line (pre ++ first :: post) = .ok n) :
    n ≤ pre.length := by
  by_cases ho : e.opensTemplate line.trim = true
  · rw [Program.partLength_template (congrArg Except.ok ho)] at h
    obtain ⟨⟨t, k⟩, ht, rfl⟩ := map_eq_ok.1 h
    exact readTemplate_within hb hf line pre post t k ht
  by_cases hm : line.trim = "main".toList
  · rw [Program.partLength_main (congrArg Except.ok (Bool.eq_false_iff.2 ho)) hm] at h
    obtain ⟨⟨body, k⟩, hr, rfl⟩ := map_eq_ok.1 h
    exact readMain_within hb hf.ne_nil hf.main pre post body k hr
  · apply partLength_le_of_free ho hm ?_ h
    intro _
    exact (Within.compositional _ _).readStandalone (readBody_within hb hf pre post) line

/-- Every line of a method has an indented body behind it. -/
def hasBodies : List Text → Bool
  | [] => true
  | line :: rest =>
    (!line.trim.startsWith "method " || 0 < Body.firstIndent rest) && hasBodies rest

theorem firstIndent_of_hasBodies (h : hasBodies (pre ++ line :: post) = true)
    (hs : line.trim.startsWith "method " = true) : 0 < Body.firstIndent post := by
  induction pre with
  | nil =>
    rw [List.nil_append, hasBodies, hs, Bool.not_true, Bool.false_or, Bool.and_eq_true] at h
    exact of_decide_eq_true h.1
  | cons first pre ih =>
    rw [List.cons_append, hasBodies, Bool.and_eq_true] at h
    exact ih h.2

/-- A method at the margin, behind a line at the margin that opens a template or the main part. In
between there may be other methods, but no further template or main part. -/
structure MethodBehind (v : Vocabulary) (opening : Text) (block : List Text) (line : Text) :
    Prop where
  opens : v.opensTemplate opening.trim = true ∨ opening.trim = "main".toList
  outer : opening.indent = 0
  inner : ∀ l ∈ block, v.opensTemplate l.trim = false ∧ l.trim ≠ "main".toList
  bodies : hasBodies block = true
  method : line.trim.startsWith "method " = true
  unopened : v.opensTemplate line.trim = false
  margin : line.indent = 0

/-- The signature behind the word `method`. -/
def freeSignature? (e : Edition) (line : Text) : Option Signature :=
  Signature.read? (e.methodReader e.freeParams).marks
    (Access.parts (Text.trim (line.trim.drop 7))).2

variable {v : Vocabulary} {source : Text} {p : Program} {before lines : List Text}
  {ts : List Template} {bodies : List (List Text)} {ms : List Method} {m? : Option Method}
  {sig : Signature}

theorem name_of_readStandalone (hs : line.trim.startsWith "method " = true)
    (hsig : e.freeSignature? line = some sig) (h : e.readStandalone line rest = .ok (m?, n)) :
    ∃ m, m? = some m ∧ m.name = sig.name := by
  rw [freeSignature?] at hsig
  rw [e.readStandalone_eq hs, MethodReader.regular, hsig] at h
  obtain ⟨params, -, h⟩ := bind_eq_ok.1 h
  obtain ⟨⟨body, k⟩, -, h⟩ := bind_eq_ok.1 h
  cases h
  exact ⟨_, rfl, rfl⟩

namespace MethodBehind

variable (h : MethodBehind v opening block line)

include h

theorem ne_nil : line.trim ≠ [] := by
  intro hl
  have hs := h.method
  rw [hl] at hs
  cases hs

theorem ne_main : line.trim ≠ "main".toList := by
  intro hl
  have hs := h.method
  rw [hl] at hs
  cases hs

theorem comes_opening (hv : v.SlashFree)
    (hp : Program.Parts (openAccessors v).programRules (before ++ opening :: rest) ts bodies ms) :
    Program.Comes (openAccessors v).programRules (before ++ opening :: rest) opening rest := by
  apply hp.comes
  intro a line b n _ hn
  exact partLength_within (openAccessors_blind v) (openAccessors_outer hv h.outer h.opens) hn

theorem length_lt_of_template (ho : v.opensTemplate opening.trim = true)
    (hn : Program.partLength (openAccessors v).programRules opening (block ++ line :: rest) =
      .ok n) : block.length < n := by
  have hends : ∀ l, v.opensTemplate l.trim = false → l.trim ≠ "main".toList →
      ((openAccessors v).templateRules opening.trim).ends l l.trim = .ok false := by
    intro l hl hm
    have hends := endsTemplate_eq v l l.trim
    rw [hl, beq_eq_false_iff_ne.2 hm, Bool.or_false, Bool.and_false] at hends
    exact congrArg Except.ok hends
  rw [Program.partLength_template (congrArg Except.ok ho)] at hn
  obtain ⟨⟨t, k⟩, ht, rfl⟩ := map_eq_ok.1 hn
  obtain ⟨name, -, ht⟩ := bind_eq_ok.1 ht
  apply (Template.takes_of_readMembers ht).length_lt
  intro l hl
  rcases List.mem_append.1 hl with hl | hl
  · exact hends l (h.inner l hl).1 (h.inner l hl).2
  · rw [List.mem_singleton.1 hl]
    exact hends line h.unopened h.ne_main

theorem partLength_le_of_inner {next : Text} (hb : block = pre ++ next :: post)
    (hn : Program.partLength (openAccessors v).programRules next (post ++ line :: rest) = .ok n) :
    n ≤ post.length := by
  have hnext : next ∈ block := by
    rw [hb]
    exact List.mem_append_right pre (List.mem_cons_self ..)
  obtain ⟨hfree, hpart⟩ := h.inner next hnext
  apply partLength_le_of_free (Bool.eq_false_iff.1 hfree) hpart ?_ hn
  intro hs
  have hbodies := h.bodies
  rw [hb] at hbodies
  apply (Within.compositional _ _).readStandalone
  exact Body.readFrom_within_of_firstIndent (openAccessors_blind v).body rfl rfl rfl h.ne_nil
    h.margin (firstIndent_of_hasBodies hbodies hs)

theorem partLength_le_of_main (hm : opening.trim = "main".toList)
    (hn : Program.partLength (openAccessors v).programRules opening (block ++ line :: rest) =
      .ok n) : n ≤ block.length := by
  have hopens : (openAccessors v).programRules.opensTemplate opening.trim = .ok false := by
    have hnone : v.opensTemplate opening.trim = false := by
      rw [hm, Vocabulary.opensTemplate, Program.templateName?_main]
      rfl
    exact congrArg Except.ok hnone
  rw [Program.partLength_main hopens hm] at hn
  obtain ⟨⟨body, k⟩, hr, rfl⟩ := map_eq_ok.1 hn
  exact readMain_within (openAccessors_blind v) h.ne_nil (stopsAt_main h.margin) block rest body k
    hr

/-- The loop comes to the line exactly if the part before it is a main part. -/
theorem comes_iff (hv : v.SlashFree)
    (hp : Program.Parts (openAccessors v).programRules
      (before ++ opening :: (block ++ line :: rest))
      ts bodies ms) :
    Program.Comes (openAccessors v).programRules (before ++ opening :: (block ++ line :: rest))
      line rest ↔ opening.trim = "main".toList := by
  constructor
  · intro hc
    rcases h.opens with ho | hm
    · have hopening := h.comes_opening hv hp
      obtain ⟨n, hn⟩ := hp.partLength_of_comes hopening
      have hlt := h.length_lt_of_template ho hn
      have hout := hopening.outside hn hc
      rw [List.length_append, List.length_cons] at hout
      omega
    · exact hm
  · intro hm
    have hlines : before ++ opening :: (block ++ line :: rest) =
        (before ++ opening :: block) ++ line :: rest := by
      rw [List.append_assoc, List.cons_append]
    rw [hlines] at hp ⊢
    apply hp.comes
    intro a next b n hab hn
    rcases List.append_eq_append_iff.1 hab with ⟨a, -, ha⟩ | ⟨b', hb, hb'⟩
    · cases a with
      | nil =>
        cases ha
        exact h.partLength_le_of_main hm hn
      | cons first a =>
        rw [List.cons_append] at ha
        exact h.partLength_le_of_inner (List.tail_eq_of_cons_eq ha) hn
    · cases b' with
      | nil =>
        cases hb'
        exact h.partLength_le_of_main hm hn
      | cons first b' =>
        rw [List.cons_append] at hb'
        obtain rfl := List.tail_eq_of_cons_eq hb'
        rw [List.append_assoc, List.cons_append] at hn
        have hle : n ≤ b'.length :=
          partLength_within (openAccessors_blind v) (openAccessors_outer hv h.outer h.opens) hn
        rw [List.length_append]
        omega

end MethodBehind

/-- The methods of a program are those of the lines that the loop comes to. It comes to a method at
the margin exactly if the last template or main part before it is a main part. -/
theorem mem_methods_behind (v : Vocabulary) (source : Text) (p : Program) (before : List Text)
    (opening : Text) (block : List Text) (line : Text) (rest : List Text) (hv : v.SlashFree)
    (hl : source.trim.lines = before ++ opening :: (block ++ line :: rest))
    (h : MethodBehind v opening block line) (hp : (openAccessors v).read source = .ok p) :
    (∀ m, m ∈ p.methods ↔
      ∃ first post, Program.Comes (openAccessors v).programRules source.trim.lines first post ∧
        Program.Brings (openAccessors v).programRules first post m) ∧
      (Program.Comes (openAccessors v).programRules source.trim.lines line rest ↔
        opening.trim = "main".toList) ∧
      (opening.trim = "main".toList → ∀ sig, (openAccessors v).freeSignature? line = some sig →
        ∃ m ∈ p.methods, m.name = sig.name ∧
          ∃ n, (openAccessors v).readStandalone line rest = .ok (some m, n)) := by
  obtain ⟨bodies, hparts⟩ := parts_of_read hp
  rw [hl] at hparts ⊢
  have hcomes := h.comes_iff hv hparts
  refine ⟨fun m => hparts.mem_methods_iff, hcomes, ?_⟩
  intro hm sig hsig
  obtain ⟨n, hn⟩ := hparts.partLength_of_comes (hcomes.2 hm)
  rw [partLength_free (Bool.eq_false_iff.1 h.unopened) h.ne_main, if_pos ⟨h.method, rfl⟩] at hn
  obtain ⟨⟨m?, k⟩, hread, -⟩ := map_eq_ok.1 hn
  obtain ⟨m, rfl, hname⟩ := name_of_readStandalone h.method hsig hread
  have hbrings : Program.Brings (openAccessors v).programRules line rest m :=
    ⟨congrArg Except.ok h.unopened, h.method, _, k, rfl, hread⟩
  exact ⟨m, hparts.mem_methods_iff.2 ⟨line, rest, hcomes.2 hm, hbrings⟩, hname, k, hread⟩

theorem mem_methods_behind_template_and_main :
    let source : Text :=
      "program P\ntemplate A\nmethod f()\n    x()\nmain\n    y()\nmethod g()\n    z()"
    let rules := (openAccessors .standard).programRules
    ∃ p, (openAccessors .standard).read source = .ok p ∧
      p.methods = [{ name := "g", isStatic := true, body := ["z();"] }] ∧
      ¬Program.Comes rules source.trim.lines "method f()"
        ["    x()", "main", "    y()", "method g()", "    z()"] ∧
      Program.Comes rules source.trim.lines "method g()" ["    z()"] := by
  intro source rules
  let p : Program :=
    { name := "P"
      main := ["y();"]
      templates := [{ name := "A", accessors := [⟨"method f()", .pack⟩, ⟨"x()", .pack⟩] }]
      methods := [{ name := "g", isStatic := true, body := ["z();"] }] }
  have hp : (openAccessors .standard).read source = .ok p := by decide +kernel
  have hf : MethodBehind .standard "template A" [] "method f()" := by
    constructor <;> decide +kernel
  have hg : MethodBehind .standard "main" ["    y()"] "method g()" := by
    constructor <;> decide +kernel
  obtain ⟨-, hcomes, -⟩ := mem_methods_behind .standard source p ["program P"] "template A" []
    "method f()" ["    x()", "main", "    y()", "method g()", "    z()"]
    Vocabulary.standard_slashFree (by decide +kernel) hf hp
  obtain ⟨-, hcomes', -⟩ := mem_methods_behind .standard source p
    ["program P", "template A", "method f()", "    x()"] "main" ["    y()"] "method g()" ["    z()"]
    Vocabulary.standard_slashFree (by decide +kernel) hg hp
  exact ⟨p, hp, rfl, fun h => absurd (hcomes.1 h) (by decide +kernel),
    hcomes'.2 (by decide +kernel)⟩

end Edition

end JavaSketch
