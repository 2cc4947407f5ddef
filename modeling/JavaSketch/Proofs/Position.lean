import JavaSketch.Proofs.Progress

namespace JavaSketch

namespace Template

/-- The lines that a template takes, one after another, and what becomes of the template. -/
inductive Takes (r : TemplateRules) :
    Template → Option Text → List Text → Template → Nat → Prop
  | finish {t : Template} {heading : Option Text} : Takes r t heading [] t 0
  | idle {t t' : Template} {heading : Option Text} {line : Text} {rest : List Text} {n : Nat}
    (blank : isIdle line.trim = true) (more : Takes r t heading rest t' n) :
    Takes r t heading (line :: rest) t' (n + 1)
  | stop {t : Template} {heading : Option Text} {line : Text} {rest : List Text}
    (blank : isIdle line.trim = false) (ends : r.ends line line.trim = .ok true) :
    Takes r t heading (line :: rest) t 0
  | enter {t t' : Template} {heading : Option Text} {line name : Text} {rest : List Text} {n : Nat}
    (blank : isIdle line.trim = false) (ends : r.ends line line.trim = .ok false)
    (opens : r.heading? line line.trim = some name) (more : Takes r t (some name) rest t' n) :
    Takes r t heading (line :: rest) t' (n + 1)
  | member {t u t' : Template} {heading : Option Text} {line : Text} {rest : List Text}
    {k n : Nat} (blank : isIdle line.trim = false) (ends : r.ends line line.trim = .ok false)
    (opens : r.heading? line line.trim = none)
    (reads : readMember r t heading line rest = .ok (u, k))
    (more : Takes r u heading (rest.drop k) t' n) :
    Takes r t heading (line :: rest) t' (n + k + 1)

variable {r : TemplateRules} {v : Vocabulary} {word other line : Text} {lines rest : List Text}
  {t t' : Template} {heading : Option Text} {n k : Nat}

theorem Takes.readMembers_eq (h : Takes r t heading lines t' n) :
    readMembers r t heading lines = .ok (t', n) := by
  induction h with
  | finish => exact readMembers_nil
  | idle blank _ ih =>
    rw [readMembers_idle blank, ih]
    rfl
  | stop blank ends => exact readMembers_stop blank ends
  | enter blank ends opens _ ih =>
    rw [readMembers_enter blank ends opens, ih]
    rfl
  | member blank ends opens reads _ ih =>
    rw [readMembers_member blank ends opens]
    exact bind_eq_ok.2 ⟨_, reads, bind_eq_ok.2 ⟨_, ih, rfl⟩⟩

theorem takes_of_readMembers (h : readMembers r t heading lines = .ok (t', n)) :
    Takes r t heading lines t' n := by
  induction lines using lines_induction generalizing t heading t' n with
  | nil =>
    rw [readMembers_nil] at h
    cases h
    exact .finish
  | cons line rest ih =>
    cases blank : isIdle line.trim with
    | true =>
      rw [readMembers_idle blank] at h
      obtain ⟨⟨u, m⟩, hm, h⟩ := bind_eq_ok.1 h
      cases h
      exact .idle blank (ih 0 hm)
    | false =>
      cases ends : r.ends line line.trim with
      | error f =>
        rw [readMembers_broken blank ends] at h
        cases h
      | ok stops =>
        cases stops with
        | true =>
          rw [readMembers_stop blank ends] at h
          cases h
          exact .stop blank ends
        | false =>
          cases opens : r.heading? line line.trim with
          | some name =>
            rw [readMembers_enter blank ends opens] at h
            obtain ⟨⟨u, m⟩, hm, h⟩ := bind_eq_ok.1 h
            cases h
            exact .enter blank ends opens (ih 0 hm)
          | none =>
            rw [readMembers_member blank ends opens] at h
            obtain ⟨⟨u, k⟩, hk, h⟩ := bind_eq_ok.1 h
            obtain ⟨⟨w, m⟩, hm, h⟩ := bind_eq_ok.1 h
            cases h
            exact .member blank ends opens hk (ih k hm)

/-- Under both words the section holds the same kind of members. -/
def SameSection (v : Vocabulary) (word other name : Text) : Prop :=
  TemplateRules.sectionKind? v word name = TemplateRules.sectionKind? v other name

/-- The line does not open a section that the two words name differently. -/
def SameHeading (v : Vocabulary) (word other line : Text) : Prop :=
  ∀ name, (TemplateRules.current v word).heading? line line.trim = some name →
    SameSection v word other name

theorem readMember_sameSection (hh : ∀ name ∈ heading, SameSection v word other name) :
    readMember (.current v word) t heading line rest =
      readMember (.current v other) t heading line rest := by
  have hk : (TemplateRules.current v word).kind? heading line.indent =
      (TemplateRules.current v other).kind? heading line.indent := by
    cases heading with
    | none => rfl
    | some name =>
      cases name with
      | nil => rfl
      | cons c name =>
        have hs : TemplateRules.sectionKind? v word (c :: name) =
          TemplateRules.sectionKind? v other (c :: name) := hh _ rfl
        simp only [TemplateRules.current, hs]
  rw [readMember, readMember, hk]
  rfl

theorem Takes.sameHeading (h : Takes (.current v word) t heading lines t' n)
    (hh : ∀ name ∈ heading, SameSection v word other name)
    (hs : ∀ line ∈ lines.take n, SameHeading v word other line) :
    Takes (.current v other) t heading lines t' n := by
  induction h with
  | finish => exact .finish
  | idle blank more ih =>
    rw [List.take_succ_cons] at hs
    exact .idle blank (ih hh (List.forall_mem_cons.1 hs).2)
  | stop blank ends => exact .stop blank ends
  | enter blank ends opens more ih =>
    rw [List.take_succ_cons] at hs
    obtain ⟨hl, hr⟩ := List.forall_mem_cons.1 hs
    refine .enter blank ends opens (ih (fun name hn => ?_) hr)
    cases hn
    exact hl _ opens
  | @member t u t' heading line rest k n blank ends opens reads more ih =>
    rw [List.take_succ_cons] at hs
    have hr := (List.forall_mem_cons.1 hs).2
    rw [readMember_sameSection hh] at reads
    refine .member blank ends opens reads (ih hh fun line hl => hr line ?_)
    have hd : (rest.drop k).take n = (rest.take (n + k)).drop k := by
      rw [List.drop_take, Nat.add_sub_cancel]
    rw [hd] at hl
    exact List.mem_of_mem_drop hl

theorem read_sameHeading (h : read v word line rest = .ok (t, n))
    (hs : ∀ line ∈ rest.take n, SameHeading v word other line) :
    read v other line rest = .ok (t, n) := by
  cases hn : v.templateName? line.trim with
  | none =>
    rw [read_of_nameless hn] at h
    cases h
  | some name =>
    rw [read_of_name hn] at h ⊢
    have ht := (takes_of_readMembers h).sameHeading (fun _ hn => by cases hn) hs
    exact ht.readMembers_eq

end Template

namespace Program

/-- The parts on the lines, one after another: templates, the bodies of main parts, and methods. -/
inductive Parts (r : ProgramRules) :
    List Text → List Template → List (List Text) → List Method → Prop
  | finish : Parts r [] [] [] []
  | template {line : Text} {rest : List Text} {t : Template} {n : Nat} {ts : List Template}
    {bodies : List (List Text)} {ms : List Method} (opens : r.opensTemplate line.trim = .ok true)
    (reads : r.template line rest = .ok (t, n)) (more : Parts r (rest.drop n) ts bodies ms) :
    Parts r (line :: rest) (t :: ts) bodies ms
  | main {line : Text} {rest body : List Text} {n : Nat} {ts : List Template}
    {bodies : List (List Text)} {ms : List Method} (opens : r.opensTemplate line.trim = .ok false)
    (main : line.trim = "main".toList) (reads : r.main rest = .ok (body, n))
    (more : Parts r (rest.drop n) ts bodies ms) : Parts r (line :: rest) ts (body :: bodies) ms
  | method {method : Text → List Text → Except Fault (Option Method × Nat)} {line : Text}
    {rest : List Text} {m : Option Method} {n : Nat} {ts : List Template}
    {bodies : List (List Text)} {ms : List Method} (opens : r.opensTemplate line.trim = .ok false)
    (main : line.trim ≠ "main".toList)
    (found : (if line.trim.startsWith "method " then r.method? else none) = some method)
    (reads : method line rest = .ok (m, n)) (more : Parts r (rest.drop n) ts bodies ms) :
    Parts r (line :: rest) ts bodies (m.toList ++ ms)
  | skip {line : Text} {rest : List Text} {ts : List Template} {bodies : List (List Text)}
    {ms : List Method} (opens : r.opensTemplate line.trim = .ok false)
    (main : line.trim ≠ "main".toList)
    (found : (if line.trim.startsWith "method " then r.method? else none) = none)
    (more : Parts r rest ts bodies ms) : Parts r (line :: rest) ts bodies ms

variable {r : ProgramRules} {p q : Program} {lines : List Text} {ts : List Template}
  {bodies : List (List Text)} {ms : List Method}

theorem Parts.readParts_eq (h : Parts r lines ts bodies ms) (p : Program) :
    readParts r p lines = .ok
      { p with
        templates := p.templates ++ ts, main := bodies.getLastD p.main
        methods := p.methods ++ ms } := by
  induction h generalizing p with
  | finish => rw [readParts_nil, List.append_nil, List.append_nil, List.getLastD_nil]
  | @template line rest t n ts bodies ms opens reads more ih =>
    rw [readParts_template opens, reads]
    refine (ih _).trans ?_
    rw [List.append_assoc]
    rfl
  | @main line rest body n ts bodies ms opens main reads more ih =>
    rw [readParts_main opens main, reads]
    refine (ih _).trans ?_
    rw [List.getLastD_cons]
  | @method method line rest m n ts bodies ms opens main found reads more ih =>
    rw [readParts_method opens main found, reads]
    refine (ih _).trans ?_
    rw [List.append_assoc]
  | skip opens main found more ih =>
    rw [readParts_pass opens main found]
    exact ih p

theorem parts_of_readParts (h : readParts r p lines = .ok q) :
    ∃ ts bodies ms, Parts r lines ts bodies ms := by
  induction lines using lines_induction generalizing p with
  | nil => exact ⟨[], [], [], .finish⟩
  | cons line rest ih =>
    cases opens : r.opensTemplate line.trim with
    | error f =>
      rw [readParts_broken opens] at h
      cases h
    | ok opened =>
      cases opened with
      | true =>
        rw [readParts_template opens] at h
        obtain ⟨⟨t, n⟩, ht, h⟩ := bind_eq_ok.1 h
        obtain ⟨ts, bodies, ms, more⟩ := ih n h
        exact ⟨t :: ts, bodies, ms, .template opens ht more⟩
      | false =>
        by_cases main : line.trim = "main".toList
        · rw [readParts_main opens main] at h
          obtain ⟨⟨body, n⟩, hb, h⟩ := bind_eq_ok.1 h
          obtain ⟨ts, bodies, ms, more⟩ := ih n h
          exact ⟨ts, body :: bodies, ms, .main opens main hb more⟩
        · cases found : if line.trim.startsWith "method " then r.method? else none with
          | some method =>
            rw [readParts_method opens main found] at h
            obtain ⟨⟨m, n⟩, hm, h⟩ := bind_eq_ok.1 h
            obtain ⟨ts, bodies, ms, more⟩ := ih n h
            exact ⟨ts, bodies, m.toList ++ ms, .method opens main found hm more⟩
          | none =>
            rw [readParts_pass opens main found] at h
            obtain ⟨ts, bodies, ms, more⟩ := ih 0 h
            exact ⟨ts, bodies, ms, .skip opens main found more⟩

theorem name_of_readParts (h : readParts r p lines = .ok q) : q.name = p.name := by
  obtain ⟨ts, bodies, ms, hparts⟩ := parts_of_readParts h
  rw [hparts.readParts_eq] at h
  cases h
  rfl

end Program

namespace Program

variable {t : Template} {i n : Nat}

theorem templateAt_append (v : Vocabulary) (before lines : List Text) (hi : i < lines.length) :
    templateAt v (before ++ lines) (before.length + i) =
      some (numbered (before.length + i + 1)
        (Template.read v (v.templateWordIn ((before ++ lines).headD [])) lines[i]
          (lines.drop (i + 1)))) := by
  have hl : (before ++ lines)[before.length + i]? = some lines[i] := by
    rw [List.getElem?_append_right (Nat.le_add_right _ _), Nat.add_sub_cancel_left]
    exact List.getElem?_eq_getElem hi
  have hd : (before ++ lines).drop (before.length + i + 1) = lines.drop (i + 1) := by
    rw [Nat.add_assoc, List.drop_append]
    simp
  rw [templateAt_eq hl, hd]

/-- Text in front of a template matters in one way: its first line may bring another word for the
sections of static members. The template is still the same if reading its own lines with that word
gives it, and so it does unless one of those lines opens a section that the words name
differently. -/
theorem templateAt_after (v : Vocabulary) (before lines : List Text) (i n : Nat) (t : Template)
    (hi : i < lines.length) (h : templateAt v lines i = some (.ok (t, n))) :
    let word := v.templateWordIn (lines.headD [])
    let other := v.templateWordIn ((before ++ lines).headD [])
    (templateAt v (before ++ lines) (before.length + i) = some (.ok (t, before.length + n)) ↔
      Template.read v other lines[i] (lines.drop (i + 1)) = .ok (t, n - (i + 1))) ∧
    ((∀ line ∈ (lines.take n).drop (i + 1), Template.SameHeading v word other line) →
      templateAt v (before ++ lines) (before.length + i) = some (.ok (t, before.length + n))) := by
  intro word other
  rw [templateAt_eq (List.getElem?_eq_getElem hi)] at h
  obtain ⟨m, hm, rfl⟩ := numbered_eq_ok.1 (Option.some.inj h)
  have hiff : templateAt v (before ++ lines) (before.length + i) =
        some (.ok (t, before.length + (i + 1 + m))) ↔
      Template.read v other lines[i] (lines.drop (i + 1)) = .ok (t, m) := by
    rw [templateAt_append v before lines hi, Option.some.injEq, numbered_eq_ok]
    constructor
    · rintro ⟨m', hr, hn⟩
      have he : m' = m := by omega
      rw [← he]
      exact hr
    · intro hr
      exact ⟨m, hr, by omega⟩
  rw [Nat.add_sub_cancel_left]
  refine ⟨hiff, fun hs => hiff.2 (Template.read_sameHeading hm ?_)⟩
  rw [List.drop_take, Nat.add_sub_cancel_left] at hs
  exact hs

theorem templateAt_after_programLine :
    let lines : List Text := ["blueprint A", "    blueprint vars:", "        x as int"]
    let t : Template := { name := "A", staticVars := [⟨"x", "int", .pack, none, true⟩] }
    templateAt Vocabulary.standard lines 0 = some (.ok (t, 3)) ∧
      templateAt Vocabulary.standard ("blueprint B" :: lines) 1 = some (.ok (t, 4)) ∧
      templateAt Vocabulary.standard ("program P" :: lines) 1 =
        some (.ok ({ name := "A" }, 4)) := by
  intro lines t
  have h : templateAt Vocabulary.standard lines 0 = some (.ok (t, 3)) := by decide +kernel
  have hword : Vocabulary.standard.templateWordIn "blueprint A" =
      Vocabulary.standard.templateWordIn "blueprint B" := by decide +kernel
  refine ⟨h, ?_, by decide +kernel⟩
  refine (templateAt_after .standard ["blueprint B"] lines 0 3 t (by decide) h).2 ?_
  intro line _ name _
  exact congrArg (TemplateRules.sectionKind? Vocabulary.standard · name) hword

end Program

end JavaSketch
