import JavaSketch.Proofs.CommentMarks

namespace JavaSketch

namespace Pattern

variable {word s : Text} {p : Pattern}

theorem find?_word_of_unblank (hs : s.any isBlank = false) :
    find? (anyCase word ++ .gap :: p) s = none := by
  induction word generalizing s with
  | nil =>
    cases s with
    | nil => rfl
    | cons d s =>
      rw [List.any_cons, Bool.or_eq_false_iff] at hs
      exact find?_gap hs.1 s
  | cons c word ih =>
    cases s with
    | nil => rfl
    | cons d s =>
      rw [List.any_cons, Bool.or_eq_false_iff] at hs
      rw [anyCase, List.map_cons, List.cons_append, ← anyCase, find?]
      split
      · exact ih hs.2
      · rfl

end Pattern

namespace Program

variable {v : Vocabulary} {r : ProgramRules} {p q : Program} {line first c source : Text}
  {lines rest : List Text}

theorem templateName?_main (v : Vocabulary) : v.templateName? "main" = none := by
  rw [Vocabulary.templateName?, List.findSome?_eq_none_iff]
  intro word _
  exact nameAfter?_of_none (Pattern.find?_word_of_unblank rfl)

theorem forall_drop {P : Text → Prop} {n : Nat} (h : ∀ l ∈ line :: rest, P l) :
    ∀ l ∈ rest.drop n, P l :=
  fun l hl => h l (List.mem_cons_of_mem _ (List.mem_of_mem_drop hl))

theorem Parts.sameHeading {other : Text} {ts : List Template} {bodies : List (List Text)}
    {ms : List Method} (h : Parts (.current v [first]) lines ts bodies ms)
    (hs : ∀ line ∈ lines,
      Template.SameHeading v (v.templateWordIn first) (v.templateWordIn other) line) :
    Parts (.current v [other]) lines ts bodies ms := by
  induction h with
  | finish => exact .finish
  | template opens reads _ ih =>
    refine .template opens (Template.read_sameHeading reads fun l hl => hs l ?_)
      (ih (forall_drop hs))
    exact List.mem_cons_of_mem _ (List.mem_of_mem_take hl)
  | main opens main reads _ ih => exact .main opens main reads (ih (forall_drop hs))
  | method opens main found reads _ ih =>
    exact .method opens main found reads (ih (forall_drop hs))
  | skip opens main found _ ih => exact .skip opens main found (ih (List.forall_mem_cons.1 hs).2)

theorem readParts_sameHeading {other : Text}
    (h : readParts (.current v [first]) p lines = .ok q)
    (hs : ∀ line ∈ lines,
      Template.SameHeading v (v.templateWordIn first) (v.templateWordIn other) line) :
    readParts (.current v [other]) p lines = .ok q := by
  obtain ⟨ts, bodies, ms, hparts⟩ := parts_of_readParts h
  rw [hparts.readParts_eq] at h
  rw [(hparts.sameHeading hs).readParts_eq, h]

/-- A program line: it opens no template and begins with `program`. -/
def isProgramLine (v : Vocabulary) (line : Text) : Bool :=
  !v.opensTemplate line.trim && line.trim.startsWith "program "

/-- A program line gives the name; otherwise the first part of the program does. -/
theorem nameAndStart_eq (v : Vocabulary) (first : Text) (rest : List Text) :
    v.nameAndStart (first :: rest) = if isProgramLine v first then (nameIn first.trim, 1)
      else (v.nameFromParts (first :: rest), 0) := by
  rw [Vocabulary.nameAndStart_cons, isProgramLine, Vocabulary.opensTemplate]
  cases hn : v.templateName? first.trim with
  | none =>
    rw [Option.isSome_none, Bool.not_false, Bool.true_and]
  | some name =>
    have hmain : first.trim ≠ "main" := by
      intro hm
      rw [hm, templateName?_main] at hn
      cases hn
    have hfirst : v.nameFromPart? first = some name := by
      rw [Vocabulary.nameFromPart?, if_neg hmain]
      exact hn
    rw [Vocabulary.nameFromParts, List.findSome?_cons, hfirst]
    rfl

theorem opensTemplate_of_not {lines : List Text} {s : Text}
    (h : (!v.opensTemplate s) = true) :
    (ProgramRules.current v lines).opensTemplate s = .ok false := by
  rw [ProgramRules.opensTemplate_current, (Bool.not_eq_true' _).mp h]

theorem readParts_skip {d : Char} {t : Text} (ho : r.opensTemplate line.trim = .ok false)
    (hd : d ≠ 'm') (h : line.trim.startsWith (d :: t) = true) :
    readParts r p (line :: rest) = readParts r p rest := by
  have hm {t : Text} : line.trim.startsWith ('m' :: t) = false := Text.startsWith_of_ne hd h
  have hmain : line.trim ≠ "main" := by
    intro he
    have hs : line.trim.startsWith "main" = false := hm
    rw [he] at hs
    cases hs
  have hmethod : line.trim.startsWith "method " = false := hm
  exact readParts_pass ho hmain (by rw [hmethod, if_neg Bool.false_ne_true])

theorem readLines_eq (v : Vocabulary) (first : Text) (rest : List Text) :
    readLines v (first :: rest) =
      readParts (.current v [first]) { name := (v.nameAndStart (first :: rest)).1 }
        (first :: rest) := by
  rw [readLines_drop, nameAndStart_eq]
  cases hp : isProgramLine v first with
  | false => rfl
  | true =>
    obtain ⟨ho, hs⟩ := Bool.and_eq_true_iff.1 hp
    have hskip : readParts (.current v [first]) { name := nameIn first.trim } (first :: rest) =
        readParts (.current v [first]) { name := nameIn first.trim } rest :=
      readParts_skip (opensTemplate_of_not ho) (by decide) hs
    exact hskip.symm

theorem trim_commentLine (c : Text) : ∃ t, Text.trim ("// " ++ c) = '/' :: t := by
  have h : Text.trim ([] ++ '/' :: '/' :: ' ' :: c) =
      [] ++ '/' :: Text.trimRight ('/' :: ' ' :: c) :=
    Text.trim_append_cons (Text.head_cons rfl) rfl
  exact ⟨_, h⟩

theorem readLines_comment (hv : v.SlashFree) (c : Text) (lines : List Text) :
    readLines v (("// " ++ c) :: lines) =
      readParts (.current v ["// " ++ c]) { name := v.nameFromParts lines } lines := by
  obtain ⟨t, ht⟩ := trim_commentLine c
  have hn : v.templateName? (Text.trim ("// " ++ c)) = none := by
    rw [ht]
    exact hv.templateName?_slash t
  have hstart : (Text.trim ("// " ++ c)).startsWith ['/'] = true := by
    rw [ht]
    rfl
  have ho : v.opensTemplate (Text.trim ("// " ++ c)) = false := by
    rw [Vocabulary.opensTemplate, hn]
    rfl
  have hprogram : isProgramLine v ("// " ++ c) = false := by
    have hp : (Text.trim ("// " ++ c)).startsWith "program " = false :=
      Text.startsWith_of_ne (by decide) hstart
    rw [isProgramLine, hp, Bool.and_false]
  have hpart : v.nameFromPart? ("// " ++ c) = none := by
    have hm : Text.trim ("// " ++ c) ≠ "main" := by
      rw [ht]
      intro he
      cases he
    rw [Vocabulary.nameFromPart?, if_neg hm]
    exact hn
  have hname : v.nameFromParts (("// " ++ c) :: lines) = v.nameFromParts lines := by
    rw [Vocabulary.nameFromParts, List.findSome?_cons, hpart]
    rfl
  rw [readLines_eq, nameAndStart_eq, hprogram, if_neg Bool.false_ne_true, hname,
    readParts_skip (by rw [ProgramRules.opensTemplate_current, ho]) (by decide) hstart]

theorem read_commented (hv : v.SlashFree) (hc : '\n' ∉ c) (hs : source.trim = source)
    (hne : source ≠ []) :
    read v ("// " ++ c ++ "\n" ++ source) =
      readParts (.current v ["// " ++ c]) { name := v.nameFromParts source.lines }
        source.lines := by
  have hends : Text.trim ("// " ++ c ++ "\n" ++ source) = "// " ++ c ++ "\n" ++ source := by
    apply Text.trim_of_ends
    · exact Text.head_cons rfl
    · intro d hd
      rw [List.getLast?_append_of_ne_nil _ hne] at hd
      exact Text.getLast_of_trim hs d hd
  have hnl : '\n' ∉ ("// " ++ c : Text) := by
    rw [List.mem_append, not_or]
    exact ⟨by decide, hc⟩
  have hlines : Text.lines ("// " ++ c ++ "\n" ++ source) = ("// " ++ c) :: source.lines := by
    rw [List.append_assoc]
    exact Text.splitAt_append hnl
  rw [read, hends, hlines, readLines_comment hv]

/-- A program stays the same behind a comment exactly if its name does not come from a program line,
or is that of its first part anyway, and if its parts are the same with the word for static sections
that the comment brings. They are the same unless a line opens a section that the two words name
differently. -/
theorem read_after_comment (v : Vocabulary) (c source : Text) (p : Program) (hv : v.SlashFree)
    (hc : '\n' ∉ c) (hs : source.trim = source) (hne : source ≠ [])
    (h : read v source = .ok p) :
    let first := source.lines.headD []
    let other := "// " ++ c
    let named := isProgramLine v first = true →
      nameIn first.trim = v.nameFromParts source.lines
    (read v (other ++ "\n" ++ source) = .ok p ↔
      named ∧ readParts (.current v [other]) { name := p.name } source.lines = .ok p) ∧
    (named →
      (∀ line ∈ source.lines,
        Template.SameHeading v (v.templateWordIn first) (v.templateWordIn other) line) →
      read v (other ++ "\n" ++ source) = .ok p) := by
  intro first other named
  obtain ⟨line, rest, hl⟩ : ∃ line rest, source.lines = line :: rest :=
    List.exists_cons_of_ne_nil (Text.splitAt_ne_nil _ _)
  have hfirst : first = line := congrArg (·.headD []) hl
  have hread : readParts (.current v [line]) { name := (v.nameAndStart source.lines).1 }
      source.lines = .ok p := by
    rw [hl, ← readLines_eq, ← hl]
    rw [read, hs] at h
    exact h
  have hname : p.name = (v.nameAndStart source.lines).1 := name_of_readParts hread
  have hother := read_commented hv hc hs hne
  have hnamed : named ↔ v.nameFromParts source.lines = p.name := by
    rw [hname]
    change (isProgramLine v first = true → nameIn first.trim = v.nameFromParts source.lines) ↔ _
    rw [hfirst, hl, nameAndStart_eq]
    cases isProgramLine v line with
    | false => exact iff_of_true Bool.noConfusion rfl
    | true => exact ⟨fun h => (h rfl).symm, fun h _ => h.symm⟩
  have hiff : read v (other ++ "\n" ++ source) = .ok p ↔
      named ∧ readParts (.current v [other]) { name := p.name } source.lines = .ok p := by
    rw [hother, hnamed]
    constructor
    · intro hp
      have hn : p.name = v.nameFromParts source.lines := name_of_readParts hp
      exact ⟨hn.symm, by rw [hn]; exact hp⟩
    · rintro ⟨hn, hp⟩
      rw [hn]
      exact hp
  refine ⟨hiff, fun hn hsame => hiff.2 ⟨hn, ?_⟩⟩
  rw [hname]
  rw [hfirst] at hsame
  exact readParts_sameHeading hread hsame

theorem program_renamed_by_comment :
    let source : Text := "program P\nmain\n    x()"
    let p : Program := { name := "P", main := ["x();"] }
    read Vocabulary.standard source = .ok p ∧
      read Vocabulary.standard ("// note" ++ "\n" ++ source) ≠ .ok p := by
  intro source p
  have h : read Vocabulary.standard source = .ok p := by decide +kernel
  refine ⟨h, ?_⟩
  intro hp
  have hn := ((read_after_comment .standard "note" source p Vocabulary.standard_slashFree
    (by decide) (by decide) (by decide) h).1.1 hp).1
  exact absurd (hn (by decide +kernel)) (by decide +kernel)

end Program

end JavaSketch
