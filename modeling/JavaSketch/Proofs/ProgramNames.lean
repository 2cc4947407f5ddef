import JavaSketch.Command.Releases
import JavaSketch.Proofs.Creations
import JavaSketch.Proofs.Joining
import JavaSketch.Proofs.Openings

namespace JavaSketch

namespace Pattern

variable {word s : Text} {p : Pattern} {kept : List Text}

theorem exists_of_find?_exactly (h : find? (exactly word ++ p) s = some kept) :
    ∃ rest, s = word ++ rest ∧ find? p rest = some kept := by
  induction word generalizing s with
  | nil => exact ⟨s, rfl, h⟩
  | cons c word ih =>
    cases s with
    | nil => cases h
    | cons d s =>
      rw [exactly, List.map_cons, List.cons_append, find?] at h
      split_ifs at h with hd
      obtain ⟨rest, rfl, hrest⟩ := ih h
      exact ⟨rest, by rw [hd, List.cons_append], hrest⟩

theorem find?_name_blanks {pad : Text} (hp : ∀ c ∈ pad, isBlank c = true) (s : Text) :
    find? [.name] (s ++ pad) = find? [.name] s := by
  apply find?_run_append
  · apply Text.takeWhile_append_of_head
    intro c hc
    exact not_isWord_of_blank (hp c (List.mem_of_head? hc))
  · intro n
    rfl

end Pattern

theorem isName_default : IsName "DefaultProgram" := ⟨by decide, by decide⟩

theorem isName_main : IsName "MainProgram" := ⟨by decide, by decide⟩

namespace Program

variable {v : Vocabulary} {s pad name line : Text} {lines : List Text}

theorem isName_nameIn (line : Text) : IsName (nameIn line) := by
  rw [nameIn]
  split
  case h_1 name found =>
    obtain ⟨rest, -, hrest⟩ := Pattern.exists_of_find?_exactly found
    obtain ⟨_, hk, hs⟩ := Pattern.spells_of_find?_gap hrest
    cases hk
    exact hs.isName
  case h_2 => exact isName_default

theorem isName_nameFromPart (h : v.nameFromPart? line = some name) : IsName name := by
  rw [Vocabulary.nameFromPart?] at h
  split_ifs at h
  · cases h
    exact isName_main
  · exact (Vocabulary.templateName?_eq_some.1 h).isName

theorem isName_nameFromParts (v : Vocabulary) (lines : List Text) :
    IsName (v.nameFromParts lines) := by
  rw [Vocabulary.nameFromParts]
  cases h : lines.findSome? v.nameFromPart? with
  | none => exact isName_default
  | some name =>
    obtain ⟨line, -, hl⟩ := List.exists_of_findSome?_eq_some h
    exact isName_nameFromPart hl

theorem isName_nameAndStart (v : Vocabulary) (first : Text) (rest : List Text) :
    IsName (v.nameAndStart (first :: rest)).1 := by
  rw [nameAndStart_eq]
  split_ifs
  · exact isName_nameIn _
  · exact isName_nameFromParts v _

theorem isName_of_read {source : Text} {p : Program} (h : read v source = .ok p) :
    IsName p.name := by
  rw [read] at h
  cases hl : source.trim.lines with
  | nil => exact absurd hl (Text.splitAt_ne_nil '\n' source.trim)
  | cons first rest =>
    rw [hl] at h
    have hname : p.name = (v.nameAndStart (first :: rest)).1 := by
      rw [readLines_drop] at h
      exact name_of_readParts h
    rw [hname]
    exact isName_nameAndStart v first rest

theorem find?_namePattern (t : Text) :
    namePattern.find? ("program".toList ++ t) = Pattern.find? [.gap, .name] t :=
  Pattern.find?_exactly_append "program".toList

theorem nameIn_append (hs : s.trim = s) (hp : s.startsWith "program " = true)
    (hpad : ∀ c ∈ pad, isBlank c = true) : nameIn (s ++ pad) = nameIn s := by
  obtain ⟨r, hr⟩ := List.isPrefixOf_iff_prefix.1 hp
  have htext : s = "program".toList ++ (' ' :: r) := hr.symm
  have hne : Text.trim (' ' :: r) ≠ [] := by
    intro hblank
    have hall : ∀ c ∈ ' ' :: r, isBlank c = true := by
      intro c hc
      by_contra hb
      have hmem := Text.mem_trim hc (Bool.eq_false_iff.2 hb)
      rw [hblank] at hmem
      cases hmem
    rw [htext, Text.trim_append_right hall] at hs
    have hlength := congrArg List.length hs
    rw [List.length_append, List.length_cons] at hlength
    have hword : (Text.trim "program".toList).length = "program".toList.length := by decide
    omega
  have hfind : namePattern.find? (s ++ pad) = namePattern.find? s := by
    rw [htext, List.append_assoc, find?_namePattern, find?_namePattern]
    apply Pattern.find?_run_append
    · exact Text.takeWhile_blank_append hne pad
    · intro n
      exact Pattern.find?_name_blanks hpad _
  rw [nameIn, nameIn, hfind]

theorem nameIn_nameless (hpad : ∀ c ∈ pad, isBlank c = true) :
    nameIn ("program".toList ++ pad) = "DefaultProgram".toList := by
  have hfind : namePattern.find? ("program".toList ++ pad) = none := by
    rw [find?_namePattern]
    apply Pattern.find?_gap_of_head
    rw [List.dropWhile_eq_nil_iff.2 hpad]
    intro c hc
    cases hc
  rw [nameIn, hfind]

theorem nameFromPart?_blank (h : line.trim = []) : v.nameFromPart? line = none := by
  rw [Vocabulary.nameFromPart?, h, if_neg (by decide)]
  exact Option.not_isSome_iff_eq_none.1 (Bool.eq_false_iff.1 v.opensTemplate_nil)

theorem nameFromPart?_trim {line' : Text} (h : line'.trim = line.trim) :
    v.nameFromPart? line' = v.nameFromPart? line := by
  rw [Vocabulary.nameFromPart?, Vocabulary.nameFromPart?, h]

theorem findSome?_extends {lines' : List Text} (h : Extends [] lines lines') :
    lines'.findSome? v.nameFromPart? = lines.findSome? v.nameFromPart? := by
  induction h with
  | reach => rfl
  | blank blank more ih => rw [List.findSome?_cons, nameFromPart?_blank blank, ih]
  | line alike more ih =>
    rw [List.findSome?_cons, List.findSome?_cons, nameFromPart?_trim alike.trim_eq, ih]

theorem findSome?_blank_append (hpad : ∀ c ∈ pad, isBlank c = true) (s : Text) :
    (Text.lines (pad ++ s)).findSome? v.nameFromPart? =
      s.lines.findSome? v.nameFromPart? := by
  induction pad with
  | nil => rfl
  | cons c pad ih =>
    obtain ⟨hc, hrest⟩ := List.forall_mem_cons.1 hpad
    rw [← ih hrest, List.cons_append, Text.lines, Text.lines, Text.splitAt]
    by_cases hn : c = '\n'
    · rw [if_pos hn, List.findSome?_cons, nameFromPart?_blank rfl]
    · rw [if_neg hn]
      cases hl : Text.splitAt '\n' (pad ++ s) with
      | nil => exact absurd hl (Text.splitAt_ne_nil '\n' (pad ++ s))
      | cons piece pieces =>
        have htrim : Text.trim (c :: piece) = piece.trim :=
          Text.trim_append (List.forall_mem_singleton.2 hc)
        rw [List.findSome?_cons, List.findSome?_cons, nameFromPart?_trim htrim]

theorem findSome?_trim (v : Vocabulary) (source : Text) :
    source.lines.findSome? v.nameFromPart? = source.trim.lines.findSome? v.nameFromPart? := by
  obtain ⟨before, after, hbefore, hafter, hs⟩ := source.exists_trim
  have hx : Extends [] source.trim.lines ((source.trim ++ after).lines ++ []) :=
    extends_lines hafter _
  rw [List.append_nil] at hx
  conv_lhs => rw [hs]
  rw [findSome?_blank_append hbefore, findSome?_extends hx]

end Program

namespace Release

variable {v : Vocabulary}

/-- The first line is the word `program` with nothing but blanks behind it, the first of them a
space, and the parts of the program give it a name. -/
def LosesName (v : Vocabulary) (source : Text) : Prop :=
  (firstLine source).startsWith "program " = true ∧ (firstLine source).trim = "program" ∧
    v.nameFromParts source.trim.lines ≠ "DefaultProgram"

/-- Blanks stand only behind the first line. -/
theorem exists_firstLine (source : Text) : ∃ pad : Text, (∀ c ∈ pad, isBlank c = true) ∧
    firstLine source = (firstLine source).trim ++ pad := by
  have hleft : (firstLine source).trimLeft = firstLine source := by
    apply Text.trimLeft_of_head
    intro c hc
    obtain ⟨rest, hrest⟩ := source.trim.firstLine_isPrefix
    cases hf : firstLine source with
    | nil =>
      rw [hf] at hc
      cases hc
    | cons d line =>
      rw [hf] at hc
      cases hc
      rw [firstLine] at hf
      apply Text.head_of_trim (Text.trim_trim source)
      rw [← hrest, hf]
      rfl
  obtain ⟨pad, hpad, hline⟩ := (firstLine source).exists_trimRight
  refine ⟨pad, hpad, ?_⟩
  rw [Text.trim, hleft]
  exact hline

/-- Only the bare word begins with `program` and a space and does not do so without the blanks at
its end. -/
theorem eq_program {s pad : Text} (hs : s.trim = s) (hpad : ∀ c ∈ pad, isBlank c = true)
    (h : (s ++ pad).startsWith "program " = true) (hn : ¬s.startsWith "program " = true) :
    s = "program".toList := by
  have hprefix := List.isPrefixOf_iff_prefix.1 h
  rcases List.prefix_or_prefix_of_prefix hprefix (List.prefix_append s pad) with hp | ⟨t, ht⟩
  · exact absurd (List.isPrefixOf_iff_prefix.2 hp) hn
  · have htpad : t <+: pad := by
      rw [← ht] at hprefix
      exact (List.prefix_append_right_inj s).1 hprefix
    have hblank : ∀ c ∈ t, isBlank c = true := fun c hc => hpad c (htpad.subset hc)
    calc s = s.trim := hs.symm
      _ = (s ++ t).trim := (Text.trim_append_right hblank).symm
      _ = "program".toList := by
        rw [ht]
        decide

theorem templateName?_program (v : Vocabulary) : v.templateName? "program" = none := by
  have htrim : Text.trim "program".toList = "program".toList := by decide
  rw [Vocabulary.templateName?, htrim, List.findSome?_eq_none_iff]
  intro word _
  exact nameAfter?_of_none (Pattern.find?_word_of_unblank (by decide))

theorem partName_eq (v : Vocabulary) (source : Text) :
    partName v.templateName? source = v.nameFromParts source.trim.lines := by
  rw [Vocabulary.nameFromParts, ← Program.findSome?_trim]
  rfl

/-- The file is named like the program unless the name is lost on the first line. -/
theorem nameByWords_iff (v : Vocabulary) (source : Text) :
    ∃ name, nameByWords v source = .ok name ∧ IsName name ∧
      (name = (v.nameAndStart source.trim.lines).1 ↔ ¬LosesName v source) := by
  obtain ⟨pad, hpad, hline⟩ := exists_firstLine source
  have hwords : v.templateName? (firstLine source) = v.templateName? (firstLine source).trim := by
    rw [Vocabulary.templateName?, Vocabulary.templateName?, Text.trim_trim]
  have hlines : source.trim.lines = firstLine source :: source.trim.lines.tail := by
    rw [firstLine]
    cases hl : source.trim.lines with
    | nil => exact absurd hl (Text.splitAt_ne_nil '\n' source.trim)
    | cons first rest => rfl
  have htrim := Text.trim_trim (firstLine source)
  rw [hlines, v.nameAndStart_cons, ← hlines, nameByWords, hwords]
  cases hn : v.templateName? (firstLine source).trim with
  | some name =>
    refine ⟨name, rfl, (Vocabulary.templateName?_eq_some.1 hn).isName, iff_of_true rfl ?_⟩
    rintro ⟨-, hbare, -⟩
    rw [hbare, templateName?_program] at hn
    cases hn
  | none =>
    dsimp only
    by_cases hs : (firstLine source).trim.startsWith "program " = true
    · have hl : (firstLine source).startsWith "program " = true := by
        rw [hline]
        exact List.isPrefixOf_iff_prefix.2
          ((List.isPrefixOf_iff_prefix.1 hs).trans (List.prefix_append _ pad))
      rw [if_pos hl, if_pos hs]
      refine ⟨_, rfl, Program.isName_nameIn _, iff_of_true ?_ ?_⟩
      · have hname := Program.nameIn_append htrim hs hpad
        rwa [← hline] at hname
      · rintro ⟨-, hbare, -⟩
        rw [hbare] at hs
        cases hs
    · rw [if_neg hs]
      by_cases hl : (firstLine source).startsWith "program " = true
      · have hl' := hl
        rw [hline] at hl'
        have hbare := eq_program htrim hpad hl' hs
        have hname : Program.nameIn (firstLine source) = "DefaultProgram".toList := by
          rw [hline, hbare]
          exact Program.nameIn_nameless hpad
        rw [if_pos hl, declaredName, hname]
        refine ⟨_, rfl, isName_default, ?_⟩
        constructor
        · rintro he ⟨-, -, hne⟩
          exact hne he.symm
        · intro h
          by_contra he
          exact h ⟨hl, hbare, fun hd => he hd.symm⟩
      · rw [if_neg hl, partName_eq]
        refine ⟨_, rfl, Program.isName_nameFromParts v _, iff_of_true rfl ?_⟩
        rintro ⟨hl', -, -⟩
        exact hl hl'

end Release

end JavaSketch
