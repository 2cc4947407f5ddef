import JavaSketch.Proofs.Additions
import JavaSketch.Proofs.LeadingComments

namespace JavaSketch

/-- A text begins with the letters of a word, in either case; blanks and a name follow. -/
inductive Spells : Text → Text → Text → Prop
  | name {gap name rest : Text} (blanks : ∀ c ∈ gap, isBlank c = true) (apart : gap ≠ [])
    (named : IsName name) (ends : ∀ c ∈ rest.head?, isWord c = false) :
    Spells [] (gap ++ (name ++ rest)) name
  | letter {word s name : Text} {c d : Char} (same : sameLetter c d = true)
    (more : Spells word s name) : Spells (c :: word) (d :: s) name

/-- Letter by letter the two texts are the same, as far as both go. -/
def agrees : Text → Text → Bool
  | c :: word, d :: s => sameLetter c d && agrees word s
  | _, _ => true

namespace Spells

variable {word s name part : Text}

theorem isName (h : Spells word s name) : IsName name := by
  induction h with
  | name _ _ named _ => exact named
  | letter _ _ ih => exact ih

theorem agrees_of_prefix (h : Spells word s name) (hp : part <+: s) : agrees word part = true := by
  induction h generalizing part with
  | name => rfl
  | letter same _ ih =>
    cases part with
    | nil => rfl
    | cons e part =>
      obtain ⟨rfl, hrest⟩ := List.cons_prefix_cons.1 hp
      rw [agrees, same, ih hrest]
      rfl

end Spells

namespace Pattern

variable {word s name : Text} {kept : List Text}

theorem find?_name_of_head (hs : ∀ c ∈ s.head?, isWord c = false) : find? [.name] s = none := by
  cases s with
  | nil => rfl
  | cons c s =>
    have hc : ¬isWord c = true := Bool.eq_false_iff.1 (hs c rfl)
    rw [Step.name, find?, lengths, show CharClass.word.holds = isWord from rfl,
      List.takeWhile_cons_of_neg hc]
    rfl

theorem find?_spelled (h : Spells word s name) :
    find? (anyCase word ++ [.gap, .name]) s = some [name] := by
  induction h with
  | @name gap name rest blanks apart named ends =>
    have hname : find? [.name] (name ++ rest) = some [name] :=
      find?_longest true (fun _ => named.char) ends (List.length_pos_iff.2 named.ne_nil) rfl
    apply find?_longest false blanks _ (List.length_pos_iff.2 apart) hname
    intro c hc
    rw [List.head?_append_of_ne_nil _ named.ne_nil] at hc
    exact not_blank_of_isWord (named.char (List.mem_of_head? hc))
  | letter same _ ih =>
    rw [anyCase, List.map_cons, List.cons_append, find?, if_pos same]
    exact ih

/-- Blanks that no name follows are no gap before a name, even if fewer of them are taken. -/
theorem find?_gap_of_head (hs : ∀ c ∈ (s.dropWhile isBlank).head?, isWord c = false) :
    find? [.gap, .name] s = none := by
  rw [Step.gap, find?, List.findSome?_eq_none_iff]
  intro n hn
  have hle : n ≤ (s.takeWhile isBlank).length := le_of_mem_lengths hn
  have hdrop : s.drop n = (s.takeWhile isBlank).drop n ++ s.dropWhile isBlank := by
    rw [← List.drop_append_of_le_length hle, List.takeWhile_append_dropWhile]
  have hnone : find? [.name] (s.drop n) = none := by
    apply find?_name_of_head
    rw [hdrop]
    intro c hc
    cases hd : (s.takeWhile isBlank).drop n with
    | nil =>
      rw [hd] at hc
      exact hs c hc
    | cons b blanks =>
      rw [hd] at hc
      cases hc
      have hb : c ∈ s.takeWhile isBlank := List.mem_of_mem_drop (hd ▸ List.mem_cons_self)
      exact not_isWord_of_blank (List.all_eq_true.1 List.all_takeWhile c hb)
  rw [hnone]
  rfl

theorem takeWhile_ne_nil {p : Char → Bool} (h : ¬∀ c ∈ s.head?, p c = false) :
    s.takeWhile p ≠ [] := by
  intro he
  apply h
  intro c hc
  cases s with
  | nil => cases hc
  | cons d s =>
    cases hc
    rw [Bool.eq_false_iff]
    intro hp
    rw [List.takeWhile_cons_of_pos hp] at he
    cases he

theorem head_of_find?_gap (h : find? [.gap, .name] s = some kept) :
    ¬∀ c ∈ s.head?, isBlank c = false := by
  intro hs
  cases s with
  | nil => cases h
  | cons c s =>
    rw [find?_gap (hs c rfl)] at h
    cases h

theorem spells_of_find?_gap (h : find? [.gap, .name] s = some kept) :
    ∃ name, kept = [name] ∧ Spells [] s name := by
  have hgap : s.takeWhile isBlank ≠ [] := takeWhile_ne_nil (head_of_find?_gap h)
  have hname : (s.dropWhile isBlank).takeWhile isWord ≠ [] := by
    apply takeWhile_ne_nil
    intro hs
    rw [find?_gap_of_head hs] at h
    cases h
  have hends : ∀ c ∈ ((s.dropWhile isBlank).dropWhile isWord).head?, isWord c = false :=
    fun _ hc => Text.not_of_head_dropWhile hc
  have hspells := Spells.name (List.all_eq_true.1 List.all_takeWhile) hgap
    ⟨hname, List.all_takeWhile⟩ hends
  rw [List.takeWhile_append_dropWhile, List.takeWhile_append_dropWhile] at hspells
  have hfound : find? [.gap, .name] s = some _ := find?_spelled hspells
  rw [h] at hfound
  cases hfound
  exact ⟨_, rfl, hspells⟩

/-- A word, a gap and a name are found exactly where the text spells them. -/
theorem find?_eq_some_iff_spells :
    find? (anyCase word ++ [.gap, .name]) s = some kept ↔
      ∃ name, kept = [name] ∧ Spells word s name := by
  constructor
  · intro h
    induction word generalizing s with
    | nil => exact spells_of_find?_gap h
    | cons c word ih =>
      cases s with
      | nil => cases h
      | cons d s =>
        rw [anyCase, List.map_cons, List.cons_append, ← anyCase, find?] at h
        split at h
        case isTrue same =>
          obtain ⟨name, hk, hs⟩ := ih h
          exact ⟨name, hk, .letter same hs⟩
        case isFalse => cases h
  · rintro ⟨name, rfl, hs⟩
    exact find?_spelled hs

end Pattern

namespace Vocabulary

variable {v : Vocabulary} {line name : Text}

/-- The line opens a template with the name: of the template words that can be read at its start,
the first one leads to that name. -/
def Opens (v : Vocabulary) (line name : Text) : Prop :=
  ∃ before word after, v.templateWords = before ++ word :: after ∧ Spells word line.trim name ∧
    ∀ other ∈ before, ∀ name, ¬Spells other line.trim name

theorem nameAfter?_eq_some {word s : Text} :
    nameAfter? word s = some name ↔ Spells word s name := by
  rw [nameAfter?]
  constructor
  · intro h
    split at h
    · rename_i found
      cases h
      obtain ⟨_, hk, hs⟩ := Pattern.find?_eq_some_iff_spells.1 found
      cases hk
      exact hs
    · cases h
  · intro h
    rw [Pattern.find?_spelled h]

theorem templateName?_eq_some : v.templateName? line = some name ↔ v.Opens line name := by
  rw [templateName?, List.findSome?_eq_some_iff]
  constructor
  · rintro ⟨before, word, after, hwords, hword, hbefore⟩
    refine ⟨before, word, after, hwords, nameAfter?_eq_some.1 hword, ?_⟩
    intro other ho n hn
    have hnone := hbefore other ho
    rw [nameAfter?_eq_some.2 hn] at hnone
    cases hnone
  · rintro ⟨before, word, after, hwords, hword, hbefore⟩
    refine ⟨before, word, after, hwords, nameAfter?_eq_some.2 hword, ?_⟩
    intro other ho
    rw [Option.eq_none_iff_forall_not_mem]
    exact fun name hname => hbefore other ho name (nameAfter?_eq_some.1 hname)

theorem opens_trim : v.Opens line.trim name ↔ v.Opens line name := by
  rw [Opens, Text.trim_trim]
  rfl

theorem Opens.unique {other : Text} (h : v.Opens line name) (ho : v.Opens line other) :
    name = other := by
  have he := templateName?_eq_some.2 h
  rw [templateName?_eq_some.2 ho] at he
  exact (Option.some.inj he).symm

theorem Opens.isName (h : v.Opens line name) : IsName name := by
  obtain ⟨_, _, _, _, hs, _⟩ := h
  exact hs.isName

end Vocabulary

namespace Header

variable {v : Vocabulary} {line name : Text}

/-- What may stand in front of the template word on an opening line. -/
inductive Mark
  | abstract
  | interface

def Mark.holds : Mark → Header → Bool
  | .abstract, h => h.isAbstract
  | .interface, h => h.isInterface

/-- The opening lines with a mark, as they are written. -/
inductive Marked (v : Vocabulary) (name : Text) : Mark → Text → Prop
  | abstract {a word : Text} (ha : a ∈ v.abstractWords) (hw : word ∈ v.templateWords) :
    Marked v name .abstract (a ++ " " ++ word ++ " " ++ name)
  | interface : Marked v name .interface ("interface " ++ name)
  | interfaceOf {word : Text} (hw : word ∈ v.templateWords) :
    Marked v name .interface ("interface " ++ word ++ " " ++ name)

theorem read_trim (v : Vocabulary) (line : Text) : read v line.trim = read v line := by
  rw [read, read, Text.trim_trim]

theorem isAbstract_read : (read v line).isAbstract = true ↔
    ∃ a ∈ v.abstractWords, line.trim.startsWith (a ++ " ") = true := by
  have h : (read v line).isAbstract = (dropAbstract v line.trim).1 := rfl
  rw [h, dropAbstract, ← List.find?_isSome]
  cases v.abstractWords.find? fun a => line.trim.startsWith (a ++ " ") with
  | none => exact ⟨Bool.noConfusion, Bool.noConfusion⟩
  | some a => exact ⟨fun _ => rfl, fun _ => rfl⟩

theorem isInterface_read (h : (read v line).isAbstract = false) :
    (read v line).isInterface = line.trim.startsWith "interface " := by
  have ha : (dropAbstract v line.trim).1 = false := h
  have hi : (read v line).isInterface = (dropInterface (dropAbstract v line.trim).2).1 := rfl
  rw [hi]
  rw [dropAbstract] at ha ⊢
  cases hf : v.abstractWords.find? fun a => line.trim.startsWith (a ++ " ") with
  | none =>
    rw [dropInterface]
    cases line.trim.startsWith "interface " with
    | false => rfl
    | true => rfl
  | some a =>
    rw [hf] at ha
    cases ha

theorem Marked.getLast? {mark : Mark} (hm : Marked v name mark line) (hn : name ≠ []) :
    line ≠ [] ∧ line.getLast? = name.getLast? := by
  cases hm with
  | abstract _ _ =>
    exact ⟨List.append_ne_nil_of_right_ne_nil _ hn, List.getLast?_append_of_ne_nil _ hn⟩
  | interface => exact ⟨List.cons_ne_nil _ _, List.getLast?_append_of_ne_nil _ hn⟩
  | interfaceOf _ => exact ⟨List.cons_ne_nil _ _, List.getLast?_append_of_ne_nil _ hn⟩

theorem Marked.isAbstract (hm : Marked v name .abstract line) (ht : line.trim = line) :
    (read v line).isAbstract = true := by
  cases hm with
  | @abstract a word ha hw =>
    refine isAbstract_read.2 ⟨a, ha, ?_⟩
    rw [ht, List.append_assoc, List.append_assoc]
    exact List.isPrefixOf_iff_prefix.2 (List.prefix_append _ _)

end Header

namespace Vocabulary

variable {v : Vocabulary} {line name : Text}

/-- No line can begin with a template word and also with an abstract word or `interface`. -/
def MarksApart (v : Vocabulary) : Prop :=
  ∀ word ∈ v.templateWords, ∀ m ∈ "interface".toList :: v.abstractWords,
    agrees word (m ++ " ") = false

instance (v : Vocabulary) : Decidable v.MarksApart :=
  inferInstanceAs (Decidable (∀ word ∈ v.templateWords, _))

theorem standard_marksApart : standard.MarksApart := by decide +kernel

theorem MarksApart.unmarked (hv : v.MarksApart) (ho : v.Opens line name) {m : Text}
    (hm : m ∈ "interface".toList :: v.abstractWords) : line.trim.startsWith (m ++ " ") = false := by
  obtain ⟨before, word, after, hwords, hs, _⟩ := ho
  rw [Bool.eq_false_iff]
  intro hp
  have hmem : word ∈ v.templateWords := hwords ▸ List.mem_append_right _ List.mem_cons_self
  have ha := hs.agrees_of_prefix (List.isPrefixOf_iff_prefix.1 hp)
  rw [hv word hmem m hm] at ha
  cases ha

theorem MarksApart.read_eq (hv : v.MarksApart) (ho : v.Opens line name) :
    (Header.read v line).isAbstract = false ∧ (Header.read v line).isInterface = false := by
  have ha : (Header.read v line).isAbstract = false := by
    rw [Bool.eq_false_iff]
    intro h
    obtain ⟨a, ha, hp⟩ := Header.isAbstract_read.1 h
    rw [hv.unmarked ho (List.mem_cons_of_mem _ ha)] at hp
    cases hp
  refine ⟨ha, ?_⟩
  rw [Header.isInterface_read ha]
  exact hv.unmarked ho List.mem_cons_self

end Vocabulary

namespace Template

variable {v : Vocabulary} {word line : Text} {lines rest : List Text} {t u : Template}
  {heading : Option Text} {n : Nat}

/-- The template under another opening line. -/
def under (t : Template) (h : Header) : Template :=
  { t with
    isAbstract := h.isAbstract, isInterface := h.isInterface, parent := h.parent
    interfaces := h.interfaces }

theorem addAll_under (t : Template) (h : Header) (ms : List Member) :
    (t.under h).addAll ms = (t.addAll ms).under h := by
  induction ms generalizing t with
  | nil => rfl
  | cons m ms ih =>
    have hm : (t.under h).add m = (t.add m).under h := by
      cases m with
      | _ => rfl
    exact (congrArg (addAll · ms) hm).trans (ih (t.add m))

theorem memberOn_under (t : Template) (h : Header) (kind : Section) :
    memberOn (.current v word) (t.under h) kind line rest =
      memberOn (.current v word) t kind line rest := by
  cases kind with
  | _ => rfl

theorem readMember_under (h : Header)
    (hr : readMember (.current v word) t heading line rest = .ok (u, n)) :
    readMember (.current v word) (t.under h) heading line rest = .ok (u.under h, n) := by
  cases hk : (TemplateRules.current v word).kind? heading line.indent with
  | none =>
    rw [readMember_none hk] at hr ⊢
    cases hr
    rfl
  | some kind =>
    rw [readMember_some hk] at hr ⊢
    obtain ⟨⟨m?, k⟩, hm, he⟩ := map_eq_ok.1 hr
    cases he
    exact map_eq_ok.2 ⟨(m?, k), (memberOn_under t h kind).trans hm,
      congrArg (·, k) (addAll_under t h m?.toList)⟩

/-- What the opening line says plays no part in reading the members. -/
theorem Takes.under (h : Header) (ht : Takes (.current v word) t heading lines u n) :
    Takes (.current v word) (t.under h) heading lines (u.under h) n := by
  induction ht with
  | finish => exact .finish
  | idle blank _ ih => exact .idle blank ih
  | stop blank ends => exact .stop blank ends
  | enter blank ends opens _ ih => exact .enter blank ends opens ih
  | member blank ends opens reads _ ih =>
    exact .member blank ends opens (readMember_under h reads) ih

theorem opening_of_read (h : read v word line rest = .ok (t, n)) :
    v.Opens line t.name ∧ ∃ ms : List Member, (∀ m ∈ ms, m.Fits) ∧
      t = (ofHeader t.name (Header.read v line)).addAll ms := by
  cases hn : v.templateName? line.trim with
  | none =>
    rw [read_of_nameless hn] at h
    cases h
  | some name =>
    rw [read_of_name hn, Header.read_trim] at h
    obtain ⟨ms, hfit, rfl⟩ := (takes_of_readMembers h).grows
    have hname := ((ofHeader name (Header.read v line)).addAll_opening ms).1
    rw [hname]
    exact ⟨Vocabulary.opens_trim.1 (Vocabulary.templateName?_eq_some.1 hn), ms, hfit, rfl⟩

/-- The lines can be read to the last one as the sections of a template. -/
def Sections (v : Vocabulary) (word name : Text) (lines : List Text) : Prop :=
  ∃ t, readMembers (.current v word) { name } none lines = .ok (t, lines.length)

theorem read_of_sections {name : Text} (ho : v.Opens line name)
    (hs : Sections v word name lines) : ∃ t, read v word line lines = .ok (t, lines.length) := by
  obtain ⟨t, ht⟩ := hs
  have hn : v.templateName? line.trim = some name :=
    Vocabulary.templateName?_eq_some.2 (Vocabulary.opens_trim.2 ho)
  refine ⟨t.under (Header.read v line.trim), ?_⟩
  rw [read_of_name hn]
  exact ((takes_of_readMembers ht).under _).readMembers_eq

end Template

namespace Program

variable {v : Vocabulary} {p q : Program} {first line name source : Text} {lines rest : List Text}
  {t : Template} {n : Nat}

theorem Parts.template_mem {ts : List Template} {bodies : List (List Text)} {ms : List Method}
    (h : Parts (.current v [first]) lines ts bodies ms) (ht : t ∈ ts) :
    ∃ line ∈ lines, ∃ rest n,
      Template.read v (v.templateWordIn first) line rest = .ok (t, n) := by
  have hmore {line : Text} {rest : List Text} {n : Nat}
      (h : ∃ l ∈ rest.drop n, ∃ rest n,
        Template.read v (v.templateWordIn first) l rest = .ok (t, n)) :
      ∃ l ∈ line :: rest, ∃ rest n,
        Template.read v (v.templateWordIn first) l rest = .ok (t, n) := by
    obtain ⟨l, hl, hr⟩ := h
    exact ⟨l, List.mem_cons_of_mem _ (List.mem_of_mem_drop hl), hr⟩
  induction h with
  | finish => cases ht
  | template opens reads _ ih =>
    rcases List.mem_cons.1 ht with rfl | ht
    · exact ⟨_, List.mem_cons_self, _, _, reads⟩
    · exact hmore (ih ht)
  | main _ _ _ _ ih => exact hmore (ih ht)
  | method _ _ _ _ _ ih => exact hmore (ih ht)
  | skip _ _ _ _ ih => exact hmore (n := 0) (ih ht)

theorem template_of_readParts (h : readParts (.current v [first]) p lines = .ok q)
    (ht : t ∈ q.templates) : t ∈ p.templates ∨ ∃ line ∈ lines, ∃ rest n,
      Template.read v (v.templateWordIn first) line rest = .ok (t, n) := by
  obtain ⟨ts, bodies, ms, hparts⟩ := parts_of_readParts h
  rw [hparts.readParts_eq] at h
  cases h
  exact (List.mem_append.1 ht).imp_right hparts.template_mem

theorem template_of_read (h : read v source = .ok p) (ht : t ∈ p.templates) :
    ∃ line ∈ source.trim.lines, ∃ word rest n, Template.read v word line rest = .ok (t, n) := by
  obtain ⟨first, rest, hl⟩ : ∃ first rest, source.trim.lines = first :: rest :=
    List.exists_cons_of_ne_nil (Text.splitAt_ne_nil _ _)
  rw [read, hl, readLines_eq] at h
  rcases template_of_readParts h ht with hp | ⟨line, hmem, rest, n, hr⟩
  · cases hp
  · rw [hl]
    exact ⟨line, hmem, _, rest, n, hr⟩

theorem opening_of_mem (h : read v source = .ok p) (ht : t ∈ p.templates) :
    ∃ line ∈ source.trim.lines, v.Opens line t.name ∧ t.header = Header.read v line := by
  obtain ⟨line, hl, word, rest, n, hr⟩ := template_of_read h ht
  obtain ⟨ho, ms, _, he⟩ := Template.opening_of_read hr
  refine ⟨line, hl, ho, ?_⟩
  rw [he]
  exact (Template.addAll_opening _ ms).2

/-- The text is read as a program with a template of the name that has the mark. -/
def GivesMarked (v : Vocabulary) (source name : Text) (mark : Header.Mark) : Prop :=
  ∃ p, read v source = .ok p ∧ ∃ t ∈ p.templates, t.name = name ∧ mark.holds t.header = true

theorem trim_first (hs : source.trim.lines = line :: lines) (hl : line ≠ [])
    (hlast : ∀ c ∈ line.getLast?, isBlank c = false) : line.trim = line := by
  apply Text.trim_of_ends _ hlast
  intro c hc
  apply Text.head_of_trim source.trim_trim
  have hjoin : Text.join ['\n'] source.trim.lines = source.trim := Text.join_splitAt _ _
  rw [← hjoin, hs, Text.join_cons, List.head?_append_of_ne_nil _ hl]
  exact hc

theorem read_opened (hs : source.trim.lines = line :: lines) (ho : v.Opens line name)
    (hsec : Template.Sections v (v.templateWordIn line) name lines) :
    ∃ p t, read v source = .ok p ∧ t ∈ p.templates ∧ t.name = name ∧
      t.header = Header.read v line := by
  obtain ⟨t, ht⟩ := Template.read_of_sections ho hsec
  obtain ⟨hto, ms, _, he⟩ := Template.opening_of_read ht
  have hopens : (ProgramRules.current v [line]).opensTemplate line.trim = .ok true := by
    have hn := Vocabulary.templateName?_eq_some.2 (Vocabulary.opens_trim.2 ho)
    rw [ProgramRules.opensTemplate_current, Vocabulary.opensTemplate, hn]
    rfl
  refine ⟨{ name := (v.nameAndStart (line :: lines)).1, templates := [t] }, t, ?_,
    List.mem_singleton_self t, hto.unique ho, ?_⟩
  · rw [read, hs, readLines_eq, readParts_template hopens]
    refine bind_eq_ok.2 ⟨(t, lines.length), ht, ?_⟩
    dsimp only
    rw [List.drop_length, readParts_nil]
    rfl
  · rw [he]
    exact (Template.addAll_opening _ ms).2

/-- A line with a mark gives its template exactly if the whole line is an opening line for the name,
which takes a template word that begins with the mark, and if no abstract word hides the word
`interface`. Where no template word begins so, no text at all gives an abstract template or an
interface. -/
theorem givesMarked_iff (v : Vocabulary) (mark : Header.Mark) (name line source : Text)
    (sections : List Text) (hname : IsName name) (hm : Header.Marked v name mark line)
    (hs : source.trim.lines = line :: sections)
    (hsec : Template.Sections v (v.templateWordIn line) name sections)
    (hone : ∀ l ∈ sections, v.Opens l name → mark.holds (Header.read v l) = false) :
    (GivesMarked v source name mark ↔
      v.Opens line name ∧ (mark = .interface → (Header.read v line).isInterface = true)) ∧
    (v.MarksApart → ∀ source p, read v source = .ok p →
      ∀ t ∈ p.templates, t.isAbstract = false ∧ t.isInterface = false) := by
  obtain ⟨hl, hlast⟩ := hm.getLast? hname.ne_nil
  have htrim : line.trim = line := by
    apply trim_first hs hl
    rw [hlast]
    exact Text.getLast_of_trim hname.trim_eq
  have hholds : mark.holds (Header.read v line) = true ↔
      (mark = .interface → (Header.read v line).isInterface = true) := by
    cases mark with
    | abstract => exact iff_of_true (hm.isAbstract htrim) nofun
    | interface => exact ⟨fun h _ => h, fun h => h rfl⟩
  refine ⟨?_, fun hv source p hp t ht => ?_⟩
  · rw [← hholds]
    constructor
    · rintro ⟨p, hp, t, ht, rfl, hmark⟩
      obtain ⟨l, hmem, ho, hh⟩ := opening_of_mem hp ht
      rw [hh] at hmark
      rw [hs] at hmem
      rcases List.mem_cons.1 hmem with rfl | hmem
      · exact ⟨ho, hmark⟩
      · rw [hone l hmem ho] at hmark
        cases hmark
    · rintro ⟨ho, hmark⟩
      obtain ⟨p, t, hp, ht, hn, hh⟩ := read_opened hs ho hsec
      exact ⟨p, hp, t, ht, hn, hh ▸ hmark⟩
  · obtain ⟨l, _, ho, hh⟩ := opening_of_mem hp ht
    have h := hv.read_eq ho
    rw [← hh] at h
    exact h

theorem marked_templates_lost :
    let source : Text := "abstract template Animal\n    instance vars:\n        age as int"
    let wide : Vocabulary :=
      { Vocabulary.standard with
        templateWords := ["template", "abstract template"], literal := rfl }
    GivesMarked wide source "Animal" .abstract ∧ ¬GivesMarked .standard source "Animal" .abstract ∧
      ¬GivesMarked .standard "interface Flyable" "Flyable" .interface := by
  intro source wide
  let line : Text := "abstract template Animal"
  let sections : List Text := ["    instance vars:", "        age as int"]
  let t : Template := { name := "Animal", instanceVars := [⟨"age", "int", .pack, none, false⟩] }
  have hs : source.trim.lines = line :: sections := by decide +kernel
  have h (v : Vocabulary) (ha : "abstract".toList ∈ v.abstractWords)
      (hw : "template".toList ∈ v.templateWords)
      (hsec : Template.Sections v (v.templateWordIn line) "Animal" sections)
      (hn : ∀ l ∈ sections, v.templateName? l ≠ some "Animal") :=
    givesMarked_iff v .abstract "Animal" line source sections ⟨by decide, by decide⟩
      (.abstract ha hw) hs hsec
      fun l hl ho => absurd (Vocabulary.templateName?_eq_some.2 ho) (hn l hl)
  have hwide := h wide (by decide) (by decide) ⟨t, by decide +kernel⟩ (by decide +kernel)
  have hstandard := h .standard (by decide) (by decide) ⟨t, by decide +kernel⟩ (by decide +kernel)
  refine ⟨?_, ?_, ?_⟩
  · exact hwide.1.2 ⟨Vocabulary.templateName?_eq_some.1 (by decide +kernel), nofun⟩
  · intro hy
    exact absurd (Vocabulary.templateName?_eq_some.2 (hstandard.1.1 hy).1) (by decide +kernel)
  · rintro ⟨p, hp, u, hu, _, hi⟩
    have hnone := (hstandard.2 Vocabulary.standard_marksApart _ p hp u hu).2
    exact Bool.false_ne_true (hnone.symm.trans hi)

end Program

end JavaSketch
