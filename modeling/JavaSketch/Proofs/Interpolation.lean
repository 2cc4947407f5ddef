import JavaSketch.Proofs.Chains

namespace JavaSketch

namespace Statement

/-- A part of a printed content: a single character, or a text in braces. -/
inductive Segment
  | letter (c : Char)
  | slot (t : Text)
  deriving DecidableEq

namespace Segment

def text : Segment → Text
  | letter c => [c]
  | slot t => braced t

/-- The segment with another text in the place of a text in braces. -/
def filled (f : Text → Text) : Segment → Text
  | letter c => [c]
  | slot t => f t

def slot? : Segment → Option Text
  | letter _ => none
  | slot t => some t

/-- One text in braces gives way to single characters. -/
def put (t new : Text) : Segment → List Segment
  | letter c => [.letter c]
  | slot u => if u = t then new.map .letter else [.slot u]

end Segment

open Segment

variable {s t u rest content new : Text} {c : Char} {segs : List Segment} {f : Text → Text}

/-- A brace, at least one character that closes none, and a closing brace. -/
def StartsSlot (s : Text) : Prop := ∃ t rest, t ≠ [] ∧ closeBrace ∉ t ∧ s = braced t ++ rest

/-- A content from the left to the right: where a text in braces can start, it does. -/
inductive Scans : Text → List Segment → Prop
  | nil : Scans [] []
  | slot {t rest : Text} {segs : List Segment} (filled : t ≠ []) (inside : closeBrace ∉ t)
    (more : Scans rest segs) : Scans (braced t ++ rest) (.slot t :: segs)
  | letter {c : Char} {s : Text} {segs : List Segment} (single : ¬ StartsSlot (c :: s))
    (more : Scans s segs) : Scans (c :: s) (.letter c :: segs)

theorem braced_append (t rest : Text) :
    braced t ++ rest = openBrace :: (t ++ closeBrace :: rest) := by
  rw [braced, List.append_assoc, List.append_assoc]
  rfl

theorem takeWhile_slot (ht : closeBrace ∉ t) (rest : Text) :
    (t ++ closeBrace :: rest).takeWhile (· != '\x7d') = t := by
  apply Text.takeWhile_exact
  · intro d hd
    exact bne_iff_ne.2 (ne_of_mem_of_not_mem hd ht)
  · intro d hd
    cases hd
    rfl

theorem startsSlot_cons : StartsSlot (c :: s) ↔
    c = '\x7b' ∧ s.takeWhile (· != '\x7d') ≠ [] ∧
      (s.takeWhile (· != '\x7d')).length < s.length := by
  constructor
  · rintro ⟨t, rest, hne, ht, he⟩
    rw [braced_append] at he
    cases he
    rw [takeWhile_slot ht]
    refine ⟨rfl, hne, ?_⟩
    simp
  · rintro ⟨rfl, hne, hlt⟩
    have hs := List.takeWhile_append_dropWhile (p := (· != '\x7d')) (l := s)
    cases hd : s.dropWhile (· != '\x7d') with
    | nil =>
      rw [hd, List.append_nil] at hs
      rw [hs] at hlt
      exact absurd hlt (Nat.lt_irrefl _)
    | cons d rest =>
      have hclose : d = closeBrace := by
        have hn : (d != '\x7d') = false := by
          apply Text.not_of_head_dropWhile (p := (· != '\x7d')) (s := s)
          rw [hd]
          rfl
        exact bne_eq_false_iff_eq.1 hn
      refine ⟨s.takeWhile (· != '\x7d'), rest, hne, ?_, ?_⟩
      · intro hm
        have := List.all_eq_true.1 List.all_takeWhile _ hm
        cases this
      · rw [braced_append, ← hclose, ← hd, hs]
        rfl

/-- A content cut into segments; the counter says how many characters still belong to the last
one. -/
def segmentsFrom : Nat → Text → List Segment
  | _, [] => []
  | n + 1, _ :: s => segmentsFrom n s
  | 0, c :: s =>
    let inner := s.takeWhile (· != '\x7d')
    if c = '\x7b' ∧ inner ≠ [] ∧ inner.length < s.length then
      .slot inner :: segmentsFrom (inner.length + 1) s
    else .letter c :: segmentsFrom 0 s

def segments (content : Text) : List Segment := segmentsFrom 0 content

theorem slotsFrom_eq (n : Nat) (s : Text) :
    slotsFrom n s = (segmentsFrom n s).filterMap slot? := by
  induction s generalizing n with
  | nil => rw [slotsFrom, segmentsFrom, List.filterMap_nil]
  | cons c s ih =>
    cases n with
    | succ n => exact ih n
    | zero =>
      rw [slotsFrom, segmentsFrom]
      split
      · rw [ih]
        rfl
      · exact ih 0

theorem segmentsFrom_drop (n : Nat) (s : Text) : segmentsFrom n s = segments (s.drop n) :=
  Text.counter_eq_drop (fun n => by rw [segmentsFrom, segmentsFrom]) (fun _ _ _ => rfl) n s

theorem segments_braced (hne : t ≠ []) (ht : closeBrace ∉ t) (rest : Text) :
    segments (braced t ++ rest) = .slot t :: segments rest := by
  have hstart := startsSlot_cons.1 ⟨t, rest, hne, ht, (braced_append t rest).symm⟩
  rw [braced_append, segments, segmentsFrom, if_pos hstart, takeWhile_slot ht, segmentsFrom_drop,
    ← List.drop_drop, List.drop_left]
  rfl

theorem segments_letter (h : ¬ StartsSlot (c :: s)) :
    segments (c :: s) = .letter c :: segments s := by
  rw [startsSlot_cons] at h
  rw [segments, segmentsFrom]
  exact if_neg h

theorem scans_segments (s : Text) : Scans s (segments s) := by
  induction hn : s.length using Nat.strong_induction_on generalizing s with
  | _ n ih =>
    cases s with
    | nil => exact .nil
    | cons c s =>
      by_cases h : StartsSlot (c :: s)
      · obtain ⟨t, rest, hne, ht, he⟩ := h
        have hlength : rest.length < n := by
          rw [← hn, he, braced_append, List.length_cons, List.length_append, List.length_cons]
          omega
        rw [he, segments_braced hne ht]
        exact .slot hne ht (ih _ hlength rest rfl)
      · have hlength : s.length < n := by
          rw [← hn]
          exact Nat.lt_succ_self _
        rw [segments_letter h]
        exact .letter h (ih _ hlength s rfl)

/-- Every content has exactly one way to be cut into segments. -/
theorem scans_iff : Scans s segs ↔ segments s = segs := by
  constructor
  · intro h
    induction h with
    | nil => rfl
    | slot hne ht _ ih => rw [segments_braced hne ht, ih]
    | letter hc _ ih => rw [segments_letter hc, ih]
  · rintro rfl
    exact scans_segments s

namespace Scans

theorem text_eq (h : Scans s segs) : segs.flatMap text = s := by
  induction h with
  | nil => rfl
  | slot _ _ _ ih => rw [List.flatMap_cons, ih, text]
  | letter _ _ ih => rw [List.flatMap_cons, ih, text, List.singleton_append]

theorem slots_eq (h : Scans s segs) : slots s = segs.filterMap slot? := by
  rw [slots, slotsFrom_eq, ← segments, scans_iff.1 h]

end Scans

/-- A single opening brace closes at once or nowhere, and the texts in braces have no brace. -/
def Settled : List Segment → Prop
  | [] => True
  | .letter c :: segs =>
    (c = openBrace → segs.head? = some (.letter closeBrace) ∨ closeBrace ∉ segs.flatMap text) ∧
      Settled segs
  | .slot t :: segs => (t ≠ [] ∧ BraceFree t) ∧ Settled segs

theorem Scans.settled (h : Scans s segs) (hslots : ∀ t ∈ segs.filterMap slot?, openBrace ∉ t) :
    Settled segs := by
  induction h with
  | nil => trivial
  | @slot t rest segs hne ht _ ih =>
    obtain ⟨hopen, hrest⟩ := List.forall_mem_cons.1 hslots
    refine ⟨⟨hne, ?_⟩, ih hrest⟩
    intro c hc
    exact ⟨ne_of_mem_of_not_mem hc hopen, ne_of_mem_of_not_mem hc ht⟩
  | @letter c s segs hsingle hmore ih =>
    refine ⟨?_, ih hslots⟩
    rintro rfl
    rw [hmore.text_eq, or_iff_not_imp_right, not_not]
    intro hm
    obtain ⟨before, after, rfl, hb⟩ := List.eq_append_cons_of_mem hm
    cases before with
    | nil =>
      cases hmore with
      | letter _ _ => rfl
    | cons d before =>
      exact absurd ⟨d :: before, after, List.cons_ne_nil _ _, hb, (braced_append _ _).symm⟩ hsingle

theorem closeBrace_of_put (hnew : BraceFree new) (t : Text)
    (h : closeBrace ∈ (segs.flatMap (put t new)).flatMap text) :
    closeBrace ∈ segs.flatMap text := by
  rw [List.flatMap_assoc] at h
  obtain ⟨seg, hseg, hm⟩ := List.mem_flatMap.1 h
  refine List.mem_flatMap.2 ⟨seg, hseg, ?_⟩
  cases seg with
  | letter c =>
    rw [put, List.flatMap_singleton] at hm
    exact hm
  | slot u =>
    rw [put] at hm
    split at hm
    · obtain ⟨seg, hseg, hm⟩ := List.mem_flatMap.1 hm
      obtain ⟨c, hc, rfl⟩ := List.mem_map.1 hseg
      rw [text, List.mem_singleton] at hm
      exact absurd hm.symm (hnew c hc).2
    · rw [List.flatMap_singleton] at hm
      exact hm

theorem letters_text (new : Text) : (new.map Segment.letter).flatMap text = new := by
  rw [List.flatMap_map]
  exact List.flatMap_singleton' new

theorem replace_other (ht : BraceFree t) (hu : BraceFree u) (hne : u ≠ t) (new rest : Text) :
    Text.replace (braced u ++ rest) (braced t) new =
      braced u ++ Text.replace rest (braced t) new := by
  have hskip : ¬ braced t <+: openBrace :: (u ++ closeBrace :: rest) := by
    rintro ⟨after, he⟩
    rw [braced_append] at he
    exact hne (Text.eq_of_append_cons (List.cons.inj he).2 (fun hm => (ht _ hm).2 rfl)
      fun hm => (hu _ hm).2 rfl).symm
  have hopen : openBrace ∉ u ++ [closeBrace] := by
    rw [List.mem_append, not_or]
    exact ⟨fun hm => (hu _ hm).1 rfl, by decide⟩
  have hinner := Text.replace_append hopen (t ++ [closeBrace]) new rest
  rw [List.append_assoc, List.append_assoc] at hinner
  rw [braced_append, Text.replace_cons hskip, braced_append]
  exact congrArg _ hinner

namespace Settled

theorem slots (h : Settled segs) : ∀ t ∈ segs.filterMap slot?, t ≠ [] ∧ BraceFree t := by
  induction segs with
  | nil => exact List.forall_mem_nil _
  | cons seg segs ih =>
    cases seg with
    | letter c => exact ih h.2
    | slot u => exact List.forall_mem_cons.2 ⟨h.1, ih h.2⟩

theorem letters (hnew : BraceFree new) (h : Settled segs) : Settled (new.map .letter ++ segs) := by
  induction new with
  | nil => exact h
  | cons c new ih =>
    obtain ⟨hc, hrest⟩ := List.forall_mem_cons.1 hnew
    exact ⟨fun he => absurd he hc.1, ih hrest⟩

/-- Putting a text without braces in the place of a slot changes no other segment. -/
theorem put (h : Settled segs) (hnew : BraceFree new) (t : Text) :
    Settled (segs.flatMap (Segment.put t new)) := by
  induction segs with
  | nil => trivial
  | cons seg segs ih =>
    cases seg with
    | letter c =>
      obtain ⟨hc, hrest⟩ := h
      refine ⟨?_, ih hrest⟩
      intro he
      rcases hc he with hhead | hnone
      · left
        cases segs with
        | nil => cases hhead
        | cons next segs =>
          cases hhead
          rfl
      · exact .inr fun hm => hnone (closeBrace_of_put hnew t hm)
    | slot u =>
      obtain ⟨hu, hrest⟩ := h
      rw [List.flatMap_cons, Segment.put]
      split
      · exact (ih hrest).letters hnew
      · exact ⟨hu, ih hrest⟩

theorem replace_text (h : Settled segs) (hne : t ≠ []) (ht : BraceFree t) (new : Text) :
    Text.replace (segs.flatMap text) (braced t) new =
      (segs.flatMap (Segment.put t new)).flatMap text := by
  have hclose : closeBrace ∉ t := fun hm => (ht _ hm).2 rfl
  induction segs with
  | nil => rfl
  | cons seg segs ih =>
    cases seg with
    | letter c =>
      obtain ⟨hc, hrest⟩ := h
      have hskip : ¬ braced t <+: c :: segs.flatMap text := by
        rintro ⟨rest, he⟩
        rw [braced_append] at he
        obtain ⟨hopen, htext⟩ := List.cons.inj he
        rcases hc hopen.symm with hhead | hnone
        · obtain ⟨d, t, rfl⟩ := List.exists_cons_of_ne_nil hne
          cases segs with
          | nil => cases hhead
          | cons next segs =>
            cases hhead
            exact hclose ((List.cons.inj htext).1 ▸ List.mem_cons_self)
        · exact hnone (htext ▸ List.mem_append_right _ List.mem_cons_self)
      rw [List.flatMap_cons, text, List.singleton_append, Text.replace_cons hskip, ih hrest]
      rfl
    | slot u =>
      obtain ⟨⟨_, hu⟩, hrest⟩ := h
      rw [List.flatMap_cons, text, List.flatMap_cons, Segment.put, List.flatMap_append]
      split
      · rename_i hut
        have hbraced : braced t ≠ [] := List.cons_ne_nil _ _
        rw [hut, Text.replace_occurrence hbraced, ih hrest, letters_text]
      · rename_i hut
        rw [← ih hrest, List.flatMap_singleton, text]
        exact replace_other ht hu hut _ _

end Settled

theorem filled_put (g : Text → Text) (t new : Text) (seg : Segment) :
    (seg.put t new).flatMap (filled g) = seg.filled fun u => if u = t then new else g u := by
  cases seg with
  | letter c => rfl
  | slot u =>
    rw [put, filled]
    split
    · rw [List.flatMap_map]
      exact List.flatMap_singleton' new
    · exact List.flatMap_singleton _ _

theorem foldl_replace {ts : List Text} (h : Settled segs)
    (hts : ∀ t ∈ ts, (t ≠ [] ∧ BraceFree t) ∧ BraceFree (f t)) :
    ts.foldl (fun s t => Text.replace s (braced t) (f t)) (segs.flatMap text) =
      segs.flatMap (filled fun t => if t ∈ ts then f t else braced t) := by
  induction ts generalizing segs with
  | nil => rfl
  | cons t ts ih =>
    obtain ⟨⟨⟨hne, ht⟩, hf⟩, hrest⟩ := List.forall_mem_cons.1 hts
    rw [List.foldl_cons, h.replace_text hne ht, ih (h.put hf t) hrest, List.flatMap_assoc]
    congr 1
    funext seg
    rw [filled_put]
    congr 1
    funext u
    by_cases hu : u = t
    · simp [hu]
    · simp [hu]

theorem conversion_braceFree (h : BraceFree s) : BraceFree (conversion s) := by
  obtain ⟨m, q, he, hm, hq⟩ := BraceFree.piecewise.conversion h
  rw [he]
  exact BraceFree.piecewise.joined (s := []) rfl BraceFree.piecewise.empty
    (BraceFree.piecewise.joined hq hm BraceFree.piecewise.empty)

theorem slot_braceFree (style : PrintStyle) (h : BraceFree t) : BraceFree (style.slot t).1 := by
  have hplain : BraceFree "%s".toList := by decide
  rw [PrintStyle.slot]
  split
  · rename_i expression format he
    apply conversion_braceFree
    apply BraceFree.trim
    split at he
    · exact h.mono (Text.infix_of_cut? he).2.subset
    · cases he
  · split
    · exact hplain
    · split
      · exact hplain
      · exact hplain

/-- The Java line that prints a format string with arguments; without any, it prints a literal. -/
def printed (format : Text) (arguments : List Text) : Text :=
  let literal := "\"" ++ format ++ "\""
  println (if arguments = [] then literal
    else "String.format(" ++ literal ++ ", " ++ Text.join ", " arguments ++ ")")

theorem interpolated_eq_printed (style : PrintStyle) (content : Text) :
    interpolated style content = printed (style.formatOf content) (style.arguments content) := by
  rw [interpolated, printed]
  split
  · rename_i hnone
    rw [hnone, if_pos rfl]
  · rename_i hsome
    rw [if_neg hsome]

theorem Scans.foldl_slots (h : Scans content segs)
    (hslots : ∀ t ∈ segs.filterMap slot?, openBrace ∉ t) (style : PrintStyle) :
    (slots content).foldl (fun format t => Text.replace format (braced t) (style.slot t).1)
        content =
      segs.flatMap (filled fun t => (style.slot t).1) := by
  have hset := h.settled hslots
  have hts : ∀ t ∈ slots content, (t ≠ [] ∧ BraceFree t) ∧ BraceFree (style.slot t).1 := by
    intro t ht
    rw [h.slots_eq] at ht
    have hslot := hset.slots t ht
    exact ⟨hslot, slot_braceFree style hslot.2⟩
  have hfold := foldl_replace hset hts
  rw [h.text_eq] at hfold
  rw [hfold]
  apply List.flatMap_congr
  intro seg hseg
  cases seg with
  | letter c => rfl
  | slot t =>
    have hm : t ∈ slots content := by
      rw [h.slots_eq]
      exact List.mem_filterMap.2 ⟨_, hseg, rfl⟩
    exact if_pos hm

/-- The texts in braces are replaced at once. If none of them has a second opening brace, the format
string is the content with the conversion of each text in braces in its place, and the arguments are
those of the texts in braces, one for each of them, in their order. -/
theorem interpolated_at_once (style : PrintStyle) (content : Text)
    (hslots : ∀ segs, Scans content segs → ∀ t ∈ segs.filterMap slot?, openBrace ∉ t) :
    ∃ segs, Scans content segs ∧
      let format := segs.flatMap (filled fun t => (style.slot t).1)
      let written := if style.escapes then escapeQuotes format else format
      let arguments := (segs.filterMap slot?).map fun t => (style.slot t).2
      style.formatOf content = written ∧ style.arguments content = arguments ∧
        interpolated style content = printed written arguments := by
  have hscan := scans_segments content
  refine ⟨segments content, hscan, ?_⟩
  intro format written arguments
  have hformat : style.formatOf content = written := by
    rw [PrintStyle.formatOf, hscan.foldl_slots (hslots _ hscan)]
  have harguments : style.arguments content = arguments := by
    rw [PrintStyle.arguments, hscan.slots_eq]
  refine ⟨hformat, harguments, ?_⟩
  rw [interpolated_eq_printed, hformat, harguments]

theorem interpolated_at_once_of_repeated :
    let content : Text := "\x7ba\x7d\x7bab\x7d\x7ba\x7d\x7b\x7d\x7bn:.2f\x7d\"\x7b"
    (∀ segs, Scans content segs → ∀ t ∈ segs.filterMap slot?, openBrace ∉ t) ∧
      interpolated Stage.current.print content =
        println "String.format(\"%s%s%s\x7b\x7d%.2f\\\"\x7b\", a, ab, a, n)" := by
  intro content
  have hsegs : segments content = [.slot "a", .slot "ab", .slot "a", .letter openBrace,
      .letter closeBrace, .slot "n:.2f", .letter '"', .letter openBrace] := by
    decide +kernel
  have hslots : ∀ segs, Scans content segs → ∀ t ∈ segs.filterMap slot?, openBrace ∉ t := by
    intro segs hscan
    rw [← scans_iff.1 hscan, hsegs]
    decide +kernel
  obtain ⟨segs, hscan, _, _, hprint⟩ := interpolated_at_once Stage.current.print content hslots
  rw [← scans_iff.1 hscan, hsegs] at hprint
  refine ⟨hslots, hprint.trans ?_⟩
  decide +kernel

end Statement

end JavaSketch
