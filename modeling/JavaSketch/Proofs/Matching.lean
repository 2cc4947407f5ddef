import JavaSketch.Pattern
import JavaSketch.Proofs.Text

namespace JavaSketch

namespace Step

def isKept : Step → Bool
  | .run _ _ _ keep => keep
  | _ => false

/-- The step can take the first `n` characters of the text. -/
def Takes (s : Text) (n : Nat) : Step → Prop
  | .exact c => n = 1 ∧ s.head? = some c
  | .letter c => n = 1 ∧ ∃ d, s.head? = some d ∧ sameLetter c d = true
  | .run cls least _ _ => least ≤ n ∧ n ≤ (s.takeWhile cls.holds).length
  | .finish => n = 0 ∧ (s = [] ∨ s = ['\n'])

end Step

namespace Pattern

variable {p q : Pattern} {step : Step} {s t rest k : Text} {kept : List Text} {c d : Char}
  {cls : CharClass} {least n : Nat} {longest keep : Bool}

theorem find?_exact (c d : Char) (p : Pattern) (s : Text) :
    find? (.exact c :: p) (d :: s) = if d = c then find? p s else none := rfl

theorem find?_letter (c d : Char) (p : Pattern) (s : Text) :
    find? (.letter c :: p) (d :: s) = if sameLetter c d then find? p s else none := rfl

theorem find?_run (cls : CharClass) (least : Nat) (longest keep : Bool) (p : Pattern) (s : Text) :
    find? (.run cls least longest keep :: p) s = (lengths cls least longest s).findSome? fun n =>
      (find? p (s.drop n)).map fun kept => if keep then s.take n :: kept else kept := rfl

theorem find?_finish (p : Pattern) (s : Text) :
    find? (.finish :: p) s = if s = [] ∨ s = ['\n'] then find? p s else none := rfl

theorem mem_lengths : n ∈ lengths cls least longest s ↔
    least ≤ n ∧ n ≤ (s.takeWhile cls.holds).length := by
  have hm : n ∈ lengths cls least longest s ↔
      n ∈ List.range' least ((s.takeWhile cls.holds).length + 1 - least) := by
    rw [lengths]
    split
    · exact List.mem_reverse
    · rfl
  rw [hm, List.mem_range'_1]
  omega

theorem le_of_mem_lengths (h : n ∈ lengths cls least longest s) :
    n ≤ (s.takeWhile cls.holds).length := (mem_lengths.1 h).2

/-- The first step of a match takes some characters, and the rest of the pattern matches behind
them. -/
theorem takes_of_find? (h : find? (step :: p) s = some kept) :
    ∃ n more, step.Takes s n ∧ find? p (s.drop n) = some more ∧
      kept = if step.isKept then s.take n :: more else more := by
  cases step with
  | exact c =>
    cases s with
    | nil => cases h
    | cons d s =>
      rw [find?_exact] at h
      split at h
      · rename_i hd
        exact ⟨1, kept, ⟨rfl, congrArg some hd⟩, h, rfl⟩
      · cases h
  | letter c =>
    cases s with
    | nil => cases h
    | cons d s =>
      rw [find?_letter] at h
      split at h
      · rename_i hd
        exact ⟨1, kept, ⟨rfl, d, rfl, hd⟩, h, rfl⟩
      · cases h
  | run cls least longest keep =>
    rw [find?_run] at h
    obtain ⟨n, hn, hs⟩ := List.exists_of_findSome?_eq_some h
    obtain ⟨more, hm, hk⟩ := Option.map_eq_some_iff.1 hs
    exact ⟨n, more, mem_lengths.1 hn, hm, hk.symm⟩
  | finish =>
    rw [find?_finish] at h
    split at h
    · rename_i hs
      exact ⟨0, kept, ⟨rfl, hs⟩, h, rfl⟩
    · cases h

/-- Whether a pattern matches does not depend on the order in which lengths are tried. -/
theorem accepts_cons : accepts (step :: p) s = true ↔
    ∃ n, step.Takes s n ∧ p.accepts (s.drop n) = true := by
  constructor
  · intro h
    obtain ⟨kept, hk⟩ := Option.isSome_iff_exists.1 h
    obtain ⟨n, more, hn, hm, _⟩ := takes_of_find? hk
    exact ⟨n, hn, Option.isSome_iff_exists.2 ⟨more, hm⟩⟩
  · rintro ⟨n, hn, h⟩
    cases step with
    | exact c =>
      obtain ⟨rfl, hc⟩ := hn
      obtain ⟨s, rfl⟩ := List.head?_eq_some_iff.1 hc
      rw [accepts, find?_exact, if_pos rfl]
      exact h
    | letter c =>
      obtain ⟨rfl, d, hd, hcd⟩ := hn
      obtain ⟨s, rfl⟩ := List.head?_eq_some_iff.1 hd
      rw [accepts, find?_letter, if_pos hcd]
      exact h
    | run cls least longest keep =>
      rw [accepts, find?_run, List.findSome?_isSome_iff]
      refine ⟨n, mem_lengths.2 hn, ?_⟩
      rw [Option.isSome_map]
      exact h
    | finish =>
      obtain ⟨rfl, hs⟩ := hn
      rw [accepts, find?_finish, if_pos hs]
      exact h

theorem accepts_of_append (h : accepts (p ++ q) s = true) : p.accepts s = true := by
  induction p generalizing s with
  | nil => rfl
  | cons step p ih =>
    obtain ⟨n, hn, hrest⟩ := accepts_cons.1 h
    exact accepts_cons.2 ⟨n, hn, ih hrest⟩

theorem length_of_find? (h : find? p s = some kept) : kept.length = p.countP Step.isKept := by
  induction p generalizing s kept with
  | nil =>
    cases h
    rfl
  | cons step p ih =>
    obtain ⟨n, more, _, hm, rfl⟩ := takes_of_find? h
    rw [List.countP_cons, ← ih hm]
    split
    · rfl
    · rfl

theorem infix_of_find? (h : find? p s = some kept) (hk : k ∈ kept) : k <:+: s := by
  induction p generalizing s kept with
  | nil =>
    cases h
    cases hk
  | cons step p ih =>
    obtain ⟨n, more, _, hm, rfl⟩ := takes_of_find? h
    have hi (hk : k ∈ more) : k <:+: s := (ih hm hk).trans (List.drop_suffix n s).isInfix
    split at hk
    · rcases List.mem_cons.1 hk with rfl | hk
      · exact (List.take_prefix n s).isInfix
      · exact hi hk
    · exact hi hk

theorem find?_of_suffix (hq : q <:+ p) (h : find? p s = some kept) :
    ∃ n kept', find? q (s.drop n) = some kept' := by
  induction p generalizing s kept with
  | nil => exact ⟨0, kept, List.suffix_nil.1 hq ▸ h⟩
  | cons step p ih =>
    rcases List.suffix_cons_iff.1 hq with rfl | hq
    · exact ⟨0, kept, h⟩
    · obtain ⟨n, rest, _, hn, _⟩ := takes_of_find? h
      obtain ⟨m, kept', hm⟩ := ih hq hn
      rw [List.drop_drop] at hm
      exact ⟨n + m, kept', hm⟩

theorem find?_exactly_append (t : Text) : find? (exactly t ++ p) (t ++ s) = find? p s := by
  induction t with
  | nil => rfl
  | cons c t ih =>
    rw [exactly, List.map_cons, List.cons_append, List.cons_append, find?_exact, if_pos rfl]
    exact ih

theorem find?_exactly_of_head (h : d ≠ c) :
    find? (exactly (c :: t) ++ p) (d :: s) = none := by
  rw [exactly, List.map_cons, List.cons_append, find?_exact, if_neg h]

theorem isPrefix_of_find? (h : find? (exactly t ++ p) s = some kept) : t <+: s := by
  induction t generalizing s with
  | nil => exact List.nil_prefix
  | cons c t ih =>
    cases s with
    | nil => cases h
    | cons d s =>
      rw [exactly, List.map_cons, List.cons_append, find?_exact, ← exactly] at h
      split at h
      · rename_i hd
        rw [hd]
        exact List.cons_prefix_cons.2 ⟨rfl, ih h⟩
      · cases h

/-- A greedy run takes all that it can if the rest of the pattern matches behind it. -/
theorem find?_longest (keep : Bool) {run : Text} (hrun : ∀ d ∈ run, cls.holds d = true)
    (hrest : ∀ d ∈ rest.head?, cls.holds d = false) (hl : least ≤ run.length)
    (hp : p.find? rest = some kept) :
    find? (.run cls least true keep :: p) (run ++ rest) =
      some (if keep then run :: kept else kept) := by
  have hk : run.length + 1 - least = run.length - least + 1 := by omega
  have hlast : least + 1 * (run.length - least) = run.length := by omega
  rw [find?_run, lengths, if_pos rfl, Text.takeWhile_exact hrun hrest, hk, List.range'_concat,
    List.reverse_append, List.reverse_singleton, List.singleton_append, hlast, List.findSome?_cons,
    List.drop_left, hp, List.take_left]
  rfl

theorem find?_exact_of_mem {run : Text} (hc : c ∉ run) {n : Nat} (hn : n < run.length) :
    find? (.exact c :: p) ((run ++ rest).drop n) = none := by
  rw [List.drop_append_of_le_length (Nat.le_of_lt hn), List.drop_eq_getElem_cons hn,
    List.cons_append, find?_exact, if_neg]
  exact ne_of_mem_of_not_mem (List.getElem_mem hn) hc

theorem find?_gap (hc : isBlank c = false) (s : Text) : find? (.gap :: p) (c :: s) = none := by
  rw [Step.gap, find?_run, lengths, List.takeWhile_cons_of_neg]
  · rfl
  · exact Bool.eq_false_iff.1 hc

theorem find?_gap_one (hs : ∀ c ∈ s.head?, isBlank c = false) :
    find? (.gap :: p) (' ' :: s) = find? p s := by
  have ht : ([' '] ++ s).takeWhile CharClass.blank.holds = [' '] :=
    Text.takeWhile_exact (List.forall_mem_singleton.2 rfl) hs
  rw [List.singleton_append] at ht
  have hone : lengths .blank 1 true (' ' :: s) = [1] := by
    rw [lengths, ht]
    rfl
  rw [Step.gap, find?_run, hone, List.findSome?_singleton]
  exact Option.map_id'

theorem lengths_shortest {run : Text} (hrun : ∀ d ∈ run, cls.holds d = true)
    (hl : least ≤ run.length) (rest : Text) :
    lengths cls least false (run ++ rest) = List.range' least (run.length - least) ++
      run.length :: List.range' (run.length + 1) (rest.takeWhile cls.holds).length := by
  have hk : run.length + (rest.takeWhile cls.holds).length + 1 - least =
      run.length - least + ((rest.takeWhile cls.holds).length + 1) := by omega
  have hlast : least + 1 * (run.length - least) = run.length := by omega
  rw [lengths, List.takeWhile_append_of_pos hrun, List.length_append, if_neg Bool.false_ne_true, hk,
    ← List.range'_append, hlast, List.range'_succ]

theorem find?_run_shortest {run : Text} (hrun : ∀ d ∈ run, cls.holds d = true)
    (hl : least ≤ run.length) (hnone : ∀ n < run.length, p.find? ((run ++ rest).drop n) = none)
    (hp : p.find? rest = some kept) :
    find? (.run cls least false true :: p) (run ++ rest) = some (run :: kept) := by
  rw [find?_run, lengths_shortest hrun hl, List.findSome?_append, List.findSome?_eq_none_iff.2,
    Option.none_or, List.findSome?_cons, List.drop_left, hp, List.take_left]
  · rfl
  · intro n hn
    have hlt : n < run.length := by
      have := (List.mem_range'_1.1 hn).2
      omega
    rw [hnone n hlt]
    rfl

theorem find?_shortest {run : Text} (hrun : ∀ d ∈ run, cls.holds d = true) (hc : c ∉ run)
    (hp : p.find? rest = some kept) :
    find? (.run cls 0 false true :: .exact c :: p) (run ++ c :: rest) = some (run :: kept) := by
  apply find?_run_shortest hrun (Nat.zero_le _)
  · intro n hn
    exact find?_exact_of_mem hc hn
  · rw [find?_exact, if_pos rfl, hp]

theorem find?_upTo (t s : Text) :
    find? (.run .any 0 false true :: exactly t) s = (Text.cut? t s).bind fun parts =>
      if parts.1.all CharClass.any.holds then some [parts.1] else none := by
  have hends {n : Nat} {kept : List Text} (h : find? (exactly t) (s.drop n) = some kept) :
      t <+: s.drop n := by
    rw [← List.append_nil (exactly t)] at h
    exact isPrefix_of_find? h
  cases hcut : Text.cut? t s with
  | none =>
    rw [Option.bind_none, Option.eq_none_iff_forall_ne_some]
    intro kept h
    obtain ⟨n, more, -, hmore, -⟩ := takes_of_find? h
    have hin : s.includes t = true :=
      Text.includes_iff.2 ((hends hmore).isInfix.trans (List.drop_suffix n s).isInfix)
    rw [Text.includes, hcut] at hin
    cases hin
  | some parts =>
    obtain ⟨before, after⟩ := parts
    rw [Option.bind_some]
    split
    · rename_i hall
      have hs : s = before ++ (t ++ after) := by rw [← List.append_assoc, ← Text.eq_of_cut? hcut]
      have htext : find? (exactly t) (t ++ after) = some [] := by
        rw [← List.append_nil (exactly t), find?_exactly_append]
        rfl
      rw [hs]
      apply find?_run_shortest (List.all_eq_true.1 hall) (Nat.zero_le _) _ htext
      intro n hn
      rw [← hs, Option.eq_none_iff_forall_ne_some]
      intro kept h
      exact absurd (Text.length_le_of_cut? hcut (hends h)) (Nat.not_le_of_lt hn)
    · rename_i hbreak
      rw [Option.eq_none_iff_forall_ne_some]
      intro kept h
      obtain ⟨n, more, hn, hmore, -⟩ := takes_of_find? h
      have hle := Text.length_le_of_cut? hcut (hends hmore)
      have hfront : before <+: s.takeWhile CharClass.any.holds := by
        apply List.prefix_of_prefix_length_le _ (List.takeWhile_prefix _) (hle.trans hn.2)
        rw [Text.eq_of_cut? hcut, List.append_assoc]
        exact List.prefix_append _ _
      exact hbreak (List.all_eq_true.2 fun c hc =>
        List.all_eq_true.1 List.all_takeWhile c (hfront.subset hc))

end Pattern

end JavaSketch
