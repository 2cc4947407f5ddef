import JavaSketch.Proofs.Commands

namespace JavaSketch

namespace Encoding

/-- Every line end becomes a line feed: first the pairs, then the carriage returns that are left. -/
def lineFeeds (s : Text) : Text := (s.replace "\r\n" "\n").replace "\r" "\n"

theorem lineFeeds_pair (s : Text) : lineFeeds ('\r' :: '\n' :: s) = '\n' :: lineFeeds s := by
  have hpair : Text.replace ('\r' :: '\n' :: s) "\r\n" "\n" = '\n' :: s.replace "\r\n" "\n" :=
    Text.replace_occurrence (by decide) _ s
  rw [lineFeeds, hpair]
  exact Text.replace_cons (by simp) _

theorem lineFeeds_return {s : Text} (h : s.head? ≠ some '\n') :
    lineFeeds ('\r' :: s) = '\n' :: lineFeeds s := by
  have hkept : Text.replace ('\r' :: s) "\r\n" "\n" = '\r' :: s.replace "\r\n" "\n" := by
    apply Text.replace_cons
    rintro ⟨rest, hrest⟩
    exact h (by rw [← (List.cons.inj hrest).2]; rfl)
  rw [lineFeeds, hkept]
  exact Text.replace_occurrence (by decide) _ _

theorem lineFeeds_cons {c : Char} (hc : c ≠ '\r') (s : Text) :
    lineFeeds (c :: s) = c :: lineFeeds s := by
  have hkept (old s : Text) : Text.replace (c :: s) ('\r' :: old) "\n" =
      c :: s.replace ('\r' :: old) "\n" :=
    Text.replace_cons (fun h => hc (List.cons_prefix_cons.1 h).1.symm) _
  rw [lineFeeds]
  exact (congrArg (Text.replace · "\r" "\n") (hkept ['\n'] s)).trans (hkept [] _)

theorem feedLines_eq_lineFeeds (s : Text) : feedLines s = lineFeeds s := by
  fun_induction feedLines s with
  | case1 => rfl
  | case2 s ih => rw [lineFeeds_pair, ih]
  | case3 s hnot ih =>
    rw [lineFeeds_return, ih]
    intro hhead
    obtain ⟨rest, rfl⟩ := List.head?_eq_some_iff.1 hhead
    exact hnot rest rfl
  | case4 c s hpair hreturn ih => rw [lineFeeds_cons hreturn, ih]

theorem encodeFrom_chars (start : Nat) (u : Text) : encodeFrom start (u.map .char) = .ok u := by
  induction u generalizing start with
  | nil => rfl
  | cons c u ih =>
    rw [List.map_cons, encodeFrom, ih]
    rfl

/-- A text has an encoding unless it holds a surrogate. -/
theorem encodeFrom_cases (start : Nat) (s : List CodePoint) :
    (∃ u : Text, s = u.map .char) ∨
      (∃ n, CodePoint.surrogate n ∈ s) ∧ ∃ fault, encodeFrom start s = .error fault := by
  induction s generalizing start with
  | nil => exact .inl ⟨[], rfl⟩
  | cons p s ih =>
    cases p with
    | surrogate n => exact .inr ⟨⟨n, List.mem_cons_self⟩, _, rfl⟩
    | char c =>
      obtain ⟨u, rfl⟩ | ⟨⟨n, hn⟩, fault, hfault⟩ := ih (start + 1)
      · exact .inl ⟨c :: u, rfl⟩
      · refine .inr ⟨⟨n, List.mem_cons_of_mem _ hn⟩, fault, ?_⟩
        rw [encodeFrom, hfault]
        rfl

end Encoding

namespace Filing

open DeskM

variable {path : Text} {s : List CodePoint} {d : Desk} {t u : FileTree} {place : Location}
  {fault : PathFault}

theorem openFile_of_none (h : writeTo d.files path [] = (u, none)) :
    openFile path d = (.ok (), { d with files := u }) := by
  rw [openFile, write, files_bind, h]
  rfl

theorem writeCodes_of_some (h : writeTo d.files path [] = (u, some fault)) (notes : Bool)
    (s : List CodePoint) :
    writeCodes notes path s d = (.error (.writing path fault), { d with files := u }) :=
  bind_of_error (write_of_some false h)

theorem writeCodes_of_error {f : EncodeFault} (h : writeTo d.files path [] = (u, none))
    (hs : Encoding.encode s = .error f) (notes : Bool) :
    writeCodes notes path s d =
      (.error (.writing path ⟨.unencodable f, path⟩), { d with files := u }) := by
  rw [writeCodes, bind_of_ok (openFile_of_none h), hs]
  rfl

theorem writeCodes_chars (notes : Bool) (path s : Text) (d : Desk) :
    writeCodes notes path (s.map .char) d = write notes path s d := by
  obtain ⟨u, fault, -, hw⟩ | ⟨u, place, hw⟩ := writeTo_cases d.files path
  · rw [writeCodes_of_some (hw []), write_of_some notes (hw s)]
  · obtain ⟨hopen, hplace⟩ := hw []
    have hput : (u.put place (.file (.text []))).overwrite path (.text s) =
        u.put place (.file (.text s)) := by
      rw [FileTree.overwrite, hplace.found]
      exact u.put_put place _ _
    rw [writeCodes, bind_of_ok (openFile_of_none hopen), Encoding.encode,
      Encoding.encodeFrom_chars, write, files_bind, (hw s).1]
    dsimp only
    rw [files_bind, hput]
    rfl

theorem read_of_holds {s : Text} (h : t.Holds d.files path (.text s) place) (notes : Bool) :
    (read notes path d).1 =
      if t.allows place .read then .ok (Encoding.lineFeeds s)
      else .error (.reading ⟨.denied, path⟩) := by
  by_cases hright : t.allows place .read = true
  · have htext : d.files.readText path = .ok (Encoding.lineFeeds s) := by
      rw [FileTree.readText, h.content_eq, if_pos hright, ← Encoding.feedLines_eq_lineFeeds]
      rfl
    obtain ⟨out, hread⟩ : Prints (read notes path) d _ := read_prints htext
    rw [hread, if_pos hright]
  · have hfault : d.files.readText path = .error ⟨.denied, path⟩ := by
      rw [FileTree.readText, h.content_eq, if_neg hright]
      rfl
    obtain ⟨out, hread⟩ : Prints (read notes path) d _ := read_prints_of_error hfault
    rw [hread, if_neg hright]

/-- Writing that returns has put the text where its path leads and has changed no other file;
reading gives it back with line feeds for line ends, unless the file may not be read. Writing that
fails has at most made directories, unless the file could be opened and the text holds a surrogate:
then the file is empty. -/
theorem writeCodes_frame (notes again : Bool) (path : Text) (s : List CodePoint) (d : Desk) :
    let run := writeCodes notes path s d
    (run.1 = .ok () → ∃ u : Text, s = u.map .char ∧
      ∃ place, d.files.Holds run.2.files path (.text u) place ∧
        (read again path run.2).1 =
          if d.files.allows place .read then .ok ((u.replace "\r\n" "\n").replace "\r" "\n")
          else .error (.reading ⟨.denied, path⟩)) ∧
    (∀ e, run.1 = .error e →
      (openFile path d).1 ≠ .ok () ∧ d.files.Grown run.2.files ∨
        (openFile path d).1 = .ok () ∧ (∃ n, CodePoint.surrogate n ∈ s) ∧
          ∃ place, d.files.Holds run.2.files path (.text []) place) := by
  intro run
  obtain ⟨t, fault, hgrown, hw⟩ | ⟨t, place, hw⟩ := writeTo_cases d.files path
  · have hrun : run = (.error (.writing path fault), { d with files := t }) :=
      writeCodes_of_some (hw []) notes s
    have hopen : openFile path d = (.error (.writing path fault), { d with files := t }) :=
      write_of_some false (hw [])
    rw [hrun, hopen]
    refine ⟨fun h => ?_, fun _ _ => .inl ⟨fun h => ?_, hgrown⟩⟩
    · cases h
    · cases h
  obtain ⟨u, rfl⟩ | ⟨hsurrogate, fault, hfault⟩ := Encoding.encodeFrom_cases 0 s
  · obtain ⟨hwritten, hplace⟩ := hw u
    obtain ⟨out, hout⟩ := write_of_none notes hwritten
    have hrun : run = _ := (writeCodes_chars notes path u d).trans hout
    rw [hrun]
    refine ⟨fun _ => ⟨u, rfl, place, hplace, read_of_holds hplace again⟩, fun _ h => ?_⟩
    cases h
  · obtain ⟨hopened, hplace⟩ := hw []
    have hrun : run = _ := writeCodes_of_error hopened hfault notes
    rw [hrun, openFile_of_none hopened]
    refine ⟨fun h => ?_, fun _ _ => .inr ⟨rfl, hsurrogate, place, hplace⟩⟩
    cases h

theorem writeCodes_frame_line_ends :
    let d : Desk := { files := .empty }
    let barred : Desk := { files := { FileTree.empty with bars := [(["work", "a.txt"], .read)] } }
    let codes := "x\r\ny\rz".toList.map .char
    (writeCodes false "a.txt" codes d).1 = .ok () ∧
      (read false "a.txt" (writeCodes false "a.txt" codes d).2).1 = .ok "x\ny\nz" ∧
      (writeCodes false "a.txt" codes barred).1 = .ok () ∧
      (read false "a.txt" (writeCodes false "a.txt" codes barred).2).1 =
        .error (.reading ⟨.denied, "a.txt"⟩) := by
  intro d barred codes
  have hok : (writeCodes false "a.txt" codes d).1 = .ok () := rfl
  have hbarred : (writeCodes false "a.txt" codes barred).1 = .ok () := rfl
  have hinj : Function.Injective CodePoint.char := fun _ _ h => CodePoint.char.inj h
  obtain ⟨u, hu, place, hplace, hread⟩ := (writeCodes_frame false false "a.txt" codes d).1 hok
  obtain ⟨u', hu', place', hplace', hread'⟩ :=
    (writeCodes_frame false false "a.txt" codes barred).1 hbarred
  obtain rfl := hinj.list_map hu
  obtain rfl := hinj.list_map hu'
  have hat : place' = ["work", "a.txt"] := by
    have hfound := hplace'.found
    cases hfound
    rfl
  rw [hat] at hread'
  exact ⟨hok, hread, hbarred, hread'⟩

theorem writeCodes_loses_content :
    let d : Desk := { files := FileTree.empty.put ["work", "a.txt"] (.file (.text "old")) }
    let run := writeCodes false "a.txt" [.char 'x', .surrogate 0] d
    run.1 = .error (.writing "a.txt" ⟨.unencodable ⟨1, [0]⟩, "a.txt"⟩) ∧
      d.files.content "a.txt" = .ok (.text "old") ∧
      run.2.files.content "a.txt" = .ok (.text []) :=
  ⟨rfl, rfl, rfl⟩

end Filing

end JavaSketch
