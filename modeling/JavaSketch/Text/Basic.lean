import JavaSketch.Text.Blank

/-!
Texts and the operations on them that the readers need: trimming, cutting at a separator,
splitting and replacing.
-/

namespace JavaSketch

/-- A text is the list of its characters. -/
abbrev Text := List Char

instance : Coe String Text := ⟨String.toList⟩

namespace Text

def trimLeft (s : Text) : Text := s.dropWhile isBlank

/-- The text without the characters at its end that satisfy `p`. -/
def dropEndWhile (p : Char → Bool) (s : Text) : Text := (s.reverse.dropWhile p).reverse

def trimRight (s : Text) : Text := s.dropEndWhile isBlank

def trim (s : Text) : Text := s.trimLeft.trimRight

/-- The number of blank characters in front. -/
def indent (s : Text) : Nat := (s.takeWhile isBlank).length

def startsWith (s p : Text) : Bool := p.isPrefixOf s

def endsWith (s p : Text) : Bool := p.isSuffixOf s

/-- What stands before and after the first occurrence of `sep`. -/
def cut? (sep : Text) : Text → Option (Text × Text)
  | [] => if sep.isEmpty then some ([], []) else none
  | c :: s =>
    if sep.isPrefixOf (c :: s) then some ([], (c :: s).drop sep.length)
    else (cut? sep s).map fun (before, after) => (c :: before, after)

def includes (s part : Text) : Bool := (cut? part s).isSome

/-- The pieces between the occurrences of one character. -/
def splitAt (c : Char) : Text → List Text
  | [] => [[]]
  | d :: s =>
    if d = c then [] :: splitAt c s
    else
      match splitAt c s with
      | piece :: pieces => (d :: piece) :: pieces
      | [] => [[d]]

/-- Every occurrence of `old`, from the left and without overlap, becomes `new`; the counter
says how many characters of an occurrence are still to be passed over. -/
def replaceFrom (old new : Text) : Nat → Text → Text
  | _, [] => []
  | n + 1, _ :: s => replaceFrom old new n s
  | 0, c :: s =>
    if old.isPrefixOf (c :: s) then new ++ replaceFrom old new (old.length - 1) s
    else c :: replaceFrom old new 0 s

def replace (s old new : Text) : Text := replaceFrom old new 0 s

/-- The runs of characters that are not blank. -/
def words (s : Text) : List Text :=
  s.foldr (fun c runs =>
    if isBlank c then [] :: runs
    else
      match runs with
      | run :: runs => (c :: run) :: runs
      | [] => [[c]]) [[]] |>.filter (· ≠ [])

def join (sep : Text) (pieces : List Text) : Text := sep.intercalate pieces

def lines (s : Text) : List Text := s.splitAt '\n'

def unlines (ls : List Text) : Text := join ['\n'] ls

def isQuoted (s : Text) : Bool := s.startsWith ['"'] && s.endsWith ['"']

end Text

end JavaSketch
