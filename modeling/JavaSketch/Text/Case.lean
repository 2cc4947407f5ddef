import JavaSketch.Text.Basic
import JavaSketch.Text.CaseTable

/-!
Lower case, capitals, and comparison of characters up to case.
-/

namespace JavaSketch

/-- The lower-case form of a character, as one character. -/
def lowerChar (c : Char) : Char :=
  if c.toNat < 0x80 then c.toLower else Char.ofNat (applyRules lowerRules c.toNat)

/-- The title-case form of a character; ligatures take several characters. -/
def titleChar (c : Char) : Text :=
  if c.toNat < 0x80 then [c.toUpper]
  else
    match longTitles.lookup c.toNat with
    | some ns => ns.map Char.ofNat
    | none => [Char.ofNat (applyRules titleRules c.toNat)]

/-- Equal up to case, the dotted and dotless `i`, the long `s` and their like included. -/
def sameLetter (c d : Char) : Bool :=
  lowerChar c == lowerChar d || caseTwins.contains ((lowerChar c).toNat, (lowerChar d).toNat)

def isCased (c : Char) : Bool :=
  if c.toNat < 0x80 then c.isAlpha else inSpans casedSpans c.toNat

def isCaselessMark (c : Char) : Bool := inSpans caselessMarkSpans c.toNat

/-- Whether the first character that is no caseless mark has a case. -/
def meetsCased (s : Text) : Bool :=
  match s.dropWhile isCaselessMark with
  | c :: _ => isCased c
  | [] => false

namespace Text

/-- Lower case of a text whose preceding characters are `before`, the nearest first. A capital
sigma is written as the final one at the end of a word. -/
def lowerAfter (before : Text) : Text → Text
  | [] => []
  | c :: s =>
    let low : Text :=
      if c = 'Σ' then if meetsCased before && !meetsCased s then ['ς'] else ['σ']
      else if c = 'İ' then ['i', Char.ofNat 0x307]
      else [lowerChar c]
    low ++ lowerAfter (c :: before) s

def lower (s : Text) : Text := lowerAfter [] s

/-- The first character in title case and the others in lower case. -/
def capitalize : Text → Text
  | [] => []
  | c :: s => titleChar c ++ lowerAfter [c] s

end Text

end JavaSketch
