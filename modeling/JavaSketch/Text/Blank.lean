import JavaSketch.Text.Span

/-!
Blank characters: what separates words and makes up indentation.
-/

namespace JavaSketch

/-- The blank characters, as spans of code points. -/
def blankSpans : List (Nat × Nat) :=
  [(0x9, 0xd), (0x1c, 0x20), (0x85, 0x85), (0xa0, 0xa0), (0x1680, 0x1680), (0x2000, 0x200a),
   (0x2028, 0x2029), (0x202f, 0x202f), (0x205f, 0x205f), (0x3000, 0x3000)]

def isBlank (c : Char) : Bool := inSpans blankSpans c.toNat

end JavaSketch
