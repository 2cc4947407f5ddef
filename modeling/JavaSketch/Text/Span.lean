/-!
Spans of code points, the form in which the character classes are tabulated.
-/

namespace JavaSketch

def inSpans (spans : List (Nat × Nat)) (n : Nat) : Bool :=
  spans.any fun span => span.1 ≤ n && n ≤ span.2

end JavaSketch
