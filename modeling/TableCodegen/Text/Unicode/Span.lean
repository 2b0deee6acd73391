/-!
# Spans of code points

A property of characters is a list of spans. A span is an arithmetic progression, so that the
alternating capitals and small letters of Latin, Greek and Cyrillic blocks take one entry.
-/

namespace TableCodegen.Text.Unicode

/-- The code points `first`, `first + step`, … not beyond `last`. -/
structure Span where
  first : Nat
  last : Nat
  step : Nat
  deriving Repr, DecidableEq

/-- Membership of a code point in a span. -/
def Span.contains (s : Span) (n : Nat) : Bool :=
  s.first ≤ n && n ≤ s.last && (n - s.first) % s.step == 0

/-- Membership of a code point in a list of spans. -/
def inSpans (spans : List Span) (n : Nat) : Bool :=
  spans.any (·.contains n)

/-- A span whose code points all move by one amount under a case map. -/
structure Shift where
  span : Span
  delta : Int
  deriving Repr, DecidableEq

/-- The image of a code point under the first shift that holds it, if there is one. -/
def shifted? (shifts : List Shift) (n : Nat) : Option Nat :=
  (shifts.find? (·.span.contains n)).map fun s => ((n : Int) + s.delta).toNat

end TableCodegen.Text.Unicode
