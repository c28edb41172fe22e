/-!
# Ranges of code points

Character properties are data: a property is a table of ranges, and a character has the
property when its code point lies in one of them.  Alphabets that alternate between two cases
fill every second place of a stretch, so a range carries a step.
-/

namespace TextScan

/-- Every `step`-th code point from `first` to `last`. -/
structure CodeRange where
  first : Nat
  last : Nat
  step : Nat
  deriving DecidableEq

/-- The range holds exactly the code points `first + k * step` that do not exceed `last`. -/
def CodeRange.contains (range : CodeRange) (code : Nat) : Bool :=
  range.first ≤ code && code ≤ range.last && (code - range.first) % range.step == 0

/-- A character property, given by the ranges of the code points that have it. -/
structure CodeTable where
  ranges : List CodeRange
  deriving DecidableEq

namespace CodeTable

/-- The table of the stretches `first .. last` without gaps. -/
def ofSpans (spans : List (Nat × Nat)) : CodeTable :=
  ⟨spans.map fun span => ⟨span.1, span.2, 1⟩⟩

/-- Whether the character has the property. -/
def contains (table : CodeTable) (c : Char) : Bool :=
  table.ranges.any fun range => range.contains c.toNat

end CodeTable

end TextScan
