import TextScan.Cursor

/-!
# Sites

A site is a place with the text that remains there.  Scanning a site means finding a run at the
front of the remaining text and moving past it.  At an offset that is no boundary nothing remains,
and so nothing can be found.
-/

namespace TextScan

/-- A place in a text and what remains from there on. -/
structure Site where
  offset : Nat
  index : UInt64
  rest : Text
  deriving DecidableEq

namespace Site

def ofCursor (text : Text) (cursor : Cursor) : Site :=
  ⟨cursor.offset, cursor.index, text.remaining cursor.offset⟩

def start (text : Text) : Site :=
  ⟨0, 0, text⟩

/-- The site past a run, which is expected to stand at the front of the remaining text. -/
def past (site : Site) (run : Text) : Site :=
  ⟨site.offset + run.byteSize, site.index + .ofNat run.length, site.rest.drop run.length⟩

def span (site : Site) (run : Text) : Span :=
  ⟨site.offset, run⟩

/-- The place of the site.  How it was reached is not recorded. -/
def cursor (site : Site) : Cursor :=
  ⟨site.offset, site.index, 0⟩

def isAtEnd (site : Site) : Bool :=
  site.rest.isEmpty

@[simp]
theorem past_nil (site : Site) : site.past [] = site := by
  simp [past, Text.byteSize]

/-- Moving past two runs in turn is moving past both together. -/
theorem past_past (site : Site) (first second : Text) :
    (site.past first).past second = site.past (first ++ second) := by
  simp [past, Nat.add_assoc, UInt64.add_assoc, List.drop_drop]

end Site

end TextScan
