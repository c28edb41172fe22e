import TextScan.Scanner

/-!
# Zip codes and postal codes

A zip code is a run of digits.  A postal code has two halves, each a run of exactly three letters
or digits, with white space between them or nothing; a run counts as a whole, so six letters in a
row are no postal code.
-/

namespace TextScan.PostCode

def zip : Scanner Span :=
  .run (.ofClass .digit)

/-- Reads half a postal code: a run of three letters or digits that ends there.  The run is judged
by its characters; the size of the move over it says the same unless the count wraps around. -/
def half : Scanner Span := fun site =>
  match Scanner.run (.ofClass .letterOrDigit) site with
  | none => none
  | some (found, next) => if found.text.length = 3 then some (found, next) else none

/-- Reads a postal code such as `A1A 1A1` and returns its halves. -/
def postal : Scanner (Span × Span) := do
  let first ← half
  let _ ← .blank
  let second ← half
  return (first, second)

end TextScan.PostCode
