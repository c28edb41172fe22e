import TextScan.Scanner

/-!
# Routing labels

Lines of an address that direct a letter to a person: "attention" and "care of".  Labels are read
without regard to case, and the longest spelling is tried first, so that none hides another.
-/

namespace TextScan.Routing

def attentionLabels : List Text :=
  ["Attention".toList, "Attn".toList, "Att".toList]

def careOfLabels : List Text :=
  ["C/O".toList, "C\\O".toList]

def attentionLabel : Scanner Span :=
  .anyWord .ignored attentionLabels

/-- Reads an attention label and, after it, a colon or white space, if any.  Returns the label. -/
def attention : Scanner Span := do
  let label ← attentionLabel
  let _ ← .maybe (.either (.char ':') .space)
  return label

/-- Reads a label for "care of" after optional white space.  Returns the label. -/
def careOf : Scanner Span := do
  let _ ← .blank
  .anyWord .ignored careOfLabels

/-- Whom an attention line names: what follows the label, without white space around it.  A line
without the label, or with nothing after it, names nobody. -/
def addressee (line : Text) : Option Text :=
  match attention.value line .start with
  | (none, _) => none
  | (some _, cursor) =>
    let named := Text.trim (line.remaining cursor.offset) isWhiteSpace
    if named.isEmpty then none else some named

end TextScan.Routing
