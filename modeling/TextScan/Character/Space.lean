import TextScan.Character.CodeRange

/-!
# White space, separators and control characters

White space is the property `White_Space`; separators are the general categories Zs, Zl and Zp,
and control characters the category Cc, of Unicode 16.0.  The line breaking controls are white
space without being separators.
-/

namespace TextScan

def whiteSpaceTable : CodeTable :=
  .ofSpans [
    (0x0009, 0x000D), (0x0020, 0x0020), (0x0085, 0x0085), (0x00A0, 0x00A0), (0x1680, 0x1680),
    (0x2000, 0x200A), (0x2028, 0x2029), (0x202F, 0x202F), (0x205F, 0x205F), (0x3000, 0x3000)]

/-- Space, line and paragraph separators. -/
def separatorTable : CodeTable :=
  .ofSpans [
    (0x0020, 0x0020), (0x00A0, 0x00A0), (0x1680, 0x1680), (0x2000, 0x200A), (0x2028, 0x2029),
    (0x202F, 0x202F), (0x205F, 0x205F), (0x3000, 0x3000)]

def controlTable : CodeTable :=
  .ofSpans [
    (0x0000, 0x001F), (0x007F, 0x009F)]

end TextScan
