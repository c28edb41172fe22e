/-!
# Text and spans

Text is a list of characters.  Places in it are byte offsets of its UTF-8 form, so an offset may
also fall inside a character or past the end; the functions that take an offset say what they do
there.  A span is a piece of text together with the offset at which it starts.

An offset is a boundary exactly if it is the size of a beginning of the text
(`Text.fromByte?_eq_some_iff`), and a slice is the text between two boundaries
(`Text.slice_eq_some_iff`).
-/

namespace TextScan

/-- A text, character by character. -/
abbrev Text := List Char

/-- A piece of a text and the byte offset at which it starts. -/
structure Span where
  start : Nat
  text : Text
  deriving DecidableEq

namespace Text

/-- The number of bytes of the UTF-8 form. -/
def byteSize : Text → Nat
  | [] => 0
  | c :: rest => c.utf8Size + byteSize rest

/-- The text from a byte offset on; nothing if the offset is not a boundary between
characters. -/
def fromByte? : Text → Nat → Option Text
  | text, 0 => some text
  | [], _ + 1 => none
  | c :: rest, offset + 1 =>
    if c.utf8Size ≤ offset + 1 then fromByte? rest (offset + 1 - c.utf8Size) else none

/-- The text before a byte offset; nothing if the offset is not a boundary between
characters. -/
def uptoByte? : Text → Nat → Option Text
  | _, 0 => some []
  | [], _ + 1 => none
  | c :: rest, offset + 1 =>
    if c.utf8Size ≤ offset + 1 then
      (uptoByte? rest (offset + 1 - c.utf8Size)).map (c :: ·)
    else none

/-- The text from a byte offset on.  At an offset that is no boundary nothing remains. -/
def remaining (text : Text) (offset : Nat) : Text :=
  (text.fromByte? offset).getD []

/-- The span between two byte offsets, both of them boundaries and in this order. -/
def slice (text : Text) (start stop : Nat) : Option Span :=
  if stop < start then none
  else
    match text.fromByte? start with
    | none => none
    | some rest => (Text.uptoByte? rest (stop - start)).map fun piece => ⟨start, piece⟩

/-- The text without the blanks at its two ends. -/
def trim (text : Text) (isBlank : Char → Bool) : Text :=
  ((text.dropWhile isBlank).reverse.dropWhile isBlank).reverse

/-! ### Boundaries -/

@[simp]
theorem byteSize_append (left right : Text) :
    byteSize (left ++ right) = left.byteSize + right.byteSize := by
  induction left with
  | nil => simp [byteSize]
  | cons c rest ih => simp [byteSize, ih, Nat.add_assoc]

/-- A text without bytes has no characters, since each character takes a byte at least. -/
theorem byteSize_eq_zero_iff {text : Text} : text.byteSize = 0 ↔ text = [] := by
  cases text with
  | nil => simp [byteSize]
  | cons c rest =>
    have hc := c.utf8Size_pos
    simp only [byteSize, reduceCtorEq, iff_false]
    omega

/-- The boundaries of a text are the sizes of its beginnings. -/
theorem fromByte?_eq_some_iff {text rest : Text} {offset : Nat} :
    text.fromByte? offset = some rest ↔
      ∃ before : Text, text = before ++ rest ∧ before.byteSize = offset := by
  fun_induction fromByte? text offset with
  | case1 text =>
    constructor
    · rintro h
      exact ⟨[], by simpa using h, rfl⟩
    · rintro ⟨before, rfl, hsize⟩
      rw [byteSize_eq_zero_iff] at hsize
      simp [hsize]
  | case2 offset =>
    simp only [reduceCtorEq, List.nil_eq, List.append_eq_nil_iff, false_iff, not_exists]
    rintro before ⟨⟨rfl, -⟩, hsize⟩
    simp [byteSize] at hsize
  | case3 c tail offset hle ih =>
    rw [ih]
    clear ih
    constructor
    · rintro ⟨before, rfl, hsize⟩
      exact ⟨c :: before, rfl, by simp only [byteSize]; omega⟩
    · rintro ⟨before, heq, hsize⟩
      cases before with
      | nil => simp [byteSize] at hsize
      | cons d before =>
        obtain ⟨rfl, rfl⟩ := List.cons.inj heq
        exact ⟨before, rfl, by simp only [byteSize] at hsize; omega⟩
  | case4 c tail offset hlt =>
    simp only [reduceCtorEq, false_iff, not_exists]
    rintro before ⟨heq, hsize⟩
    cases before with
    | nil => simp [byteSize] at hsize
    | cons d before =>
      obtain ⟨rfl, rfl⟩ := List.cons.inj heq
      simp only [byteSize] at hsize
      omega

/-- What stands before a boundary is the beginning of that size. -/
theorem uptoByte?_eq_some_iff {text before : Text} {offset : Nat} :
    text.uptoByte? offset = some before ↔
      before <+: text ∧ before.byteSize = offset := by
  fun_induction uptoByte? text offset generalizing before with
  | case1 text =>
    constructor
    · rintro h
      cases h
      exact ⟨by simp, rfl⟩
    · rintro ⟨-, hsize⟩
      rw [byteSize_eq_zero_iff] at hsize
      simp [hsize]
  | case2 offset =>
    simp only [reduceCtorEq, List.prefix_nil, false_iff]
    rintro ⟨rfl, hsize⟩
    simp [byteSize] at hsize
  | case3 c tail offset hle ih =>
    rw [Option.map_eq_some_iff]
    constructor
    · rintro ⟨more, hmore, rfl⟩
      obtain ⟨hbegins, hsize⟩ := ih.1 hmore
      exact ⟨List.cons_prefix_cons.2 ⟨rfl, hbegins⟩, by simp only [byteSize]; omega⟩
    · rintro ⟨hbegins, hsize⟩
      cases before with
      | nil => simp [byteSize] at hsize
      | cons d more =>
        obtain ⟨rfl, hmore⟩ := List.cons_prefix_cons.1 hbegins
        exact ⟨more, ih.2 ⟨hmore, by simp only [byteSize] at hsize; omega⟩, rfl⟩
  | case4 c tail offset hlt =>
    simp only [reduceCtorEq, false_iff]
    rintro ⟨hbegins, hsize⟩
    cases before with
    | nil => simp [byteSize] at hsize
    | cons d more =>
      obtain ⟨rfl, -⟩ := List.cons_prefix_cons.1 hbegins
      simp only [byteSize] at hsize
      omega

/-- A span between two boundaries is the text between them. -/
theorem slice_eq_some_iff {text : Text} {start stop : Nat} {span : Span} :
    text.slice start stop = some span ↔
      ∃ before after : Text, text = before ++ span.text ++ after ∧
        before.byteSize = start ∧ span.start = start ∧ span.text.byteSize + start = stop := by
  unfold slice
  split
  · simp only [reduceCtorEq, false_iff, not_exists]
    rintro before after ⟨-, -, -, hstop⟩
    omega
  · rename_i hle
    split
    · rename_i hnone
      simp only [reduceCtorEq, false_iff, not_exists]
      rintro before after ⟨heq, hbefore, -, -⟩
      have hsome : text.fromByte? start = some (span.text ++ after) :=
        fromByte?_eq_some_iff.2 ⟨before, by rw [heq, List.append_assoc], hbefore⟩
      simp [hnone] at hsome
    · rename_i rest hrest
      obtain ⟨before, rfl, hbefore⟩ := fromByte?_eq_some_iff.1 hrest
      rw [Option.map_eq_some_iff]
      constructor
      · rintro ⟨piece, hpiece, rfl⟩
        obtain ⟨⟨after, rfl⟩, hsize⟩ := uptoByte?_eq_some_iff.1 hpiece
        exact ⟨before, after, by simp, hbefore, rfl, by simp only; omega⟩
      · rintro ⟨before', after, heq, hbefore', hstart, hstop⟩
        have hrest' : (before ++ rest : Text).fromByte? start = some (span.text ++ after) :=
          fromByte?_eq_some_iff.2 ⟨before', by rw [heq, List.append_assoc], hbefore'⟩
        rw [hrest] at hrest'
        cases hrest'
        refine ⟨span.text, uptoByte?_eq_some_iff.2 ⟨List.prefix_append _ _, by omega⟩, ?_⟩
        cases span
        simp_all

end Text

namespace Span

/-- The span that holds nothing, at a place of its own. -/
def empty (start : Nat) : Span :=
  ⟨start, []⟩

/-- The byte offset just past the span. -/
def stop (span : Span) : Nat :=
  span.start + span.text.byteSize

/-- The length of the span in bytes. -/
def byteSize (span : Span) : Nat :=
  span.text.byteSize

/-- Whether the span holds no text.  Such a span is still a span. -/
def isEmpty (span : Span) : Bool :=
  span.text.isEmpty

end Span

end TextScan
