import TextScan.Proofs.Address.TrailingBlank
import TextScan.Proofs.Words

/-!
# Lines that begin with a label

A line with an attention label or a label for "care of" is kept for how it
begins, so it is kept whatever is put at its end.  A line of the other kinds is
kept as a whole, and at its end only white space makes no difference.

What follows an attention label names somebody.  The label is the longest that
is there, so `Attention` is never taken for `Att` and a name that begins with
`ention`.  After it a colon belongs to the label only if it stands next to it:
in `Att : Bo` white space is what divides, and the name is `: Bo`.
-/

namespace TextScan

namespace Grammar

/-- A colon divides a label from the rest or, where none follows the label, white
space, maybe none, as far as it goes. -/
inductive Divides : (divider rest : Text) → Prop
  | colon (rest : Text) : Divides [':'] rest
  | blank {divider rest : Text} (hblank : Blank divider) (hrest : rest.Stops isWhiteSpace)
      (hcolon : (divider ++ rest).head? ≠ some ':') : Divides divider rest

/-- The line is an attention label, the longest that is there, what divides it
from the rest, and the rest. -/
structure AttentionLine (line label divider rest : Text) : Prop where
  label : Longest (AnyCase Routing.attentionLabels) line label (divider ++ rest)
  divides : Divides divider rest

/-- Something that neither begins nor ends with white space. -/
structure Trimmed (name : Text) : Prop where
  ne_nil : name ≠ []
  first : name.Stops isWhiteSpace
  last : Text.Stops name.reverse isWhiteSpace

end Grammar

open Grammar Text

/-! ### White space at both ends -/

namespace Text

variable {text name : Text}

theorem trim_append {before after : Text} (hname : Trimmed name) (hbefore : Blank before)
    (hafter : Blank after) : trim (before ++ name ++ after) isWhiteSpace = name := by
  have hfront : (before ++ (name ++ after)).dropWhile isWhiteSpace = name ++ after :=
    (takeWhile_append_of_stops hbefore
      (hname.first.append fun hnil => absurd hnil hname.ne_nil)).2
  have hback : (after.reverse ++ name.reverse).dropWhile isWhiteSpace = name.reverse :=
    (takeWhile_append_of_stops hafter.reverse hname.last).2
  calc
    trim (before ++ name ++ after) isWhiteSpace
        = ((name ++ after).reverse.dropWhile isWhiteSpace).reverse := by
      rw [trim, List.append_assoc, hfront]
    _ = name := by rw [List.reverse_append, hback, List.reverse_reverse]

/-- After all white space at the front, what is trimmed at the back is white space. -/
theorem exists_trim_append (text : Text) :
    ∃ after, Blank after ∧ text.trim isWhiteSpace ++ after = text.dropWhile isWhiteSpace := by
  refine ⟨((text.dropWhile isWhiteSpace).reverse.takeWhile isWhiteSpace).reverse,
    (blank_takeWhile _).reverse, ?_⟩
  rw [trim, ← List.reverse_append, List.takeWhile_append_dropWhile, List.reverse_reverse]

theorem trim_eq_nil_iff : text.trim isWhiteSpace = [] ↔ Blank text := by
  constructor
  · intro hnil
    obtain ⟨after, hafter, hsplit⟩ := exists_trim_append text
    rw [hnil, List.nil_append] at hsplit
    rw [hsplit] at hafter
    exact List.dropWhile_eq_nil_iff.1 ((stops_dropWhile _ _).eq_nil hafter)
  · intro hblank
    rw [trim, List.dropWhile_eq_nil_iff.2 hblank]
    rfl

/-- What is left after trimming is what stands between white space at both ends. -/
theorem trim_eq_iff :
    text.trim isWhiteSpace = name ∧ name ≠ [] ↔
      ∃ before after, text = before ++ name ++ after ∧ Blank before ∧ Blank after ∧
        Trimmed name := by
  constructor
  · rintro ⟨rfl, hne⟩
    obtain ⟨after, hafter, hsplit⟩ := exists_trim_append text
    refine ⟨text.takeWhile isWhiteSpace, after, ?_, blank_takeWhile text, hafter, hne, ?_, ?_⟩
    · rw [List.append_assoc, hsplit, List.takeWhile_append_dropWhile]
    · have hstops := stops_dropWhile isWhiteSpace text
      rw [← hsplit] at hstops
      exact hstops.of_append
    · rw [trim, List.reverse_reverse]
      exact stops_dropWhile _ _
  · rintro ⟨before, after, rfl, hbefore, hafter, hname⟩
    exact ⟨trim_append hname hbefore hafter, hname.ne_nil⟩

theorem afterChar_eq_none_iff {expected : Char} :
    afterChar expected text = none ↔ text.head? ≠ some expected := by
  cases text with
  | nil => simp [afterChar]
  | cons c rest => simp [afterChar]

end Text

/-! ### Lines kept for how they begin -/

/-- A word in any case does not begin with white space if no word has any. -/
theorem Grammar.AnyCase.stops {words : List Text} {label : Text} (h : AnyCase words label)
    (hne : ∀ word ∈ words, word ≠ []) (hsolid : ∀ word ∈ words, Solid .ignored word)
    (rest : Text) : (label ++ rest).Stops isWhiteSpace := by
  refine Stops.append ?_ fun hnil => absurd hnil (h.ne_nil hne)
  rintro c more rfl
  obtain ⟨word, hword, hlower⟩ := h
  obtain ⟨expected, others, rfl⟩ := List.exists_cons_of_ne_nil (hne word hword)
  have hagrees : CaseMode.ignored.agrees c expected = true :=
    CaseMode.agrees_ignored.2 (List.cons.inj hlower).1
  by_contra hspace
  have hsame := hsolid _ hword expected List.mem_cons_self c (by simpa using hspace)
  exact absurd (hagrees.symm.trans hsame) (by decide)

namespace LineKind

variable {line : Text}

theorem keeps_iff_of_beginning {kind : LineKind} (h : kind.filter.coverage = .beginning) :
    kind.filter.keeps line = true ↔ ∃ rest, kind.left line = some rest := by
  simp [keeps_iff, h]

theorem keeps_attention_iff :
    attention.filter.keeps line = true ↔
      ∃ label rest, AnyCase Routing.attentionLabels label ∧ line = label ++ rest := by
  rw [keeps_iff_of_beginning rfl, ← exists_afterAnyWord_iff]
  simp [left, Routing.afterAttention]

theorem keeps_careOf_iff :
    careOf.filter.keeps line = true ↔
      ∃ blank label rest, Blank blank ∧ AnyCase Routing.careOfLabels label ∧
        line = blank ++ (label ++ rest) := by
  rw [keeps_iff_of_beginning rfl, left, Routing.afterCareOf, exists_afterAnyWord_iff]
  constructor
  · rintro ⟨label, rest, hlabel, hsplit⟩
    refine ⟨line.takeWhile isWhiteSpace, label, rest, blank_takeWhile line, hlabel, ?_⟩
    rw [← hsplit, List.takeWhile_append_dropWhile]
  · rintro ⟨blank, label, rest, hblank, hlabel, rfl⟩
    have hsolid : ∀ word ∈ Routing.careOfLabels, Solid .ignored word :=
      fun word hword => solid_of_mem_words (by simp [words, hword])
    refine ⟨label, rest, hlabel, (takeWhile_append_of_stops hblank ?_).2⟩
    exact hlabel.stops (by decide) hsolid rest

end LineKind

/-- White space at the end of a line makes no difference to whether it is kept,
and to a line that begins with an attention label or a label for "care of"
nothing at its end does. -/
theorem kept_when_extended :
    (∀ (kind : LineKind) (line blank : Text), Blank blank →
      kind.filter.keeps (line ++ blank) = kind.filter.keeps line) ∧
    ∀ kind ∈ [LineKind.attention, .careOf], ∀ line more : Text,
      kind.filter.keeps line = true → kind.filter.keeps (line ++ more) = true := by
  refine ⟨fun kind line _ hblank => kind.keeps_append_blank line hblank, ?_⟩
  intro kind hkind line more hkept
  rcases List.mem_pair.1 hkind with rfl | rfl
  · obtain ⟨label, rest, hlabel, rfl⟩ := LineKind.keeps_attention_iff.1 hkept
    exact LineKind.keeps_attention_iff.2 ⟨label, rest ++ more, hlabel, by simp⟩
  · obtain ⟨blank, label, rest, hblank, hlabel, rfl⟩ := LineKind.keeps_careOf_iff.1 hkept
    exact LineKind.keeps_careOf_iff.2 ⟨blank, label, rest ++ more, hblank, hlabel, by simp⟩

/-- A number takes the space after its last group and leaves the tab; an attention
label becomes a longer one. -/
theorem extended_lines_kept :
    Blank " \t".toList ∧
      LineKind.phone.filter.keeps ("Fax (1) 2-3".toList ++ " \t".toList) =
        LineKind.phone.filter.keeps "Fax (1) 2-3".toList ∧
      LineKind.phone.filter.keeps "Fax (1) 2-3".toList = true ∧
      LineKind.attention.filter.keeps "ATT".toList = true ∧
      LineKind.attention.filter.keeps ("ATT".toList ++ "ention".toList) = true :=
  ⟨by decide, kept_when_extended.1 .phone _ _ (by decide), by decide, by decide,
    kept_when_extended.2 .attention (by decide) _ _ (by decide)⟩

/-! ### Attention lines -/

namespace Routing

variable {line after rest : Text}

theorem longestFirst_attentionLabels : LongestFirst attentionLabels := by
  decide

theorem divides_iff :
    (afterChar ':' after).getD (after.dropWhile isWhiteSpace) = rest ↔
      ∃ divider, after = divider ++ rest ∧ Divides divider rest := by
  constructor
  · rintro rfl
    cases hcolon : afterChar ':' after with
    | some more => exact ⟨[':'], afterChar_eq_some_iff.1 hcolon, .colon more⟩
    | none =>
        have hsplit : after.takeWhile isWhiteSpace ++ after.dropWhile isWhiteSpace = after :=
          List.takeWhile_append_dropWhile
        refine ⟨after.takeWhile isWhiteSpace, hsplit.symm,
          .blank (blank_takeWhile after) (stops_dropWhile _ _) ?_⟩
        rw [Option.getD_none, hsplit]
        exact afterChar_eq_none_iff.1 hcolon
  · rintro ⟨divider, rfl, hdivides⟩
    cases hdivides with
    | colon rest => rfl
    | blank hblank hrest hcolon =>
        rw [afterChar_eq_none_iff.2 hcolon, Option.getD_none]
        exact (takeWhile_append_of_stops hblank hrest).2

theorem afterAttention_eq_some_iff :
    afterAttention line = some rest ↔ ∃ label divider, AttentionLine line label divider rest := by
  rw [afterAttention, Option.map_eq_some_iff]
  constructor
  · rintro ⟨after, hafter, hrest⟩
    obtain ⟨label, hlabel⟩ := (afterAnyWord_eq_some_iff longestFirst_attentionLabels).1 hafter
    obtain ⟨divider, rfl, hdivides⟩ := divides_iff.1 hrest
    exact ⟨label, divider, hlabel, hdivides⟩
  · rintro ⟨label, divider, hlabel, hdivides⟩
    refine ⟨divider ++ rest, ?_, divides_iff.2 ⟨divider, rfl, hdivides⟩⟩
    exact (afterAnyWord_eq_some_iff longestFirst_attentionLabels).2 ⟨label, hlabel⟩

/-- Who is named is told from what the grammar leaves of the line. -/
theorem addressee_eq (line : Text) :
    addressee line = (afterAttention line).bind fun rest =>
      if rest.trim isWhiteSpace = [] then none else some (rest.trim isWhiteSpace) := by
  obtain ⟨hmatched, hrest⟩ := leaves_attention.test_spec consumes_attention line .start
  rw [Scanner.test_eq_value, remaining_start] at hmatched hrest
  rw [addressee]
  split
  · rename_i hread
    rw [hread] at hmatched
    have hnone : afterAttention line = none := by simpa using hmatched.symm
    rw [hnone]
    rfl
  · rename_i label cursor hread
    rw [hread] at hmatched hrest
    obtain ⟨rest, hsome⟩ := Option.isSome_iff_exists.1 hmatched.symm
    rw [hsome, Option.getD_some] at hrest
    simp [hsome, hrest]

theorem addressee_eq_some_iff {name : Text} :
    addressee line = some name ↔
      ∃ label divider before after,
        AttentionLine line label divider (before ++ name ++ after) ∧
          Blank before ∧ Blank after ∧ Trimmed name := by
  have htrim : addressee line = some name ↔
      ∃ rest, afterAttention line = some rest ∧ rest.trim isWhiteSpace = name ∧ name ≠ [] := by
    rw [addressee_eq, Option.bind_eq_some_iff]
    refine exists_congr fun rest => and_congr_right fun _ => ?_
    split <;> grind
  rw [htrim]
  constructor
  · rintro ⟨rest, hrest, hname⟩
    obtain ⟨label, divider, hline⟩ := afterAttention_eq_some_iff.1 hrest
    obtain ⟨before, after, rfl, hparts⟩ := trim_eq_iff.1 hname
    exact ⟨label, divider, before, after, hline, hparts⟩
  · rintro ⟨label, divider, before, after, hline, hparts⟩
    exact ⟨before ++ name ++ after, afterAttention_eq_some_iff.2 ⟨label, divider, hline⟩,
      trim_eq_iff.2 ⟨before, after, rfl, hparts⟩⟩

theorem addressee_eq_none_iff :
    addressee line = none ↔
      LineKind.attention.filter.keeps line = false ∨
        ∃ label divider rest, AttentionLine line label divider rest ∧ Blank rest := by
  have hkept : LineKind.attention.filter.keeps line = false ↔ afterAttention line = none := by
    rw [← Bool.not_eq_true, LineKind.keeps_iff_of_beginning rfl, LineKind.left]
    simp [Option.eq_none_iff_forall_ne_some]
  have hblank : (∃ label divider rest, AttentionLine line label divider rest ∧ Blank rest) ↔
      ∃ rest, afterAttention line = some rest ∧ rest.trim isWhiteSpace = [] := by
    simp only [afterAttention_eq_some_iff, trim_eq_nil_iff]
    grind
  rw [hkept, hblank, addressee_eq]
  cases afterAttention line with
  | none => simp
  | some rest => simp

end Routing

/-- A line names what follows its label and what divides it from the name, less
white space at both ends, and nobody if that is all white space.  The label is
captured as it is spelled, wherever one is looked for. -/
theorem addressee_named :
    (∀ line name : Text, Routing.addressee line = some name ↔
      ∃ label divider before after,
        AttentionLine line label divider (before ++ name ++ after) ∧
          Blank before ∧ Blank after ∧ Trimmed name) ∧
    (∀ line : Text, Routing.addressee line = none ↔
      LineKind.attention.filter.keeps line = false ∨
        ∃ label divider rest, AttentionLine line label divider rest ∧ Blank rest) ∧
    ∀ (text : Text) (cursor : Cursor) (span : Span),
      (Rule.apply (.attentionLabel .capture) text cursor).1 = .span (some span) ↔
        span.start = cursor.offset ∧ ∃ rest,
          Longest (AnyCase Routing.attentionLabels) (text.remaining cursor.offset) span.text
            rest := by
  refine ⟨fun _ _ => Routing.addressee_eq_some_iff, fun _ => Routing.addressee_eq_none_iff, ?_⟩
  intro text cursor span
  have hreport : (Rule.apply (.attentionLabel .capture) text cursor).1 =
      .span (Routing.attentionLabel.capture text cursor).1 := rfl
  rw [hreport, Answer.span.injEq]
  exact Scanner.capture_anyWord_iff (by decide) Routing.longestFirst_attentionLabels

example : Routing.addressee "ATTN : Bo ".toList = some ": Bo".toList := by
  decide

end TextScan
