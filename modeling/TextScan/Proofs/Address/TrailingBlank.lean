import TextScan.Proofs.Address.Remainders

/-!
# White space at the end of a line

White space that is put at the end of a line does not change whether the line
is kept.  The grammars take it or leave it, depending on where they stop: a
number takes spaces after its last digit, a code takes none.  In either case
what is left of the longer line is what is left of the line with white space
after it, so one is blank if the other is, and where nothing is found in the
one nothing is found in the other.
-/

namespace TextScan

open Grammar

namespace Text

/-- The second text is the first with white space after it. -/
inductive Pads : Text → Text → Prop
  | blank {other : Text} (hblank : Blank other) : Pads [] other
  | cons (c : Char) {text other : Text} (hpads : Pads text other) : Pads (c :: text) (c :: other)

variable {text other : Text} {accepts : Char → Bool}

theorem pads_append (text : Text) {blank : Text} (hblank : Blank blank) :
    Pads text (text ++ blank) := by
  induction text with
  | nil => exact .blank hblank
  | cons c text ih => exact .cons c ih

theorem Pads.blank_iff (h : Pads text other) : Blank other ↔ Blank text := by
  induction h with
  | blank hblank => exact iff_of_true hblank blank_nil
  | cons c hpads ih =>
      simp only [Blank, List.forall_mem_cons]
      exact and_congr_right fun _ => ih

theorem Pads.drop (h : Pads text other) (count : Nat) :
    Pads (text.drop count) (other.drop count) := by
  induction h generalizing count with
  | blank hblank =>
      rw [List.drop_nil]
      exact .blank fun c hc => hblank c (List.mem_of_mem_drop hc)
  | cons c hpads ih =>
      cases count with
      | zero => exact .cons c hpads
      | succ count => exact ih count

theorem Pads.dropWhile (h : Pads text other) (accepts : Char → Bool) :
    Pads (text.dropWhile accepts) (other.dropWhile accepts) := by
  induction h with
  | blank hblank => exact .blank fun c hc => hblank c ((List.dropWhile_suffix accepts).subset hc)
  | cons c hpads ih =>
      by_cases hc : accepts c = true
      · simpa [hc] using ih
      · simpa [hc] using hpads.cons c

/-- Characters that are not white space are counted the same. -/
theorem Pads.takeWhile_eq (h : Pads text other)
    (hsolid : ∀ c, isWhiteSpace c = true → accepts c = false) :
    other.takeWhile accepts = text.takeWhile accepts := by
  induction h with
  | @blank other hblank =>
      cases other with
      | nil => rfl
      | cons c other => simp [hsolid c (hblank c List.mem_cons_self)]
  | cons c hpads ih => simp only [List.takeWhile_cons, ih]

theorem Pads.any_takeWhile_eq (h : Pads text other) {counts : Char → Bool}
    (hsolid : ∀ c, isWhiteSpace c = true → counts c = false) :
    (other.takeWhile accepts).any counts = (text.takeWhile accepts).any counts := by
  induction h with
  | @blank other hblank =>
      refine List.any_eq_false.2 fun c hc => ?_
      simp [hsolid c (hblank c ((List.takeWhile_prefix accepts).subset hc))]
  | cons c hpads ih => by_cases hc : accepts c = true <;> simp [hc, ih]

/-- White space spells no part of the word. -/
def Solid (mode : CaseMode) (word : Text) : Prop :=
  ∀ expected ∈ word, ∀ c, isWhiteSpace c = true → mode.agrees c expected = false

theorem Pads.spelled?_eq (h : Pads text other) {mode : CaseMode} {word : Text}
    (hword : Solid mode word) : spelled? mode word other = spelled? mode word text := by
  induction h generalizing word with
  | @blank other hblank =>
      cases word with
      | nil => rfl
      | cons expected word =>
          cases other with
          | nil => rfl
          | cons c other =>
              have hc := hword expected List.mem_cons_self c (hblank c List.mem_cons_self)
              simp [spelled?, hc]
  | cons c hpads ih =>
      cases word with
      | nil => rfl
      | cons expected word =>
          have hmore := ih fun d hd => hword d (List.mem_cons_of_mem _ hd)
          simp only [spelled?, hmore]

/-! ### Grammars that keep white space at the end apart -/

/-- White space after a text stays after what is left of it. -/
def Steady (left : Text → Option Text) : Prop :=
  ∀ ⦃text other⦄, Pads text other → Option.Rel Pads (left text) (left other)

variable {left more : Text → Option Text}

theorem Steady.bind (hleft : Steady left) (hmore : Steady more) :
    Steady fun text => (left text).bind more := by
  intro text other hpads
  dsimp only
  rcases left text, left other, hleft hpads with ⟨_, _, hrest | _⟩
  · exact hmore hrest
  · exact .none

theorem Steady.map (hleft : Steady left) {past : Text → Text}
    (hpast : ∀ ⦃text other⦄, Pads text other → Pads (past text) (past other)) :
    Steady fun text => (left text).map past := by
  intro text other hpads
  dsimp only
  rcases left text, left other, hleft hpads with ⟨_, _, hrest | _⟩
  · exact .some (hpast hrest)
  · exact .none

theorem Steady.or (hleft : Steady left) (hmore : Steady more) :
    Steady fun text => (left text).or (more text) := by
  intro text other hpads
  dsimp only
  rcases left text, left other, hleft hpads with ⟨_, _, hrest | _⟩
  · exact .some hrest
  · exact hmore hpads

theorem Steady.comp (hleft : Steady left) {past : Text → Text}
    (hpast : ∀ ⦃text other⦄, Pads text other → Pads (past text) (past other)) :
    Steady fun text => left (past text) :=
  fun _ _ hpads => hleft (hpast hpads)

theorem Steady.getD (hleft : Steady left) {default replaced : Text}
    (hpads : Pads text other) (hdefault : Pads default replaced) :
    Pads ((left text).getD default) ((left other).getD replaced) := by
  rcases left text, left other, hleft hpads with ⟨_, _, hrest | _⟩
  · exact hrest
  · exact hdefault

theorem Steady.pastMaybe (hleft : Steady left) ⦃text other : Text⦄ (hpads : Pads text other) :
    Pads (text.pastMaybe left) (other.pastMaybe left) :=
  have hstart := hpads.dropWhile isWhiteSpace
  (hleft.getD hstart hstart).dropWhile isWhiteSpace

theorem rel_ite {condition : Prop} [Decidable condition] (hpads : Pads text other) :
    Option.Rel Pads (if condition then some text else none)
      (if condition then some other else none) := by
  split
  · exact .some hpads
  · exact .none

/-- It is enough that white space in front is refused. -/
theorem steady_of_first (hnil : left [] = none)
    (hblank : ∀ c rest, isWhiteSpace c = true → left (c :: rest) = none)
    (hcons : ∀ c ⦃text other⦄, Pads text other →
      Option.Rel Pads (left (c :: text)) (left (c :: other))) : Steady left := by
  intro text other hpads
  cases hpads with
  | cons c hpads => exact hcons c hpads
  | blank hother =>
      rw [hnil]
      cases other with
      | nil =>
          rw [hnil]
          exact .none
      | cons c other =>
          rw [hblank c other (hother c List.mem_cons_self)]
          exact .none

theorem steady_afterChar {c : Char} (hc : isWhiteSpace c = false) : Steady (afterChar c) := by
  refine steady_of_first rfl (fun d rest hd => ?_) fun d _ _ hpads => rel_ite hpads
  rw [afterChar, if_neg]
  rintro rfl
  exact absurd (hd.symm.trans hc) (by decide)

theorem steady_afterRun (hsolid : ∀ c, isWhiteSpace c = true → accepts c = false) :
    Steady (afterRun accepts) := by
  refine steady_of_first rfl (fun c rest hc => ?_) fun c _ _ hpads =>
    rel_ite (hpads.dropWhile accepts)
  rw [afterRun, hsolid c hc]
  rfl

theorem steady_afterAnyWord {mode : CaseMode} {words : List Text}
    (hwords : ∀ word ∈ words, Solid mode word) : Steady (afterAnyWord mode words) := by
  induction words with
  | nil => exact fun _ _ _ => .none
  | cons word words ih =>
      have hword : Steady (afterWord mode word) := by
        intro text other hpads
        rw [afterWord, afterWord, hpads.spelled?_eq (hwords word List.mem_cons_self)]
        cases spelled? mode word text with
        | none => exact .none
        | some found => exact .some (hpads.drop found.length)
      have hothers := ih fun other hother => hwords other (List.mem_cons_of_mem _ hother)
      intro text other hpads
      rw [afterAnyWord_cons, afterAnyWord_cons]
      exact hword.or hothers hpads

end Text

open Text

/-! ### The address grammars -/

namespace Telephone

theorem steady_afterBrackets : Steady afterBrackets :=
  (steady_afterChar (by decide)).bind
    ((steady_afterRun fun _ => isDigit_of_isWhiteSpace).bind (steady_afterChar (by decide)))

theorem steady_afterGroups (delimiters : Text) : Steady (afterGroups delimiters) := by
  intro text other hpads
  rw [afterGroups, afterGroups, hpads.any_takeWhile_eq fun _ => isDigit_of_isWhiteSpace]
  exact rel_ite (hpads.dropWhile _)

theorem steady_afterNumber : Steady afterNumber := by
  intro text other hpads
  have hcountry : Pads (pastCountry text) (pastCountry other) :=
    ((steady_afterChar (by decide)).pastMaybe hpads).dropWhile isDigit
  have harea : Pads (pastArea (pastCountry text)) (pastArea (pastCountry other)) :=
    (steady_afterChar (by decide)).pastMaybe (steady_afterBrackets.pastMaybe hcountry)
  exact steady_afterGroups delimiters harea

end Telephone

namespace PostCode

/-- White space is neither letter nor digit, so no half grows by it. -/
theorem steady_afterHalf : Steady afterHalf := by
  intro text other hpads
  rw [afterHalf, afterHalf, hpads.takeWhile_eq fun _ => isLetterOrDigit_of_isWhiteSpace]
  exact rel_ite (hpads.dropWhile _)

theorem steady_afterPostal : Steady afterPostal :=
  steady_afterHalf.bind (steady_afterHalf.comp fun _ _ hpads => hpads.dropWhile isWhiteSpace)

end PostCode

namespace LineKind

def words : List Text :=
  Telephone.labels ++ Routing.attentionLabels ++ Routing.careOfLabels

/-- No letter of a label is the lower or upper case of white space. -/
theorem solid_of_mem_words {word : Text} (h : word ∈ words) : Solid .ignored word := by
  have hall : words.all (·.all fun expected => whiteSpaceCodes.all fun code =>
      !CaseMode.ignored.agrees (Char.ofNat code) expected) = true := by
    decide +kernel
  simp only [List.all_eq_true, Bool.not_eq_true'] at hall
  intro expected hexpected c hc
  rw [← Char.ofNat_toNat c]
  exact hall word h expected hexpected _ (isWhiteSpace_iff.1 hc)

/-- Each kind of line is put together from parts that white space at the end
does not disturb. -/
theorem steady_left (kind : LineKind) : Steady kind.left := by
  have hlabel : Steady (afterAnyWord .ignored Telephone.labels) :=
    steady_afterAnyWord fun word hword => solid_of_mem_words (by simp [words, hword])
  have hattention : Steady (afterAnyWord .ignored Routing.attentionLabels) :=
    steady_afterAnyWord fun word hword => solid_of_mem_words (by simp [words, hword])
  have hcareOf : Steady (afterAnyWord .ignored Routing.careOfLabels) :=
    steady_afterAnyWord fun word hword => solid_of_mem_words (by simp [words, hword])
  have hzip : Steady (afterRun isDigit) := steady_afterRun fun _ => isDigit_of_isWhiteSpace
  have hcolon : Steady (afterChar ':') := steady_afterChar (by decide)
  cases kind with
  | phone =>
      exact ((hlabel.comp fun _ _ hpads => hpads.dropWhile isWhiteSpace).map
        hcolon.pastMaybe).bind Telephone.steady_afterNumber
  | postal => exact hzip.or PostCode.steady_afterPostal
  | zip => exact hzip
  | attention =>
      exact hattention.map fun _ _ hpads =>
        hcolon.getD hpads (hpads.dropWhile isWhiteSpace)
  | careOf => exact hcareOf.comp fun _ _ hpads => hpads.dropWhile isWhiteSpace

/-- White space at the end of a line does not change whether the line is kept. -/
theorem keeps_append_blank (kind : LineKind) (line : Text) {blank : Text}
    (hblank : Blank blank) :
    kind.filter.keeps (line ++ blank) = kind.filter.keeps line := by
  rw [Bool.eq_iff_iff, keeps_iff, keeps_iff]
  rcases kind.left line, kind.left (line ++ blank), kind.steady_left (pads_append line hblank)
    with ⟨_, _, hrest | _⟩
  · simp [hrest.blank_iff]
  · simp

end LineKind

end TextScan
