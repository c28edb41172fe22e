import TextScan.Scanner

/-!
# Progress of scanners

Whatever a scanner reads, it ends at a site that a run at the front of the
remaining text leads to: no scanner jumps, goes back or splits a character.
This is proved for the primitive scanners and shown to survive sequencing,
choice and option, so that a grammar inherits it from its parts.
-/

namespace TextScan

namespace Site

/-- A run at the front of what remains leads from the one site to the other. -/
def Leads (site next : Site) : Prop :=
  ∃ run : Text, run <+: site.rest ∧ next = site.past run

/-- A run of one character at least leads from the one site to the other. -/
def LeadsOn (site next : Site) : Prop :=
  ∃ run : Text, run ≠ [] ∧ run <+: site.rest ∧ next = site.past run

variable {site middle next : Site}

theorem leads_past {run : Text} (hrun : run <+: site.rest) :
    site.Leads (site.past run) :=
  ⟨run, hrun, rfl⟩

/-- The empty run leads nowhere else. -/
theorem Leads.refl (site : Site) : site.Leads site :=
  ⟨[], List.nil_prefix, by simp⟩

theorem LeadsOn.leads (h : site.LeadsOn next) : site.Leads next := by
  obtain ⟨run, -, hrun, rfl⟩ := h
  exact leads_past hrun

/-- Two runs in a row are one run. -/
theorem isPrefix_append_of_drop {rest first second : Text}
    (hfirst : first <+: rest) (hsecond : second <+: rest.drop first.length) :
    first ++ second <+: rest := by
  obtain ⟨tail, rfl⟩ := hfirst
  rw [List.drop_left] at hsecond
  exact (List.prefix_append_right_inj first).2 hsecond

/-- The two runs in a row lead all the way. -/
theorem Leads.trans (hfirst : site.Leads middle) (hsecond : middle.Leads next) :
    site.Leads next := by
  obtain ⟨first, hfirst, rfl⟩ := hfirst
  obtain ⟨second, hsecond, rfl⟩ := hsecond
  exact ⟨first ++ second, isPrefix_append_of_drop hfirst hsecond, past_past ..⟩

/-- One step forward is enough, be it the first or the last. -/
theorem LeadsOn.trans_leads (hfirst : site.LeadsOn middle)
    (hsecond : middle.Leads next) : site.LeadsOn next := by
  obtain ⟨first, hne, hfirst, rfl⟩ := hfirst
  obtain ⟨second, hsecond, rfl⟩ := hsecond
  refine ⟨first ++ second, ?_, isPrefix_append_of_drop hfirst hsecond, past_past ..⟩
  simp [hne]

theorem Leads.trans_leadsOn (hfirst : site.Leads middle)
    (hsecond : middle.LeadsOn next) : site.LeadsOn next := by
  obtain ⟨first, hfirst, rfl⟩ := hfirst
  obtain ⟨second, hne, hsecond, rfl⟩ := hsecond
  refine ⟨first ++ second, ?_, isPrefix_append_of_drop hfirst hsecond, past_past ..⟩
  simp [hne]

/-- What remains never gets longer, which bounds the loops of the grammars. -/
theorem Leads.length_le (h : site.Leads next) :
    next.rest.length ≤ site.rest.length := by
  obtain ⟨run, hrun, rfl⟩ := h
  simp [past]

theorem Leads.offset_le (h : site.Leads next) : site.offset ≤ next.offset := by
  obtain ⟨run, hrun, rfl⟩ := h
  simp [past]

/-- The measure of every recursion over nested parts. -/
theorem LeadsOn.length_lt (h : site.LeadsOn next) :
    next.rest.length < site.rest.length := by
  obtain ⟨run, hne, hrun, rfl⟩ := h
  have hle := hrun.length_le
  have hpos := List.length_pos_iff.2 hne
  simp only [past, List.length_drop]
  omega

/-- A character takes a byte at least. -/
theorem LeadsOn.offset_lt (h : site.LeadsOn next) : site.offset < next.offset := by
  obtain ⟨run, hne, hrun, rfl⟩ := h
  have hpos : run.byteSize ≠ 0 := fun hzero => hne (Text.byteSize_eq_zero_iff.1 hzero)
  simp only [past]
  omega

end Site

namespace Scanner

variable {α β : Type}

/-- The scanner only moves past what stands at the front of the site. -/
def Advances (scanner : Scanner α) : Prop :=
  ∀ ⦃site next : Site⦄ ⦃value : α⦄, scanner site = some (value, next) → site.Leads next

/-- The scanner moves past one character at least. -/
def Consumes (scanner : Scanner α) : Prop :=
  ∀ ⦃site next : Site⦄ ⦃value : α⦄, scanner site = some (value, next) → site.LeadsOn next

theorem Consumes.advances {scanner : Scanner α} (h : scanner.Consumes) :
    scanner.Advances :=
  fun _ _ _ hread => (h hread).leads

/-! ### Sequence, choice and option -/

/-- A sequence is read where its parts are read one after the other. -/
theorem bind_eq_some_iff {first : Scanner α} {second : α → Scanner β} {site next : Site}
    {value : β} :
    (first >>= second) site = some (value, next) ↔
      ∃ found middle, first site = some (found, middle) ∧
        second found middle = some (value, next) := by
  change (first site >>= fun result => second result.1 result.2) = _ ↔ _
  rw [Option.bind_eq_bind, Option.bind_eq_some_iff]
  exact Prod.exists

theorem pure_eq_some_iff {found value : α} {site next : Site} :
    (pure found : Scanner α) site = some (value, next) ↔ found = value ∧ site = next := by
  change some (found, site) = _ ↔ _
  rw [Option.some.injEq, Prod.mk.injEq]

theorem bind_of_none {first : Scanner α} {site : Site} (second : α → Scanner β)
    (hfirst : first site = none) : (first >>= second) site = none := by
  change (first site >>= fun result => second result.1 result.2) = _
  rw [hfirst]
  rfl

theorem bind_of_some {first : Scanner α} {site middle : Site} {found : α}
    (second : α → Scanner β) (hfirst : first site = some (found, middle)) :
    (first >>= second) site = second found middle := by
  change (first site >>= fun result => second result.1 result.2) = _
  rw [hfirst]
  rfl

/-- Two continuations that agree wherever the first part can end agree as a whole. -/
theorem bind_eq_bind {first : Scanner α} {second other : α → Scanner β} {site : Site}
    (h : ∀ found middle, first site = some (found, middle) →
      second found middle = other found middle) :
    (first >>= second) site = (first >>= other) site := by
  cases hfirst : first site with
  | none => rw [bind_of_none second hfirst, bind_of_none other hfirst]
  | some result =>
      rw [bind_of_some second hfirst, bind_of_some other hfirst]
      exact h _ _ hfirst

theorem advances_pure (found : α) : Advances (pure found) := by
  intro site next value hread
  obtain ⟨-, rfl⟩ := pure_eq_some_iff.1 hread
  exact .refl site

/-- Two parts in a row advance if both do. -/
theorem Advances.bind {first : Scanner α} {second : α → Scanner β}
    (hfirst : first.Advances) (hsecond : ∀ found, (second found).Advances) :
    (first >>= second).Advances := by
  intro site next value hread
  obtain ⟨found, middle, hfound, hrest⟩ := bind_eq_some_iff.1 hread
  exact (hfirst hfound).trans (hsecond found hrest)

/-- A sequence consumes if its first part does.  The other part may be optional.
-/
theorem Consumes.bind {first : Scanner α} {second : α → Scanner β}
    (hfirst : first.Consumes) (hsecond : ∀ found, (second found).Advances) :
    (first >>= second).Consumes := by
  intro site next value hread
  obtain ⟨found, middle, hfound, hrest⟩ := bind_eq_some_iff.1 hread
  exact (hfirst hfound).trans_leads (hsecond found hrest)

/-- A sequence consumes if what follows an optional part does. -/
theorem Advances.bind_consumes {first : Scanner α} {second : α → Scanner β}
    (hfirst : first.Advances) (hsecond : ∀ found, (second found).Consumes) :
    (first >>= second).Consumes := by
  intro site next value hread
  obtain ⟨found, middle, hfound, hrest⟩ := bind_eq_some_iff.1 hread
  exact (hfirst hfound).trans_leadsOn (hsecond found hrest)

/-- The second scanner is asked only where the first one fails. -/
theorem either_eq_some_iff {first second : Scanner α} {site : Site} {result : α × Site} :
    either first second site = some result ↔
      first site = some result ∨ first site = none ∧ second site = some result := by
  rw [either]
  cases first site <;> simp

theorem Advances.either {first second : Scanner α} (hfirst : first.Advances)
    (hsecond : second.Advances) : (Scanner.either first second).Advances := by
  intro site next value hread
  rcases either_eq_some_iff.1 hread with hread | ⟨-, hread⟩
  · exact hfirst hread
  · exact hsecond hread

theorem Consumes.either {first second : Scanner α} (hfirst : first.Consumes)
    (hsecond : second.Consumes) : (Scanner.either first second).Consumes := by
  intro site next value hread
  rcases either_eq_some_iff.1 hread with hread | ⟨-, hread⟩
  · exact hfirst hread
  · exact hsecond hread

/-- Where the part is missing the site stays. -/
theorem Advances.maybe {part : Scanner α} (hpart : part.Advances) :
    (Scanner.maybe part).Advances := by
  intro site next value hread
  rw [Scanner.maybe] at hread
  cases hfound : part site with
  | none =>
      rw [hfound] at hread
      obtain ⟨-, rfl⟩ := Prod.mk.inj (Option.some.inj hread)
      exact .refl site
  | some result =>
      rw [hfound] at hread
      obtain ⟨-, rfl⟩ := Prod.mk.inj (Option.some.inj hread)
      exact hpart hfound

/-! ### Primitive scanners -/

/-- To advance past nothing is refused. -/
theorem advance_eq_some_iff {run : Text} {site next : Site} {span : Span} :
    advance run site = some (span, next) ↔
      run ≠ [] ∧ site.span run = span ∧ site.past run = next := by
  rw [advance]
  by_cases hrun : run = []
  · simp [hrun]
  · simp [hrun]

/-- A scanner that advances past a run at the front of the site consumes it. -/
theorem leadsOn_of_advance {run : Text} {site next : Site} {span : Span}
    (hrun : run <+: site.rest) (hread : advance run site = some (span, next)) :
    site.LeadsOn next := by
  obtain ⟨hne, -, rfl⟩ := advance_eq_some_iff.1 hread
  exact ⟨run, hne, hrun, rfl⟩

/-- The character that was accepted is the one at the front. -/
theorem consumes_one (probe : Probe) : Consumes (one probe) := by
  intro site next value hread
  rw [one] at hread
  split at hread
  · contradiction
  · rename_i c tail hrest
    split at hread
    · refine leadsOn_of_advance ?_ hread
      rw [hrest]
      exact ⟨tail, rfl⟩
    · contradiction

theorem consumes_run (probe : Probe) : Consumes (run probe) := by
  intro site next value hread
  exact leadsOn_of_advance (probe.run_isPrefix site.rest) hread

/-- A stretch may be empty and so it need not consume. -/
theorem advances_stretch (probe : Probe) : Advances (stretch probe) := by
  intro site next value hread
  obtain ⟨-, rfl⟩ := Prod.mk.inj (Option.some.inj hread)
  exact Site.leads_past (probe.run_isPrefix site.rest)

theorem consumes_char (c : Char) : Consumes (char c) :=
  consumes_one _

theorem consumes_space : Consumes space :=
  consumes_run _

theorem advances_blank : Advances blank :=
  advances_stretch _

end Scanner

namespace Text

/-- Whatever stands for a word, letter by letter, is the text itself and not the
word. -/
theorem spelled?_isPrefix {mode : CaseMode} {word text found : Text}
    (h : spelled? mode word text = some found) : found <+: text := by
  induction word generalizing text found with
  | nil =>
      rw [spelled?] at h
      obtain rfl := Option.some.inj h
      exact List.nil_prefix
  | cons expected word ih =>
      cases text with
      | nil => simp [spelled?] at h
      | cons c rest =>
          rw [spelled?] at h
          split at h
          · obtain ⟨more, hmore, rfl⟩ := Option.map_eq_some_iff.1 h
            exact List.cons_prefix_cons.2 ⟨rfl, ih hmore⟩
          · contradiction

/-- Where case counts, the run that spells a word is the word. -/
theorem spelled?_strict_eq_some_iff {word text found : Text} :
    spelled? .strict word text = some found ↔ found = word ∧ word <+: text := by
  induction word generalizing text found with
  | nil => simp [spelled?, eq_comm]
  | cons expected word ih =>
      cases text with
      | nil => simp [spelled?]
      | cons c rest =>
          by_cases hc : c = expected
          · subst hc
            simp only [spelled?, CaseMode.agrees, beq_self_eq_true, Bool.true_or, if_true,
              Option.map_eq_some_iff, ih, List.cons_prefix_cons, true_and]
            constructor
            · intro h
              obtain ⟨more, ⟨hmore, hword⟩, hfound⟩ := h
              exact ⟨by rw [← hfound, hmore], hword⟩
            · intro h
              exact ⟨word, ⟨rfl, h.2⟩, h.1.symm⟩
          · have hagrees : CaseMode.strict.agrees c expected = false := by
              simp [CaseMode.agrees, hc]
            simp [spelled?, hagrees, List.cons_prefix_cons, Ne.symm hc]

/-- Each spelling is looked for where the one before it ended. -/
theorem spellings_isPrefix (mode : CaseMode) (word : Text) (fuel : Nat) (text : Text) :
    spellings mode word fuel text <+: text := by
  induction fuel generalizing text with
  | zero => exact List.nil_prefix
  | succ fuel ih =>
      rw [spellings]
      split
      · exact List.nil_prefix
      · exact List.nil_prefix
      · rename_i run _ hrun
        exact Site.isPrefix_append_of_drop (spelled?_isPrefix hrun) (ih _)

end Text

namespace Scanner

theorem consumes_word (mode : CaseMode) (spelling : Text) : Consumes (word mode spelling) := by
  intro site next value hread
  rw [word] at hread
  split at hread
  · contradiction
  · rename_i found hfound
    exact leadsOn_of_advance (Text.spelled?_isPrefix hfound) hread

theorem consumes_words (mode : CaseMode) (spelling : Text) :
    Consumes (words mode spelling) := by
  intro site next value hread
  exact leadsOn_of_advance (Text.spellings_isPrefix ..) hread

theorem consumes_anyWord (mode : CaseMode) (choices : List Text) :
    Consumes (anyWord mode choices) := by
  intro site next value hread
  obtain ⟨choice, -, hchoice⟩ := List.exists_of_findSome?_eq_some hread
  exact consumes_word mode choice hchoice

/-! ### What the primitive scanners find -/

/-- In terms of the text alone: the character is at the front. -/
theorem char_eq_some_iff {c : Char} {site next : Site} {span : Span} :
    char c site = some (span, next) ↔
      [c] <+: site.rest ∧ site.span [c] = span ∧ site.past [c] = next := by
  rw [char, one]
  cases site.rest with
  | nil => simp
  | cons d rest =>
      by_cases hd : d = c
      · subst hd
        simp [Probe.is, Probe.char, advance_eq_some_iff]
      · simp [Probe.is, Probe.char, hd, Ne.symm hd]

/-- In terms of the text alone: the word is at the front, and it has a letter.
-/
theorem word_strict_eq_some_iff {spelling : Text} {site next : Site} {span : Span} :
    word .strict spelling site = some (span, next) ↔
      spelling <+: site.rest ∧ spelling ≠ [] ∧ site.span spelling = span ∧
        site.past spelling = next := by
  rw [word]
  cases hfound : Text.spelled? .strict spelling site.rest with
  | none =>
      have hnot : ¬ spelling <+: site.rest := by
        intro hspelling
        rw [Text.spelled?_strict_eq_some_iff.2 ⟨rfl, hspelling⟩] at hfound
        contradiction
      simp [hnot]
  | some found =>
      obtain ⟨rfl, hspelling⟩ := Text.spelled?_strict_eq_some_iff.1 hfound
      simp [advance_eq_some_iff, hspelling]

end Scanner

end TextScan
