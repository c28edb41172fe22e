import Mathlib.Data.List.TakeWhile
import TextScan.Proofs.Progress

/-!
# How far scanners read

What a scanner reads is a run at the front of the remaining text.  The lemmas
below say of each primitive scanner which runs these are.  A run that is read
in parts is read part by part, so the extent of a composite scanner follows
from those of its parts.
-/

namespace TextScan

namespace Grammar

def Blank (text : Text) : Prop :=
  ∀ c ∈ text, isWhiteSpace c = true

instance : DecidablePred Blank :=
  fun text => List.decidableBAll (isWhiteSpace · = true) text

theorem blank_nil : Blank [] := by
  simp [Blank]

theorem blank_singleton {c : Char} (hc : isWhiteSpace c = true) : Blank [c] := by
  simpa [Blank] using hc

theorem Blank.append {first second : Text} (hfirst : Blank first) (hsecond : Blank second) :
    Blank (first ++ second) := by
  intro c hc
  exact (List.mem_append.1 hc).elim (hfirst c) (hsecond c)

theorem Blank.reverse {text : Text} (h : Blank text) : Blank text.reverse :=
  fun c hc => h c (List.mem_reverse.1 hc)

theorem blank_takeWhile (text : Text) : Blank (text.takeWhile isWhiteSpace) :=
  fun _ hc => List.mem_takeWhile_imp hc

/-- The text is its longest beginning of the given form, and the rest. -/
structure Longest (form : Text → Prop) (text found rest : Text) : Prop where
  split : text = found ++ rest
  written : form found
  longest : ∀ other after, text = other ++ after → form other → other.length ≤ found.length

section Longest

variable {form : Text → Prop} {text found rest : Text}

/-- It is enough that no beginning of the form leaves less. -/
theorem Longest.of_suffix (hsplit : text = found ++ rest) (hfound : form found)
    (hsuffix : ∀ other after, text = other ++ after → form other → rest <:+ after) :
    Longest form text found rest := by
  refine ⟨hsplit, hfound, fun other after hother hform => ?_⟩
  have hle := (hsuffix other after hother hform).length_le
  have hlength : found.length + rest.length = other.length + after.length := by
    rw [← List.length_append, ← List.length_append, ← hsplit, hother]
  omega

/-- Of two longest beginnings neither is longer, and so they are the same. -/
theorem Longest.unique {other after : Text} (h : Longest form text found rest)
    (hother : Longest form text other after) : found = other ∧ rest = after := by
  have hle := h.longest other after hother.split hother.written
  have hge := hother.longest found rest h.split h.written
  exact List.append_inj (h.split.symm.trans hother.split) (Nat.le_antisymm hge hle)

/-- The longest beginning of accepted characters. -/
theorem longest_run_iff {accepts : Char → Bool} {text run rest : Text} :
    Longest (fun run => ∀ c ∈ run, accepts c = true) text run rest ↔
      text.takeWhile accepts = run ∧ text.dropWhile accepts = rest := by
  have hlongest : Longest (fun run => ∀ c ∈ run, accepts c = true) text
      (text.takeWhile accepts) (text.dropWhile accepts) := by
    refine .of_suffix List.takeWhile_append_dropWhile.symm
      (fun c hc => List.mem_takeWhile_imp hc) ?_
    rintro other after rfl hother
    rw [List.dropWhile_append_of_pos hother]
    exact List.dropWhile_suffix accepts
  constructor
  · exact hlongest.unique
  · rintro ⟨rfl, rfl⟩
    exact hlongest

end Longest

end Grammar

/-- The text is at its end or begins with a character that is not accepted. -/
def Text.Stops (text : Text) (accepts : Char → Bool) : Prop :=
  ∀ c rest, text = c :: rest → accepts c = false

namespace Text

variable {text first second : Text} {accepts : Char → Bool}

theorem stops_nil (accepts : Char → Bool) : Text.Stops [] accepts :=
  fun _ _ h => by contradiction

theorem stops_of_forall (h : ∀ c ∈ text, accepts c = false) : text.Stops accepts := by
  rintro c rest rfl
  exact h c List.mem_cons_self

theorem stops_dropWhile (accepts : Char → Bool) (text : Text) :
    Text.Stops (text.dropWhile accepts) accepts := by
  intro c rest hrest
  have hhead := List.head?_dropWhile_not accepts text
  rw [hrest] at hhead
  exact hhead

/-- What comes second only matters if the first part is empty. -/
theorem Stops.append (hfirst : first.Stops accepts) (hsecond : first = [] → second.Stops accepts) :
    (first ++ second).Stops accepts := by
  cases first with
  | nil => exact hsecond rfl
  | cons c rest =>
      intro d more hcons
      rw [← (List.cons.inj hcons).1]
      exact hfirst c rest rfl

theorem Stops.of_append (h : (first ++ second).Stops accepts) : first.Stops accepts := by
  rintro c rest rfl
  exact h c (rest ++ second) rfl

/-- Accepted characters do not stop. -/
theorem Stops.eq_nil (h : text.Stops accepts) (hall : ∀ c ∈ text, accepts c = true) :
    text = [] := by
  cases text with
  | nil => rfl
  | cons c rest =>
      exact absurd ((hall c List.mem_cons_self).symm.trans (h c rest rfl)) (by decide)

end Text

namespace Site

/-- The given run leads from the one site to the other. -/
def LeadsBy (site : Site) (run : Text) (next : Site) : Prop :=
  run <+: site.rest ∧ next = site.past run

/-- The site is at the end of the text or at a character that is not accepted. -/
def Stops (site : Site) (accepts : Char → Bool) : Prop :=
  ∀ c rest, site.rest = c :: rest → accepts c = false

variable {site next : Site} {first second run : Text} {c : Char}

/-- A run that leads from one site to the next is what is missing there. -/
theorem LeadsBy.rest_eq (h : site.LeadsBy run next) : site.rest = run ++ next.rest := by
  obtain ⟨⟨tail, htail⟩, rfl⟩ := h
  simp [past, ← htail]

theorem LeadsBy.offset_eq (h : site.LeadsBy run next) :
    next.offset = site.offset + run.byteSize := by
  rw [h.2, past]

theorem LeadsBy.leads (h : site.LeadsBy run next) : site.Leads next :=
  ⟨run, h.1, h.2⟩

/-- Any beginning of what remains leads somewhere. -/
theorem leadsBy_of_rest_eq {after : Text} (h : site.rest = run ++ after) :
    site.LeadsBy run (site.past run) :=
  ⟨⟨after, h.symm⟩, rfl⟩

/-- The beginning of a text leads to what comes after it. -/
theorem exists_leadsBy_start (written after : Text) :
    ∃ last, (start (written ++ after)).LeadsBy written last ∧ last.rest = after := by
  have hlead : (start (written ++ after)).LeadsBy written _ := leadsBy_of_rest_eq rfl
  exact ⟨_, hlead, (List.append_cancel_left hlead.rest_eq).symm⟩

@[simp]
theorem leadsBy_nil_iff : site.LeadsBy [] next ↔ next = site := by
  simp [LeadsBy]

/-- A run is read part by part. -/
theorem leadsBy_append_iff :
    site.LeadsBy (first ++ second) next ↔
      ∃ middle, site.LeadsBy first middle ∧ middle.LeadsBy second next := by
  constructor
  · intro h
    have hrest := h.rest_eq
    rw [List.append_assoc] at hrest
    refine ⟨site.past first, leadsBy_of_rest_eq hrest, ?_, ?_⟩
    · exact ⟨next.rest, by simp [past, hrest]⟩
    · rw [past_past]
      exact h.2
  · intro h
    obtain ⟨middle, ⟨hfirst, rfl⟩, hsecond, rfl⟩ := h
    exact ⟨isPrefix_append_of_drop hfirst hsecond, past_past ..⟩

/-- A run can be gone over character by character, which is how inductions on it
start. -/
theorem leadsBy_cons_iff :
    site.LeadsBy (c :: run) next ↔
      ∃ middle, site.LeadsBy [c] middle ∧ middle.LeadsBy run next := by
  rw [← List.singleton_append]
  exact leadsBy_append_iff

theorem LeadsBy.trans {middle : Site} (hfirst : site.LeadsBy first middle)
    (hsecond : middle.LeadsBy second next) : site.LeadsBy (first ++ second) next :=
  leadsBy_append_iff.2 ⟨middle, hfirst, hsecond⟩

theorem LeadsBy.stops (h : site.LeadsBy (c :: run) next) {accepts : Char → Bool}
    (hc : accepts c = false) : site.Stops accepts := by
  intro d rest hrest
  have hcons : d :: rest = c :: (run ++ next.rest) := hrest.symm.trans h.rest_eq
  rw [(List.cons.inj hcons).1]
  exact hc

end Site

theorem Probe.not_char (accepts : Char → Bool) :
    Probe.not (.char accepts) = .char (!accepts ·) :=
  rfl

/-- The accepted run is the one of accepted characters in front of a character
that is not accepted. -/
theorem Probe.run_char_eq_iff {accepts : Char → Bool} {text run : Text} :
    (Probe.char accepts).run text = run ↔
      ∃ after, text = run ++ after ∧ (∀ c ∈ run, accepts c = true) ∧
        ∀ c rest, after = c :: rest → accepts c = false := by
  rw [Probe.run_char]
  constructor
  · rintro rfl
    exact ⟨text.dropWhile accepts, List.takeWhile_append_dropWhile.symm,
      fun c hc => List.mem_takeWhile_imp hc, Text.stops_dropWhile accepts text⟩
  · rintro ⟨after, rfl, hrun, hafter⟩
    rw [List.takeWhile_append_of_pos hrun]
    cases after with
    | nil => simp
    | cons c rest => simp [hafter c rest rfl]

namespace Scanner

variable {site next : Site} {span : Span} {accepts : Char → Bool}

/-! ### The extent of the primitive scanners -/

theorem char_iff {c : Char} :
    char c site = some (span, next) ↔ site.LeadsBy [c] next ∧ span = site.span [c] := by
  rw [char_eq_some_iff, Site.LeadsBy]
  grind

theorem word_iff {spelling : Text} (hne : spelling ≠ []) :
    word .strict spelling site = some (span, next) ↔
      site.LeadsBy spelling next ∧ span = site.span spelling := by
  rw [word_strict_eq_some_iff, Site.LeadsBy]
  grind

/-- What a scanner reads, said of the two sites and not of the text that is cut
off. -/
theorem one_iff :
    one (.char accepts) site = some (span, next) ↔
      ∃ c, accepts c = true ∧ site.LeadsBy [c] next ∧ span = site.span [c] := by
  constructor
  · intro h
    rw [one] at h
    split at h
    · contradiction
    · rename_i c rest hrest
      split at h
      · rename_i hc
        obtain ⟨-, rfl, rfl⟩ := advance_eq_some_iff.1 h
        exact ⟨c, hc, Site.leadsBy_of_rest_eq hrest, rfl⟩
      · contradiction
  · rintro ⟨c, hc, hnext, rfl⟩
    have hrest := hnext.rest_eq
    rw [List.singleton_append] at hrest
    rw [one, hrest]
    change (if accepts c = true then advance [c] site else none) = _
    rw [if_pos hc]
    exact advance_eq_some_iff.2 ⟨List.cons_ne_nil _ _, rfl, hnext.2.symm⟩

theorem one_eq_none (h : site.Stops accepts) : one (.char accepts) site = none := by
  cases hread : one (.char accepts) site with
  | none => rfl
  | some result =>
      obtain ⟨c, hc, hnext, -⟩ := one_iff.1 hread
      exact absurd (hc.symm.trans (h c _ hnext.rest_eq)) (by decide)

/-- The run at the front of the site, and the site past it. -/
theorem run_rest_iff {found : Text} :
    (Probe.char accepts).run site.rest = found ↔
      (∀ c ∈ found, accepts c = true) ∧ site.LeadsBy found (site.past found) ∧
        (site.past found).Stops accepts := by
  rw [Probe.run_char_eq_iff]
  constructor
  · rintro ⟨after, hrest, hfound, hafter⟩
    have hpast := (Site.leadsBy_of_rest_eq hrest).rest_eq
    rw [hrest] at hpast
    refine ⟨hfound, Site.leadsBy_of_rest_eq hrest, ?_⟩
    rw [Site.Stops, ← List.append_cancel_left hpast]
    exact hafter
  · rintro ⟨hfound, hpast, hstops⟩
    exact ⟨_, hpast.rest_eq, hfound, hstops⟩

/-- Nothing is left after the accepted run exactly if everything is accepted. -/
theorem rest_past_run_eq_nil_iff :
    (site.past ((Probe.char accepts).run site.rest)).rest = [] ↔
      ∀ c ∈ site.rest, accepts c = true := by
  obtain ⟨haccepts, hlead, hstops⟩ := run_rest_iff.1 (rfl : (Probe.char accepts).run site.rest = _)
  constructor
  · intro hnil
    rw [hlead.rest_eq, hnil, List.append_nil]
    exact haccepts
  · intro hall
    cases hrest : (site.past ((Probe.char accepts).run site.rest)).rest with
    | nil => rfl
    | cons c rest =>
        have hmem : c ∈ site.rest := by
          rw [hlead.rest_eq, hrest]
          simp
        exact absurd ((hall c hmem).symm.trans (hstops c rest hrest)) (by decide)

/-- A value stands for a whole text if nothing but white space is left after it. -/
theorem ite_isAtEnd_eq_ok_iff {α ε : Type} {value found : α} {error : ε} :
    (if (site.past (Probe.run (.char isWhiteSpace) site.rest)).isAtEnd then Except.ok value
      else .error error) = .ok found ↔ value = found ∧ Grammar.Blank site.rest := by
  have hend : (site.past (Probe.run (.char isWhiteSpace) site.rest)).isAtEnd = true ↔
      Grammar.Blank site.rest := by
    rw [Site.isAtEnd, List.isEmpty_iff]
    exact rest_past_run_eq_nil_iff
  by_cases hblank : Grammar.Blank site.rest
  · simp [hend.2 hblank, hblank]
  · simp [mt hend.1 hblank, hblank]

/-- A stretch stops where it has to: the characters are accepted, and the one
after them is not. -/
theorem stretch_iff :
    stretch (.char accepts) site = some (span, next) ↔
      ∃ run, (∀ c ∈ run, accepts c = true) ∧ site.LeadsBy run next ∧ next.Stops accepts ∧
        span = site.span run := by
  constructor
  · intro h
    obtain ⟨rfl, rfl⟩ := Prod.mk.inj (Option.some.inj h)
    obtain ⟨hrun, hpast, hstops⟩ := run_rest_iff.1 rfl
    exact ⟨_, hrun, hpast, hstops, rfl⟩
  · rintro ⟨run, hrun, ⟨hfront, rfl⟩, hstops, rfl⟩
    rw [stretch, run_rest_iff.2 ⟨hrun, ⟨hfront, rfl⟩, hstops⟩]

/-- A run is a stretch of one character at least. -/
theorem run_iff :
    run (.char accepts) site = some (span, next) ↔
      ∃ found, found ≠ [] ∧ (∀ c ∈ found, accepts c = true) ∧ site.LeadsBy found next ∧
        next.Stops accepts ∧ span = site.span found := by
  constructor
  · intro h
    obtain ⟨hne, rfl, rfl⟩ := advance_eq_some_iff.1 h
    obtain ⟨hrun, hpast, hstops⟩ := run_rest_iff.1 rfl
    exact ⟨_, hne, hrun, hpast, hstops, rfl⟩
  · rintro ⟨found, hne, hrun, ⟨hfront, rfl⟩, hstops, rfl⟩
    rw [run, run_rest_iff.2 ⟨hrun, ⟨hfront, rfl⟩, hstops⟩]
    exact advance_eq_some_iff.2 ⟨hne, rfl, rfl⟩

theorem run_eq_none (h : site.Stops accepts) : run (.char accepts) site = none := by
  cases hread : run (.char accepts) site with
  | none => rfl
  | some result =>
      obtain ⟨found, hne, haccepts, hnext, -⟩ := run_iff.1 hread
      obtain ⟨c, rest, rfl⟩ := List.exists_cons_of_ne_nil hne
      have hstops := h c _ hnext.rest_eq
      exact absurd ((haccepts c List.mem_cons_self).symm.trans hstops) (by decide)

/-- Where there is no run, not even one character is accepted. -/
theorem stops_of_run_eq_none (h : run (.char accepts) site = none) : site.Stops accepts := by
  intro c rest hrest
  cases hc : accepts c with
  | false => rfl
  | true => simp [run, Probe.run_char, hrest, hc, advance] at h

theorem stretch_not_iff :
    stretch (.not (.char accepts)) site = some (span, next) ↔
      ∃ run, (∀ c ∈ run, accepts c = false) ∧ site.LeadsBy run next ∧
        next.Stops (!accepts ·) ∧ span = site.span run := by
  rw [Probe.not_char, stretch_iff]
  simp

theorem run_not_iff :
    run (.not (.char accepts)) site = some (span, next) ↔
      ∃ found, found ≠ [] ∧ (∀ c ∈ found, accepts c = false) ∧ site.LeadsBy found next ∧
        next.Stops (!accepts ·) ∧ span = site.span found := by
  rw [Probe.not_char, run_iff]
  simp

/-- An optional part is missing only where it cannot be read. -/
theorem maybe_iff {α : Type} {part : Scanner α} {value : Option α} :
    maybe part site = some (value, next) ↔
      (∃ found, value = some found ∧ part site = some (found, next)) ∨
        value = none ∧ next = site ∧ part site = none := by
  rw [maybe]
  cases hpart : part site with
  | none => simp [eq_comm]
  | some result =>
      constructor
      · intro h
        obtain ⟨rfl, rfl⟩ := Prod.mk.inj (Option.some.inj h)
        exact .inl ⟨_, rfl, rfl⟩
      · rintro (⟨found, rfl, hfound⟩ | ⟨-, -, hnone⟩)
        · rw [Option.some.inj hfound]
        · contradiction

/-! ### Parts whose value is not used -/

section Sequence

variable {β : Type} {second : Scanner β} {value : β}

theorem char_bind_iff {c : Char} :
    (char c >>= fun _ => second) site = some (value, next) ↔
      ∃ middle, site.LeadsBy [c] middle ∧ second middle = some (value, next) := by
  rw [bind_eq_some_iff]
  constructor
  · rintro ⟨found, middle, hfound, hrest⟩
    exact ⟨middle, (char_iff.1 hfound).1, hrest⟩
  · rintro ⟨middle, hfound, hrest⟩
    exact ⟨_, middle, char_iff.2 ⟨hfound, rfl⟩, hrest⟩

theorem word_bind_iff {spelling : Text} (hne : spelling ≠ []) :
    (word .strict spelling >>= fun _ => second) site = some (value, next) ↔
      ∃ middle, site.LeadsBy spelling middle ∧ second middle = some (value, next) := by
  rw [bind_eq_some_iff]
  constructor
  · rintro ⟨found, middle, hfound, hrest⟩
    exact ⟨middle, ((word_iff hne).1 hfound).1, hrest⟩
  · rintro ⟨middle, hfound, hrest⟩
    exact ⟨_, middle, (word_iff hne).2 ⟨hfound, rfl⟩, hrest⟩

/-- White space is skipped as far as it goes before the second scanner starts.
-/
theorem blank_bind_iff :
    (blank >>= fun _ => second) site = some (value, next) ↔
      ∃ run middle, (∀ c ∈ run, isWhiteSpace c = true) ∧ site.LeadsBy run middle ∧
        middle.Stops isWhiteSpace ∧ second middle = some (value, next) := by
  rw [bind_eq_some_iff]
  constructor
  · rintro ⟨found, middle, hfound, hrest⟩
    obtain ⟨run, hrun, hmiddle, hstops, -⟩ := stretch_iff.1 hfound
    exact ⟨run, middle, hrun, hmiddle, hstops, hrest⟩
  · rintro ⟨run, middle, hrun, hmiddle, hstops, hrest⟩
    exact ⟨_, middle, stretch_iff.2 ⟨run, hrun, hmiddle, hstops, rfl⟩, hrest⟩

end Sequence

end Scanner

end TextScan
