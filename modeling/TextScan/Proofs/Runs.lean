import TextScan.Proofs.Extent

/-!
# The runs in a text

A run in a piece of text is a stretch of accepted characters that no accepted
character next to it extends.  The list of all runs, from left to right, is
told part by part: where no run goes on from one part to the next, the runs of
the whole are those of the first part and then those of the second.  For
scanning this means that a part must not end in the middle of a run: it ends
with a character that is not accepted, or none is ahead of it.
-/

namespace TextScan

namespace Span

/-- The run is a stretch of accepted characters in the whole, and neither the
character before it nor the one after it is accepted. -/
def HasRun (whole : Span) (accepts : Char → Bool) (run : Span) : Prop :=
  ∃ left right, whole.text = left ++ run.text ++ right ∧
    run.start = whole.start + left.byteSize ∧ run.text ≠ [] ∧
    (∀ c ∈ run.text, accepts c = true) ∧ Text.Stops left.reverse accepts ∧ right.Stops accepts

/-- The list holds all runs of the whole, each once and from left to right. -/
structure Runs (whole : Span) (accepts : Char → Bool) (runs : List Span) : Prop where
  mem_iff : ∀ run, run ∈ runs ↔ whole.HasRun accepts run
  ordered : runs.Pairwise fun run later => run.start < later.start

variable {whole run : Span} {accepts : Char → Bool} {start : Nat} {left right : Text}

theorem HasRun.start_le (h : whole.HasRun accepts run) : whole.start ≤ run.start := by
  obtain ⟨before, -, -, hstart, -⟩ := h
  omega

theorem HasRun.start_lt (h : whole.HasRun accepts run) : run.start < whole.stop := by
  obtain ⟨before, after, htext, hstart, hne, -⟩ := h
  have hpos : run.text.byteSize ≠ 0 := fun hzero => hne (Text.byteSize_eq_zero_iff.1 hzero)
  rw [stop, htext, Text.byteSize_append, Text.byteSize_append]
  omega

theorem HasRun.append_right (h : HasRun ⟨start, left⟩ accepts run)
    (hborder : Text.Stops left.reverse accepts ∨ right.Stops accepts) :
    HasRun ⟨start, left ++ right⟩ accepts run := by
  obtain ⟨before, after, htext, hstart, hne, haccepts, hbefore, hafter⟩ := h
  have htext : left = before ++ run.text ++ after := htext
  refine ⟨before, after ++ right, by simp [htext], hstart, hne, haccepts, hbefore,
    hafter.append fun hnil => hborder.resolve_left fun hend => hne ?_⟩
  -- The run would be the end of the left part, which does not end with an accepted character.
  rw [htext, hnil, List.append_nil, List.reverse_append] at hend
  have hnone := hend.of_append.eq_nil fun c hc => haccepts c (List.mem_reverse.1 hc)
  exact List.reverse_eq_nil_iff.1 hnone

theorem HasRun.append_left (h : HasRun ⟨start + left.byteSize, right⟩ accepts run)
    (hborder : Text.Stops left.reverse accepts ∨ right.Stops accepts) :
    HasRun ⟨start, left ++ right⟩ accepts run := by
  obtain ⟨before, after, htext, hstart, hne, haccepts, hbefore, hafter⟩ := h
  have htext : right = before ++ run.text ++ after := htext
  refine ⟨left ++ before, after, by simp [htext], ?_, hne, haccepts, ?_, hafter⟩
  · rw [hstart, Text.byteSize_append, Nat.add_assoc]
  · rw [List.reverse_append]
    refine hbefore.append fun hnil => hborder.resolve_right fun hend => hne ?_
    rw [htext, List.reverse_eq_nil_iff.1 hnil, List.nil_append] at hend
    exact hend.of_append.eq_nil haccepts

/-- Accepted characters do not cross a border where no run goes on: they are on
the left of it or on the right. -/
theorem split_at_border {before middle after : Text}
    (htext : left ++ right = before ++ middle ++ after) (haccepts : ∀ c ∈ middle, accepts c = true)
    (hborder : Text.Stops left.reverse accepts ∨ right.Stops accepts) :
    (∃ more, left = before ++ middle ++ more ∧ after = more ++ right) ∨
      ∃ more, before = left ++ more ∧ right = more ++ middle ++ after := by
  rcases List.append_eq_append_iff.1 htext with ⟨more, hmore, hright⟩ | ⟨more, hleft, hafter⟩
  · rcases List.append_eq_append_iff.1 hmore with ⟨late, hleft, hmiddle⟩ | ⟨late, hbefore, hlate⟩
    · -- The border is in the middle or at one end of it, so one side of it is empty.
      rw [hmiddle, List.forall_mem_append] at haccepts
      rcases hborder with hend | hend
      · rw [hleft, List.reverse_append] at hend
        have hnone := hend.of_append.eq_nil fun c hc => haccepts.1 c (List.mem_reverse.1 hc)
        obtain rfl := List.reverse_eq_nil_iff.1 hnone
        refine .inr ⟨[], ?_, ?_⟩
        · rw [hleft, List.append_nil, List.append_nil]
        · rw [hmiddle]
          exact hright
      · rw [hright] at hend
        obtain rfl := hend.of_append.eq_nil haccepts.2
        refine .inl ⟨[], ?_, hright.symm⟩
        rw [hmiddle, List.append_nil, List.append_nil]
        exact hleft
    · exact .inr ⟨late, hbefore, hlate ▸ hright⟩
  · exact .inl ⟨more, hleft, hafter⟩

/-- The runs of two parts of which none crosses the border. -/
theorem hasRun_append_iff (hborder : Text.Stops left.reverse accepts ∨ right.Stops accepts) :
    HasRun ⟨start, left ++ right⟩ accepts run ↔
      HasRun ⟨start, left⟩ accepts run ∨ HasRun ⟨start + left.byteSize, right⟩ accepts run := by
  refine ⟨?_, fun h => h.elim (·.append_right hborder) (·.append_left hborder)⟩
  rintro ⟨before, after, htext, hstart, hne, haccepts, hbefore, hafter⟩
  rcases split_at_border htext haccepts hborder with ⟨more, hleft, rfl⟩ | ⟨more, rfl, hright⟩
  · exact .inl ⟨before, more, hleft, hstart, hne, haccepts, hbefore, hafter.of_append⟩
  · rw [List.reverse_append] at hbefore
    rw [Text.byteSize_append, ← Nat.add_assoc] at hstart
    exact .inr ⟨more, after, hright, hstart, hne, haccepts, hbefore.of_append, hafter⟩

theorem Runs.append {first second : List Span} (hfirst : Runs ⟨start, left⟩ accepts first)
    (hsecond : Runs ⟨start + left.byteSize, right⟩ accepts second)
    (hborder : Text.Stops left.reverse accepts ∨ right.Stops accepts) :
    Runs ⟨start, left ++ right⟩ accepts (first ++ second) where
  mem_iff := by
    intro run
    rw [List.mem_append, hfirst.mem_iff, hsecond.mem_iff, hasRun_append_iff hborder]
  ordered := by
    refine List.pairwise_append.2 ⟨hfirst.ordered, hsecond.ordered, ?_⟩
    intro run hrun later hlater
    have hlt : run.start < start + left.byteSize := ((hfirst.mem_iff run).1 hrun).start_lt
    exact Nat.lt_of_lt_of_le hlt ((hsecond.mem_iff later).1 hlater).start_le

theorem runs_nil (h : ∀ c ∈ whole.text, accepts c = false) : whole.Runs accepts [] where
  mem_iff := by
    intro run
    refine iff_of_false (List.not_mem_nil) ?_
    rintro ⟨before, after, htext, -, hne, haccepts, -⟩
    obtain ⟨c, rest, hcons⟩ := List.exists_cons_of_ne_nil hne
    have hmem : c ∈ run.text := hcons ▸ List.mem_cons_self
    have hc := h c (by rw [htext]; simp [hmem])
    exact absurd ((haccepts c hmem).symm.trans hc) (by decide)
  ordered := .nil

/-- Where all is accepted the whole is the only run. -/
theorem runs_singleton (hne : whole.text ≠ []) (h : ∀ c ∈ whole.text, accepts c = true) :
    whole.Runs accepts [whole] where
  mem_iff := by
    intro run
    rw [List.mem_singleton]
    constructor
    · rintro rfl
      exact ⟨[], [], by simp, rfl, hne, h, Text.stops_nil accepts, Text.stops_nil accepts⟩
    · rintro ⟨before, after, htext, hstart, -, -, hbefore, hafter⟩
      rw [htext, List.forall_mem_append, List.forall_mem_append] at h
      have hleft : before = [] := List.reverse_eq_nil_iff.1
        (hbefore.eq_nil fun c hc => h.1.1 c (List.mem_reverse.1 hc))
      rw [hleft, hafter.eq_nil h.2, List.nil_append, List.append_nil] at htext
      rw [hleft] at hstart
      cases run
      cases whole
      simp_all [Text.byteSize]
  ordered := List.pairwise_singleton _ _

end Span

namespace Site

variable {site middle next : Site} {accepts : Char → Bool} {written : Text}

/-- The runs between the two sites are the given ones, and none goes on past
the second site. -/
def Passes (site next : Site) (accepts : Char → Bool) (runs : List Span) : Prop :=
  ∃ written, site.LeadsBy written next ∧ Span.Runs ⟨site.offset, written⟩ accepts runs ∧
    (Text.Stops written.reverse accepts ∨ next.Stops accepts)

/-- The runs of two parts in turn. -/
theorem Passes.trans {first second : List Span} (hfirst : site.Passes middle accepts first)
    (hsecond : middle.Passes next accepts second) :
    site.Passes next accepts (first ++ second) := by
  obtain ⟨left, hleft, hruns, hend⟩ := hfirst
  obtain ⟨right, hright, hlater, hlast⟩ := hsecond
  rw [hleft.offset_eq] at hlater
  have hborder : Text.Stops left.reverse accepts ∨ Text.Stops right accepts := by
    refine hend.imp_right fun hstops => ?_
    rintro c rest rfl
    exact hstops c (rest ++ next.rest) hright.rest_eq
  refine ⟨left ++ right, hleft.trans hright, hruns.append hlater hborder, ?_⟩
  rcases hlast with hlast | hlast
  · cases hnil : right.reverse with
    | nil =>
        obtain rfl := List.reverse_eq_nil_iff.1 hnil
        rw [leadsBy_nil_iff.1 hright, List.append_nil]
        exact hend
    | cons c rest =>
        left
        rw [List.reverse_append]
        exact hlast.append fun hempty => by rw [hnil] at hempty; contradiction
  · exact .inr hlast

theorem passes_nil (h : site.LeadsBy written next) (hnone : ∀ c ∈ written, accepts c = false) :
    site.Passes next accepts [] :=
  ⟨written, h, Span.runs_nil hnone,
    .inl (Text.stops_of_forall fun c hc => hnone c (List.mem_reverse.1 hc))⟩

theorem passes_refl (site : Site) (accepts : Char → Bool) : site.Passes site accepts [] :=
  passes_nil (leadsBy_nil_iff.2 rfl) fun _ hc => by contradiction

/-- A scanner that reads a run as far as it goes passes this run. -/
theorem passes_run {found : Span} (h : Scanner.run (.char accepts) site = some (found, next)) :
    site.Passes next accepts [found] := by
  obtain ⟨written, hne, haccepts, hlead, hstops, rfl⟩ := Scanner.run_iff.1 h
  exact ⟨written, hlead, Span.runs_singleton hne haccepts, .inr hstops⟩

end Site

end TextScan
