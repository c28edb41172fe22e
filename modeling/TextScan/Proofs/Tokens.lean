import TextScan.Proofs.Moves

/-!
# Runs and tokens

A probe, with or without memory, is asked about one character after the other
and stops at the first that it refuses.  So the run that it accepts is the
longest that it can accept, and the refused character is the only other one
that it was asked about.  A probe without memory cuts a text into tokens: runs
of accepted characters and, in between, runs of refused ones.
-/

namespace TextScan

open Grammar

namespace Probe

variable {probe : Probe} {asked : List Char} {text : Text}

/-- The probe accepts the characters of the text when it is asked about them in order. -/
def Accepts (probe : Probe) : (asked : List Char) → Text → Prop
  | _, [] => True
  | asked, c :: rest => probe asked c = true ∧ probe.Accepts (c :: asked) rest

theorem accepts_scan (probe : Probe) (asked : List Char) (text : Text) :
    probe.Accepts asked (probe.scan asked text).1 := by
  induction text generalizing asked with
  | nil => exact trivial
  | cons c rest ih =>
      rw [scan]
      split
      · rename_i hc
        exact ⟨hc, ih (c :: asked)⟩
      · exact trivial

theorem length_le_scan {run : Text} (hrun : run <+: text) (haccepts : probe.Accepts asked run) :
    run.length ≤ (probe.scan asked text).1.length := by
  induction text generalizing asked run with
  | nil => simp [List.prefix_nil.1 hrun]
  | cons c rest ih =>
      cases run with
      | nil => exact Nat.zero_le _
      | cons d more =>
          obtain ⟨rfl, hmore⟩ := List.cons_prefix_cons.1 hrun
          rw [scan, if_pos haccepts.1]
          exact Nat.succ_le_succ (ih hmore haccepts.2)

/-- The run is the longest that the probe accepts. -/
theorem longest_scan (probe : Probe) (asked : List Char) (text : Text) :
    Longest (probe.Accepts asked) text (probe.scan asked text).1
      (text.drop (probe.scan asked text).1.length) where
  split := (List.prefix_iff_eq_append.1 (probe.scan_isPrefix asked text)).symm
  written := probe.accepts_scan asked text
  longest := by
    rintro other after rfl hother
    exact length_le_scan (List.prefix_append other after) hother

/-- The probe is asked about the run and about the character after it, if there is one. -/
theorem scan_asked (probe : Probe) (asked : List Char) (text : Text) :
    (probe.scan asked text).2 =
      ((probe.scan asked text).1 ++
        (text.drop (probe.scan asked text).1.length).take 1).reverse ++ asked := by
  induction text generalizing asked with
  | nil => rfl
  | cons c rest ih =>
      rw [scan]
      split
      · simp [ih (c :: asked)]
      · rfl

end Probe

/-- A walk ends past the run, and its last step is a single character. -/
theorem Cursor.walk_eq (cursor : Cursor) (run : Text) :
    cursor.walk run =
      ⟨cursor.offset + run.byteSize, cursor.index + .ofNat run.length,
        if run = [] then cursor.moved else 1⟩ := by
  induction run generalizing cursor with
  | nil => simp [walk, Text.byteSize]
  | cons c rest ih =>
      have hindex : cursor.index + 1 + .ofNat rest.length =
          cursor.index + .ofNat (c :: rest).length := by
        rw [List.length_cons, UInt64.ofNat_add, UInt64.add_assoc,
          UInt64.add_comm (.ofNat rest.length)]
        rfl
      rw [walk, List.foldl_cons]
      refine (ih (cursor.stepOver c)).trans ?_
      simp only [stepOver, Text.byteSize, hindex, Nat.add_assoc, reduceCtorEq, if_false, ite_self]

/-! ### Tokens -/

/-- A run of characters that are all accepted or all refused. -/
structure Token where
  accepted : Bool
  span : Span
  deriving DecidableEq

namespace Token

def text (token : Token) : Text :=
  token.span.text

def probe (accepts : Char → Bool) : (accepted : Bool) → Probe
  | true => .char accepts
  | false => .not (.char accepts)

/-- The token is taken by the rule for runs of its kind. -/
def Taken (accepts : Char → Bool) (text : Text) (cursor : Cursor) (token : Token)
    (next : Cursor) : Prop :=
  (Rule.run .capture (probe accepts token.accepted)).Takes text cursor token.span next

instance (accepts : Char → Bool) (text : Text) (cursor : Cursor) (token : Token) (next : Cursor) :
    Decidable (Taken accepts text cursor token next) :=
  inferInstanceAs (Decidable (Rule.Takes _ text cursor token.span next))

variable {accepts : Char → Bool} {accepted : Bool} {text : Text} {cursor next last : Cursor}
  {token : Token} {tokens : List Token}

theorem run_probe (accepts : Char → Bool) (accepted : Bool) (text : Text) :
    (probe accepts accepted).run text = text.takeWhile (accepts · == accepted) := by
  cases accepted with
  | true => simp [probe, Probe.run_char]
  | false => simp [probe, Probe.not_char, Probe.run_char]

theorem run_probe_ne_nil_iff :
    (probe accepts accepted).run text ≠ [] ↔ ∃ c rest, text = c :: rest ∧ accepts c = accepted := by
  rw [run_probe]
  cases text with
  | nil => simp
  | cons c rest => by_cases hc : accepts c = accepted <;> simp [hc]

theorem taken_iff :
    Taken accepts text cursor token next ↔
      (probe accepts token.accepted).run (text.remaining cursor.offset) ≠ [] ∧
        token.span = ⟨cursor.offset,
          (probe accepts token.accepted).run (text.remaining cursor.offset)⟩ ∧
        next = cursor.past ((probe accepts token.accepted).run (text.remaining cursor.offset)) :=
  Rule.takes_run_iff

theorem movesOver_taken (accepts : Char → Bool) (text : Text) :
    MovesOver text Token.text (Taken accepts text) :=
  fun _ token _ htaken => movesOver_run (probe accepts token.accepted) text htaken

/-- Some token can be taken wherever a character remains. -/
theorem exists_taken_iff :
    (∃ token next, Taken accepts text cursor token next) ↔ text.remaining cursor.offset ≠ [] := by
  constructor
  · rintro ⟨token, next, htaken⟩
    obtain ⟨c, rest, hrest, -⟩ := run_probe_ne_nil_iff.1 (taken_iff.1 htaken).1
    rw [hrest]
    exact List.cons_ne_nil c rest
  · intro hne
    obtain ⟨c, rest, hrest⟩ := List.exists_cons_of_ne_nil hne
    have hrun : (probe accepts (accepts c)).run (text.remaining cursor.offset) ≠ [] :=
      run_probe_ne_nil_iff.2 ⟨c, rest, hrest, rfl⟩
    let token : Token := ⟨accepts c, cursor.offset,
      (probe accepts (accepts c)).run (text.remaining cursor.offset)⟩
    exact ⟨token, cursor.past token.text, taken_iff.2 ⟨hrun, rfl, rfl⟩⟩

/-- After a token there is no other of its kind, for it would have gone on. -/
theorem Taken.accepted_ne {later : Token} (htaken : Taken accepts text cursor token next)
    (hlater : Taken accepts text next later last) : token.accepted ≠ later.accepted := by
  have hrest : text.remaining next.offset =
      (text.remaining cursor.offset).dropWhile (accepts · == token.accepted) := by
    have hlead := (movesOver_taken accepts text htaken).2.rest_eq
    rw [Token.text, (taken_iff.1 htaken).2.1, run_probe] at hlead
    exact (List.append_cancel_left (List.takeWhile_append_dropWhile.trans hlead)).symm
  obtain ⟨c, more, hc, hkind⟩ := run_probe_ne_nil_iff.1 (taken_iff.1 hlater).1
  have hstops := Text.stops_dropWhile _ _ c more (hrest.symm.trans hc)
  rw [hkind, beq_eq_false_iff_ne] at hstops
  exact hstops.symm

theorem isChain_of_exhausts (h : Exhausts (Taken accepts text) cursor tokens last) :
    tokens.IsChain fun token later => token.accepted ≠ later.accepted := by
  induction h with
  | done hnone => exact .nil
  | step hmove hothers ih =>
      -- Whether there is a second token to compare with shows in the moves that are left.
      cases hothers with
      | done hnone => exact .singleton _
      | step hlater hmore => exact .cons_cons (hmove.accepted_ne hlater) ih

/-- Tokens are taken up to the end of the text. -/
theorem remaining_of_exhausts (h : Exhausts (Taken accepts text) cursor tokens last) :
    text.remaining last.offset = [] := by
  by_contra hne
  obtain ⟨token, next, htaken⟩ := exists_taken_iff.2 hne
  exact h.not_move token next htaken

/-- The tokens make up the whole text. -/
theorem flatMap_of_exhausts (h : Exhausts (Taken accepts text) .start tokens last) :
    tokens.flatMap Token.text = text := by
  have hlead := (h.leadsBy (movesOver_taken accepts text)).rest_eq
  simp only [Site.ofCursor] at hlead
  rw [remaining_of_exhausts h, Text.remaining_start, List.append_nil] at hlead
  exact hlead.symm

theorem matched_iff :
    ((Rule.run .test (probe accepts accepted)).apply text cursor).1 = .verdict true ↔
      ∃ c rest, text.remaining cursor.offset = c :: rest ∧ accepts c = accepted := by
  rw [Rule.apply_run, Rule.movedOver_test_iff, run_probe_ne_nil_iff]

/-- Before the end of a text the rule for one kind of token matches, and not the other. -/
theorem xor_matched (accepts : Char → Bool) (hboundary : text.IsBoundary cursor.offset)
    (hbefore : cursor.offset < text.byteSize) :
    Xor (((Rule.run .test (probe accepts true)).apply text cursor).1 = .verdict true)
      (((Rule.run .test (probe accepts false)).apply text cursor).1 = .verdict true) := by
  have hne : text.remaining cursor.offset ≠ [] := by
    rw [Ne, ← Cursor.isAtEnd_iff hboundary, Cursor.isAtEnd, beq_iff_eq]
    omega
  obtain ⟨c, rest, hrest⟩ := List.exists_cons_of_ne_nil hne
  rw [matched_iff, matched_iff, hrest]
  cases hc : accepts c with
  | true => simp [Xor, hc]
  | false => simp [Xor, hc]

end Token

/-- A probe accepts the longest run that it can, asked in order, and is asked
about one character more at most.  A probe without memory cuts every text into
tokens, of which each is followed by one of the other kind: before the end of
the text the rule for the one kind or for the other matches, and never both. -/
theorem runs_tokenise :
    (∀ (probe : Probe) (text : Text) (cursor : Cursor), ∃ run rest,
      Longest (probe.Accepts []) (text.remaining cursor.offset) run rest ∧
      (Rule.runEnd probe).apply text cursor =
        (.place (some ⟨cursor.offset + run.byteSize, cursor.index + .ofNat run.length,
          if run = [] then cursor.moved else 1⟩), cursor) ∧
      (probe.scan [] (text.remaining cursor.offset)).2.reverse = run ++ rest.take 1) ∧
    (∀ (accepts : Char → Bool) (text : Text) (cursor : Cursor),
      text.IsBoundary cursor.offset → cursor.offset < text.byteSize →
      Xor (((Rule.run .test (.char accepts)).apply text cursor).1 = .verdict true)
        (((Rule.run .test (.not (.char accepts))).apply text cursor).1 = .verdict true)) ∧
    ∀ (accepts : Char → Bool) (text : Text),
      (∃ tokens last, Exhausts (Token.Taken accepts text) .start tokens last) ∧
      ∀ tokens last, Exhausts (Token.Taken accepts text) .start tokens last →
        last.offset = text.byteSize ∧ last.index = .ofNat text.length ∧
        (tokens.IsChain fun token later => token.accepted ≠ later.accepted) ∧
        tokens.flatMap Token.text = text := by
  refine ⟨?_, fun accepts _ _ => Token.xor_matched accepts, ?_⟩
  · intro probe text cursor
    refine ⟨_, _, probe.longest_scan [] (text.remaining cursor.offset), ?_, ?_⟩
    · rw [Rule.apply, Cursor.walk_eq]
      rfl
    · rw [probe.scan_asked, List.append_nil, List.reverse_reverse]
  · intro accepts text
    have hmoves := Token.movesOver_taken accepts text
    refine ⟨hmoves.exists_exhausts .start, fun tokens last h => ?_⟩
    have hwhole := Token.flatMap_of_exhausts h
    have hlast := h.past_eq hmoves
    rw [hwhole] at hlast
    obtain ⟨hoffset, hindex, -⟩ := Cursor.mk.inj hlast
    rw [Cursor.start, Nat.zero_add] at hoffset
    rw [Cursor.start, UInt64.zero_add] at hindex
    exact ⟨hoffset.symm, hindex.symm, Token.isChain_of_exhausts h, hwhole⟩

/-- Two digits between letters, of which the first takes two bytes. -/
theorem digits_between_letters_tokenised :
    (Text.IsBoundary "é12b".toList 2 ∧ 2 < Text.byteSize "é12b".toList ∧
      Xor (((Rule.run .test (.char isDigit)).apply "é12b".toList ⟨2, 1, 1⟩).1 = .verdict true)
        (((Rule.run .test (.not (.char isDigit))).apply "é12b".toList ⟨2, 1, 1⟩).1 =
          .verdict true)) ∧
    Exhausts (Token.Taken isDigit "é12b".toList) .start
        [⟨false, 0, ['é']⟩, ⟨true, 2, ['1', '2']⟩, ⟨false, 4, ['b']⟩] ⟨5, 4, 1⟩ ∧
      Text.byteSize "é12b".toList = 5 ∧
      List.flatMap Token.text [⟨false, 0, ['é']⟩, ⟨true, 2, ['1', '2']⟩, ⟨false, 4, ['b']⟩] =
        "é12b".toList := by
  obtain ⟨-, hxor, htokens⟩ := runs_tokenise
  have hboundary : Text.IsBoundary "é12b".toList 2 := ⟨['é'], "12b".toList, rfl, rfl⟩
  have hbefore : 2 < Text.byteSize "é12b".toList := by decide
  have hfirst : Token.Taken isDigit "é12b".toList .start ⟨false, 0, ['é']⟩ ⟨2, 1, 1⟩ := by
    decide +kernel
  have hsecond : Token.Taken isDigit "é12b".toList ⟨2, 1, 1⟩ ⟨true, 2, ['1', '2']⟩ ⟨4, 3, 2⟩ := by
    decide +kernel
  have hthird : Token.Taken isDigit "é12b".toList ⟨4, 3, 2⟩ ⟨false, 4, ['b']⟩ ⟨5, 4, 1⟩ := by
    decide +kernel
  have hlast : Text.remaining "é12b".toList 5 = [] := by decide +kernel
  have hmoves := Exhausts.step hfirst (.step hsecond (.step hthird (.done fun token next htaken =>
    Token.exists_taken_iff.1 ⟨token, next, htaken⟩ hlast)))
  obtain ⟨hoffset, -, -, hwhole⟩ := (htokens isDigit "é12b".toList).2 _ _ hmoves
  exact ⟨⟨hboundary, hbefore, hxor isDigit _ _ hboundary hbefore⟩, hmoves, hoffset.symm, hwhole⟩

end TextScan
