import TextScan.Proofs.Address.TrailingBlank
import TextScan.Tool.AddressFilter

/-!
# Filtering what was filtered

The lines that the tool prints are lines again, but one carriage return at the
end of a line is lost on the way: printed in front of a line feed, it belongs to
the end of the line.  A carriage return is white space, so the shorter line is
kept as the longer one was, and a second run prints every line of the first.
-/

namespace TextScan

open Grammar

namespace Text

/-- The line without a carriage return at its end, if it has one there. -/
def dropReturn (line : Text) : Text :=
  if line.getLast? = some '\r' then line.dropLast else line

/-- White space at most is dropped. -/
theorem exists_blank_of_dropReturn (line : Text) :
    ∃ blank, Blank blank ∧ line = line.dropReturn ++ blank := by
  by_cases hreturn : line.getLast? = some '\r'
  · refine ⟨['\r'], blank_singleton (by decide), ?_⟩
    rw [dropReturn, if_pos hreturn]
    exact (List.dropLast_append_getLast? _ hreturn).symm
  · exact ⟨[], blank_nil, by rw [dropReturn, if_neg hreturn, List.append_nil]⟩

/-- Only a carriage return on its own is dropped from the front. -/
theorem dropReturn_cons {c : Char} {line : Text} (h : c = '\r' → line ≠ []) :
    dropReturn (c :: line) = c :: dropReturn line := by
  cases line with
  | nil =>
      have hc : c ≠ '\r' := fun hc => h hc rfl
      simp [dropReturn, hc]
  | cons d line =>
      rw [dropReturn, dropReturn, List.getLast?_cons_cons]
      split
      · rfl
      · rfl

/-! ### Lines of lines -/

theorem newline_notMem_of_mem_lines {text line : Text} (h : line ∈ text.lines) :
    '\n' ∉ line := by
  fun_induction lines text generalizing line with
  | case1 => contradiction
  | case2 rest ih =>
      rcases List.mem_cons.1 h with rfl | h
      · exact List.not_mem_nil
      · exact ih h
  | case3 rest ih =>
      rcases List.mem_cons.1 h with rfl | h
      · exact List.not_mem_nil
      · exact ih h
  | case4 c rest hc _ _ ih =>
      rw [List.mem_singleton.1 h]
      simpa using Ne.symm hc
  | case5 c rest hc _ first others hrest ih =>
      rcases List.mem_cons.1 h with rfl | h
      · have hfirst := ih (hrest ▸ List.mem_cons_self)
        exact List.not_mem_cons_of_ne_of_not_mem (Ne.symm hc) hfirst
      · exact ih (hrest ▸ List.mem_cons_of_mem _ h)

/-- A line that is written ahead of other text is read as its first line. -/
theorem lines_append_newline {line : Text} (h : '\n' ∉ line) (rest : Text) :
    lines (line ++ '\n' :: rest) = dropReturn line :: lines rest := by
  induction line with
  | nil => rw [List.nil_append, lines, dropReturn]; rfl
  | cons c line ih =>
      have hc := List.ne_of_not_mem_cons h
      have hline := List.not_mem_of_not_mem_cons h
      by_cases hreturn : c = '\r' ∧ line = []
      · obtain ⟨rfl, rfl⟩ := hreturn
        rw [List.singleton_append, lines, dropReturn]
        rfl
      · have hpair : ∀ others, c = '\r' → line ++ '\n' :: rest = '\n' :: others → False := by
          intro others hc' heq
          cases line with
          | nil => exact hreturn ⟨hc', rfl⟩
          | cons d line => exact hline (by simp [(List.cons.inj heq).1])
        rw [List.cons_append, lines, ih hline, dropReturn_cons fun hc' hnil => hreturn ⟨hc', hnil⟩]
        · exact Ne.symm hc
        · exact hpair

theorem lines_unlines {kept : List Text} (h : ∀ line ∈ kept, '\n' ∉ line) :
    lines (unlines kept) = kept.map dropReturn := by
  induction kept with
  | nil => rfl
  | cons line kept ih =>
      have hline := h line List.mem_cons_self
      have hothers := ih fun other hother => h other (List.mem_cons_of_mem _ hother)
      have hsplit : unlines (line :: kept) = line ++ '\n' :: unlines kept := by
        simp [unlines]
      rw [hsplit, lines_append_newline hline, hothers, List.map_cons]

theorem ofBytes_toUTF8 (text : Text) : ofBytes (String.ofList text).toUTF8 = .ok text := by
  have hdecoded : String.fromUTF8? (String.ofList text).toUTF8 = some (String.ofList text) :=
    dif_pos (String.ofList text).isValidUTF8
  rw [ofBytes, hdecoded]
  exact congrArg Except.ok String.toList_ofList

end Text

/-- A line is kept with and without the carriage return at its end. -/
theorem LineKind.keeps_dropReturn (kind : LineKind) (line : Text) :
    kind.filter.keeps line.dropReturn = kind.filter.keeps line := by
  obtain ⟨blank, hblank, hline⟩ := line.exists_blank_of_dropReturn
  conv_rhs => rw [hline]
  exact (kind.keeps_append_blank line.dropReturn hblank).symm

namespace AddressFilter

/-- The lines that are printed are the lines of the kind, unless names are asked for. -/
theorem select_of_lines (kind : LineKind) (text : Text) :
    select kind false text = kind.filter.keep text.lines := by
  rw [select, Bool.and_false]
  rfl

theorem select_unlines (kind : LineKind) {kept : List Text}
    (hlines : ∀ line ∈ kept, '\n' ∉ line)
    (hkept : ∀ line ∈ kept, kind.filter.keeps line = true) :
    select kind false (Text.unlines kept) = kept.map Text.dropReturn := by
  rw [select_of_lines, Text.lines_unlines hlines, LineFilter.keep, List.filter_eq_self]
  intro line hline
  obtain ⟨longer, hlonger, rfl⟩ := List.mem_map.1 hline
  rw [kind.keeps_dropReturn]
  exact hkept longer hlonger

/-- Run again on what it printed, the tool prints the same lines, each without
one carriage return if it ends in one. -/
theorem refiltered_without_returns {options again : Options} {bytes : ByteArray} {text : Text}
    (hkind : again.kind = options.kind) (hfirst : options.addresseeOnly = false)
    (hagain : again.addresseeOnly = false) (hbytes : Text.ofBytes bytes = .ok text) :
    ∃ kept : List Text, kept = select options.kind options.addresseeOnly text ∧
      (∀ line ∈ kept, '\n' ∉ line) ∧
      (run options (Text.ofBytes bytes)).result = .ok (Text.unlines kept) ∧
      select again.kind again.addresseeOnly (Text.unlines kept) = kept.map Text.dropReturn ∧
      (run again (Text.ofBytes (String.ofList (Text.unlines kept)).toUTF8)).result =
        .ok (Text.unlines (kept.map Text.dropReturn)) := by
  have hselect : select options.kind options.addresseeOnly text =
      options.kind.filter.keep text.lines := by
    rw [hfirst, select_of_lines]
  have hmem : ∀ line ∈ options.kind.filter.keep text.lines,
      line ∈ text.lines ∧ options.kind.filter.keeps line = true :=
    fun line hline => List.mem_filter.1 hline
  have hlines : ∀ line ∈ options.kind.filter.keep text.lines, '\n' ∉ line :=
    fun line hline => Text.newline_notMem_of_mem_lines (hmem line hline).1
  have hsecond := select_unlines options.kind hlines fun line hline => (hmem line hline).2
  refine ⟨_, rfl, ?_⟩
  rw [hselect, hkind, hagain, Text.ofBytes_toUTF8, hbytes, run, run]
  dsimp only
  rw [hselect, hkind, hagain, hsecond]
  exact ⟨hlines, rfl, rfl, rfl⟩

/-- Of the two lines that are kept, the first one ended in two carriage returns
and the last one in no line feed. -/
theorem returned_lines_refiltered :
    (run ⟨.phone, false, .standardInput, 0⟩
        (Text.ofBytes "Phone: 1-2\r\r\nx\nFax 3 4\r".toUTF8)).result =
      .ok "Phone: 1-2\r\nFax 3 4\r\n".toList ∧
    (run ⟨.phone, false, .file "kept", 1⟩
        (Text.ofBytes "Phone: 1-2\r\nFax 3 4\r\n".toUTF8)).result =
      .ok "Phone: 1-2\nFax 3 4\n".toList := by
  have hbytes : Text.ofBytes "Phone: 1-2\r\r\nx\nFax 3 4\r".toUTF8 =
      .ok "Phone: 1-2\r\r\nx\nFax 3 4\r".toList :=
    Text.ofBytes_toUTF8 "Phone: 1-2\r\r\nx\nFax 3 4\r".toList
  obtain ⟨kept, hkept, -, hrun, -, hagain⟩ := refiltered_without_returns
    (rfl : (Options.mk .phone false (.file "kept") 1).kind =
      (Options.mk .phone false .standardInput 0).kind) rfl rfl hbytes
  have hlines : kept = ["Phone: 1-2\r".toList, "Fax 3 4\r".toList] :=
    hkept.trans (by decide +kernel)
  subst hlines
  exact ⟨hrun, hagain⟩

end AddressFilter

end TextScan
