import TextScan.Proofs.Attributes

/-!
# Recognition of tags

Pairs and tags are read exactly as the grammar has them.  Reading is greedy
where the grammar leaves a choice, and what follows makes the choice: a name
ends at the first character that it cannot have, white space is never the
beginning of a pair, and neither is a character that ends a tag.
-/

namespace TextScan

namespace Grammar

open Scanner

/-! ### Pairs -/

section Pairs

variable {site next : Site}

/-- The keys of tags are those of attributes with an equals sign. -/
theorem key_iff {key : Text} : Key key ↔ KeyBefore '=' key := by
  constructor
  · rintro ⟨hfirst, hmore⟩
    exact .mk hfirst hmore
  · rintro ⟨hfirst, hmore⟩
    exact .mk hfirst hmore

/-- The pairs of markup are items with the usual separator. -/
theorem pairs_iff {pairs : List (Text × Text)} {written : Text} :
    Pairs pairs written ↔ ∃ items : List Item, (∀ item ∈ items, item.WellFormed '=') ∧
      items.map Item.texts = pairs ∧ items.flatMap (Item.written '=') = written := by
  constructor
  · intro h
    induction h with
    | nil => exact ⟨[], by simp, rfl, rfl⟩
    | @cons blank key value written pairs hblank hkey hvalue hpairs ih =>
        obtain ⟨items, hitems, rfl, rfl⟩ := ih
        have hitem : Item.WellFormed '=' ⟨blank, key, value⟩ := ⟨hblank, key_iff.1 hkey, hvalue⟩
        exact ⟨_ :: items, List.forall_mem_cons.2 ⟨hitem, hitems⟩, rfl, rfl⟩
  · rintro ⟨items, hitems, rfl, rfl⟩
    induction items with
    | nil => exact .nil
    | cons item items ih =>
        obtain ⟨hitem, hothers⟩ := List.forall_mem_cons.1 hitems
        exact .cons hitem.blank (key_iff.2 hitem.key) hitem.value (ih hothers)

theorem sound_tagPairs {found : List Pair} (h : Attributes.pairs '=' site = some (found, next)) :
    ∃ written, site.LeadsBy written next ∧ Pairs (found.map Pair.texts) written := by
  obtain ⟨items, hitems, hmap, hlead, -⟩ := sound_pairs h
  exact ⟨_, hlead, pairs_iff.2 ⟨items, hitems, hmap.symm, rfl⟩⟩

theorem complete_tagPairs {pairs : List (Text × Text)} {written : Text}
    (hpairs : Pairs pairs written) (h : site.LeadsBy written next)
    (hnext : Attributes.nextPair '=' next = none) :
    ∃ found, Attributes.pairs '=' site = some (found, next) ∧ found.map Pair.texts = pairs := by
  obtain ⟨items, hitems, rfl, rfl⟩ := pairs_iff.1 hpairs
  exact complete_pairs hitems h hnext

end Pairs

/-! ### Tags -/

section Tags

variable {site next : Site}

theorem isOpeningNameEnd_eq_false_iff {c : Char} :
    Tag.isOpeningNameEnd c = false ↔ isWhiteSpace c = false ∧ c ≠ '/' ∧ c ≠ '>' := by
  simp [Tag.isOpeningNameEnd, and_assoc]

theorem isOpeningNameEnd_iff {c : Char} :
    (!Tag.isOpeningNameEnd c) = false ↔ isWhiteSpace c = true ∨ c = '/' ∨ c = '>' := by
  rw [Bool.not_eq_false', Tag.isOpeningNameEnd]
  simp [or_assoc]

/-- White space in front of the end counts as part of the end. -/
theorem sound_openingEnd {selfClosing : Bool}
    (h : Tag.openingEnd site = some (selfClosing, next)) :
    ∃ gap, Blank gap ∧ site.LeadsBy (gap ++ tagEnd selfClosing) next := by
  obtain ⟨gap, middle, hgap, hspace, -, h⟩ := blank_bind_iff.1 h
  obtain ⟨slash, last, hmaybe, h⟩ := bind_eq_some_iff.1 h
  obtain ⟨stop, hbracket, h⟩ := char_bind_iff.1 h
  obtain ⟨rfl, rfl⟩ := pure_eq_some_iff.1 h
  refine ⟨gap, hgap, hspace.trans ?_⟩
  rcases maybe_iff.1 hmaybe with ⟨found, rfl, hread⟩ | ⟨rfl, rfl, -⟩
  · obtain ⟨hslash, -⟩ := char_iff.1 hread
    exact hslash.trans hbracket
  · exact hbracket

theorem complete_openingEnd {selfClosing : Bool} {gap : Text} (hgap : Blank gap)
    (h : site.LeadsBy (gap ++ tagEnd selfClosing) next) :
    Tag.openingEnd site = some (selfClosing, next) := by
  obtain ⟨middle, hspace, hend⟩ := Site.leadsBy_append_iff.1 h
  cases selfClosing with
  | false =>
      have hnone : char '/' middle = none := one_eq_none (hend.stops (by decide))
      exact blank_bind_iff.2 ⟨gap, middle, hgap, hspace, hend.stops (by decide),
        bind_eq_some_iff.2 ⟨none, middle, maybe_iff.2 (.inr ⟨rfl, rfl, hnone⟩),
        char_bind_iff.2 ⟨next, hend, rfl⟩⟩⟩
  | true =>
      obtain ⟨last, hslash, hbracket⟩ := Site.leadsBy_cons_iff.1 hend
      exact blank_bind_iff.2 ⟨gap, middle, hgap, hspace, hend.stops (by decide),
        bind_eq_some_iff.2 ⟨some _, last, maybe_iff.2 (.inl ⟨_, rfl, char_iff.2 ⟨hslash, rfl⟩⟩),
        char_bind_iff.2 ⟨next, hbracket, rfl⟩⟩⟩

theorem tagEnd_ne_nil (selfClosing : Bool) : tagEnd selfClosing ≠ [] := by
  cases selfClosing <;> decide

/-- At the end of a tag there is no further attribute, since no key begins with
a slash or a bracket. -/
theorem nextPair_eq_none_of_tagEnd {selfClosing : Bool} {gap : Text} (hgap : Blank gap)
    (h : site.LeadsBy (gap ++ tagEnd selfClosing) next) :
    Attributes.nextPair '=' site = none := by
  cases selfClosing with
  | false => exact nextPair_eq_none hgap (by decide) (by decide) h
  | true => exact nextPair_eq_none hgap (by decide) (by decide) h

/-- A name goes on to the first character that a name does not have. -/
theorem stops_iff_endsName {text : Text} (hne : text ≠ []) (h : site.LeadsBy text next) :
    site.Stops (!Tag.isOpeningNameEnd ·) ↔ EndsName text := by
  obtain ⟨c, rest, rfl⟩ := List.exists_cons_of_ne_nil hne
  constructor
  · intro hstops
    exact ⟨c, rest, rfl, isOpeningNameEnd_iff.1 (hstops c _ h.rest_eq)⟩
  · rintro ⟨d, more, heq, hd⟩
    obtain ⟨rfl, -⟩ := List.cons.inj heq
    exact h.stops (isOpeningNameEnd_iff.2 hd)

theorem sound_opening {found : Tag.Opening} (h : Tag.opening site = some (found, next)) :
    ∃ written, site.LeadsBy written next ∧
      Opening found.name.text found.attributes found.selfClosing written := by
  obtain ⟨⟨name, pairs⟩, headEnd, hhead, h⟩ := bind_eq_some_iff.1 h
  obtain ⟨selfClosing, last, hend, h⟩ := bind_eq_some_iff.1 h
  obtain ⟨rfl, rfl⟩ := pure_eq_some_iff.1 h
  obtain ⟨blank, tagStart, hblank, hspace, -, hhead⟩ := blank_bind_iff.1 hhead
  obtain ⟨nameStart, hbracket, hhead⟩ := char_bind_iff.1 hhead
  obtain ⟨named, nameEnd, hread, hhead⟩ := bind_eq_some_iff.1 hhead
  obtain ⟨text, hne, htext, hname, hstops, rfl⟩ := run_not_iff.1 hread
  obtain ⟨others, pairsEnd, hread, hhead⟩ := bind_eq_some_iff.1 hhead
  obtain ⟨written, hwritten, hpairs⟩ := sound_tagPairs hread
  obtain ⟨heq, rfl⟩ := pure_eq_some_iff.1 hhead
  obtain ⟨rfl, rfl⟩ := Prod.mk.inj heq
  obtain ⟨gap, hgap, hend⟩ := sound_openingEnd hend
  have htail : nameEnd.LeadsBy (written ++ gap ++ tagEnd selfClosing) last := by
    rw [List.append_assoc]
    exact hwritten.trans hend
  refine ⟨_, ((hspace.trans hbracket).trans hname).trans htail,
    .mk hblank ⟨hne, fun c hc => isOpeningNameEnd_eq_false_iff.1 (htext c hc)⟩ hpairs
      (lastWins_iff.2 rfl) hgap ((stops_iff_endsName ?_ htail).1 hstops)⟩
  simp [tagEnd_ne_nil]

/-- The pairs are found again as they were written, but the attributes only keep
the last of each key. -/
theorem complete_opening {name written : Text} {attributes : Attributes} {selfClosing : Bool}
    (hopening : Opening name attributes selfClosing written) (h : site.LeadsBy written next) :
    ∃ found, Tag.opening site = some (found, next) ∧ found.name.text = name ∧
      found.attributes = attributes ∧ found.selfClosing = selfClosing := by
  obtain @⟨blank, name, written, gap, pairs, attributes, selfClosing, hblank, hname, hpairs,
    hattributes, hgap, hends⟩ := hopening
  obtain ⟨nameEnd, hhead, htail⟩ := Site.leadsBy_append_iff.1 h
  simp only [List.append_assoc, Site.leadsBy_append_iff] at hhead
  obtain ⟨tagStart, hspace, nameStart, hbracket, hnamed⟩ := hhead
  have hstops := (stops_iff_endsName (by simp [tagEnd_ne_nil]) htail).2 hends
  rw [List.append_assoc] at htail
  obtain ⟨pairsEnd, hwritten, hend⟩ := Site.leadsBy_append_iff.1 htail
  obtain ⟨found, hfound, hmap⟩ :=
    complete_tagPairs hpairs hwritten (nextPair_eq_none_of_tagEnd hgap hend)
  rw [← hmap, lastWins_iff] at hattributes
  refine ⟨⟨nameStart.span name, .ofPairs found, selfClosing⟩, ?_, rfl, hattributes.symm, rfl⟩
  refine bind_eq_some_iff.2 ⟨(nameStart.span name, found), pairsEnd, ?_,
    bind_eq_some_iff.2 ⟨selfClosing, next, complete_openingEnd hgap hend, rfl⟩⟩
  exact blank_bind_iff.2 ⟨blank, tagStart, hblank, hspace, hbracket.stops (by decide),
    char_bind_iff.2 ⟨nameStart, hbracket,
    bind_eq_some_iff.2 ⟨_, nameEnd, run_not_iff.2 ⟨name, hname.ne_nil,
      fun c hc => isOpeningNameEnd_eq_false_iff.2 (hname.free c hc), hnamed, hstops, rfl⟩,
    bind_eq_some_iff.2 ⟨found, pairsEnd, hfound, rfl⟩⟩⟩⟩

theorem sound_closing {found : Span} (h : Tag.closing site = some (found, next)) :
    ∃ written, site.LeadsBy written next ∧ Closing found.text written := by
  obtain ⟨blank, tagStart, hblank, hspace, -, h⟩ := blank_bind_iff.1 h
  obtain ⟨nameStart, hbracket, h⟩ := (word_bind_iff (by decide)).1 h
  obtain ⟨named, nameEnd, hread, h⟩ := bind_eq_some_iff.1 h
  obtain ⟨name, -, -, hname, -, rfl⟩ := run_not_iff.1 hread
  obtain ⟨gap, gapEnd, hgap, hmore, -, h⟩ := blank_bind_iff.1 h
  obtain ⟨last, hfinal, h⟩ := char_bind_iff.1 h
  obtain ⟨rfl, rfl⟩ := pure_eq_some_iff.1 h
  exact ⟨_, (((hspace.trans hbracket).trans hname).trans hmore).trans hfinal,
    .mk hblank hgap⟩

/-- In front of the end of a closing tag its name stops. -/
theorem stops_of_gap {gap : Text} (hgap : Blank gap) (h : site.LeadsBy (gap ++ ['>']) next) :
    site.Stops (!Tag.isClosingNameEnd ·) := by
  cases gap with
  | nil => exact h.stops (by decide)
  | cons c rest =>
      refine h.stops ?_
      simp [Tag.isClosingNameEnd, hgap c List.mem_cons_self]

/-- The name is what a run up to white space or the bracket gives back. -/
theorem complete_closing {name written : Text} (hname : Name name)
    (hclosing : Closing name written) (h : site.LeadsBy written next) :
    ∃ found, Tag.closing site = some (found, next) ∧ found.text = name := by
  obtain @⟨blank, gap, hblank, hgap⟩ := hclosing
  simp only [List.append_assoc] at h
  obtain ⟨tagStart, hspace, h⟩ := Site.leadsBy_append_iff.1 h
  obtain ⟨nameStart, hbracket, h⟩ := Site.leadsBy_append_iff.1 h
  obtain ⟨nameEnd, hnamed, htail⟩ := Site.leadsBy_append_iff.1 h
  obtain ⟨gapEnd, hmore, hfinal⟩ := Site.leadsBy_append_iff.1 htail
  have hfree : ∀ c ∈ name, Tag.isClosingNameEnd c = false := by
    intro c hc
    obtain ⟨hspace, -, hne⟩ := hname.free c hc
    simp [Tag.isClosingNameEnd, hspace, hne]
  refine ⟨nameStart.span name, ?_, rfl⟩
  exact blank_bind_iff.2 ⟨blank, tagStart, hblank, hspace, hbracket.stops (by decide),
    (word_bind_iff (by decide)).2 ⟨nameStart, hbracket,
    bind_eq_some_iff.2 ⟨_, nameEnd,
      run_not_iff.2 ⟨name, hname.ne_nil, hfree, hnamed, stops_of_gap hgap htail, rfl⟩,
    blank_bind_iff.2 ⟨gap, gapEnd, hgap, hmore, hfinal.stops (by decide),
    char_bind_iff.2 ⟨next, hfinal, rfl⟩⟩⟩⟩⟩

/-- An opening tag is no closing tag, since a name does not begin with a slash. -/
theorem closing_eq_none {name written : Text} {attributes : Attributes} {selfClosing : Bool}
    (hopening : Opening name attributes selfClosing written) (h : site.LeadsBy written next) :
    Tag.closing site = none := by
  obtain @⟨blank, name, written, gap, pairs, attributes, selfClosing, hblank, hname, -, -, -,
    -⟩ := hopening
  obtain ⟨c, more, rfl⟩ := List.exists_cons_of_ne_nil hname.ne_nil
  obtain ⟨-, hslash, -⟩ := hname.free c List.mem_cons_self
  simp only [List.append_assoc] at h
  obtain ⟨tagStart, hspace, h⟩ := Site.leadsBy_append_iff.1 h
  have hread : Scanner.blank site = some (site.span blank, tagStart) :=
    stretch_iff.2 ⟨blank, hblank, hspace, h.stops (by decide), rfl⟩
  rw [Tag.closing, bind_of_some _ hread]
  refine bind_of_none _ ?_
  cases hword : word .strict "</".toList tagStart with
  | none => rfl
  | some result =>
      obtain ⟨hbracket, -⟩ := (word_iff (by decide)).1 hword
      have heq := hbracket.rest_eq.symm.trans h.rest_eq
      exact absurd (List.cons.inj (List.cons.inj heq).2).1.symm hslash

theorem sound_prolog {attributes : Attributes}
    (h : Tag.prolog site = some (attributes, next)) :
    ∃ written, site.LeadsBy written next ∧ Prolog attributes written := by
  obtain ⟨found, pairsEnd, hhead, h⟩ := bind_eq_some_iff.1 h
  obtain ⟨pairsStart, hdeclared, hhead⟩ := (word_bind_iff (by decide)).1 hhead
  obtain ⟨written, hwritten, hpairs⟩ := sound_tagPairs hhead
  obtain ⟨gap, gapEnd, hgap, hspace, -, h⟩ := blank_bind_iff.1 h
  obtain ⟨last, hfinal, h⟩ := (word_bind_iff (by decide)).1 h
  obtain ⟨rfl, rfl⟩ := pure_eq_some_iff.1 h
  exact ⟨_, hdeclared.trans ((hwritten.trans hspace).trans hfinal),
    .mk hpairs (lastWins_iff.2 rfl) hgap⟩

theorem complete_prolog {attributes : Attributes} {written : Text}
    (hprolog : Prolog attributes written) (h : site.LeadsBy written next) :
    Tag.prolog site = some (attributes, next) := by
  obtain @⟨written, gap, pairs, attributes, hpairs, hattributes, hgap⟩ := hprolog
  rw [List.append_assoc written] at h
  obtain ⟨pairsStart, hdeclared, h⟩ := Site.leadsBy_append_iff.1 h
  obtain ⟨pairsEnd, hwritten, htail⟩ := Site.leadsBy_append_iff.1 h
  obtain ⟨gapEnd, hspace, hfinal⟩ := Site.leadsBy_append_iff.1 htail
  obtain ⟨found, hfound, hmap⟩ :=
    complete_tagPairs hpairs hwritten (nextPair_eq_none hgap (by decide) (by decide) htail)
  rw [← hmap, lastWins_iff] at hattributes
  rw [hattributes]
  refine bind_eq_some_iff.2 ⟨found, pairsEnd,
    (word_bind_iff (by decide)).2 ⟨pairsStart, hdeclared, hfound⟩, ?_⟩
  exact blank_bind_iff.2 ⟨gap, gapEnd, hgap, hspace, hfinal.stops (by decide),
    (word_bind_iff (by decide)).2 ⟨next, hfinal, rfl⟩⟩

end Tags

end Grammar

end TextScan
