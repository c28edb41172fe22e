import TextScan.Proofs.Dictionaries
import TextScan.Proofs.Forms
import TextScan.Proofs.Markup.Grammar

/-!
# Recognition of attributes

Attributes are read exactly as they are listed, whatever the separator.  It may
be a letter, a digit, a quote or white space, and then it is also a character
that keys or the white space in front of them are made of.  That does no harm:
a key never begins with white space, so the white space ends where the key
begins, and after its first character a key has no separator, so it ends at the
next one.  Each item of a list is therefore read as it was written, and a list
is written in one way only.
-/

namespace TextScan

theorem isWhiteSpace_of_isLetterOrDigit {c : Char} (h : isLetterOrDigit c = true) :
    isWhiteSpace c = false := by
  cases hspace : isWhiteSpace c with
  | false => rfl
  | true =>
      rw [isLetterOrDigit_of_isWhiteSpace hspace] at h
      contradiction

def Pair.texts (pair : Pair) : Text × Text :=
  (pair.key.text, pair.value.text)

namespace Grammar

open Scanner

/-! ### Lists of pairs -/

/-- A letter or digit and characters that do not end a key. -/
inductive KeyBefore (separator : Char) : Text → Prop
  | mk {first : Char} {more : Text} (hfirst : isLetterOrDigit first = true)
      (hmore : ∀ c ∈ more,
        c ≠ separator ∧ isWhiteSpace c = false ∧ c ∉ ['"', '<', '>', '/', '?']) :
      KeyBefore separator (first :: more)

/-- A pair in a list: the white space in front of it, its key and its value. -/
@[ext]
structure Item where
  blank : Text
  key : Text
  value : Text

namespace Item

def texts (item : Item) : Text × Text :=
  (item.key, item.value)

def written (separator : Char) (item : Item) : Text :=
  item.blank ++ item.key ++ [separator, '"'] ++ item.value ++ ['"']

structure WellFormed (separator : Char) (item : Item) : Prop where
  blank : Blank item.blank
  key : KeyBefore separator item.key
  value : '"' ∉ item.value

end Item

/-- The text is one item or more, one after the other. -/
structure Listing (separator : Char) (items : List Item) (text : Text) : Prop where
  ne_nil : items ≠ []
  wellFormed : ∀ item ∈ items, item.WellFormed separator
  text_eq : text = items.flatMap (Item.written separator)

def ItemAhead (separator : Char) (text : Text) : Prop :=
  ∃ item : Item, item.WellFormed separator ∧ item.written separator <+: text

theorem lastWins_iff {attributes : Attributes} {found : List Pair} :
    LastWins attributes (found.map Pair.texts) ↔ attributes = .ofPairs found := by
  have hget : LastWins (.ofPairs found) (found.map Pair.texts) :=
    Dictionary.get?_ofList _
  constructor
  · intro h
    exact Dictionary.ext_get? fun key => (h key).trans (hget key).symm
  · rintro rfl
    exact hget

/-! ### One item -/

section Items

variable {separator : Char} {site next : Site} {found : Pair} {item other : Item}

theorem isKeyEnd_eq_false_iff {c : Char} :
    Attributes.isKeyEnd separator c = false ↔
      c ≠ separator ∧ isWhiteSpace c = false ∧ c ∉ ['"', '<', '>', '/', '?'] := by
  simp [Attributes.isKeyEnd, and_assoc]

theorem isKeyEnd_self (separator : Char) : Attributes.isKeyEnd separator separator = true := by
  simp [Attributes.isKeyEnd]

theorem Item.written_eq (separator : Char) (item : Item) :
    item.written separator =
      item.blank ++ (item.key ++ ([separator, '"'] ++ (item.value ++ ['"']))) := by
  simp [written]

theorem Item.written_ne_nil (separator : Char) (item : Item) : item.written separator ≠ [] := by
  simp [written]

theorem complete_pair {key value : Text} (hkey : KeyBefore separator key) (hvalue : '"' ∉ value)
    (h : site.LeadsBy (key ++ ([separator, '"'] ++ (value ++ ['"']))) next) :
    ∃ found, Attributes.pair separator site = some (found, next) ∧
      found.texts = (key, value) := by
  obtain ⟨hc, hrun⟩ := hkey
  simp only [Site.leadsBy_append_iff] at h
  obtain ⟨keyEnd, hkey, valueStart, hquoted, valueEnd, htext, hfinal⟩ := h
  obtain ⟨middle, hfirst, hmore⟩ := Site.leadsBy_cons_iff.1 hkey
  obtain ⟨quoteStart, hseparator, hquote⟩ := Site.leadsBy_cons_iff.1 hquoted
  refine ⟨_, bind_eq_some_iff.2 ⟨_, middle, one_iff.2 ⟨_, hc, hfirst, rfl⟩,
    bind_eq_some_iff.2 ⟨_, keyEnd, stretch_not_iff.2 ⟨_, ?_, hmore, ?_, rfl⟩,
    char_bind_iff.2 ⟨quoteStart, hseparator,
    char_bind_iff.2 ⟨valueStart, hquote,
    bind_eq_some_iff.2 ⟨_, valueEnd, stretch_not_iff.2 ⟨_, ?_, htext, ?_, rfl⟩,
    char_bind_iff.2 ⟨next, hfinal,
    pure_eq_some_iff.2 ⟨rfl, rfl⟩⟩⟩⟩⟩⟩⟩, rfl⟩
  · exact fun d hd => isKeyEnd_eq_false_iff.2 (hrun d hd)
  · exact hquoted.stops (by rw [isKeyEnd_self]; rfl)
  · intro d hd
    exact beq_false_of_ne fun heq => hvalue (heq ▸ hd)
  · exact hfinal.stops (by decide)

theorem sound_nextPair (h : Attributes.nextPair separator site = some (found, next)) :
    ∃ item : Item, item.WellFormed separator ∧ found.texts = item.texts ∧
      site.LeadsBy (item.written separator) next := by
  obtain ⟨blank, middle, hblank, hspace, -, h⟩ := blank_bind_iff.1 h
  obtain ⟨first, more, value, hfirst, hmore, hvalue, hpair, rfl⟩ := Attributes.pair_eq_some h
  refine ⟨⟨blank, first :: more, value⟩, ⟨hblank, .mk hfirst ?_, hvalue⟩, rfl, ?_⟩
  · exact fun c hc => isKeyEnd_eq_false_iff.1 (hmore c hc)
  · simpa [Item.written] using hspace.trans hpair

theorem complete_nextPair (hitem : item.WellFormed separator)
    (h : site.LeadsBy (item.written separator) next) :
    ∃ found, Attributes.nextPair separator site = some (found, next) ∧
      found.texts = item.texts := by
  rw [Item.written_eq] at h
  obtain ⟨middle, hspace, hpair⟩ := Site.leadsBy_append_iff.1 h
  obtain ⟨found, hfound, htexts⟩ := complete_pair hitem.key hitem.value hpair
  have hstops : middle.Stops isWhiteSpace := by
    obtain ⟨blank, key, value⟩ := item
    obtain ⟨hfirst, -⟩ := hitem.key
    exact hpair.stops (isWhiteSpace_of_isLetterOrDigit hfirst)
  exact ⟨found, blank_bind_iff.2 ⟨_, middle, hitem.blank, hspace, hstops, hfound⟩, htexts⟩

theorem nextPair_eq_none_iff :
    Attributes.nextPair separator site = none ↔ ¬ ItemAhead separator site.rest := by
  constructor
  · rintro hnone ⟨item, hitem, hfront⟩
    obtain ⟨found, hfound, -⟩ := complete_nextPair hitem ⟨hfront, rfl⟩
    rw [hnone] at hfound
    contradiction
  · intro hahead
    cases hread : Attributes.nextPair separator site with
    | none => rfl
    | some result =>
        obtain ⟨item, hitem, -, hlead⟩ := sound_nextPair hread
        exact absurd ⟨item, hitem, hlead.1⟩ hahead

/-- No item stands in front of a character that begins no key. -/
theorem nextPair_eq_none {gap run : Text} {c : Char} (hgap : Blank gap)
    (hspace : isWhiteSpace c = false) (hletter : isLetterOrDigit c = false)
    (h : site.LeadsBy (gap ++ c :: run) next) : Attributes.nextPair separator site = none := by
  obtain ⟨middle, hblank, hrest⟩ := Site.leadsBy_append_iff.1 h
  have hread : blank site = some (site.span gap, middle) :=
    stretch_iff.2 ⟨gap, hgap, hblank, hrest.stops hspace, rfl⟩
  rw [Attributes.nextPair, bind_of_some _ hread]
  exact bind_of_none _ (one_eq_none (hrest.stops hletter))

/-- Two items in front of the same text are the same, since reading finds both. -/
theorem Item.WellFormed.unique (hitem : item.WellFormed separator)
    (hother : other.WellFormed separator) {rest more : Text}
    (h : item.written separator ++ rest = other.written separator ++ more) :
    item = other ∧ rest = more := by
  obtain ⟨next, hnext, rfl⟩ := Site.exists_leadsBy_start (item.written separator) rest
  obtain ⟨last, hlast, rfl⟩ := Site.exists_leadsBy_start (other.written separator) more
  obtain ⟨found, hfound, htexts⟩ := complete_nextPair hitem hnext
  obtain ⟨again, hagain, hsame⟩ := complete_nextPair hother hlast
  rw [h, hagain] at hfound
  obtain ⟨rfl, rfl⟩ := Prod.mk.inj (Option.some.inj hfound)
  obtain ⟨hkey, hvalue⟩ := Prod.mk.inj (htexts.symm.trans hsame)
  have hwritten : item.written separator = other.written separator :=
    List.append_cancel_right h
  rw [Item.written_eq, Item.written_eq, hkey, hvalue] at hwritten
  exact ⟨Item.ext (List.append_cancel_right hwritten) hkey hvalue, rfl⟩

end Items

/-! ### All items -/

section Lists

variable {separator : Char} {site next : Site} {items others : List Item} {text : Text}

/-- What the loop reads is a list of items. -/
theorem sound_pairsWithin (separator : Char) (fuel : Nat) (site : Site) :
    ∃ items : List Item, (∀ item ∈ items, item.WellFormed separator) ∧
      (Attributes.pairsWithin separator fuel site).1.map Pair.texts = items.map Item.texts ∧
      site.LeadsBy (items.flatMap (Item.written separator))
        (Attributes.pairsWithin separator fuel site).2 := by
  induction fuel generalizing site with
  | zero => exact ⟨[], by simp, rfl, Site.leadsBy_nil_iff.2 rfl⟩
  | succ fuel ih =>
      rw [Attributes.pairsWithin]
      cases hfirst : Attributes.nextPair separator site with
      | none => exact ⟨[], by simp, rfl, Site.leadsBy_nil_iff.2 rfl⟩
      | some result =>
          obtain ⟨item, hitem, htexts, hlead⟩ := sound_nextPair hfirst
          obtain ⟨items, hitems, hmap, hrest⟩ := ih result.2
          refine ⟨item :: items, List.forall_mem_cons.2 ⟨hitem, hitems⟩, ?_, hlead.trans hrest⟩
          rw [List.map_cons, List.map_cons, htexts, hmap]

/-- With a step for each character the loop ends where no item follows. -/
theorem nextPair_pairsWithin_eq_none {fuel : Nat} (hfuel : site.rest.length ≤ fuel) :
    Attributes.nextPair separator (Attributes.pairsWithin separator fuel site).2 = none := by
  induction fuel generalizing site with
  | zero =>
      have hnil : site.rest = [] := List.length_eq_zero_iff.1 (Nat.le_zero.1 hfuel)
      rw [Attributes.pairsWithin, nextPair_eq_none_iff, hnil]
      rintro ⟨item, -, hfront⟩
      exact item.written_ne_nil separator (List.prefix_nil.1 hfront)
  | succ fuel ih =>
      rw [Attributes.pairsWithin]
      cases hfirst : Attributes.nextPair separator site with
      | none => exact hfirst
      | some result =>
          have hlt := (Attributes.consumes_nextPair separator hfirst).length_lt
          exact ih (by omega)

/-- All items are read that stand in front of a place without an item. -/
theorem complete_pairsWithin (hitems : ∀ item ∈ items, item.WellFormed separator) {fuel : Nat}
    (hfuel : (items.flatMap (Item.written separator)).length ≤ fuel)
    (h : site.LeadsBy (items.flatMap (Item.written separator)) next)
    (hnext : Attributes.nextPair separator next = none) :
    ∃ found, Attributes.pairsWithin separator fuel site = (found, next) ∧
      found.map Pair.texts = items.map Item.texts := by
  induction items generalizing site fuel with
  | nil =>
      obtain rfl := Site.leadsBy_nil_iff.1 h
      cases fuel with
      | zero => exact ⟨[], rfl, rfl⟩
      | succ fuel =>
          refine ⟨[], ?_, rfl⟩
          rw [Attributes.pairsWithin, hnext]
  | cons item items ih =>
      obtain ⟨hitem, hothers⟩ := List.forall_mem_cons.1 hitems
      rw [List.flatMap_cons] at hfuel h
      obtain ⟨middle, hfirst, hrest⟩ := Site.leadsBy_append_iff.1 h
      have hpos := List.length_pos_iff.2 (item.written_ne_nil separator)
      rw [List.length_append] at hfuel
      obtain ⟨fuel, rfl⟩ := Nat.exists_eq_succ_of_ne_zero (by omega : fuel ≠ 0)
      obtain ⟨pair, hpair, htexts⟩ := complete_nextPair hitem hfirst
      have hless : (items.flatMap (Item.written separator)).length ≤ fuel := by omega
      obtain ⟨found, hfound, hmap⟩ := ih hothers hless hrest
      refine ⟨pair :: found, ?_, ?_⟩
      · rw [Attributes.pairsWithin, hpair]
        dsimp only
        rw [hfound]
      · rw [List.map_cons, List.map_cons, htexts, hmap]

theorem sound_pairs {found : List Pair}
    (h : Attributes.pairs separator site = some (found, next)) :
    ∃ items : List Item, (∀ item ∈ items, item.WellFormed separator) ∧
      found.map Pair.texts = items.map Item.texts ∧
      site.LeadsBy (items.flatMap (Item.written separator)) next ∧
      Attributes.nextPair separator next = none := by
  obtain ⟨rfl, rfl⟩ := Prod.mk.inj (Option.some.inj h)
  obtain ⟨items, hitems, hmap, hlead⟩ := sound_pairsWithin separator site.rest.length site
  exact ⟨items, hitems, hmap, hlead, nextPair_pairsWithin_eq_none (Nat.le_refl _)⟩

theorem complete_pairs (hitems : ∀ item ∈ items, item.WellFormed separator)
    (h : site.LeadsBy (items.flatMap (Item.written separator)) next)
    (hnext : Attributes.nextPair separator next = none) :
    ∃ found, Attributes.pairs separator site = some (found, next) ∧
      found.map Pair.texts = items.map Item.texts := by
  obtain ⟨found, hfound, hmap⟩ := complete_pairsWithin hitems h.1.length_le h hnext
  exact ⟨found, congrArg some hfound, hmap⟩

theorem Listing.text_ne_nil (h : Listing separator items text) : text ≠ [] := by
  obtain ⟨item, others, rfl⟩ := List.exists_cons_of_ne_nil h.ne_nil
  rw [h.text_eq, List.flatMap_cons]
  simp [Item.written_ne_nil]

/-- A list of items ends with the quote after its last value. -/
theorem Listing.exists_quote (h : Listing separator items text) :
    ∃ front, text = front ++ ['"'] := by
  obtain ⟨others, item, rfl⟩ := (List.eq_nil_or_concat items).resolve_left h.ne_nil
  refine ⟨others.flatMap (Item.written separator) ++
    (item.blank ++ item.key ++ [separator, '"'] ++ item.value), ?_⟩
  rw [h.text_eq]
  simp [Item.written]

theorem eq_of_flatMap_written_eq (hitems : ∀ item ∈ items, item.WellFormed separator)
    (hothers : ∀ item ∈ others, item.WellFormed separator)
    (h : items.flatMap (Item.written separator) = others.flatMap (Item.written separator)) :
    items = others := by
  induction items generalizing others with
  | nil =>
      cases others with
      | nil => rfl
      | cons other others => simp [Item.written_ne_nil] at h
  | cons item items ih =>
      cases others with
      | nil => simp [Item.written_ne_nil] at h
      | cons other others =>
          obtain ⟨hitem, hmore⟩ := List.forall_mem_cons.1 hitems
          obtain ⟨hother, hrest⟩ := List.forall_mem_cons.1 hothers
          obtain ⟨hfirst, hlater⟩ := hitem.unique hother h
          rw [hfirst, ih hmore hrest hlater]

/-- A text is a list of items in one way only. -/
theorem Listing.unique (h : Listing separator items text) (hother : Listing separator others text) :
    items = others :=
  eq_of_flatMap_written_eq h.wellFormed hother.wellFormed (h.text_eq.symm.trans hother.text_eq)

/-- Attributes are read from a list of items that no further item follows. -/
theorem read_eq_some_iff {attributes : Attributes} :
    Attributes.read separator site = some (attributes, next) ↔
      ∃ items written, Listing separator items written ∧ site.LeadsBy written next ∧
        LastWins attributes (items.map Item.texts) ∧ ¬ ItemAhead separator next.rest := by
  rw [← nextPair_eq_none_iff]
  constructor
  · intro h
    rw [Attributes.read] at h
    split at h
    · rename_i found last hfound
      split at h
      · contradiction
      · rename_i hsome
        obtain ⟨rfl, rfl⟩ := Prod.mk.inj (Option.some.inj h)
        obtain ⟨items, hitems, hmap, hlead, hnext⟩ := sound_pairs hfound
        have hne : items ≠ [] := by
          rintro rfl
          exact hsome (List.isEmpty_iff.2 (List.map_eq_nil_iff.1 hmap))
        exact ⟨items, _, ⟨hne, hitems, rfl⟩, hlead, hmap ▸ lastWins_iff.2 rfl, hnext⟩
    · contradiction
  · rintro ⟨items, written, ⟨hne, hitems, rfl⟩, hlead, hattributes, hnext⟩
    obtain ⟨found, hfound, hmap⟩ := complete_pairs hitems hlead hnext
    have hsome : found ≠ [] := by
      rintro rfl
      exact hne (List.map_eq_nil_iff.1 hmap.symm)
    rw [← hmap, lastWins_iff] at hattributes
    rw [Attributes.read, hfound, hattributes]
    simp [hsome]

/-- What is read at a cursor is the list of items between it and where the cursor goes. -/
theorem value_read_iff {attributes : Attributes} {cursor : Cursor} {stop : Nat} :
    (∃ after, (Attributes.read separator).value text cursor = (some attributes, after) ∧
      after.offset = stop) ↔
    ∃ items span, text.slice cursor.offset stop = some span ∧
      Listing separator items span.text ∧ LastWins attributes (items.map Item.texts) ∧
      ¬ ItemAhead separator (text.remaining stop) := by
  constructor
  · rintro ⟨after, hvalue, rfl⟩
    obtain ⟨next, hread, -, hoffset⟩ := exists_of_value (congrArg Prod.fst hvalue)
    rw [hvalue] at hoffset
    obtain ⟨items, written, hlisting, hlead, hattributes, hahead⟩ := read_eq_some_iff.1 hread
    have hrest : text.remaining next.offset = next.rest :=
      congrArg Site.rest (Site.ofCursor_cursor hlead.leads)
    rw [hoffset, hrest]
    exact ⟨items, ⟨cursor.offset, written⟩, hlead.slice hlisting.text_ne_nil, hlisting,
      hattributes, hahead⟩
  · rintro ⟨items, span, hslice, hlisting, hattributes, hahead⟩
    obtain ⟨hrun, rfl⟩ := Text.remaining_of_slice hslice
    rw [Text.remaining_add hrun] at hahead
    have hlead : (Site.ofCursor text cursor).LeadsBy span.text _ := ⟨hrun, rfl⟩
    have hread := read_eq_some_iff.2 ⟨items, _, hlisting, hlead, hattributes, hahead⟩
    exact ⟨_, (forms_of_read hread hlead hlisting.text_ne_nil).2.2, rfl⟩

end Lists

end Grammar

open Grammar

/-- Attributes are read at a cursor, for any separator, exactly if a list of
items stands there that no further item follows, and they have under each key
the value of its last item.  A list is made up of items in one way only, and
what is read ends with a closing quote. -/
theorem attributes_read_iff_listed (separator : Char) (text : Text) (cursor : Cursor) :
    (∀ attributes stop,
      (∃ after, (Attributes.read separator).value text cursor = (some attributes, after) ∧
        after.offset = stop) ↔
      ∃ items span, text.slice cursor.offset stop = some span ∧
        Listing separator items span.text ∧ LastWins attributes (items.map Item.texts) ∧
        ¬ ItemAhead separator (text.remaining stop)) ∧
    (∀ items others written, Listing separator items written →
      Listing separator others written → items = others) ∧
    (∀ attributes after,
      (Attributes.read separator).value text cursor = (some attributes, after) →
      ∃ span front, text.slice cursor.offset after.offset = some span ∧
        span.text = front ++ ['"']) := by
  refine ⟨fun _ _ => value_read_iff, fun _ _ _ => Listing.unique, ?_⟩
  intro attributes after hvalue
  obtain ⟨items, span, hslice, hlisting, -⟩ := value_read_iff.1 ⟨after, hvalue, rfl⟩
  obtain ⟨front, hfront⟩ := hlisting.exists_quote
  exact ⟨span, front, hslice, hfront⟩

/-- Two items whose separator is the letter that their key consists of: the last
value counts, and the white space after the items is left. -/
theorem letter_separated_items_read :
    (Attributes.read 'a').value "é aa\"1\" aa\"2\"  x".toList ⟨2, 1, 0⟩ =
        (some (.ofList [(['a'], ['2'])]), ⟨14, 13, 12⟩) ∧
      (∃ items span, Text.slice "é aa\"1\" aa\"2\"  x".toList 2 14 = some span ∧
        Listing 'a' items span.text ∧
        LastWins (.ofList [(['a'], ['2'])]) (items.map Item.texts) ∧
        ¬ ItemAhead 'a' (Text.remaining "é aa\"1\" aa\"2\"  x".toList 14)) ∧
      (Listing 'a' [⟨[' '], ['a'], ['1']⟩, ⟨[' '], ['a'], ['2']⟩] " aa\"1\" aa\"2\"".toList ∧
        ∀ others, Listing 'a' others " aa\"1\" aa\"2\"".toList →
          others = [⟨[' '], ['a'], ['1']⟩, ⟨[' '], ['a'], ['2']⟩]) ∧
      ∃ span front, Text.slice "é aa\"1\" aa\"2\"  x".toList 2 14 = some span ∧
        span.text = front ++ ['"'] := by
  obtain ⟨hiff, hunique, hquote⟩ :=
    attributes_read_iff_listed 'a' "é aa\"1\" aa\"2\"  x".toList ⟨2, 1, 0⟩
  have hread : (Attributes.read 'a').value "é aa\"1\" aa\"2\"  x".toList ⟨2, 1, 0⟩ =
      (some (.ofList [(['a'], ['2'])]), ⟨14, 13, 12⟩) := by
    decide +kernel
  have hkey : KeyBefore 'a' ['a'] := .mk (by decide +kernel) (by simp)
  have hlisting : Listing 'a' [⟨[' '], ['a'], ['1']⟩, ⟨[' '], ['a'], ['2']⟩]
      " aa\"1\" aa\"2\"".toList := by
    refine ⟨List.cons_ne_nil _ _, ?_, rfl⟩
    simp only [List.forall_mem_cons]
    exact ⟨⟨blank_singleton (by decide), hkey, by decide⟩,
      ⟨blank_singleton (by decide), hkey, by decide⟩, by simp⟩
  exact ⟨hread, (hiff _ _).1 ⟨_, hread, rfl⟩,
    ⟨hlisting, fun others hothers => hunique _ _ _ hothers hlisting⟩, hquote _ _ hread⟩

end TextScan
