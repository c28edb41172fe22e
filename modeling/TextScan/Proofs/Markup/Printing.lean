import TextScan.Proofs.Markup.Elements

/-!
# Printing elements and reading them back

An element is well formed if the names and attributes in it are such that the
grammar of markup has them.  The printed form of a well-formed element is one
of the texts that it can be written as, whatever its depth: indentation and
line ends are white space in front of the next tag.  Nothing else is ever
read, so exactly the well-formed elements are read back from their printed
form.
-/

namespace TextScan

namespace Dictionary

variable {α : Type}

/-- Where no name stands twice, the order of the entries does not matter. -/
theorem lookup_reverse {entries : List (Text × α)}
    (hordered : entries.Pairwise fun left right => left.1 < right.1) (name : Text) :
    entries.reverse.lookup name = entries.lookup name := by
  induction entries with
  | nil => rfl
  | cons entry rest ih =>
      obtain ⟨first, found⟩ := entry
      obtain ⟨hentry, hrest⟩ := List.pairwise_cons.1 hordered
      rw [List.reverse_cons, List.lookup_append, ih hrest]
      by_cases hname : name = first
      · have hlater : rest.lookup name = none := by
          rw [List.lookup_eq_none_iff]
          intro later hmem
          have hlt := hentry later hmem
          exact bne_iff_ne.2 fun heq => List.lt_irrefl first (by rwa [← heq, hname] at hlt)
        rw [hlater]
        simp [hname]
      · simp [List.lookup_cons, beq_false_of_ne hname]

end Dictionary

/-- The names and attributes of the element and of all that is nested in it can
be written. -/
inductive Element.WellFormed : Element → Prop
  | node {tag : Text} {attributes : Attributes} {children : List Element}
      (htag : Grammar.Name tag)
      (hattributes : ∀ key value, attributes.get? key = some value →
        Grammar.Key key ∧ '"' ∉ value)
      (hchildren : ∀ child ∈ children, child.WellFormed) :
      WellFormed (.node tag attributes children)

namespace Grammar

/-! ### What is written is well formed -/

theorem Pairs.of_mem {pairs : List (Text × Text)} {written : Text} (h : Pairs pairs written)
    {key value : Text} (hmem : (key, value) ∈ pairs) : Key key ∧ '"' ∉ value := by
  induction h with
  | nil => simp at hmem
  | cons _ hkey hvalue _ ih =>
      rcases List.mem_cons.1 hmem with heq | hmem
      · obtain ⟨rfl, rfl⟩ := Prod.mk.inj heq
        exact ⟨hkey, hvalue⟩
      · exact ih hmem

theorem Opening.attributes {name written : Text} {attributes : Attributes} {selfClosing : Bool}
    (h : Opening name attributes selfClosing written) {key value : Text}
    (hget : attributes.get? key = some value) : Key key ∧ '"' ∉ value := by
  cases h with
  | mk _ _ hpairs hattributes =>
      rw [hattributes] at hget
      obtain ⟨before, after, heq, -⟩ := List.lookup_eq_some_iff.1 hget
      apply hpairs.of_mem
      rw [← List.mem_reverse, heq]
      simp

mutual

theorem Node.wellFormed {element : Element} {written : Text} :
    Node element written → element.WellFormed
  | .selfClosing hopening => .node hopening.isName (fun _ _ => hopening.attributes) (by simp)
  | .nested hopening hchildren _ =>
      .node hopening.isName (fun _ _ => hopening.attributes) hchildren.wellFormed

theorem Nodes.wellFormed {children : List Element} {written : Text} :
    Nodes children written → ∀ child ∈ children, child.WellFormed
  | .nil => by simp
  | .cons hchild hchildren =>
      List.forall_mem_cons.2 ⟨hchild.wellFormed, hchildren.wellFormed⟩

end

/-! ### What is printed -/

section Printing

variable {entries : List (Text × Text)} {attributes : Attributes} {tag blank gap : Text}

theorem blank_indent (level : Nat) : Blank (List.replicate level ' ') := by
  intro c hc
  rw [List.eq_of_mem_replicate hc]
  decide

theorem printAttributes_append (entries : List (Text × Text)) (rest : Text) :
    Element.printAttributes entries rest = Element.printAttributes entries [] ++ rest := by
  induction entries with
  | nil => rfl
  | cons entry others ih => simp [Element.printAttributes, ih]

theorem pairs_printAttributes (h : ∀ entry ∈ entries, Key entry.1 ∧ '"' ∉ entry.2) :
    Pairs entries (Element.printAttributes entries []) := by
  induction entries with
  | nil => exact .nil
  | cons entry others ih =>
      have hentry := h entry List.mem_cons_self
      have hothers := ih fun later hmem => h later (List.mem_cons_of_mem _ hmem)
      simpa [Element.printAttributes] using
        Pairs.cons (blank_indent 1) hentry.1 hentry.2 hothers

/-- Attributes begin with a space, so a name ends in front of them. -/
theorem endsName_printAttributes {rest : Text} (h : EndsName rest) :
    EndsName (Element.printAttributes entries rest) := by
  cases entries with
  | nil => exact h
  | cons entry others => exact ⟨' ', _, rfl, .inl (by decide)⟩

theorem opening_printed {selfClosing : Bool} (hblank : Blank blank) (htag : Name tag)
    (hattributes : ∀ key value, attributes.get? key = some value → Key key ∧ '"' ∉ value)
    (hgap : Blank gap) (hends : EndsName (gap ++ tagEnd selfClosing)) :
    Opening tag attributes selfClosing
      (blank ++ ['<'] ++ tag ++
        Element.printAttributes attributes.entries (gap ++ tagEnd selfClosing)) := by
  have hentries : ∀ entry ∈ attributes.entries, Key entry.1 ∧ '"' ∉ entry.2 := by
    intro entry hmem
    exact hattributes entry.1 entry.2 (Dictionary.mem_entries_iff.1 hmem)
  have hlast : LastWins attributes attributes.entries :=
    fun key => (Dictionary.lookup_reverse attributes.ordered key).symm
  have hwritten := @endsName_printAttributes attributes.entries _ hends
  rw [printAttributes_append, ← List.append_assoc _ gap] at hwritten ⊢
  exact .mk hblank htag (pairs_printAttributes hentries) hlast hgap hwritten

/-- The printed form of the element, less the end of its line, is one of the
texts of the element, after any white space. -/
def PrintedAt (level : Nat) (element : Element) : Prop :=
  ∃ written, (∀ rest, Element.printBefore level element rest = written ++ '\n' :: rest) ∧
    ∀ blank, Blank blank → Node element (blank ++ written)

/-- The end of a line is the white space in front of the next child. -/
theorem nodes_printed {level : Nat} {children : List Element}
    (h : ∀ child ∈ children, PrintedAt level child) :
    ∃ content, Nodes children content ∧
      ∀ rest, '\n' :: Element.printAllBefore level children rest = content ++ '\n' :: rest := by
  induction children with
  | nil => exact ⟨[], .nil, fun rest => rfl⟩
  | cons child others ih =>
      obtain ⟨written, hprinted, hnode⟩ := h child List.mem_cons_self
      obtain ⟨content, hnodes, hcontent⟩ :=
        ih fun later hmem => h later (List.mem_cons_of_mem _ hmem)
      have hblank : Blank ['\n'] := blank_singleton (by decide)
      refine ⟨(['\n'] ++ written) ++ content, .cons (hnode _ hblank) hnodes, ?_⟩
      intro rest
      rw [Element.printAllBefore, hprinted, hcontent]
      simp

theorem printedAt_childless (level : Nat) (htag : Name tag)
    (hattributes : ∀ key value, attributes.get? key = some value → Key key ∧ '"' ∉ value) :
    PrintedAt level (.node tag attributes []) := by
  refine ⟨List.replicate level ' ' ++ ['<'] ++ tag ++
    Element.printAttributes attributes.entries ([' '] ++ tagEnd true), ?_, ?_⟩
  · intro rest
    rw [Element.printBefore, Element.indent, printAttributes_append,
      printAttributes_append _ (_ ++ _)]
    simp [tagEnd]
  · intro blank hblank
    have hends : EndsName ([' '] ++ tagEnd true) := ⟨' ', _, rfl, .inl (by decide)⟩
    have hopening := opening_printed (hblank.append (blank_indent level)) htag hattributes
      (blank_singleton (by decide)) hends
    simpa using Node.selfClosing hopening

theorem printedAt_nested {level : Nat} {child : Element} {others : List Element}
    (htag : Name tag)
    (hattributes : ∀ key value, attributes.get? key = some value → Key key ∧ '"' ∉ value)
    (hchildren : ∀ element ∈ child :: others, PrintedAt (level + 2) element) :
    PrintedAt level (.node tag attributes (child :: others)) := by
  obtain ⟨content, hnodes, hcontent⟩ := nodes_printed hchildren
  have hclosing : Closing tag
      ((['\n'] ++ List.replicate level ' ') ++ ['<', '/'] ++ tag ++ [] ++ ['>']) :=
    .mk ((blank_singleton (by decide)).append (blank_indent level)) blank_nil
  refine ⟨List.replicate level ' ' ++ ['<'] ++ tag ++
    Element.printAttributes attributes.entries ([] ++ tagEnd false) ++
      (content ++ ((['\n'] ++ List.replicate level ' ') ++ ['<', '/'] ++ tag ++ [] ++ ['>'])),
    ?_, ?_⟩
  · intro rest
    have hprint : Element.printBefore level (.node tag attributes (child :: others)) rest =
        Element.indent level ('<' :: tag ++ Element.printAttributes attributes.entries
          ('>' :: '\n' :: Element.printAllBefore (level + 2) (child :: others)
            (Element.indent level ('<' :: '/' :: tag ++ '>' :: '\n' :: rest)))) :=
      rfl
    rw [hprint, hcontent, printAttributes_append, printAttributes_append _ (_ ++ _)]
    simp [Element.indent, tagEnd]
  · intro blank hblank
    have hends : EndsName ([] ++ tagEnd false) := ⟨'>', _, rfl, .inr (.inr rfl)⟩
    have hopening := opening_printed (hblank.append (blank_indent level)) htag hattributes
      blank_nil hends
    simpa only [List.append_assoc] using Node.nested hopening hnodes hclosing

end Printing

end Grammar

open Grammar

theorem Element.WellFormed.printedAt {element : Element} (h : element.WellFormed)
    (level : Nat) : PrintedAt level element := by
  induction h generalizing level with
  | @node tag attributes children htag hattributes _ ih =>
      cases children with
      | nil => exact printedAt_childless level htag hattributes
      | cons child others =>
          exact printedAt_nested htag hattributes fun element hmem => ih element hmem (level + 2)

/-! ### Documents -/

namespace Document

open Scanner

variable {text : Text} {document : Document}

/-- A text is a document exactly if one is read at its beginning and only white
space is left. -/
theorem parse_eq_ok_iff_scanner :
    parse text = .ok document ↔
      ∃ last, scanner (.start text) = some (document, last) ∧ Blank last.rest := by
  rw [parse, readNoted]
  cases hprolog : Tag.prolog (.start text) with
  | none =>
      have hnone : scanner (.start text) = none := bind_of_none _ hprolog
      simp [hnone]
  | some result =>
      obtain ⟨prolog, middle⟩ := result
      have hscanner : scanner (.start text) =
          (Element.scanner >>= fun root => pure ⟨prolog, root⟩) middle :=
        bind_of_some _ hprolog
      dsimp only
      cases hroot : (Element.read middle).result with
      | none =>
          have hnone : scanner (.start text) = none := hscanner.trans (bind_of_none _ hroot)
          simp [hnone]
      | some result =>
          obtain ⟨root, last⟩ := result
          have hsome : scanner (.start text) = some (⟨prolog, root⟩, last) :=
            hscanner.trans (bind_of_some _ hroot)
          dsimp only
          rw [hsome, apply_ite Prod.snd, ite_isAtEnd_eq_ok_iff]
          simp [and_assoc]

theorem parse_eq_ok_iff :
    parse text = .ok document ↔
      ∃ written after, text = written ++ after ∧ Whole document written ∧ Blank after := by
  rw [parse_eq_ok_iff_scanner]
  constructor
  · intro h
    obtain ⟨last, hread, hblank⟩ := h
    obtain ⟨written, hlead, hwhole⟩ := (recognises_document _ _ _).1 hread
    exact ⟨written, last.rest, hlead.rest_eq, hwhole, hblank⟩
  · intro h
    obtain ⟨written, after, rfl, hwhole, hblank⟩ := h
    obtain ⟨last, hlead, hrest⟩ := Site.exists_leadsBy_start written after
    exact ⟨last, (recognises_document _ _ _).2 ⟨written, hlead, hwhole⟩, hrest ▸ hblank⟩

end Document

def Document.declaration : Text :=
  "<?xml version=\"1.0\"?>".toList

theorem Document.prolog_declaration :
    Prolog (.ofList [("version".toList, "1.0".toList)]) declaration := by
  have hkey : Key ['v', 'e', 'r', 's', 'i', 'o', 'n'] := by
    refine .mk (by decide) ?_
    intro c hc
    simp only [List.mem_cons, List.not_mem_nil, or_false] at hc
    rcases hc with rfl | rfl | rfl | rfl | rfl | rfl <;> decide
  have hentries : ∀ entry ∈ [("version".toList, "1.0".toList)],
      Key entry.1 ∧ '"' ∉ entry.2 := by
    intro entry hmem
    rw [List.mem_singleton.1 hmem]
    exact ⟨hkey, by decide⟩
  exact .mk (pairs_printAttributes hentries) (Dictionary.get?_ofList _) blank_nil

theorem Element.WellFormed.parse_display {element : Element} (h : element.WellFormed) :
    Document.parse (Document.declaration ++ element.display) =
      .ok ⟨.ofList [("version".toList, "1.0".toList)], element⟩ := by
  obtain ⟨written, hprinted, hnode⟩ := h.printedAt 0
  have hdisplay : Document.declaration ++ element.display =
      (Document.declaration ++ written) ++ ['\n'] := by
    rw [display, hprinted, List.append_assoc]
  exact Document.parse_eq_ok_iff.2 ⟨Document.declaration ++ written, ['\n'], hdisplay,
    .mk Document.prolog_declaration (hnode [] blank_nil), blank_singleton (by decide)⟩

theorem Document.wellFormed_of_parse {text : Text} {document : Document}
    (h : parse text = .ok document) : document.root.WellFormed := by
  obtain ⟨written, after, -, hwhole, -⟩ := parse_eq_ok_iff.1 h
  cases hwhole with
  | mk _ hroot => exact hroot.wellFormed

/-- Exactly the well-formed elements are read back from their printed form, and
the root of every document is one. -/
theorem reparsed_iff_wellFormed :
    (∀ element : Element,
      (∃ prolog, Document.parse (Document.declaration ++ element.display) = .ok ⟨prolog, element⟩) ↔
        element.WellFormed) ∧
      ∀ text document, Document.parse text = .ok document →
        ∃ prolog, Document.parse (Document.declaration ++ document.root.display) =
          .ok ⟨prolog, document.root⟩ := by
  constructor
  · intro element
    constructor
    · intro h
      obtain ⟨prolog, hparse⟩ := h
      exact Document.wellFormed_of_parse hparse
    · intro hwellFormed
      exact ⟨_, hwellFormed.parse_display⟩
  · intro text document hparse
    exact ⟨_, (Document.wellFormed_of_parse hparse).parse_display⟩

/-- A value with markup and a line end in it, and a name with a quote. -/
theorem nested_document_reparsed :
    Element.WellFormed
        (.node ['a', '"'] (.ofList [(['k'], ['<', '\n'])]) [.node ['b'] .empty []]) ∧
      ∃ prolog, Document.parse (Document.declaration ++ Element.display
          (.node ['a', '"'] (.ofList [(['k'], ['<', '\n'])]) [.node ['b'] .empty []])) =
        .ok ⟨prolog,
          .node ['a', '"'] (.ofList [(['k'], ['<', '\n'])]) [.node ['b'] .empty []]⟩ := by
  have hparse : Document.parse "<?xml?><a\" k=\"<\n\"><b/></a\">".toList =
      .ok ⟨.empty,
        .node ['a', '"'] (.ofList [(['k'], ['<', '\n'])]) [.node ['b'] .empty []]⟩ := by
    decide +kernel
  have hreparsed := reparsed_iff_wellFormed.2 _ _ hparse
  exact ⟨(reparsed_iff_wellFormed.1 _).1 hreparsed, hreparsed⟩

end TextScan
