import TextScan.Proofs.Contract
import TextScan.Proofs.Markup.Tags

/-!
# Recognition of elements and documents

An element is recognised at a place exactly if the text from there on begins
with one, and then it is the only one and ends at the only place.  Reading
never tries twice: where a closing tag stands no child does, and a name that
does not match is an error under the grammar too.
-/

namespace TextScan

namespace Grammar

open Scanner

section Elements

variable {site next : Site} {name written : Text} {element : Element}

theorem Opening.ne_nil {attributes : Attributes} {selfClosing : Bool}
    (h : Opening name attributes selfClosing written) : written ≠ [] := by
  cases h with
  | mk => simp

theorem Opening.isName {attributes : Attributes} {selfClosing : Bool}
    (h : Opening name attributes selfClosing written) : Name name := by
  cases h with
  | mk _ hname => exact hname

theorem Node.ne_nil (h : Node element written) : written ≠ [] := by
  cases h with
  | selfClosing hopening => exact hopening.ne_nil
  | nested hopening => simp [hopening.ne_nil]

/-- Where an element stands, no closing tag does. -/
theorem Node.closing_eq_none (hnode : Node element written) (h : site.LeadsBy written next) :
    Tag.closing site = none := by
  cases hnode with
  | selfClosing hopening => exact Grammar.closing_eq_none hopening h
  | nested hopening =>
      obtain ⟨middle, hopened, -⟩ := Site.leadsBy_append_iff.1 h
      exact Grammar.closing_eq_none hopening hopened

theorem sound_contentWithin {child : Site → Reading Element}
    (hchild : ∀ {site next element}, (child site).result = some (element, next) →
      ∃ written, site.LeadsBy written next ∧ Node element written)
    (fuel : Nat) {children : List Element}
    (h : (Element.contentWithin child name fuel site).result = some (children, next)) :
    ∃ content closed, site.LeadsBy (content ++ closed) next ∧ Nodes children content ∧
      Closing name closed := by
  induction fuel generalizing site children with
  | zero => contradiction
  | succ fuel ih =>
      rw [Element.contentWithin] at h
      split at h
      · rename_i found last hfound
        split at h
        · rename_i hname
          obtain ⟨rfl, rfl⟩ := Prod.mk.inj (Option.some.inj h)
          obtain ⟨closed, hclosed, hclosing⟩ := sound_closing hfound
          exact ⟨[], closed, hclosed, .nil, hname ▸ hclosing⟩
        · contradiction
      · dsimp only at h
        split at h
        · contradiction
        · rename_i first middle hfirst
          obtain ⟨⟨others, last⟩, hothers, heq⟩ := Option.map_eq_some_iff.1 h
          obtain ⟨rfl, rfl⟩ := Prod.mk.inj heq
          obtain ⟨written, hwritten, hnode⟩ := hchild hfirst
          obtain ⟨content, closed, hrest, hnodes, hclosing⟩ := ih hothers
          refine ⟨written ++ content, closed, ?_, .cons hnode hnodes, hclosing⟩
          rw [List.append_assoc]
          exact hwritten.trans hrest

theorem sound_readWithin (fuel : Nat)
    (h : (Element.readWithin fuel site).result = some (element, next)) :
    ∃ written, site.LeadsBy written next ∧ Node element written := by
  induction fuel generalizing site next element with
  | zero => contradiction
  | succ fuel ih =>
      rw [Element.readWithin] at h
      dsimp only at h
      split at h
      · contradiction
      · rename_i found middle hfound
        obtain ⟨opened, hopened, hopening⟩ := sound_opening hfound
        split at h
        · rename_i hself
          obtain ⟨rfl, rfl⟩ := Prod.mk.inj (Option.some.inj h)
          rw [hself] at hopening
          exact ⟨opened, hopened, .selfClosing hopening⟩
        · rename_i hself
          rw [Bool.not_eq_true] at hself
          rw [hself] at hopening
          obtain ⟨⟨children, last⟩, hcontent, heq⟩ := Option.map_eq_some_iff.1 h
          obtain ⟨rfl, rfl⟩ := Prod.mk.inj heq
          obtain ⟨content, closed, hrest, hnodes, hclosing⟩ :=
            sound_contentWithin ih _ hcontent
          exact ⟨_, hopened.trans hrest, .nested hopening hnodes hclosing⟩

/-- Children are read one by one.  That none of them is taken for a closing tag
is what the order of the two attempts needs. -/
theorem complete_contentWithin {child : Site → Reading Element} {size : Nat}
    (hchild : ∀ {site next element written}, Node element written → written.length < size →
      site.LeadsBy written next → (child site).result = some (element, next))
    (hname : Name name) {content closed : Text} {children : List Element}
    (hchildren : Nodes children content) (hclosing : Closing name closed)
    (hsize : content.length < size) {fuel : Nat} (hfuel : content.length < fuel)
    (h : site.LeadsBy (content ++ closed) next) :
    (Element.contentWithin child name fuel site).result = some (children, next) := by
  induction children generalizing content site fuel with
  | nil =>
      cases hchildren
      obtain ⟨fuel, rfl⟩ := Nat.exists_eq_succ_of_ne_zero (by omega : fuel ≠ 0)
      obtain ⟨found, hfound, htext⟩ := complete_closing hname hclosing h
      rw [Element.contentWithin, hfound]
      dsimp only
      rw [if_pos htext]
  | cons first children ih =>
      cases hchildren with
      | @cons _ _ written content hnode hnodes =>
          rw [List.append_assoc] at h
          obtain ⟨middle, hfirst, hrest⟩ := Site.leadsBy_append_iff.1 h
          have hpos := List.length_pos_iff.2 hnode.ne_nil
          rw [List.length_append] at hsize hfuel
          obtain ⟨fuel, rfl⟩ := Nat.exists_eq_succ_of_ne_zero (by omega : fuel ≠ 0)
          have hothers := ih hnodes (by omega) (by omega : content.length < fuel) hrest
          rw [Element.contentWithin, hnode.closing_eq_none hfirst]
          dsimp only
          rw [hchild hnode (by omega) hfirst]
          dsimp only
          rw [hothers]
          rfl

theorem complete_readWithin {fuel : Nat} (hnode : Node element written)
    (hfuel : written.length < fuel) (h : site.LeadsBy written next) :
    (Element.readWithin fuel site).result = some (element, next) := by
  induction fuel generalizing site next element written with
  | zero => omega
  | succ fuel ih =>
      rw [Element.readWithin]
      cases hnode with
      | selfClosing hopening =>
          obtain ⟨found, hfound, rfl, rfl, hself⟩ := complete_opening hopening h
          rw [hfound]
          dsimp only
          rw [if_pos hself]
      | @nested name opened content closed attributes children hopening hchildren hclosing =>
          obtain ⟨middle, hopened, hrest⟩ := Site.leadsBy_append_iff.1 h
          have hname := hopening.isName
          have hpos := List.length_pos_iff.2 hopening.ne_nil
          have hcontent : content.length ≤ middle.rest.length :=
            ((List.prefix_append content closed).trans hrest.1).length_le
          obtain ⟨found, hfound, rfl, rfl, hself⟩ := complete_opening hopening hopened
          rw [List.length_append, List.length_append] at hfuel
          have hread := complete_contentWithin ih hname hchildren hclosing
            (by omega : content.length < fuel) (Nat.lt_succ_of_le hcontent) hrest
          rw [hfound]
          dsimp only
          rw [hself, hread]
          rfl

end Elements

end Grammar

/-! ### Recognition at a cursor -/

/-- A value of the language is written between the two offsets of the text. -/
def Grammar.Stands {α : Type} (language : α → Text → Prop) (text : Text) (start stop : Nat)
    (value : α) : Prop :=
  ∃ span, text.slice start stop = some span ∧ language value span.text

namespace Scanner

variable {α : Type} {scanner : Scanner α} {language : α → Text → Prop}

/-- The scanner reads the values of the language, each as it is written. -/
def Recognises (scanner : Scanner α) (language : α → Text → Prop) : Prop :=
  ∀ site next value, scanner site = some (value, next) ↔
    ∃ written, site.LeadsBy written next ∧ language value written

/-- The cursor after a reading stands at the site that the scanner reaches. -/
theorem Consumes.exists_value_iff (h : scanner.Consumes) (holds : Site → Prop) {text : Text}
    {cursor : Cursor} {value : α} :
    (∃ after, scanner.value text cursor = (some value, after) ∧
      holds (.ofCursor text after)) ↔
    ∃ next, scanner (.ofCursor text cursor) = some (value, next) ∧ holds next := by
  rw [Scanner.value]
  cases hread : scanner (.ofCursor text cursor) with
  | none => simp
  | some result =>
      obtain ⟨found, next⟩ := result
      have hne : next.cursor.offset ≠ cursor.offset := Nat.ne_of_gt (h hread).offset_lt
      have hafter : ∀ moved, Site.ofCursor text ⟨next.cursor.offset, next.cursor.index, moved⟩ =
          next := fun _ => Site.ofCursor_cursor (h hread).leads
      simp [Cursor.moveTo?, hne, hafter, and_assoc]

/-- The cursor follows a scanner that makes progress. -/
theorem Consumes.value_iff (h : scanner.Consumes) (text : Text) (cursor : Cursor) (value : α)
    (stop : Nat) :
    (∃ after, scanner.value text cursor = (some value, after) ∧ after.offset = stop) ↔
      ∃ next, scanner (.ofCursor text cursor) = some (value, next) ∧ next.offset = stop :=
  h.exists_value_iff fun next => next.offset = stop

theorem Recognises.value_iff (h : scanner.Recognises language) (hconsumes : scanner.Consumes)
    (text : Text) (cursor : Cursor) (value : α) (stop : Nat) :
    (∃ after, scanner.value text cursor = (some value, after) ∧ after.offset = stop) ↔
      Grammar.Stands language text cursor.offset stop value := by
  rw [hconsumes.value_iff]
  constructor
  · rintro ⟨next, hread, rfl⟩
    obtain ⟨written, hnext, hwritten⟩ := (h _ _ _).1 hread
    have hne : written ≠ [] := by
      rintro rfl
      have hlt := (hconsumes hread).length_lt
      rw [Site.leadsBy_nil_iff.1 hnext] at hlt
      exact Nat.lt_irrefl _ hlt
    rw [hnext.2]
    exact ⟨_, Text.slice_of_isPrefix hne hnext.1, hwritten⟩
  · rintro ⟨span, hslice, hwritten⟩
    obtain ⟨hrun, hstop⟩ := Text.remaining_of_slice hslice
    exact ⟨(Site.ofCursor text cursor).past span.text,
      (h _ _ _).2 ⟨span.text, ⟨hrun, rfl⟩, hwritten⟩, hstop⟩

/-- What is read at a cursor is determined. -/
theorem Recognises.unique (h : scanner.Recognises language) (hconsumes : scanner.Consumes)
    {text : Text} {start stop last : Nat} {value other : α}
    (hvalue : Grammar.Stands language text start stop value)
    (hother : Grammar.Stands language text start last other) : value = other ∧ stop = last := by
  obtain ⟨after, hafter, rfl⟩ := (h.value_iff hconsumes text ⟨start, 0, 0⟩ value stop).2 hvalue
  obtain ⟨final, hfinal, rfl⟩ := (h.value_iff hconsumes text ⟨start, 0, 0⟩ other last).2 hother
  obtain ⟨heq, rfl⟩ := Prod.mk.inj (hafter.symm.trans hfinal)
  exact ⟨Option.some.inj heq, rfl⟩

end Scanner

namespace Grammar

open Scanner

theorem recognises_element : Element.scanner.Recognises Node := by
  intro site next element
  constructor
  · exact sound_readWithin _
  · rintro ⟨written, h, hnode⟩
    exact complete_readWithin hnode (Nat.lt_succ_of_le h.1.length_le) h

theorem recognises_document : Document.scanner.Recognises Whole := by
  intro site next document
  constructor
  · intro h
    obtain ⟨prolog, middle, hprolog, h⟩ := bind_eq_some_iff.1 h
    obtain ⟨root, last, hroot, h⟩ := bind_eq_some_iff.1 h
    obtain ⟨rfl, rfl⟩ := pure_eq_some_iff.1 h
    obtain ⟨declared, hdeclared, hprolog⟩ := sound_prolog hprolog
    obtain ⟨written, hwritten, hroot⟩ := (recognises_element _ _ _).1 hroot
    exact ⟨_, hdeclared.trans hwritten, .mk hprolog hroot⟩
  · rintro ⟨written, h, hwhole⟩
    obtain @⟨prolog, root, declared, written, hprolog, hroot⟩ := hwhole
    obtain ⟨middle, hdeclared, hwritten⟩ := Site.leadsBy_append_iff.1 h
    exact bind_eq_some_iff.2 ⟨prolog, middle, complete_prolog hprolog hdeclared,
      bind_eq_some_iff.2 ⟨root, next, (recognises_element _ _ _).2 ⟨_, hwritten, hroot⟩, rfl⟩⟩

end Grammar

/-- Elements and documents are recognised exactly where the grammar has them:
reading at a cursor succeeds with a value and an end if and only if the value
is written between the cursor and that end, and no two values are. -/
theorem markup_recognised_iff_written (text : Text) (cursor : Cursor) :
    (∀ element stop,
      (∃ after, Element.scanner.value text cursor = (some element, after) ∧
        after.offset = stop) ↔ Grammar.Stands Grammar.Node text cursor.offset stop element) ∧
    (∀ document stop,
      (∃ after, Document.scanner.value text cursor = (some document, after) ∧
        after.offset = stop) ↔ Grammar.Stands Grammar.Whole text cursor.offset stop document) ∧
    (∀ element other stop last,
      Grammar.Stands Grammar.Node text cursor.offset stop element →
      Grammar.Stands Grammar.Node text cursor.offset last other →
      element = other ∧ stop = last) ∧
    (∀ document other stop last,
      Grammar.Stands Grammar.Whole text cursor.offset stop document →
      Grammar.Stands Grammar.Whole text cursor.offset last other →
      document = other ∧ stop = last) :=
  ⟨Grammar.recognises_element.value_iff Element.consumes_scanner text cursor,
    Grammar.recognises_document.value_iff Document.consumes_scanner text cursor,
    fun _ _ _ _ => Grammar.recognises_element.unique Element.consumes_scanner,
    fun _ _ _ _ => Grammar.recognises_document.unique Document.consumes_scanner⟩

/-- An element after other text; of the two values of its key the last one counts. -/
theorem nested_element_written :
    Grammar.Stands Grammar.Node "é<a k=\"1\"k=\"2\" ><b/> </a >".toList 2 27
        (.node ['a'] (.ofList [(['k'], ['2'])]) [.node ['b'] .empty []]) ∧
      ∀ other last, Grammar.Stands Grammar.Node
          "é<a k=\"1\"k=\"2\" ><b/> </a >".toList 2 last other →
        other = .node ['a'] (.ofList [(['k'], ['2'])]) [.node ['b'] .empty []] ∧ last = 27 := by
  obtain ⟨hiff, -, hunique, -⟩ :=
    markup_recognised_iff_written "é<a k=\"1\"k=\"2\" ><b/> </a >".toList ⟨2, 1, 1⟩
  have hread : Element.scanner.value "é<a k=\"1\"k=\"2\" ><b/> </a >".toList ⟨2, 1, 1⟩ =
      (some (.node ['a'] (.ofList [(['k'], ['2'])]) [.node ['b'] .empty []]), ⟨27, 26, 25⟩) := by
    decide +kernel
  have hstands := (hiff _ _).1 ⟨_, hread, rfl⟩
  exact ⟨hstands, fun other last hother => hunique _ _ _ _ hother hstands⟩

end TextScan
