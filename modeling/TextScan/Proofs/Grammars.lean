import TextScan.Proofs.Progress
import TextScan.Rule

/-!
# Progress of the grammars

Attributes, telephone numbers, codes, labels and markup are put together from
scanners that move past runs at the front of a site, so they do too.  The
loops that carry fuel are treated by induction on it.
-/

namespace TextScan

open Scanner

namespace Attributes

/-- A key has a character at least, so a pair does; all that follows the key
only has to advance. -/
theorem consumes_pair (separator : Char) : Consumes (pair separator) :=
  (consumes_one _).bind fun _ => (advances_stretch _).bind fun _ =>
    (consumes_char _).advances.bind fun _ => (consumes_char _).advances.bind fun _ =>
      (advances_stretch _).bind fun _ => (consumes_char _).advances.bind fun _ =>
        advances_pure _

/-- The white space in front of a pair may be missing, the pair may not. -/
theorem consumes_nextPair (separator : Char) : Consumes (nextPair separator) :=
  advances_blank.bind_consumes fun _ => consumes_pair separator

/-- However many pairs are asked for, the loop ends past the last one that was
read. -/
theorem leads_pairsWithin (separator : Char) (fuel : Nat) (site : Site) :
    site.Leads (pairsWithin separator fuel site).2 := by
  induction fuel generalizing site with
  | zero => exact .refl site
  | succ fuel ih =>
      rw [pairsWithin]
      split
      · exact .refl site
      · rename_i found next hfound
        exact (consumes_nextPair separator hfound).leads.trans (ih next)

/-- Reading pairs cannot fail, and may stay where it is. -/
theorem advances_pairs (separator : Char) : Advances (pairs separator) := by
  intro site next value hread
  have hend : (pairsWithin separator site.rest.length site).2 = next :=
    congrArg Prod.snd (Option.some.inj hread)
  rw [← hend]
  exact leads_pairsWithin separator _ site

theorem advances_read (separator : Char) : Advances (read separator) := by
  intro site next value hread
  rw [read] at hread
  split at hread
  · rename_i found last hfound
    split at hread
    · contradiction
    · obtain ⟨-, rfl⟩ := Prod.mk.inj (Option.some.inj hread)
      exact advances_pairs separator hfound
  · contradiction

end Attributes

namespace Telephone

/-- The brackets alone take two characters, so what is between them may be
empty. -/
theorem consumes_inBrackets {inner : Scanner Span} (hinner : inner.Advances) :
    Consumes (inBrackets inner) :=
  (consumes_char _).bind fun _ => hinner.bind fun _ =>
    (consumes_char _).advances.bind fun _ => advances_pure _

/-- A turn takes digits or delimiters or ends the loop; none goes back. -/
theorem leads_groupsWithin (delimiters : Text) (fuel : Nat) (site : Site) :
    site.Leads (groupsWithin delimiters fuel site).2 := by
  induction fuel generalizing site with
  | zero => exact .refl site
  | succ fuel ih =>
      rw [groupsWithin]
      split
      · rename_i group next hgroup
        exact (consumes_run _ hgroup).leads.trans (ih next)
      · split
        · rename_i delimiter next hdelimiter
          exact (consumes_run _ hdelimiter).leads.trans (ih next)
        · exact .refl site

/-- The loop can only have found a group if it moved: the groups of no turns are
none. -/
theorem leadsOn_groupsWithin {delimiters : Text} {fuel : Nat} {site : Site}
    (h : (groupsWithin delimiters fuel site).1 ≠ []) :
    site.LeadsOn (groupsWithin delimiters fuel site).2 := by
  cases fuel with
  | zero => exact absurd rfl h
  | succ fuel =>
      rw [groupsWithin] at h ⊢
      split
      · rename_i group next hgroup
        exact (consumes_run _ hgroup).trans_leads (leads_groupsWithin delimiters fuel next)
      · split
        · rename_i delimiter next hdelimiter
          exact (consumes_run _ hdelimiter).trans_leads (leads_groupsWithin delimiters fuel next)
        · simp_all

theorem consumes_delimitedDigits (delimiters : Text) :
    Consumes (delimitedDigits delimiters) := by
  intro site next value hread
  rw [delimitedDigits] at hread
  split at hread
  · contradiction
  · rename_i hne
    have hend : (groupsWithin delimiters site.rest.length site).2 = next :=
      congrArg Prod.snd (Option.some.inj hread)
    rw [← hend]
    exact leadsOn_groupsWithin fun hnil => hne (List.isEmpty_iff.2 hnil)

theorem advances_delimitedDigits (delimiters : Text) :
    Advances (delimitedDigits delimiters) :=
  (consumes_delimitedDigits delimiters).advances

/-- All parts of a number but the last are optional; the progress is made by the
groups of digits at its end. -/
theorem consumes_number : Consumes number :=
  advances_blank.bind_consumes fun _ => (consumes_char _).advances.maybe.bind_consumes fun _ =>
    advances_blank.bind_consumes fun _ => (consumes_run _).advances.maybe.bind_consumes fun _ =>
      advances_blank.bind_consumes fun _ =>
        (consumes_inBrackets (consumes_run _).advances).advances.maybe.bind_consumes fun _ =>
          advances_blank.bind_consumes fun _ =>
            (consumes_char _).advances.maybe.bind_consumes fun _ =>
              advances_blank.bind_consumes fun _ =>
                (consumes_delimitedDigits _).bind fun _ => advances_pure _

theorem advances_number : Advances number :=
  consumes_number.advances

/-- The label is never empty. -/
theorem consumes_labelledNumber : Consumes labelledNumber :=
  advances_blank.bind_consumes fun _ => (consumes_anyWord _ _).bind fun _ =>
    advances_blank.bind fun _ => (consumes_char _).advances.maybe.bind fun _ =>
      advances_blank.bind fun _ => advances_number

theorem advances_labelledNumber : Advances labelledNumber :=
  consumes_labelledNumber.advances

end Telephone

namespace PostCode

/-- A run is refused for its length only after it was read. -/
theorem consumes_half : Consumes half := by
  intro site next value hread
  rw [half] at hread
  split at hread
  · contradiction
  · rename_i found last hfound
    split at hread
    · obtain ⟨-, rfl⟩ := Prod.mk.inj (Option.some.inj hread)
      exact consumes_run _ hfound
    · contradiction

theorem consumes_postal : Consumes postal :=
  consumes_half.bind fun _ => advances_blank.bind fun _ =>
    consumes_half.advances.bind fun _ => advances_pure _

theorem advances_postal : Advances postal :=
  consumes_postal.advances

end PostCode

namespace Routing

/-- The label makes the progress; what divides it from the name is optional. -/
theorem consumes_attention : Consumes attention :=
  (consumes_anyWord _ _).bind fun _ =>
    ((consumes_char _).advances.either consumes_space.advances).maybe.bind fun _ =>
      advances_pure _

theorem advances_attention : Advances attention :=
  consumes_attention.advances

theorem consumes_careOf : Consumes careOf :=
  advances_blank.bind_consumes fun _ => consumes_anyWord _ _

theorem advances_careOf : Advances careOf :=
  consumes_careOf.advances

end Routing

namespace Tag

/-- The angle bracket makes the progress, and the name of a tag is never empty.
-/
theorem consumes_openingHead : Consumes openingHead :=
  advances_blank.bind_consumes fun _ => (consumes_char _).bind fun _ =>
    (consumes_run _).advances.bind fun _ => (Attributes.advances_pairs _).bind fun _ =>
      advances_pure _

/-- The end of the tag comes after its head, which already moved on. -/
theorem consumes_opening : Consumes opening :=
  consumes_openingHead.bind fun _ =>
    Advances.bind (advances_blank.bind fun _ => (consumes_char _).advances.maybe.bind fun _ =>
      (consumes_char _).advances.bind fun _ => advances_pure _) fun _ => advances_pure _

/-- The bracket and the slash make the progress. -/
theorem consumes_closing : Consumes closing :=
  advances_blank.bind_consumes fun _ => (consumes_word _ _).bind fun _ =>
    (consumes_run _).advances.bind fun _ => advances_blank.bind fun _ =>
      (consumes_char _).advances.bind fun _ => advances_pure _

theorem consumes_prolog : Consumes prolog :=
  Consumes.bind ((consumes_word _ _).bind fun _ => Attributes.advances_pairs _) fun _ =>
    advances_blank.bind fun _ => (consumes_word _ _).advances.bind fun _ => advances_pure _

end Tag

namespace Element

/-- The loop ends at a closing tag, and so it moved on, even where an element
has no children.  That children move on is what the elements one level deeper
are known for. -/
theorem leads_contentWithin {child : Site → Reading Element}
    (hchild : ∀ site element next, (child site).result = some (element, next) →
      site.LeadsOn next) (name : Text) (fuel : Nat) {site next : Site}
    {children : List Element}
    (hread : (contentWithin child name fuel site).result = some (children, next)) :
    site.LeadsOn next := by
  induction fuel generalizing site children with
  | zero => contradiction
  | succ fuel ih =>
      rw [contentWithin] at hread
      split at hread
      · rename_i close last hclose
        split at hread
        · obtain ⟨-, rfl⟩ := Prod.mk.inj (Option.some.inj hread)
          exact Tag.consumes_closing hclose
        · contradiction
      · dsimp only at hread
        split at hread
        · contradiction
        · rename_i element middle helement
          obtain ⟨⟨others, last⟩, hothers, hend⟩ := Option.map_eq_some_iff.1 hread
          obtain ⟨-, rfl⟩ := Prod.mk.inj hend
          exact (hchild site element middle helement).trans_leads (ih hothers).leads

/-- An element moved on with its opening tag, whatever is nested in it. -/
theorem leads_readWithin (fuel : Nat) {site next : Site} {element : Element}
    (hread : (readWithin fuel site).result = some (element, next)) : site.LeadsOn next := by
  induction fuel generalizing site next element with
  | zero => contradiction
  | succ fuel ih =>
      rw [readWithin] at hread
      dsimp only at hread
      split at hread
      · contradiction
      · rename_i opening middle hopening
        have hmiddle := Tag.consumes_opening hopening
        split at hread
        · obtain ⟨-, rfl⟩ := Prod.mk.inj (Option.some.inj hread)
          exact hmiddle
        · obtain ⟨⟨children, last⟩, hcontent, hend⟩ := Option.map_eq_some_iff.1 hread
          obtain ⟨-, rfl⟩ := Prod.mk.inj hend
          exact hmiddle.trans_leads
            (leads_contentWithin (fun _ _ _ hchild => ih hchild) _ _ hcontent).leads

theorem consumes_scanner : Consumes scanner :=
  fun _ _ _ hread => leads_readWithin _ hread

end Element

namespace Document

theorem consumes_scanner : Consumes scanner :=
  Tag.consumes_prolog.bind fun _ => Element.consumes_scanner.advances.bind fun _ =>
    advances_pure _

end Document

end TextScan
