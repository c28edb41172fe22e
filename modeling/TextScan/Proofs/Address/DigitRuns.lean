import TextScan.Proofs.Address.Remainders
import TextScan.Proofs.Runs

/-!
# The digits of a telephone number

The groups of a telephone number come from three places: from the country code,
from complete brackets and from the loop over the digits at the end.  They are
the runs of digits in all that was read: each part ends where no digit goes on,
so no run is split or lost between two of them.  The loop alone gives the runs
of digits in delimited digits, as long as no delimiter is a digit.
-/

namespace TextScan.Telephone

variable {site next : Site} {found : Span} {groups : List Span}

open Scanner

theorem inBrackets_eq_some {inner : Scanner Span}
    (h : inBrackets inner site = some (found, next)) :
    ∃ opened closed, site.LeadsBy ['('] opened ∧ inner opened = some (found, closed) ∧
      closed.LeadsBy [')'] next := by
  obtain ⟨opened, hopened, h⟩ := char_bind_iff.1 h
  obtain ⟨read, closed, hread, h⟩ := bind_eq_some_iff.1 h
  obtain ⟨last, hclosed, h⟩ := char_bind_iff.1 h
  obtain ⟨rfl, rfl⟩ := pure_eq_some_iff.1 h
  exact ⟨opened, closed, hopened, hread, hclosed⟩

theorem passes_blank (h : blank site = some (found, next)) :
    site.Passes next isDigit [] := by
  obtain ⟨gap, hgap, hlead, -⟩ := stretch_iff.1 h
  exact Site.passes_nil hlead fun c hc => isDigit_of_isWhiteSpace (hgap c hc)

theorem passes_digitsInBrackets (h : digitsInBrackets site = some (found, next)) :
    site.Passes next isDigit [found] := by
  obtain ⟨opened, closed, hopened, hdigits, hclosed⟩ := inBrackets_eq_some h
  have hopen : site.Passes opened isDigit [] :=
    Site.passes_nil hopened fun _ hmem => List.mem_singleton.1 hmem ▸ by decide
  have hclose : closed.Passes next isDigit [] :=
    Site.passes_nil hclosed fun _ hmem => List.mem_singleton.1 hmem ▸ by decide
  exact hopen.trans ((Site.passes_run hdigits).trans hclose)

/-- A group that may be missing. -/
theorem passes_maybe {part : Scanner Span} {value : Option Span}
    (hpart : ∀ {found}, part site = some (found, next) → site.Passes next isDigit [found])
    (h : maybe part site = some (value, next)) :
    site.Passes next isDigit value.toList := by
  rcases maybe_iff.1 h with ⟨found, rfl, hread⟩ | ⟨rfl, rfl, -⟩
  · exact hpart hread
  · exact Site.passes_refl _ _

theorem passes_maybe_char {c : Char} {value : Option Span} (hc : isDigit c = false)
    (h : maybe (.char c) site = some (value, next)) : site.Passes next isDigit [] := by
  rcases maybe_iff.1 h with ⟨found, -, hread⟩ | ⟨-, rfl, -⟩
  · exact Site.passes_nil (char_iff.1 hread).1 fun _ hmem =>
      List.mem_singleton.1 hmem ▸ hc
  · exact Site.passes_refl _ _

/-- The loop passes the runs of digits one after the other.  Where it ends for
want of fuel it has not begun another. -/
theorem passes_groupsWithin {delimiters : Text} (hfree : ∀ c ∈ delimiters, isDigit c = false)
    (fuel : Nat) (site : Site) :
    site.Passes (groupsWithin delimiters fuel site).2 isDigit
      (groupsWithin delimiters fuel site).1 := by
  induction fuel generalizing site with
  | zero => exact Site.passes_refl _ _
  | succ fuel ih =>
      rw [groupsWithin]
      split
      · rename_i group middle hread
        exact (Site.passes_run hread).trans (ih middle)
      · split
        · rename_i delimiter middle hread
          obtain ⟨written, -, hset, hlead, -⟩ := run_iff.1 hread
          have hnone : site.Passes middle isDigit [] := Site.passes_nil hlead fun c hc =>
            hfree c (Probe.among_iff.1 (hset c hc))
          exact hnone.trans (ih middle)
        · exact Site.passes_refl _ _

/-- Delimited digits are what the loop finds, unless it finds no group. -/
theorem delimitedDigits_eq_some {delimiters : Text}
    (h : delimitedDigits delimiters site = some (groups, next)) :
    groups ≠ [] ∧ groupsWithin delimiters site.rest.length site = (groups, next) := by
  rw [delimitedDigits] at h
  split at h
  · contradiction
  · rename_i hne
    rw [Option.some.inj h] at hne
    exact ⟨fun hnil => hne (List.isEmpty_iff.2 hnil), Option.some.inj h⟩

theorem passes_delimitedDigits {delimiters : Text}
    (hfree : ∀ c ∈ delimiters, isDigit c = false)
    (h : delimitedDigits delimiters site = some (groups, next)) :
    groups ≠ [] ∧ site.Passes next isDigit groups := by
  obtain ⟨hne, hfound⟩ := delimitedDigits_eq_some h
  have hpasses := passes_groupsWithin hfree site.rest.length site
  rw [hfound] at hpasses
  exact ⟨hne, hpasses⟩

/-- A number returns the runs of digits that it passes, and there are some. -/
theorem passes_number (h : number site = some (groups, next)) :
    groups ≠ [] ∧ site.Passes next isDigit groups := by
  obtain ⟨_, plus, hplus, h⟩ := bind_eq_some_iff.1 h
  obtain ⟨sign, gap, hgap, h⟩ := bind_eq_some_iff.1 h
  obtain ⟨_, start, hstart, h⟩ := bind_eq_some_iff.1 h
  obtain ⟨country, countryEnd, hcountry, h⟩ := bind_eq_some_iff.1 h
  obtain ⟨_, bracket, hbracket, h⟩ := bind_eq_some_iff.1 h
  obtain ⟨area, areaEnd, harea, h⟩ := bind_eq_some_iff.1 h
  obtain ⟨_, slash, hslash, h⟩ := bind_eq_some_iff.1 h
  obtain ⟨divider, slashEnd, hslashEnd, h⟩ := bind_eq_some_iff.1 h
  obtain ⟨_, body, hbody, h⟩ := bind_eq_some_iff.1 h
  obtain ⟨others, last, hothers, h⟩ := bind_eq_some_iff.1 h
  obtain ⟨rfl, rfl⟩ := pure_eq_some_iff.1 h
  obtain ⟨hne, hgroups⟩ := passes_delimitedDigits (fun _ => isDigit_of_mem_delimiters) hothers
  have hlead : site.Passes countryEnd isDigit country.toList := by
    have hsign := (passes_blank hplus).trans (passes_maybe_char (by decide) hgap)
    exact (hsign.trans (passes_blank hstart)).trans (passes_maybe Site.passes_run hcountry)
  have hcode : countryEnd.Passes areaEnd isDigit area.toList :=
    (passes_blank hbracket).trans (passes_maybe passes_digitsInBrackets harea)
  have hdivider : areaEnd.Passes body isDigit [] :=
    ((passes_blank hslash).trans (passes_maybe_char (by decide) hslashEnd)).trans
      (passes_blank hbody)
  exact ⟨by simp [hne], (hlead.trans hcode).trans (hdivider.trans hgroups)⟩

end TextScan.Telephone
