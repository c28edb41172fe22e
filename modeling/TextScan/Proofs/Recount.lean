import TextScan.Proofs.Progress

/-!
# The count of characters does not matter

A site counts the characters before it, but no scanner looks at the count: it
is only carried along.  Counting from another beginning therefore changes
nothing but the count, whether the scanner succeeds or fails and whether or not
the count wraps around.
-/

namespace TextScan

namespace Site

/-- The same place with more characters counted before it. -/
def recount (site : Site) (more : UInt64) : Site :=
  { site with index := site.index + more }

@[simp]
theorem rest_recount (site : Site) (more : UInt64) : (site.recount more).rest = site.rest :=
  rfl

/-- Both ways the index is a sum of the same three numbers, in 64 bits as in
any. -/
theorem past_recount (site : Site) (more : UInt64) (run : Text) :
    (site.recount more).past run = (site.past run).recount more := by
  simp only [recount, past, UInt64.add_assoc, UInt64.add_comm more]

end Site

namespace Scanner

variable {α β : Type}

/-- The scanner reads the same however many characters are counted before it. -/
def IgnoresIndex (scanner : Scanner α) : Prop :=
  ∀ (site : Site) (more : UInt64),
    scanner (site.recount more) =
      (scanner site).map fun result => (result.1, result.2.recount more)

section Use

variable {scanner : Scanner α} {site next : Site} {value : α}

theorem IgnoresIndex.of_none (h : scanner.IgnoresIndex) (hread : scanner site = none)
    (more : UInt64) : scanner (site.recount more) = none := by
  rw [h, hread]
  rfl

theorem IgnoresIndex.of_some (h : scanner.IgnoresIndex)
    (hread : scanner site = some (value, next)) (more : UInt64) :
    scanner (site.recount more) = some (value, next.recount more) := by
  rw [h, hread]
  rfl

/-- At one offset in front of the same text the scanner fails with every index or
with none. -/
theorem IgnoresIndex.eq_none_iff (h : scanner.IgnoresIndex) {left right : Site}
    (hoffset : left.offset = right.offset) (hrest : left.rest = right.rest) :
    scanner left = none ↔ scanner right = none := by
  have hzero : ∀ site : Site, scanner site = none ↔ scanner ⟨site.offset, 0, site.rest⟩ = none := by
    intro site
    have hsite : site = Site.recount ⟨site.offset, 0, site.rest⟩ site.index := by
      simp [Site.recount]
    have hread := h ⟨site.offset, 0, site.rest⟩ site.index
    rw [← hsite] at hread
    rw [hread, Option.map_eq_none_iff]
  rw [hzero left, hzero right, hoffset, hrest]

end Use

/-! ### Sequence, choice and option -/

theorem ignoresIndex_pure (found : α) : IgnoresIndex (pure found) :=
  fun _ _ => rfl

/-- The second scanner starts at a site that differs in its index only, and so
it reads the same. -/
theorem IgnoresIndex.bind {first : Scanner α} {second : α → Scanner β}
    (hfirst : first.IgnoresIndex) (hsecond : ∀ found, (second found).IgnoresIndex) :
    (first >>= second).IgnoresIndex := by
  intro site more
  cases hread : first site with
  | none =>
      rw [bind_of_none second (hfirst.of_none hread more), bind_of_none second hread]
      rfl
  | some result =>
      rw [bind_of_some second (hfirst.of_some hread more), bind_of_some second hread]
      exact hsecond result.1 result.2 more

theorem IgnoresIndex.either {first second : Scanner α} (hfirst : first.IgnoresIndex)
    (hsecond : second.IgnoresIndex) : (Scanner.either first second).IgnoresIndex := by
  intro site more
  cases hread : first site with
  | none =>
      rw [Scanner.either, Scanner.either, hfirst.of_none hread, hread]
      exact hsecond site more
  | some result =>
      rw [Scanner.either, Scanner.either, hfirst.of_some hread, hread]
      rfl

/-! ### Primitive scanners -/

/-- A span holds the offset at which it starts, not the index. -/
theorem ignoresIndex_advance (run : Text) : IgnoresIndex (advance run) := by
  intro site more
  rw [advance, advance, Site.past_recount]
  split
  · rfl
  · rfl

theorem ignoresIndex_one (probe : Probe) : IgnoresIndex (one probe) := by
  intro site more
  rw [one, one, Site.rest_recount]
  split
  · rfl
  · split
    · exact ignoresIndex_advance _ site more
    · rfl

theorem ignoresIndex_run (probe : Probe) : IgnoresIndex (run probe) :=
  fun site more => ignoresIndex_advance (probe.run site.rest) site more

theorem ignoresIndex_stretch (probe : Probe) : IgnoresIndex (stretch probe) := by
  intro site more
  rw [stretch, stretch, Site.rest_recount, Site.past_recount]
  rfl

theorem ignoresIndex_word (mode : CaseMode) (spelling : Text) :
    IgnoresIndex (word mode spelling) := by
  intro site more
  rw [word, word, Site.rest_recount]
  split
  · rfl
  · exact ignoresIndex_advance _ site more

end Scanner

end TextScan
