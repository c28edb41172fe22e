import Mathlib.Data.List.Induction
import Mathlib.Data.List.Perm.Basic
import TextScan.Dictionary

/-!
# Dictionaries and the pairs they are made of

A dictionary is determined by what stands under its names.  Of the pairs that
it is made of, the last one for a name counts; where no name comes twice, all
of them count and their order does not matter.
-/

namespace TextScan.Dictionary

variable {α : Type}

/-- Dictionaries with the same values under all names are equal. -/
theorem ext_get? {left right : Dictionary α} (h : ∀ name, left.get? name = right.get? name) :
    left = right := by
  have hmem : ∀ entry, entry ∈ left.entries ↔ entry ∈ right.entries := by
    rintro ⟨name, value⟩
    rw [mem_entries_iff, mem_entries_iff, h name]
  have hnodup : ∀ dictionary : Dictionary α, dictionary.entries.Nodup := by
    intro dictionary
    exact dictionary.distinct.imp fun hne heq => hne (congrArg Prod.fst heq)
  have hperm := (List.perm_ext_iff_of_nodup (hnodup left) (hnodup right)).2 hmem
  have hentries : left.entries = right.entries := by
    refine hperm.eq_of_pairwise ?_ left.ordered right.ordered
    intro first second _ _ hlt hgt
    exact absurd hgt (List.lt_asymm hlt)
  cases left
  cases right
  simp_all

/-- Under each name the last pair counts. -/
theorem get?_ofList (pairs : List (Text × α)) (name : Text) :
    (ofList pairs).get? name = pairs.reverse.lookup name := by
  induction pairs using List.reverseRecOn with
  | nil => rfl
  | append_singleton pairs pair ih =>
      have hinsert : ofList (pairs ++ [pair]) = (ofList pairs).insert pair.1 pair.2 := by
        simp [ofList]
      have hreverse : (pairs ++ [pair]).reverse = pair :: pairs.reverse := by
        simp
      rw [hinsert, hreverse, get?_insert, ih, List.lookup_cons]
      by_cases hname : name = pair.1
      · simp [hname]
      · simp [hname, beq_false_of_ne hname]

section Distinct

variable {pairs : List (Text × α)}

/-- Where no name comes twice, every pair counts. -/
theorem get?_ofList_eq_some_iff (hdistinct : pairs.Pairwise fun left right => left.1 ≠ right.1)
    {name : Text} {value : α} :
    (ofList pairs).get? name = some value ↔ (name, value) ∈ pairs := by
  have hreverse : pairs.reverse.Pairwise fun left right => left.1 ≠ right.1 :=
    List.pairwise_reverse.2 (hdistinct.imp Ne.symm)
  rw [get?_ofList, ← mem_iff_lookup hreverse, List.mem_reverse]

theorem get?_ofList_eq_none (hdistinct : pairs.Pairwise fun left right => left.1 ≠ right.1)
    {name : Text} (hname : ∀ pair ∈ pairs, pair.1 ≠ name) : (ofList pairs).get? name = none := by
  cases hvalue : (ofList pairs).get? name with
  | none => rfl
  | some value =>
      exact absurd rfl (hname (name, value) ((get?_ofList_eq_some_iff hdistinct).1 hvalue))

/-- The entries of a dictionary, in whatever order, make up the dictionary. -/
theorem ofList_of_perm {dictionary : Dictionary α} (h : pairs.Perm dictionary.entries) :
    ofList pairs = dictionary := by
  have hdistinct : pairs.Pairwise fun left right => left.1 ≠ right.1 :=
    (h.pairwise_iff fun hne => Ne.symm hne).2 dictionary.distinct
  apply ext_get?
  intro name
  ext value
  rw [get?_ofList_eq_some_iff hdistinct, h.mem_iff, mem_entries_iff]

end Distinct

end TextScan.Dictionary
