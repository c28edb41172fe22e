import TextScan.Proofs.Dictionaries
import TextScan.Proofs.Lambda.Scope

/-!
# Substitution in one pass and one by one

An environment puts all its values into a term in one pass.  The same can be
done one binding after the other, if no value has a free name that the
environment binds: then no later step finds anything to replace in what an
earlier step put in, whether or not a lambda has caught it there.  The order of
the bindings does not matter.  For one binding alone nothing is asked of the
value, since no step comes after it.
-/

namespace TextScan

/-- No value has a free name that the environment binds. -/
def Environment.Apart (environment : Environment) : Prop :=
  ∀ entry ∈ environment.entries, ∀ name ∈ entry.2.freeNames, name ∉ environment.names

instance : DecidablePred Environment.Apart :=
  fun environment => inferInstanceAs
    (Decidable (∀ entry ∈ environment.entries, ∀ name ∈ entry.2.freeNames,
      name ∉ environment.names))

namespace Term

/-- Puts values in the place of names, one binding after the other. -/
def substituteEach (bindings : List (Text × Term)) (term : Term) : Term :=
  bindings.foldl (fun term binding => term.substitute binding.1 binding.2) term

variable {environment : Environment} {term value : Term} {name : Text}

/-- A name that is not free cannot be replaced. -/
theorem substitute_of_notMem (h : name ∉ term.freeNames) : term.substitute name value = term := by
  rw [substitute_eq_instantiate]
  apply instantiate_eq_self
  intro other hother
  have hne : other ≠ name := fun heq => h (heq ▸ hother)
  rw [Dictionary.get?_insert, if_neg hne]
  exact .inr rfl

/-- One more binding may be put in after the others, if the others do not bring
its name along.  A binder of the name stops both ways of doing so. -/
theorem substitute_instantiate (hnew : environment.get? name = none)
    (hfresh : ∀ other found, environment.get? other = some found → name ∉ found.freeNames)
    (term value : Term) (bound : List Text) :
    (if name ∈ bound then term.instantiate environment bound
      else (term.instantiate environment bound).substitute name value) =
      term.instantiate (environment.insert name value) bound := by
  induction term generalizing bound with
  | var other =>
      rw [instantiate_var, instantiate_var, Dictionary.get?_insert]
      by_cases hbound : other ∈ bound
      · have hother : name ∉ bound → other ≠ name := fun hname heq => hname (heq ▸ hbound)
        simp only [hbound, if_true, substitute]
        grind
      · cases hfound : environment.get? other with
        | none =>
            -- Only the name itself can be replaced here, and it is not bound if it stands here.
            simp only [hbound, if_false, Option.getD_none, substitute]
            grind
        | some found =>
            have hne : other ≠ name := by
              rintro rfl
              rw [hnew] at hfound
              contradiction
            have hstays : found.substitute name value = found :=
              substitute_of_notMem (hfresh other found hfound)
            simp only [hbound, if_false, Option.getD_some, hstays, ite_self, if_neg hne]
  | lambda param body ih =>
      rw [instantiate, instantiate, ← ih, substitute]
      by_cases hparam : param = name
      · simp [hparam]
      · by_cases hbound : name ∈ bound
        · simp [hbound]
        · simp [hbound, hparam, Ne.symm hparam]
  | apply function argument ihfunction ihargument =>
      rw [instantiate, instantiate, ← ihfunction, ← ihargument, substitute]
      by_cases hbound : name ∈ bound
      · simp [hbound]
      · simp [hbound]

theorem substitute_substituteAll (hnew : environment.get? name = none)
    (hfresh : ∀ other found, environment.get? other = some found → name ∉ found.freeNames) :
    (term.substituteAll environment).substitute name value =
      term.substituteAll (environment.insert name value) := by
  have h := substitute_instantiate hnew hfresh term value []
  rwa [if_neg List.not_mem_nil] at h

/-- The steps so far are a pass over the bindings so far. -/
theorem substituteEach_eq_substituteAll {bindings : List (Text × Term)}
    (hdistinct : bindings.Pairwise fun left right => left.1 ≠ right.1)
    (hapart : ∀ binding ∈ bindings, ∀ other ∈ bindings, other.1 ∉ binding.2.freeNames)
    (term : Term) : term.substituteEach bindings = term.substituteAll (.ofList bindings) := by
  induction bindings using List.reverseRecOn with
  | nil => exact (instantiate_empty term []).symm
  | append_singleton bindings last ih =>
      obtain ⟨hearlier, -, hlast⟩ := List.pairwise_append.1 hdistinct
      have hmem : ∀ binding ∈ bindings, binding ∈ bindings ++ [last] :=
        fun _ => List.mem_append_left [last]
      have hnew : (Dictionary.ofList bindings).get? last.1 = none :=
        Dictionary.get?_ofList_eq_none hearlier fun binding hbinding =>
          hlast binding hbinding last (List.mem_singleton_self last)
      have hfresh : ∀ other found, (Dictionary.ofList bindings).get? other = some found →
          last.1 ∉ found.freeNames := by
        intro other found hfound
        have hbinding := (Dictionary.get?_ofList_eq_some_iff hearlier).1 hfound
        exact hapart _ (hmem _ hbinding) last
          (List.mem_append_right _ (List.mem_singleton_self last))
      calc term.substituteEach (bindings ++ [last])
          = (term.substituteEach bindings).substitute last.1 last.2 := by
            simp [substituteEach]
        _ = (term.substituteAll (.ofList bindings)).substitute last.1 last.2 := by
            rw [ih hearlier fun binding hbinding other hother =>
              hapart binding (hmem _ hbinding) other (hmem _ hother)]
        _ = term.substituteAll ((Dictionary.ofList bindings).insert last.1 last.2) :=
            substitute_substituteAll hnew hfresh
        _ = term.substituteAll (.ofList (bindings ++ [last])) := by
            simp [Dictionary.ofList]

/-- Where no value has a free name that the environment binds, putting its
values in one by one, in any order, gives what it gives in one pass.  One
binding alone is put in the same way by both, whatever its value. -/
theorem one_pass_equals_any_order :
    (∀ (environment : Environment) (term : Term), environment.Apart →
      ∀ bindings, bindings.Perm environment.entries →
        term.substituteEach bindings = term.substituteAll environment) ∧
    ∀ (term : Term) (name : Text) (value : Term),
      term.substituteAll (Dictionary.empty.insert name value) = term.substitute name value := by
  constructor
  · intro environment term hapart bindings hperm
    have hdistinct : bindings.Pairwise fun left right => left.1 ≠ right.1 :=
      (hperm.pairwise_iff fun hne => Ne.symm hne).2 environment.distinct
    rw [substituteEach_eq_substituteAll hdistinct ?_ term, Dictionary.ofList_of_perm hperm]
    intro binding hbinding other hother hname
    exact hapart binding (hperm.subset hbinding) other.1 hname
      (List.mem_map_of_mem (hperm.subset hother))
  · intro term name value
    exact (substitute_eq_instantiate term name value).symm

/-- The name that a lambda catches is caught in any order, and a value that
mentions the name it stands for is put in once. -/
theorem caught_name_in_any_order :
    (Environment.Apart (.ofList [(['x'], var ['z']), (['y'], var ['w'])]) ∧
      substituteEach [(['y'], var ['w']), (['x'], var ['z'])]
          (apply (lambda ['z'] (var ['x'])) (lambda ['x'] (apply (var ['x']) (var ['y'])))) =
        apply (lambda ['z'] (var ['z'])) (lambda ['x'] (apply (var ['x']) (var ['w']))) ∧
      substituteEach [(['y'], var ['w']), (['x'], var ['z'])]
          (apply (lambda ['z'] (var ['x'])) (lambda ['x'] (apply (var ['x']) (var ['y'])))) =
        substituteAll (.ofList [(['x'], var ['z']), (['y'], var ['w'])])
          (apply (lambda ['z'] (var ['x'])) (lambda ['x'] (apply (var ['x']) (var ['y']))))) ∧
    substituteAll (Dictionary.empty.insert ['x'] (apply (var ['x']) (var ['x']))) (var ['x']) =
      substitute (var ['x']) ['x'] (apply (var ['x']) (var ['x'])) := by
  have hapart : Environment.Apart (.ofList [(['x'], var ['z']), (['y'], var ['w'])]) := by
    decide
  exact ⟨⟨hapart, rfl, one_pass_equals_any_order.1 _ _ hapart _ (List.Perm.swap _ _ _)⟩,
    one_pass_equals_any_order.2 _ _ _⟩

end Term

end TextScan
