import TextScan.Lambda.Evaluation

/-!
# Free names

A name in a term is free if no lambda around it has it as its parameter.  A
term without free names is closed.  This file says what the two kinds of
substitution do to free names, and that putting one value in the place of one
name is a special case of doing so for an environment.
-/

namespace TextScan

namespace Term

/-- The names that no lambda around them binds, as often as they occur. -/
def freeNames : Term → List Text
  | var name => [name]
  | lambda param body => body.freeNames.filter (· != param)
  | apply function argument => function.freeNames ++ argument.freeNames

def Closed (term : Term) : Prop :=
  term.freeNames = []

instance : DecidablePred Closed :=
  fun term => inferInstanceAs (Decidable (term.freeNames = []))

section Subset

variable {name param : Text} {body function argument term : Term} {scope : List Text}

@[simp]
theorem mem_freeNames_lambda :
    name ∈ (lambda param body).freeNames ↔ name ∈ body.freeNames ∧ name ≠ param := by
  simp [freeNames]

theorem freeNames_var_subset_iff : (var name).freeNames ⊆ scope ↔ name ∈ scope := by
  simp [freeNames]

/-- Under a lambda one more name is in scope. -/
theorem freeNames_lambda_subset_iff :
    (lambda param body).freeNames ⊆ scope ↔ body.freeNames ⊆ param :: scope := by
  constructor
  · intro h name hname
    by_cases hparam : name = param
    · simp [hparam]
    · exact List.mem_cons_of_mem _ (h (mem_freeNames_lambda.2 ⟨hname, hparam⟩))
  · intro h name hname
    have hfree := mem_freeNames_lambda.1 hname
    exact (List.mem_cons.1 (h hfree.1)).resolve_left hfree.2

theorem freeNames_apply_subset_iff :
    (apply function argument).freeNames ⊆ scope ↔
      function.freeNames ⊆ scope ∧ argument.freeNames ⊆ scope := by
  simp [freeNames]

theorem closed_iff : term.Closed ↔ term.freeNames ⊆ [] :=
  List.subset_nil.symm

theorem Closed.subset (h : term.Closed) (scope : List Text) : term.freeNames ⊆ scope := by
  rw [Closed] at h
  simp [h]

theorem not_closed_var : ¬ (var name).Closed := by
  simp [Closed, freeNames]

theorem closed_apply_iff :
    (apply function argument).Closed ↔ function.Closed ∧ argument.Closed := by
  simp [Closed, freeNames]

end Subset

end Term

/-! ### Environments -/

def Dictionary.names {α : Type} (dictionary : Dictionary α) : List Text :=
  dictionary.entries.map Prod.fst

theorem Dictionary.mem_names_iff {α : Type} {dictionary : Dictionary α} {name : Text} :
    name ∈ dictionary.names ↔ ∃ value, dictionary.get? name = some value := by
  simp [names, mem_entries_iff]

def Environment.Closed (environment : Environment) : Prop :=
  ∀ entry ∈ environment.entries, entry.2.Closed

instance : DecidablePred Environment.Closed :=
  fun environment =>
    inferInstanceAs (Decidable (∀ entry ∈ environment.entries, entry.2.Closed))

theorem Environment.Closed.value {environment : Environment} (h : environment.Closed)
    {name : Text} {value : Term} (hvalue : environment.get? name = some value) : value.Closed :=
  h (name, value) (Dictionary.mem_entries_iff.2 hvalue)

theorem Environment.closed_insert_empty {value : Term} (hvalue : value.Closed) (name : Text) :
    Environment.Closed (Dictionary.empty.insert name value) := by
  intro entry hentry
  have hnew : entry = (name, value) := List.mem_singleton.1 hentry
  exact hnew ▸ hvalue

namespace Term

variable {environment : Environment} {bound : List Text} {term : Term}

/-- What an environment puts in the place of a name. -/
theorem instantiate_var (environment : Environment) (bound : List Text) (name : Text) :
    (var name).instantiate environment bound =
      if name ∈ bound then var name else (environment.get? name).getD (var name) := by
  simp [instantiate]

/-- A binder in front does not matter to other names. -/
theorem instantiate_var_cons {param name : Text} (hne : name ≠ param) :
    (var name).instantiate environment (param :: bound) =
      (var name).instantiate environment bound := by
  simp [instantiate_var, hne]

/-- A name that is free after the values are put in was left alone, or a value
brought it along. -/
theorem mem_freeNames_instantiate {name : Text}
    (h : name ∈ (term.instantiate environment bound).freeNames) :
    (name ∈ term.freeNames ∧ (name ∈ bound ∨ environment.get? name = none)) ∨
      ∃ replaced value, replaced ∈ term.freeNames ∧ replaced ∉ bound ∧
        environment.get? replaced = some value ∧ name ∈ value.freeNames := by
  induction term generalizing bound with
  | var other =>
      rw [instantiate_var] at h
      split at h
      · rename_i hbound
        obtain rfl := List.mem_singleton.1 h
        exact .inl ⟨h, .inl hbound⟩
      · rename_i hbound
        cases hvalue : environment.get? other with
        | none =>
            rw [hvalue] at h
            obtain rfl := List.mem_singleton.1 h
            exact .inl ⟨h, .inr hvalue⟩
        | some value =>
            rw [hvalue] at h
            exact .inr ⟨other, value, List.mem_singleton_self other, hbound, hvalue, h⟩
  | lambda param body ih =>
      obtain ⟨hbody, hparam⟩ := mem_freeNames_lambda.1 h
      rcases ih hbody with ⟨hfree, hleft⟩ | ⟨replaced, value, hfree, hbound, hvalue, hname⟩
      · refine .inl ⟨mem_freeNames_lambda.2 ⟨hfree, hparam⟩, ?_⟩
        exact hleft.imp_left fun hmem => (List.mem_cons.1 hmem).resolve_left hparam
      · rw [List.mem_cons, not_or] at hbound
        exact .inr ⟨replaced, value, mem_freeNames_lambda.2 ⟨hfree, hbound.1⟩, hbound.2, hvalue,
          hname⟩
  | apply function argument ihfunction ihargument =>
      simp only [freeNames, List.mem_append]
      rcases List.mem_append.1 h with hpart | hpart
      · rcases ihfunction hpart with ⟨hfree, hleft⟩ | ⟨replaced, value, hfree, hvalue⟩
        · exact .inl ⟨.inl hfree, hleft⟩
        · exact .inr ⟨replaced, value, .inl hfree, hvalue⟩
      · rcases ihargument hpart with ⟨hfree, hleft⟩ | ⟨replaced, value, hfree, hvalue⟩
        · exact .inl ⟨.inr hfree, hleft⟩
        · exact .inr ⟨replaced, value, .inr hfree, hvalue⟩

/-- Closed values bring no free names along. -/
theorem freeNames_instantiate (henvironment : environment.Closed)
    (hterm : ∀ name ∈ term.freeNames, name ∈ bound ∨ name ∈ environment.names) :
    (term.instantiate environment bound).freeNames ⊆ bound := by
  intro name hname
  rcases mem_freeNames_instantiate hname with ⟨hfree, hbound | hnone⟩ | ⟨replaced, value, h⟩
  · exact hbound
  · refine (hterm name hfree).resolve_right fun hnamed => ?_
    obtain ⟨value, hvalue⟩ := Dictionary.mem_names_iff.1 hnamed
    rw [hnone] at hvalue
    contradiction
  · obtain ⟨-, -, hvalue, hmem⟩ := h
    exact (henvironment.value hvalue).subset bound hmem

/-- Where no free name has a value, nothing is put anywhere. -/
theorem instantiate_eq_self
    (h : ∀ name ∈ term.freeNames, name ∈ bound ∨ environment.get? name = none) :
    term.instantiate environment bound = term := by
  induction term generalizing bound with
  | var name =>
      rw [instantiate_var]
      rcases h name (List.mem_singleton_self name) with hbound | hnone
      · rw [if_pos hbound]
      · rw [hnone, Option.getD_none, ite_self]
  | lambda param body ih =>
      rw [instantiate, ih]
      intro name hname
      by_cases hparam : name = param
      · exact .inl (hparam ▸ List.mem_cons_self)
      · exact (h name (mem_freeNames_lambda.2 ⟨hname, hparam⟩)).imp_left (List.mem_cons_of_mem _)
  | apply function argument ihfunction ihargument =>
      rw [instantiate, ihfunction fun name hname => h name (List.mem_append_left _ hname),
        ihargument fun name hname => h name (List.mem_append_right _ hname)]

/-- Without values nothing is put anywhere. -/
theorem instantiate_empty (term : Term) (bound : List Text) :
    term.instantiate Dictionary.empty bound = term :=
  instantiate_eq_self fun _ _ => .inr rfl

/-- Where no name is free, nothing is put anywhere. -/
theorem instantiate_of_subset (environment : Environment) (h : term.freeNames ⊆ bound) :
    term.instantiate environment bound = term :=
  instantiate_eq_self fun _ hname => .inl (h hname)

/-- One value for one name, unless the name is bound. -/
theorem instantiate_insert_empty (term : Term) (name : Text) (value : Term) (bound : List Text) :
    term.instantiate (Dictionary.empty.insert name value) bound =
      if name ∈ bound then term else term.substitute name value := by
  induction term generalizing bound with
  | var other =>
      have hempty : (Dictionary.empty : Environment).get? other = none := rfl
      rw [instantiate_var, Dictionary.get?_insert, hempty, substitute]
      grind
  | lambda param body ih =>
      rw [instantiate, ih, substitute]
      grind
  | apply function argument ihfunction ihargument =>
      rw [instantiate, ihfunction, ihargument, substitute]
      grind

theorem substitute_eq_instantiate (term : Term) (name : Text) (value : Term) :
    term.substitute name value =
      term.instantiate (Dictionary.empty.insert name value) [] := by
  simp [instantiate_insert_empty]

/-- Putting a value in the place of the parameter leaves the free names of the
lambda and brings those of the value. -/
theorem mem_freeNames_substitute {name param : Text} {body value : Term}
    (h : name ∈ (body.substitute param value).freeNames) :
    name ∈ (lambda param body).freeNames ∨ name ∈ value.freeNames := by
  rw [substitute_eq_instantiate] at h
  have hget : ∀ other, (Dictionary.empty.insert param value : Environment).get? other =
      if other = param then some value else none := by
    intro other
    rw [Dictionary.get?_insert]
    rfl
  rcases mem_freeNames_instantiate h with ⟨hfree, hbound | hnone⟩ | ⟨replaced, found, hfound⟩
  · contradiction
  · refine .inl (mem_freeNames_lambda.2 ⟨hfree, fun hparam => ?_⟩)
    rw [hget, if_pos hparam] at hnone
    contradiction
  · obtain ⟨-, -, hvalue, hname⟩ := hfound
    rw [hget] at hvalue
    split at hvalue
    · rw [Option.some.inj hvalue]
      exact .inr hname
    · contradiction

/-- The body of a closed lambda is closed once a closed value stands for the
parameter. -/
theorem closed_substitute {param : Text} {body value : Term}
    (hbody : body.freeNames ⊆ [param]) (hvalue : value.Closed) :
    (body.substitute param value).Closed := by
  rw [closed_iff, substitute_eq_instantiate]
  exact freeNames_instantiate (Environment.closed_insert_empty hvalue param)
    fun name hname => .inr (hbody hname)

end Term

end TextScan
