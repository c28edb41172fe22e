import Mathlib.Data.List.Basic
import Mathlib.Data.List.Induction
import TextScan.Session

/-!
# What a guard remembers

A guard holds one word of marks and one offset for all rules together.  What
it answers can be said without them, by looking back over the steps of a
session: a rule is marked if it was entered and nothing since then made the
guard forget, and it is entered again if that was at the same offset.  A guard
forgets when a rule, be it the same or another, is entered at another offset,
when the cursor moves on with the guard, and when it is reset.

The cursor can be put anywhere between two steps, so the entries may be at any
places in any order.
-/

namespace TextScan

/-- The rule is marked, as entered at the offset. -/
def Guard.Marked (guard : Guard) (mark : Mark) (offset : Nat) : Prop :=
  guard.contains mark = true ∧ guard.offset = offset

@[simp]
theorem Mark.ofNat?_val (mark : Mark) : Mark.ofNat? mark.val = some mark := by
  simp [Mark.ofNat?]

def Step.concernsGuard : Step → Bool
  | .enter _ | .moveAfresh _ | .resetGuard | .freshGuard | .term => true
  | _ => false

namespace Session

def after (session : Session) (steps : List Step) : Session :=
  (session.run steps).getLast?.elim session Prod.snd

@[simp]
theorem after_nil (session : Session) : session.after [] = session :=
  rfl

theorem after_cons (session : Session) (step : Step) (steps : List Step) :
    session.after (step :: steps) = (session.step step).2.after steps := by
  rw [after, after, run, List.getLast?_cons]
  cases ((session.step step).2.run steps).getLast? with
  | none => rfl
  | some last => rfl

@[simp]
theorem after_concat (session : Session) (steps : List Step) (step : Step) :
    session.after (steps ++ [step]) = ((session.after steps).step step).2 := by
  induction steps generalizing session with
  | nil => rfl
  | cons first steps ih => rw [List.cons_append, after_cons, after_cons, ih]

/-- All other steps leave the guard alone. -/
theorem guard_step {step : Step} (hstep : step.concernsGuard = false) (session : Session) :
    (session.step step).2.guard = session.guard := by
  cases step with
  | enter _ | moveAfresh _ | resetGuard | freshGuard | term => contradiction
  | moveTo _ | takeTo _ | takeOver _ | isMarked _ | markNumber _ =>
      rw [step]
      split
      · rfl
      · rfl
  | _ => rfl

/-! ### Looking back -/

/-- The step makes the guard forget the rules that were entered at the offset. -/
def Forgets (session : Session) (offset : Nat) : Step → Prop
  | .enter number => number < 64 ∧ session.cursor.offset ≠ offset
  | .moveAfresh slot => (session.step (.moveAfresh slot)).1 = .flag true
  | .resetGuard => True
  | .freshGuard => True
  | _ => False

/-- Only a step that may change the guard forgets. -/
theorem not_forgets {step : Step} (hstep : step.concernsGuard = false) (session : Session)
    (offset : Nat) : ¬ session.Forgets offset step := by
  cases step with
  | enter _ | moveAfresh _ | resetGuard | freshGuard | term => contradiction
  | _ => exact not_false

/-- Among the steps the rule was entered at the offset, and no step after that
entry forgets it. -/
def Remembers (session : Session) (steps : List Step) (mark : Mark) (offset : Nat) : Prop :=
  ∃ earlier later, steps = earlier ++ .enter mark :: later ∧
    (session.after earlier).cursor.offset = offset ∧
    ∀ between step rest, later = between ++ step :: rest →
      ¬ (session.after (earlier ++ .enter mark :: between)).Forgets offset step

section Steps

variable {session : Session} {steps : List Step} {step : Step} {mark : Mark} {offset : Nat}

theorem not_remembers_nil : ¬ session.Remembers [] mark offset := by
  rintro ⟨earlier, later, heq, -⟩
  simp at heq

/-- What is remembered after one more step: the rule that it enters, and what was
remembered before, unless it forgets. -/
theorem remembers_concat :
    session.Remembers (steps ++ [step]) mark offset ↔
      step = .enter mark ∧ (session.after steps).cursor.offset = offset ∨
        session.Remembers steps mark offset ∧ ¬ (session.after steps).Forgets offset step := by
  constructor
  · rintro ⟨earlier, later, heq, hoffset, hquiet⟩
    rcases List.eq_nil_or_concat' later with rfl | ⟨later, last, rfl⟩
    · obtain ⟨rfl, hstep⟩ := List.append_inj' heq rfl
      exact .inl ⟨List.singleton_inj.1 hstep, hoffset⟩
    · rw [← List.cons_append, ← List.append_assoc] at heq
      obtain ⟨rfl, hstep⟩ := List.append_inj' heq rfl
      obtain rfl := List.singleton_inj.1 hstep
      refine .inr ⟨⟨earlier, later, rfl, hoffset, ?_⟩, hquiet later step [] rfl⟩
      intro between other rest hlater
      exact hquiet between other (rest ++ [step]) (by simp [hlater])
  · rintro (⟨rfl, hoffset⟩ | ⟨⟨earlier, later, rfl, hoffset, hquiet⟩, hstep⟩)
    · refine ⟨steps, [], rfl, hoffset, ?_⟩
      intro between other rest heq
      simp at heq
    · refine ⟨earlier, later ++ [step], by simp, hoffset, ?_⟩
      intro between other rest heq
      rcases List.eq_nil_or_concat' rest with rfl | ⟨rest, last, rfl⟩
      · obtain ⟨rfl, hother⟩ := List.append_inj' heq rfl
        rw [← List.singleton_inj.1 hother]
        exact hstep
      · rw [← List.cons_append, ← List.append_assoc] at heq
        exact hquiet between other rest (List.append_inj' heq rfl).1

/-! ### One step of the guard -/

theorem marked_enter {number : Nat} :
    (session.step (.enter number)).2.guard.Marked mark offset ↔
      Step.enter number = .enter mark ∧ session.cursor.offset = offset ∨
        session.guard.Marked mark offset ∧ ¬ session.Forgets offset (.enter number) := by
  rw [step]
  by_cases hnumber : number < 64
  · have hmark : Mark.ofNat? number = some ⟨number, hnumber⟩ := dif_pos hnumber
    rw [hmark]
    simp only [Guard.Marked, Guard.contains_enter, Guard.offset_enter, Forgets, Step.enter.injEq]
    grind
  · have hmark : Mark.ofNat? number = none := dif_neg hnumber
    have hne : number ≠ mark := by omega
    rw [hmark]
    simp [Forgets, hnumber, hne]

/-- A step marks the rule that it enters at the cursor, and keeps a mark unless it
forgets. -/
theorem marked_step (hterm : step ≠ .term) :
    (session.step step).2.guard.Marked mark offset ↔
      step = .enter mark ∧ session.cursor.offset = offset ∨
        session.guard.Marked mark offset ∧ ¬ session.Forgets offset step := by
  cases hstep : step.concernsGuard with
  | false =>
      have hother : step ≠ .enter mark := by
        rintro rfl
        contradiction
      simp [guard_step hstep, hother, not_forgets hstep]
  | true =>
      cases step with
      | enter number => exact marked_enter
      | moveAfresh slot =>
          rw [Forgets, step]
          split
          · simp
          · rename_i moved guard hmoved
            obtain ⟨cursor, -, hguard⟩ := Option.map_eq_some_iff.1 hmoved
            rw [← (Prod.mk.inj hguard).2]
            simp [Guard.Marked]
      | resetGuard => simp [step, Forgets, Guard.Marked]
      | freshGuard => simp [step, Forgets, Guard.Marked, Guard.fresh]
      | term => contradiction
      | _ => contradiction

/-- After any run from a fresh guard the marks are what the steps remember. -/
theorem marked_after_iff (text : Text) (cursor : Cursor) (hterm : Step.term ∉ steps) :
    ((start text cursor).after steps).guard.Marked mark offset ↔
      (start text cursor).Remembers steps mark offset := by
  induction steps using List.reverseRecOn with
  | nil =>
      refine iff_of_false ?_ not_remembers_nil
      simp [start, Guard.Marked, Guard.fresh]
  | append_singleton steps step ih =>
      rw [List.mem_append, List.mem_singleton, not_or] at hterm
      rw [after_concat, marked_step (Ne.symm hterm.2), ih hterm.1, remembers_concat]

end Steps

/-- What a guard answers after any steps, at whatever cursors they were made:
a rule is entered again if it is remembered from the same offset, it is marked
if it is remembered from some offset, and nothing is marked if no rule is.  A
move that is refused changes nothing in the session. -/
theorem guard_answers_from_history (text : Text) (cursor : Cursor) (steps : List Step)
    (hterm : Step.term ∉ steps) :
    (∀ mark : Mark, ∃ again,
      (((start text cursor).after steps).step (.enter mark)).1 = .flag again ∧
        (again = true ↔ (start text cursor).Remembers steps mark
          ((start text cursor).after steps).cursor.offset)) ∧
    (∀ mark : Mark, ∃ marked,
      (((start text cursor).after steps).step (.isMarked mark)).1 = .flag marked ∧
        (marked = true ↔ ∃ offset, (start text cursor).Remembers steps mark offset)) ∧
    (∃ empty, (((start text cursor).after steps).step .guardIsEmpty).1 = .flag empty ∧
      (empty = true ↔ ∀ mark : Mark,
        (((start text cursor).after steps).step (.isMarked mark)).1 = .flag false)) ∧
    ∀ slot, (((start text cursor).after steps).step (.moveAfresh slot)).1 = .flag false →
      (((start text cursor).after steps).step (.moveAfresh slot)).2 =
        (start text cursor).after steps := by
  simp only [← marked_after_iff text cursor hterm, Guard.Marked]
  generalize (start text cursor).after steps = session
  refine ⟨fun mark => ?_, fun mark => ?_, ?_, fun slot => ?_⟩
  · refine ⟨(session.guard.enter mark session.cursor.offset).1, ?_, ?_⟩
    · simp [step]
    · simp [Guard.enter_fst]
  · refine ⟨session.guard.contains mark, ?_, ?_⟩
    · simp [step]
    · simp
  · refine ⟨session.guard.isEmpty, rfl, ?_⟩
    simp [Guard.isEmpty_iff, step]
  · intro h
    rw [step] at h ⊢
    split at h
    · rfl
    · simp at h

/-- A move to the same place is refused, and so the rule that was entered before
it is entered again. -/
theorem entered_again_after_refused_move :
    Step.term ∉ [Step.enter 63, .save "here", .moveAfresh "here"] ∧
      (((start [] ⟨5, 5, 0⟩).after [.enter 63, .save "here", .moveAfresh "here"]).step
        (.enter 63)).1 = .flag true ∧
      (start [] ⟨5, 5, 0⟩).Remembers [.enter 63, .save "here", .moveAfresh "here"] 63 5 := by
  have hterm : Step.term ∉ [Step.enter 63, .save "here", .moveAfresh "here"] := by
    simp
  obtain ⟨again, hanswer, hiff⟩ := (guard_answers_from_history [] ⟨5, 5, 0⟩ _ hterm).1 63
  have hagain : again = true := (StepAnswer.flag.inj hanswer).symm
  exact ⟨hterm, hagain ▸ hanswer, hiff.1 hagain⟩

end Session

end TextScan
