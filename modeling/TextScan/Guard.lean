import TextScan.Cursor

/-!
# Guards against left recursion

A rule whose first part is the rule itself would be entered at the same place for ever.  A guard
marks the rules that were entered at the current offset: entering a marked rule again means that no
progress was made.  The marks belong to one offset at a time and are forgotten when a rule is
entered elsewhere or when a cursor moves on.
-/

namespace TextScan

/-- The number under which a rule is marked. -/
abbrev Mark := Fin 64

namespace Mark

def ofNat? (number : Nat) : Option Mark :=
  if h : number < 64 then some ⟨number, h⟩ else none

/-- What is said of a number that is too large for a mark. -/
def outOfRange : String :=
  "rule id out of range"

end Mark

/-- The marked rules and the offset at which they were entered. -/
structure Guard where
  marks : BitVec 64
  offset : Nat
  deriving DecidableEq

namespace Guard

/-- Nothing is marked at the offset. -/
def clear (offset : Nat) : Guard :=
  ⟨0, offset⟩

/-- Nothing is marked at the beginning of the text. -/
def fresh : Guard :=
  clear 0

def contains (guard : Guard) (mark : Mark) : Bool :=
  guard.marks.getLsbD mark

/-- Marks the rule as entered at an offset.  Says whether it was marked there before.  Marks of
another offset are forgotten. -/
def enter (guard : Guard) (mark : Mark) (offset : Nat) : Bool × Guard :=
  let here := if offset = guard.offset then guard else clear offset
  (here.contains mark, { here with marks := here.marks ||| BitVec.twoPow 64 mark })

/-- Once entered, a rule is marked; another rule is marked if it was marked at that offset. -/
theorem contains_enter (guard : Guard) (mark other : Mark) (offset : Nat) :
    (guard.enter mark offset).2.contains other =
      (decide (other = mark) || (decide (offset = guard.offset) && guard.contains other)) := by
  have hother := other.isLt
  by_cases h : offset = guard.offset
  · simp [enter, contains, h, Fin.ext_iff, Bool.or_comm]
  · simp [enter, contains, h, clear, Fin.ext_iff]

@[simp]
theorem contains_clear (offset : Nat) (mark : Mark) : (clear offset).contains mark = false := by
  simp [clear, contains]

@[simp]
theorem offset_enter (guard : Guard) (mark : Mark) (offset : Nat) :
    (guard.enter mark offset).2.offset = offset := by
  rw [enter]
  split
  · rename_i h
    exact h.symm
  · rfl

/-- A rule is entered again if it was marked at this offset. -/
theorem enter_fst (guard : Guard) (mark : Mark) (offset : Nat) :
    (guard.enter mark offset).1 = (guard.contains mark && guard.offset == offset) := by
  rw [enter]
  by_cases h : offset = guard.offset
  · simp [h]
  · have hne : (guard.offset == offset) = false := by simpa using Ne.symm h
    simp [h, hne]

/-- Entering at once again finds the mark and changes nothing. -/
theorem enter_enter (guard : Guard) (mark : Mark) (offset : Nat) :
    (guard.enter mark offset).2.enter mark offset = (true, (guard.enter mark offset).2) := by
  have hcontains : (guard.enter mark offset).2.contains mark = true := by
    rw [contains_enter]
    simp
  have hmarks : (guard.enter mark offset).2.marks ||| BitVec.twoPow 64 mark =
      (guard.enter mark offset).2.marks := by
    rw [enter, BitVec.or_assoc, BitVec.or_self]
  have hoffset : offset = (guard.enter mark offset).2.offset := (offset_enter ..).symm
  rw [enter, if_pos hoffset, hcontains, hmarks]

/-- Forgets all marks without leaving the offset. -/
def reset (guard : Guard) : Guard :=
  { guard with marks := 0 }

def isEmpty (guard : Guard) : Bool :=
  guard.marks == 0

@[simp]
theorem contains_reset (guard : Guard) (mark : Mark) : guard.reset.contains mark = false := by
  simp [reset, contains]

/-- Nothing is marked if no rule is; the bits of the word are those of the rules. -/
theorem isEmpty_iff (guard : Guard) :
    guard.isEmpty = true ↔ ∀ mark, guard.contains mark = false := by
  rw [isEmpty, beq_iff_eq]
  constructor
  · intro h mark
    simp [contains, h]
  · intro h
    refine BitVec.eq_of_getLsbD_eq fun number hnumber => ?_
    exact (h ⟨number, hnumber⟩).trans BitVec.getLsbD_zero.symm

/-- The marked rules in ascending order. -/
def toList (guard : Guard) : List Mark :=
  (List.finRange 64).filter guard.contains

/-- Moves a cursor and, if it moved, starts afresh at its new offset. -/
def moveTo? (cursor next : Cursor) : Option (Cursor × Guard) :=
  (cursor.moveTo? next).map fun moved => (moved, clear moved.offset)

end Guard

end TextScan
