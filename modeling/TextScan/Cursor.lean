import TextScan.Text

/-!
# Cursors

A cursor is a place in a text, counted in bytes and in characters, together with the number of
characters of the last move.  Recognition works on a copy and moves the cursor only at the end:
`moveTo?` refuses a move that makes no progress, so that an empty match is a failure.

Characters are counted in 64 bits.  A cursor may be given any count to start with, so the count
can wrap around within a short text; `Cursor.Counts` says that it does not.
-/

namespace TextScan

/-- A place in a text: bytes before it, characters before it, characters of the last move.  The
offset only serves to find the place in the text, which no offset beyond its size does; the two
counts are added to and subtracted, and wrap around. -/
structure Cursor where
  offset : Nat
  index : UInt64
  moved : UInt64
  deriving DecidableEq

namespace Cursor

def start : Cursor :=
  ⟨0, 0, 0⟩

/-! ### Counting -/

/-- How far apart two counts are, the larger less the smaller. -/
def distance (first second : UInt64) : UInt64 :=
  if first ≤ second then second - first else first - second

/-- From the cursor on the characters of the text are counted without a wrap. -/
def Counts (cursor : Cursor) (text : Text) : Prop :=
  cursor.index.toNat + text.length < UInt64.size

instance (cursor : Cursor) (text : Text) : Decidable (cursor.Counts text) :=
  inferInstanceAs (Decidable (cursor.index.toNat + text.length < UInt64.size))

section Counts

variable {cursor : Cursor} {text : Text}

theorem Counts.of_length_le {whole : Text} (h : cursor.Counts whole)
    (hle : text.length ≤ whole.length) : cursor.Counts text :=
  Nat.lt_of_le_of_lt (Nat.add_le_add_left hle _) h

theorem Counts.toNat_length (h : cursor.Counts text) :
    (UInt64.ofNat text.length).toNat = text.length :=
  UInt64.toNat_ofNat_of_lt' (Nat.lt_of_le_of_lt (Nat.le_add_left _ _) h)

/-- The index past a counted text is the sum without the wrap. -/
theorem Counts.toNat_index (h : cursor.Counts text) :
    (cursor.index + .ofNat text.length).toNat = cursor.index.toNat + text.length := by
  rw [UInt64.toNat_add, h.toNat_length]
  exact Nat.mod_eq_of_lt h

/-- Without a wrap the distance between the counts before and after a text is its length. -/
theorem Counts.distance_eq (h : cursor.Counts text) :
    distance cursor.index (cursor.index + .ofNat text.length) = .ofNat text.length := by
  have hle : cursor.index ≤ cursor.index + .ofNat text.length := by
    rw [UInt64.le_iff_toNat_le, h.toNat_index]
    exact Nat.le_add_right _ _
  rw [distance, if_pos hle, UInt64.add_comm, UInt64.add_sub_cancel]

end Counts

/-! ### Moving -/

/-- Moves to another place, in either direction.  There is no move to the same offset. -/
def moveTo? (cursor next : Cursor) : Option Cursor :=
  if next.offset = cursor.offset then none
  else some ⟨next.offset, next.index, distance cursor.index next.index⟩

theorem offset_of_moveTo? {cursor next moved : Cursor}
    (h : cursor.moveTo? next = some moved) : moved.offset = next.offset := by
  rw [moveTo?] at h
  split at h
  · contradiction
  · rw [← Option.some.inj h]

/-- Moves forward to another place and takes the text between the two. -/
def takeTo? (text : Text) (cursor next : Cursor) : Option (Span × Cursor) :=
  match text.slice cursor.offset next.offset with
  | none => none
  | some span => (cursor.moveTo? next).map fun moved => (span, moved)

/-- Moves past one character, whatever the text holds there. -/
def stepOver (cursor : Cursor) (c : Char) : Cursor :=
  ⟨cursor.offset + c.utf8Size, cursor.index + 1, 1⟩

/-- Moves past the characters of a run one by one. -/
def walk (cursor : Cursor) (run : Text) : Cursor :=
  run.foldl stepOver cursor

/-- Moves past as many bytes as the character takes, with the text found there. -/
def takeOver? (text : Text) (cursor : Cursor) (c : Char) : Option (Span × Cursor) :=
  cursor.takeTo? text (cursor.stepOver c)

def isAtEnd (text : Text) (cursor : Cursor) : Bool :=
  cursor.offset == text.byteSize

def peek (text : Text) (cursor : Cursor) : Option Char :=
  (text.remaining cursor.offset).head?

/-- The cursor as messages show it: by its byte offset. -/
def display (cursor : Cursor) : String :=
  toString cursor.offset

end Cursor

end TextScan
