import TextScan.Character.Class
import TextScan.Text

/-!
# Probes

A probe answers, character by character, whether a run goes on.  Its answer may depend on the
characters it was asked about before, as that of a counter does; the history stands for whatever
state the probe keeps.
-/

namespace TextScan

/-- Decides about a character, given the characters asked about before it, the latest first. -/
abbrev Probe := List Char → Char → Bool

namespace Probe

def char (accepts : Char → Bool) : Probe :=
  fun _ c => accepts c

def ofClass (cls : CharClass) : Probe :=
  char cls.contains

def is (expected : Char) : Probe :=
  char (· == expected)

/-- Whether a character is in a set.  In small sets the characters are compared one by one. -/
def among : (set : Text) → Char → Bool
  | [], _ => false
  | [first], c => c == first
  | [first, second], c => c == first || c == second
  | [first, second, third], c => c == first || c == second || c == third
  | set, c => set.contains c

def oneOf (set : Text) : Probe :=
  char (among set)

/-- Accepts the code points between two characters, both included. -/
def between (low high : Char) : Probe :=
  char fun c => low ≤ c && c ≤ high

/-- Accepts the first `count` characters it is asked about, whatever they are. -/
def first (count : Nat) : Probe :=
  fun asked _ => asked.length < count

def not (probe : Probe) : Probe :=
  fun asked c => !probe asked c

/-- Asks about the characters of a text in order until one is refused.  Returns the run of the
accepted ones and the history after the last question. -/
def scan (probe : Probe) (asked : List Char) : Text → Text × List Char
  | [] => ([], asked)
  | c :: rest =>
    if probe asked c then
      let result := probe.scan (c :: asked) rest
      (c :: result.1, result.2)
    else ([], c :: asked)

/-- The run that a fresh probe accepts at the front of a text. -/
def run (probe : Probe) (text : Text) : Text :=
  (probe.scan [] text).1

/-- All sizes of a set are treated alike. -/
theorem among_iff {set : Text} {c : Char} : among set c = true ↔ c ∈ set := by
  match set with
  | [] => simp [among]
  | [first] => simp [among]
  | [first, second] => simp [among]
  | [first, second, third] => simp [among, or_assoc]
  | first :: second :: third :: fourth :: more => simp [among]

/-- The accepted run is the beginning of the text. -/
theorem scan_isPrefix (probe : Probe) (asked : List Char) (text : Text) :
    (probe.scan asked text).1 <+: text := by
  induction text generalizing asked with
  | nil => simp [scan]
  | cons c rest ih =>
    rw [scan]
    split
    · exact List.cons_prefix_cons.2 ⟨rfl, ih (c :: asked)⟩
    · simp

/-- The accepted run of a fresh probe is the beginning of the text. -/
theorem run_isPrefix (probe : Probe) (text : Text) : probe.run text <+: text :=
  probe.scan_isPrefix [] text

/-- A probe without memory accepts the longest run of characters that it accepts one by one. -/
theorem run_char (accepts : Char → Bool) (text : Text) :
    (char accepts).run text = text.takeWhile accepts := by
  have h : ∀ asked, ((char accepts).scan asked text).1 = text.takeWhile accepts := by
    induction text with
    | nil => simp [scan]
    | cons c rest ih =>
      intro asked
      rw [scan, List.takeWhile_cons]
      by_cases hc : accepts c <;> simp [char, hc]
      exact ih (c :: asked)
  exact h []

end Probe

end TextScan
