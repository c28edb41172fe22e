import TextScan.Character.LowerCase
import TextScan.Text

/-!
# Words

Comparison of a fixed word with the front of a text, letter for letter or ignoring case.  Without
regard to case two characters agree when their lower cases do, so the run that is found has as
many characters as the word but maybe another number of bytes.
-/

namespace TextScan

/-- Whether letter case counts when a word is compared. -/
inductive CaseMode where
  | strict
  | ignored
  deriving DecidableEq

/-- Whether a character of the text may stand for a character of the word. -/
def CaseMode.agrees (mode : CaseMode) (found expected : Char) : Bool :=
  found == expected ||
    match mode with
    | .strict => false
    | .ignored => sameLetter found expected

namespace Text

/-- The run at the front of a text that spells the word. -/
def spelled? (mode : CaseMode) : (word : Text) → Text → Option Text
  | [], _ => some []
  | _ :: _, [] => none
  | expected :: word, found :: rest =>
    if mode.agrees found expected then (spelled? mode word rest).map (found :: ·) else none

/-- The first `fuel` back-to-back spellings of the word at the front of a text, or all if there
are fewer. -/
def spellings (mode : CaseMode) (word : Text) : (fuel : Nat) → Text → Text
  | 0, _ => []
  | fuel + 1, text =>
    match Text.spelled? mode word text with
    | none => []
    | some [] => []
    | some run => run ++ spellings mode word fuel (text.drop run.length)

/-- All back-to-back spellings of the word at the front of a text.  Each takes a character at
least, so there are no more than characters; the empty word is never repeated. -/
def repeated (mode : CaseMode) (word text : Text) : Text :=
  spellings mode word text.length text

end Text

end TextScan
